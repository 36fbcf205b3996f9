import DiceRoller.Proofs.Selection

/-!
A better die never makes a result worse.

Raising one die can change its place in the ascending order and with it which dice are kept.
The order as a whole is still no lower at any place (`ascending_atMost`): inserting the larger
of two dice into the higher of two orders keeps it the higher one.  A rule cuts both orders at
the same place, so what it keeps of the one is place by place no better than what it keeps of
the other, whatever the rule.
-/

namespace DiceRoller

namespace Die

def AtMost (d e : Die) : Prop := d.value ≤ e.value

theorem insert_of_le {d : Die} {ds : List Die} (h : ∀ e ∈ ds, d.value ≤ e.value) :
    d.insert ds = d :: ds := by
  cases ds with
  | nil => rfl
  | cons e es => rw [insert, if_pos (h e List.mem_cons_self)]

theorem insert_atMost {ds es : List Die} (h : List.Forall₂ AtMost ds es)
    (hds : ds.Pairwise (fun a b => a.value ≤ b.value))
    (hes : es.Pairwise (fun a b => a.value ≤ b.value)) {x y : Die} (hxy : x.AtMost y) :
    List.Forall₂ AtMost (x.insert ds) (y.insert es) := by
  induction h generalizing x y with
  | nil => exact .cons hxy .nil
  | @cons d e ds es hde hrest ih =>
      obtain ⟨hd, hds'⟩ := List.pairwise_cons.1 hds
      obtain ⟨he, hes'⟩ := List.pairwise_cons.1 hes
      unfold AtMost at hde hxy
      rw [insert, insert]
      by_cases hxd : x.value ≤ d.value <;> by_cases hye : y.value ≤ e.value
      · rw [if_pos hxd, if_pos hye]
        exact .cons hxy (.cons hde hrest)
      · -- `y` passes `e`, so `d` comes to stand over a die of the rest or over `y`.
        rw [if_pos hxd, if_neg hye, ← insert_of_le hd]
        have hdy : d.value ≤ y.value := by omega
        have hxe : x.value ≤ e.value := by omega
        exact .cons hxe (ih hds' hes' hdy)
      · rw [if_neg hxd, if_pos hye, ← insert_of_le he]
        have hdy : d.value ≤ y.value := by omega
        have hxe : x.value ≤ e.value := by omega
        exact .cons hdy (ih hds' hes' hxe)
      · rw [if_neg hxd, if_neg hye]
        exact .cons hde (ih hds' hes' hxy)

theorem sum_atMost {ds es : List Die} (h : List.Forall₂ AtMost ds es) :
    Die.sum ds ≤ Die.sum es := by
  induction h with
  | nil => exact Int.le_refl 0
  | cons hde _ ih => exact Int.add_le_add hde ih

end Die

/-- The dice at each place of the order are no better. -/
theorem ascending_atMost {ds es : List Die} (h : List.Forall₂ Die.AtMost ds es) :
    List.Forall₂ Die.AtMost (ascending ds) (ascending es) := by
  induction h with
  | nil => exact .nil
  | @cons d e ds es hde _ ih =>
      exact Die.insert_atMost ih (ascending_sorted ds) (ascending_sorted es) hde

theorem selectDice_atMost {ds es : List Die} (h : List.Forall₂ Die.AtMost ds es)
    (keep : Option Keep) :
    List.Forall₂ Die.AtMost (selectDice ds keep) (selectDice es keep) := by
  cases keep with
  | none => exact h
  | some k =>
      obtain ⟨favour, take⟩ := k
      have horder := ascending_atMost h
      have hlength := h.length_eq
      cases favour with
      | advantage =>
          show List.Forall₂ _ ((ascending ds).drop (cutPlace ds.length (ds.length - take)))
            ((ascending es).drop (cutPlace es.length (es.length - take)))
          rw [← hlength]
          exact List.forall₂_drop _ horder
      | disadvantage =>
          show List.Forall₂ _ ((ascending ds).take (cutPlace ds.length take))
            ((ascending es).take (cutPlace es.length take))
          rw [← hlength]
          exact List.forall₂_take _ horder

/-- Rolled terms of one form, as many dice under the same rule, of which the first show
nothing better at any place. -/
inductive Rolled.AtMost : Rolled → Rolled → Prop
  | constant {v w : Int} (h : v ≤ w) : AtMost (.constant v) (.constant w)
  | dice {ds es : List Die} {keep : Option Keep} (h : List.Forall₂ Die.AtMost ds es) :
      AtMost (.dice ds keep) (.dice es keep)

theorem Rolled.contribution_atMost {r q : Rolled} (h : r.AtMost q) :
    r.score.contribution ≤ q.score.contribution := by
  cases h with
  | constant h => exact h
  | dice h => exact Die.sum_atMost (selectDice_atMost h _)

theorem Score.total_le_total {ss ts : List Score}
    (h : List.Forall₂ (fun s t => s.contribution ≤ t.contribution) ss ts) :
    Score.total ss ≤ Score.total ts := by
  induction h with
  | nil => exact Int.le_refl 0
  | cons hst _ ih => exact Int.add_le_add hst ih

/-- If no constant and no die of the first list is above the one at its place in the second,
then no contribution is, and neither is the total.  The rules may keep any number of dice,
also none, more than there are or a negative number. -/
theorem better_dice_score_no_less {rs qs : List Rolled} (h : List.Forall₂ Rolled.AtMost rs qs) :
    List.Forall₂ (fun s t => s.contribution ≤ t.contribution) (rs.map Rolled.score)
        (qs.map Rolled.score) ∧
      Score.total (rs.map Rolled.score) ≤ Score.total (qs.map Rolled.score) := by
  have hscores : List.Forall₂ (fun s t => s.contribution ≤ t.contribution)
      (rs.map Rolled.score) (qs.map Rolled.score) := by
    rw [List.forall₂_map_left_iff, List.forall₂_map_right_iff]
    exact h.imp fun _ _ => Rolled.contribution_atMost
  exact ⟨hscores, Score.total_le_total hscores⟩

/-- The statement at a constant, at dice of which the lowest becomes the highest and at a rule
that keeps a negative number of dice. -/
theorem better_dice_score_no_less_of_raised :
    let rs : List Rolled :=
      [.constant (-2), .dice [⟨6, 4⟩, ⟨6, 1⟩, ⟨6, 4⟩] (some ⟨.disadvantage, 2⟩),
        .dice [⟨8, 3⟩, ⟨8, 7⟩] (some ⟨.disadvantage, -1⟩)]
    let qs : List Rolled :=
      [.constant 3, .dice [⟨6, 4⟩, ⟨20, 19⟩, ⟨6, 5⟩] (some ⟨.disadvantage, 2⟩),
        .dice [⟨8, 8⟩, ⟨8, 7⟩] (some ⟨.disadvantage, -1⟩)]
    List.Forall₂ Rolled.AtMost rs qs ∧
      (rs.map Rolled.score).map Score.contribution = [-2, 5, 3] ∧
      (qs.map Rolled.score).map Score.contribution = [3, 9, 7] ∧
      Score.total (rs.map Rolled.score) ≤ Score.total (qs.map Rolled.score) := by
  intro rs qs
  have hlow : List.Forall₂ Die.AtMost [⟨6, 4⟩, ⟨6, 1⟩, ⟨6, 4⟩] [⟨6, 4⟩, ⟨20, 19⟩, ⟨6, 5⟩] := by
    simp [Die.AtMost]
  have hnegative : List.Forall₂ Die.AtMost [⟨8, 3⟩, ⟨8, 7⟩] [⟨8, 8⟩, ⟨8, 7⟩] := by
    simp [Die.AtMost]
  have h : List.Forall₂ Rolled.AtMost rs qs :=
    .cons (.constant (by decide)) (.cons (.dice hlow) (.cons (.dice hnegative) .nil))
  exact ⟨h, by decide, by decide, (better_dice_score_no_less h).2⟩

end DiceRoller
