import DiceRoller.Proofs.Selection

/-!
The values of the dice that are kept.

Values in ascending order are known from the values alone (`map_value_ascending`), although
among dice of one value the order of rolling decides which of them is kept.  So a rule keeps the
same values in whatever order the dice were rolled, and totals do not depend on order.  For the
same reason counting the sides of the dice from the other end turns the order of the values
round, and advantage becomes disadvantage.
-/

namespace DiceRoller

theorem map_value_ascending {ds : List Die} {vs : List Int} (h : vs.Perm (ds.map Die.value))
    (hsorted : vs.Pairwise (· ≤ ·)) : (ascending ds).map Die.value = vs := by
  have hvalues : ((ascending ds).map Die.value).Pairwise (· ≤ ·) :=
    List.pairwise_map.2 (ascending_sorted ds)
  have hperm : ((ascending ds).map Die.value).Perm vs :=
    ((ascending_perm ds).map Die.value).trans h.symm
  exact hperm.eq_of_pairwise (fun _ _ _ _ => Int.le_antisymm) hvalues hsorted

/-! ## Order -/

theorem map_value_ascending_of_perm {ds es : List Die} (h : ds.Perm es) :
    (ascending ds).map Die.value = (ascending es).map Die.value := by
  apply map_value_ascending
  · exact ((ascending_perm es).trans h.symm).map Die.value
  · exact List.pairwise_map.2 (ascending_sorted es)

theorem Keep.map_value_select_of_perm (k : Keep) {ds es : List Die} (h : ds.Perm es) :
    (k.select ds).map Die.value = (k.select es).map Die.value := by
  obtain ⟨favour, take⟩ := k
  have hvalues := map_value_ascending_of_perm h
  have hlength := h.length_eq
  cases favour with
  | advantage =>
      show ((ascending ds).drop (cutPlace ds.length (ds.length - take))).map _ =
        ((ascending es).drop (cutPlace es.length (es.length - take))).map _
      rw [List.map_drop, List.map_drop, hvalues, hlength]
  | disadvantage =>
      show ((ascending ds).take (cutPlace ds.length take)).map _ =
        ((ascending es).take (cutPlace es.length take)).map _
      rw [List.map_take, List.map_take, hvalues, hlength]

theorem sum_selectDice_of_perm {ds es : List Die} (h : ds.Perm es) (keep : Option Keep) :
    Die.sum (selectDice ds keep) = Die.sum (selectDice es keep) := by
  cases keep with
  | none => exact Die.sum_perm h
  | some k =>
      rw [selectDice, selectDice, Die.sum_eq_sum_values, Die.sum_eq_sum_values,
        k.map_value_select_of_perm h]

theorem Score.total_eq_sum (ss : List Score) : total ss = (ss.map contribution).sum := by
  induction ss with
  | nil => rfl
  | cons s ss ih => rw [total, ih, List.map_cons, List.sum_cons]

namespace Rolled

/-- One rolled term twice, with the dice of a group in any order. -/
inductive Reordered : Rolled → Rolled → Prop
  | constant {value : Int} : Reordered (.constant value) (.constant value)
  | dice {ds es : List Die} {keep : Option Keep} (h : ds.Perm es) :
      Reordered (.dice ds keep) (.dice es keep)

theorem contribution_of_reordered {r q : Rolled} (h : r.Reordered q) :
    r.score.contribution = q.score.contribution := by
  cases h with
  | constant => rfl
  | dice h => exact sum_selectDice_of_perm h _

theorem contributions_of_reordered {rs qs : List Rolled} (h : List.Forall₂ Reordered rs qs) :
    (rs.map score).map Score.contribution = (qs.map score).map Score.contribution := by
  induction h with
  | nil => rfl
  | cons h _ ih =>
      simp only [List.map_cons]
      rw [contribution_of_reordered h, ih]

end Rolled

/-- Neither the order of the dice in a group nor that of the terms has a say in the total.  A
group comes to the same in any order of its dice, and under a rule it keeps the same values,
whatever number of dice the rule keeps.  The scores are those of the terms in their order. -/
theorem order_changes_no_total :
    (∀ ds es : List Die, ds.Perm es →
      (∀ keep, (Rolled.dice ds keep).score.contribution =
        (Rolled.dice es keep).score.contribution) ∧
      ∀ k, (Rolled.dice ds (some k)).score.kept.map Die.value =
        (Rolled.dice es (some k)).score.kept.map Die.value) ∧
    ∀ rs ps qs : List Rolled, List.Forall₂ Rolled.Reordered rs ps → ps.Perm qs →
      (qs.map Rolled.score).map Score.token = qs ∧
      Score.total (qs.map Rolled.score) = Score.total (rs.map Rolled.score) := by
  refine ⟨fun ds es h => ⟨fun keep => ?_, fun k => ?_⟩, fun rs ps qs hdice horder => ⟨?_, ?_⟩⟩
  · exact sum_selectDice_of_perm h keep
  · exact k.map_value_select_of_perm h
  · rw [List.map_map]
    exact List.map_id'' Rolled.score_token qs
  · have hsum := ((horder.map Rolled.score).map Score.contribution).sum_eq
    rw [Score.total_eq_sum, Score.total_eq_sum, Rolled.contributions_of_reordered hdice, hsum]

/-- The statement at a tie, where the order decides which die is kept, and at a rule that keeps
a negative number of dice. -/
theorem order_changes_no_total_of_tied :
    let tied : List Die := [⟨6, 4⟩, ⟨20, 4⟩, ⟨6, 1⟩]
    let best : Keep := ⟨.advantage, 1⟩
    let odd : Option Keep := some ⟨.disadvantage, -1⟩
    let rs : List Rolled := [.dice tied (some best), .constant (-2), .dice tied odd]
    let qs : List Rolled := [.constant (-2), .dice tied.reverse odd,
      .dice tied.reverse (some best)]
    selectDice tied (some best) = [⟨20, 4⟩] ∧ selectDice tied.reverse (some best) = [⟨6, 4⟩] ∧
      (selectDice tied (some best)).map Die.value =
        (selectDice tied.reverse (some best)).map Die.value ∧
      (qs.map Rolled.score).map Score.contribution = [-2, 5, 4] ∧
      Score.total (qs.map Rolled.score) = Score.total (rs.map Rolled.score) := by
  intro tied best odd rs qs
  have hdice : tied.Perm tied.reverse := tied.reverse_perm.symm
  let ps : List Rolled := [.dice tied.reverse (some best), .constant (-2),
    .dice tied.reverse odd]
  have hreordered : List.Forall₂ Rolled.Reordered rs ps :=
    .cons (.dice hdice) (.cons .constant (.cons (.dice hdice) .nil))
  have horder : ps.Perm qs := by decide
  obtain ⟨hgroup, htotal⟩ := order_changes_no_total
  exact ⟨rfl, rfl, (hgroup tied _ hdice).2 best, by decide, (htotal rs ps qs hreordered horder).2⟩

/-! ## Advantage and disadvantage -/

/-- The order of the values, and among dice of one value that of their rolling. -/
structure Die.InOrder (es ds : List Die) : Prop where
  perm : es.Perm ds
  sorted : es.Pairwise (fun a b => a.value ≤ b.value)
  stable : ∀ v, es.filter (·.value = v) = ds.filter (·.value = v)

theorem inOrder_ascending (ds : List Die) : Die.InOrder (ascending ds) ds :=
  ⟨ascending_perm ds, ascending_sorted ds, fun v => filter_ascending v ds⟩

namespace Die

/-- The die with its values counted from the other end of 1 to `s`. -/
def mirror (s : Int) (d : Die) : Die := { d with value := s + 1 - d.value }

theorem sum_map_mirror (s : Int) (ds : List Die) :
    Die.sum (ds.map (mirror s)) = ds.length * (s + 1) - Die.sum ds := by
  induction ds with
  | nil => simp [Die.sum]
  | cons d ds ih =>
      have hvalue : (d.mirror s).value = s + 1 - d.value := rfl
      have hlength : ((d :: ds).length : Int) = ds.length + 1 := by simp
      rw [List.map_cons, Die.sum, Die.sum, ih, hvalue, hlength, Int.add_mul]
      omega

end Die

/-- The lowest die becomes the highest. -/
theorem map_value_ascending_mirror (s : Int) (ds : List Die) :
    (ascending (ds.map (Die.mirror s))).map Die.value =
      (((ascending ds).map (Die.mirror s)).map Die.value).reverse := by
  apply map_value_ascending
  · have hperm := ((ascending_perm ds).map (Die.mirror s)).map Die.value
    exact (List.reverse_perm _).trans hperm
  · rw [List.pairwise_reverse, List.pairwise_map, List.pairwise_map]
    refine (ascending_sorted ds).imp fun {a b} hab => ?_
    show s + 1 - b.value ≤ s + 1 - a.value
    omega

namespace Keep

variable {ds : List Die} {take : Int}

theorem select_append_select (hnonneg : 0 ≤ take) (hle : take ≤ ds.length) :
    (Keep.mk .disadvantage (ds.length - take)).select ds ++
      (Keep.mk .advantage take).select ds = ascending ds := by
  have hplace : ((ds.length : Int) - take).toNat = ds.length - take.toNat := by omega
  rw [select_disadvantage (by omega) (by omega), select_advantage hnonneg hle, hplace]
  exact List.take_append_drop _ _

theorem map_value_select_mirror (s : Int) (hnonneg : 0 ≤ take) (hle : take ≤ ds.length) :
    ((Keep.mk .advantage take).select (ds.map (Die.mirror s))).map Die.value =
      ((((Keep.mk .disadvantage take).select ds).map (Die.mirror s)).map Die.value).reverse := by
  have hlength : (ds.map (Die.mirror s)).length = ds.length := List.length_map _
  have hcut : ds.length - (ds.length - take.toNat) = take.toNat := by omega
  rw [select_advantage hnonneg (by rwa [hlength]), select_disadvantage hnonneg hle,
    List.map_drop, map_value_ascending_mirror, List.drop_reverse, List.length_map,
    List.length_map, length_ascending, hlength, hcut, List.map_take, List.map_take]

theorem sum_select_mirror (s : Int) (hnonneg : 0 ≤ take) (hle : take ≤ ds.length) :
    Die.sum ((Keep.mk .advantage take).select (ds.map (Die.mirror s))) =
      take * (s + 1) - Die.sum ((Keep.mk .disadvantage take).select ds) := by
  have hlength : (((Keep.mk .disadvantage take).select ds).length : Int) = take := by
    rw [select_disadvantage hnonneg hle, List.length_take, length_ascending]
    omega
  rw [Die.sum_eq_sum_values, map_value_select_mirror s hnonneg hle, List.sum_reverse,
    ← Die.sum_eq_sum_values, Die.sum_map_mirror, hlength]

end Keep

/-- What disadvantage keeps of all but `take` dice, followed by what advantage keeps of `take`,
is all dice in order.  Nothing is lost or kept twice, and both come to the plain sum together.
If the values are counted from the other end, advantage comes to what disadvantage came to,
counted from there too. -/
theorem advantage_mirrors_disadvantage (ds : List Die) (take : Int) (hnonneg : 0 ≤ take)
    (hle : take ≤ ds.length) :
    let low : Keep := ⟨.disadvantage, ds.length - take⟩
    let high : Keep := ⟨.advantage, take⟩
    selectDice ds (some low) ++ selectDice ds (some high) = ascending ds ∧
      Die.InOrder (selectDice ds (some low) ++ selectDice ds (some high)) ds ∧
      (Rolled.dice ds (some low)).score.contribution +
        (Rolled.dice ds (some high)).score.contribution = Die.sum ds ∧
      ∀ s, (Rolled.dice (ds.map (Die.mirror s)) (some high)).score.contribution =
        take * (s + 1) - (Rolled.dice ds (some ⟨.disadvantage, take⟩)).score.contribution := by
  intro low high
  have hall : selectDice ds (some low) ++ selectDice ds (some high) = ascending ds :=
    Keep.select_append_select hnonneg hle
  refine ⟨hall, ?_, ?_, fun s => Keep.sum_select_mirror s hnonneg hle⟩
  · rw [hall]
    exact inOrder_ascending ds
  · have hsum := Die.sum_perm (ascending_perm ds)
    rw [← hall, Die.sum_append] at hsum
    exact hsum

/-- The statement at a tie that the cut divides, with values from 1 to 6. -/
theorem advantage_mirrors_disadvantage_of_tied :
    let ds : List Die := [⟨6, 4⟩, ⟨20, 4⟩, ⟨6, 1⟩]
    (0 : Int) ≤ 1 ∧ (1 : Int) ≤ ds.length ∧
      selectDice ds (some ⟨.disadvantage, 2⟩) = [⟨6, 1⟩, ⟨6, 4⟩] ∧
      selectDice ds (some ⟨.advantage, 1⟩) = [⟨20, 4⟩] ∧
      Die.InOrder [⟨6, 1⟩, ⟨6, 4⟩, ⟨20, 4⟩] ds ∧
      selectDice (ds.map (Die.mirror 6)) (some ⟨.advantage, 1⟩) = [⟨6, 6⟩] ∧
      (Rolled.dice (ds.map (Die.mirror 6)) (some ⟨.advantage, 1⟩)).score.contribution =
        1 * (6 + 1) - 1 := by
  intro ds
  have hdual := advantage_mirrors_disadvantage ds 1 (by decide) (by decide)
  exact ⟨by decide, by decide, rfl, rfl, hdual.2.1, rfl, hdual.2.2.2 6⟩

end DiceRoller
