import DiceRoller.Proofs.Drawing

/-!
The dice that a rule keeps are the best choice with advantage and the worst with
disadvantage.

Dice in ascending order are cut in two, and a choice of as many dice cannot come to less
than the lower part (`Die.sum_take_le`).  What the choice leaves out is a choice as well, so
it cannot come to more than the upper part (`Die.sum_le_drop`).  A rule that was read never
keeps more dice than were rolled, so its cut falls between the ends of the order.
-/

namespace DiceRoller

/-! ## Dice in order -/

/-- A die moves past smaller ones only, so dice of one value keep their order. -/
theorem Die.filter_insert (v : Int) (d : Die) (ds : List Die) :
    (d.insert ds).filter (·.value = v) = (d :: ds).filter (·.value = v) := by
  induction ds with
  | nil => rfl
  | cons e es ih =>
      rw [Die.insert]
      split
      · rfl
      · rename_i hlt
        by_cases he : e.value = v
        · have hd : d.value ≠ v := by omega
          simp [ih, he, hd]
        · simp [List.filter_cons, ih, he]

theorem filter_ascending (v : Int) (ds : List Die) :
    (ascending ds).filter (·.value = v) = ds.filter (·.value = v) := by
  induction ds with
  | nil => rfl
  | cons d ds ih =>
      show (d.insert (ascending ds)).filter _ = _
      rw [Die.filter_insert, List.filter_cons, List.filter_cons, ih]

theorem value_le_of_cut {ds : List Die} {i : Nat} {x y : Die}
    (hx : x ∈ (ascending ds).take i) (hy : y ∈ (ascending ds).drop i) : x.value ≤ y.value := by
  have hsorted := ascending_sorted ds
  rw [← List.take_append_drop i (ascending ds), List.pairwise_append] at hsorted
  exact hsorted.2.2 x hx y hy

/-! ## Sums of choices -/

namespace Die

theorem sum_eq_sum_values (ds : List Die) : Die.sum ds = (ds.map Die.value).sum := by
  induction ds with
  | nil => rfl
  | cons d ds ih => rw [Die.sum, ih, List.map_cons, List.sum_cons]

theorem sum_perm {as bs : List Die} (h : as.Perm bs) : Die.sum as = Die.sum bs := by
  induction h with
  | nil => rfl
  | cons d _ ih => rw [Die.sum, Die.sum, ih]
  | swap d e ds =>
      simp only [Die.sum]
      omega
  | trans _ _ ih ih' => exact ih.trans ih'

theorem sum_take_succ {d : Die} {ds : List Die} {n : Nat}
    (hle : ∀ e ∈ ds, d.value ≤ e.value) (hn : n < ds.length) :
    d.value + Die.sum (ds.take n) ≤ Die.sum (ds.take (n + 1)) := by
  have hlast := hle ds[n] (List.getElem_mem hn)
  rw [List.take_succ_eq_append_getElem hn, Die.sum_append]
  simp only [Die.sum]
  omega

theorem sum_take_le_of_sublist {ds picked : List Die}
    (hsorted : ds.Pairwise (fun a b => a.value ≤ b.value)) (h : picked.Sublist ds) :
    Die.sum (ds.take picked.length) ≤ Die.sum picked := by
  induction h with
  | slnil => exact Int.le_refl 0
  | @cons picked ds d hsub ih =>
      -- `d` is passed over, so one die behind it is counted in its place.
      obtain ⟨hd, hsorted⟩ := List.pairwise_cons.1 hsorted
      have hrest := ih hsorted
      cases picked with
      | nil => exact Int.le_refl 0
      | cons p ps =>
          have hlength := hsub.length_le
          have hsucc := sum_take_succ hd (Nat.lt_of_succ_le hlength)
          rw [List.length_cons, List.take_succ_cons, Die.sum]
          exact Int.le_trans hsucc hrest
  | @cons_cons picked ds d hsub ih =>
      have hrest := ih (List.pairwise_cons.1 hsorted).2
      rw [List.length_cons, List.take_succ_cons, Die.sum, Die.sum]
      omega

/-- A choice comes to no less than as many dice from the lower end. -/
theorem sum_take_le {ds picked : List Die} (h : picked.Subperm ds) :
    Die.sum ((ascending ds).take picked.length) ≤ Die.sum picked := by
  obtain ⟨chosen, hperm, hsub⟩ := (ascending_perm ds).subperm_left.2 h
  rw [← hperm.length_eq, ← sum_perm hperm]
  exact sum_take_le_of_sublist (ascending_sorted ds) hsub

/-- A choice comes to no more than as many dice from the upper end: what it leaves out
comes to no less than as many from the lower end. -/
theorem sum_le_drop {ds picked : List Die} (h : picked.Subperm ds) :
    Die.sum picked ≤ Die.sum ((ascending ds).drop (ds.length - picked.length)) := by
  obtain ⟨chosen, hchosen, hsub⟩ := h
  obtain ⟨rest, hsplit⟩ := hsub.exists_perm_append
  have hperm : ds.Perm (picked ++ rest) := hsplit.trans (hchosen.append_right rest)
  have hlength : ds.length - picked.length = rest.length := by
    rw [hperm.length_eq, List.length_append, Nat.add_sub_cancel_left]
  have hrest : rest.Subperm ds :=
    hperm.symm.subperm_left.1 (List.sublist_append_right picked rest).subperm
  -- The rest and the lower part are equally many, and both totals are that of all dice.
  have hlower := sum_take_le hrest
  have hsum := sum_perm hperm
  have hcut := sum_perm (ascending_perm ds)
  rw [← List.take_append_drop rest.length (ascending ds), Die.sum_append] at hcut
  rw [Die.sum_append] at hsum
  rw [hlength]
  omega

end Die

/-! ## What a rule keeps -/

namespace Keep

variable {ds : List Die} {take : Int}

theorem select_advantage (hnonneg : 0 ≤ take) (hle : take ≤ ds.length) :
    (Keep.mk .advantage take).select ds = (ascending ds).drop (ds.length - take.toNat) := by
  have hplace : (ds.length : Int) - take = (ds.length - take.toNat : Nat) := by omega
  show (ascending ds).drop (cutPlace ds.length (ds.length - take)) = _
  rw [hplace, cutPlace_of_le (Nat.sub_le _ _)]

theorem select_disadvantage (hnonneg : 0 ≤ take) (hle : take ≤ ds.length) :
    (Keep.mk .disadvantage take).select ds = (ascending ds).take take.toNat := by
  have hplace : take = (take.toNat : Nat) := by omega
  show (ascending ds).take (cutPlace ds.length take) = _
  rw [hplace, cutPlace_of_le (by omega), Int.toNat_natCast]

end Keep

/-- Whether a value is no better for the player than another one. -/
def Favour.NoBetter : Favour → Int → Int → Prop
  | advantage, a, b => a ≤ b
  | disadvantage, a, b => b ≤ a

instance (f : Favour) (a b : Int) : Decidable (f.NoBetter a b) :=
  match f with
  | .advantage => inferInstanceAs (Decidable (a ≤ b))
  | .disadvantage => inferInstanceAs (Decidable (b ≤ a))

namespace Keep

variable {k : Keep} {ds : List Die}

theorem length_select (hpos : 1 ≤ k.take) (hle : k.take ≤ ds.length) :
    ((k.select ds).length : Int) = k.take := by
  obtain ⟨favour, take⟩ := k
  cases favour with
  | advantage =>
      rw [select_advantage (Int.le_of_lt hpos) hle, List.length_drop, length_ascending]
      dsimp only at hpos hle ⊢
      omega
  | disadvantage =>
      rw [select_disadvantage (Int.le_of_lt hpos) hle, List.length_take, length_ascending]
      dsimp only at hpos hle ⊢
      omega

theorem select_sublist (k : Keep) (ds : List Die) : (k.select ds).Sublist (ascending ds) := by
  obtain ⟨favour, take⟩ := k
  cases favour with
  | advantage => exact List.drop_sublist _ _
  | disadvantage => exact List.take_sublist _ _

theorem select_sorted (k : Keep) (ds : List Die) :
    (k.select ds).Pairwise (fun a b => a.value ≤ b.value) :=
  (ascending_sorted ds).sublist (select_sublist k ds)

theorem filter_select_sublist (k : Keep) (ds : List Die) (v : Int) :
    ((k.select ds).filter (·.value = v)).Sublist (ds.filter (·.value = v)) := by
  rw [← filter_ascending v ds]
  exact (select_sublist k ds).filter _

/-- The other dice are no better than any that is kept. -/
theorem exists_rest (hpos : 1 ≤ k.take) (hle : k.take ≤ ds.length) :
    ∃ rest, (k.select ds ++ rest).Perm ds ∧
      ∀ x ∈ rest, ∀ y ∈ k.select ds, k.favour.NoBetter x.value y.value := by
  obtain ⟨favour, take⟩ := k
  cases favour with
  | advantage =>
      rw [select_advantage (Int.le_of_lt hpos) hle]
      refine ⟨(ascending ds).take (ds.length - take.toNat), ?_, ?_⟩
      · apply List.perm_append_comm.trans
        show (List.take _ _ ++ List.drop (ds.length - take.toNat) _).Perm ds
        rw [List.take_append_drop]
        exact ascending_perm ds
      · intro x hx y hy
        exact value_le_of_cut hx hy
  | disadvantage =>
      rw [select_disadvantage (Int.le_of_lt hpos) hle]
      refine ⟨(ascending ds).drop take.toNat, ?_, ?_⟩
      · rw [List.take_append_drop]
        exact ascending_perm ds
      · intro x hx y hy
        exact value_le_of_cut hy hx

/-- No choice of as many dice comes to anything better. -/
theorem sum_select {picked : List Die} (hpos : 1 ≤ k.take) (hle : k.take ≤ ds.length)
    (hpick : picked.Subperm ds) (hlength : (picked.length : Int) = k.take) :
    k.favour.NoBetter (Die.sum picked) (Die.sum (k.select ds)) := by
  obtain ⟨favour, take⟩ := k
  have htake : take.toNat = picked.length := by
    dsimp only at hlength
    omega
  cases favour with
  | advantage =>
      rw [select_advantage (Int.le_of_lt hpos) hle, htake]
      exact Die.sum_le_drop hpick
  | disadvantage =>
      rw [select_disadvantage (Int.le_of_lt hpos) hle, htake]
      exact Die.sum_take_le hpick

end Keep

/-! ## Rules of a request -/

/-- A rule that was read keeps some of the dice that were rolled, and no more than those. -/
theorem take_of_rollText {σ : Type} {g : Generator σ} {text : String} {s s' : σ} {o : Outcome}
    (h : rollText g text s = (.ok o, s')) {score : Score} (hscore : score ∈ o.scores)
    {ds : List Die} {k : Keep} (htoken : score.token = .dice ds (some k)) :
    score = (Rolled.dice ds (some k)).score ∧ 1 ≤ k.take ∧ k.take ≤ ds.length := by
  obtain ⟨r, rs, hread, hroll, rfl⟩ := rollText_eq_ok h
  obtain ⟨token, hmem, rfl⟩ := List.mem_map.1 hscore
  rw [Rolled.score_token] at htoken
  subst htoken
  obtain ⟨t, ht, hshape⟩ := Rolled.exists_term (Term.shape_of_rollAll hroll) hmem
  obtain ⟨count, sides, rfl, hlength⟩ := Rolled.dice_of_shape hshape
  obtain ⟨⟨hcount, -⟩, -, hkeep⟩ := (Request.valid_of_read hread).2 _ ht
  obtain ⟨hpos, -, hle⟩ := hkeep k rfl
  exact ⟨rfl, hpos, by omega⟩

/-- A rule keeps as many dice as it says, in ascending order and those of one value in the
order of their rolling.  With advantage no die left out is above one that is kept and no
other choice of as many dice comes to more.  With disadvantage it is the other way round.
Every rule in the outcome of a text keeps at least one die and at most all of those rolled,
so all this holds of it, and its cut is not counted from the end. -/
theorem keep_is_best_choice :
    (∀ (ds : List Die) (k : Keep), 1 ≤ k.take → k.take ≤ ds.length →
      ((selectDice ds (some k)).length : Int) = k.take ∧
      (∃ rest, (selectDice ds (some k) ++ rest).Perm ds ∧
        ∀ x ∈ rest, ∀ y ∈ selectDice ds (some k), k.favour.NoBetter x.value y.value) ∧
      (selectDice ds (some k)).Pairwise (fun a b => a.value ≤ b.value) ∧
      (∀ v, ((selectDice ds (some k)).filter (·.value = v)).Sublist
        (ds.filter (·.value = v))) ∧
      ∀ picked : List Die, picked.Subperm ds → (picked.length : Int) = k.take →
        k.favour.NoBetter (Die.sum picked) (Rolled.dice ds (some k)).score.contribution) ∧
    ∀ (σ : Type) (g : Generator σ) (text : String) (s s' : σ) (o : Outcome),
      rollText g text s = (.ok o, s') →
      ∀ score ∈ o.scores, ∀ ds k, score.token = .dice ds (some k) →
        score = (Rolled.dice ds (some k)).score ∧ 1 ≤ k.take ∧ k.take ≤ ds.length ∧
          0 ≤ (ds.length : Int) - k.take := by
  constructor
  · intro ds k hpos hle
    exact ⟨Keep.length_select hpos hle, Keep.exists_rest hpos hle, Keep.select_sorted k ds,
      Keep.filter_select_sublist k ds,
      fun _ hpick hlength => Keep.sum_select hpos hle hpick hlength⟩
  · intro σ g text s s' o h score hscore ds k htoken
    obtain ⟨heq, hpos, hle⟩ := take_of_rollText h hscore htoken
    exact ⟨heq, hpos, hle, by omega⟩

/-- The statement at three dice of two kinds with a tie, and at a roll of two dice that are
both kept. -/
theorem keep_is_best_choice_of_tied :
    let ds : List Die := [⟨6, 4⟩, ⟨20, 4⟩, ⟨6, 1⟩]
    let rolled : Rolled := .dice [⟨6, 3⟩, ⟨6, 2⟩] (some ⟨.disadvantage, 2⟩)
    let o : Outcome :=
      ⟨⟨"2d6:dis2", [.dice 2 6 (some ⟨.disadvantage, 2⟩)]⟩, [rolled.score], 5⟩
    selectDice ds (some ⟨.advantage, 1⟩) = [⟨20, 4⟩] ∧
      (∀ picked : List Die, picked.Subperm ds → (picked.length : Int) = 1 →
        Favour.advantage.NoBetter (Die.sum picked) 4) ∧
      rollText (Generator.script []) "2d6:dis2" [3, 2] = (.ok o, []) ∧
      (1 : Int) ≤ 2 ∧ (2 : Int) ≤ [Die.mk 6 3, Die.mk 6 2].length := by
  intro ds rolled o
  have hbest := keep_is_best_choice.1 ds ⟨.advantage, 1⟩ (by decide) (by decide)
  have hroll : rollText (Generator.script []) "2d6:dis2" [3, 2] = (.ok o, []) := by decide
  have hcut := keep_is_best_choice.2 _ _ _ _ _ o hroll rolled.score List.mem_cons_self _ _ rfl
  exact ⟨rfl, hbest.2.2.2.2, hroll, hcut.2.1, hcut.2.2.1⟩

end DiceRoller
