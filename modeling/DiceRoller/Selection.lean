import DiceRoller.Dice

/-!
Which dice of a group count.  The dice are put in ascending order, dice of equal
value staying in the order of their rolling, and one end of the order is cut off.

Putting dice in order is insertion, by structural recursion: a group is small,
and the order has to be computed inside proofs.
-/

namespace DiceRoller

/-- Put a die in front of the first die of `ds` that is not below it. -/
def Die.insert (d : Die) : List Die → List Die
  | [] => [d]
  | e :: es => if d.value ≤ e.value then d :: e :: es else e :: d.insert es

/-- The dice in ascending order of value. -/
def ascending (ds : List Die) : List Die :=
  ds.foldr Die.insert []

theorem Die.insert_perm (d : Die) (ds : List Die) : (d.insert ds).Perm (d :: ds) := by
  induction ds with
  | nil => exact List.Perm.refl _
  | cons e es ih =>
      unfold Die.insert
      split
      · exact List.Perm.refl _
      · exact (ih.cons e).trans (List.Perm.swap d e es)

theorem ascending_perm (ds : List Die) : (ascending ds).Perm ds := by
  induction ds with
  | nil => exact List.Perm.refl _
  | cons d ds ih => exact (Die.insert_perm d (ascending ds)).trans (ih.cons d)

theorem length_ascending (ds : List Die) : (ascending ds).length = ds.length :=
  (ascending_perm ds).length_eq

theorem Die.insert_sorted (d : Die) {ds : List Die}
    (h : ds.Pairwise (fun a b => a.value ≤ b.value)) :
    (d.insert ds).Pairwise (fun a b => a.value ≤ b.value) := by
  induction ds with
  | nil => simp [Die.insert]
  | cons e es ih =>
      obtain ⟨he, hes⟩ := List.pairwise_cons.1 h
      unfold Die.insert
      split
      · rename_i hde
        refine List.pairwise_cons.2 ⟨fun x hx => ?_, h⟩
        rcases List.mem_cons.1 hx with rfl | hx
        · exact hde
        · exact Int.le_trans hde (he x hx)
      · rename_i hde
        refine List.pairwise_cons.2 ⟨fun x hx => ?_, ih hes⟩
        rcases List.mem_cons.1 ((Die.insert_perm d es).mem_iff.1 hx) with rfl | hx
        · omega
        · exact he x hx

theorem ascending_sorted (ds : List Die) :
    (ascending ds).Pairwise (fun a b => a.value ≤ b.value) := by
  induction ds with
  | nil => exact List.Pairwise.nil
  | cons d ds ih => exact Die.insert_sorted d ih

/-- Where a cut at place `i` falls in a list of `n`.  A negative place is counted
from the end, and a place beyond an end is moved to that end. -/
def cutPlace (n : Nat) (i : Int) : Nat :=
  if i < 0 then (n + i).toNat else min i.toNat n

theorem cutPlace_of_le {n k : Nat} (h : k ≤ n) : cutPlace n k = k := by
  rw [cutPlace, if_neg (by omega), Int.toNat_natCast, Nat.min_eq_left h]

/-- The dice that a rule keeps, in ascending order.  Advantage cuts `take` places
before the end and keeps what follows, disadvantage cuts at `take` and keeps what
comes before. -/
def Keep.select (k : Keep) (ds : List Die) : List Die :=
  let n := ds.length
  match k.favour with
  | .advantage => (ascending ds).drop (cutPlace n (n - k.take))
  | .disadvantage => (ascending ds).take (cutPlace n k.take)

/-- The dice of a group that count: all of them in the order of their rolling, if
there is no rule. -/
def selectDice (ds : List Die) : Option Keep → List Die
  | none => ds
  | some keep => keep.select ds

end DiceRoller
