import DiceRoller.Selection

/-!
What rolled terms are worth.
-/

namespace DiceRoller

/-- A rolled term, the dice of it that count, and what it adds to the total. -/
structure Score where
  token : Rolled
  kept : List Die
  contribution : Int
  deriving DecidableEq, Repr

def Die.sum : List Die → Int
  | [] => 0
  | d :: ds => d.value + sum ds

theorem Die.sum_append (as bs : List Die) : Die.sum (as ++ bs) = Die.sum as + Die.sum bs := by
  induction as with
  | nil => simp [Die.sum]
  | cons a as ih => simp only [List.cons_append, Die.sum, ih, Int.add_assoc]

namespace Rolled

/-- A constant counts as it stands, a group by the dice that are kept. -/
def score : Rolled → Score
  | constant value => ⟨constant value, [], value⟩
  | dice ds keep =>
    let kept := selectDice ds keep
    ⟨dice ds keep, kept, Die.sum kept⟩

/-- Scoring a term does not change it. -/
@[simp] theorem score_token (r : Rolled) : r.score.token = r := by
  cases r <;> rfl

end Rolled

namespace Score

def total : List Score → Int
  | [] => 0
  | s :: ss => s.contribution + total ss

theorem total_append (as bs : List Score) : total (as ++ bs) = total as + total bs := by
  induction as with
  | nil => simp [total]
  | cons a as ih => simp only [List.cons_append, total, ih, Int.add_assoc]

end Score
end DiceRoller
