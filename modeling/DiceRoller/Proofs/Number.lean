import DiceRoller.Number
import DiceRoller.Text.Split
import Mathlib

/-!
What a number of a request is read as.

The look at the length of a numeral before its value is computed refuses nothing
that the bounds would not refuse, and it names the same issue (`read_of_numeral`).
So a numeral is read by its value alone.
-/

namespace DiceRoller

namespace Text

theorem digitsValue_cons (c : Char) (ds : List Char) :
    digitsValue (c :: ds) = 10 ^ ds.length * (c.toNat - 48) + digitsValue ds := by
  rw [digitsValue, Nat.ofDigitChars_cons, Nat.ofDigitChars_eq_ofDigitChars_zero,
    Nat.mul_zero, Nat.zero_add]
  rfl

theorem toNat_of_isDigit {c : Char} (h : c.isDigit = true) :
    48 ≤ c.toNat ∧ c.toNat ≤ 57 := by
  simp only [Char.isDigit, Bool.and_eq_true, decide_eq_true_eq, ge_iff_le,
    UInt32.le_iff_toNat_le] at h
  exact h

theorem isNumeral_iff {ds : List Char} :
    isNumeral ds = true ↔ ds ≠ [] ∧ ∀ c ∈ ds, c.isDigit = true := by
  rw [isNumeral, Bool.and_eq_true, Bool.not_eq_true', List.isEmpty_eq_false_iff,
    List.all_eq_true]

theorem toNat_ne_of_ne {c d : Char} (h : c ≠ d) : c.toNat ≠ d.toNat :=
  fun e => h (Char.toNat_inj.1 e)

/-- A numeral without leading zeros is as large as its length says. -/
theorem pow_le_digitsValue {c : Char} {ds : List Char}
    (hc : c.isDigit = true) (hne : c ≠ '0') :
    10 ^ ds.length ≤ digitsValue (c :: ds) := by
  have hge := toNat_of_isDigit hc
  have hzero : c.toNat ≠ 48 := toNat_ne_of_ne hne
  have hpos : 1 ≤ c.toNat - 48 := by omega
  have hmul : 10 ^ ds.length * 1 ≤ 10 ^ ds.length * (c.toNat - 48) :=
    Nat.mul_le_mul_left _ hpos
  rw [digitsValue_cons]
  omega

theorem digitsValue_zeros_append (n : Nat) (ds : List Char) :
    digitsValue (List.replicate n '0' ++ ds) = digitsValue ds := by
  rw [digitsValue, Nat.ofDigitChars_append, Nat.ofDigitChars_replicate_zero,
    Nat.mul_zero]
  rfl

/-- The significant digits of a numeral are a single zero or do not start with
one. -/
theorem significant_cases {ds : List Char} (h : ∀ c ∈ ds, c.isDigit = true) :
    significant ds = ['0'] ∨
      ∃ c rest, significant ds = c :: rest ∧ c.isDigit = true ∧ c ≠ '0' := by
  unfold significant
  cases hdrop : ds.dropWhile (· == '0') with
  | nil => exact Or.inl rfl
  | cons c rest =>
      refine Or.inr ⟨c, rest, rfl, ?_, ?_⟩
      · exact h c ((List.dropWhile_suffix _).subset (hdrop ▸ List.mem_cons_self))
      · have hhead : (cutWhile (· == '0') ds).2.head? = some c := by
          rw [cutWhile, hdrop]
          rfl
        simpa using head_cutWhile hhead

end Text

namespace Bounds

/-- The number of a numeral and its sign. -/
def signedValue (negative : Bool) (ds : List Char) : Int :=
  if negative then -(Text.digitsValue ds : Int) else Text.digitsValue ds

theorem check_eq_ok_iff {b : Bounds} {v n : Int} :
    b.check v = .ok n ↔ n = v ∧ v ≠ 0 ∧ b.least ≤ v ∧ v ≤ b.greatest := by
  unfold check
  split
  · simp; omega
  · split
    · simp; omega
    · split
      · simp; omega
      · simp only [Except.ok.injEq]
        omega

/-- The digits of the bounds are enough to write the larger of them down. -/
theorem lt_pow_digits {b : Bounds} (h : b.least ≤ b.greatest) :
    max b.greatest (-b.least) < 10 ^ b.digits := by
  have hmax : 0 ≤ max b.greatest (-b.least) := by omega
  obtain ⟨m, hm⟩ := Int.eq_ofNat_of_zero_le hmax
  have hlen : b.digits = m.repr.length := by
    rw [digits, hm, Int.toString_eq_repr, Int.repr_eq_if, if_pos (Int.natCast_nonneg m),
      Int.toNat_natCast]
  have hlt : m < 10 ^ m.repr.length :=
    (Nat.length_repr_le_iff Nat.length_repr_pos).1 (Nat.le_refl _)
  rw [hm, hlen]
  exact_mod_cast hlt

/-- A numeral with more significant digits than the bounds have is out of bounds on
both sides. -/
theorem lt_digitsValue_of_digits_lt {b : Bounds} (h : b.least ≤ b.greatest) {ds : List Char}
    (hds : ∀ c ∈ ds, c.isDigit = true) (hlong : b.digits < (Text.significant ds).length) :
    max b.greatest (-b.least) < Text.digitsValue ds := by
  have hbound := lt_pow_digits h
  have hpos : 0 < b.digits := by
    rw [digits, Int.toString_eq_repr, Int.repr_eq_if]
    split
    · exact Nat.length_repr_pos
    · rw [String.length_append]
      omega
  rcases Text.significant_cases hds with hzero | ⟨c, rest, hsig, hc, hne⟩
  · rw [hzero] at hlong
    simp only [List.length_singleton] at hlong
    omega
  · have hpow : 10 ^ b.digits ≤ 10 ^ rest.length := by
      rw [hsig, List.length_cons] at hlong
      exact Nat.pow_le_pow_right (by omega) (by omega)
    have hvalue : 10 ^ rest.length ≤ Text.digitsValue ds := by
      rw [← Text.digitsValue_significant ds, hsig]
      exact Text.pow_le_digitsValue hc hne
    have hle : ((10 ^ b.digits : Nat) : Int) ≤ Text.digitsValue ds := by
      exact_mod_cast Nat.le_trans hpow hvalue
    push_cast at hle
    omega

theorem minusAllowed_of_splitSign {minusAllowed : Bool} {cs ds : List Char}
    (h : splitSign minusAllowed cs = (true, ds)) : minusAllowed = true := by
  cases cs with
  | nil => simp [splitSign] at h
  | cons c cs =>
      rw [splitSign] at h
      by_cases hplus : (c == '+') = true
      · simp [hplus] at h
      · by_cases hminus : (c == '-' && minusAllowed) = true
        · exact (Bool.and_eq_true_iff.1 hminus).2
        · simp [hplus, hminus] at h

/-- A numeral is read by its value, whatever its length. -/
theorem read_of_numeral {b : Bounds} (h : b.least ≤ b.greatest) {text : String}
    {negative : Bool} {ds : List Char}
    (hsign : splitSign b.signed text.toList = (negative, ds)) (hds : Text.isNumeral ds = true) :
    b.read text = b.check (signedValue negative ds) := by
  obtain ⟨hsome, hdigit⟩ := Text.isNumeral_iff.1 hds
  have hne : text.isEmpty = false := by
    rw [Bool.eq_false_iff]
    intro hempty
    rw [String.isEmpty_iff.1 hempty] at hsign
    exact hsome (Prod.mk.inj hsign).2.symm
  have hminus : negative = true → b.least < 0 := by
    intro hneg
    have hallowed := minusAllowed_of_splitSign (hneg ▸ hsign)
    simpa [signed] using hallowed
  rw [read, hne, hsign]
  simp only [Bool.false_eq_true, if_false, hds, Bool.not_true]
  by_cases hlong : b.digits < (Text.significant ds).length
  · have hlarge := lt_digitsValue_of_digits_lt h hdigit hlong
    rw [if_pos hlong]
    cases negative with
    | false =>
        simp only [signedValue, Bool.false_eq_true, if_false]
        rw [check, if_pos (by omega)]
    | true =>
        have hleast := hminus rfl
        simp only [signedValue, if_true]
        rw [check, if_neg (by omega), if_pos (by omega)]
  · rw [if_neg hlong, Text.digitsValue_significant]
    rfl

end Bounds
end DiceRoller
