import Mathlib
import DiceRoller.Text.Quoted

/-!
Quoted text is read back, whatever text follows it.

A character and its escape begin differently, and an escape says by its second character how
many hexadecimal digits follow, so the first character of a quoted text is read off it
(`readChar_escaped`).  The quotation mark is never written as itself inside, so the text ends
where it first stands (`quotedWith_append_inj`).  None of this depends on which characters are
shown as themselves.
-/

namespace DiceRoller
namespace Text

/-! ## Reading an escape -/

def hexValue (c : Char) : Nat :=
  if c.isDigit then c.toNat - 48 else c.toNat - 87

def hexNumber (cs : List Char) : Nat :=
  cs.foldl (fun n c => n * 16 + hexValue c) 0

theorem hexValue_digitChar : ∀ d, d < 16 → hexValue (Nat.digitChar d) = d := by
  decide

theorem hexNumber_append (cs : List Char) (c : Char) :
    hexNumber (cs ++ [c]) = hexNumber cs * 16 + hexValue c := by
  rw [hexNumber, List.foldl_append]
  rfl

theorem hexNumber_hexDigits {width n : Nat} (h : n < 16 ^ width) :
    hexNumber (hexDigits width n) = n := by
  induction width generalizing n with
  | zero =>
      obtain rfl : n = 0 := by omega
      rfl
  | succ width ih =>
      have hlast : n % 16 < 16 := Nat.mod_lt n (by decide)
      have hfront : n / 16 < 16 ^ width := by
        rw [Nat.pow_succ] at h
        omega
      rw [hexDigits, hexNumber_append, ih hfront, hexValue_digitChar _ hlast]
      omega

/-- The character of an escape by code point of `width` digits, and what follows it. -/
def readCode (width : Nat) (cs : List Char) : Char × List Char :=
  (Char.ofNat (hexNumber (cs.take width)), cs.drop width)

theorem readCode_hexDigits {width : Nat} {c : Char} (h : c.toNat < 16 ^ width)
    (rest : List Char) : readCode width (hexDigits width c.toNat ++ rest) = (c, rest) := by
  have hlength := length_hexDigits width c.toNat
  rw [readCode, List.take_left' hlength, List.drop_left' hlength, hexNumber_hexDigits h,
    Char.ofNat_toNat]

/-- The character of an escape, which starts behind the backslash, and what follows it. -/
def readEscape : List Char → Option (Char × List Char)
  | [] => none
  | 'n' :: cs => some ('\n', cs)
  | 'r' :: cs => some ('\r', cs)
  | 't' :: cs => some ('\t', cs)
  | 'x' :: cs => some (readCode 2 cs)
  | 'u' :: cs => some (readCode 4 cs)
  | 'U' :: cs => some (readCode 8 cs)
  | c :: cs => some (c, cs)

/-- The first character of a text within quotation marks, and what follows it. -/
def readChar : List Char → Option (Char × List Char)
  | [] => none
  | '\\' :: cs => readEscape cs
  | c :: cs => some (c, cs)

theorem readChar_cons_of_ne {c : Char} (h : c ≠ '\\') (cs : List Char) :
    readChar (c :: cs) = some (c, cs) := by
  rw [readChar]
  exact h

theorem exists_codeEscape (c : Char) :
    ∃ cs, codeEscape c = '\\' :: cs ∧ ∀ rest, readEscape (cs ++ rest) = some (c, rest) := by
  -- Eight digits are as many as a word of 32 bits has.
  have hc : c.toNat < 16 ^ 8 := c.val.toNat_lt
  simp only [codeEscape]
  split
  · exact ⟨_, rfl, fun rest => congrArg some (readCode_hexDigits (by omega) rest)⟩
  · split
    · exact ⟨_, rfl, fun rest => congrArg some (readCode_hexDigits (by omega) rest)⟩
    · exact ⟨_, rfl, fun rest => congrArg some (readCode_hexDigits hc rest)⟩

/-! ## Reading a quoted text -/

def IsMark (c : Char) : Prop := c = '\'' ∨ c = '"'

theorem isMark_quotationMark (cs : List Char) : IsMark (quotationMark cs) := by
  unfold quotationMark
  split
  · exact Or.inr rfl
  · exact Or.inl rfl

section
variable {shown : Char → Bool} {mark : Char}

/-- A character stands for itself, if it is neither the mark nor the backslash, or is written as
an escape. -/
theorem escaped_cases (hmark : IsMark mark) (c : Char) :
    (c ≠ mark ∧ c ≠ '\\' ∧ escaped shown mark c = [c]) ∨
      ∃ cs, escaped shown mark c = '\\' :: cs ∧
        ∀ rest, readEscape (cs ++ rest) = some (c, rest) := by
  unfold escaped
  split
  · rename_i h
    have hc : c = '\'' ∨ c = '"' ∨ c = '\\' := by
      rcases (by simpa using h : c = mark ∨ c = '\\') with rfl | rfl
      · exact hmark.imp_right Or.inl
      · exact Or.inr (Or.inr rfl)
    refine Or.inr ⟨[c], rfl, fun rest => ?_⟩
    rcases hc with rfl | rfl | rfl <;> rfl
  · rename_i h
    have hc : c ≠ mark ∧ c ≠ '\\' := by simpa using h
    split
    · rename_i hnewline
      exact Or.inr ⟨['n'], rfl, fun rest => by rw [eq_of_beq hnewline]; rfl⟩
    · split
      · rename_i hreturn
        exact Or.inr ⟨['r'], rfl, fun rest => by rw [eq_of_beq hreturn]; rfl⟩
      · split
        · rename_i htab
          exact Or.inr ⟨['t'], rfl, fun rest => by rw [eq_of_beq htab]; rfl⟩
        · split
          · exact Or.inl ⟨hc.1, hc.2, rfl⟩
          · exact Or.inr (exists_codeEscape c)

theorem readChar_escaped (hmark : IsMark mark) (c : Char) (rest : List Char) :
    readChar (escaped shown mark c ++ rest) = some (c, rest) := by
  rcases escaped_cases hmark c with ⟨-, hslash, h⟩ | ⟨cs, h, hread⟩
  · rw [h]
    exact readChar_cons_of_ne hslash rest
  · rw [h]
    exact hread rest

/-- The mark is not written as itself. -/
theorem head_escaped_ne (hmark : IsMark mark) (c : Char) (rest : List Char) :
    (escaped shown mark c ++ rest).head? ≠ some mark := by
  rcases escaped_cases hmark c with ⟨hne, -, h⟩ | ⟨cs, h, -⟩
  · rw [h]
    exact fun he => hne (Option.some.inj he)
  · rw [h]
    rcases hmark with rfl | rfl
    · exact fun he => absurd (Option.some.inj he) (by decide)
    · exact fun he => absurd (Option.some.inj he) (by decide)

theorem escaped_append_inj (hmark : IsMark mark) {c d : Char} {x y : List Char}
    (h : escaped shown mark c ++ x = escaped shown mark d ++ y) : c = d ∧ x = y := by
  have hread := congrArg readChar h
  rw [readChar_escaped hmark, readChar_escaped hmark] at hread
  exact Prod.mk.inj (Option.some.inj hread)

/-- The characters end where the mark first stands as itself. -/
theorem flatMap_escaped_append_inj (hmark : IsMark mark) {cs ds x y : List Char}
    (h : cs.flatMap (escaped shown mark) ++ mark :: x =
      ds.flatMap (escaped shown mark) ++ mark :: y) : cs = ds ∧ x = y := by
  induction cs generalizing ds with
  | nil =>
      cases ds with
      | nil => exact ⟨rfl, (List.cons.inj h).2⟩
      | cons d ds =>
          rw [List.flatMap_cons, List.append_assoc] at h
          exact absurd (congrArg List.head? h.symm) (head_escaped_ne hmark d _)
  | cons c cs ih =>
      rw [List.flatMap_cons, List.append_assoc] at h
      cases ds with
      | nil => exact absurd (congrArg List.head? h) (head_escaped_ne hmark c _)
      | cons d ds =>
          rw [List.flatMap_cons, List.append_assoc] at h
          obtain ⟨rfl, hrest⟩ := escaped_append_inj hmark h
          obtain ⟨rfl, hxy⟩ := ih hrest
          exact ⟨rfl, hxy⟩

theorem quotedWith_append (cs x : List Char) :
    quotedWith shown cs ++ x =
      quotationMark cs :: (cs.flatMap (escaped shown (quotationMark cs)) ++
        quotationMark cs :: x) := by
  simp [quotedWith]

theorem quotedWith_append_inj {cs ds x y : List Char}
    (h : quotedWith shown cs ++ x = quotedWith shown ds ++ y) : cs = ds ∧ x = y := by
  rw [quotedWith_append, quotedWith_append] at h
  obtain ⟨hmark, hrest⟩ := List.cons.inj h
  rw [← hmark] at hrest
  exact flatMap_escaped_append_inj (isMark_quotationMark cs) hrest

theorem quotedBy_append_inj {s t x y : String}
    (h : quotedBy shown s ++ x = quotedBy shown t ++ y) : s = t ∧ x = y := by
  have hchars := congrArg String.toList h
  simp only [String.toList_append, quotedBy, String.toList_ofList] at hchars
  obtain ⟨hst, hxy⟩ := quotedWith_append_inj hchars
  exact ⟨String.toList_inj.1 hst, String.toList_inj.1 hxy⟩

end

/-! ## What a quoted text shows -/

theorem isPrintable_digitChar : ∀ d, d < 16 → isPrintable (Nat.digitChar d) = true := by
  decide

theorem isPrintable_hexDigits {width n : Nat} :
    ∀ c ∈ hexDigits width n, isPrintable c = true := by
  induction width generalizing n with
  | zero => simp [hexDigits]
  | succ width ih =>
      intro c hc
      rcases List.mem_append.1 hc with hc | hc
      · exact ih c hc
      · rw [List.mem_singleton.1 hc]
        exact isPrintable_digitChar _ (Nat.mod_lt n (by decide))

theorem isPrintable_codeEscape (c : Char) : ∀ d ∈ codeEscape c, isPrintable d = true := by
  have hslash : ∀ mark : Char, isPrintable mark = true → ∀ width n : Nat,
      ∀ d ∈ '\\' :: mark :: hexDigits width n, isPrintable d = true := fun mark hmark _ _ =>
    List.forall_mem_cons.2 ⟨rfl, List.forall_mem_cons.2 ⟨hmark, isPrintable_hexDigits⟩⟩
  simp only [codeEscape]
  split
  · exact hslash 'x' rfl _ _
  · split
    · exact hslash 'u' rfl _ _
    · exact hslash 'U' rfl _ _

theorem isPrintable_of_isMark {mark : Char} (h : IsMark mark) : isPrintable mark = true := by
  rcases h with rfl | rfl <;> rfl

/-- A character is shown as itself only if it is printable, and escapes are. -/
theorem isPrintable_escaped {mark : Char} (hmark : IsMark mark) (c : Char) :
    ∀ d ∈ escaped isPrintable mark c, isPrintable d = true := by
  have hpair : ∀ d, isPrintable d = true → ∀ e ∈ ['\\', d], isPrintable e = true := fun d hd =>
    List.forall_mem_cons.2 ⟨rfl, List.forall_mem_singleton.2 hd⟩
  unfold escaped
  split
  · rename_i h
    rcases (by simpa using h : c = mark ∨ c = '\\') with rfl | rfl
    · exact hpair c (isPrintable_of_isMark hmark)
    · exact hpair _ rfl
  · split
    · exact hpair 'n' rfl
    · split
      · exact hpair 'r' rfl
      · split
        · exact hpair 't' rfl
        · split
          · rename_i hshown
            exact List.forall_mem_singleton.2 hshown
          · exact isPrintable_codeEscape c

theorem isPrintable_quoted (s : String) : ∀ c ∈ (quoted s).toList, isPrintable c = true := by
  have hmark := isMark_quotationMark s.toList
  intro c hc
  rw [quoted, quotedBy, String.toList_ofList, quotedWith, List.cons_append, List.mem_cons,
    List.mem_append, List.mem_singleton, List.mem_flatMap] at hc
  rcases hc with rfl | ⟨d, -, hc⟩ | rfl
  · exact isPrintable_of_isMark hmark
  · exact isPrintable_escaped hmark d c hc
  · exact isPrintable_of_isMark hmark

end Text
end DiceRoller
