import Mathlib
import DiceRoller.Proofs.Quoting
import DiceRoller.Proofs.Report
import DiceRoller.Text.Lines

/-!
A text on one line is read back.

In a text of lines no slash stands behind a blank (`Lined`).  So a slash behind a blank on the
one line stands for a newline, and the lines are found again (`unslashed_flatMap`).
-/

namespace DiceRoller
namespace Text

/-- A text without line breaks. -/
def Unbroken (s : String) : Prop := ∀ c, isLineBreak c = true → Lacks c s

instance (s : String) : Decidable (Unbroken s) :=
  decidable_of_iff (∀ c ∈ s.toList, ¬ isLineBreak c = true)
    ⟨fun h c hc hmem => h c hmem hc, fun h c hmem hc => h c hc hmem⟩

namespace Unbroken

variable {s t : String}

theorem append (hs : Unbroken s) (ht : Unbroken t) : Unbroken (s ++ t) :=
  fun c hc => (hs c hc).append (ht c hc)

theorem intercalate (hs : Unbroken s) {ls : List String} (h : ∀ l ∈ ls, Unbroken l) :
    Unbroken (s.intercalate ls) :=
  fun c hc => (hs c hc).intercalate fun l hl => h l hl c hc

end Unbroken

theorem Solid.unbroken {s : String} (h : Solid s) : Unbroken s :=
  fun c hc hmem => h c hmem (isBlank_of_isLineBreak hc)

theorem unbroken_onOneLine (text : String) : Unbroken (onOneLine text) := by
  refine Unbroken.intercalate (by decide) fun l hl c hc hmem => ?_
  obtain ⟨cs, hcs, rfl⟩ := List.mem_map.1 hl
  rw [String.toList_ofList] at hmem
  exact not_isLineBreak_of_mem_lines cs hcs c hmem hc

/-- Every line break is written as an escape. -/
theorem isPrintable_of_isLineBreak {c : Char} (h : isLineBreak c = true) :
    isPrintable c = false := by
  have hcode : c.toNat < 0x20 ∨ c.toNat = 0x85 ∨ c.toNat = 0x2028 ∨ c.toNat = 0x2029 := by
    simp only [isLineBreak, Bool.or_eq_true, Bool.and_eq_true, decide_eq_true_eq,
      beq_iff_eq] at h
    omega
  unfold isPrintable
  rcases hcode with hcode | hcode | hcode | hcode
  · rw [if_pos (by omega), Bool.and_eq_false_iff]
    exact Or.inl (decide_eq_false (by omega))
  · rw [hcode]
    decide +kernel
  · rw [hcode]
    decide +kernel
  · rw [hcode]
    decide +kernel

theorem unbroken_quoted (text : String) : Unbroken (quoted text) := by
  intro c hc hmem
  have hprintable := isPrintable_quoted text c hmem
  rw [isPrintable_of_isLineBreak hc] at hprintable
  cases hprintable

/-! ## Slashes for newlines -/

/-- A newline as a slash between blanks, and any other character as itself. -/
def slashed (c : Char) : List Char := if c = '\n' then [' ', '/', ' '] else [c]

/-- A text with a slash between blanks in the place of each newline. -/
def withSlashes (s : String) : String := String.ofList (s.toList.flatMap slashed)

/-- A text with a newline in the place of each slash between blanks. -/
def unslashed : List Char → List Char
  | [] => []
  | ' ' :: '/' :: ' ' :: cs => '\n' :: unslashed cs
  | c :: cs => c :: unslashed cs

/-- The second character is no slash if the first is a blank. -/
def SlashApart (c d : Char) : Prop := c = ' ' → d ≠ '/'

instance : DecidableRel SlashApart := fun _ _ => inferInstanceAs (Decidable (_ → _))

theorem slashed_of_ne {c : Char} (h : c ≠ '\n') : slashed c = [c] := if_neg h

theorem head_of_head_slashed {cs : List Char}
    (h : (cs.flatMap slashed).head? = some '/') : cs.head? = some '/' := by
  cases cs with
  | nil => simp at h
  | cons c cs =>
      by_cases hc : c = '\n'
      · rw [hc] at h
        exact absurd (Option.some.inj h) (by decide)
      · rw [List.flatMap_cons, slashed_of_ne hc] at h
        exact h

theorem unslashed_cons {c : Char} {cs : List Char} (h : c = ' ' → cs.head? ≠ some '/') :
    unslashed (c :: cs) = c :: unslashed cs := by
  rw [unslashed]
  rintro ds hc rfl
  exact h hc rfl

/-- The newlines are found again if no slash stood behind a blank. -/
theorem unslashed_flatMap {cs : List Char} (h : cs.IsChain SlashApart) :
    unslashed (cs.flatMap slashed) = cs := by
  induction cs with
  | nil => rfl
  | cons c cs ih =>
      obtain ⟨hnext, hrest⟩ := List.isChain_cons.1 h
      by_cases hc : c = '\n'
      · rw [hc]
        show '\n' :: unslashed (cs.flatMap slashed) = _
        rw [ih hrest]
      · have hslash : c = ' ' → (cs.flatMap slashed).head? ≠ some '/' := by
          intro hblank hhead
          exact hnext '/' (head_of_head_slashed hhead) hblank rfl
        rw [List.flatMap_cons, slashed_of_ne hc, List.singleton_append, unslashed_cons hslash,
          ih hrest]

/-! ## Texts of lines -/

/-- Decided at the one character, and not over the type of characters. -/
instance decidableExistsMemOption (p : Char → Prop) [DecidablePred p] (o : Option Char) :
    Decidable (∃ c ∈ o, p c) :=
  Option.decidableExistsMem o

/-- A text of lines, a newline behind each but the last, which is not empty.  No slash stands
behind a blank, nor at the start, so that the text may itself stand behind one. -/
structure Lined (s : String) : Prop where
  newline : ∀ c ∈ s.toList, isLineBreak c = true → c = '\n'
  slash : (' ' :: s.toList).IsChain SlashApart
  ending : ∃ c ∈ s.toList.getLast?, c ≠ '\n'

instance (s : String) : Decidable (Lined s) :=
  decidable_of_iff ((∀ c ∈ s.toList, isLineBreak c = true → c = '\n') ∧
      (' ' :: s.toList).IsChain SlashApart ∧ ∃ c ∈ s.toList.getLast?, c ≠ '\n')
    ⟨fun ⟨hnewline, hslash, hending⟩ => ⟨hnewline, hslash, hending⟩,
      fun h => ⟨h.newline, h.slash, h.ending⟩⟩

namespace Lined

variable {s t : String}

theorem ending_append (h : Lined t) (s : String) :
    ∃ c ∈ (s ++ t).toList.getLast?, c ≠ '\n' := by
  obtain ⟨c, hc, hne⟩ := h.ending
  refine ⟨c, ?_, hne⟩
  rw [String.toList_append, List.getLast?_append, Option.mem_def.1 hc]
  rfl

theorem append (hs : Lined s) (ht : Lined t) : Lined (s ++ t) := by
  obtain ⟨hhead, htail⟩ := List.isChain_cons.1 ht.slash
  refine ⟨fun c hc => ?_, ?_, ht.ending_append s⟩
  · rw [String.toList_append] at hc
    rcases List.mem_append.1 hc with hc | hc
    · exact hs.newline c hc
    · exact ht.newline c hc
  · rw [String.toList_append, ← List.cons_append]
    exact List.isChain_append.2 ⟨hs.slash, htail, fun c _ d hd _ => hhead d hd rfl⟩

theorem newline_append (h : Lined t) : Lined ("\n" ++ t) := by
  obtain ⟨-, htail⟩ := List.isChain_cons.1 h.slash
  have hchars : ("\n" ++ t).toList = '\n' :: t.toList := String.toList_append
  refine ⟨fun c hc hbreak => ?_, ?_, h.ending_append "\n"⟩
  · rw [hchars] at hc
    rcases List.mem_cons.1 hc with rfl | hc
    · rfl
    · exact h.newline c hc hbreak
  · rw [hchars, List.isChain_cons_cons, List.isChain_cons]
    exact ⟨fun _ => by decide, fun d _ hd => absurd hd (by decide), htail⟩

end Lined

/-- A text without blanks is a text of one line, unless it is empty or a slash opens it. -/
theorem Solid.lined {s : String} (h : Solid s) (hopen : ∃ c ∈ s.toList.head?, c ≠ '/') :
    Lined s := by
  obtain ⟨c, hc, hne⟩ := hopen
  have hslash : s.toList.IsChain SlashApart := by
    refine (List.pairwise_of_forall_mem_list fun d hd e _ hblank => ?_).isChain
    exact absurd (by rw [hblank]; decide) (h d hd)
  refine ⟨fun d hd hbreak => absurd (isBlank_of_isLineBreak hbreak) (h d hd), ?_, ?_⟩
  · refine List.isChain_cons.2 ⟨fun d hd _ => ?_, hslash⟩
    rwa [← Option.some.inj (hc.symm.trans hd)]
  · have hchars : s.toList ≠ [] := List.ne_nil_of_mem (List.mem_of_head? hc)
    refine ⟨_, List.getLast?_eq_some_getLast hchars, fun hlast => ?_⟩
    exact h _ (List.getLast_mem hchars) (by rw [hlast]; decide)

theorem lined_toString (n : Int) : Lined (toString n) := by
  have hlacks : Lacks '/' (toString n) := lacks_toString (by decide) (by decide) n
  have hhead := List.head?_eq_some_head (toString_ne_nil n)
  refine (solid_toString n).lined ⟨_, hhead, fun hslash => ?_⟩
  exact hlacks (hslash ▸ List.head_mem (toString_ne_nil n))

/-! ## One line -/

theorem intercalate_openLine (sep : List Char) (c : Char) (ls : List (List Char)) :
    sep.intercalate (openLine c ls) = c :: sep.intercalate ls := by
  cases ls with
  | nil => rfl
  | cons l ls =>
      cases ls with
      | nil => rfl
      | cons k ls => rw [openLine, List.intercalate_cons_cons, List.intercalate_cons_cons]; rfl

theorem intercalate_lines {cs : List Char} (hbreak : ∀ c ∈ cs, isLineBreak c = true → c = '\n')
    (hend : cs.getLast? ≠ some '\n') :
    [' ', '/', ' '].intercalate (lines cs) = cs.flatMap slashed := by
  induction cs with
  | nil => rfl
  | cons c cs ih =>
      have hrest : cs ≠ [] → [' ', '/', ' '].intercalate (lines cs) = cs.flatMap slashed := by
        intro hne
        rw [List.getLast?_cons_of_ne_nil hne] at hend
        exact ih (fun d hd => hbreak d (List.mem_cons_of_mem c hd)) hend
      by_cases hc : c = '\n'
      · have hne : cs ≠ [] := by
          rintro rfl
          exact hend (congrArg some hc)
        rw [hc, lines_newline_cons, List.intercalate_cons_of_ne_nil (lines_ne_nil hne), hrest hne]
        rfl
      · have hnot : ¬ isLineBreak c = true := fun h => hc (hbreak c List.mem_cons_self h)
        rw [lines_cons_of_not hnot, intercalate_openLine, List.flatMap_cons, slashed_of_ne hc]
        by_cases hne : cs = []
        · rw [hne]
          rfl
        · rw [hrest hne]
          rfl

/-- On one line a slash stands for each newline. -/
theorem Lined.onOneLine_eq {s : String} (h : Lined s) : onOneLine s = withSlashes s := by
  have hend : s.toList.getLast? ≠ some '\n' := by
    obtain ⟨c, hc, hne⟩ := h.ending
    exact fun hlast => hne (Option.some.inj (hc.symm.trans hlast))
  have hlines : (lines s.toList).map (String.toList ∘ String.ofList) = lines s.toList :=
    (List.map_congr_left fun cs _ => String.toList_ofList).trans (List.map_id _)
  have hchars : (onOneLine s).toList = s.toList.flatMap slashed := by
    rw [onOneLine, String.toList_intercalate, List.map_map, hlines,
      ← intercalate_lines h.newline hend]
    rfl
  rw [withSlashes, ← hchars, String.ofList_toList]

/-- The one line tells the text. -/
theorem Lined.withSlashes_inj {s t : String} (hs : Lined s) (ht : Lined t) :
    withSlashes s = withSlashes t ↔ s = t := by
  refine ⟨fun h => ?_, congrArg withSlashes⟩
  have hchars := String.ofList_injective h
  have hback := congrArg unslashed hchars
  have hread : ∀ {u : String}, Lined u → unslashed (u.toList.flatMap slashed) = u.toList :=
    fun hu => unslashed_flatMap (List.isChain_cons.1 hu.slash).2
  rw [hread hs, hread ht] at hback
  exact String.toList_inj.1 hback

end Text
end DiceRoller
