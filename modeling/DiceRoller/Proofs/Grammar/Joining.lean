import DiceRoller.Proofs.Grammar.Refusal
import DiceRoller.Proofs.Grammar.Sentence

/-!
Reading two texts with blanks between them.

The words of such a text are those of the first text and then those of the second
(`wordsOf_append`), and words are read in order up to the first that is refused
(`readAll_append`, `readAll_eq_error_iff`).  So the two texts are read one after the other,
and a fault in the first hides the second.
-/

namespace DiceRoller

def Break.text (w : Break) : String := String.ofList w.chars

theorem Text.words_append_break (as bs : List Char) (w : Break) :
    words (as ++ (w.chars ++ bs)) = words as ++ words bs := by
  obtain ⟨⟨chars, hblank⟩, hne⟩ := w
  obtain ⟨c, g, rfl⟩ := List.exists_cons_of_ne_nil hne
  have hc : isBlank c = true := hblank c List.mem_cons_self
  have hg : ∀ d ∈ g, isBlank d = true := fun d hd => hblank d (List.mem_cons_of_mem c hd)
  show words (as ++ c :: (g ++ bs)) = _
  rw [words_append hc, words_gap_append hg]

/-! ## Words in order -/

namespace Term

theorem readAll_append (xs ys : List String) :
    readAll (xs ++ ys) = (readAll xs).bind fun ts => (readAll ys).map (ts ++ ·) := by
  induction xs with
  | nil =>
      show readAll ys = (readAll ys).map ([] ++ ·)
      cases readAll ys <;> rfl
  | cons x xs ih =>
      rw [List.cons_append, readAll, readAll, ih]
      cases Term.read x with
      | error fault => rfl
      | ok t => cases readAll xs <;> cases readAll ys <;> rfl

/-- Words are refused with the fault of the first of them that is refused. -/
theorem readAll_eq_error_iff {words : List String} {fault : Fault} :
    readAll words = .error fault ↔
      ∃ before word after ts, words = before ++ word :: after ∧ readAll before = .ok ts ∧
        Term.read word = .error fault := by
  constructor
  · intro h
    induction words with
    | nil => simp [readAll] at h
    | cons word words ih =>
        cases hread : Term.read word with
        | error cause =>
            obtain rfl : cause = fault := by simpa [readAll, hread, bind, Except.bind] using h
            exact ⟨[], word, words, [], rfl, rfl, hread⟩
        | ok t =>
            have hrest : readAll words = .error fault := by
              cases hall : readAll words <;>
                simp_all [readAll, bind, Except.bind, pure, Except.pure]
            obtain ⟨before, bad, after, ts, rfl, hbefore, hbad⟩ := ih hrest
            refine ⟨word :: before, bad, after, t :: ts, rfl, ?_, hbad⟩
            simp [readAll, hread, hbefore, bind, Except.bind, pure, Except.pure]
  · rintro ⟨before, word, after, ts, rfl, hbefore, hword⟩
    have hrest : readAll (word :: after) = .error fault := by
      rw [readAll, hword]
      rfl
    rw [readAll_append, hbefore, hrest]
    rfl

theorem typeName_of_read {text : String} {fault : Fault} (h : Term.read text = .error fault) :
    fault.typeName = "TokenError" := by
  cases refusal_of_read h <;> rfl

end Term

/-! ## Texts -/

namespace Request

theorem wordsOf_append (a b : String) (w : Break) :
    wordsOf (a ++ w.text ++ b) = wordsOf a ++ wordsOf b := by
  have hchars : (a ++ w.text ++ b).toList = a.toList ++ (w.chars ++ b.toList) := by
    rw [String.toList_append, String.toList_append, Break.text, String.toList_ofList,
      List.append_assoc]
  rw [wordsOf, hchars, Text.words_append_break, List.map_append]
  rfl

theorem wordsOf_eq_nil_iff {text : String} :
    wordsOf text = [] ↔ ∀ c ∈ text.toList, Text.isBlank c = true := by
  rw [wordsOf, List.map_eq_nil_iff]
  exact ⟨Text.blank_of_words_eq_nil, Text.words_of_blank⟩

theorem read_eq_ok_iff_readAll {text : String} {r : Request} :
    Request.read text = .ok r ↔
      wordsOf text ≠ [] ∧ Term.readAll (wordsOf text) = .ok r.terms ∧ r.input = text := by
  rw [read_eq_ok_iff, Term.readAll_eq_ok_iff, and_comm (a := r.input = text)]

theorem read_eq_error_iff {text : String} {fault : Fault} :
    Request.read text = .error fault ↔
      (wordsOf text = [] ∧ fault = .emptyRequest) ∨
        Term.readAll (wordsOf text) = .error fault := by
  rw [Request.read]
  cases hwords : wordsOf text with
  | nil => simp [Term.readAll, eq_comm]
  | cons word words =>
      cases hall : Term.readAll (word :: words) <;> simp [hall, Except.map]

theorem typeName_of_readAll {words : List String} {fault : Fault}
    (h : Term.readAll words = .error fault) : fault.typeName = "TokenError" := by
  obtain ⟨before, word, after, ts, -, -, hword⟩ := Term.readAll_eq_error_iff.1 h
  exact Term.typeName_of_read hword

theorem read_eq_emptyRequest_iff {text : String} :
    Request.read text = .error .emptyRequest ↔ ∀ c ∈ text.toList, Text.isBlank c = true := by
  rw [read_eq_error_iff, ← wordsOf_eq_nil_iff]
  constructor
  · rintro (⟨hwords, -⟩ | hall)
    · exact hwords
    · have hname := typeName_of_readAll hall
      simp [Fault.typeName, Fault.emptyRequest] at hname
  · exact fun hwords => Or.inl ⟨hwords, rfl⟩

/-- A fault other than that of an empty request is the fault of a word. -/
theorem readAll_of_read {text : String} {fault : Fault} (h : Request.read text = .error fault)
    (hname : fault.typeName = "TokenError") : Term.readAll (wordsOf text) = .error fault := by
  rcases read_eq_error_iff.1 h with ⟨-, rfl⟩ | hall
  · simp [Fault.typeName, Fault.emptyRequest] at hname
  · exact hall

section
variable {a b : String} {w : Break} {r q : Request} {fault : Fault}

theorem read_append_of_refused (ha : Request.read a = .error fault)
    (hname : fault.typeName = "TokenError") : Request.read (a ++ w.text ++ b) = .error fault := by
  have hall := readAll_of_read ha hname
  apply read_eq_error_iff.2 (Or.inr _)
  rw [wordsOf_append, Term.readAll_append, hall]
  rfl

theorem read_append_of_blank (ha : Request.read a = .error .emptyRequest) :
    (Request.read (a ++ w.text ++ b)).map Request.terms =
      (Request.read b).map Request.terms := by
  have hwords : wordsOf (a ++ w.text ++ b) = wordsOf b := by
    rw [wordsOf_append, wordsOf_eq_nil_iff.2 (read_eq_emptyRequest_iff.1 ha), List.nil_append]
  rw [Request.read, hwords, Request.read]
  cases hb : wordsOf b with
  | nil => rfl
  | cons word words => cases hall : Term.readAll (word :: words) <;> simp [hall, Except.map]

theorem read_append_of_ok_of_refused (ha : Request.read a = .ok r)
    (hb : Request.read b = .error fault) (hname : fault.typeName = "TokenError") :
    Request.read (a ++ w.text ++ b) = .error fault := by
  have hall := (read_eq_ok_iff_readAll.1 ha).2.1
  have hbad := readAll_of_read hb hname
  apply read_eq_error_iff.2 (Or.inr _)
  rw [wordsOf_append, Term.readAll_append, hall, hbad]
  rfl

theorem read_append_of_ok_of_blank (ha : Request.read a = .ok r)
    (hb : Request.read b = .error .emptyRequest) :
    Request.read (a ++ w.text ++ b) = .ok ⟨a ++ w.text ++ b, r.terms⟩ := by
  obtain ⟨hne, hall, -⟩ := read_eq_ok_iff_readAll.1 ha
  have hwords : wordsOf (a ++ w.text ++ b) = wordsOf a := by
    rw [wordsOf_append, wordsOf_eq_nil_iff.2 (read_eq_emptyRequest_iff.1 hb), List.append_nil]
  apply read_eq_ok_iff_readAll.2
  rw [hwords]
  exact ⟨hne, hall, rfl⟩

theorem read_append_of_ok_of_ok (ha : Request.read a = .ok r) (hb : Request.read b = .ok q) :
    Request.read (a ++ w.text ++ b) = .ok ⟨a ++ w.text ++ b, r.terms ++ q.terms⟩ := by
  obtain ⟨hne, hall, -⟩ := read_eq_ok_iff_readAll.1 ha
  obtain ⟨-, hall', -⟩ := read_eq_ok_iff_readAll.1 hb
  apply read_eq_ok_iff_readAll.2
  rw [wordsOf_append, Term.readAll_append, hall, hall']
  exact ⟨List.append_ne_nil_of_left_ne_nil hne _, rfl, rfl⟩

end

/-- A text is refused for its first word that is refused, or because it is blank.  So two
texts with blanks between them are read one after the other: what the first is refused for,
both together are refused for, a blank text adds nothing, and otherwise the terms of the
second follow those of the first. -/
theorem read_one_after_the_other :
    (∀ text, Request.read text = .error .emptyRequest ↔
      ∀ c ∈ text.toList, Text.isBlank c = true) ∧
    (∀ text fault, fault.typeName = "TokenError" → (Request.read text = .error fault ↔
      ∃ before word after ts, wordsOf text = before ++ word :: after ∧
        Term.readAll before = .ok ts ∧ Term.read word = .error fault)) ∧
    ∀ (a b : String) (w : Break),
      (∀ fault, Request.read a = .error fault → fault.typeName = "TokenError" →
        Request.read (a ++ w.text ++ b) = .error fault) ∧
      (Request.read a = .error .emptyRequest →
        (Request.read (a ++ w.text ++ b)).map Request.terms =
          (Request.read b).map Request.terms) ∧
      (∀ r fault, Request.read a = .ok r → Request.read b = .error fault →
        fault.typeName = "TokenError" → Request.read (a ++ w.text ++ b) = .error fault) ∧
      (∀ r, Request.read a = .ok r → Request.read b = .error .emptyRequest →
        Request.read (a ++ w.text ++ b) = .ok ⟨a ++ w.text ++ b, r.terms⟩) ∧
      ∀ r q, Request.read a = .ok r → Request.read b = .ok q →
        Request.read (a ++ w.text ++ b) = .ok ⟨a ++ w.text ++ b, r.terms ++ q.terms⟩ := by
  refine ⟨fun _ => read_eq_emptyRequest_iff, fun text fault hname => ?_, fun a b w => ?_⟩
  · rw [← Term.readAll_eq_error_iff]
    constructor
    · exact fun h => readAll_of_read h hname
    · exact fun h => read_eq_error_iff.2 (Or.inr h)
  · exact ⟨fun _ => read_append_of_refused, read_append_of_blank,
      fun _ _ => read_append_of_ok_of_refused, fun _ => read_append_of_ok_of_blank,
      fun _ _ => read_append_of_ok_of_ok⟩

/-- The statement at texts of each kind with a blank and a tab between them. -/
theorem read_one_after_the_other_at_tab :
    let w : Break := ⟨⟨[' ', '\t'], by decide⟩, by decide⟩
    let zero : Fault := .within (.word .constant) "0" (.number "0" .zero)
    Request.read ("0" ++ w.text ++ "d0") = .error zero ∧
      (Request.read ("\n" ++ w.text ++ "d6")).map Request.terms = .ok [.dice 1 6 none] ∧
      Request.read ("d6" ++ w.text ++ "0 d0") = .error zero ∧
      Request.read ("d6" ++ w.text ++ "") =
        .ok ⟨"d6" ++ w.text ++ "", [.dice 1 6 none]⟩ ∧
      Request.read ("d6" ++ w.text ++ "+1") =
        .ok ⟨"d6" ++ w.text ++ "+1", [.dice 1 6 none, .constant 1]⟩ := by
  intro w zero
  have hd6 : Request.read "d6" = .ok ⟨"d6", [.dice 1 6 none]⟩ := by decide
  have hone : Request.read "+1" = .ok ⟨"+1", [.constant 1]⟩ := by decide
  have hzero : Request.read "0" = .error zero := by decide
  have hbad : Request.read "0 d0" = .error zero := by decide
  have hjoin := read_one_after_the_other.2.2
  refine ⟨?_, ?_, ?_, ?_, ?_⟩
  · exact (hjoin "0" "d0" w).1 zero hzero rfl
  · have hblank : Request.read "\n" = .error .emptyRequest := by decide
    rw [(hjoin "\n" "d6" w).2.1 hblank, hd6]
    rfl
  · exact (hjoin "d6" "0 d0" w).2.2.1 _ zero hd6 hbad rfl
  · exact (hjoin "d6" "" w).2.2.2.1 _ hd6 (by decide)
  · exact (hjoin "d6" "+1" w).2.2.2.2 _ _ hd6 hone

end Request
end DiceRoller
