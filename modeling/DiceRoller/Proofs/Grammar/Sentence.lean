import DiceRoller.Proofs.Grammar.Reading
import DiceRoller.Request

/-!
The grammar of a whole request.

A `Sentence` is a derivation: at least one word, blanks between any two words and
perhaps blanks at both ends.  Its words are those that the reader finds
(`words_chars`), every text whose words are spelled by words of the grammar is a
sentence (`exists_sentence`), and no two sentences are written alike
(`chars_injective`).
-/

namespace DiceRoller

/-- Blanks, perhaps none. -/
abbrev Gap := Run Text.isBlank

/-- Blanks, at least one. -/
abbrev Break := FullRun Text.isBlank

structure Sentence where
  lead : Gap
  first : Word
  rest : List (Break × Word)
  trail : Gap

/-- Words with the blanks before each of them, and the blanks at the end. -/
def Sentence.tailChars : List (Break × Word) → Gap → List Char
  | [], trail => trail.chars
  | (b, w) :: rest, trail => b.chars ++ (w.spelling ++ tailChars rest trail)

namespace Sentence

def words (s : Sentence) : List Word := s.first :: s.rest.map Prod.snd

def chars (s : Sentence) : List Char :=
  s.lead.chars ++ (s.first.spelling ++ tailChars s.rest s.trail)

def text (s : Sentence) : String := String.ofList s.chars

end Sentence

/-! ## Finding words between blanks -/

namespace Text

/-- A text that a word before it does not run into. -/
def Apart (cs : List Char) : Prop := ∀ c, cs.head? = some c → isBlank c = true

theorem words_gap_append {g : List Char} (hg : ∀ c ∈ g, isBlank c = true) (cs : List Char) :
    words (g ++ cs) = words cs := by
  induction g with
  | nil => rfl
  | cons c g ih =>
      have hc := hg c List.mem_cons_self
      have hsplit := words_append hc [] (g ++ cs)
      rw [words_nil, List.nil_append, List.nil_append] at hsplit
      rw [List.cons_append, hsplit]
      exact ih fun d hd => hg d (List.mem_cons_of_mem c hd)

theorem words_word_append {w cs : List Char} (hne : w ≠ [])
    (hw : ∀ c ∈ w, ¬ isBlank c = true) (hcs : Apart cs) :
    words (w ++ cs) = w :: words cs := by
  cases cs with
  | nil =>
      rw [List.append_nil, words_eq_singleton hne hw]
      rfl
  | cons c cs =>
      have hc := hcs c rfl
      have hskip : words (c :: cs) = words cs :=
        @words_gap_append [c] (by simpa using hc) cs
      rw [words_append hc, words_eq_singleton hne hw, hskip]
      rfl

theorem words_of_blank {g : List Char} (hg : ∀ c ∈ g, isBlank c = true) : words g = [] := by
  have h := words_gap_append hg []
  rwa [List.append_nil] at h

/-- A text is blank or has a first word, which ends at a blank or at the end. -/
theorem blank_or_first_word (cs : List Char) :
    (∀ c ∈ cs, isBlank c = true) ∨
      ∃ g w rest, cs = g ++ (w ++ rest) ∧ (∀ c ∈ g, isBlank c = true) ∧
        (w ≠ [] ∧ ∀ c ∈ w, ¬ isBlank c = true) ∧ Apart rest := by
  have hgap := cutWhile_append isBlank cs
  have hblank : ∀ c ∈ (cutWhile isBlank cs).1, isBlank c = true :=
    fun c hc => of_mem_cutWhile hc
  cases hrest : (cutWhile isBlank cs).2 with
  | nil =>
      rw [hrest, List.append_nil] at hgap
      exact Or.inl (hgap ▸ hblank)
  | cons c rest =>
      have hc : ¬ isBlank c = true := head_cutWhile (by rw [hrest]; rfl)
      have hword : (cutWhile (fun d => !isBlank d) (c :: rest)).1 ≠ [] := by
        rw [cutWhile, List.takeWhile_cons_of_pos (by simpa using hc)]
        exact List.cons_ne_nil _ _
      refine Or.inr ⟨_, _, (cutWhile (fun d => !isBlank d) (c :: rest)).2, ?_, hblank,
        ⟨hword, ?_⟩, ?_⟩
      · rw [cutWhile_append, ← hrest]
        exact hgap.symm
      · intro d hd
        simpa using of_mem_cutWhile hd
      · intro d hd
        simpa using head_cutWhile hd

theorem blank_of_words_eq_nil {cs : List Char} (h : words cs = []) :
    ∀ c ∈ cs, isBlank c = true := by
  rcases blank_or_first_word cs with hblank | ⟨g, w, rest, hcs, hg, ⟨hne, hw⟩, hrest⟩
  · exact hblank
  · rw [hcs, words_gap_append hg, words_word_append hne hw hrest] at h
    simp at h

theorem exists_of_words_eq_cons {cs w : List Char} {ws : List (List Char)}
    (h : words cs = w :: ws) :
    ∃ g rest, cs = g ++ (w ++ rest) ∧ (∀ c ∈ g, isBlank c = true) ∧ Apart rest ∧
      words rest = ws := by
  rcases blank_or_first_word cs with hblank | ⟨g, v, rest, hcs, hg, ⟨hne, hv⟩, hrest⟩
  · rw [words_of_blank hblank] at h
    simp at h
  · rw [hcs, words_gap_append hg, words_word_append hne hv hrest] at h
    obtain ⟨rfl, rfl⟩ := List.cons.inj h
    exact ⟨g, rest, hcs, hg, hrest, rfl⟩

theorem first_word_unique {g w rest g' w' rest' : List Char}
    (hg : ∀ c ∈ g, isBlank c = true) (hw : w ≠ [] ∧ ∀ c ∈ w, ¬ isBlank c = true)
    (hrest : Apart rest)
    (hg' : ∀ c ∈ g', isBlank c = true) (hw' : w' ≠ [] ∧ ∀ c ∈ w', ¬ isBlank c = true)
    (hrest' : Apart rest') (h : g ++ (w ++ rest) = g' ++ (w' ++ rest')) :
    g = g' ∧ w = w' ∧ rest = rest' := by
  have hgap : ∀ {g w : List Char} (rest : List Char), (∀ c ∈ g, isBlank c = true) →
      (w ≠ [] ∧ ∀ c ∈ w, ¬ isBlank c = true) →
        cutWhile isBlank (g ++ (w ++ rest)) = (g, w ++ rest) := by
    intro g w rest hg hw
    apply cutWhile_append_of hg
    intro c hc
    cases w with
    | nil => exact absurd rfl hw.1
    | cons d w =>
        obtain rfl : d = c := by simpa using hc
        exact hw.2 d List.mem_cons_self
  have hword : ∀ {w rest : List Char}, (∀ c ∈ w, ¬ isBlank c = true) → Apart rest →
      cutWhile (fun d => !isBlank d) (w ++ rest) = (w, rest) := by
    intro w rest hw hrest
    exact cutWhile_append_of (fun c hc => by simpa using hw c hc)
      (fun c hc => by simpa using hrest c hc)
  have hcut := hgap rest hg hw
  rw [h, hgap rest' hg' hw'] at hcut
  obtain ⟨hgg, htail⟩ := Prod.mk.inj hcut
  have hcut' := hword hw.2 hrest
  rw [← htail, hword hw'.2 hrest'] at hcut'
  obtain ⟨hww, hrr⟩ := Prod.mk.inj hcut'
  exact ⟨hgg.symm, hww.symm, hrr.symm⟩

end Text

/-! ## Sentences -/

namespace Sentence

theorem apart_tailChars (rest : List (Break × Word)) (trail : Gap) :
    Text.Apart (tailChars rest trail) := by
  intro c hc
  cases rest with
  | nil => exact trail.holds c (List.mem_of_head? hc)
  | cons p rest =>
      obtain ⟨b, w⟩ := p
      obtain ⟨d, ds, hb⟩ := List.exists_cons_of_ne_nil b.ne_nil
      rw [tailChars, hb] at hc
      obtain rfl : d = c := by simpa using hc
      exact b.holds d (hb ▸ List.mem_cons_self)

theorem words_tailChars (rest : List (Break × Word)) (trail : Gap) :
    Text.words (tailChars rest trail) = rest.map fun p => p.2.spelling := by
  induction rest with
  | nil => exact Text.words_of_blank trail.holds
  | cons p rest ih =>
      obtain ⟨b, w⟩ := p
      rw [tailChars, Text.words_gap_append b.holds,
        Text.words_word_append w.spelling_ne_nil (fun _ => w.not_isBlank_of_mem_spelling)
          (apart_tailChars rest trail), ih]
      rfl

theorem words_chars (s : Sentence) : Text.words s.chars = s.words.map Word.spelling := by
  rw [chars, Text.words_gap_append s.lead.holds,
    Text.words_word_append s.first.spelling_ne_nil (fun _ => s.first.not_isBlank_of_mem_spelling)
      (apart_tailChars s.rest s.trail), words_tailChars]
  simp [words]

theorem exists_tail {ws : List Word} {cs : List Char} (hcs : Text.Apart cs)
    (h : Text.words cs = ws.map Word.spelling) :
    ∃ rest trail, tailChars rest trail = cs ∧ rest.map Prod.snd = ws := by
  induction ws generalizing cs with
  | nil => exact ⟨[], ⟨cs, Text.blank_of_words_eq_nil h⟩, rfl, rfl⟩
  | cons w ws ih =>
      obtain ⟨g, rest, rfl, hg, hrest, hwords⟩ := Text.exists_of_words_eq_cons h
      obtain ⟨items, trail, hitems, hws⟩ := ih hrest hwords
      have hne : g ≠ [] := by
        intro hempty
        obtain ⟨c, spelling, hspell⟩ := List.exists_cons_of_ne_nil w.spelling_ne_nil
        have hblank : Text.isBlank c = true := hcs c (by rw [hempty, hspell]; rfl)
        exact w.not_isBlank_of_mem_spelling (hspell ▸ List.mem_cons_self) hblank
      refine ⟨(⟨⟨g, hg⟩, hne⟩, w) :: items, trail, ?_, ?_⟩
      · rw [tailChars, hitems]
      · rw [List.map_cons, hws]

/-- A text whose words are spelled by words of the grammar, at least one, is a
sentence of them. -/
theorem exists_sentence {ws : List Word} {cs : List Char} (hne : ws ≠ [])
    (h : Text.words cs = ws.map Word.spelling) : ∃ s : Sentence, s.chars = cs ∧ s.words = ws := by
  cases ws with
  | nil => exact absurd rfl hne
  | cons w ws =>
      obtain ⟨g, rest, rfl, hg, hrest, hwords⟩ := Text.exists_of_words_eq_cons h
      obtain ⟨items, trail, rfl, hws⟩ := exists_tail hrest hwords
      refine ⟨⟨⟨g, hg⟩, w, items, trail⟩, rfl, ?_⟩
      rw [words, hws]

theorem tailChars_injective {rest rest' : List (Break × Word)} {trail trail' : Gap}
    (h : tailChars rest trail = tailChars rest' trail') : rest = rest' ∧ trail = trail' := by
  have hwords := words_tailChars rest trail
  rw [h, words_tailChars rest' trail'] at hwords
  induction rest generalizing rest' with
  | nil =>
      cases rest' with
      | nil => exact ⟨rfl, Run.ext h⟩
      | cons p rest' => simp at hwords
  | cons p rest ih =>
      cases rest' with
      | nil => simp at hwords
      | cons p' rest' =>
          obtain ⟨b, w⟩ := p
          obtain ⟨b', w'⟩ := p'
          obtain ⟨hb, hw, htail⟩ := Text.first_word_unique b.holds w.apart_of_spelling
            (apart_tailChars rest trail) b'.holds w'.apart_of_spelling
            (apart_tailChars rest' trail') h
          obtain ⟨hrest, htrail⟩ := ih htail (List.cons.inj hwords).2
          obtain rfl : b = b' := FullRun.ext hb
          obtain rfl : w = w' := Word.spelling_injective hw
          exact ⟨by rw [hrest], htrail⟩

/-- No two sentences are written alike. -/
theorem chars_injective {s t : Sentence} (h : s.chars = t.chars) : s = t := by
  obtain ⟨hlead, hfirst, htail⟩ := Text.first_word_unique s.lead.holds
    s.first.apart_of_spelling (apart_tailChars s.rest s.trail) t.lead.holds
    t.first.apart_of_spelling (apart_tailChars t.rest t.trail) h
  obtain ⟨hrest, htrail⟩ := tailChars_injective htail
  cases s
  cases t
  rw [Sentence.mk.injEq]
  exact ⟨Run.ext hlead, Word.spelling_injective hfirst, hrest, htrail⟩

theorem text_injective {s t : Sentence} (h : s.text = t.text) : s = t :=
  chars_injective (String.ofList_injective h)

/-- One text differs from the other by blanks and by zeros in front of its numbers. -/
def Padded (s t : Sentence) : Prop :=
  List.Forall₂ (fun (w v : Word) => ∃ i j k, v = w.padded i j k) s.words t.words

theorem Padded.terms_eq {s t : Sentence} (h : s.Padded t) :
    t.words.map Word.term = s.words.map Word.term := by
  unfold Padded at h
  generalize s.words = ws at h ⊢
  generalize t.words = vs at h ⊢
  induction h with
  | nil => rfl
  | cons hw _ ih =>
      obtain ⟨i, j, k, rfl⟩ := hw
      rw [List.map_cons, List.map_cons, Word.term_padded, ih]

end Sentence

/-! ## Reading a request -/

namespace Term

theorem readAll_eq_ok_iff {texts : List String} {ts : List Term} :
    readAll texts = .ok ts ↔ List.Forall₂ (fun text t => Term.read text = .ok t) texts ts := by
  induction texts generalizing ts with
  | nil =>
      rw [List.forall₂_nil_left_iff, readAll, Except.ok.injEq, eq_comm]
  | cons text texts ih =>
      rw [List.forall₂_cons_left_iff, readAll]
      constructor
      · intro h
        cases hread : Term.read text with
        | error fault => simp [hread, bind, Except.bind] at h
        | ok t =>
            cases hall : readAll texts with
            | error fault => simp [hread, hall, bind, Except.bind] at h
            | ok us =>
                simp only [hread, hall, bind, Except.bind, pure, Except.pure] at h
                exact ⟨t, us, rfl, ih.1 hall, (Except.ok.inj h).symm⟩
      · intro h
        obtain ⟨t, us, hread, hall, rfl⟩ := h
        simp [hread, ih.2 hall, bind, Except.bind, pure, Except.pure]

theorem forall_read_iff {texts : List String} {ts : List Term} :
    List.Forall₂ (fun text t => Term.read text = .ok t) texts ts ↔
      ∃ ws : List Word, ws.map Word.text = texts ∧ (∀ w ∈ ws, w.term.Valid) ∧
        ts = ws.map Word.term := by
  constructor
  · intro h
    induction h with
    | nil => exact ⟨[], rfl, by simp, rfl⟩
    | cons hread _ ih =>
        obtain ⟨w, rfl, hvalid, rfl⟩ := Term.read_eq_ok_iff.1 hread
        obtain ⟨ws, rfl, hall, rfl⟩ := ih
        refine ⟨w :: ws, rfl, fun v hv => ?_, rfl⟩
        rcases List.mem_cons.1 hv with rfl | hv
        · exact hvalid
        · exact hall v hv
  · intro h
    obtain ⟨ws, rfl, hall, rfl⟩ := h
    rw [List.forall₂_map_left_iff, List.forall₂_map_right_iff, List.forall₂_same]
    exact fun w hw => Term.read_eq_ok_iff.2 ⟨w, rfl, hall w hw, rfl⟩

end Term

namespace Request

theorem read_eq_ok_iff {text : String} {r : Request} :
    Request.read text = .ok r ↔
      wordsOf text ≠ [] ∧ r.input = text ∧
        List.Forall₂ (fun w t => Term.read w = .ok t) (wordsOf text) r.terms := by
  rw [Request.read]
  cases hwords : wordsOf text with
  | nil => simp
  | cons w ws =>
      have hne : w :: ws ≠ [] := List.cons_ne_nil w ws
      rw [← Term.readAll_eq_ok_iff]
      cases hall : Term.readAll (w :: ws) with
      | error fault => simp [hall, Except.map]
      | ok ts =>
          obtain ⟨input, terms⟩ := r
          simp only [hall, Except.map, Except.ok.injEq, Request.mk.injEq, ne_eq, hne,
            not_false_eq_true, true_and]
          rw [eq_comm]

theorem wordsOf_sentence (s : Sentence) : wordsOf s.text = s.words.map Word.text := by
  rw [wordsOf, Sentence.text, String.toList_ofList, s.words_chars, List.map_map]
  rfl

theorem read_sentence_iff {text : String} {r : Request} :
    Request.read text = .ok r ↔
      ∃ s : Sentence, s.text = text ∧ (∀ w ∈ s.words, w.term.Valid) ∧
        r = ⟨text, s.words.map Word.term⟩ := by
  rw [read_eq_ok_iff, Term.forall_read_iff]
  constructor
  · intro h
    obtain ⟨hne, hinput, ws, hws, hvalid, hterms⟩ := h
    have hspell : Text.words text.toList = ws.map Word.spelling := by
      have hlist : (ws.map Word.spelling).map String.ofList =
          (Text.words text.toList).map String.ofList := by
        rw [List.map_map]
        exact hws
      exact ((List.map_inj_right fun _ _ => String.ofList_inj.1).1 hlist).symm
    have hsome : ws ≠ [] := by
      intro hempty
      rw [hempty] at hws
      exact hne hws.symm
    obtain ⟨s, hchars, rfl⟩ := Sentence.exists_sentence hsome hspell
    refine ⟨s, ?_, hvalid, ?_⟩
    · rw [Sentence.text, hchars, String.ofList_toList]
    · rw [← hinput, ← hterms]
  · intro h
    obtain ⟨s, rfl, hvalid, rfl⟩ := h
    rw [wordsOf_sentence]
    exact ⟨by simp [Sentence.words], rfl, s.words, rfl, hvalid, rfl⟩

/-- A request that was read has terms, all of them within range. -/
theorem valid_of_read {text : String} {r : Request} (h : Request.read text = .ok r) :
    r.terms ≠ [] ∧ ∀ t ∈ r.terms, t.Valid := by
  obtain ⟨s, -, hvalid, rfl⟩ := read_sentence_iff.1 h
  refine ⟨by simp [Sentence.words], fun t ht => ?_⟩
  obtain ⟨w, hw, rfl⟩ := List.mem_map.1 ht
  exact hvalid w hw

theorem terms_read_sentence (s : Sentence) (ts : List Term) :
    (Request.read s.text).toOption.map Request.terms = some ts ↔
      (∀ t ∈ s.words.map Word.term, t.Valid) ∧ ts = s.words.map Word.term := by
  rw [List.forall_mem_map]
  cases hread : Request.read s.text with
  | error fault =>
      simp only [Except.toOption, Option.map_none, reduceCtorEq, false_iff, not_and]
      intro hvalid
      have hok := read_sentence_iff.2 ⟨s, rfl, hvalid, rfl⟩
      simp [hread] at hok
  | ok r =>
      obtain ⟨s', htext, hvalid, rfl⟩ := read_sentence_iff.1 hread
      obtain rfl := Sentence.text_injective htext
      simp only [Except.toOption, Option.map_some, Option.some.injEq]
      constructor
      · intro h
        exact ⟨hvalid, h.symm⟩
      · intro h
        exact h.2.symm

theorem toOption_read_word (w : Word) (t : Term) :
    (Term.read w.text).toOption = some t ↔ w.term.Valid ∧ t = w.term := by
  cases hread : Term.read w.text with
  | error fault =>
      simp only [Except.toOption, reduceCtorEq, false_iff]
      intro h
      have hok := Term.read_eq_ok_iff.2 ⟨w, rfl, h⟩
      simp [hread] at hok
  | ok u =>
      obtain ⟨v, htext, hvalid, rfl⟩ := Term.read_eq_ok_iff.1 hread
      obtain rfl := Word.text_injective htext
      simp only [Except.toOption, Option.some.injEq]
      constructor
      · intro h
        exact ⟨hvalid, h.symm⟩
      · intro h
        exact h.2.symm

/-- The reader accepts exactly the sentences of the grammar whose terms are within
range, each text being at most one sentence, and returns the terms their words
denote.  The same holds of a single word.  Leading zeros change neither what is
accepted nor what is returned. -/
theorem read_iff_unique_sentence :
    (∀ (text : String) (r : Request), Request.read text = .ok r ↔
      ∃ s : Sentence, s.text = text ∧ (∀ w ∈ s.words, w.term.Valid) ∧
        r = ⟨text, s.words.map Word.term⟩) ∧
    (∀ s t : Sentence, s.text = t.text → s = t) ∧
    (∀ s t : Sentence, s.Padded t →
      (Request.read t.text).toOption.map Request.terms =
        (Request.read s.text).toOption.map Request.terms) ∧
    (∀ (text : String) (t : Term), Term.read text = .ok t ↔
      ∃ w : Word, w.text = text ∧ w.term.Valid ∧ t = w.term) ∧
    (∀ v w : Word, v.text = w.text → v = w) ∧
    ∀ (w : Word) (i j k : Nat),
      (Term.read (w.padded i j k).text).toOption = (Term.read w.text).toOption := by
  refine ⟨fun _ _ => read_sentence_iff, fun _ _ => Sentence.text_injective, ?_,
    fun _ _ => Term.read_eq_ok_iff, fun _ _ => Word.text_injective, ?_⟩
  · intro s t hpad
    apply Option.ext
    intro ts
    rw [terms_read_sentence, terms_read_sentence, hpad.terms_eq]
  · intro w i j k
    apply Option.ext
    intro t
    rw [toOption_read_word, toOption_read_word, w.term_padded i j k]

/-- The statement at "2d20:adv -3": it is a sentence whose terms are within range, and
with leading zeros it asks for the same. -/
theorem read_iff_unique_sentence_two_words :
    let s : Sentence := {
      lead := ⟨[], by decide⟩
      first := .group ⟨['2'], by decide⟩ ⟨⟨['2', '0'], by decide⟩, by decide⟩
        (some ⟨.advantage, ⟨[], by decide⟩⟩)
      rest := [(⟨⟨[' '], by decide⟩, by decide⟩,
        .constant (some .minus) ⟨⟨['3'], by decide⟩, by decide⟩)]
      trail := ⟨[], by decide⟩ }
    let t : Sentence := {
      lead := ⟨['\t'], by decide⟩
      first := s.first.padded 1 2 3
      rest := [(⟨⟨['\n'], by decide⟩, by decide⟩,
        Word.padded 9 0 0 (.constant (some .minus) ⟨⟨['3'], by decide⟩, by decide⟩))]
      trail := ⟨[], by decide⟩ }
    s.text = "2d20:adv -3" ∧ s.Padded t ∧
      Request.read s.text =
        .ok ⟨s.text, [.dice 2 20 (some ⟨.advantage, 1⟩), .constant (-3)]⟩ ∧
      (Request.read t.text).toOption.map Request.terms =
        (Request.read s.text).toOption.map Request.terms := by
  intro s t
  have hpad : s.Padded t := .cons ⟨1, 2, 3, rfl⟩ (.cons ⟨9, 0, 0, rfl⟩ .nil)
  refine ⟨by decide, hpad, ?_, read_iff_unique_sentence.2.2.1 s t hpad⟩
  exact (read_iff_unique_sentence.1 s.text _).2 ⟨s, rfl, by decide, by decide⟩

end Request
end DiceRoller
