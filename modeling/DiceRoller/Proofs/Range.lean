import DiceRoller.Draw.Source
import DiceRoller.Proofs.Report

/-!
The range of a roll.

A term is worth the least if each of its dice shows 1 and the most if each shows its last
side.  Every die that counts adds to the subtotal what it shows, and a rule fixes how many
count, so a bound on what the dice show is a bound on the subtotal (`Entry.worth_le_subtotal`,
`Entry.subtotal_le_worth`) and on the total.  Dice that all show the bound come to the bound
exactly, so both ends of the range are attained.  Generators that make their numbers from bits
keep to the bounds of their questions (`Generator.ofBits_bounded`).
-/

namespace DiceRoller

/-! ## Generators that keep to the bounds -/

namespace Generator

variable {σ : Type}

/-- Answers lie between the bounds of their questions. -/
def Bounded (g : Generator σ) : Prop :=
  ∀ low high s v s', low ≤ high → g.draw low high s = (.ok v, s') → low ≤ v ∧ v ≤ high

/-- Answers each question by its bounds alone. -/
def steady (pick : Int → Int → Int) : Generator Unit where
  draw low high s := (.ok (pick low high), s)

theorem Bounded.askAll {g : Generator σ} (hg : g.Bounded) {qs : List (Int × Int)} {s s' : σ}
    {vs : List Int} (hqs : ∀ q ∈ qs, q.1 ≤ q.2) (h : g.askAll qs s = (.ok vs, s')) :
    List.Forall₂ (fun q v => q.1 ≤ v ∧ v ≤ q.2) qs vs := by
  induction qs generalizing s vs with
  | nil =>
      obtain ⟨hvs, -⟩ := askAll_nil_eq_iff.1 h
      rw [Except.ok.inj hvs]
      exact .nil
  | cons q qs ih =>
      obtain ⟨v, m, ws, hdraw, hrest, rfl⟩ := askAll_cons_eq_ok_iff.1 h
      exact .cons (hg _ _ _ _ _ (hqs q List.mem_cons_self) hdraw)
        (ih (fun p hp => hqs p (List.mem_cons_of_mem q hp)) hrest)

theorem steady_askAll (pick : Int → Int → Int) (qs : List (Int × Int)) :
    (steady pick).askAll qs () = (.ok (qs.map fun q => pick q.1 q.2), ()) := by
  induction qs with
  | nil => rfl
  | cons q qs ih =>
      have hdraw : (steady pick).draw q.1 q.2 () = (.ok (pick q.1 q.2), ()) := rfl
      rw [askAll_cons_of_ok hdraw, ih]
      rfl

theorem steady_bounded {pick : Int → Int → Int}
    (hpick : ∀ low high, low ≤ high → low ≤ pick low high ∧ pick low high ≤ high) :
    (steady pick).Bounded := by
  intro low high s v s' hle h
  obtain ⟨rfl, -⟩ : pick low high = v ∧ s = s' := by simpa [steady] using h
  exact hpick low high hle

theorem below_lt {bits : Nat → σ → Nat × σ} {n tries r : Nat} {s : σ}
    (h : (below bits n tries s).1 = some r) : r < n := by
  induction tries generalizing s with
  | zero => simp [below] at h
  | succ tries ih =>
      rw [below] at h
      by_cases hlt : (bits (bitLength n) s).1 < n
      · simp only [hlt, if_true, Option.some.injEq] at h
        omega
      · simp only [hlt, if_false] at h
        exact ih h

/-- Numbers from bits keep to the bounds, however many tries there are. -/
theorem ofBits_bounded (bits : Nat → σ → Nat × σ) : (ofBits bits).Bounded := by
  intro low high s v s' hle h
  rw [ofBits] at h
  -- No step should unfold a recursion that starts from the number of tries.
  generalize tries = n at h
  rcases hbelow : below bits (high - low + 1).toNat n s with ⟨_ | r, u⟩
  · simp [hbelow, Int.not_lt.2 hle] at h
  · have hlt : r < (high - low + 1).toNat := below_lt (congrArg Prod.fst hbelow)
    have hv : low + (r : Int) = v := by
      simpa [hbelow, Int.not_lt.2 hle] using congrArg Prod.fst h
    omega

end Generator

theorem Twister.generator_bounded : Twister.generator.Bounded := Generator.ofBits_bounded _

theorem SystemBytes.generator_bounded : SystemBytes.generator.Bounded :=
  Generator.ofBits_bounded _

/-! ## What a term is worth -/

/-- How many dice of a group count. -/
def counted (count : Int) : Option Keep → Int
  | none => count
  | some k => k.take

namespace Term

def least : Term → Int
  | constant value => value
  | dice count _ keep => counted count keep

def greatest : Term → Int
  | constant value => value
  | dice count sides keep => counted count keep * sides

/-- What a term is worth if all its questions get the same answer. -/
def worth (answer : Int × Int → Int) : Term → Int
  | constant value => value
  | dice count sides keep => counted count keep * answer (1, sides)

theorem worth_fst : worth Prod.fst = least := by
  funext t
  cases t with
  | constant value => rfl
  | dice count sides keep => exact mul_one _

theorem worth_snd : worth Prod.snd = greatest := by
  funext t
  cases t with
  | constant value => rfl
  | dice count sides keep => rfl

theorem fst_of_mem_questions {t : Term} {q : Int × Int} (hq : q ∈ t.questions) : q.1 = 1 := by
  cases t with
  | constant value => simp [questions] at hq
  | dice count sides keep => rw [List.eq_of_mem_replicate hq]

theorem le_of_mem_questions {t : Term} (hvalid : t.Valid) {q : Int × Int}
    (hq : q ∈ t.questions) : q.1 ≤ q.2 := by
  cases t with
  | constant value => simp [questions] at hq
  | dice count sides keep =>
      obtain ⟨-, ⟨hsides, -⟩, -⟩ := hvalid
      rw [List.eq_of_mem_replicate hq]
      exact hsides

end Term

/-! ## Entries -/

namespace Entry

/-- The rolls of an entry, each with the question that it answers. -/
def asked : Entry → List ((Int × Int) × Int)
  | constant _ _ => []
  | dice _ sides rolls _ _ _ => rolls.map fun v => ((1, sides), v)

/-- Every die shows one of its sides, and the subtotal is what as many dice as count can
come to. -/
def InRange : Entry → Prop
  | constant value subtotal => subtotal = value
  | dice count sides rolls kept subtotal keep =>
    (∀ v ∈ rolls ++ kept, 1 ≤ v ∧ v ≤ sides) ∧
      counted count keep ≤ subtotal ∧ subtotal ≤ counted count keep * sides

theorem map_fst_asked {e : Entry} (h : e.Consistent) :
    e.asked.map Prod.fst = e.term.questions := by
  cases e with
  | constant value subtotal => rfl
  | dice count sides rolls kept subtotal keep =>
      obtain ⟨hcount, -⟩ := h
      rw [asked, List.map_map, term, Term.questions, hcount, Int.toNat_natCast]
      exact List.map_const'

section
variable {count sides subtotal : Int} {rolls kept : List Int} {keep : Option Keep}

theorem counted_of_consistent (h : (dice count sides rolls kept subtotal keep).Consistent) :
    counted count keep = kept.length := by
  obtain ⟨hcount, -, -, hall, htake⟩ := h
  cases keep with
  | none => rw [counted, hcount, hall rfl]
  | some k => rw [counted, htake k rfl]

theorem worth_of_consistent (answer : Int × Int → Int)
    (h : (dice count sides rolls kept subtotal keep).Consistent) :
    (dice count sides rolls kept subtotal keep).term.worth answer =
      kept.length • answer (1, sides) := by
  rw [term, Term.worth, counted_of_consistent h, nsmul_eq_mul]

theorem subtotal_of_consistent (h : (dice count sides rolls kept subtotal keep).Consistent) :
    (dice count sides rolls kept subtotal keep).subtotal = kept.sum :=
  h.2.2.1

theorem mem_asked_of_mem_rolls {v : Int} (hv : v ∈ rolls) :
    ((1, sides), v) ∈ (dice count sides rolls kept subtotal keep).asked :=
  List.mem_map_of_mem hv

theorem mem_asked_of_mem_kept (h : (dice count sides rolls kept subtotal keep).Consistent)
    {v : Int} (hv : v ∈ kept) :
    ((1, sides), v) ∈ (dice count sides rolls kept subtotal keep).asked :=
  mem_asked_of_mem_rolls (h.2.1.subset hv)

end

theorem worth_le_subtotal {e : Entry} (answer : Int × Int → Int) (hcons : e.Consistent)
    (h : ∀ x ∈ e.asked, answer x.1 ≤ x.2) : e.term.worth answer ≤ e.subtotal := by
  cases e with
  | constant value subtotal => exact hcons.ge
  | dice count sides rolls kept subtotal keep =>
      rw [worth_of_consistent answer hcons, subtotal_of_consistent hcons]
      exact List.card_nsmul_le_sum kept _ fun v hv => h _ (mem_asked_of_mem_kept hcons hv)

theorem subtotal_le_worth {e : Entry} (answer : Int × Int → Int) (hcons : e.Consistent)
    (h : ∀ x ∈ e.asked, x.2 ≤ answer x.1) : e.subtotal ≤ e.term.worth answer := by
  cases e with
  | constant value subtotal => exact hcons.le
  | dice count sides rolls kept subtotal keep =>
      rw [worth_of_consistent answer hcons, subtotal_of_consistent hcons]
      exact List.sum_le_card_nsmul kept _ fun v hv => h _ (mem_asked_of_mem_kept hcons hv)

theorem inRange_of_consistent {e : Entry} (hcons : e.Consistent)
    (h : ∀ x ∈ e.asked, x.1.1 ≤ x.2 ∧ x.2 ≤ x.1.2) : e.InRange := by
  have hlow := worth_le_subtotal Prod.fst hcons fun x hx => (h x hx).1
  have hhigh := subtotal_le_worth Prod.snd hcons fun x hx => (h x hx).2
  rw [Term.worth_fst] at hlow
  rw [Term.worth_snd] at hhigh
  cases e with
  | constant value subtotal => exact hcons
  | dice count sides rolls kept subtotal keep =>
      refine ⟨fun v hv => ?_, hlow, hhigh⟩
      rcases List.mem_append.1 hv with hv | hv
      · exact h _ (mem_asked_of_mem_rolls hv)
      · exact h _ (mem_asked_of_mem_kept hcons hv)

section
variable {es : List Entry} (answer : Int × Int → Int)

theorem sum_worth_le (hcons : ∀ e ∈ es, e.Consistent)
    (h : ∀ e ∈ es, ∀ x ∈ e.asked, answer x.1 ≤ x.2) :
    ((es.map term).map (Term.worth answer)).sum ≤ (es.map subtotal).sum := by
  rw [List.map_map]
  exact List.sum_le_sum fun e he => worth_le_subtotal answer (hcons e he) (h e he)

theorem sum_le_worth (hcons : ∀ e ∈ es, e.Consistent)
    (h : ∀ e ∈ es, ∀ x ∈ e.asked, x.2 ≤ answer x.1) :
    (es.map subtotal).sum ≤ ((es.map term).map (Term.worth answer)).sum := by
  rw [List.map_map]
  exact List.sum_le_sum fun e he => subtotal_le_worth answer (hcons e he) (h e he)

theorem sum_eq_worth (hcons : ∀ e ∈ es, e.Consistent)
    (h : ∀ e ∈ es, ∀ x ∈ e.asked, x.2 = answer x.1) :
    (es.map subtotal).sum = ((es.map term).map (Term.worth answer)).sum :=
  le_antisymm (sum_le_worth answer hcons fun e he x hx => (h e he x hx).le)
    (sum_worth_le answer hcons fun e he x hx => (h e he x hx).ge)

theorem forall₂_questions_iff {R : Int × Int → Int → Prop} (hcons : ∀ e ∈ es, e.Consistent) :
    List.Forall₂ R ((es.map term).flatMap Term.questions) ((es.flatMap asked).map Prod.snd) ↔
      ∀ e ∈ es, ∀ x ∈ e.asked, R x.1 x.2 := by
  -- Questions and rolls are the two sides of one list.
  have hquestions : (es.map term).flatMap Term.questions = (es.flatMap asked).map Prod.fst := by
    rw [List.flatMap_map, List.map_flatMap]
    exact List.flatMap_congr fun e he => (map_fst_asked (hcons e he)).symm
  rw [hquestions, List.forall₂_map_left_iff, List.forall₂_map_right_iff, List.forall₂_same]
  simp only [List.mem_flatMap, forall_exists_index, and_imp]
  exact ⟨fun h e he x hx => h x e he hx, fun h x e he hx => h e he x hx⟩

end

theorem map_snd_asked_of_entry {r : Rolled} {e : Entry} (h : r.score.entry? = some e) :
    e.asked.map Prod.snd = r.values := by
  cases r with
  | constant value =>
      obtain rfl := Option.some.inj h
      rfl
  | dice ds keep =>
      cases ds with
      | nil => simp [Rolled.score, Score.entry?] at h
      | cons d ds =>
          obtain rfl := Option.some.inj h
          rw [asked, List.map_map]
          exact List.map_id _

theorem map_snd_asked_of_entries {rs : List Rolled} {es : List Entry}
    (h : Score.entries? (rs.map Rolled.score) = some es) :
    (es.flatMap asked).map Prod.snd = rs.flatMap Rolled.values := by
  rw [Score.entries?_eq_some_iff, List.forall₂_map_left_iff] at h
  induction h with
  | nil => rfl
  | cons he _ ih =>
      rw [List.flatMap_cons, List.map_append, List.flatMap_cons, ih, map_snd_asked_of_entry he]

end Entry

/-! ## Reports -/

/-- What a report on the terms may say. -/
structure Report.InRange (p : Report) (ts : List Term) : Prop where
  terms : p.entries.map Entry.term = ts
  entries : ∀ e ∈ p.entries, e.InRange
  total : p.total = (p.entries.map Entry.subtotal).sum
  least_le : (ts.map Term.least).sum ≤ p.total
  le_greatest : p.total ≤ (ts.map Term.greatest).sum

/-- A report on the terms lists the answers that it was given. -/
structure Report.Lists (p : Report) (ts : List Term) (vs : List Int) : Prop where
  terms : p.entries.map Entry.term = ts
  entries : ∀ e ∈ p.entries, e.Consistent
  total : p.total = (p.entries.map Entry.subtotal).sum
  answers : (p.entries.flatMap Entry.asked).map Prod.snd = vs

namespace Report.Lists

variable {p : Report} {ts : List Term} {vs : List Int}

theorem forall_asked (h : p.Lists ts vs) {R : Int × Int → Int → Prop}
    (hR : List.Forall₂ R (ts.flatMap Term.questions) vs) :
    ∀ e ∈ p.entries, ∀ x ∈ e.asked, R x.1 x.2 := by
  rw [← h.terms, ← h.answers] at hR
  exact (Entry.forall₂_questions_iff h.entries).1 hR

theorem inRange (h : p.Lists ts vs)
    (hvs : List.Forall₂ (fun q v => q.1 ≤ v ∧ v ≤ q.2) (ts.flatMap Term.questions) vs) :
    p.InRange ts := by
  have hasked := h.forall_asked hvs
  have hlow := Entry.sum_worth_le Prod.fst h.entries fun e he x hx => (hasked e he x hx).1
  have hhigh := Entry.sum_le_worth Prod.snd h.entries fun e he x hx => (hasked e he x hx).2
  rw [h.terms, Term.worth_fst, ← h.total] at hlow
  rw [h.terms, Term.worth_snd, ← h.total] at hhigh
  exact ⟨h.terms, fun e he => Entry.inRange_of_consistent (h.entries e he) (hasked e he),
    h.total, hlow, hhigh⟩

theorem total_of_answers (h : p.Lists ts vs) (answer : Int × Int → Int)
    (hvs : vs = (ts.flatMap Term.questions).map answer) :
    p.total = (ts.map (Term.worth answer)).sum := by
  have hsame : List.Forall₂ (fun q v => v = answer q) (ts.flatMap Term.questions) vs := by
    rw [hvs, List.forall₂_map_right_iff, List.forall₂_same]
    exact fun _ _ => rfl
  rw [h.total, ← h.terms]
  exact Entry.sum_eq_worth answer h.entries (h.forall_asked hsame)

end Report.Lists

section
variable {σ : Type} {g : Generator σ} {text : String} {r : Request}

theorem exists_report_of_answered (hread : Request.read text = .ok r) (source : String)
    (stamp : Stamp) {s s' : σ} {vs : List Int} (hask : g.askAll r.questions s = (.ok vs, s')) :
    ∃ p, rollReport g text source stamp s = (.ok p, s') ∧ p.Lists r.terms vs := by
  obtain ⟨rs, hshapes, hvalues, -, -, hreport⟩ := rolls_of_answered hread hask
  obtain ⟨p, hp, hroll, -⟩ := hreport source stamp
  obtain ⟨hes, htotal⟩ := Outcome.entries_of_report hp
  obtain ⟨hterms, hcons, hsum⟩ :=
    Rolled.entries_of_shapes (Request.valid_of_read hread).2 hshapes hes
  exact ⟨p, hroll, hterms, hcons, htotal.trans hsum,
    (Entry.map_snd_asked_of_entries hes).trans hvalues⟩

theorem exists_report_of_steady (hread : Request.read text = .ok r) (source : String)
    (stamp : Stamp) (pick : Int → Int → Int) :
    ∃ p, rollReport (.steady pick) text source stamp () = (.ok p, ()) ∧
      p.total = (r.terms.map (Term.worth fun q => pick q.1 q.2)).sum := by
  have hask := Generator.steady_askAll pick r.questions
  obtain ⟨p, hroll, hlists⟩ := exists_report_of_answered hread source stamp hask
  exact ⟨p, hroll, hlists.total_of_answers _ rfl⟩

theorem Request.le_of_mem_questions (hread : Request.read text = .ok r) {q : Int × Int}
    (hq : q ∈ r.questions) : q.1 ≤ q.2 := by
  obtain ⟨t, ht, hqt⟩ := List.mem_flatMap.1 hq
  exact Term.le_of_mem_questions ((Request.valid_of_read hread).2 t ht) hqt

theorem Request.map_fst_questions (r : Request) :
    r.questions.map Prod.fst = List.replicate r.questions.length 1 := by
  rw [List.map_eq_replicate_iff]
  intro q hq
  obtain ⟨t, -, hqt⟩ := List.mem_flatMap.1 hq
  exact Term.fst_of_mem_questions hqt

end

/-- A text that is read promises a range.  Whatever a generator that keeps to the bounds
answers, each die shows one of its sides, each subtotal is in the range of its term, and the
total, the exact sum of the subtotals, is in the range of all terms.  Answers of 1
throughout come to the lower end and the last side throughout to the upper end. -/
theorem totals_stay_in_range {text : String} {r : Request} (hread : Request.read text = .ok r)
    (source : String) (stamp : Stamp) :
    (∀ (σ : Type) (g : Generator σ), g.Bounded → ∀ (s s' : σ) (vs : List Int),
      g.askAll r.questions s = (.ok vs, s') →
        ∃ p, rollReport g text source stamp s = (.ok p, s') ∧ p.InRange r.terms ∧
          ((∀ v ∈ vs, v = 1) → p.total = (r.terms.map Term.least).sum) ∧
          (vs = r.questions.map Prod.snd → p.total = (r.terms.map Term.greatest).sum)) ∧
      (∃ p, rollReport (.steady fun low _ => low) text source stamp () = (.ok p, ()) ∧
        p.total = (r.terms.map Term.least).sum) ∧
      ∃ p, rollReport (.steady fun _ high => high) text source stamp () = (.ok p, ()) ∧
        p.total = (r.terms.map Term.greatest).sum := by
  refine ⟨?_, ?_, ?_⟩
  · intro σ g hg s s' vs hask
    obtain ⟨p, hroll, hlists⟩ := exists_report_of_answered hread source stamp hask
    have hvs := hg.askAll (fun q hq => Request.le_of_mem_questions hread hq) hask
    refine ⟨p, hroll, hlists.inRange hvs, fun hones => ?_, fun hlast => ?_⟩
    · -- Every question starts at 1, so these are the lower ends of all questions.
      have hfirst : vs = r.questions.map Prod.fst := by
        rw [r.map_fst_questions, List.eq_replicate_iff]
        exact ⟨Generator.length_of_askAll hask, hones⟩
      rw [← Term.worth_fst]
      exact hlists.total_of_answers Prod.fst hfirst
    · rw [← Term.worth_snd]
      exact hlists.total_of_answers Prod.snd hlast
  · rw [← Term.worth_fst]
    exact exists_report_of_steady hread source stamp fun low _ => low
  · rw [← Term.worth_snd]
    exact exists_report_of_steady hread source stamp fun _ high => high

/-- A group with a rule, a constant and a single die come to 3 at least and 27 at most. -/
theorem totals_stay_in_range_of_three_terms :
    let text := "2d6:dis +1 d20"
    let stamp : Stamp := ⟨7, ⟨2024, 2, 9, 7, 5, 0⟩⟩
    let middle : Generator Unit := .steady fun low high => (low + high) / 2
    middle.Bounded ∧
      (∃ p, rollReport middle text "middle" stamp () = (.ok p, ()) ∧
        p.InRange [.dice 2 6 (some ⟨.disadvantage, 1⟩), .constant 1, .dice 1 20 none]) ∧
      (∃ p, rollReport (.steady fun low _ => low) text "low" stamp () = (.ok p, ()) ∧ p.total = 3) ∧
      ∃ p, rollReport (.steady fun _ high => high) text "high" stamp () = (.ok p, ()) ∧
        p.total = 27 := by
  intro text stamp middle
  have hread : Request.read text =
      .ok ⟨text, [.dice 2 6 (some ⟨.disadvantage, 1⟩), .constant 1, .dice 1 20 none]⟩ := by
    decide
  have hmiddle : middle.Bounded := Generator.steady_bounded fun low high hle => by omega
  refine ⟨hmiddle, ?_, ?_, ?_⟩
  · obtain ⟨p, hroll, hrange, -⟩ :=
      (totals_stay_in_range hread "middle" stamp).1 Unit middle hmiddle () () [3, 3, 10] rfl
    exact ⟨p, hroll, hrange⟩
  · exact (totals_stay_in_range hread "low" stamp).2.1
  · exact (totals_stay_in_range hread "high" stamp).2.2

end DiceRoller
