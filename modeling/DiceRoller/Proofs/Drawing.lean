import DiceRoller.Proofs.Grammar.Sentence
import DiceRoller.Report

/-!
What rolling asks the generator, and what it does with the answers.

A term asks one question for each of its dice, and a request asks the questions of its
terms in their order.  Rolling is asking them all and dealing the answers out to the dice
(`Term.rollAll_of_answered`), up to the first error (`Term.rollAll_of_raised`).  The
questions and the shapes of the rolled terms are those of the terms, so no answer has a
say in what is asked after it.
-/

namespace DiceRoller

/-! ## Asking in order -/

namespace Generator

variable {σ : Type} (g : Generator σ)

/-- Ask questions in order, up to the first error. -/
def askAll : List (Int × Int) → σ → Except Raised (List Int) × σ
  | [], s => (.ok [], s)
  | q :: qs, s =>
    match g.draw q.1 q.2 s with
    | (.error e, s) => (.error e, s)
    | (.ok v, s) =>
      let (vs, s) := askAll qs s
      (vs.map (v :: ·), s)

variable {g}

theorem askAll_nil_eq_iff {s s' : σ} {vs : Except Raised (List Int)} :
    g.askAll [] s = (vs, s') ↔ vs = .ok [] ∧ s' = s := by
  rw [askAll, Prod.mk.injEq, eq_comm, @eq_comm _ s]

theorem askAll_cons_of_ok {q : Int × Int} {v : Int} {s m : σ}
    (h : g.draw q.1 q.2 s = (.ok v, m)) (qs : List (Int × Int)) :
    g.askAll (q :: qs) s = ((g.askAll qs m).1.map (v :: ·), (g.askAll qs m).2) := by
  rw [askAll, h]

theorem askAll_cons_of_error {q : Int × Int} {e : Raised} {s m : σ}
    (h : g.draw q.1 q.2 s = (.error e, m)) (qs : List (Int × Int)) :
    g.askAll (q :: qs) s = (.error e, m) := by
  rw [askAll, h]

theorem askAll_cons_eq_ok_iff {q : Int × Int} {qs : List (Int × Int)} {s s' : σ}
    {vs : List Int} :
    g.askAll (q :: qs) s = (.ok vs, s') ↔
      ∃ v m ws, g.draw q.1 q.2 s = (.ok v, m) ∧ g.askAll qs m = (.ok ws, s') ∧
        vs = v :: ws := by
  rcases hdraw : g.draw q.1 q.2 s with ⟨e | v, m⟩
  · simp [askAll_cons_of_error hdraw]
  · rw [askAll_cons_of_ok hdraw]
    rcases hrest : g.askAll qs m with ⟨e | ws, m'⟩
    · simp [hrest, Except.map]
    · simp [hrest, Except.map, eq_comm, and_comm]

theorem askAll_cons_eq_error_iff {q : Int × Int} {qs : List (Int × Int)} {e : Raised}
    {s s' : σ} :
    g.askAll (q :: qs) s = (.error e, s') ↔
      g.draw q.1 q.2 s = (.error e, s') ∨
        ∃ v m, g.draw q.1 q.2 s = (.ok v, m) ∧ g.askAll qs m = (.error e, s') := by
  rcases hdraw : g.draw q.1 q.2 s with ⟨e' | v, m⟩
  · simp [askAll_cons_of_error hdraw]
  · rw [askAll_cons_of_ok hdraw]
    rcases hrest : g.askAll qs m with ⟨e' | ws, m'⟩
    · simp [hrest, Except.map]
    · simp [hrest, Except.map]

theorem length_of_askAll {qs : List (Int × Int)} {s s' : σ} {vs : List Int}
    (h : g.askAll qs s = (.ok vs, s')) : vs.length = qs.length := by
  induction qs generalizing s vs with
  | nil =>
      obtain ⟨hvs, -⟩ := askAll_nil_eq_iff.1 h
      rw [Except.ok.inj hvs]
      rfl
  | cons q qs ih =>
      obtain ⟨v, m, ws, -, hrest, rfl⟩ := askAll_cons_eq_ok_iff.1 h
      rw [List.length_cons, List.length_cons, ih hrest]

theorem askAll_append_of_ok {ps : List (Int × Int)} {s m : σ} {us : List Int}
    (h : g.askAll ps s = (.ok us, m)) (qs : List (Int × Int)) :
    g.askAll (ps ++ qs) s = ((g.askAll qs m).1.map (us ++ ·), (g.askAll qs m).2) := by
  induction ps generalizing s us with
  | nil =>
      obtain ⟨hus, rfl⟩ := askAll_nil_eq_iff.1 h
      obtain rfl := Except.ok.inj hus
      rcases hrest : g.askAll qs m with ⟨e | ws, m'⟩ <;> simp [hrest, Except.map]
  | cons p ps ih =>
      obtain ⟨v, n, ws, hdraw, hrest, rfl⟩ := askAll_cons_eq_ok_iff.1 h
      rw [List.cons_append, askAll_cons_of_ok hdraw, ih hrest]
      cases (g.askAll qs m).1 <;> rfl

theorem askAll_append_of_error {ps : List (Int × Int)} {e : Raised} {s m : σ}
    (h : g.askAll ps s = (.error e, m)) (qs : List (Int × Int)) :
    g.askAll (ps ++ qs) s = (.error e, m) := by
  induction ps generalizing s with
  | nil => simp [askAll_nil_eq_iff] at h
  | cons p ps ih =>
      rcases askAll_cons_eq_error_iff.1 h with hdraw | ⟨v, n, hdraw, hrest⟩
      · exact askAll_cons_of_error hdraw (ps ++ qs)
      · rw [List.cons_append, askAll_cons_of_ok hdraw, ih hrest]
        rfl

/-- All of `ps ++ qs` is answered when all of `ps` is and then all of `qs`. -/
theorem exists_of_askAll_append {ps qs : List (Int × Int)} {s s' : σ} {vs : List Int}
    (h : g.askAll (ps ++ qs) s = (.ok vs, s')) :
    ∃ us m ws, g.askAll ps s = (.ok us, m) ∧ g.askAll qs m = (.ok ws, s') ∧
      us ++ ws = vs := by
  rcases hfirst : g.askAll ps s with ⟨e | us, m⟩
  · rw [askAll_append_of_error hfirst] at h
    simp at h
  · rw [askAll_append_of_ok hfirst] at h
    rcases hrest : g.askAll qs m with ⟨e | ws, n⟩
    · simp [hrest, Except.map] at h
    · obtain ⟨rfl, rfl⟩ : us ++ ws = vs ∧ n = s' := by simpa [hrest, Except.map] using h
      exact ⟨us, m, ws, rfl, hrest, rfl⟩

theorem raised_of_askAll_append {ps qs : List (Int × Int)} {e : Raised} {s s' : σ}
    (h : g.askAll (ps ++ qs) s = (.error e, s')) :
    g.askAll ps s = (.error e, s') ∨
      ∃ us m, g.askAll ps s = (.ok us, m) ∧ g.askAll qs m = (.error e, s') := by
  rcases hfirst : g.askAll ps s with ⟨e' | us, m⟩
  · rw [askAll_append_of_error hfirst] at h
    exact Or.inl h
  · rw [askAll_append_of_ok hfirst] at h
    rcases hrest : g.askAll qs m with ⟨e' | ws, n⟩
    · obtain ⟨rfl, rfl⟩ : e' = e ∧ n = s' := by simpa [hrest, Except.map] using h
      exact Or.inr ⟨us, m, rfl, hrest⟩
    · simp [hrest, Except.map] at h

/-! ## The questions on record -/

end Generator

/-! ## What a term asks and what becomes of it -/

/-- What is known of a rolled term before its dice are rolled. -/
inductive Shape where
  | constant (value : Int)
  | dice (sides : List Int) (keep : Option Keep)
  deriving DecidableEq, Repr

namespace Rolled

def shape : Rolled → Shape
  | constant value => .constant value
  | dice ds keep => .dice (ds.map Die.sides) keep

/-- The sides that came up, in the order of rolling. -/
def values : Rolled → List Int
  | constant _ => []
  | dice ds _ => ds.map Die.value

end Rolled

theorem Die.eq_of_sides_of_values {ds es : List Die}
    (hsides : ds.map Die.sides = es.map Die.sides)
    (hvalues : ds.map Die.value = es.map Die.value) : ds = es := by
  induction ds generalizing es with
  | nil => exact (List.map_eq_nil_iff.1 hsides.symm).symm
  | cons d ds ih =>
      cases es with
      | nil => simp at hsides
      | cons e es =>
          rw [List.map_cons, List.map_cons, List.cons.injEq] at hsides hvalues
          obtain ⟨sides, value⟩ := d
          obtain rfl : sides = e.sides := hsides.1
          obtain rfl : value = e.value := hvalues.1
          rw [ih hsides.2 hvalues.2]

namespace Rolled

theorem length_values_of_shape {r q : Rolled} (h : r.shape = q.shape) :
    r.values.length = q.values.length := by
  cases r with
  | constant value =>
      cases q with
      | constant value' => rfl
      | dice es keep' => simp [shape] at h
  | dice ds keep =>
      cases q with
      | constant value' => simp [shape] at h
      | dice es keep' =>
          have hlength := congrArg List.length (Shape.dice.inj h).1
          rw [List.length_map, List.length_map] at hlength
          rw [values, values, List.length_map, List.length_map, hlength]

theorem eq_of_shape_of_values {r q : Rolled} (hshape : r.shape = q.shape)
    (hvalues : r.values = q.values) : r = q := by
  cases r with
  | constant value =>
      cases q with
      | constant value' => rw [Shape.constant.inj hshape]
      | dice es keep' => simp [shape] at hshape
  | dice ds keep =>
      cases q with
      | constant value' => simp [shape] at hshape
      | dice es keep' =>
          obtain ⟨hsides, rfl⟩ := Shape.dice.inj hshape
          rw [Die.eq_of_sides_of_values hsides hvalues]

/-- Rolled terms are known by their shapes and by the sides that came up. -/
theorem eq_of_shapes_of_values {rs qs : List Rolled} (hshapes : rs.map shape = qs.map shape)
    (hvalues : rs.flatMap values = qs.flatMap values) : rs = qs := by
  induction rs generalizing qs with
  | nil => exact (List.map_eq_nil_iff.1 hshapes.symm).symm
  | cons r rs ih =>
      cases qs with
      | nil => simp at hshapes
      | cons q qs =>
          obtain ⟨hshape, hshapes⟩ := List.cons.inj hshapes
          rw [List.flatMap_cons, List.flatMap_cons] at hvalues
          obtain ⟨hvalue, hvalues⟩ := List.append_inj hvalues (length_values_of_shape hshape)
          rw [eq_of_shape_of_values hshape hvalue, ih hshapes hvalues]

end Rolled

namespace Term

/-- The questions of a term: from 1 to its sides, once for each of its dice. -/
def questions : Term → List (Int × Int)
  | constant _ => []
  | dice count sides _ => List.replicate count.toNat (1, sides)

/-- As many dice as the term counts, all of its sides, under its rule. -/
def shape : Term → Shape
  | constant value => .constant value
  | dice count sides keep => .dice (List.replicate count.toNat sides) keep

end Term

/-- The questions of a request, in the order of its terms. -/
def Request.questions (r : Request) : List (Int × Int) :=
  r.terms.flatMap Term.questions

section
variable {σ : Type} {g : Generator σ}

theorem Die.rollMany_eq_askAll (sides : Int) (n : Nat) (s : σ) :
    Die.rollMany g sides n s =
      ((g.askAll (List.replicate n (1, sides)) s).1.map (List.map (Die.mk sides)),
        (g.askAll (List.replicate n (1, sides)) s).2) := by
  induction n generalizing s with
  | zero => rfl
  | succ n ih =>
      rw [List.replicate_succ, Die.rollMany]
      rcases hdraw : g.draw 1 sides s with ⟨e | v, m⟩
      · rw [Generator.askAll_cons_of_error hdraw]
        rfl
      · rw [Generator.askAll_cons_of_ok hdraw]
        simp only [ih]
        cases (g.askAll (List.replicate n (1, sides)) m).1 <;> rfl

namespace Term

theorem roll_of_answered {t : Term} {s s' : σ} {vs : List Int}
    (h : g.askAll t.questions s = (.ok vs, s')) :
    ∃ r, t.roll g s = (.ok r, s') ∧ r.shape = t.shape ∧ r.values = vs := by
  cases t with
  | constant value =>
      obtain ⟨hvs, rfl⟩ := Generator.askAll_nil_eq_iff.1 h
      exact ⟨.constant value, rfl, rfl, (Except.ok.inj hvs).symm⟩
  | dice count sides keep =>
      rw [questions] at h
      have hlength : vs.length = count.toNat := by
        rw [Generator.length_of_askAll h, List.length_replicate]
      refine ⟨.dice (vs.map (Die.mk sides)) keep, ?_, ?_, ?_⟩
      · rw [roll, Die.rollMany_eq_askAll, h]
        rfl
      · rw [Rolled.shape, shape, List.map_map, ← hlength, ← List.map_const']
        rfl
      · rw [Rolled.values, List.map_map]
        exact List.map_id vs

theorem roll_of_raised {t : Term} {e : Raised} {s s' : σ}
    (h : g.askAll t.questions s = (.error e, s')) : t.roll g s = (.error e, s') := by
  cases t with
  | constant value => simp [questions, Generator.askAll_nil_eq_iff] at h
  | dice count sides keep =>
      rw [questions] at h
      rw [roll, Die.rollMany_eq_askAll, h]
      rfl

/-- If the generator answers all questions, every term becomes a rolled term of its
shape, and the dice show the answers in their order. -/
theorem rollAll_of_answered {ts : List Term} {s s' : σ} {vs : List Int}
    (h : g.askAll (ts.flatMap questions) s = (.ok vs, s')) :
    ∃ rs, rollAll g ts s = (.ok rs, s') ∧ rs.map Rolled.shape = ts.map shape ∧
      rs.flatMap Rolled.values = vs := by
  induction ts generalizing s vs with
  | nil =>
      obtain ⟨hvs, rfl⟩ := Generator.askAll_nil_eq_iff.1 h
      exact ⟨[], rfl, rfl, (Except.ok.inj hvs).symm⟩
  | cons t ts ih =>
      rw [List.flatMap_cons] at h
      obtain ⟨us, m, ws, hfirst, hrest, rfl⟩ := Generator.exists_of_askAll_append h
      obtain ⟨r, hroll, hshape, hvalues⟩ := roll_of_answered hfirst
      obtain ⟨rs, hrolls, hshapes, hvalues'⟩ := ih hrest
      refine ⟨r :: rs, ?_, ?_, ?_⟩
      · rw [rollAll, hroll]
        simp only [hrolls]
        rfl
      · rw [List.map_cons, List.map_cons, hshape, hshapes]
      · rw [List.flatMap_cons, hvalues, hvalues']

theorem rollAll_of_raised {ts : List Term} {e : Raised} {s s' : σ}
    (h : g.askAll (ts.flatMap questions) s = (.error e, s')) :
    rollAll g ts s = (.error e, s') := by
  induction ts generalizing s with
  | nil => simp [Generator.askAll_nil_eq_iff] at h
  | cons t ts ih =>
      rw [List.flatMap_cons] at h
      rw [rollAll]
      rcases Generator.raised_of_askAll_append h with hfirst | ⟨us, m, hfirst, hrest⟩
      · simp only [roll_of_raised hfirst]
      · obtain ⟨r, hroll, -, -⟩ := roll_of_answered hfirst
        simp only [hroll, ih hrest]
        rfl

theorem shape_of_rollAll {ts : List Term} {s s' : σ} {rs : List Rolled}
    (h : rollAll g ts s = (.ok rs, s')) : rs.map Rolled.shape = ts.map shape := by
  rcases hask : g.askAll (ts.flatMap questions) s with ⟨e | vs, m⟩
  · rw [rollAll_of_raised hask] at h
    simp at h
  · obtain ⟨qs, hrolls, hshapes, -⟩ := rollAll_of_answered hask
    rw [hrolls] at h
    obtain ⟨rfl, -⟩ : qs = rs ∧ m = s' := by simpa using h
    exact hshapes

end Term

end

/-! ## Rolled terms of a request -/

theorem Rolled.exists_term {ts : List Term} {rs : List Rolled}
    (h : rs.map Rolled.shape = ts.map Term.shape) {r : Rolled} (hr : r ∈ rs) :
    ∃ t ∈ ts, r.shape = t.shape := by
  have hmem : r.shape ∈ ts.map Term.shape := by
    rw [← h]
    exact List.mem_map_of_mem hr
  obtain ⟨t, ht, hshape⟩ := List.mem_map.1 hmem
  exact ⟨t, ht, hshape.symm⟩

/-- A rolled group has as many dice as its term counts, and its rule. -/
theorem Rolled.dice_of_shape {t : Term} {ds : List Die} {keep : Option Keep}
    (h : (Rolled.dice ds keep).shape = t.shape) :
    ∃ count sides, t = .dice count sides keep ∧ ds.length = count.toNat := by
  cases t with
  | constant value => simp [Rolled.shape, Term.shape] at h
  | dice count sides keep' =>
      obtain ⟨hsides, rfl⟩ := Shape.dice.inj h
      have hlength := congrArg List.length hsides
      rw [List.length_map, List.length_replicate] at hlength
      exact ⟨count, sides, rfl, hlength⟩

theorem Rolled.entry_score {t : Term} {r : Rolled} (hvalid : t.Valid)
    (h : r.shape = t.shape) : ∃ e, r.score.entry? = some e := by
  cases r with
  | constant value => exact ⟨_, rfl⟩
  | dice ds keep =>
      obtain ⟨count, sides, rfl, hlength⟩ := Rolled.dice_of_shape h
      have hcount := hvalid.1.1
      cases ds with
      | nil =>
          rw [List.length_nil] at hlength
          omega
      | cons d ds => exact ⟨_, rfl⟩

theorem Score.entries_of_forall {ss : List Score} (h : ∀ s ∈ ss, ∃ e, s.entry? = some e) :
    ∃ es, entries? ss = some es := by
  induction ss with
  | nil => exact ⟨[], rfl⟩
  | cons s ss ih =>
      obtain ⟨e, he⟩ := h s List.mem_cons_self
      obtain ⟨es, hes⟩ := ih fun s' hs' => h s' (List.mem_cons_of_mem s hs')
      exact ⟨e :: es, by rw [entries?, he, hes]⟩

/-- The entry shows the rolled term: the same constant, or the same dice under the same rule,
with what came up in the order of rolling. -/
def Entry.Shows : Entry → Rolled → Prop
  | .constant value _, .constant value' => value = value'
  | .dice count sides rolls _ _ keep, .dice ds keep' =>
    count = ds.length ∧ rolls.map (Die.mk sides) = ds ∧ keep = keep'
  | _, _ => False

theorem Rolled.shows_of_shape {t : Term} {r : Rolled} {e : Entry} (h : r.shape = t.shape)
    (he : r.score.entry? = some e) : e.Shows r := by
  cases r with
  | constant value =>
      obtain rfl := Option.some.inj he
      exact rfl
  | dice ds keep =>
      obtain ⟨count, sides, rfl, -⟩ := Rolled.dice_of_shape h
      have hsides : ∀ d ∈ ds, d.sides = sides := by
        intro d hd
        have hmem : d.sides ∈ List.replicate count.toNat sides := by
          rw [← (Shape.dice.inj h).1]
          exact List.mem_map_of_mem hd
        exact List.eq_of_mem_replicate hmem
      cases ds with
      | nil => simp [score, Score.entry?] at he
      | cons d ds =>
          obtain rfl := Option.some.inj he
          refine ⟨rfl, ?_, rfl⟩
          rw [List.map_map]
          refine (List.map_congr_left fun d' hd' => ?_).trans (List.map_id _)
          show Die.mk d.sides d'.value = d'
          rw [hsides d List.mem_cons_self, ← hsides d' hd']

theorem Score.entries?_eq_some_iff {ss : List Score} {es : List Entry} :
    entries? ss = some es ↔ List.Forall₂ (fun s e => s.entry? = some e) ss es := by
  induction ss generalizing es with
  | nil => simp [entries?, eq_comm]
  | cons s ss ih =>
      rw [List.forall₂_cons_left_iff, entries?]
      constructor
      · intro h
        split at h
        · rename_i e es' he hes
          obtain rfl := Option.some.inj h
          exact ⟨e, es', he, ih.1 hes, rfl⟩
        · simp at h
      · rintro ⟨e, es', he, hes, rfl⟩
        rw [he, ih.2 hes]

theorem Rolled.shows_of_shapes {ts : List Term} {rs : List Rolled} {es : List Entry}
    (h : rs.map Rolled.shape = ts.map Term.shape)
    (hes : Score.entries? (rs.map Rolled.score) = some es) : List.Forall₂ Entry.Shows es rs := by
  rw [Score.entries?_eq_some_iff, List.forall₂_map_left_iff] at hes
  induction hes generalizing ts with
  | nil => exact .nil
  | @cons r e rs es he _ ih =>
      cases ts with
      | nil => simp at h
      | cons t ts =>
          obtain ⟨hshape, hshapes⟩ := List.cons.inj h
          exact .cons (shows_of_shape hshape he) (ih hshapes)

theorem Outcome.report_of_shape {r : Request} {rs : List Rolled}
    (hvalid : ∀ t ∈ r.terms, t.Valid) (h : rs.map Rolled.shape = r.terms.map Term.shape)
    (source : String) (stamp : Stamp) :
    ∃ p, (Outcome.ofRolled r rs).report source stamp = .ok p ∧
      List.Forall₂ Entry.Shows p.entries rs := by
  have hentries : ∀ s ∈ rs.map Rolled.score, ∃ e, s.entry? = some e := by
    intro s hs
    obtain ⟨token, htoken, rfl⟩ := List.mem_map.1 hs
    obtain ⟨t, ht, hshape⟩ := Rolled.exists_term h htoken
    exact Rolled.entry_score (hvalid t ht) hshape
  obtain ⟨es, hes⟩ := Score.entries_of_forall hentries
  simp only [Outcome.report, Outcome.ofRolled, hes]
  exact ⟨_, rfl, Rolled.shows_of_shapes h hes⟩

section
variable {σ : Type} {g : Generator σ}

variable {text : String} {r : Request}

theorem rollReport_of_refused {fault : Fault} (h : Request.read text = .error fault)
    (source : String) (stamp : Stamp) (s : σ) :
    rollReport g text source stamp s = (.error (.refused fault), s) := by
  rw [rollReport, rollText, h]
  rfl

theorem rollText_eq_ok {s s' : σ} {o : Outcome} (h : rollText g text s = (.ok o, s')) :
    ∃ r rs, Request.read text = .ok r ∧ Term.rollAll g r.terms s = (.ok rs, s') ∧
      Outcome.ofRolled r rs = o := by
  rw [rollText] at h
  cases hread : Request.read text with
  | error fault => simp [hread] at h
  | ok r =>
      simp only [hread, Request.roll] at h
      rcases hroll : Term.rollAll g r.terms s with ⟨e | rs, m⟩
      · simp [hroll] at h
      · obtain ⟨rfl, rfl⟩ : Outcome.ofRolled r rs = o ∧ m = s' := by simpa [hroll] using h
        exact ⟨r, rs, rfl, hroll, rfl⟩

/-- What both ways of rolling a text come to if all questions are answered. -/
theorem rolls_of_answered (hread : Request.read text = .ok r) {s s' : σ} {vs : List Int}
    (h : g.askAll r.questions s = (.ok vs, s')) :
    ∃ rs, rs.map Rolled.shape = r.terms.map Term.shape ∧ rs.flatMap Rolled.values = vs ∧
      rollTerms g text s = (.ok rs, s') ∧ rollText g text s = (.ok (.ofRolled r rs), s') ∧
      ∀ source stamp, ∃ p, (Outcome.ofRolled r rs).report source stamp = .ok p ∧
        rollReport g text source stamp s = (.ok p, s') ∧
        List.Forall₂ Entry.Shows p.entries rs := by
  obtain ⟨rs, hrolls, hshapes, hvalues⟩ := Term.rollAll_of_answered h
  have htext : rollText g text s = (.ok (.ofRolled r rs), s') := by
    rw [rollText, hread]
    simp only [Request.roll, hrolls]
  refine ⟨rs, hshapes, hvalues, ?_, htext, fun source stamp => ?_⟩
  · rw [rollTerms, hread]
    simp only [hrolls]
  · obtain ⟨p, hp, hshows⟩ :=
      Outcome.report_of_shape (Request.valid_of_read hread).2 hshapes source stamp
    refine ⟨p, hp, ?_, hshows⟩
    rw [rollReport, htext]
    exact congrArg (·, s') hp

end

end DiceRoller
