import DiceRoller.Proofs.Grammar.Joining
import DiceRoller.Proofs.Report
import DiceRoller.Service.Session

/-!
A service with a seed is one stream of numbers.

A call takes from the generator the answers to the questions of its request and leaves the
rest (`Service.answer_of_answered`).  A call that asks nothing leaves the generator as it
was, so leaving it out changes nothing in the other answers but the stamps of their reports
(`Service.run_kept`).  Requests one after the other ask what their texts ask together, in the
same order, so they roll the same dice as one request for all of them (`Service.run_rolls`).
-/

namespace DiceRoller

/-- Whether all questions are answered, one after the other. -/
def Generator.Answers {σ : Type} (g : Generator σ) (qs : List (Int × Int)) (s : σ) : Prop :=
  ∃ vs s', g.askAll qs s = (.ok vs, s')

/-! ## Calls -/

namespace Call

/-- The questions that a call asks the generator. -/
def questions : Call → List (Int × Int)
  | roll text =>
    match Request.read text with
    | .ok r => r.questions
    | .error _ => []
  | help => []

/-- A call for help, or a request that is refused. -/
def Idle : Call → Prop
  | roll text => ∃ fault, Request.read text = .error fault
  | help => True

/-- A text that can be read gets a report, and any other the message of its fault. -/
def Answered : Call → Service.Answer → Prop
  | roll text, a =>
    match Request.read text with
    | .ok _ => ∃ p, a.reply = .report p
    | .error fault => a.reply = .refused fault.message
  | help, a => a.reply = .help Service.helpText

end Call

/-- The reply that tells the result of a roll. -/
def Reply.ofResult : Except Failure Report → Reply
  | .ok p => .report p
  | .error (.refused fault) => .refused fault.message
  | .error failure => .failed failure

/-! ## Answers without their stamps -/

def Report.unstamped (p : Report) : Report := { p with id := "", time := "" }

def Reply.unstamped : Reply → Reply
  | .report p => .report p.unstamped
  | reply => reply

/-- An answer apart from the stamp of its report. -/
def Service.Answer.unstamped (a : Service.Answer) : Service.Answer :=
  { a with reply := a.reply.unstamped }

namespace Service

section
variable {σ : Type} {g : Generator σ} (source : String)

/-- Answering a request is rolling it and telling the result. -/
theorem roll_eq_rollReport (text : String) (stamp : Stamp) (s : σ) :
    (Service.roll g source text stamp s).1.reply =
        Reply.ofResult (rollReport g text source stamp s).1 ∧
      (Service.roll g source text stamp s).2 = (rollReport g text source stamp s).2 := by
  rw [Service.roll, rollReport, rollText]
  cases Request.read text with
  | error fault => exact ⟨rfl, rfl⟩
  | ok r =>
      simp only [Request.roll]
      rcases Term.rollAll g r.terms s with ⟨_ | rs, m⟩
      · exact ⟨rfl, rfl⟩
      · simp only [Outcome.report, Except.bind]
        cases Score.entries? (Outcome.ofRolled r rs).scores <;> exact ⟨rfl, rfl⟩

theorem answer_of_idle {c : Call} (h : c.Idle) (stamp : Stamp) (s : σ) :
    (answer g source c stamp s).2 = s := by
  cases c with
  | roll text =>
      obtain ⟨fault, hfault⟩ := h
      rw [answer, roll_of_refused g source hfault]
  | help => rfl

/-- The stamp of a request is seen in its report and nowhere else. -/
theorem roll_restamped (text : String) (stamp stamp' : Stamp) (s : σ) :
    (roll g source text stamp' s).1.unstamped = (roll g source text stamp s).1.unstamped ∧
      (roll g source text stamp' s).2 = (roll g source text stamp s).2 := by
  cases hread : Request.read text with
  | error fault =>
      rw [roll_of_refused g source hread, roll_of_refused g source hread]
      exact ⟨rfl, rfl⟩
  | ok r =>
      simp only [roll, hread]
      rcases r.roll g s with ⟨failure | o, s'⟩
      · exact ⟨rfl, rfl⟩
      · simp only [Outcome.report]
        cases Score.entries? o.scores with
        | none => exact ⟨rfl, rfl⟩
        | some es =>
            simp only [Answer.unstamped, Reply.unstamped, Report.unstamped, and_self]

theorem answer_restamped (c : Call) (stamp stamp' : Stamp) (s : σ) :
    (answer g source c stamp' s).1.unstamped = (answer g source c stamp s).1.unstamped ∧
      (answer g source c stamp' s).2 = (answer g source c stamp s).2 := by
  cases c with
  | roll text => exact roll_restamped source text stamp stamp' s
  | help => exact ⟨rfl, rfl⟩

/-- A request that is answered gets the report of its rolled terms. -/
theorem roll_of_answered {text : String} {r : Request} (hread : Request.read text = .ok r)
    (stamp : Stamp) {s s' : σ} {vs : List Int} (h : g.askAll r.questions s = (.ok vs, s')) :
    ∃ rs p, rs.map Rolled.shape = r.terms.map Term.shape ∧ rs.flatMap Rolled.values = vs ∧
      (Outcome.ofRolled r rs).report source stamp = .ok p ∧
      (answer g source (.roll text) stamp s).1.reply = .report p ∧
      (answer g source (.roll text) stamp s).2 = s' := by
  obtain ⟨rs, hshapes, hvalues, -, -, hreport⟩ := rolls_of_answered hread h
  obtain ⟨p, hp, hroll, -⟩ := hreport source stamp
  obtain ⟨hreply, hstate⟩ := roll_eq_rollReport source text stamp s
  rw [hroll] at hreply hstate
  exact ⟨rs, p, hshapes, hvalues, hp, hreply, hstate⟩

theorem answer_of_answered {c : Call} (stamp : Stamp) {s s' : σ} {vs : List Int}
    (h : g.askAll c.questions s = (.ok vs, s')) :
    c.Answered (answer g source c stamp s).1 ∧ (answer g source c stamp s).2 = s' := by
  cases c with
  | help =>
      obtain ⟨-, rfl⟩ := Generator.askAll_nil_eq_iff.1 h
      exact ⟨rfl, rfl⟩
  | roll text =>
      rw [Call.questions] at h
      cases hread : Request.read text with
      | error fault =>
          rw [hread] at h
          obtain ⟨-, rfl⟩ := Generator.askAll_nil_eq_iff.1 h
          rw [answer, roll_of_refused g source hread]
          simp only [Call.Answered, hread, and_self]
      | ok r =>
          rw [hread] at h
          obtain ⟨rs, p, -, -, -, hreply, hstate⟩ := roll_of_answered source hread stamp h
          simp only [Call.Answered, hread]
          exact ⟨⟨p, hreply⟩, hstate⟩

/-! ## Runs -/

theorem run_of_answered {calls : List Call} (stamps : Nat → Stamp) {s s' : σ} {vs : List Int}
    (h : g.askAll (calls.flatMap Call.questions) s = (.ok vs, s')) :
    List.Forall₂ Call.Answered calls (run g source calls stamps s).1 := by
  induction calls generalizing stamps s vs with
  | nil => exact .nil
  | cons c calls ih =>
      rw [List.flatMap_cons] at h
      obtain ⟨us, m, ws, hfirst, hrest, -⟩ := Generator.exists_of_askAll_append h
      obtain ⟨hanswer, hstate⟩ := answer_of_answered source (stamps 0) hfirst
      rw [run]
      refine .cons hanswer ?_
      show List.Forall₂ _ calls (run g source calls _ (answer g source c (stamps 0) s).2).1
      rw [hstate]
      exact ih _ hrest

/-- The items that are marked to stay. -/
def kept {α : Type} (plan : List (Bool × α)) : List α := (plan.filter Prod.fst).map Prod.snd

/-- Leaving out calls that ask nothing changes the other answers in their stamps only. -/
theorem run_kept {plan : List (Bool × Call)} (h : ∀ p ∈ plan, p.1 = false → p.2.Idle)
    (stamps stamps' : Nat → Stamp) (s : σ) :
    (run g source (kept plan) stamps' s).1.map Answer.unstamped =
      kept ((plan.map Prod.fst).zip
        ((run g source (plan.map Prod.snd) stamps s).1.map Answer.unstamped)) := by
  induction plan generalizing stamps stamps' s with
  | nil => rfl
  | cons p plan ih =>
      obtain ⟨stays, c⟩ := p
      have hrest := ih fun q hq => h q (List.mem_cons_of_mem _ hq)
      cases stays with
      | true =>
          obtain ⟨hanswer, hstate⟩ := answer_restamped (g := g) source c (stamps 0) (stamps' 0) s
          show (run g source (c :: kept plan) stamps' s).1.map _ = _
          simp only [run, List.map_cons, List.zip_cons_cons, hanswer, hstate,
            hrest fun i => stamps (i + 1)]
          rfl
      | false =>
          have hidle : c.Idle := h _ List.mem_cons_self rfl
          show (run g source (kept plan) stamps' s).1.map _ = _
          simp only [run, List.map_cons, List.zip_cons_cons, answer_of_idle source hidle,
            hrest fun i => stamps (i + 1)]
          rfl

/-- Requests one after the other roll the dice of all their terms in order, with the answers
to all their questions. -/
theorem run_rolls {texts : List String} {rs : List Request}
    (hread : List.Forall₂ (fun text r => Request.read text = .ok r) texts rs)
    (stamps : Nat → Stamp) {s s' : σ} {vs : List Int}
    (h : g.askAll (rs.flatMap Request.questions) s = (.ok vs, s')) :
    ∃ (ps : List Report) (rolled : List Rolled),
      (run g source (texts.map Call.roll) stamps s).1.map Answer.reply = ps.map Reply.report ∧
        rolled.map Rolled.shape = (rs.flatMap Request.terms).map Term.shape ∧
        rolled.flatMap Rolled.values = vs ∧
        Score.entries? (rolled.map Rolled.score) = some (ps.flatMap Report.entries) ∧
        Score.total (rolled.map Rolled.score) = (ps.map Report.total).sum := by
  induction hread generalizing stamps s vs with
  | nil =>
      obtain ⟨hvs, -⟩ := Generator.askAll_nil_eq_iff.1 h
      exact ⟨[], [], rfl, rfl, (Except.ok.inj hvs).symm, rfl, rfl⟩
  | @cons text r texts rs hfirst _ ih =>
      rw [List.flatMap_cons] at h
      obtain ⟨us, m, ws, hus, hws, rfl⟩ := Generator.exists_of_askAll_append h
      obtain ⟨rolled, p, hshapes, hvalues, hp, hreply, hstate⟩ :=
        roll_of_answered source hfirst (stamps 0) hus
      obtain ⟨ps, rest, hreplies, hshapes', hvalues', hentries', htotal'⟩ :=
        ih (fun i => stamps (i + 1)) hws
      obtain ⟨hentries, htotal⟩ := Outcome.entries_of_report hp
      refine ⟨p :: ps, rolled ++ rest, ?_, ?_, ?_, ?_, ?_⟩
      · simp only [List.map_cons, run, hreply, hstate, hreplies]
      · rw [List.map_append, List.flatMap_cons, List.map_append, hshapes, hshapes']
      · rw [List.flatMap_append, hvalues, hvalues']
      · rw [List.map_append, List.flatMap_cons]
        exact Score.entries?_append hentries hentries'
      · rw [List.map_append, Score.total_append, ← htotal, htotal', List.map_cons, List.sum_cons]

end
end Service

/-! ## Joined texts -/

/-- Texts with blanks between any two of them. -/
def joined (first : String) (rest : List (Break × String)) : String :=
  rest.foldl (fun text p => text ++ p.1.text ++ p.2) first

namespace Request

theorem read_joined {first : String} {r : Request} (hfirst : Request.read first = .ok r)
    {rest : List (Break × String)} {rs : List Request}
    (hrest : List.Forall₂ (fun p r => Request.read p.2 = .ok r) rest rs) :
    Request.read (joined first rest) =
      .ok ⟨joined first rest, (r :: rs).flatMap Request.terms⟩ := by
  induction hrest generalizing first r with
  | nil =>
      have hinput := (read_eq_ok_iff_readAll.1 hfirst).2.2
      show Request.read first = .ok ⟨first, r.terms ++ []⟩
      rw [hfirst, List.append_nil, ← hinput]
  | @cons p q rest rs hp _ ih =>
      have hnext := ih (read_append_of_ok_of_ok (w := p.1) hfirst hp)
      rw [List.flatMap_cons, List.append_assoc, ← List.flatMap_cons, ← List.flatMap_cons]
        at hnext
      exact hnext

theorem exists_of_forall_read {texts : List String}
    (h : ∀ text ∈ texts, ∃ r, Request.read text = .ok r) :
    ∃ rs, List.Forall₂ (fun text r => Request.read text = .ok r) texts rs := by
  induction texts with
  | nil => exact ⟨[], .nil⟩
  | cons text texts ih =>
      obtain ⟨r, hr⟩ := h text List.mem_cons_self
      obtain ⟨rs, hrs⟩ := ih fun t ht => h t (List.mem_cons_of_mem text ht)
      exact ⟨r :: rs, .cons hr hrs⟩

theorem questions_of_forall_read {texts : List String} {rs : List Request}
    (h : List.Forall₂ (fun text r => Request.read text = .ok r) texts rs) :
    (texts.map Call.roll).flatMap Call.questions = rs.flatMap Request.questions := by
  induction h with
  | nil => rfl
  | cons hr _ ih => simp only [List.map_cons, List.flatMap_cons, Call.questions, hr, ih]

end Request

/-! ## Sessions -/

namespace Session

/-- With a seed, a session answers as the service does with the generator it has or would
make. -/
theorem run_eq_run {σ : Type} (g : Generator σ) (ofSeed : Int → σ) (source : String)
    (calls : List Call) (outside : Nat → Outside σ) {v : Session σ} {seed : Int}
    (h : v.settings.seed = some seed) :
    (run g ofSeed source calls outside v).1 =
      (Service.run g source calls (fun i => (outside i).stamp)
        (v.shared.getD (ofSeed seed))).1 := by
  induction calls generalizing outside v with
  | nil => rfl
  | cons c calls ih =>
      cases c with
      | help =>
          simp only [run, answer, Service.run, Service.answer, ih _ h]
      | roll text =>
          have hgenerator : ∀ system, v.generator ofSeed system = v.shared.getD (ofSeed seed) := by
            intro system
            rw [generator, h]
          have hkeep : ∀ s, v.keep s = ⟨v.settings, some s⟩ := by
            intro s
            rw [keep, if_pos (by rw [Settings.sharesSource, h]; rfl)]
          have hrest : ∀ rest s, (run g ofSeed source calls rest (v.keep s)).1 =
              (Service.run g source calls (fun i => (rest i).stamp) s).1 := by
            intro rest s
            rw [hkeep]
            exact ih rest h
          simp only [run, answer, Service.run, Service.answer, hgenerator, hrest]

end Session

theorem Request.questions_flatMap (rs : List Request) :
    rs.flatMap Request.questions = (rs.flatMap Request.terms).flatMap Term.questions := by
  rw [List.flatMap_assoc]
  rfl

/-- Texts that are read one after the other come to the same entries and the same total as
their joined text. -/
theorem Service.run_joined {σ : Type} {g : Generator σ} (source : String) {first : String}
    {rest : List (Break × String)}
    (hread : ∀ text ∈ first :: rest.map Prod.snd, ∃ r, Request.read text = .ok r)
    (stamps stamps' : Nat → Stamp) {s : σ}
    (hask : g.Answers (((first :: rest.map Prod.snd).map Call.roll).flatMap Call.questions) s) :
    ∃ (ps : List Report) (p : Report),
      (run g source ((first :: rest.map Prod.snd).map Call.roll) stamps s).1.map Answer.reply =
        ps.map Reply.report ∧
      (run g source [.roll (joined first rest)] stamps' s).1.map Answer.reply = [.report p] ∧
      p.entries = ps.flatMap Report.entries ∧ p.total = (ps.map Report.total).sum := by
  obtain ⟨rs, hall⟩ := Request.exists_of_forall_read hread
  obtain ⟨vs, s', hvs⟩ := hask
  rw [Request.questions_of_forall_read hall] at hvs
  obtain ⟨ps, rolled, hreplies, hshapes, hvalues, hentries, htotal⟩ :=
    run_rolls source hall stamps hvs
  cases hall with
  | @cons _ r _ rs hfirst hrest =>
      have hjoined := Request.read_joined hfirst (List.forall₂_map_left_iff.1 hrest)
      rw [Request.questions_flatMap] at hvs
      obtain ⟨rolled', p, hshapes', hvalues', hp, hreply, -⟩ :=
        roll_of_answered source hjoined (stamps' 0) hvs
      obtain rfl : rolled' = rolled :=
        Rolled.eq_of_shapes_of_values (hshapes'.trans hshapes.symm)
          (hvalues'.trans hvalues.symm)
      obtain ⟨hentries', htotal'⟩ := Outcome.entries_of_report hp
      refine ⟨ps, p, hreplies, ?_, ?_, ?_⟩
      · simp only [run, List.map_cons, List.map_nil, hreply]
      · rw [hentries] at hentries'
        exact (Option.some.inj hentries').symm
      · rw [htotal', htotal]

/-- With a seed a session is one stream of numbers, and only requests that can be read draw
from it.  They get reports and all others the message of their fault.  To leave out calls
for help and requests that are refused changes no other answer apart from the stamp of its
report.  Requests one after the other report together what one request for all their texts
reports. -/
theorem seeded_session_is_one_stream {σ : Type} (g : Generator σ) (ofSeed : Int → σ)
    (source : String) (settings : Settings) (seed : Int) :
    let serve : List Call → (Nat → Outside σ) → List Service.Answer := fun calls outside =>
      (Session.run g ofSeed source calls outside (.start { settings with seed := some seed })).1
    (∀ calls outside, g.Answers (calls.flatMap Call.questions) (ofSeed seed) →
      List.Forall₂ Call.Answered calls (serve calls outside)) ∧
    (∀ plan : List (Bool × Call), (∀ p ∈ plan, p.1 = false → p.2.Idle) →
      ∀ outside outside', (serve (Service.kept plan) outside').map Service.Answer.unstamped =
        Service.kept ((plan.map Prod.fst).zip
          ((serve (plan.map Prod.snd) outside).map Service.Answer.unstamped))) ∧
    ∀ (first : String) (rest : List (Break × String)),
      (∀ text ∈ first :: rest.map Prod.snd, ∃ r, Request.read text = .ok r) →
      g.Answers (((first :: rest.map Prod.snd).map Call.roll).flatMap Call.questions)
        (ofSeed seed) →
      ∀ outside outside', ∃ (ps : List Report) (p : Report),
        (serve ((first :: rest.map Prod.snd).map Call.roll) outside).map Service.Answer.reply =
          ps.map Reply.report ∧
        (serve [.roll (joined first rest)] outside').map Service.Answer.reply = [.report p] ∧
        p.entries = ps.flatMap Report.entries ∧ p.total = (ps.map Report.total).sum := by
  intro serve
  have hserve : ∀ calls outside, serve calls outside =
      (Service.run g source calls (fun i => (outside i).stamp) (ofSeed seed)).1 :=
    fun calls outside => Session.run_eq_run g ofSeed source calls outside rfl
  simp only [hserve]
  refine ⟨fun calls outside hask => ?_, fun plan hplan outside outside' => ?_,
    fun first rest hread hask outside outside' => ?_⟩
  · obtain ⟨vs, s', hvs⟩ := hask
    exact Service.run_of_answered source _ hvs
  · exact Service.run_kept source hplan _ _ _
  · exact Service.run_joined source hread _ _ hask

/-- The statement for two requests that are read, one that is refused and a call for help,
with the numbers 6, 4 and 1 for the seed 42. -/
theorem seeded_session_is_one_stream_of_three :
    let g := Generator.script []
    let outside : Nat → Outside (List Int) := fun i => ⟨⟨i, ⟨2024, 2, 9, 7, 5, i⟩⟩, []⟩
    let serve : List Call → List Service.Answer := fun calls =>
      (Session.run g (fun _ => [6, 4, 1]) "Random" calls outside
        (.start { Settings.standard with seed := some 42 })).1
    let tab : Break := ⟨⟨['\t'], by decide⟩, by decide⟩
    List.Forall₂ Call.Answered [.roll "d6 +1", .roll "0", .help, .roll "2d20:adv"]
        (serve [.roll "d6 +1", .roll "0", .help, .roll "2d20:adv"]) ∧
      (serve [.roll "d6 +1", .roll "2d20:adv"]).map Service.Answer.unstamped =
        Service.kept ([true, false, false, true].zip
          ((serve [.roll "d6 +1", .roll "0", .help, .roll "2d20:adv"]).map
            Service.Answer.unstamped)) ∧
      ∃ (ps : List Report) (p : Report),
        (serve [.roll "d6 +1", .roll "2d20:adv"]).map Service.Answer.reply =
          ps.map Reply.report ∧
        (serve [.roll (joined "d6 +1" [(tab, "2d20:adv")])]).map Service.Answer.reply =
          [.report p] ∧
        p.entries = ps.flatMap Report.entries ∧ p.total = (ps.map Report.total).sum := by
  intro g outside serve tab
  have hstream :=
    seeded_session_is_one_stream g (fun _ => [6, 4, 1]) "Random" Settings.standard 42
  have hrefused : Request.read "0" =
      .error (.within (.word .constant) "0" (.number "0" .zero)) := by decide
  have hfirst : Request.read "d6 +1" = .ok ⟨"d6 +1", [.dice 1 6 none, .constant 1]⟩ := by
    decide
  have hsecond : Request.read "2d20:adv" =
      .ok ⟨"2d20:adv", [.dice 2 20 (some ⟨.advantage, 1⟩)]⟩ := by decide
  refine ⟨?_, ?_, ?_⟩
  · exact hstream.1 _ outside ⟨[6, 4, 1], [], by decide⟩
  · refine hstream.2.1 [(true, .roll "d6 +1"), (false, .roll "0"), (false, .help),
      (true, .roll "2d20:adv")] (fun p hp hleft => ?_) outside outside
    have hcases : p = (true, .roll "d6 +1") ∨ p = (false, .roll "0") ∨ p = (false, .help) ∨
        p = (true, .roll "2d20:adv") := by simpa using hp
    rcases hcases with rfl | rfl | rfl | rfl
    · simp at hleft
    · exact ⟨_, hrefused⟩
    · trivial
    · simp at hleft
  · refine hstream.2.2 "d6 +1" [(tab, "2d20:adv")] (fun text htext => ?_)
      ⟨[6, 4, 1], [], by decide⟩ outside outside
    have hcases : text = "d6 +1" ∨ text = "2d20:adv" := by simpa using htext
    rcases hcases with rfl | rfl
    · exact ⟨_, hfirst⟩
    · exact ⟨_, hsecond⟩

/-- With another call before it a request gets another stamp, so its answer as a whole does
change when that call is left out.  And no texts at all make no text that is read. -/
theorem answer_has_own_stamp :
    let outside : Nat → Outside (List Int) := fun i => ⟨⟨i, ⟨2024, 2, 9, 7, 5, i⟩⟩, []⟩
    let serve : List Call → List Service.Answer := fun calls =>
      (Session.run (.script []) (fun _ => [4]) "Random" calls outside
        (.start { Settings.standard with seed := some 42 })).1
    let plan : List (Bool × Call) := [(false, .help), (true, .roll "d6")]
    (∀ p ∈ plan, p.1 = false → p.2.Idle) ∧
      serve (Service.kept plan) ≠
        Service.kept ((plan.map Prod.fst).zip (serve (plan.map Prod.snd))) ∧
      (serve [.roll ""]).map Service.Answer.reply = [.refused Fault.emptyRequest.message] := by
  intro outside serve plan
  refine ⟨fun p hp hleft => ?_, by decide +kernel, by decide⟩
  have hcases : p = (false, .help) ∨ p = (true, .roll "d6") := by simpa [plan] using hp
  rcases hcases with rfl | rfl
  · trivial
  · simp at hleft

end DiceRoller
