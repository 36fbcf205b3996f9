import DiceRoller.Proofs.Message
import DiceRoller.Proofs.OneLine
import DiceRoller.Proofs.Session

/-!
What a request leaves in the journal.

A text of a player gets into a record of level `info` in two ways only.  It is quoted, and then
every line break of it is an escape.  Or a fault names a part of it.  Such a part lies within a
word (`Term.partsOf_refusal`), so it has no blanks, the message is a text of lines
(`Fault.Chain.lined_message`) and its one line tells the message.
-/

namespace DiceRoller

/-! ## The texts that a fault names -/

namespace Fault

def tokens : Fault → List String
  | number token _ | bare _ token => [token]
  | unreadableTake cause => cause.tokens
  | within _ token cause => token :: cause.tokens
  | greedyTake _ _ | noWords _ => []

/-- The fault names nothing that is not in `cs`. -/
def PartsOf (cs : List Char) (a : Fault) : Prop := ∀ token ∈ a.tokens, token.toList ⊆ cs

theorem PartsOf.mono {cs ds : List Char} {a : Fault} (h : a.PartsOf cs) (hsub : cs ⊆ ds) :
    a.PartsOf ds :=
  fun token htoken => List.Subset.trans (h token htoken) hsub

theorem partsOf_number (token : String) (issue : NumberIssue) :
    (number token issue).PartsOf token.toList :=
  List.forall_mem_singleton.2 (List.Subset.refl _)

theorem partsOf_bare (site : Site) (token : String) : (bare site token).PartsOf token.toList :=
  List.forall_mem_singleton.2 (List.Subset.refl _)

theorem PartsOf.within {site : Site} {token : String} {cause : Fault}
    (h : cause.PartsOf token.toList) : (within site token cause).PartsOf token.toList :=
  List.forall_mem_cons.2 ⟨List.Subset.refl _, h⟩

end Fault

theorem Keep.partsOf_flaw {count : Int} {m : List Char} {flaw : Fault → Prop}
    (hflaw : flaw ∈ flaws count m) {e : Fault} (h : flaw e) :
    e.PartsOf (String.ofList m).toList := by
  rcases List.mem_cons.1 hflaw with rfl | hflaw
  · obtain ⟨-, rfl⟩ := h
    exact Fault.partsOf_bare _ _
  · rcases List.mem_cons.1 hflaw with rfl | hflaw
    · obtain ⟨r, rfl, -, issue, -, rfl⟩ := h
      refine Fault.PartsOf.within ((Fault.partsOf_number _ issue).mono ?_)
      rw [String.toList_ofList, String.toList_ofList]
      exact List.subset_append_right _ _
    · obtain rfl := List.mem_singleton.1 hflaw
      obtain ⟨r, -, -, rfl⟩ := h
      exact Fault.PartsOf.within fun token htoken => absurd htoken List.not_mem_nil

namespace Term

theorem partsOf_numberFlaw {issue : GroupIssue} {ds : List Char} {e : Fault}
    (h : GroupParts.NumberFlaw issue ds e) : e.PartsOf ds := by
  obtain ⟨-, k, -, rfl⟩ := h
  have hparts : (Fault.within (.group issue) (String.ofList ds)
      (.number (String.ofList ds) k)).PartsOf (String.ofList ds).toList :=
    (Fault.partsOf_number _ k).within
  rwa [String.toList_ofList] at hparts

theorem partsOf_flaws {p : GroupParts} {e : Fault} (h : Fault.First p.flaws e) :
    e.PartsOf p.text.toList := by
  rw [GroupParts.text, String.toList_ofList]
  rcases h with h | ⟨-, h | ⟨-, h⟩⟩
  · exact (partsOf_numberFlaw h).mono (List.subset_append_left _ _)
  · refine (partsOf_numberFlaw h).mono fun c hc => ?_
    exact List.mem_append_right _ (List.mem_cons_of_mem _ (List.mem_append_left _ hc))
  · cases hrule : p.keep with
    | none =>
        rw [hrule] at h
        exact h.elim
    | some m =>
        rw [hrule, GroupParts.ruleFlaws, Fault.first_map_within] at h
        obtain ⟨cause, hcause, rfl⟩ := h
        obtain ⟨flaw, hflaw, hcause⟩ := Fault.exists_of_first hcause
        refine (Keep.partsOf_flaw hflaw hcause).within.mono fun c hc => ?_
        rw [String.toList_ofList] at hc
        exact List.mem_append_right _ (List.mem_cons_of_mem _ (List.mem_append_right _
          (List.mem_cons_of_mem _ hc)))

/-- A word is refused with a fault that names nothing but the word and parts of it. -/
theorem partsOf_refusal {text : String} {fault : Fault} (h : Refusal text fault) :
    fault.PartsOf text.toList := by
  cases h with
  | constant => exact (Fault.partsOf_number text _).within
  | group htext _ hcause =>
      refine Fault.PartsOf.within ?_
      rw [htext]
      exact partsOf_flaws hcause
  | malformed => exact Fault.partsOf_bare _ text

end Term

/-! ## Messages are texts of lines -/

theorem NumberIssue.lined_text (i : NumberIssue) : Text.Lined i.text := by
  cases i <;> decide

theorem Site.lined_text (s : Site) : Text.Lined s.text := by
  rcases s with ⟨⟨⟩⟩ | ⟨⟨⟩⟩ | ⟨⟨⟩⟩ <;> decide

namespace Fault

/-- The line that names a text without blanks, and the lines behind it. -/
theorem lined_heading_append {token rest : String} (htoken : Text.Solid token)
    (hrest : Text.Lined rest) : Text.Lined (heading token ++ rest) := by
  have hmark : Text.Lined ("`" ++ token) := by
    have hsolid : Text.Solid "`" := by decide
    exact (hsolid.append htoken).lined ⟨'`', by rw [String.toList_append]; rfl, by decide⟩
  have hstart : Text.Lined "Error parsing " := by decide
  have hend : Text.Lined "`." := by decide
  have hparts : heading token ++ rest =
      "Error parsing " ++ ("`" ++ token) ++ "`." ++ ("\n" ++ rest) := by
    -- The mark is cut off behind the blank, and the newline off the end of its line.
    show "Error parsing " ++ "`" ++ token ++ ("`." ++ "\n") ++ rest = _
    simp only [String.append_assoc]
  rw [hparts]
  exact ((hstart.append hmark).append hend).append hrest.newline_append

theorem lined_message_greedyTake (take count : Int) :
    Text.Lined (greedyTake take count).message := by
  have hstart : Text.Lined "dice to leave (" := by decide
  have hmiddle : Text.Lined ") cannot be more than dice thrown (" := by decide
  have hend : Text.Lined ")" := by decide
  exact (((hstart.append (Text.lined_toString take)).append hmiddle).append
    (Text.lined_toString count)).append hend

/-- If no text that a fault names has blanks, its message is a text of lines. -/
theorem Chain.lined_message {l : Level} {a : Fault} (h : Chain l a)
    (hsolid : ∀ token ∈ a.tokens, Text.Solid token) : Text.Lined a.message := by
  have hcolon : Text.Lined ": " := by decide
  induction h with
  | @number token issue _ =>
      exact lined_heading_append (hsolid token List.mem_cons_self) issue.lined_text
  | unreadableTake _ ih => exact ih hsolid
  | greedyTake => exact lined_message_greedyTake _ _
  | @bare site token _ _ _ _ =>
      exact lined_heading_append (hsolid token List.mem_cons_self) site.lined_text
  | @within site token cause _ _ _ _ _ _ ih =>
      have hcause := ih fun t ht => hsolid t (List.mem_cons_of_mem token ht)
      rw [message_within_cause]
      exact lined_heading_append (hsolid token List.mem_cons_self)
        (site.lined_text.append (hcolon.append hcause))

end Fault

/-- Whatever the text, the message that refuses it is a text of lines. -/
theorem Request.lined_message {text : String} {fault : Fault}
    (h : Request.read text = .error fault) : Text.Lined fault.message := by
  rcases exists_refusal_of_read h with rfl | ⟨word, hword, hrefusal⟩
  · decide
  · have hsolid := solid_of_mem_wordsOf hword
    refine (Term.chain_of_refusal hsolid.singleLine hrefusal).lined_message ?_
    exact fun token htoken c hc => hsolid c (Term.partsOf_refusal hrefusal token htoken hc)

/-! ## Records -/

/-- Two texts that start with different labels are different. -/
theorem Text.append_ne_append {s t : String} (hst : ¬ s.toList <+: t.toList)
    (hts : ¬ t.toList <+: s.toList) (x y : String) : s ++ x ≠ t ++ y := by
  intro h
  have hs : s.toList <+: (s ++ x).toList := by
    rw [String.toList_append]
    exact List.prefix_append _ _
  have ht : t.toList <+: (s ++ x).toList := by
    rw [h, String.toList_append]
    exact List.prefix_append _ _
  exact (List.prefix_or_prefix_of_prefix hs ht).elim hst hts

namespace Record

def StartsWith (r : Record) (label : String) : Prop := ∃ rest, r.message = label ++ rest

theorem unbroken_asked (text : String) : Text.Unbroken (asked text).message :=
  Text.Unbroken.append (by decide) (Text.unbroken_quoted text)

theorem unbroken_answered (total : Int) : Text.Unbroken (answered total).message :=
  Text.Unbroken.append (by decide) (Text.solid_toString total).unbroken

theorem unbroken_refused (message : String) : Text.Unbroken (refused message).message :=
  Text.Unbroken.append (by decide) (Text.unbroken_onOneLine message)

theorem message_answered_eq_iff {m n : Int} :
    (answered m).message = "roll_dice ok | total=" ++ toString n ↔ m = n := by
  refine ⟨fun h => Int.repr_inj.1 ((String.append_right_inj _).1 h), ?_⟩
  rintro rfl
  rfl

theorem rolled_startsWith (o : Outcome) : (rolled o).StartsWith "Rolled " := by
  refine ⟨Text.quoted o.request.expression ++ " => " ++ toString o.total, ?_⟩
  show "Rolled " ++ _ ++ _ ++ _ = _
  simp only [String.append_assoc]

theorem ofFault?_eq_some {fault : Fault} {record : Record} (h : ofFault? fault = some record) :
    record.severity = .debug ∧ record.StartsWith "Rejected token " := by
  rw [ofFault?] at h
  split at h
  · rename_i token text _ _
    obtain rfl := Option.some.inj h
    refine ⟨rfl, Text.quoted token ++ ": " ++ text, ?_⟩
    simp only [String.append_assoc]
  · cases h

/-- The fault of a word leaves a record. -/
theorem exists_ofFault? {fault : Fault} (h : fault.typeName = "TokenError") :
    ∃ record, ofFault? fault = some record := by
  cases fault with
  | bare | within => exact ⟨_, rfl⟩
  | _ => simp [Fault.typeName] at h

theorem not_startsWith_of_startsWith {r : Record} {a b : String} (h : r.StartsWith a)
    (hab : ¬ a.toList <+: b.toList) (hba : ¬ b.toList <+: a.toList) : ¬ r.StartsWith b := by
  obtain ⟨x, hx⟩ := h
  rintro ⟨y, hy⟩
  exact Text.append_ne_append hab hba x y (hx.symm.trans hy)

end Record

namespace Service

section
variable {σ : Type} {g : Generator σ} {source text : String}

/-- A request that is read gets a report and is recorded as rolled and as answered, or it fails
with no more than a record that it was rolled. -/
theorem roll_of_read {r : Request} (h : Request.read text = .ok r) (stamp : Stamp) (s : σ) :
    (∃ o p, (Service.roll g source text stamp s).1 =
      ⟨.report p, [Record.asked text, Record.rolled o, Record.answered p.total]⟩) ∨
    ∃ failure notes, (Service.roll g source text stamp s).1 =
      ⟨.failed failure, Record.asked text :: notes⟩ ∧
        ∀ note ∈ notes, ∃ o, note = Record.rolled o := by
  rw [Service.roll, h]
  rcases hroll : r.roll g s with ⟨failure | o, s'⟩
  · refine Or.inr ⟨failure, [], ?_, by simp⟩
    simp only [hroll]
  · cases hreport : o.report source stamp with
    | error failure =>
        refine Or.inr ⟨failure, [Record.rolled o], ?_, by simp⟩
        simp only [hroll, hreport]
    | ok p =>
        refine Or.inl ⟨o, p, ?_⟩
        simp only [hroll, hreport]

/-- A record of level `info` is one line, whatever the text and whatever the generator does. -/
theorem unbroken_of_mem_roll {stamp : Stamp} {s : σ} {record : Record}
    (h : record ∈ (Service.roll g source text stamp s).1.records)
    (hinfo : record.severity = .info) : Text.Unbroken record.message := by
  cases hread : Request.read text with
  | error fault =>
      rw [roll_of_refused g source hread, List.cons_append] at h
      rcases List.mem_cons.1 h with rfl | h
      · exact Record.unbroken_asked text
      · rcases List.mem_append.1 h with h | h
        · have hdebug := (Record.ofFault?_eq_some (Option.mem_toList.1 h)).1
          rw [hinfo] at hdebug
          cases hdebug
        · rw [List.mem_singleton.1 h]
          exact Record.unbroken_refused fault.message
  | ok r =>
      rcases roll_of_read hread stamp s with ⟨o, p, ha⟩ | ⟨failure, notes, ha, hnotes⟩
      · rw [ha] at h
        rcases List.mem_cons.1 h with rfl | h
        · exact Record.unbroken_asked text
        · rcases List.mem_cons.1 h with rfl | h
          · cases hinfo
          · rw [List.mem_singleton.1 h]
            exact Record.unbroken_answered p.total
      · rw [ha] at h
        rcases List.mem_cons.1 h with rfl | h
        · exact Record.unbroken_asked text
        · obtain ⟨o, rfl⟩ := hnotes record h
          cases hinfo

/-- What a request with an answer leaves in the journal: first a record of the text, last one
of the outcome, and notes between them, which who reads from `info` on does not see. -/
structure Recorded (text : String) (a : Answer) (first : Record) (notes : List Record)
    (outcome : Record) : Prop where
  records : a.records = first :: notes ++ [outcome]
  first_info : first.severity = .info
  first_message : first.message = "roll_dice | text=" ++ Text.quoted text
  notes_debug : ∀ note ∈ notes, note.severity = .debug
  outcome_info : outcome.severity = .info
  /-- The outcome is a total exactly if there is a report, and then it is that of the report. -/
  answered : ∀ total : Int, outcome.message = "roll_dice ok | total=" ++ toString total ↔
    ∃ p, a.reply = .report p ∧ p.total = total
  /-- The outcome of a refusal has the message on one line. -/
  refused : ∀ fault, Request.read text = .error fault → a.reply = .refused fault.message ∧
    outcome.message = "roll_dice rejected | error=" ++ Text.withSlashes fault.message
  noted_rolled : (∃ note ∈ notes, note.StartsWith "Rolled ") ↔ ∃ r, Request.read text = .ok r
  noted_rejected : (∃ note ∈ notes, note.StartsWith "Rejected token ") ↔
    ∃ fault, Request.read text = .error fault ∧ fault.typeName = "TokenError"

theorem recorded_of_refused {fault : Fault} (h : Request.read text = .error fault)
    (stamp : Stamp) (s : σ) :
    Recorded text (Service.roll g source text stamp s).1 (Record.asked text)
      (Record.ofFault? fault).toList (Record.refused fault.message) := by
  have hnotes : ∀ note ∈ (Record.ofFault? fault).toList,
      note.severity = .debug ∧ note.StartsWith "Rejected token " :=
    fun note hnote => Record.ofFault?_eq_some (Option.mem_toList.1 hnote)
  rw [roll_of_refused g source h]
  refine ⟨rfl, rfl, rfl, fun note hnote => (hnotes note hnote).1, rfl, fun total => ?_,
    fun fault' h' => ?_, ?_, ?_⟩
  · refine ⟨fun he => absurd he (Text.append_ne_append (by decide) (by decide) _ _), ?_⟩
    rintro ⟨p, hp, -⟩
    cases hp
  · obtain rfl : fault = fault' := Except.error.inj (h.symm.trans h')
    refine ⟨rfl, ?_⟩
    rw [← (Request.lined_message h).onOneLine_eq]
    rfl
  · constructor
    · rintro ⟨note, hnote, hrolled⟩
      exact absurd hrolled (Record.not_startsWith_of_startsWith (hnotes note hnote).2
        (by decide) (by decide))
    · rintro ⟨r, hr⟩
      rw [h] at hr
      cases hr
  · constructor
    · rintro ⟨note, hnote, -⟩
      refine ⟨fault, h, ?_⟩
      rcases Request.read_eq_error_iff.1 h with ⟨-, rfl⟩ | hall
      · exact absurd hnote List.not_mem_nil
      · exact Request.typeName_of_readAll hall
    · rintro ⟨fault', h', hname⟩
      obtain rfl : fault = fault' := Except.error.inj (h.symm.trans h')
      obtain ⟨record, hrecord⟩ := Record.exists_ofFault? hname
      exact ⟨record, Option.mem_toList.2 hrecord, (hnotes record (Option.mem_toList.2 hrecord)).2⟩

theorem recorded_of_report {r : Request} (h : Request.read text = .ok r) (o : Outcome)
    (p : Report) :
    Recorded text ⟨.report p, [Record.asked text, Record.rolled o, Record.answered p.total]⟩
      (Record.asked text) [Record.rolled o] (Record.answered p.total) := by
  have hrolled := Record.rolled_startsWith o
  refine ⟨rfl, rfl, rfl, List.forall_mem_singleton.2 rfl, rfl, fun total => ?_,
    fun fault h' => ?_, ⟨fun _ => ⟨r, h⟩, fun _ => ⟨_, List.mem_cons_self, hrolled⟩⟩, ?_⟩
  · rw [Record.message_answered_eq_iff]
    constructor
    · exact fun htotal => ⟨p, rfl, htotal⟩
    · rintro ⟨q, hq, htotal⟩
      rwa [Reply.report.inj hq]
  · rw [h] at h'
    cases h'
  · constructor
    · rintro ⟨note, hnote, hrejected⟩
      rw [List.mem_singleton.1 hnote] at hrejected
      exact absurd hrejected (Record.not_startsWith_of_startsWith hrolled (by decide) (by decide))
    · rintro ⟨fault, h', -⟩
      rw [h] at h'
      cases h'

theorem exists_recorded {stamp : Stamp} {s : σ}
    (h : ∀ r, Request.read text = .ok r → g.Answers r.questions s) :
    ∃ first notes outcome,
      Recorded text (Service.roll g source text stamp s).1 first notes outcome := by
  cases hread : Request.read text with
  | error fault => exact ⟨_, _, _, recorded_of_refused hread stamp s⟩
  | ok r =>
      obtain ⟨vs, s', hask⟩ := h r hread
      obtain ⟨-, p, -, -, -, hreply, -⟩ := roll_of_answered source hread stamp hask
      rcases roll_of_read hread stamp s with ⟨o, q, ha⟩ | ⟨failure, notes, ha, -⟩
      · rw [ha]
        exact ⟨_, _, _, recorded_of_report hread o q⟩
      · have hfailed : (Service.roll g source text stamp s).1.reply = .report p := hreply
        rw [ha] at hfailed
        cases hfailed

/-- The first record of a request tells its text. -/
theorem first_of_roll (stamp : Stamp) (s : σ) :
    (Service.roll g source text stamp s).1.records.head? = some (Record.asked text) := by
  cases hread : Request.read text with
  | error fault =>
      rw [roll_of_refused g source hread]
      rfl
  | ok r =>
      rcases roll_of_read hread stamp s with ⟨o, p, ha⟩ | ⟨failure, notes, ha, -⟩
      · rw [ha]
        rfl
      · rw [ha]
        rfl

/-- The last record of a refusal tells its message. -/
theorem last_of_refused {fault : Fault} (h : Request.read text = .error fault) (stamp : Stamp)
    (s : σ) :
    (Service.roll g source text stamp s).1.records.getLast? =
      some (Record.refused fault.message) := by
  rw [roll_of_refused g source h, List.getLast?_append]
  rfl

end
end Service

theorem Record.asked_inj {s t : String} : asked s = asked t ↔ s = t := by
  refine ⟨fun h => ?_, congrArg asked⟩
  have hquoted := (String.append_right_inj _).1 (congrArg Record.message h)
  exact (Text.quotedBy_append_inj (congrArg (· ++ "") hquoted)).1

theorem Record.refused_inj {m n : String} (hm : Text.Lined m) (hn : Text.Lined n) :
    refused m = refused n ↔ m = n := by
  refine ⟨fun h => ?_, congrArg refused⟩
  have hline := (String.append_right_inj _).1 (congrArg Record.message h)
  rw [hm.onOneLine_eq, hn.onOneLine_eq] at hline
  exact (hm.withSlashes_inj hn).1 hline

theorem Session.exists_of_mem_run {σ : Type} {g : Generator σ} {ofSeed : Int → σ}
    {source : String} {calls : List Call} {outside : Nat → Outside σ} {v : Session σ}
    {a : Service.Answer} (h : a ∈ (run g ofSeed source calls outside v).1) :
    ∃ c ∈ calls, ∃ o v', a = (answer g ofSeed source c o v').1 := by
  induction calls generalizing outside v with
  | nil => exact absurd h List.not_mem_nil
  | cons c calls ih =>
      rcases List.mem_cons.1 h with rfl | h
      · exact ⟨c, List.mem_cons_self, outside 0, v, rfl⟩
      · obtain ⟨c', hc', hanswer⟩ := ih h
        exact ⟨c', List.mem_cons_of_mem c hc', hanswer⟩

/-- No text forges a record or splits one.  Whatever calls a session serves, its records of level
`info` are single lines.  A request leaves a record of its text first and one of its outcome
last, and no others of that level.  The first records of two requests are the same only if both
have one text, the last records of two refusals only if both have one message. -/
theorem texts_forge_no_records {σ : Type} (g : Generator σ) (ofSeed : Int → σ)
    (source : String) :
    (∀ (calls : List Call) (outside : Nat → Outside σ) (v : Session σ),
      ∀ a ∈ (Session.run g ofSeed source calls outside v).1,
        ∀ record ∈ a.records, record.severity = .info → Text.Unbroken record.message) ∧
    (∀ (text : String) (outside : Outside σ) (v : Session σ),
      (∀ r, Request.read text = .ok r →
        g.Answers r.questions (v.generator ofSeed outside.system)) →
      ∃ first notes outcome, Service.Recorded text
        (Session.answer g ofSeed source (.roll text) outside v).1 first notes outcome) ∧
    ∀ (text text' : String) (outside outside' : Outside σ) (v v' : Session σ),
      ((Session.answer g ofSeed source (.roll text) outside v).1.records.head? =
          (Session.answer g ofSeed source (.roll text') outside' v').1.records.head? ↔
        text = text') ∧
      ∀ fault fault', Request.read text = .error fault → Request.read text' = .error fault' →
        ((Session.answer g ofSeed source (.roll text) outside v).1.records.getLast? =
            (Session.answer g ofSeed source (.roll text') outside' v').1.records.getLast? ↔
          fault.message = fault'.message) := by
  refine ⟨fun calls outside v a ha record hrecord hinfo => ?_, fun text outside v hask => ?_,
    fun text text' outside outside' v v' => ⟨?_, fun fault fault' h h' => ?_⟩⟩
  · obtain ⟨c, -, o, v', rfl⟩ := Session.exists_of_mem_run ha
    cases c with
    | roll text => exact Service.unbroken_of_mem_roll hrecord hinfo
    | help => exact absurd hrecord List.not_mem_nil
  · exact Service.exists_recorded hask
  · show (Service.roll g source text _ _).1.records.head? =
      (Service.roll g source text' _ _).1.records.head? ↔ _
    rw [Service.first_of_roll, Service.first_of_roll, Option.some.injEq, Record.asked_inj]
  · show (Service.roll g source text _ _).1.records.getLast? =
      (Service.roll g source text' _ _).1.records.getLast? ↔ _
    rw [Service.last_of_refused h, Service.last_of_refused h', Option.some.injEq,
      Record.refused_inj (Request.lined_message h) (Request.lined_message h')]

/-- The statement at a request with a line separator in it, at a word with a slash and at a text
that is nothing but a line break. -/
theorem texts_forge_no_records_of_separator :
    let outside : Outside (List Int) := ⟨⟨7, ⟨2024, 2, 9, 7, 5, 0⟩⟩, [4]⟩
    let v : Session (List Int) := .start Settings.standard
    let answer : String → Service.Answer := fun text =>
      (Session.answer (.script []) (fun _ => []) "list" (.roll text) outside v).1
    let text := "d6\u2028+1"
    let first : Record := ⟨.info, "roll_dice | text='d6\\u2028+1'"⟩
    (first ∈ (answer text).records ∧ first.severity = .info ∧ Text.Unbroken first.message) ∧
    (Request.read text = .ok ⟨text, [.dice 1 6 none, .constant 1]⟩ ∧
      ∃ notes outcome, Service.Recorded text (answer text) first notes outcome) ∧
    Request.read "a/b\n" = .error (.bare (.word .malformed) "a/b") ∧
      Request.read "\u0085" = .error .emptyRequest ∧
      (answer "a/b\n").records.head? ≠ (answer "\u0085").records.head? ∧
      (answer "a/b\n").records.getLast? ≠ (answer "\u0085").records.getLast? := by
  intro outside v answer text first
  obtain ⟨hlines, hrecorded, htold⟩ :=
    texts_forge_no_records (Generator.script []) (fun _ => []) "list"
  have hread : Request.read text = .ok ⟨text, [.dice 1 6 none, .constant 1]⟩ := by decide
  have hword : Request.read "a/b\n" = .error (.bare (.word .malformed) "a/b") := by decide
  have hblank : Request.read "\u0085" = .error .emptyRequest := by decide
  obtain ⟨record, notes, outcome, h⟩ := hrecorded text outside v fun r hr => by
    obtain rfl := Except.ok.inj (hread.symm.trans hr)
    exact ⟨[4], [], rfl⟩
  obtain rfl : record = first := by
    have hquoted : Text.quoted text = "'d6\\u2028+1'" := by decide +kernel
    obtain ⟨severity, message⟩ := record
    obtain rfl : severity = .info := h.first_info
    obtain rfl : message = "roll_dice | text=" ++ Text.quoted text := h.first_message
    rw [hquoted]
    rfl
  have hasked : first ∈ (answer text).records := by
    rw [h.records]
    exact List.mem_append_left _ List.mem_cons_self
  obtain ⟨hfirst, hlast⟩ := htold "a/b\n" "\u0085" outside outside v v
  refine ⟨⟨hasked, rfl, ?_⟩, ⟨hread, notes, outcome, h⟩, hword, hblank, fun he => ?_,
    fun he => ?_⟩
  · exact hlines [.roll text] (fun _ => outside) v (answer text) List.mem_cons_self _ hasked rfl
  · exact absurd (hfirst.1 he) (by decide)
  · exact absurd ((hlast _ _ hword hblank).1 he) (by decide)

end DiceRoller
