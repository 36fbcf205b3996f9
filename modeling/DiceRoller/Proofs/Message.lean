import DiceRoller.Proofs.Grammar.Joining
import DiceRoller.Proofs.RoundTrip
import DiceRoller.Service

/-!
The message of a fault tells the whole chain.

Each level of a chain opens with a line of its own, which ends where the text it names ends,
since that text does not span lines (`Fault.heading_append_inj`).  What follows starts with
the text of the site, and no two sites of one level start with the same letter
(`Site.eq_of_text_append`).  So a message is read back level by level
(`Fault.Chain.eq_of_message`).  Every fault of a word of a request is such a chain
(`Term.chain_of_refusal`).
-/

namespace DiceRoller

/-! ## Texts on one line -/

/-- A text without a newline. -/
def Text.SingleLine (s : String) : Prop := '\n' ∉ s.toList

instance (s : String) : Decidable (Text.SingleLine s) :=
  inferInstanceAs (Decidable (_ ∉ _))

namespace Text.SingleLine

variable {s t : String}

theorem append (hs : SingleLine s) (ht : SingleLine t) : SingleLine (s ++ t) :=
  Lacks.append hs ht

theorem count_newline (hs : SingleLine s) : s.toList.count '\n' = 0 :=
  List.count_eq_zero.2 hs

theorem count_newline_append (hs : SingleLine s) (t : String) :
    (s ++ t).toList.count '\n' = t.toList.count '\n' := by
  rw [String.toList_append, List.count_append, hs.count_newline, Nat.zero_add]

end Text.SingleLine

theorem Text.Solid.singleLine {s : String} (h : Solid s) : SingleLine s :=
  fun hmem => h '\n' hmem (by decide)

theorem Text.singleLine_toString (n : Int) : SingleLine (toString n) :=
  (solid_toString n).singleLine

theorem NumberIssue.singleLine_text (i : NumberIssue) : Text.SingleLine i.text := by
  cases i <;> decide

theorem Site.singleLine_text (s : Site) : Text.SingleLine s.text := by
  rcases s with ⟨⟨⟩⟩ | ⟨⟨⟩⟩ | ⟨⟨⟩⟩ <;> decide

/-! ## Chains -/

/-- What a text was read as when it was found to be wrong. -/
inductive Part where
  | keep
  | group
  | word
  deriving DecidableEq, Repr

inductive Level where
  | number
  | take
  | site (part : Part)
  deriving DecidableEq, Repr

namespace Site

def part : Site → Part
  | keep _ => .keep
  | group _ => .group
  | word _ => .word

/-- The level of the cause of a fault at a site, if there is a deeper cause. -/
def causeLevel? : Site → Option Level
  | keep .malformed | word .malformed => none
  | keep .advantage | keep .disadvantage => some .take
  | group .count | group .sides | word .constant => some .number
  | group .keep => some (.site .keep)
  | word .group => some (.site .group)

end Site

namespace Fault

/-- A fault at a level of the grammar.  Every site has the cause that it asks for, and no text
spans lines. -/
inductive Chain : Level → Fault → Prop
  | number {token : String} {issue : NumberIssue} (htoken : Text.SingleLine token) :
      Chain .number (.number token issue)
  | unreadableTake {cause : Fault} (hcause : Chain .number cause) :
      Chain .take (.unreadableTake cause)
  | greedyTake {take count : Int} : Chain .take (.greedyTake take count)
  | bare {site : Site} {token : String} {part : Part} (hpart : site.part = part)
      (hsite : site.causeLevel? = none) (htoken : Text.SingleLine token) :
      Chain (.site part) (.bare site token)
  | within {site : Site} {token : String} {cause : Fault} {part : Part} {l : Level}
      (hpart : site.part = part) (hsite : site.causeLevel? = some l)
      (htoken : Text.SingleLine token) (hcause : Chain l cause) :
      Chain (.site part) (.within site token cause)

/-- How many texts a fault names. -/
def depth : Fault → Nat
  | number _ _ | bare _ _ => 1
  | unreadableTake cause => cause.depth
  | greedyTake _ _ | noWords _ => 0
  | within _ _ cause => cause.depth + 1

/-! ## Lines -/

theorem toList_heading_append (token rest : String) :
    (heading token ++ rest).toList =
      "Error parsing `".toList ++ ((token.toList ++ ['`', '.']) ++ '\n' :: rest.toList) := by
  have hgroup : ∀ as bs : List Char, as ++ token.toList ++ ['`', '.', '\n'] ++ bs =
      as ++ ((token.toList ++ ['`', '.']) ++ '\n' :: bs) := by
    intro as bs
    simp only [List.append_assoc, List.cons_append, List.nil_append]
  show ("Error parsing `" ++ token ++ "`.\n" ++ rest).toList = _
  rw [String.toList_append, String.toList_append, String.toList_append]
  exact hgroup _ _

/-- The first line of a message tells the text that it names. -/
theorem heading_append_inj {s t x y : String} (hs : Text.SingleLine s) (ht : Text.SingleLine t)
    (h : heading s ++ x = heading t ++ y) : s = t ∧ x = y := by
  have hline : ∀ {u : String}, Text.SingleLine u → '\n' ∉ u.toList ++ ['`', '.'] := by
    intro u hu hmem
    rcases List.mem_append.1 hmem with hmem | hmem
    · exact hu hmem
    · exact absurd hmem (by decide)
  have hchars := (toList_heading_append s x).symm.trans
    ((congrArg String.toList h).trans (toList_heading_append t y))
  obtain ⟨hfront, hback⟩ :=
    Text.append_cons_inj (hline hs) (hline ht) (List.append_cancel_left hchars)
  exact ⟨String.toList_inj.1 (List.append_cancel_right hfront), String.toList_inj.1 hback⟩

theorem head_heading_append (token rest : String) :
    (heading token ++ rest).toList.head? = some 'E' := by
  rw [toList_heading_append]
  rfl

end Fault

namespace NumberIssue

theorem text_injective {i j : NumberIssue} (h : i.text = j.text) : i = j := by
  cases i <;> cases j <;> simp [text] at h ⊢

end NumberIssue

namespace Site

/-- The letter that the text of a site starts with. -/
def initial (s : Site) : Option Char := s.text.toList.head?

theorem head_text_append (s : Site) (rest : String) :
    (s.text ++ rest).toList.head? = s.initial := by
  have hne : s.text.toList ≠ [] := by
    rcases s with ⟨⟨⟩⟩ | ⟨⟨⟩⟩ | ⟨⟨⟩⟩ <;> decide
  rw [String.toList_append, List.head?_append_of_ne_nil _ hne]
  rfl

theorem eq_of_initial {s t : Site} (hpart : s.part = t.part) (h : s.initial = t.initial) :
    s = t := by
  rcases s with ⟨⟨⟩⟩ | ⟨⟨⟩⟩ | ⟨⟨⟩⟩ <;> rcases t with ⟨⟨⟩⟩ | ⟨⟨⟩⟩ | ⟨⟨⟩⟩ <;>
    first | rfl | exact absurd hpart (by decide) | exact absurd h (by decide)

/-- The sites of one part of the grammar are told apart by what a message says of them. -/
theorem eq_of_text_append {s t : Site} (hpart : s.part = t.part) {x y : String}
    (h : s.text ++ x = t.text ++ y) : s = t ∧ x = y := by
  have hinitial : s.initial = t.initial := by
    rw [← head_text_append s x, h, head_text_append]
  obtain rfl := eq_of_initial hpart hinitial
  exact ⟨rfl, (String.append_right_inj _).1 h⟩

end Site

/-! ## Reading a message back -/

namespace Fault

theorem toList_message_greedyTake (take count : Int) :
    (greedyTake take count).message.toList =
      "dice to leave (".toList ++ ((toString take).toList ++
        ')' :: (" cannot be more than dice thrown (".toList ++
          ((toString count).toList ++ [')']))) := by
  have hgroup : ∀ as bs cs ds : List Char, as ++ bs ++ ')' :: cs ++ ds ++ [')'] =
      as ++ (bs ++ ')' :: (cs ++ (ds ++ [')']))) := by
    intro as bs cs ds
    simp only [List.append_assoc, List.cons_append]
  show ("dice to leave (" ++ toString take ++ ") cannot be more than dice thrown (" ++
    toString count ++ ")").toList = _
  rw [String.toList_append, String.toList_append, String.toList_append, String.toList_append]
  exact hgroup _ _ _ _

theorem greedyTake_message_inj {m n k l : Int}
    (h : (greedyTake m n).message = (greedyTake k l).message) : m = k ∧ n = l := by
  have hchars := (toList_message_greedyTake m n).symm.trans
    ((congrArg String.toList h).trans (toList_message_greedyTake k l))
  have hlacks : ∀ n : Int, Text.Lacks ')' (toString n) :=
    Text.lacks_toString (by decide) (by decide)
  obtain ⟨htake, hrest⟩ :=
    Text.append_cons_inj (hlacks m) (hlacks k) (List.append_cancel_left hchars)
  have hcount := List.append_cancel_right (List.append_cancel_left hrest)
  exact ⟨Int.repr_inj.1 (String.toList_inj.1 htake), Int.repr_inj.1 (String.toList_inj.1 hcount)⟩

theorem head_message_greedyTake (take count : Int) :
    (greedyTake take count).message.toList.head? = some 'd' :=
  (congrArg List.head? (toList_message_greedyTake take count)).trans rfl

theorem message_bare (site : Site) (token : String) :
    (bare site token).message = heading token ++ (site.text ++ "") := by
  rw [String.append_empty]
  rfl

theorem message_within_cause (site : Site) (token : String) (cause : Fault) :
    (within site token cause).message =
      heading token ++ (site.text ++ (": " ++ cause.message)) := by
  rw [message_within, String.append_assoc]

theorem site_message_inj {s t : Site} (hpart : s.part = t.part) {x y u v : String}
    (hx : Text.SingleLine x) (hy : Text.SingleLine y)
    (h : heading x ++ (s.text ++ u) = heading y ++ (t.text ++ v)) : x = y ∧ s = t ∧ u = v := by
  obtain ⟨hxy, hrest⟩ := heading_append_inj hx hy h
  exact ⟨hxy, Site.eq_of_text_append hpart hrest⟩

/-- A site with a cause is no site without one, and the message tells the site. -/
theorem message_bare_ne_within {s t : Site} (hpart : s.part = t.part) {l : Level}
    (hs : s.causeLevel? = none) (ht : t.causeLevel? = some l) {x y : String}
    (hx : Text.SingleLine x) (hy : Text.SingleLine y) (cause : Fault) :
    (bare s x).message ≠ (within t y cause).message := by
  intro h
  rw [message_bare, message_within_cause] at h
  obtain ⟨-, rfl, -⟩ := site_message_inj hpart hx hy h
  rw [hs] at ht
  cases ht

namespace Chain

theorem head_of_number {a : Fault} (h : Chain .number a) :
    a.message.toList.head? = some 'E' := by
  cases h with
  | number => exact head_heading_append _ _

theorem message_ne_greedyTake {a : Fault} (h : Chain .number a) (take count : Int) :
    a.message ≠ (Fault.greedyTake take count).message := by
  intro he
  have hhead := head_of_number h
  rw [he, head_message_greedyTake] at hhead
  exact absurd hhead (by decide)

/-- At each level the message tells a fault apart from all others of that level. -/
theorem eq_of_message {l : Level} {a b : Fault} (ha : Chain l a) (hb : Chain l b)
    (h : a.message = b.message) : a = b := by
  -- The cause of both faults is at the same level, so the induction keeps the level.
  induction ha generalizing b with
  | number htoken =>
      cases hb with
      | number htoken' =>
          obtain ⟨rfl, htext⟩ := heading_append_inj htoken htoken' h
          rw [NumberIssue.text_injective htext]
  | unreadableTake hcause ih =>
      cases hb with
      | unreadableTake hcause' => rw [ih hcause' h]
      | greedyTake => exact absurd h (message_ne_greedyTake hcause _ _)
  | greedyTake =>
      cases hb with
      | unreadableTake hcause' => exact absurd h.symm (message_ne_greedyTake hcause' _ _)
      | greedyTake =>
          obtain ⟨rfl, rfl⟩ := greedyTake_message_inj h
          rfl
  | bare hpart hsite htoken =>
      cases hb with
      | bare hpart' hsite' htoken' =>
          rw [message_bare, message_bare] at h
          obtain ⟨rfl, rfl, -⟩ := site_message_inj (hpart.trans hpart'.symm) htoken htoken' h
          rfl
      | within hpart' hsite' htoken' hcause' =>
          exact absurd h (message_bare_ne_within (hpart.trans hpart'.symm) hsite hsite' htoken
            htoken' _)
  | within hpart hsite htoken hcause ih =>
      cases hb with
      | bare hpart' hsite' htoken' =>
          exact absurd h.symm (message_bare_ne_within (hpart'.trans hpart.symm) hsite' hsite
            htoken' htoken _)
      | within hpart' hsite' htoken' hcause' =>
          rw [message_within_cause, message_within_cause] at h
          obtain ⟨rfl, rfl, hrest⟩ :=
            site_message_inj (hpart.trans hpart'.symm) htoken htoken' h
          obtain rfl := Option.some.inj (hsite.symm.trans hsite')
          rw [ih hcause' ((String.append_right_inj _).1 hrest)]

theorem formed {l : Level} {a : Fault} (h : Chain l a) : a.Formed := by
  induction h with
  | number => exact .number
  | unreadableTake hcause =>
      cases hcause with
      | number => exact .unreadableTake
  | greedyTake => exact .greedyTake
  | bare => exact .bare
  | within _ _ _ _ ih => exact .within ih

/-- Chains are the same exactly if they are equal. -/
theorem same_iff_eq {l : Level} {a b : Fault} (ha : Chain l a) : a.same b = true ↔ a = b :=
  ha.formed.same_iff_eq

end Chain

/-! ## The lines of a message -/

theorem count_newline_heading_append {token : String} (htoken : Text.SingleLine token)
    (rest : String) :
    (heading token ++ rest).toList.count '\n' = rest.toList.count '\n' + 1 := by
  have hstart : Text.SingleLine "Error parsing `" := by decide
  have hline : (token.toList ++ ['`', '.']).count '\n' = 0 := by
    rw [List.count_append, htoken.count_newline]
    decide
  rw [toList_heading_append, List.count_append, hstart.count_newline, List.count_append, hline,
    List.count_cons_self, Nat.zero_add, Nat.zero_add]

theorem singleLine_message_greedyTake (take count : Int) :
    Text.SingleLine (greedyTake take count).message := by
  have hstart : Text.SingleLine "dice to leave (" := by decide
  have hmiddle : Text.SingleLine ") cannot be more than dice thrown (" := by decide
  have hend : Text.SingleLine ")" := by decide
  exact (((hstart.append (Text.singleLine_toString take)).append hmiddle).append
    (Text.singleLine_toString count)).append hend

/-- A message has a newline for each text that it names. -/
theorem Chain.count_newline_message {l : Level} {a : Fault} (h : Chain l a) :
    a.message.toList.count '\n' = a.depth := by
  have hcolon : Text.SingleLine ": " := by decide
  induction h with
  | @number token issue htoken =>
      show (heading token ++ issue.text).toList.count '\n' = 1
      rw [count_newline_heading_append htoken, issue.singleLine_text.count_newline]
  | unreadableTake _ ih => exact ih
  | greedyTake => exact (singleLine_message_greedyTake _ _).count_newline
  | @bare site _ _ _ _ htoken =>
      rw [message_bare, count_newline_heading_append htoken,
        site.singleLine_text.count_newline_append]
      rfl
  | @within site _ _ _ _ _ _ htoken _ ih =>
      rw [message_within_cause, count_newline_heading_append htoken,
        site.singleLine_text.count_newline_append, hcolon.count_newline_append, ih]
      rfl

theorem Chain.length_lines_message {l : Level} {a : Fault} (h : Chain l a) :
    (Text.pieces (· == '\n') a.message.toList).length = a.depth + 1 := by
  rw [Text.length_pieces, ← List.count_eq_countP, h.count_newline_message]

end Fault

/-! ## Refusals are chains -/

theorem Fault.exists_of_first {flaws : List (Fault → Prop)} {e : Fault} (h : First flaws e) :
    ∃ flaw ∈ flaws, flaw e := by
  induction flaws with
  | nil => exact h.elim
  | cons flaw flaws ih =>
      rcases h with h | ⟨-, h⟩
      · exact ⟨flaw, List.mem_cons_self, h⟩
      · obtain ⟨flaw', hmem, h⟩ := ih h
        exact ⟨flaw', List.mem_cons_of_mem flaw hmem, h⟩

theorem Text.singleLine_of_digits {ds : List Char} (h : ∀ c ∈ ds, c.isDigit = true) :
    SingleLine (String.ofList ds) := by
  intro hmem
  rw [String.toList_ofList] at hmem
  exact absurd (h _ hmem) (by decide)

namespace Keep

theorem chain_of_flaw {count : Int} {m : List Char} (hm : '\n' ∉ m) {flaw : Fault → Prop}
    (hflaw : flaw ∈ flaws count m) {e : Fault} (h : flaw e) : Fault.Chain (.site .keep) e := by
  have htext : Text.SingleLine (String.ofList m) := by
    rwa [Text.SingleLine, String.toList_ofList]
  have hissue : ∀ f : Favour, (Site.keep f.issue).causeLevel? = some .take := by
    intro f
    cases f <;> rfl
  rcases List.mem_cons.1 hflaw with rfl | hflaw
  · obtain ⟨-, rfl⟩ := h
    exact .bare rfl rfl htext
  · rcases List.mem_cons.1 hflaw with rfl | hflaw
    · obtain ⟨r, -, -, issue, -, rfl⟩ := h
      exact .within rfl (hissue _) htext
        (.unreadableTake (.number (Text.singleLine_of_digits r.take.holds)))
    · obtain rfl := List.mem_singleton.1 hflaw
      obtain ⟨r, -, -, rfl⟩ := h
      exact .within rfl (hissue _) htext .greedyTake

end Keep

namespace Term

theorem chain_of_numberFlaw {issue : GroupIssue} {ds : List Char} {e : Fault}
    (hsite : (Site.group issue).causeLevel? = some .number)
    (hds : ∀ c ∈ ds, c.isDigit = true) (h : GroupParts.NumberFlaw issue ds e) :
    Fault.Chain (.site .group) e := by
  obtain ⟨-, k, -, rfl⟩ := h
  have htext := Text.singleLine_of_digits hds
  exact .within rfl hsite htext (.number htext)

theorem chain_of_flaws {p : GroupParts} (hp : p.Formed) {e : Fault}
    (h : Fault.First p.flaws e) : Fault.Chain (.site .group) e := by
  obtain ⟨hcount, ⟨hsides, -⟩, hkeep⟩ := hp
  rcases h with h | ⟨-, h | ⟨-, h⟩⟩
  · exact chain_of_numberFlaw rfl hcount h
  · exact chain_of_numberFlaw rfl hsides h
  · cases hrule : p.keep with
    | none =>
        rw [hrule] at h
        exact h.elim
    | some m =>
        obtain ⟨-, hline⟩ := hkeep m hrule
        have htext : Text.SingleLine (String.ofList m) := by
          rwa [Text.SingleLine, String.toList_ofList]
        rw [hrule, GroupParts.ruleFlaws, Fault.first_map_within] at h
        obtain ⟨cause, hcause, rfl⟩ := h
        obtain ⟨flaw, hflaw, hcause⟩ := Fault.exists_of_first hcause
        exact .within rfl rfl htext (Keep.chain_of_flaw hline hflaw hcause)

/-- A text on one line is refused as a word with a chain. -/
theorem chain_of_refusal {text : String} (htext : Text.SingleLine text) {fault : Fault}
    (h : Refusal text fault) : Fault.Chain (.site .word) fault := by
  cases h with
  | constant => exact .within rfl rfl htext (.number htext)
  | group _ hp hcause => exact .within rfl rfl htext (chain_of_flaws hp hcause)
  | malformed => exact .bare rfl rfl htext

end Term

namespace Request

theorem solid_of_mem_wordsOf {text word : String} (h : word ∈ wordsOf text) :
    Text.Solid word := by
  obtain ⟨w, hw, rfl⟩ := List.mem_map.1 h
  rw [Text.Solid, String.toList_ofList]
  exact Text.not_isBlank_of_mem_words hw

/-- A request is refused for a word of it, unless it has none. -/
theorem exists_refusal_of_read {text : String} {fault : Fault}
    (h : Request.read text = .error fault) :
    fault = .emptyRequest ∨ ∃ word ∈ wordsOf text, Term.Refusal word fault := by
  rcases read_eq_error_iff.1 h with ⟨-, rfl⟩ | hall
  · exact Or.inl rfl
  · obtain ⟨before, word, after, ts, hwords, -, hword⟩ := Term.readAll_eq_error_iff.1 hall
    refine Or.inr ⟨word, ?_, Term.refusal_of_read hword⟩
    rw [hwords]
    exact List.mem_append_right _ List.mem_cons_self

theorem chain_of_read {text : String} {fault : Fault} (h : Request.read text = .error fault) :
    fault = .emptyRequest ∨ Fault.Chain (.site .word) fault := by
  rcases exists_refusal_of_read h with rfl | ⟨word, hword, hrefusal⟩
  · exact Or.inl rfl
  · exact Or.inr (Term.chain_of_refusal (solid_of_mem_wordsOf hword).singleLine hrefusal)

end Request

theorem Fault.Chain.message_ne_emptyRequest {a : Fault} {part : Part}
    (h : Chain (.site part) a) : a.message ≠ Fault.emptyRequest.message := by
  have hstart : a.message.toList.head? = some 'E' := by
    cases h with
    | bare => exact head_heading_append _ _
    | within => exact head_heading_append _ _
  intro he
  rw [he] at hstart
  exact absurd hstart (by decide)

theorem Request.eq_of_message {text text' : String} {fault fault' : Fault}
    (h : Request.read text = .error fault) (h' : Request.read text' = .error fault')
    (hmessage : fault.message = fault'.message) : fault = fault' := by
  rcases chain_of_read h with rfl | hchain
  · rcases chain_of_read h' with rfl | hchain'
    · rfl
    · exact absurd hmessage.symm hchain'.message_ne_emptyRequest
  · rcases chain_of_read h' with rfl | hchain'
    · exact absurd hmessage hchain.message_ne_emptyRequest
    · exact hchain.eq_of_message hchain' hmessage

theorem Service.reply_of_refused {σ : Type} (g : Generator σ) (source : String)
    {text : String} {fault : Fault} (h : Request.read text = .error fault) (stamp : Stamp) (s : σ) :
    (Service.roll g source text stamp s).1.reply = .refused fault.message := by
  rw [Service.roll_of_refused g source h]

/-- The message of a chain tells the whole chain.  Two chains of words have one message only if
they are the same, and a message has one line more than the chain names texts.  A request is
refused with such a chain, unless it has no words, which the message tells as well.  So a
player who is told the message knows the fault. -/
theorem message_tells_whole_chain :
    (∀ a b : Fault, a.Chain (.site .word) → b.Chain (.site .word) →
      (a.message = b.message ↔ a.same b = true) ∧ (a.same b = true ↔ a = b)) ∧
    (∀ a : Fault, a.Chain (.site .word) →
      (Text.pieces (· == '\n') a.message.toList).length = a.depth + 1) ∧
    (∀ text fault, Request.read text = .error fault → fault.typeName = "TokenError" →
      fault.Chain (.site .word) ∧ fault.message ≠ Fault.emptyRequest.message) ∧
    ∀ (text text' : String) (fault fault' : Fault), Request.read text = .error fault →
      Request.read text' = .error fault' →
      ∀ (σ : Type) (g : Generator σ) (source : String) (stamp stamp' : Stamp) (s s' : σ),
        (Service.roll g source text stamp s).1.reply = .refused fault.message ∧
        ((Service.roll g source text stamp s).1.reply =
            (Service.roll g source text' stamp' s').1.reply ↔ fault = fault') := by
  refine ⟨fun a b ha hb => ?_, fun a ha => ha.length_lines_message,
    fun text fault h hname => ?_,
    fun text text' fault fault' h h' σ g source stamp stamp' s s' => ?_⟩
  · refine ⟨?_, ha.same_iff_eq⟩
    rw [ha.same_iff_eq]
    exact ⟨ha.eq_of_message hb, congrArg Fault.message⟩
  · rcases Request.chain_of_read h with rfl | hchain
    · simp [Fault.typeName, Fault.emptyRequest] at hname
    · exact ⟨hchain, hchain.message_ne_emptyRequest⟩
  · rw [Service.reply_of_refused g source h, Service.reply_of_refused g source h']
    refine ⟨rfl, fun hreply => ?_, fun he => by rw [he]⟩
    exact Request.eq_of_message h h' (Reply.refused.inj hreply)

/-- The statement at two chains that differ at the bottom only, with texts that look like parts
of messages. -/
theorem message_tells_whole_chain_of_take :
    let text := "2d6:adv0`.Die:"
    let chain : Fault → Fault := fun cause =>
      .within (.word .group) text (.within (.group .keep) "adv0" (.within (.keep .advantage)
        "adv0" cause))
    let a := chain (.unreadableTake (.number "0" .zero))
    let b := chain (.greedyTake 0 2)
    let malformed : Fault := .bare (.word .malformed) "x"
    let reply : String → Reply := fun text =>
      (Service.roll (.script []) "list" text ⟨7, ⟨2024, 2, 9, 7, 5, 0⟩⟩ []).1.reply
    a.message ≠ b.message ∧ (Text.pieces (· == '\n') a.message.toList).length = 5 ∧
      Request.read "+1 x" = .error malformed ∧ malformed.typeName = "TokenError" ∧
      malformed.Chain (.site .word) ∧ Request.read "\n" = .error .emptyRequest ∧
      reply "+1 x" ≠ reply "\n" := by
  intro text chain a b malformed reply
  have hchain : ∀ {cause : Fault}, cause.Chain .take → (chain cause).Chain (.site .word) :=
    fun hcause => .within rfl rfl (by decide) (.within rfl rfl (by decide)
      (.within rfl rfl (by decide) hcause))
  have ha : a.Chain (.site .word) := hchain (.unreadableTake (.number (by decide)))
  have hb : b.Chain (.site .word) := hchain .greedyTake
  obtain ⟨hsame, hlines, hread, hreply⟩ := message_tells_whole_chain
  have hx : Request.read "+1 x" = .error malformed := by decide
  have hblank : Request.read "\n" = .error .emptyRequest := by decide
  refine ⟨fun h => ?_, hlines a ha, hx, rfl, (hread _ _ hx rfl).1, hblank, fun h => ?_⟩
  · exact absurd ((hsame a b ha hb).1.1 h) (by decide)
  · exact absurd ((hreply _ _ _ _ hx hblank _ (.script []) "list" _ _ [] []).2.1 h) (by decide)

end DiceRoller
