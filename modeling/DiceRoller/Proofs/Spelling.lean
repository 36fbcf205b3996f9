import DiceRoller.Proofs.Quoting
import DiceRoller.Proofs.RoundTrip

/-!
A fault is known from its spelling.

A spelling opens with a label, which ends at the first bracket, and the label says which fields
follow (`Fault.label_eq_of_spelling`).  A token is quoted, so it ends where its quotation mark
does, whatever it holds (`Text.quotedBy_append_inj`); the name of a kind ends at the next comma;
and the spelling of the cause is all that is left before the closing bracket
(`Fault.field_inj`).  So the chain is read back level by level (`Fault.eq_of_spelling`), and a
spelling is written from nothing but the fields of the levels (`Fault.spelling_eq_foldr`).
-/

namespace DiceRoller

/-! ## Names -/

namespace NumberIssue

theorem name_injective {i j : NumberIssue} (h : i.name = j.name) : i = j := by
  cases i <;> cases j <;> simp [name] at h ⊢

theorem lacks_name (i : NumberIssue) : Text.Lacks ',' i.name := by
  cases i <;> decide

end NumberIssue

namespace Site

theorem eq_of_names {s t : Site} (htype : s.typeName = t.typeName)
    (hkind : s.kindName = t.kindName) : s = t := by
  rcases s with ⟨⟨⟩⟩ | ⟨⟨⟩⟩ | ⟨⟨⟩⟩ <;> rcases t with ⟨⟨⟩⟩ | ⟨⟨⟩⟩ | ⟨⟨⟩⟩ <;>
    first | rfl | exact absurd htype (by decide) | exact absurd hkind (by decide)

theorem lacks_typeName (s : Site) : Text.Lacks '(' s.typeName := by
  rcases s with ⟨⟨⟩⟩ | ⟨⟨⟩⟩ | ⟨⟨⟩⟩ <;> decide

theorem lacks_kindName (s : Site) : Text.Lacks ',' s.kindName := by
  rcases s with ⟨⟨⟩⟩ | ⟨⟨⟩⟩ | ⟨⟨⟩⟩ <;> decide

end Site

namespace Fault

/-! ## Labels -/

/-- What the spelling of a fault opens with. -/
def label : Fault → String
  | number _ _ => "NumberError"
  | unreadableTake _ => "TakeError.parse"
  | greedyTake _ _ => "TakeError.more_than_dice"
  | bare site _ | within site _ _ => site.typeName
  | noWords _ => "EmptyRequestError"

theorem lacks_label (a : Fault) : Text.Lacks '(' a.label := by
  cases a with
  | bare site | within site => exact site.lacks_typeName
  | _ => simp [label, Text.Lacks]

/-- The type at a site is that of no other fault. -/
theorem site_label_ne (s : Site) {l : String}
    (hl : l ∈ ["NumberError", "TakeError.parse", "TakeError.more_than_dice",
      "EmptyRequestError"]) : s.typeName ≠ l := by
  rintro rfl
  rcases s with ⟨⟨⟩⟩ | ⟨⟨⟩⟩ | ⟨⟨⟩⟩ <;> exact absurd hl (by decide)

section
variable {shown : Char → Bool}

theorem field_eq (type token kind cause : String) :
    field shown type token kind cause =
      type ++ ("(token=" ++ (Text.quotedBy shown token ++ (", kind=" ++ (type ++ ("Kind." ++
        (kind ++ (", inner=" ++ (cause ++ ")")))))))) := by
  simp only [field, String.append_assoc]

theorem spelling_unreadableTake (cause : Fault) :
    (unreadableTake cause).spellingWith shown =
      "TakeError.parse" ++ ("(" ++ (cause.spellingWith shown ++ ")")) := by
  have hlabel : "TakeError.parse(" = "TakeError.parse" ++ "(" := by simp
  show "TakeError.parse(" ++ cause.spellingWith shown ++ ")" = _
  rw [hlabel, String.append_assoc, String.append_assoc]

theorem spelling_greedyTake (take count : Int) :
    (greedyTake take count).spellingWith shown =
      "TakeError.more_than_dice" ++ ("(take=" ++ (toString take ++ (", count=" ++
        (toString count ++ ")")))) := by
  have hlabel : "TakeError.more_than_dice(take=" = "TakeError.more_than_dice" ++ "(take=" := by simp
  show "TakeError.more_than_dice(take=" ++ toString take ++ ", count=" ++ toString count ++ ")" = _
  rw [hlabel]
  simp only [String.append_assoc]

theorem spelling_noWords (text : String) :
    (noWords text).spellingWith shown =
      "EmptyRequestError" ++ ("(" ++ (Text.quotedBy shown text ++ ")")) := by
  have hlabel : "EmptyRequestError(" = "EmptyRequestError" ++ "(" := by simp
  show "EmptyRequestError(" ++ Text.quotedBy shown text ++ ")" = _
  rw [hlabel, String.append_assoc, String.append_assoc]

/-- A label is followed by the first bracket. -/
theorem exists_spelling_eq (shown : Char → Bool) (a : Fault) :
    ∃ m x, m.toList.head? = some '(' ∧ a.spellingWith shown = a.label ++ (m ++ x) := by
  cases a with
  | number token issue => exact ⟨_, _, rfl, field_eq _ _ _ _⟩
  | unreadableTake cause => exact ⟨_, _, rfl, spelling_unreadableTake cause⟩
  | greedyTake take count => exact ⟨_, _, rfl, spelling_greedyTake take count⟩
  | bare site token => exact ⟨_, _, rfl, field_eq _ _ _ _⟩
  | within site token cause => exact ⟨_, _, rfl, field_eq _ _ _ _⟩
  | noWords text => exact ⟨_, _, rfl, spelling_noWords text⟩

theorem spelling_ne_none (a : Fault) : a.spellingWith shown ≠ "None" := by
  obtain ⟨m, x, hm, hspelling⟩ := exists_spelling_eq shown a
  intro h
  have hmem : '(' ∈ (a.spellingWith shown).toList := by
    rw [hspelling, String.toList_append, String.toList_append]
    exact List.mem_append_right _ (List.mem_append_left _ (List.mem_of_mem_head? hm))
  rw [h] at hmem
  exact absurd hmem (by decide)

theorem label_eq_of_spelling {a b : Fault} (h : a.spellingWith shown = b.spellingWith shown) :
    a.label = b.label := by
  obtain ⟨m, x, hm, ha⟩ := exists_spelling_eq shown a
  obtain ⟨k, y, hk, hb⟩ := exists_spelling_eq shown b
  rw [ha, hb] at h
  exact (Text.append_inj_at a.lacks_label b.lacks_label (Text.opens_append hm x)
    (Text.opens_append hk y) h).1

/-! ## Reading a spelling back -/

theorem field_inj {type type' token token' kind kind' cause cause' : String}
    (htype : Text.Lacks '(' type) (htype' : Text.Lacks '(' type') (hkind : Text.Lacks ',' kind)
    (hkind' : Text.Lacks ',' kind')
    (h : field shown type token kind cause = field shown type' token' kind' cause') :
    type = type' ∧ token = token' ∧ kind = kind' ∧ cause = cause' := by
  rw [field_eq, field_eq] at h
  obtain ⟨rfl, hfields⟩ := Text.append_mark_inj rfl htype htype' h
  obtain ⟨rfl, hrest⟩ := Text.quotedBy_append_inj hfields
  have hnames := (String.append_right_inj _).1 ((String.append_right_inj _).1
    ((String.append_right_inj _).1 hrest))
  obtain ⟨rfl, hcause⟩ := Text.append_mark_inj rfl hkind hkind' hnames
  exact ⟨rfl, rfl, rfl, (String.append_left_inj _).1 hcause⟩

theorem site_field_inj {s t : Site} {x y cause cause' : String}
    (h : field shown s.typeName x s.kindName cause =
      field shown t.typeName y t.kindName cause') : s = t ∧ x = y ∧ cause = cause' := by
  obtain ⟨htype, hxy, hkind, hcause⟩ := field_inj s.lacks_typeName t.lacks_typeName
    s.lacks_kindName t.lacks_kindName h
  exact ⟨Site.eq_of_names htype hkind, hxy, hcause⟩

theorem greedyTake_spelling_inj {m n k l : Int}
    (h : (greedyTake m n).spellingWith shown = (greedyTake k l).spellingWith shown) :
    m = k ∧ n = l := by
  rw [spelling_greedyTake, spelling_greedyTake] at h
  have hlacks : ∀ n : Int, Text.Lacks ',' (toString n) :=
    Text.lacks_toString (by decide) (by decide)
  have hnumbers := (String.append_right_inj _).1 ((String.append_right_inj _).1 h)
  obtain ⟨htake, hcount⟩ := Text.append_mark_inj rfl (hlacks m) (hlacks k) hnumbers
  exact ⟨Int.repr_inj.1 htake, Int.repr_inj.1 ((String.append_left_inj _).1 hcount)⟩

theorem eq_of_spelling {a b : Fault} (h : a.spellingWith shown = b.spellingWith shown) :
    a = b := by
  -- The label leaves one form for the other fault, but for a site with a cause or without.
  have hlabel := label_eq_of_spelling h
  induction a generalizing b with
  | number token issue =>
      cases b with
      | number token' issue' =>
          obtain ⟨-, rfl, hname, -⟩ := field_inj (lacks_label (number token issue))
            (lacks_label (number token' issue')) issue.lacks_name issue'.lacks_name h
          rw [NumberIssue.name_injective hname]
      | bare site | within site => exact absurd hlabel.symm (site_label_ne site (by simp [label]))
      | _ => simp [label] at hlabel
  | unreadableTake cause ih =>
      cases b with
      | unreadableTake cause' =>
          rw [spelling_unreadableTake, spelling_unreadableTake] at h
          have hcause := (String.append_left_inj _).1 ((String.append_right_inj _).1
            ((String.append_right_inj _).1 h))
          rw [ih hcause (label_eq_of_spelling hcause)]
      | bare site | within site => exact absurd hlabel.symm (site_label_ne site (by simp [label]))
      | _ => simp [label] at hlabel
  | greedyTake take count =>
      cases b with
      | greedyTake take' count' =>
          obtain ⟨rfl, rfl⟩ := greedyTake_spelling_inj h
          rfl
      | bare site | within site => exact absurd hlabel.symm (site_label_ne site (by simp [label]))
      | _ => simp [label] at hlabel
  | bare site token =>
      cases b with
      | bare site' token' =>
          obtain ⟨rfl, rfl, -⟩ := site_field_inj h
          rfl
      | within site' token' cause' =>
          obtain ⟨-, -, hcause⟩ := site_field_inj h
          exact absurd hcause.symm (spelling_ne_none cause')
      | _ => exact absurd hlabel (site_label_ne site (by simp [label]))
  | within site token cause ih =>
      cases b with
      | bare site' token' =>
          obtain ⟨-, -, hcause⟩ := site_field_inj h
          exact absurd hcause (spelling_ne_none cause)
      | within site' token' cause' =>
          obtain ⟨rfl, rfl, hcause⟩ := site_field_inj h
          rw [ih hcause (label_eq_of_spelling hcause)]
      | _ => exact absurd hlabel (site_label_ne site (by simp [label]))
  | noWords text =>
      cases b with
      | noWords text' =>
          rw [spelling_noWords, spelling_noWords] at h
          have htext := (String.append_right_inj _).1 ((String.append_right_inj _).1 h)
          rw [(Text.quotedBy_append_inj htext).1]
      | bare site | within site => exact absurd hlabel.symm (site_label_ne site (by simp [label]))
      | _ => simp [label] at hlabel

end

/-! ## Levels -/

/-- What a fault holds at its outermost level, its type and kind by their names.  A request
without words has a text of its own and no kind. -/
structure Fields where
  type : String
  token : Option String
  kind : Option String
  takeOfCount : Option (Int × Int)
  deriving DecidableEq, Repr

def fields : Fault → Fields
  | number token issue => ⟨"NumberError", some token, some issue.name, none⟩
  | unreadableTake _ => ⟨"TakeError", none, some "PARSE", none⟩
  | greedyTake take count => ⟨"TakeError", none, some "MORE_THAN_DICE", some (take, count)⟩
  | bare site token | within site token _ =>
    ⟨site.typeName, some token, some site.kindName, none⟩
  | noWords text => ⟨"EmptyRequestError", some text, none, none⟩

/-- The fields of every level, outermost first. -/
def levels : Fault → List Fields
  | unreadableTake cause => (unreadableTake cause).fields :: cause.levels
  | within site token cause => (within site token cause).fields :: cause.levels
  | number token issue => [(number token issue).fields]
  | greedyTake take count => [(greedyTake take count).fields]
  | bare site token => [(bare site token).fields]
  | noWords text => [(noWords text).fields]

/-- A level spelled out around the spelling of its cause. -/
def Fields.spelling (shown : Char → Bool) : Fields → String → String
  | ⟨type, some token, some kind, _⟩, cause => field shown type token kind cause
  | ⟨_, some text, none, _⟩, _ => "EmptyRequestError(" ++ Text.quotedBy shown text ++ ")"
  | ⟨_, none, _, some (take, count)⟩, _ =>
    "TakeError.more_than_dice(take=" ++ toString take ++ ", count=" ++ toString count ++ ")"
  | ⟨_, none, _, none⟩, cause => "TakeError.parse(" ++ cause ++ ")"

/-- The levels are all that a spelling is written from. -/
theorem spelling_eq_foldr (shown : Char → Bool) (a : Fault) :
    a.spellingWith shown = a.levels.foldr (Fields.spelling shown) "None" := by
  induction a with
  | unreadableTake cause ih =>
      exact congrArg (Fields.spelling shown (unreadableTake cause).fields) ih
  | within site token cause ih =>
      exact congrArg (Fields.spelling shown (within site token cause).fields) ih
  | _ => rfl

theorem levels_inj {a b : Fault} : a.levels = b.levels ↔ a = b := by
  refine ⟨fun h => ?_, congrArg levels⟩
  have hspelling : a.spellingWith Text.isPrintable = b.spellingWith Text.isPrintable := by
    rw [spelling_eq_foldr, h, spelling_eq_foldr]
  exact eq_of_spelling hspelling

theorem spelling_inj {shown : Char → Bool} {a b : Fault} :
    a.spellingWith shown = b.spellingWith shown ↔ a = b :=
  ⟨eq_of_spelling, congrArg (spellingWith shown)⟩

end Fault

/-- Faults are compared by all that they hold: a fault is the same as another exactly if at
every level the two have one type, one token, one kind and the same numbers.  This shows in how
they are spelled out, whichever characters of a token are shown as themselves.  Faults that are
the same are filed under the same key. -/
theorem spelling_tells_fault {a : Fault} (ha : a.Formed) (b : Fault) :
    (a.same b = true ↔ a.levels = b.levels) ∧
    (∀ shown : Char → Bool, a.same b = true ↔ a.spellingWith shown = b.spellingWith shown) ∧
    (a.same b = true → a.sameKey b = true) := by
  refine ⟨?_, fun shown => ?_, Fault.sameKey_of_same⟩
  · rw [ha.same_iff_eq, Fault.levels_inj]
  · rw [ha.same_iff_eq, Fault.spelling_inj]

/-- The statement at two chains that differ at the bottom only, where one token is spelled like
a part of the chain.  They are filed under one key. -/
theorem spelling_tells_fault_of_token :
    let chain : String → Fault := fun token =>
      .within (.word .group) "2d6:\"'\n" (.within (.group .keep) "adv0" (.within (.keep .advantage)
        "adv0" (.unreadableTake (.number token .zero))))
    let a := chain "0"
    let b := chain "0', kind=NumberErrorKind.ZERO, inner=None)"
    a.Formed ∧ a.same b = false ∧ a.levels ≠ b.levels ∧
      (∀ shown : Char → Bool, a.spellingWith shown ≠ b.spellingWith shown) ∧
      a.sameKey b = true ∧ a.same a = true ∧ a.sameKey a = true := by
  intro chain a b
  have hchain : ∀ token, (chain token).Formed := fun token =>
    .within (.within (.within .unreadableTake))
  have hdiffer : a.same b = false := by decide
  have hself : a.same a = true := by decide
  obtain ⟨hlevels, hspelling, -⟩ := spelling_tells_fault (hchain "0") b
  have hne : ¬ a.same b = true := by
    rw [hdiffer]
    decide
  exact ⟨hchain "0", hdiffer, fun h => hne (hlevels.2 h),
    fun shown h => hne ((hspelling shown).2 h), by decide, hself,
    (spelling_tells_fault (hchain "0") a).2.2 hself⟩

end DiceRoller
