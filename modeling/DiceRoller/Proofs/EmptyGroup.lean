import DiceRoller.Proofs.Session

/-!
What keeps a roll from its report.

A report tells the sides of each group, which only a group without dice has not
(`Score.entries?_eq_none_iff`).  Such a group is what a term becomes that counts no die
(`Rolled.empty_iff_of_shape`), and no term that was read is one.
-/

namespace DiceRoller

/-- A group without dice. -/
def Rolled.Empty : Rolled → Prop
  | constant _ => False
  | dice ds _ => ds = []

/-- A group of no dice or fewer. -/
def Term.Diceless : Term → Prop
  | constant _ => False
  | dice count _ _ => count ≤ 0

/-! ## Reports of any outcome -/

namespace Score

theorem entry?_eq_none_iff {s : Score} : s.entry? = none ↔ s.token.Empty := by
  obtain ⟨token, kept, contribution⟩ := s
  cases token with
  | constant value => simp [Rolled.Empty, entry?]
  | dice ds keep => simp [Rolled.Empty, entry?]

theorem entries?_eq_none_iff {ss : List Score} :
    entries? ss = none ↔ ∃ s ∈ ss, s.token.Empty := by
  induction ss with
  | nil => simp [entries?]
  | cons s ss ih =>
      rw [List.exists_mem_cons_iff, ← entry?_eq_none_iff, ← ih, entries?]
      cases s.entry? <;> cases entries? ss <;> simp

end Score

namespace Outcome

theorem report_cases (o : Outcome) (source : String) (stamp : Stamp) :
    ((∃ score ∈ o.scores, score.token.Empty) ∧ o.report source stamp = .error .emptyGroup) ∨
      (∀ score ∈ o.scores, ¬ score.token.Empty) ∧ ∃ p, o.report source stamp = .ok p := by
  rw [report]
  cases hes : Score.entries? o.scores with
  | none => exact Or.inl ⟨Score.entries?_eq_none_iff.1 hes, rfl⟩
  | some es =>
      refine Or.inr ⟨fun score hscore hempty => ?_, _, rfl⟩
      rw [Score.entries?_eq_none_iff.2 ⟨score, hscore, hempty⟩] at hes
      simp at hes

theorem report_eq_emptyGroup_iff {o : Outcome} {source : String} {stamp : Stamp} :
    o.report source stamp = .error .emptyGroup ↔ ∃ score ∈ o.scores, score.token.Empty := by
  rcases o.report_cases source stamp with ⟨hempty, hreport⟩ | ⟨hnone, p, hreport⟩
  · exact ⟨fun _ => hempty, fun _ => hreport⟩
  · rw [hreport]
    exact ⟨fun h => by simp at h, fun ⟨score, hscore, h⟩ => absurd h (hnone score hscore)⟩

theorem exists_report_iff {o : Outcome} {source : String} {stamp : Stamp} :
    (∃ p, o.report source stamp = .ok p) ↔ ∀ score ∈ o.scores, ¬ score.token.Empty := by
  rcases o.report_cases source stamp with ⟨⟨score, hscore, hempty⟩, hreport⟩ | ⟨hnone, hreport⟩
  · rw [hreport]
    exact ⟨fun ⟨p, h⟩ => by simp at h, fun h => absurd hempty (h score hscore)⟩
  · exact ⟨fun _ => hnone, fun _ => hreport⟩

end Outcome

/-! ## Reports of rolled terms -/

theorem Rolled.empty_iff_of_shape {t : Term} {r : Rolled} (h : r.shape = t.shape) :
    r.Empty ↔ t.Diceless := by
  cases r with
  | constant value =>
      cases t with
      | constant value' => exact Iff.rfl
      | dice count sides keep => simp [shape, Term.shape] at h
  | dice ds keep =>
      obtain ⟨count, sides, rfl, hlength⟩ := Rolled.dice_of_shape h
      show ds = [] ↔ count ≤ 0
      rw [← List.length_eq_zero_iff, hlength]
      omega

theorem Outcome.exists_empty_iff {r : Request} {rs : List Rolled}
    (h : rs.map Rolled.shape = r.terms.map Term.shape) :
    (∃ score ∈ (ofRolled r rs).scores, score.token.Empty) ↔ ∃ t ∈ r.terms, t.Diceless := by
  constructor
  · rintro ⟨score, hscore, hempty⟩
    obtain ⟨q, hq, rfl⟩ := List.mem_map.1 hscore
    rw [Rolled.score_token] at hempty
    obtain ⟨t, ht, hshape⟩ := Rolled.exists_term h hq
    exact ⟨t, ht, (Rolled.empty_iff_of_shape hshape).1 hempty⟩
  · rintro ⟨t, ht, hless⟩
    have hmem : t.shape ∈ rs.map Rolled.shape := by
      rw [h]
      exact List.mem_map_of_mem ht
    obtain ⟨q, hq, hshape⟩ := List.mem_map.1 hmem
    refine ⟨q.score, List.mem_map_of_mem hq, ?_⟩
    rw [Rolled.score_token]
    exact (Rolled.empty_iff_of_shape hshape).2 hless

theorem Request.rollReport_of_answered {σ : Type} {g : Generator σ} (r : Request)
    (source : String) (stamp : Stamp) {s s' : σ} {vs : List Int}
    (h : g.askAll r.questions s = (.ok vs, s')) :
    ∃ rs, rs.map Rolled.shape = r.terms.map Term.shape ∧
      r.rollReport g source stamp s = ((Outcome.ofRolled r rs).report source stamp, s') := by
  obtain ⟨rs, hrolls, hshapes, -⟩ := Term.rollAll_of_answered h
  refine ⟨rs, hshapes, ?_⟩
  rw [rollReport, Request.roll, hrolls]
  rfl

theorem Request.emptyRequest_or_tokenError {text : String} {fault : Fault}
    (h : Request.read text = .error fault) :
    fault = .emptyRequest ∨ fault.typeName = "TokenError" := by
  rcases Request.read_eq_error_iff.1 h with ⟨-, hfault⟩ | hall
  · exact Or.inl hfault
  · exact Or.inr (Request.typeName_of_readAll hall)

/-- If all questions are answered, nothing but a group without dice keeps a roll from its
report.  For a list of terms that is a term that counts no die, for any other outcome a group
that lists none, whatever the rest of the outcome says.  Every cell of the table has a column,
so the table is always printed.  A text that is read gets a report, and any other fails with
the fault that it is refused with. -/
theorem only_empty_groups_go_unreported :
    (∀ (σ : Type) (g : Generator σ) (r : Request) (source : String) (stamp : Stamp) (s s' : σ)
      (vs : List Int), g.askAll r.questions s = (.ok vs, s') →
      (r.rollReport g source stamp s = (.error .emptyGroup, s') ↔ ∃ t ∈ r.terms, t.Diceless) ∧
      ((∃ p, r.rollReport g source stamp s = (.ok p, s')) ↔ ∀ t ∈ r.terms, ¬ t.Diceless)) ∧
    (∀ (o : Outcome) (source : String) (stamp : Stamp),
      (o.report source stamp = .error .emptyGroup ↔ ∃ score ∈ o.scores, score.token.Empty) ∧
      ((∃ p, o.report source stamp = .ok p) ↔ ∀ score ∈ o.scores, ¬ score.token.Empty) ∧
      ∀ row ∈ o.table.rows, row.widths.length ≤ o.table.widths.length) ∧
    ∀ (σ : Type) (g : Generator σ) (text source : String) (stamp : Stamp) (s : σ),
      (∀ r, Request.read text = .ok r → g.Answers r.questions s →
        ∃ p s', rollReport g text source stamp s = (.ok p, s')) ∧
      ∀ fault, Request.read text = .error fault →
        rollReport g text source stamp s = (.error (.refused fault), s) ∧
          (fault = .emptyRequest ∨ fault.typeName = "TokenError") := by
  refine ⟨fun σ g r source stamp s s' vs hask => ?_, fun o source stamp => ?_,
    fun σ g text source stamp s => ⟨fun r hread hask => ?_, fun fault hread => ?_⟩⟩
  · obtain ⟨rs, hshapes, hroll⟩ := r.rollReport_of_answered source stamp hask
    have hempty := Outcome.exists_empty_iff hshapes
    rw [hroll]
    simp only [Prod.mk.injEq, and_true]
    rw [Outcome.report_eq_emptyGroup_iff, Outcome.exists_report_iff, hempty]
    refine ⟨Iff.rfl, ?_⟩
    simpa using not_congr hempty
  · exact ⟨Outcome.report_eq_emptyGroup_iff, Outcome.exists_report_iff,
      fun row hrow => Table.length_widths_of_mem hrow⟩
  · obtain ⟨vs, s', hvs⟩ := hask
    obtain ⟨rs, -, -, -, -, hreport⟩ := rolls_of_answered hread hvs
    obtain ⟨p, -, hroll, -⟩ := hreport source stamp
    exact ⟨p, s', hroll⟩
  · exact ⟨rollReport_of_refused hread source stamp s, Request.emptyRequest_or_tokenError hread⟩

/-- The statement at terms that could not be read, at an outcome whose parts do not agree, at a
text that is read and at one that is refused. -/
theorem only_empty_groups_go_unreported_of_unreadable :
    let empty : Request := ⟨"", [.constant 0, .dice (-1) 6 (some ⟨.advantage, 3⟩)]⟩
    let odd : Request := ⟨"", [.dice 2 (-6) (some ⟨.disadvantage, -1⟩)]⟩
    let o : Outcome := ⟨odd, [⟨.dice [⟨6, 4⟩] none, [], 9⟩, ⟨.dice [] none, [⟨6, 4⟩], 4⟩], 0⟩
    let stamp : Stamp := ⟨7, ⟨2024, 2, 9, 7, 5, 0⟩⟩
    empty.rollReport (.script []) "list" stamp [4] = (.error .emptyGroup, [4]) ∧
      (∃ p, odd.rollReport (.script []) "list" stamp [5, 2] = (.ok p, [])) ∧
      o.report "list" stamp = .error .emptyGroup ∧
      (∃ p s', rollReport (.script []) "d6" "list" stamp [4] = (.ok p, s')) ∧
      rollReport (.script []) "\n" "list" stamp [4] = (.error (.refused .emptyRequest), [4]) := by
  intro empty odd o stamp
  obtain ⟨hrolls, hreports, htexts⟩ := only_empty_groups_go_unreported
  have hread : Request.read "d6" = .ok ⟨"d6", [.dice 1 6 none]⟩ := by decide
  have hblank : Request.read "\n" = .error .emptyRequest := by decide
  refine ⟨?_, ?_, ?_, ?_, ?_⟩
  · have hless : Term.Diceless (.dice (-1) 6 (some ⟨.advantage, 3⟩)) := by
      show (-1 : Int) ≤ 0
      decide
    exact (hrolls _ (.script []) empty "list" stamp [4] [4] [] rfl).1.2
      ⟨_, List.mem_cons_of_mem _ List.mem_cons_self, hless⟩
  · refine (hrolls _ (.script []) odd "list" stamp [5, 2] [] [5, 2] rfl).2.2 fun t ht => ?_
    obtain rfl := List.mem_singleton.1 ht
    show ¬ (2 : Int) ≤ 0
    decide
  · have hempty : Rolled.Empty (.dice [] none) := rfl
    exact (hreports o "list" stamp).1.2 ⟨_, List.mem_cons_of_mem _ List.mem_cons_self, hempty⟩
  · exact (htexts _ (.script []) "d6" "list" stamp [4]).1 _ hread ⟨[4], [], rfl⟩
  · exact ((htexts _ (.script []) "\n" "list" stamp [4]).2 _ hblank).1

end DiceRoller
