import DiceRoller.Text.Split

/-!
Marks in a text.  A part of a text is known from the whole if it lacks the character that the
text goes on with.  So a text that is put together from parts, with fixed words between them,
is read back part by part.
-/

namespace DiceRoller
namespace Text

def Lacks (c : Char) (s : String) : Prop := c ∉ s.toList

instance (c : Char) (s : String) : Decidable (Lacks c s) :=
  inferInstanceAs (Decidable (_ ∉ _))

namespace Lacks

variable {c : Char} {s t : String}

theorem append (hs : Lacks c s) (ht : Lacks c t) : Lacks c (s ++ t) := by
  intro hmem
  rw [String.toList_append] at hmem
  rcases List.mem_append.1 hmem with hmem | hmem
  · exact hs hmem
  · exact ht hmem

theorem intercalate (hs : Lacks c s) {ls : List String} (h : ∀ l ∈ ls, Lacks c l) :
    Lacks c (s.intercalate ls) := by
  induction ls with
  | nil => simp [Lacks]
  | cons l ls ih =>
      have hl := h l List.mem_cons_self
      cases ls with
      | nil => rwa [String.intercalate_singleton]
      | cons k ls =>
          rw [String.intercalate_cons_cons]
          exact (hl.append hs).append (ih fun k' hk => h k' (List.mem_cons_of_mem l hk))

end Lacks

/-- The text starts with `c`, unless it is empty. -/
def Opens (c : Char) (s : String) : Prop := ∀ d, s.toList.head? = some d → d = c

section
variable {c : Char} {m : String}

theorem opens_empty : Opens c "" := by
  intro d hd
  simp at hd

theorem opens_append (hm : m.toList.head? = some c) (x : String) : Opens c (m ++ x) := by
  intro d hd
  rw [String.toList_append, List.head?_append, hm] at hd
  exact (Option.some.inj hd).symm

theorem append_inj_at {s t x y : String} (hs : Lacks c s) (ht : Lacks c t) (hx : Opens c x)
    (hy : Opens c y) (h : s ++ x = t ++ y) : s = t ∧ x = y := by
  have hchars : s.toList ++ x.toList = t.toList ++ y.toList := by
    rw [← String.toList_append, h, String.toList_append]
  obtain ⟨hfront, hback⟩ := append_inj_of_head hs ht hx hy hchars
  exact ⟨String.toList_inj.1 hfront, String.toList_inj.1 hback⟩

/-- A part ends where the first fixed word starts. -/
theorem append_mark_inj (hm : m.toList.head? = some c) {s t x y : String} (hs : Lacks c s)
    (ht : Lacks c t) (h : s ++ (m ++ x) = t ++ (m ++ y)) : s = t ∧ x = y := by
  obtain ⟨hfront, hback⟩ := append_inj_at hs ht (opens_append hm x) (opens_append hm y) h
  exact ⟨hfront, (String.append_right_inj m).1 hback⟩

/-- A part starts where the last fixed word ends. -/
theorem append_lastMark_inj (hm : m.toList.getLast? = some c) {s t x y : String}
    (hx : Lacks c x) (hy : Lacks c y) (h : s ++ m ++ x = t ++ m ++ y) : s = t ∧ x = y := by
  obtain ⟨front, hfront⟩ := List.getLast?_eq_some_iff.1 hm
  have hchars : ∀ u z : String, (u ++ m ++ z).toList = u.toList ++ front ++ c :: z.toList := by
    intro u z
    rw [String.toList_append, String.toList_append, hfront, List.append_assoc, List.append_assoc,
      List.append_assoc]
    rfl
  have hcut := congrArg String.toList h
  rw [hchars, hchars] at hcut
  obtain ⟨hleft, hright⟩ := append_cons_inj_of_last hx hy hcut
  exact ⟨String.toList_inj.1 (List.append_cancel_right hleft), String.toList_inj.1 hright⟩

/-! ## Joined texts -/

/-- What stands behind the first of some joined texts. -/
def behindFirst (m : String) : List String → String
  | [] => ""
  | l :: ls => m ++ m.intercalate (l :: ls)

theorem intercalate_cons (m l : String) (ls : List String) :
    m.intercalate (l :: ls) = l ++ behindFirst m ls := by
  cases ls with
  | nil => rw [String.intercalate_singleton, behindFirst, String.append_empty]
  | cons k ls => rw [String.intercalate_cons_cons, behindFirst, String.append_assoc]

theorem opens_behindFirst (hm : m.toList.head? = some c) (ls : List String) :
    Opens c (behindFirst m ls) := by
  cases ls with
  | nil => exact opens_empty
  | cons l ls => exact opens_append hm _

theorem behindFirst_cons_ne (hm : m.toList.head? = some c) (l : String) (ls : List String) :
    behindFirst m (l :: ls) ≠ "" := by
  intro h
  rw [behindFirst, String.append_eq_empty_iff] at h
  rw [h.1] at hm
  simp at hm

theorem behindFirst_inj (hm : m.toList.head? = some c) {ls ks : List String}
    (hls : ∀ l ∈ ls, Lacks c l) (hks : ∀ k ∈ ks, Lacks c k)
    (h : behindFirst m ls = behindFirst m ks) : ls = ks := by
  induction ls generalizing ks with
  | nil =>
      cases ks with
      | nil => rfl
      | cons k ks => exact absurd h.symm (behindFirst_cons_ne hm k ks)
  | cons l ls ih =>
      cases ks with
      | nil => exact absurd h (behindFirst_cons_ne hm l ls)
      | cons k ks =>
          have hrest := (String.append_right_inj m).1 h
          rw [intercalate_cons, intercalate_cons] at hrest
          obtain ⟨rfl, hback⟩ := append_inj_at (hls l List.mem_cons_self)
            (hks k List.mem_cons_self) (opens_behindFirst hm ls) (opens_behindFirst hm ks) hrest
          rw [ih (fun l' hl => hls l' (List.mem_cons_of_mem l hl))
            (fun k' hk => hks k' (List.mem_cons_of_mem l hk)) hback]

/-- Texts that are not empty and lack the mark between them are known from the joined text. -/
theorem intercalate_inj (hm : m.toList.head? = some c) {ls ks : List String}
    (hls : ∀ l ∈ ls, l ≠ "" ∧ Lacks c l) (hks : ∀ k ∈ ks, k ≠ "" ∧ Lacks c k)
    (h : m.intercalate ls = m.intercalate ks) : ls = ks := by
  have hne : ∀ l : String, l ≠ "" → ∀ ks, m.intercalate (l :: ks) ≠ "" := by
    intro l hl ks h
    rw [intercalate_cons, String.append_eq_empty_iff] at h
    exact hl h.1
  cases ls with
  | nil =>
      cases ks with
      | nil => rfl
      | cons k ks => exact absurd h.symm (hne k (hks k List.mem_cons_self).1 ks)
  | cons l ls =>
      cases ks with
      | nil => exact absurd h (hne l (hls l List.mem_cons_self).1 ls)
      | cons k ks =>
          have hbehind : behindFirst m (l :: ls) = behindFirst m (k :: ks) := by
            rw [behindFirst, h, behindFirst]
          exact behindFirst_inj hm (fun l' hl => (hls l' hl).2) (fun k' hk => (hks k' hk).2)
            hbehind

end

end Text
end DiceRoller
