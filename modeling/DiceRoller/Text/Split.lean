/-!
Cutting a text at separators.  The pieces keep the empty ones, so cutting is
undone by joining, and it distributes over concatenation at a separator.
-/

namespace DiceRoller
namespace Text

/-- The pieces of a text between the characters that satisfy `p`, empty pieces
included.  There is one more of them than there are such characters. -/
def pieces (p : Char → Bool) : List Char → List (List Char)
  | [] => [[]]
  | c :: cs =>
    if p c then [] :: pieces p cs else (pieces p cs).modifyHead (List.cons c)

theorem pieces_ne_nil (p : Char → Bool) (cs : List Char) : pieces p cs ≠ [] := by
  induction cs with
  | nil => simp [pieces]
  | cons c cs ih =>
      by_cases h : p c = true
      · simp [pieces, h]
      · simpa [pieces, h, List.modifyHead_eq_nil_iff] using ih

theorem pieces_cons_of_pos {p : Char → Bool} {c : Char} (h : p c = true) (cs : List Char) :
    pieces p (c :: cs) = [] :: pieces p cs := by
  simp [pieces, h]

theorem pieces_cons_of_neg {p : Char → Bool} {c : Char} (h : ¬ p c = true) (cs : List Char) :
    pieces p (c :: cs) = (pieces p cs).modifyHead (List.cons c) := by
  simp [pieces, h]

/-- A separator ends the piece before it, whatever follows. -/
theorem pieces_append_cons {p : Char → Bool} {c : Char} (h : p c = true) (as bs : List Char) :
    pieces p (as ++ c :: bs) = pieces p as ++ pieces p bs := by
  induction as with
  | nil => simp [pieces, h]
  | cons a as ih =>
      by_cases ha : p a = true
      · simp [pieces, ha, ih]
      · rw [List.cons_append, pieces_cons_of_neg ha, pieces_cons_of_neg ha, ih]
        cases hp : pieces p as with
        | nil => exact absurd hp (pieces_ne_nil p as)
        | cons w ws => simp

/-- A text without separators is its own only piece. -/
theorem pieces_eq_singleton {p : Char → Bool} {cs : List Char} (h : ∀ c ∈ cs, ¬ p c = true) :
    pieces p cs = [cs] := by
  induction cs with
  | nil => rfl
  | cons c cs ih =>
      rw [pieces_cons_of_neg (h c List.mem_cons_self),
        ih (fun d hd => h d (List.mem_cons_of_mem c hd))]
      rfl

/-- No piece holds a separator. -/
theorem not_sep_of_mem_pieces {p : Char → Bool} {cs w : List Char} (hw : w ∈ pieces p cs) :
    ∀ c ∈ w, ¬ p c = true := by
  induction cs generalizing w with
  | nil =>
      simp only [pieces, List.mem_singleton] at hw
      simp [hw]
  | cons a cs ih =>
      by_cases ha : p a = true
      · rw [pieces_cons_of_pos ha] at hw
        rcases List.mem_cons.1 hw with rfl | hw
        · simp
        · exact ih hw
      · rw [pieces_cons_of_neg ha] at hw
        cases hp : pieces p cs with
        | nil => exact absurd hp (pieces_ne_nil p cs)
        | cons v vs =>
            rw [hp] at hw ih
            rcases List.mem_cons.1 hw with rfl | hw
            · intro c hc
              rcases List.mem_cons.1 hc with rfl | hc
              · exact ha
              · exact ih List.mem_cons_self c hc
            · exact ih (List.mem_cons_of_mem v hw)

theorem length_pieces (p : Char → Bool) (cs : List Char) :
    (pieces p cs).length = cs.countP p + 1 := by
  induction cs with
  | nil => rfl
  | cons c cs ih =>
      by_cases hc : p c = true
      · rw [pieces_cons_of_pos hc, List.length_cons, ih, List.countP_cons_of_pos hc]
      · rw [pieces_cons_of_neg hc, List.length_modifyHead, ih, List.countP_cons_of_neg hc]

/-- The part of a text before its first character outside `p`, and the rest. -/
def cutWhile (p : Char → Bool) (cs : List Char) : List Char × List Char :=
  (cs.takeWhile p, cs.dropWhile p)

theorem cutWhile_append (p : Char → Bool) (cs : List Char) :
    (cutWhile p cs).1 ++ (cutWhile p cs).2 = cs :=
  List.takeWhile_append_dropWhile

theorem of_mem_cutWhile {p : Char → Bool} {cs : List Char} {c : Char}
    (h : c ∈ (cutWhile p cs).1) : p c = true := by
  induction cs with
  | nil => simp [cutWhile] at h
  | cons d cs ih =>
      rw [cutWhile, List.takeWhile_cons] at h
      split at h
      · rename_i hd
        rcases List.mem_cons.1 h with rfl | h
        · exact hd
        · exact ih h
      · simp at h

theorem head_cutWhile {p : Char → Bool} {cs : List Char} {c : Char}
    (h : (cutWhile p cs).2.head? = some c) : ¬ p c = true := by
  induction cs with
  | nil => simp [cutWhile] at h
  | cons d cs ih =>
      rw [cutWhile, List.dropWhile_cons] at h
      split at h
      · exact ih h
      · rename_i hd
        obtain rfl : d = c := by simpa using h
        exact hd

/-- A cut falls where a run of characters satisfying `p` ends. -/
theorem cutWhile_append_of {p : Char → Bool} {as bs : List Char}
    (has : ∀ c ∈ as, p c = true) (hbs : ∀ c, bs.head? = some c → ¬ p c = true) :
    cutWhile p (as ++ bs) = (as, bs) := by
  induction as with
  | nil =>
      cases bs with
      | nil => rfl
      | cons b bs =>
          have hb := hbs b rfl
          simp [cutWhile, hb]
  | cons a as ih =>
      have ha := has a List.mem_cons_self
      have hcut := ih (fun c hc => has c (List.mem_cons_of_mem a hc))
      simp only [cutWhile, Prod.mk.injEq] at hcut ⊢
      rw [List.cons_append, List.takeWhile_cons_of_pos ha, List.dropWhile_cons_of_pos ha,
        hcut.1, hcut.2]
      exact ⟨rfl, rfl⟩

/-- What stands before the first `c` is known from the whole, also if no `c` follows. -/
theorem append_inj_of_head {c : Char} {as bs xs ys : List Char} (has : c ∉ as) (hbs : c ∉ bs)
    (hxs : ∀ d, xs.head? = some d → d = c) (hys : ∀ d, ys.head? = some d → d = c)
    (h : as ++ xs = bs ++ ys) : as = bs ∧ xs = ys := by
  have hcut : ∀ {ds zs : List Char}, c ∉ ds → (∀ d, zs.head? = some d → d = c) →
      cutWhile (· != c) (ds ++ zs) = (ds, zs) := by
    intro ds zs hds hzs
    refine cutWhile_append_of (fun d hd => ?_) (fun d hd => by simp [hzs d hd])
    simpa using fun e : d = c => hds (e ▸ hd)
  have hpair := (hcut has hxs).symm.trans ((congrArg _ h).trans (hcut hbs hys))
  exact Prod.mk.inj hpair

/-- What stands before and after the first `c` is known from the whole. -/
theorem append_cons_inj {c : Char} {as bs xs ys : List Char} (has : c ∉ as) (hbs : c ∉ bs)
    (h : as ++ c :: xs = bs ++ c :: ys) : as = bs ∧ xs = ys := by
  have hhead : ∀ zs : List Char, ∀ d, (c :: zs).head? = some d → d = c :=
    fun _ _ hd => (Option.some.inj hd).symm
  obtain ⟨hfront, hback⟩ := append_inj_of_head has hbs (hhead xs) (hhead ys) h
  exact ⟨hfront, (List.cons.inj hback).2⟩

/-- What stands before and after the last `c` is known from the whole. -/
theorem append_cons_inj_of_last {c : Char} {as bs xs ys : List Char} (hxs : c ∉ xs)
    (hys : c ∉ ys) (h : as ++ c :: xs = bs ++ c :: ys) : as = bs ∧ xs = ys := by
  have hback : xs.reverse ++ c :: as.reverse = ys.reverse ++ c :: bs.reverse := by
    simpa using congrArg List.reverse h
  obtain ⟨hx, ha⟩ :=
    append_cons_inj (by rwa [List.mem_reverse]) (by rwa [List.mem_reverse]) hback
  exact ⟨List.reverse_inj.1 ha, List.reverse_inj.1 hx⟩

/-- The text without the run of characters satisfying `p` at its end. -/
def trimEnd (p : Char → Bool) (cs : List Char) : List Char :=
  (cs.reverse.dropWhile p).reverse

/-- The text without the runs of characters satisfying `p` at both ends. -/
def trim (p : Char → Bool) (cs : List Char) : List Char :=
  trimEnd p (cs.dropWhile p)

section
variable {p : Char → Bool} {g w : List Char}

theorem exists_trimEnd_append (p : Char → Bool) (cs : List Char) :
    ∃ gap, cs = trimEnd p cs ++ gap ∧ ∀ c ∈ gap, p c = true := by
  refine ⟨(cs.reverse.takeWhile p).reverse, ?_, fun c hc => ?_⟩
  · rw [trimEnd, ← List.reverse_append, List.takeWhile_append_dropWhile, List.reverse_reverse]
  · exact of_mem_cutWhile (List.mem_reverse.1 hc)

theorem not_of_getLast?_trimEnd {cs : List Char} {c : Char}
    (h : (trimEnd p cs).getLast? = some c) : ¬ p c = true := by
  rw [trimEnd, List.getLast?_reverse] at h
  exact head_cutWhile h

theorem trimEnd_append (hne : w ≠ []) (hw : ∀ c ∈ w, ¬ p c = true) (g : List Char) :
    trimEnd p (g ++ w) = g ++ w := by
  cases hrev : w.reverse with
  | nil => exact absurd (List.reverse_eq_nil_iff.1 hrev) hne
  | cons c cs =>
      have hc : ¬ p c = true := hw c (List.mem_reverse.1 (hrev ▸ List.mem_cons_self))
      rw [trimEnd, List.reverse_append, hrev, List.cons_append, List.dropWhile_cons_of_neg hc,
        ← List.cons_append, ← hrev, ← List.reverse_append, List.reverse_reverse]

/-- Trimming ends at the last word. -/
theorem trimEnd_append_append (hne : w ≠ []) (hw : ∀ c ∈ w, ¬ p c = true) (g : List Char)
    {gap : List Char} (hgap : ∀ c ∈ gap, p c = true) : trimEnd p (g ++ w ++ gap) = g ++ w := by
  have hdrop : (g ++ w ++ gap).reverse.dropWhile p = (g ++ w).reverse.dropWhile p := by
    rw [List.reverse_append, List.dropWhile_append_of_pos]
    exact fun c hc => hgap c (List.mem_reverse.1 hc)
  rw [trimEnd, hdrop]
  exact trimEnd_append hne hw g

theorem trim_append (hg : ∀ c ∈ g, p c = true) (hne : w ≠ [])
    (hw : ∀ c ∈ w, ¬ p c = true) : trim p (g ++ w) = w := by
  have hstart : w.dropWhile p = w := by
    cases w with
    | nil => rfl
    | cons c cs => exact List.dropWhile_cons_of_neg (hw c List.mem_cons_self)
  rw [trim, List.dropWhile_append_of_pos hg, hstart]
  exact trimEnd_append hne hw []

end

end Text
end DiceRoller
