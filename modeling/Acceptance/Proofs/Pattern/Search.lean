import Acceptance.Pattern.Compile
import Acceptance.Proofs.Pattern.Bounds
import Acceptance.Proofs.Pattern.Marks

/-!
# Searching a text

* `Track.finds_iff`: reading the rest of a text finds the matches that have been started before and
  those that start in the rest.
* `isMatch_iff`: the search finds a match exactly if there is one.
-/

namespace Acceptance.Pattern

/-- The character before the rest of a text. -/
theorem getElem?_neighbours (before : Option Char) (read rest : List Char) :
    (neighbours before (read ++ rest))[read.length]? =
      some (read.foldl (fun _ c => some c) before, rest.head?) := by
  induction read generalizing before with
  | nil => cases rest <;> rfl
  | cons c read ih => exact ih (some c)

theorem charAt_append (read rest : List Char) (k : CharClass) :
    CharAt (read ++ rest) k read.length ↔ ∃ c, rest.head? = some c ∧ k.set.contains c = true := by
  simp [CharAt, List.getElem?_append, List.head?_eq_getElem?]

theorem lookAt_append (read rest : List Char) (l : Look) :
    LookAt (read ++ rest) l read.length ↔
      l.holds (.of (read.foldl (fun _ c => some c) none)) (.of rest.head?) = true := by
  simp [LookAt, getElem?_neighbours]

theorem lt_length_of_charAt {text : List Char} {k : CharClass} {i : Nat} (h : CharAt text k i) :
    i < text.length := by
  obtain ⟨c, h, _⟩ := h
  exact (List.getElem?_eq_some_iff.1 h).1

/-- A position is reported if a match that goes on there ends at once, or the empty stretch there is
a match. -/
theorem Track.reports_step_iff {κ μ : Type} (accepts : κ → Bool) (char : κ → Nat → Prop)
    {pos : μ → Nat → Prop} {holds : μ → Bool} {p : Nat} (pos_iff : ∀ l, pos l p ↔ holds l = true)
    {t : Track κ μ} (fits : t.Fits 1) :
    ((t.step accepts holds 1).ends != 0 || (t.step accepts holds 1).passes) = true ↔
      t.Resumes char pos 1 0 p p ∨ t.Matches (fun k => char k.test) pos p p := by
  have bit : ∀ n, n < 2 ^ 1 → ((n != 0) = true ↔ n.testBit 0 = true) := by
    intro n hn
    obtain rfl | rfl : n = 0 ∨ n = 1 := by omega
    · simp
    · simp
  rw [Bool.or_eq_true, bit _ (ends_step_lt accepts holds fits)]
  exact or_congr (testBit_ends_step accepts char pos_iff fits Nat.one_pos)
    (passes_step accepts char pos_iff t 1)

/-- The rest of a text is searched for the ends of the matches that are on a track and of those that
start in the rest. -/
theorem Track.finds_iff (read rest : List Char) {t : Track CharClass Look} (fits : t.Fits 1) :
    finds (.of (read.foldl (fun _ c => some c) none)) rest t = true ↔
      (∃ j, t.Resumes (CharAt (read ++ rest)) (LookAt (read ++ rest)) 1 0 read.length j) ∨
        ∃ i j, read.length ≤ i ∧ i ≤ (read ++ rest).length ∧
          t.Matches (fun k => CharAt (read ++ rest) k.test) (LookAt (read ++ rest)) i j := by
  induction rest generalizing read t with
  | nil =>
    refine (reports_step_iff (fun _ => false) (CharAt (read ++ [])) (lookAt_append read [])
      fits).trans ?_
    constructor
    · rintro (h | h)
      · exact .inl ⟨_, h⟩
      · exact .inr ⟨_, _, Nat.le_refl _, by simp, h⟩
    · -- all matches that are left end here, as there are no characters to lead on
      rintro (⟨j, h⟩ | ⟨i, j, le, le', h⟩)
      · have upper := h.le_of_char (fun _ _ => lt_length_of_charAt) (by simp)
        have lower := h.le
        rw [List.append_nil] at upper
        obtain rfl : j = read.length := by omega
        exact .inl h
      · have upper := h.le_of_char (fun _ _ => lt_length_of_charAt) le'
        have lower := h.le
        rw [List.append_nil] at upper
        obtain rfl : i = read.length := by omega
        obtain rfl : j = read.length := by omega
        exact .inr h
  | cons c rest ih =>
    have char_iff : ∀ k, CharAt (read ++ c :: rest) k read.length ↔ k.set.contains c = true := by
      intro k
      rw [charAt_append]
      simp
    have one : 1 < 2 ^ 1 := by decide
    have here := reports_step_iff (fun k => k.set.contains c) (CharAt (read ++ c :: rest))
      (lookAt_append read (c :: rest)) fits
    have next := fun j => resumes_next (j := j) (lookAt_append read (c :: rest)) char_iff fits one
      Nat.one_pos
    have later := ih (read ++ [c]) (fits_next (fun k => k.set.contains c)
      (fun l => l.holds (.of (read.foldl (fun _ c => some c) none)) (.of (some c))) fits one)
    simp only [List.foldl_append, List.foldl_cons, List.foldl_nil, List.append_assoc,
      List.singleton_append, List.length_append, List.length_singleton, matches_next] at later
    simp only [finds]
    rw [Bool.or_eq_true]
    refine (or_congr here later).trans ?_
    constructor
    · rintro ((h | h) | ⟨j, h⟩ | ⟨i, j, le, le', h⟩)
      · exact .inl ⟨_, h⟩
      · exact .inr ⟨_, _, Nat.le_refl _, by simp, h⟩
      · obtain ⟨_, ⟨_, h⟩ | h⟩ := (next j).1 h
        · exact .inr ⟨_, j, Nat.le_refl _, by simp, h⟩
        · exact .inl ⟨j, h⟩
      · exact .inr ⟨i, j, by omega, by simpa using le', h⟩
    · rintro (⟨j, h⟩ | ⟨i, j, le, le', h⟩)
      · rcases Nat.eq_or_lt_of_le h.le with rfl | later
        · exact .inl (.inl h)
        · exact .inr (.inl ⟨j, (next j).2 ⟨later, .inr h⟩⟩)
      · rcases Nat.eq_or_lt_of_le le with rfl | later
        · rcases Nat.eq_or_lt_of_le h.le with rfl | later
          · exact .inl (.inr h)
          · exact .inr (.inl ⟨j, (next j).2 ⟨later, .inl ⟨rfl, h⟩⟩⟩)
        · exact .inr (.inr ⟨i, j, later, by simpa using le', h⟩)

/-- The search finds a match exactly if there is one. -/
theorem isMatch_iff (e : Expr CharClass Look) (text : List Char) :
    isMatch e text = true ↔ Finds e text := by
  rw [isMatch]
  refine (Track.finds_iff [] text (Track.fits_track _ 1)).trans ?_
  simp only [Track.not_resumes_track, exists_const, false_or, Track.matches_track, Finds, Spans,
    List.nil_append, List.length_nil, Nat.zero_le, true_and]
  refine exists_congr fun i => exists_congr fun j => and_congr_right fun le => ?_
  constructor
  · intro h
    have := h.le_of_char (fun _ _ => lt_length_of_charAt) le
    exact (Expr.matches_bounded e (by omega)).1 h
  · intro h
    have := h.le_of_char (fun _ _ => lt_length_of_charAt) le
    exact (Expr.matches_bounded e (by omega)).2 h

end Acceptance.Pattern
