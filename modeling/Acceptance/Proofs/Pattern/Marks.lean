import Acceptance.Proofs.Pattern.Rounds

/-!
# What marks mean

A mark on a track stands for a match that has come to a position and goes on from there.

* `Track.Resumes` says where the matches of a track go on to.
* `Track.testBit_ends_step` and `Track.passes_step`: a step reports the matches that end at the
  position.
* `Track.resumes_next`: after a step the marks stand for the same matches and for those that have
  started at the position.
-/

namespace Acceptance.Pattern

variable {κ μ : Type}

namespace Track

/-- A match with number `c` that has come to position `i` of a text goes on from there and ends at
position `j`. -/
def Resumes (char : κ → Nat → Prop) (pos : μ → Nat → Prop) :
    Track κ μ → Nat → Nat → Nat → Nat → Prop
  | .empty, _, _, _, _ => False
  | .one k, _, c, i, j => k.marks.testBit c = true ∧ j = i
  | .look _, _, _, _, _ => False
  | .seq a b, w, c, i, j =>
    (∃ m, Resumes char pos a w c i m ∧ b.Matches (fun k => char k.test) pos m j) ∨
      Resumes char pos b w c i j
  | .alt a b, w, c, i, j => Resumes char pos a w c i j ∨ Resumes char pos b w c i j
  | .times least most _ a, w, c, i, j =>
    ∃ r < roundCount least most, ∃ m,
      Resumes char pos a (w * roundCount least most) (c + w * r) i m ∧
        ∃ n, MayEnd least most r n ∧ Steps (a.Matches (fun k => char k.test) pos) n m j
  | .group _ a, w, c, i, j => Resumes char pos a w c i j

/-- All numbers on a track are below `w`. -/
def Fits : Nat → Track κ μ → Prop
  | w, .one k => k.marks < 2 ^ w
  | _, .empty | _, .look _ => True
  | w, .seq a b | w, .alt a b => Fits w a ∧ Fits w b
  | w, .times least most _ a => Fits (w * roundCount least most) a
  | w, .group _ a => Fits w a

/-- A match does not lead back. -/
theorem Resumes.le {char : κ → Nat → Prop} {pos : μ → Nat → Prop} {t : Track κ μ} {w c i j : Nat}
    (h : t.Resumes char pos w c i j) : i ≤ j := by
  induction t generalizing w c i j with
  | empty => exact h.elim
  | one k => exact Nat.le_of_eq h.2.symm
  | look l => exact h.elim
  | seq a b iha ihb =>
    rcases h with ⟨m, first, second⟩ | h
    · exact Nat.le_trans (iha first) second.le
    · exact ihb h
  | alt a b iha ihb => exact h.elim iha ihb
  | times least most isLazy a ih =>
    obtain ⟨r, _, m, first, n, _, rest⟩ := h
    exact Nat.le_trans (ih first) (steps_le (fun i j => Expr.Matches.le) rest)
  | group capturing a ih => exact ih h

/-! ## Crossing a position -/

section

variable {char : κ → Nat → Prop} {pos : μ → Nat → Prop} {accepts : κ → Bool} {holds : μ → Bool}
  {p : Nat}

/-- A step keeps the tests and conditions of a track. -/
theorem matches_next (t : Track κ μ) (w s : Nat) :
    ((t.step accepts holds w).next s).Matches (fun k => char k.test) pos =
      t.Matches (fun k => char k.test) pos := by
  induction t generalizing w s with
  | empty => rfl
  | one k => rfl
  | look l => rfl
  | seq a b iha ihb => funext i j; simp only [step, Expr.Matches, iha, ihb]
  | alt a b iha ihb => funext i j; simp only [step, Expr.Matches, iha, ihb]
  | times least most isLazy a ih => funext i j; simp only [step, Expr.Matches, ih]
  | group capturing a ih => funext i j; simp only [step, Expr.Matches, ih]

/-- A position is passed exactly if the empty stretch there is a match. -/
theorem passes_step (accepts : κ → Bool) (char : κ → Nat → Prop)
    (pos_iff : ∀ l, pos l p ↔ holds l = true) (t : Track κ μ) (w : Nat) :
    (t.step accepts holds w).passes = true ↔ t.Matches (fun k => char k.test) pos p p := by
  induction t generalizing w with
  | empty => simp [step, Expr.Matches]
  | one k => simp [step, Expr.Matches]
  | look l => simp [step, Expr.Matches, pos_iff]
  | seq a b iha ihb =>
    simp only [step, Expr.Matches, Bool.and_eq_true, iha, ihb]
    constructor
    · rintro ⟨first, second⟩
      exact ⟨p, first, second⟩
    · rintro ⟨m, first, second⟩
      obtain rfl : m = p := Nat.le_antisymm second.le first.le
      exact ⟨first, second⟩
  | alt a b iha ihb => simp only [step, Expr.Matches, Bool.or_eq_true, iha, ihb]
  | times least most isLazy a ih =>
    simp only [step, Expr.Matches, Bool.or_eq_true, Bool.and_eq_true, beq_iff_eq,
      decide_eq_true_eq, ih]
    constructor
    · rintro (rfl | ⟨enough, here⟩)
      · exact ⟨0, Nat.le_refl 0, fun h _ => Nat.zero_le h, rfl⟩
      · refine ⟨least, Nat.le_refl least, fun h mem => ?_, steps_self here least⟩
        obtain rfl : most = some h := mem
        exact enough
    · rintro ⟨n, atLeast, atMost, rounds⟩
      rcases Nat.eq_zero_or_pos n with rfl | some
      · exact .inl (Nat.le_zero.1 atLeast)
      · refine .inr ⟨?_, steps_stay (fun i j => Expr.Matches.le) rounds some⟩
        cases most with
        | none => exact Nat.le_max_left least 1
        | some h => exact Nat.le_trans atLeast (atMost h rfl)
  | group capturing a ih => simpa only [step, Expr.Matches] using ih w

theorem ends_step_lt (accepts : κ → Bool) (holds : μ → Bool) {t : Track κ μ} {w : Nat}
    (fits : t.Fits w) : (t.step accepts holds w).ends < 2 ^ w := by
  induction t generalizing w with
  | empty => exact Nat.two_pow_pos w
  | one k => exact fits
  | look l => exact Nat.two_pow_pos w
  | seq a b iha ihb =>
    simp only [step]
    split
    · exact Nat.or_lt_two_pow (iha fits.1) (ihb fits.2)
    · exact ihb fits.2
  | alt a b iha ihb => exact Nat.or_lt_two_pow (iha fits.1) (ihb fits.2)
  | times least most isLazy a ih => exact below_lt w _
  | group capturing a ih => exact ih fits

theorem fits_next (accepts : κ → Bool) (holds : μ → Bool) {t : Track κ μ} {w s : Nat}
    (fits : t.Fits w) (small : s < 2 ^ w) : ((t.step accepts holds w).next s).Fits w := by
  induction t generalizing w s with
  | empty => trivial
  | one k =>
    simp only [step, Fits]
    split
    · exact small
    · exact Nat.two_pow_pos w
  | look l => trivial
  | seq a b iha ihb =>
    refine ⟨iha fits.1 small, ihb fits.2 ?_⟩
    split
    · exact Nat.or_lt_two_pow (ends_step_lt accepts holds fits.1) small
    · exact ends_step_lt accepts holds fits.1
  | alt a b iha ihb => exact ⟨iha fits.1 small, ihb fits.2 small⟩
  | times least most isLazy a ih => exact ih fits (below_lt _ _)
  | group capturing a ih => exact ih fits small

/-- The matches that end at a position are those that resume there and end at once. -/
theorem testBit_ends_step (accepts : κ → Bool) (char : κ → Nat → Prop)
    (pos_iff : ∀ l, pos l p ↔ holds l = true) {t : Track κ μ} {w c : Nat} (fits : t.Fits w)
    (hc : c < w) : (t.step accepts holds w).ends.testBit c = true ↔ t.Resumes char pos w c p p := by
  induction t generalizing w c with
  | empty => simp [step, Resumes]
  | one k => simp [step, Resumes]
  | look l => simp [step, Resumes]
  | seq a b iha ihb =>
    have passes := passes_step accepts char pos_iff b w
    have first := iha fits.1 hc
    have second := ihb fits.2 hc
    simp only [step, Resumes]
    split
    · next h =>
      rw [Nat.testBit_or, Bool.or_eq_true, first, second]
      exact or_congr_left ⟨fun r => ⟨p, r, passes.1 h⟩, fun ⟨m, r, rest⟩ =>
        (Nat.le_antisymm rest.le r.le : m = p) ▸ r⟩
    · next h =>
      rw [second]
      refine ⟨.inr, fun r => r.resolve_left ?_⟩
      rintro ⟨m, r, rest⟩
      obtain rfl : m = p := Nat.le_antisymm rest.le r.le
      exact h (passes.2 rest)
  | alt a b iha ihb =>
    simp only [step, Resumes, Nat.testBit_or, Bool.or_eq_true, iha fits.1 hc, ihb fits.2 hc]
  | times least most isLazy a ih =>
    have passes := passes_step accepts char pos_iff a (w * roundCount least most)
    have mono : ∀ i j, a.Matches (fun k => char k.test) pos i j → i ≤ j :=
      fun i j => Expr.Matches.le
    simp only [step, Resumes]
    rw [testBit_roundEnds hc (ends_step_lt accepts holds fits)]
    refine exists_congr fun r => and_congr_right fun hr => ?_
    rw [EndsRound, ih fits (index_lt hc hr), ← mayEnd_here_iff mono passes hr]
    constructor
    · rintro ⟨done, n, may, rest⟩
      exact ⟨p, done, n, may, rest⟩
    · rintro ⟨m, done, n, may, rest⟩
      obtain rfl : m = p := Nat.le_antisymm (steps_le mono rest) done.le
      exact ⟨done, n, may, rest⟩
  | group capturing a ih => exact ih fits hc

/-- The matches that resume after the next character are those that have started at the position and
those that have resumed there, as far as they lead on. -/
theorem resumes_next (pos_iff : ∀ l, pos l p ↔ holds l = true)
    (char_iff : ∀ k, char k p ↔ accepts k = true) {t : Track κ μ} {w c s j : Nat}
    (fits : t.Fits w) (small : s < 2 ^ w) (hc : c < w) :
    ((t.step accepts holds w).next s).Resumes char pos w c (p + 1) j ↔
      p < j ∧ ((s.testBit c = true ∧ t.Matches (fun k => char k.test) pos p j) ∨
        t.Resumes char pos w c p j) := by
  induction t generalizing w c s j with
  | empty =>
    simp only [step, Resumes, Expr.Matches, or_false, false_iff]
    omega
  | one k =>
    simp only [step, Resumes, Expr.Matches, char_iff, Bool.and_eq_true, bne_iff_ne, ne_eq]
    constructor
    · rintro ⟨h, rfl⟩
      split at h
      · next both => exact ⟨by omega, .inl ⟨h, both.2, rfl⟩⟩
      · simp at h
    · rintro ⟨later, ⟨h, accepted, rfl⟩ | ⟨_, rfl⟩⟩
      · have some : s ≠ 0 := by
          rintro rfl
          simp at h
        exact ⟨by rwa [if_pos ⟨some, accepted⟩], rfl⟩
      · omega
  | look l =>
    simp only [step, Resumes, Expr.Matches, or_false, false_iff]
    omega
  | seq a b iha ihb =>
    have ends := testBit_ends_step accepts char pos_iff fits.1 hc
    have passes := passes_step accepts char pos_iff a w
    have endsSmall := ends_step_lt accepts holds fits.1
    -- the second part is entered by the numbers whose matches of the first part end here
    have entered : ((if (step accepts holds w a).passes = true
        then (step accepts holds w a).ends ||| s
        else (step accepts holds w a).ends).testBit c = true) ↔
          (s.testBit c = true ∧ a.Matches (fun k => char k.test) pos p p) ∨
            Resumes char pos a w c p p := by
      split
      · next h => simp [Nat.testBit_or, ends, passes.1 h, or_comm]
      · next h => simp [ends, mt passes.2 h]
    have ahead : ∀ m, (s.testBit c = true ∧ a.Matches (fun k => char k.test) pos p m) ∨
        Resumes char pos a w c p m → p ≤ m := fun m h => h.elim (fun h => h.2.le) Resumes.le
    simp only [step, Resumes, Expr.Matches, matches_next]
    rw [ihb fits.2 (by split <;> simp [Nat.or_lt_two_pow, endsSmall, small]) hc, entered]
    simp only [iha fits.1 small hc]
    rw [and_or_left, ← or_assoc, exists_later_or_here_iff ahead fun i j => Expr.Matches.le,
      ← and_or_left, ← or_assoc]
    simp only [or_and_right, exists_or, and_assoc, exists_and_left]
  | alt a b iha ihb =>
    simp only [step, Resumes, Expr.Matches, iha fits.1 small hc, ihb fits.2 small hc]
    constructor
    · rintro (⟨later, ⟨h, first⟩ | h⟩ | ⟨later, ⟨h, first⟩ | h⟩)
      · exact ⟨later, .inl ⟨h, .inl first⟩⟩
      · exact ⟨later, .inr (.inl h)⟩
      · exact ⟨later, .inl ⟨h, .inr first⟩⟩
      · exact ⟨later, .inr (.inr h)⟩
    · rintro ⟨later, ⟨h, first | first⟩ | h | h⟩
      · exact .inl ⟨later, .inl ⟨h, first⟩⟩
      · exact .inr ⟨later, .inl ⟨h, first⟩⟩
      · exact .inl ⟨later, .inr h⟩
      · exact .inr ⟨later, .inr h⟩
  | times least most isLazy a ih =>
    have passes := passes_step accepts char pos_iff a (w * roundCount least most)
    have mono : ∀ i j, a.Matches (fun k => char k.test) pos i j → i ≤ j :=
      fun i j => Expr.Matches.le
    have ended {q : Nat} (hq : q < roundCount least most) :
        EndsRound w c (step accepts holds (w * roundCount least most) a).ends q ↔
          Resumes char pos a (w * roundCount least most) (c + w * q) p p :=
      testBit_ends_step accepts char pos_iff fits (index_lt hc hq)
    -- a round goes on behind the next character if it is entered here, or if it has resumed here
    have moved {r m : Nat} (hr : r < roundCount least most) :=
      ih (s := roundStarts w (roundCount least most) most.isNone
          (step accepts holds (w * roundCount least most) a).passes s
          (step accepts holds (w * roundCount least most) a).ends)
        (j := m) fits (below_lt _ _) (index_lt hc hr)
    simp only [step, Resumes, Expr.Matches, matches_next]
    constructor
    · rintro ⟨r, hr, m, body, n, may, rest⟩
      rw [moved hr, testBit_roundStarts hc hr small] at body
      obtain ⟨later, ⟨enters, first⟩ | h⟩ := body
      · have ahead := Nat.lt_of_lt_of_le later (steps_le mono rest)
        have here := (enters_iff _ mono passes ahead).1
          ⟨r, hr, enters, m, later, first, n, may, rest⟩
        refine ⟨ahead, here.imp_right ?_⟩
        rintro ⟨q, hq, done, follow⟩
        exact ⟨q, hq, p, (ended hq).1 done, follow⟩
      · exact ⟨Nat.lt_of_lt_of_le later (steps_le mono rest), .inr ⟨r, hr, m, h, n, may, rest⟩⟩
    · -- what stands at the position enters a round, and what has come further goes on
      rintro ⟨later, h | ⟨q, hq, m, body, n, may, rest⟩⟩
      · obtain ⟨r, hr, enters, m, ahead, first, l, may, rest⟩ :=
          (enters_iff (EndsRound w c _) mono passes later).2 (.inl h)
        refine ⟨r, hr, m, (moved hr).2 ⟨ahead, .inl ⟨?_, first⟩⟩, l, may, rest⟩
        exact (testBit_roundStarts hc hr small).2 enters
      · rcases Nat.eq_or_lt_of_le body.le with rfl | ahead
        · obtain ⟨r, hr, enters, m, ahead, first, l, may, rest⟩ :=
            (enters_iff (EndsRound w c _) mono passes later).2
              (.inr ⟨q, hq, (ended hq).2 body, n, may, rest⟩)
          refine ⟨r, hr, m, (moved hr).2 ⟨ahead, .inl ⟨?_, first⟩⟩, l, may, rest⟩
          exact (testBit_roundStarts hc hr small).2 enters
        · exact ⟨q, hq, m, (moved hq).2 ⟨ahead, .inr body⟩, n, may, rest⟩
  | group capturing a ih => exact ih fits small hc

end

/-! ## Tracks without marks -/

/-- A track without marks matches what its expression matches. -/
theorem matches_track (char : κ → Nat → Prop) (pos : μ → Nat → Prop) (e : Expr κ μ) :
    e.track.Matches (fun k => char k.test) pos = e.Matches char pos :=
  Expr.matches_map (fun k => (⟨k, 0⟩ : Marked κ)) id (fun k => char k.test) pos e

theorem fits_track (e : Expr κ μ) (w : Nat) : Fits w e.track := by
  induction e generalizing w with
  | empty => trivial
  | one k => exact Nat.two_pow_pos w
  | look l => trivial
  | seq a b iha ihb => exact ⟨iha w, ihb w⟩
  | alt a b iha ihb => exact ⟨iha w, ihb w⟩
  | times least most isLazy a ih => exact ih _
  | group capturing a ih => exact ih w

/-- No match resumes on a track without marks. -/
theorem not_resumes_track (char : κ → Nat → Prop) (pos : μ → Nat → Prop) (e : Expr κ μ)
    (w c i j : Nat) : ¬e.track.Resumes char pos w c i j := by
  induction e generalizing w c i j with
  | empty => exact id
  | one k => simp [Expr.track, Expr.map, Resumes]
  | look l => exact id
  | seq a b iha ihb =>
    rintro (⟨m, h, _⟩ | h)
    · exact iha w c i m h
    · exact ihb w c i j h
  | alt a b iha ihb => exact fun h => h.elim (iha w c i j) (ihb w c i j)
  | times least most isLazy a ih =>
    rintro ⟨r, _, m, h, _⟩
    exact ih _ _ i m h
  | group capturing a ih => exact ih w c i j

end Track

/-- A match that resumes in a text ends in it. -/
theorem Track.Resumes.le_of_char {char : κ → Nat → Prop} {pos : μ → Nat → Prop} {n : Nat}
    (inside : ∀ k i, char k i → i < n) {t : Track κ μ} {w c i j : Nat}
    (h : t.Resumes char pos w c i j) (le : i ≤ n) : j ≤ n := by
  have inside' : ∀ (k : Marked κ) i, char k.test i → i < n := fun k => inside k.test
  induction t generalizing w c i j with
  | empty => exact h.elim
  | one k => exact h.2 ▸ le
  | look l => exact h.elim
  | seq a b iha ihb =>
    rcases h with ⟨m, first, second⟩ | h
    · exact second.le_of_char inside' (iha first le)
    · exact ihb h le
  | alt a b iha ihb => exact h.elim (fun h => iha h le) (fun h => ihb h le)
  | times least most isLazy a ih =>
    obtain ⟨r, _, m, body, k, _, rest⟩ := h
    exact steps_le_of (fun _ _ h => h.le_of_char inside') rest (ih body le)
  | group capturing a ih => exact ih h le

end Acceptance.Pattern
