import Acceptance.Pattern.Track
import Acceptance.Proofs.Pattern.Steps
import Mathlib.Algebra.Group.Nat.Defs

/-!
# Numbers and rounds

The bits of the sets of numbers that a repetition works with.

* `testBit_gather` and `testBit_spread` say which numbers come together and which are carried on.
* `index_lt` and `round_lt_of_testBit`: the numbers inside of a repetition are the pairs of a number
  outside of it and a round.
* `EndsRound` and `Enters` say that a number has ended a round and that it enters one.
* `testBit_roundStarts` and `testBit_roundEnds` say which numbers `roundStarts` and `roundEnds`
  hold.
* `mayEnd_here_iff` says when a repetition may end at a position where one of its rounds has ended,
  and `enters_iff` ties the rounds that are entered at a position to the steps that follow.
-/

namespace Acceptance.Pattern

theorem testBit_gather (w k s i : Nat) :
    (gather w k s).testBit i = true ↔ ∃ d < 2 ^ k, s.testBit (i + w * d) = true := by
  induction k generalizing i with
  | zero => simp [gather]
  | succ k ih =>
    simp only [gather, Nat.shiftLeft_eq, Nat.testBit_or, Nat.testBit_shiftRight, Bool.or_eq_true,
      ih]
    constructor
    · rintro (⟨d, hd, h⟩ | ⟨d, hd, h⟩)
      · exact ⟨d, by omega, h⟩
      · refine ⟨2 ^ k + d, by omega, ?_⟩
        rwa [Nat.mul_add, ← Nat.add_assoc, Nat.add_comm i]
    · rintro ⟨d, hd, h⟩
      rcases Nat.lt_or_ge d (2 ^ k) with low | high
      · exact .inl ⟨d, low, h⟩
      · refine .inr ⟨d - 2 ^ k, by omega, ?_⟩
        have split : w * d = w * 2 ^ k + w * (d - 2 ^ k) := by
          rw [← Nat.mul_add]; congr 1; omega
        rwa [split, ← Nat.add_assoc, Nat.add_comm i] at h

theorem testBit_spread (w k s i : Nat) :
    (spread w k s).testBit i = true ↔ ∃ d < 2 ^ k, w * d ≤ i ∧ s.testBit (i - w * d) = true := by
  induction k generalizing i with
  | zero => simp [spread]
  | succ k ih =>
    simp only [spread, Nat.testBit_or, Nat.testBit_shiftLeft, Nat.shiftLeft_eq w, Bool.or_eq_true,
      Bool.and_eq_true, decide_eq_true_eq, ih]
    constructor
    · rintro (⟨d, hd, le, h⟩ | ⟨ge, d, hd, le, h⟩)
      · exact ⟨d, by omega, le, h⟩
      · have split : w * (2 ^ k + d) = w * 2 ^ k + w * d := Nat.mul_add w _ _
        refine ⟨2 ^ k + d, by omega, by omega, ?_⟩
        rw [split]
        rwa [Nat.sub_sub] at h
    · rintro ⟨d, hd, le, h⟩
      rcases Nat.lt_or_ge d (2 ^ k) with low | high
      · exact .inl ⟨d, low, le, h⟩
      · have split : w * d = w * 2 ^ k + w * (d - 2 ^ k) := by
          rw [← Nat.mul_add]; congr 1; omega
        rw [split] at h le
        refine .inr ⟨by omega, d - 2 ^ k, by omega, by omega, ?_⟩
        rwa [Nat.sub_sub]

theorem testBit_below (w s i : Nat) :
    (below w s).testBit i = (decide (i < w) && s.testBit i) := by
  rw [below, Nat.one_shiftLeft, Nat.and_two_pow_sub_one_eq_mod, Nat.testBit_mod_two_pow]

theorem below_lt (w s : Nat) : below w s < 2 ^ w := by
  rw [below, Nat.one_shiftLeft, Nat.and_two_pow_sub_one_eq_mod]
  exact Nat.mod_lt s (Nat.two_pow_pos w)

/-- Number `c` of round `r` is a number of the body of a repetition. -/
theorem index_lt {w c r rounds : Nat} (hc : c < w) (hr : r < rounds) : c + w * r < w * rounds := by
  have le : w * (r + 1) ≤ w * rounds := Nat.mul_le_mul_left w hr
  rw [Nat.mul_succ] at le
  omega

/-- A round whose numbers begin before a number of round `r` is not after it. -/
theorem round_le {w c d r : Nat} (hc : c < w) (h : w * d ≤ c + w * r) : d ≤ r := by
  refine Nat.le_of_not_lt fun lt => ?_
  have := Nat.mul_le_mul_left w (show r + 1 ≤ d from lt)
  rw [Nat.mul_succ] at this
  omega

/-- The number that belongs to the same number outside, some rounds before. -/
theorem index_sub {w c d r : Nat} (le : d ≤ r) : c + w * r - w * d = c + w * (r - d) := by
  have split : w * r = w * (r - d) + w * d := by rw [← Nat.mul_add, Nat.sub_add_cancel le]
  omega

/-- A set of numbers of the body has numbers of its rounds only. -/
theorem round_lt_of_testBit {w c r rounds s : Nat} (small : s < 2 ^ (w * rounds))
    (h : s.testBit (c + w * r) = true) : r < rounds := by
  refine Nat.lt_of_not_le fun le => ?_
  have outside : w * rounds ≤ c + w * r := Nat.le_add_left_of_le (Nat.mul_le_mul_left w le)
  have big : 2 ^ (w * rounds) ≤ 2 ^ (c + w * r) := Nat.pow_le_pow_right (by omega) outside
  rw [Nat.testBit_lt_two_pow (Nat.lt_of_lt_of_le small big)] at h
  exact Bool.noConfusion h

theorem roundCount_none (least : Nat) : roundCount least none = max least 1 := rfl

theorem roundCount_some (least most : Nat) : roundCount least (some most) = most := rfl

/-- Number `c` is among the numbers `ends` that have ended round `q`. -/
def EndsRound (w c ends q : Nat) : Prop := ends.testBit (c + w * q) = true

/-- A number enters round `r` of a repetition: it starts, and the round is the first one, or it has
ended the round before or, where there may be any number of rounds, the last one. If rounds may be
empty, it is enough that it enters a round before. -/
def Enters (rounds : Nat) (isOpen passes start : Bool) (ended : Nat → Prop) (r : Nat) : Prop :=
  ∃ q ≤ r, (q = r ∨ passes = true) ∧ ((q = 0 ∧ start = true) ∨ (∃ q', q = q' + 1 ∧ ended q') ∨
    (isOpen = true ∧ q + 1 = rounds ∧ ended q))

/-- The numbers that start are those of the first round. -/
theorem testBit_first {w c q s : Nat} (small : s < 2 ^ w) :
    s.testBit (c + w * q) = true ↔ q = 0 ∧ s.testBit c = true := by
  constructor
  · intro h
    have first : q < 1 := round_lt_of_testBit (by rwa [Nat.mul_one]) h
    obtain rfl : q = 0 := by omega
    exact ⟨rfl, h⟩
  · rintro ⟨rfl, h⟩
    exact h

/-- The numbers of the rounds after those that have ended. -/
theorem testBit_later {w c q ends : Nat} (hc : c < w) :
    (ends <<< w).testBit (c + w * q) = true ↔
      ∃ q', q = q' + 1 ∧ EndsRound w c ends q' := by
  rw [Nat.testBit_shiftLeft, Bool.and_eq_true, decide_eq_true_eq]
  cases q with
  | zero =>
    constructor
    · rintro ⟨big, _⟩
      omega
    · rintro ⟨q', h, _⟩
      omega
  | succ q =>
    have before : c + w * (q + 1) - w = c + w * q := by
      rw [Nat.mul_succ]
      omega
    rw [before]
    constructor
    · rintro ⟨_, h⟩
      exact ⟨q, rfl, h⟩
    · rintro ⟨q', h, bit⟩
      obtain rfl : q = q' := by omega
      exact ⟨by rw [Nat.mul_succ]; omega, bit⟩

/-- The numbers of the last round, when what is before it is cut off. -/
theorem testBit_last {w c q rounds ends : Nat} (hc : c < w) (hq : q < rounds) :
    (ends >>> (w * (rounds - 1)) <<< (w * (rounds - 1))).testBit (c + w * q) = true ↔
      q + 1 = rounds ∧ EndsRound w c ends q := by
  rw [Nat.testBit_shiftLeft, Nat.testBit_shiftRight, Bool.and_eq_true, decide_eq_true_eq]
  constructor
  · rintro ⟨big, h⟩
    have last := round_le hc big
    rw [Nat.add_sub_cancel' big] at h
    exact ⟨by omega, h⟩
  · rintro ⟨rfl, h⟩
    have big : w * (q + 1 - 1) ≤ c + w * q := Nat.le_add_left _ c
    exact ⟨big, by rwa [Nat.add_sub_cancel' big]⟩

/-- The numbers that enter a round without coming from an empty one. -/
theorem testBit_entering {w c q rounds s ends : Nat} {isOpen : Bool} (hc : c < w)
    (hq : q < rounds) (small : s < 2 ^ w) :
    (s ||| (ends <<< w |||
        (if isOpen then ends >>> (w * (rounds - 1)) <<< (w * (rounds - 1)) else 0))).testBit
      (c + w * q) = true ↔
      (q = 0 ∧ s.testBit c = true) ∨ (∃ q', q = q' + 1 ∧ EndsRound w c ends q') ∨
        (isOpen = true ∧ q + 1 = rounds ∧ EndsRound w c ends q) := by
  simp only [Nat.testBit_or, Bool.or_eq_true]
  refine or_congr (testBit_first small) (or_congr (testBit_later hc) ?_)
  cases isOpen with
  | false => simp
  | true => simpa only [if_true, true_and] using testBit_last hc hq

theorem testBit_roundStarts {w c r rounds s ends : Nat} {isOpen passes : Bool} (hc : c < w)
    (hr : r < rounds) (small : s < 2 ^ w) :
    (roundStarts w rounds isOpen passes s ends).testBit (c + w * r) = true ↔
      Enters rounds isOpen passes (s.testBit c) (EndsRound w c ends) r := by
  simp only [roundStarts, Enters, testBit_below, index_lt hc hr, decide_true, Bool.true_and]
  cases passes with
  | false =>
    simp only [Bool.false_eq_true, if_false, or_false]
    rw [testBit_entering hc hr small]
    constructor
    · exact fun h => ⟨r, Nat.le_refl r, rfl, h⟩
    · rintro ⟨q, _, rfl, h⟩
      exact h
  | true =>
    -- a number that has entered round `q` goes through `r - q` empty rounds
    simp only [if_true, or_true, true_and, testBit_spread]
    constructor
    · rintro ⟨d, _, le, h⟩
      have ahead := round_le hc le
      rw [index_sub ahead, testBit_entering hc (by omega) small] at h
      exact ⟨r - d, Nat.sub_le r d, h⟩
    · rintro ⟨q, le, h⟩
      have back : r - (r - q) = q := Nat.sub_sub_self le
      have inside : w * (r - q) ≤ w * r := Nat.mul_le_mul_left w (Nat.sub_le r q)
      refine ⟨r - q, Nat.lt_trans (by omega) (Nat.lt_log2_self : rounds < _), by omega, ?_⟩
      rw [index_sub (Nat.sub_le r q), back]
      exact (testBit_entering hc (by omega) small).2 h

/-- A number ends a repetition if it has ended a round, and if there have been enough rounds or
enough empty ones may follow. -/
theorem testBit_roundEnds {w c least rounds ends : Nat} {passes : Bool} (hc : c < w)
    (small : ends < 2 ^ (w * rounds)) :
    (roundEnds w least rounds passes ends).testBit c = true ↔
      ∃ r < rounds, EndsRound w c ends r ∧
        (least ≤ r + 1 ∨ (passes = true ∧ least ≤ rounds)) := by
  have among {r : Nat} (hr : r < rounds) : r < 2 ^ (Nat.log2 rounds + 1) :=
    Nat.lt_trans hr Nat.lt_log2_self
  simp only [roundEnds, testBit_below, hc, decide_true, Bool.true_and, testBit_gather]
  split
  · next h =>
    rw [Bool.and_eq_true, decide_eq_true_eq] at h
    constructor
    · rintro ⟨r, _, done⟩
      exact ⟨r, round_lt_of_testBit small done, done, .inr h⟩
    · rintro ⟨r, hr, done, _⟩
      exact ⟨r, among hr, done⟩
  · next h =>
    -- only the rounds from number `least - 1` on are left, and they are counted from there
    rw [Bool.and_eq_true, decide_eq_true_eq] at h
    have shift (d : Nat) : w * (least - 1) + (c + w * d) = c + w * (d + (least - 1)) := by
      rw [Nat.mul_add]
      omega
    simp only [Nat.testBit_shiftRight, shift]
    constructor
    · rintro ⟨d, _, done⟩
      exact ⟨_, round_lt_of_testBit small done, done, .inl (by omega)⟩
    · rintro ⟨r, hr, done, enough⟩
      have back : r - (least - 1) + (least - 1) = r :=
        Nat.sub_add_cancel (by have := enough.resolve_right h; omega)
      exact ⟨r - (least - 1), among (by omega), by rwa [back]⟩

/-! ## Rounds and steps -/

/-- The ways in which a repetition may end whose round `r` has ended and is followed by `n` more. -/
def MayEnd (least : Nat) (most : Option Nat) (r n : Nat) : Prop :=
  least ≤ r + 1 + n ∧ ∀ x ∈ most, r + 1 + n ≤ x

variable {R : Nat → Nat → Prop} {least : Nat} {most : Option Nat} {passes start : Bool}
  {ended : Nat → Prop} {p j n : Nat}

/-- Where a round has ended the repetition may end at once, or after empty rounds. -/
theorem mayEnd_here_iff (mono : ∀ i j, R i j → i ≤ j) (here : passes = true ↔ R p p) {r : Nat}
    (hr : r < roundCount least most) :
    (∃ n, MayEnd least most r n ∧ Steps R n p p) ↔
      least ≤ r + 1 ∨ (passes = true ∧ least ≤ roundCount least most) := by
  constructor
  · rintro ⟨n, ⟨enough, few⟩, stay⟩
    rcases Nat.eq_zero_or_pos n with rfl | some
    · exact .inl enough
    · refine .inr ⟨here.2 (steps_stay mono stay some), ?_⟩
      cases most with
      | none => exact Nat.le_max_left least 1
      | some x => exact Nat.le_trans enough (few x rfl)
  · intro h
    -- the empty rounds that are missing follow, none if there have been enough
    refine ⟨least - (r + 1), ⟨by omega, fun x hx => ?_⟩, ?_⟩
    · obtain rfl : most = some x := hx
      rw [roundCount_some] at hr h
      omega
    · rcases h with enough | ⟨empty, _⟩
      · rw [Nat.sub_eq_zero_of_le enough]
        rfl
      · exact steps_self (here.1 empty) _

/-- What follows when a number has entered a round continues the repetition that has started or the
round that has ended. -/
theorem Enters.steps {r : Nat}
    (h : Enters (roundCount least most) most.isNone passes start ended r)
    (here : passes = true → R p p) (hr : r < roundCount least most) (may : MayEnd least most r n)
    (follow : Steps R (n + 1) p j) :
    (start = true ∧ ∃ k, least ≤ k ∧ (∀ x ∈ most, k ≤ x) ∧ Steps R k p j) ∨
      ∃ q < roundCount least most, ended q ∧ ∃ k, MayEnd least most q k ∧ Steps R k p j := by
  obtain ⟨q, le, same, entered⟩ := h
  obtain ⟨enough, few⟩ := may
  have stay : Steps R (r - q) p p := by
    rcases same with rfl | empty
    · rw [Nat.sub_self]
      rfl
    · exact steps_self (here empty) _
  have all := steps_add stay follow
  rcases entered with ⟨rfl, h⟩ | ⟨q, rfl, h⟩ | ⟨isOpen, last, h⟩
  · refine .inl ⟨h, _, by omega, fun x hx => ?_, all⟩
    have := few x hx
    omega
  · refine .inr ⟨q, by omega, h, _, ⟨by omega, fun x hx => ?_⟩, all⟩
    have := few x hx
    omega
  · obtain rfl := Option.isNone_iff_eq_none.1 isOpen
    rw [roundCount_none] at hr last ⊢
    exact .inr ⟨q, by omega, h, _, ⟨by omega, fun x hx => nomatch hx⟩, all⟩

/-- Steps that lead on from a position where a number enters round `q`: the number enters a round
that moves, and the other steps follow. -/
theorem exists_enters (mono : ∀ i j, R i j → i ≤ j) (here : R p p → passes = true) {q : Nat}
    (hq : q < roundCount least most)
    (entered : (q = 0 ∧ start = true) ∨ (∃ q', q = q' + 1 ∧ ended q') ∨
      (most.isNone = true ∧ q + 1 = roundCount least most ∧ ended q))
    (follow : Steps R n p j) (move : p < j) (enough : least ≤ q + n)
    (few : ∀ x ∈ most, q + n ≤ x) :
    ∃ r < roundCount least most, Enters (roundCount least most) most.isNone passes start ended r ∧
      ∃ m, p < m ∧ R p m ∧ ∃ l, MayEnd least most r l ∧ Steps R l m j := by
  obtain ⟨k, m, l, rfl, stay, ahead, first, rest⟩ := steps_move mono follow move
  obtain ⟨r, hr, le, same, may⟩ : ∃ r < roundCount least most, q ≤ r ∧ (q = r ∨ 0 < k) ∧
      MayEnd least most r l := by
    rcases Nat.lt_or_ge (q + k) (roundCount least most) with low | high
    · refine ⟨q + k, low, by omega, by omega, by omega, fun x hx => ?_⟩
      have := few x hx
      omega
    · cases most with
      | none =>
        rw [roundCount_none] at hq high ⊢
        exact ⟨max least 1 - 1, by omega, by omega, by omega, by omega, fun x hx => nomatch hx⟩
      | some x =>
        have := few x rfl
        rw [roundCount_some] at high
        omega
  exact ⟨r, hr, ⟨q, le, same.imp_right fun some => here (stay some), entered⟩, m, ahead, first, l,
    may, rest⟩

/-- A repetition that starts and leads on enters a round that moves. -/
theorem exists_enters_of_start (mono : ∀ i j, R i j → i ≤ j) (here : R p p → passes = true)
    (begun : start = true) (follow : Steps R n p j) (move : p < j) (enough : least ≤ n)
    (few : ∀ x ∈ most, n ≤ x) :
    ∃ r < roundCount least most, Enters (roundCount least most) most.isNone passes start ended r ∧
      ∃ m, p < m ∧ R p m ∧ ∃ l, MayEnd least most r l ∧ Steps R l m j := by
  have some : 0 < n := by
    refine Nat.pos_of_ne_zero ?_
    rintro rfl
    obtain rfl : p = j := follow
    omega
  refine exists_enters mono here ?_ (.inl ⟨rfl, begun⟩) follow move (by omega) fun x hx => ?_
  · cases most with
    | none => exact Nat.lt_of_lt_of_le Nat.one_pos (Nat.le_max_right least 1)
    | some x => exact Nat.lt_of_lt_of_le some (few x rfl)
  · have := few x hx
    omega

/-- A repetition that has ended a round and leads on enters a round that moves. -/
theorem exists_enters_of_ended (ended : Nat → Prop) (mono : ∀ i j, R i j → i ≤ j)
    (here : R p p → passes = true) {q : Nat} (hq : q < roundCount least most) (done : ended q)
    (may : MayEnd least most q n) (follow : Steps R n p j) (move : p < j) :
    ∃ r < roundCount least most, Enters (roundCount least most) most.isNone passes start ended r ∧
      ∃ m, p < m ∧ R p m ∧ ∃ l, MayEnd least most r l ∧ Steps R l m j := by
  obtain ⟨enough, few⟩ := may
  have some : 0 < n := by
    refine Nat.pos_of_ne_zero ?_
    rintro rfl
    obtain rfl : p = j := follow
    omega
  rcases Nat.lt_or_ge (q + 1) (roundCount least most) with low | high
  · exact exists_enters mono here low (.inr (.inl ⟨q, rfl, done⟩)) follow move enough few
  · cases most with
    | none =>
      rw [roundCount_none] at high
      refine exists_enters mono here hq (.inr (.inr ⟨rfl, Nat.le_antisymm hq high, done⟩)) follow
        move (by omega) fun x hx => nomatch hx
    | some x =>
      have := few x rfl
      rw [roundCount_some] at high
      omega

/-- The rounds that are entered at a position and lead on continue the repetitions that start there
and those that have ended a round there, as far as they lead on. -/
theorem enters_iff (ended : Nat → Prop) (mono : ∀ i j, R i j → i ≤ j)
    (here : passes = true ↔ R p p) (move : p < j) :
    (∃ r < roundCount least most, Enters (roundCount least most) most.isNone passes start ended r ∧
      ∃ m, p < m ∧ R p m ∧ ∃ l, MayEnd least most r l ∧ Steps R l m j) ↔
    (start = true ∧ ∃ k, least ≤ k ∧ (∀ x ∈ most, k ≤ x) ∧ Steps R k p j) ∨
      ∃ q < roundCount least most, ended q ∧ ∃ k, MayEnd least most q k ∧ Steps R k p j := by
  constructor
  · rintro ⟨r, hr, enters, m, _, first, l, may, rest⟩
    exact enters.steps here.1 hr may ⟨m, first, rest⟩
  · rintro (⟨begun, k, enough, few, follow⟩ | ⟨q, hq, done, k, may, follow⟩)
    · exact exists_enters_of_start mono here.2 begun follow move enough few
    · exact exists_enters_of_ended ended mono here.2 hq done may follow move

end Acceptance.Pattern
