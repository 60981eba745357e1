import Acceptance.Proofs.Pattern.Brackets

/-!
# Steps and runs of the reader

* `State.local_readGroup`, `State.local_repeatLast?`: groups are opened and parts are repeated
  locally.
* `State.localAt_step`: a step of the reader stops within a text or runs over its end. The only
  other case, `State.Hangs`, is a step that looks for the name of a word boundary.
* `State.Reads` is a run of the reader. `State.readRest?` is what the reader finds from a state on,
  without the bound on the number of steps that `State.run` has.
* `Reads.readRest?_eq` and `State.exists_reads`: a tree is found by a run to the end of the text.
-/

namespace Acceptance.Pattern

open Text Reader

namespace State

/-! ### Repetitions -/

/-- The mark of a lazy repetition, which may be missing, and what follows. -/
def lazyMark : List Char → Bool × List Char
  | '?' :: r => (true, r)
  | s => (false, s)

/-- The state with its last part repeated, if that can be repeated. -/
def repeatedBy? (least : Nat) (most : Option Nat) (st : State) (isLazy : Bool) : Option State :=
  match st.items with
  | [] | .setFlags _ :: _ | .empty :: _ => none
  | t :: items => some { st with items := .repeated least most isLazy t :: items }

theorem repeatLast?_eq (least : Nat) (most : Option Nat) (st : State) (s : List Char) :
    st.repeatLast? least most s =
      (st.repeatedBy? least most (lazyMark s).1).map fun st => (st, (lazyMark s).2) := by
  obtain ⟨verbose, names, levels, branches, items⟩ := st
  rcases items with - | ⟨t, items⟩
  · rfl
  · cases t <;> rfl

theorem local_lazyMark : Local fun s => some (lazyMark s) :=
  .head '?' (by decide) (local_pure true) (local_pure false) rfl (fun _ => rfl)
    fun c r h => by simp [lazyMark, h]

theorem local_repeatLast? (st : State) (least : Nat) (most : Option Nat) :
    Local (st.repeatLast? least most) :=
  (local_lazyMark.andThen fun isLazy => local_ofOption (st.repeatedBy? least most isLazy)).congr
    (st.repeatLast?_eq least most)

/-! ### Groups -/

/-- `readGroup` after the opening angle bracket of a name. -/
def readNamed (st : State) (r : List Char) : Option (State × List Char) := do
  let (name, rest) ← readName r
  if st.names.contains name then none
  else some ({ st with names := name :: st.names }.openGroup .capture st.verbose, rest)

/-- `readGroup` after a question mark that no name follows. -/
def readFlagged (st : State) (r : List Char) : Option (State × List Char) := do
  let ((fs, ending), rest) ← readFlags true false [] r
  let verbose := fs.value .verbose st.verbose
  match ending with
  | .opened => some (st.openGroup (.flags fs) verbose, rest)
  | .closed => if fs.isEmpty then none else some ({ st with verbose }.push (.setFlags fs), rest)

/-- `readGroup` after a question mark and a `P`, which is no flag. -/
def readAngle (st : State) : Reader State
  | '<' :: r => st.readNamed r
  | _ => none

/-- `readGroup` after a question mark that no angle bracket follows. -/
def readLetter (st : State) : Reader State
  | 'P' :: r => st.readAngle r
  | s => st.readFlagged s

/-- `readGroup` after a question mark. -/
def readMarked (st : State) : Reader State
  | '<' :: r => st.readNamed r
  | s => st.readLetter s

/-- `readGroup` after blanks. -/
def readHead (st : State) : Reader State
  | '?' :: r => st.readMarked r
  | s => some (st.openGroup .capture st.verbose, s)

theorem readGroup_eq (st : State) (s : List Char) :
    st.readGroup s = st.readHead (skip st.verbose s) := by
  rw [readGroup]
  rcases skip st.verbose s with - | ⟨c, r⟩
  · rfl
  by_cases mark : c = '?'
  swap
  · simp [readHead, mark]
  subst mark
  rcases r with - | ⟨d, r⟩
  · rfl
  by_cases angle : d = '<'
  · subst angle
    rfl
  by_cases letter : d = 'P'
  · subst letter
    have noFlag (r : List Char) : readFlags true false [] ('P' :: r) = none := rfl
    rcases r with - | ⟨e, r⟩
    · rfl
    by_cases angle : e = '<'
    · subst angle
      rfl
    · simp [readHead, readMarked, readLetter, readAngle, angle, noFlag]
  · rcases flags : readFlags true false [] (d :: r) with - | ⟨⟨fs, - | -⟩, rest⟩ <;>
      simp [readHead, readMarked, readLetter, readFlagged, angle, letter, flags]

theorem local_readNamed (st : State) : Local st.readNamed := by
  have opened (name : List Char) : Local fun rest =>
      if st.names.contains name then none
      else some ({ st with names := name :: st.names }.openGroup .capture st.verbose, rest) := by
    split
    · exact local_none
    · exact local_pure _
  exact local_readName.andThen opened

/-- The state after flags: in a group that they hold for, or with the flags set. -/
def afterFlags? (st : State) (fs : FlagSettings) : FlagsEnd → Option State
  | .opened => some (st.openGroup (.flags fs) (fs.value .verbose st.verbose))
  | .closed =>
    if fs.isEmpty then none
    else some ({ st with verbose := fs.value .verbose st.verbose }.push (.setFlags fs))

theorem local_readFlagged (st : State) : Local st.readFlagged := by
  refine ((local_readFlags true false []).andThen
    fun p => local_ofOption (st.afterFlags? p.1 p.2)).congr fun s => ?_
  rw [andThen, readFlagged]
  rcases readFlags true false [] s with - | ⟨⟨- | ⟨f, fs⟩, - | -⟩, rest⟩ <;> rfl

theorem local_readAngle (st : State) : Local st.readAngle :=
  .head '<' (by decide) st.local_readNamed local_none rfl (fun _ => rfl)
    fun c r h => by simp [readAngle, h]

theorem local_readLetter (st : State) : Local st.readLetter :=
  .head 'P' (by decide) st.local_readAngle st.local_readFlagged rfl (fun _ => rfl)
    fun c r h => by simp [readLetter, h]

theorem local_readMarked (st : State) : Local st.readMarked :=
  .head '<' (by decide) st.local_readNamed st.local_readLetter rfl (fun _ => rfl)
    fun c r h => by simp [readMarked, h]

theorem local_readHead (st : State) : Local st.readHead :=
  .head '?' (by decide) st.local_readMarked (local_pure (st.openGroup .capture st.verbose)) rfl
    (fun _ => rfl) fun c r h => by simp [readHead, h]

theorem local_readGroup (st : State) : Local st.readGroup :=
  ((local_skip st.verbose).andThen fun _ => st.local_readHead).congr st.readGroup_eq

/-! ### Steps -/

/-- The characters that do not stand for themselves outside of brackets. -/
def signs : List Char := ['(', ')', '|', '[', '?', '*', '+', '{', '\\', '.', '^', '$']

theorem step_plain {c : Char} (h : c ∉ signs) (st : State) (r : List Char) :
    st.step c r = some (st.push (.literal ⟨c, false⟩), r) := by
  rw [step]
  all_goals simp_all [signs]

/-- Outside of brackets all steps are local but those at a backslash. -/
theorem local_step (st : State) {c : Char} (hc : c ≠ '\\') : Local (st.step c) := by
  by_cases special : c ∈ signs
  · simp only [signs, List.mem_cons, List.not_mem_nil, or_false, hc, false_or] at special
    rcases special with rfl | rfl | rfl | rfl | rfl | rfl | rfl | rfl | rfl | rfl | rfl
    · exact st.local_readGroup
    · exact local_ofOption st.closeGroup?
    · exact local_pure st.endBranch
    · exact (local_readClass st.verbose).map fun t => st.push t
    · exact st.local_repeatLast? 0 (some 1)
    · exact st.local_repeatLast? 0 none
    · exact st.local_repeatLast? 1 none
    · exact (local_readCount st.verbose).andThen fun count =>
        (local_skip st.verbose).andThen fun _ => st.local_repeatLast? count.1 count.2
    · exact local_pure (st.push .dot)
    · exact local_pure (st.push (.assertion .lineStart))
    · exact local_pure (st.push (.assertion .lineEnd))
  · exact (local_pure (st.push (.literal ⟨c, false⟩))).congr (step_plain special st)

/-- The state after an escape. -/
def escaped (st : State) : Primitive → State
  | .literal l => st.push (.literal l)
  | .assertion a => st.push (.assertion a)
  | .named k negated => st.push (.named k negated)

theorem step_backslash (st : State) (r : List Char) :
    st.step '\\' r = (readEscape st.verbose r).map fun p => (st.escaped p.1, p.2) := by
  rw [step]
  show Option.bind _ _ = _
  rcases readEscape st.verbose r with - | ⟨- | - | -, rest⟩ <;> rfl

/-- A step at the end of a text that looks behind it for the name of a word boundary, where the
brace of the name is followed by blanks and comments only. If it finds something behind a
parenthesis, it leaves the brace, at which there is no further step within the text. -/
def Hangs (st : State) (c : Char) (s : List Char) : Prop :=
  st.step c s = none ∧ ∀ v st' r, st.step c (s ++ ')' :: v) = some (st', r) →
    r <:+ v ∨ ∃ w, r = '{' :: w ++ ')' :: v ∧ readCount st'.verbose w = none

/-- A step stops within the text, runs over its end or hangs there. -/
theorem localAt_step (st : State) (c : Char) (s : List Char) :
    LocalAt (st.step c) s ∨ st.Hangs c s := by
  by_cases backslash : c = '\\'
  swap
  · exact .inl ((st.local_step backslash).localAt s)
  subst backslash
  have step_eq : st.step '\\' =
      fun s => (readEscape st.verbose s).map fun p => (st.escaped p.1, p.2) :=
    funext st.step_backslash
  rcases s with - | ⟨d, s⟩
  · refine .inl (step_eq ▸ LocalAt.map (.inr ⟨fun v a r h => ?_, .inl rfl⟩) st.escaped)
    exact (local_readEscape_cons (by decide) st.verbose).shortens v a r h
  by_cases boundary : d = 'b'
  · subst boundary
    have escape (t : List Char) : st.step '\\' ('b' :: t) =
        (readBoundary st.verbose t).map fun p => (st.escaped (.assertion p.1), p.2) := by
      rw [step_backslash, readEscape, Option.map_map]
      rfl
    rcases localAt_readBoundary st.verbose s with stays | ⟨w, rfl, alone, noCount, follow⟩
    · exact .inl ((stays.map fun a => st.escaped (.assertion a)).cons escape)
    · refine .inr ⟨by rw [escape, alone]; rfl, fun v st' r h => ?_⟩
      rw [List.cons_append, escape] at h
      obtain ⟨⟨a, m⟩, found, h⟩ := Option.map_eq_some_iff.1 h
      obtain ⟨rfl, rfl⟩ := Prod.mk.inj h
      exact (follow v a m found).imp_right fun whole => ⟨w, whole, noCount⟩
  · have plain := ((local_readEscape_cons boundary st.verbose).localAt s).map st.escaped
    exact .inl (plain.cons fun t => st.step_backslash (d :: t))

theorem shortens_step (st : State) (c : Char) : Shortens (st.step c) := by
  by_cases backslash : c = '\\'
  swap
  · exact (st.local_step backslash).shortens
  subst backslash
  intro s st' r h
  rw [step_backslash] at h
  obtain ⟨⟨p, m⟩, found, h⟩ := Option.map_eq_some_iff.1 h
  obtain rfl : m = r := congrArg Prod.snd h
  rcases s with - | ⟨d, s⟩
  · cases found
  refine List.IsSuffix.trans ?_ (List.suffix_cons d s)
  by_cases boundary : d = 'b'
  · subst boundary
    obtain ⟨⟨a, m'⟩, found', h⟩ := Option.map_eq_some_iff.1 found
    obtain rfl : m' = m := congrArg Prod.snd h
    exact shortens_readBoundary st.verbose s a m' found'
  · exact (local_readEscape_cons boundary st.verbose).shortens s p m found

/-! ### Runs -/

/-- The reader gets from one state and text to another state and the rest of the text. -/
inductive Reads : State → List Char → State → List Char → Prop
  | refl (st : State) (s : List Char) : Reads st s st s
  | step {st st₁ st' : State} {s r rest w : List Char} {c : Char}
      (next : skip st.verbose s = c :: r) (made : st.step c r = some (st₁, rest))
      (later : Reads st₁ rest st' w) : Reads st s st' w

theorem Reads.suffix {st st' : State} {s w : List Char} (h : Reads st s st' w) : w <:+ s := by
  induction h with
  | refl st s => exact List.suffix_refl s
  | @step st st₁ st' s r rest w c next made later ih =>
    have rest_le := (st.shortens_step c r st₁ rest made).trans (List.suffix_cons c r)
    exact (ih.trans rest_le).trans (next ▸ shortens_skip st.verbose s)

/-- One step, after which `next` goes on to the end of the text. -/
def round (next : State → List Char → Option Tree) (st : State) (s : List Char) : Option Tree :=
  match skip st.verbose s with
  | [] => st.finish?
  | c :: r =>
    match st.step c r with
    | some (st, rest) => next st rest
    | none => none

theorem round_congr {f g : State → List Char → Option Tree} {s : List Char}
    (h : ∀ st r, r.length < s.length → f st r = g st r) (st : State) :
    round f st s = round g st s := by
  have skipped := (shortens_skip st.verbose s).length_le
  rw [round, round]
  cases eq : skip st.verbose s with
  | nil => rfl
  | cons c r =>
    rw [eq, List.length_cons] at skipped
    simp only
    cases made : st.step c r with
    | none => rfl
    | some p =>
      have rest_le := (st.shortens_step c r p.1 p.2 made).length_le
      exact h p.1 p.2 (by omega)

theorem run_eq {n m : Nat} (st : State) {s : List Char} (hn : s.length < n) (hm : s.length < m) :
    st.run n s = st.run m s := by
  induction n generalizing m st s with
  | zero => exact absurd hn (Nat.not_lt_zero _)
  | succ n ih =>
    cases m with
    | zero => exact absurd hm (Nat.not_lt_zero _)
    | succ m => exact round_congr (fun st r h => ih st (by omega) (by omega)) st

/-- The tree that the reader finds from a state on, if it gets to the end of the text. -/
def readRest? (st : State) (s : List Char) : Option Tree := st.run (s.length + 1) s

theorem readRest?_eq (st : State) (s : List Char) : st.readRest? s = round readRest? st s :=
  round_congr (fun st _ h => run_eq st h (Nat.lt_succ_self _)) st

theorem readRest?_of_ended {st : State} {s : List Char} (h : skip st.verbose s = []) :
    st.readRest? s = st.finish? := by
  rw [readRest?_eq, round, h]

/-- The reader finds the same tree before and after some steps. -/
theorem Reads.readRest?_eq {st st' : State} {s w : List Char} (h : Reads st s st' w) :
    st.readRest? s = st'.readRest? w := by
  induction h with
  | refl st s => rfl
  | step next made later ih => rw [State.readRest?_eq, round, next, ← ih]; simp only [made]

/-- If the reader finds a tree, it gets to the end of the text with all groups closed. -/
theorem exists_reads {st : State} {s : List Char} {t : Tree} (h : st.readRest? s = some t) :
    ∃ st' w, Reads st s st' w ∧ skip st'.verbose w = [] ∧ st'.levels = [] ∧ t = st'.body := by
  have bounded (n : Nat) : ∀ (st : State) (s : List Char), s.length < n → st.readRest? s = some t →
      ∃ st' w, Reads st s st' w ∧ skip st'.verbose w = [] ∧ st'.levels = [] ∧ t = st'.body := by
    induction n with
    | zero => exact fun _ _ h => absurd h (Nat.not_lt_zero _)
    | succ n ih =>
      intro st s hn h
      have skipped := (shortens_skip st.verbose s).length_le
      rw [readRest?_eq, round] at h
      cases next : skip st.verbose s with
      | nil =>
        rw [next] at h
        simp only [finish?, List.isEmpty_iff] at h
        split_ifs at h with closed
        exact ⟨st, s, .refl st s, next, closed, (Option.some.inj h).symm⟩
      | cons c r =>
        rw [next, List.length_cons] at skipped
        rw [next] at h
        simp only at h
        cases made : st.step c r with
        | none => rw [made] at h; cases h
        | some p =>
          have rest_le := (st.shortens_step c r p.1 p.2 made).length_le
          rw [made] at h
          obtain ⟨st', w, reads, ended⟩ := ih p.1 p.2 (by omega) h
          exact ⟨st', w, .step next made reads, ended⟩
  exact bounded (s.length + 1) st s (Nat.lt_succ_self _) h

end State

end Acceptance.Pattern
