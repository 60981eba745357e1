import Acceptance.Proofs.Pattern.Parts

/-!
# Classes in brackets are local

A class in brackets ends at a bracket, so a parenthesis behind the text is read as a part of it.

* `local_readClassItem`: characters, escapes and ranges. Assertions, among them the word boundaries,
  never stand in a class.
* `ClassState.local_step`: one step inside brackets.
* `local_readClass`: the whole class. The steps it takes are bounded by the length of the text, so
  `readClassRest_eq` first frees the reader from the bound.
-/

namespace Acceptance.Pattern

open Text Reader

variable {α : Type}

/-! ### Classes by name -/

theorem ofName?_eq_none_of_mem {name : List Char} (h : ')' ∈ name) :
    AsciiClass.ofName? name = none := by
  have free (w : String) (hw : ')' ∉ w.toList) : String.ofList name ≠ w := by
    rintro rfl
    exact hw (by simpa using h)
  unfold AsciiClass.ofName?
  split
  all_goals first | rfl | exact absurd ‹_› (free _ (by decide))

/-- The sign of negation of a class, which may be missing, and what follows. -/
def classSign : List Char → Bool × List Char
  | '^' :: r => (true, r)
  | s => (false, s)

/-- `readAsciiClass?` after the colon and the sign of negation. -/
def readAsciiName? (negated : Bool) (s : List Char) : Option (ClassTree × List Char) :=
  let name := s.takeWhile (· != ':')
  match s.drop name.length with
  | ':' :: ']' :: rest => (AsciiClass.ofName? name).map fun k => (.named (.ascii k) negated, rest)
  | _ => none

theorem readAsciiClass?_colon (s : List Char) :
    readAsciiClass? (':' :: s) = readAsciiName? (classSign s).1 (classSign s).2 := rfl

theorem classSign_append (s v : List Char) :
    classSign (s ++ ')' :: v) = ((classSign s).1, (classSign s).2 ++ ')' :: v) := by
  rcases s with - | ⟨c, s⟩
  · rfl
  · by_cases caret : c = '^'
    · subst caret
      rfl
    · simp [classSign, caret]

theorem classSign_suffix (s : List Char) : (classSign s).2 <:+ s := by
  unfold classSign
  split
  · exact List.suffix_cons _ _
  · exact List.suffix_refl _

theorem readAsciiName?_append (negated : Bool) (s v : List Char) :
    readAsciiName? negated (s ++ ')' :: v) =
      (readAsciiName? negated s).map fun p => (p.1, p.2 ++ ')' :: v) := by
  simp only [readAsciiName?, drop_takeWhile_length]
  rw [List.dropWhile_append, List.takeWhile_append]
  have whole := List.takeWhile_append_dropWhile (p := (· != ':')) (l := s)
  cases rest : s.dropWhile (· != ':') with
  | nil =>
    -- the name goes on with the parenthesis, and no class has such a name
    have all : s.takeWhile (· != ':') = s := by simpa [rest] using whole
    have unknown : AsciiClass.ofName? (s ++ (')' :: v).takeWhile (· != ':')) = none :=
      ofName?_eq_none_of_mem (by simp)
    simp only [List.isEmpty_nil, if_true, all, unknown]
    split <;> rfl
  | cons c t =>
    have some_left : (s.takeWhile (· != ':')).length ≠ s.length := by
      intro h
      have := congrArg List.length whole
      rw [List.length_append, rest, List.length_cons] at this
      omega
    simp only [List.isEmpty_cons, Bool.false_eq_true, if_false, if_neg some_left]
    rcases t with - | ⟨d, t⟩
    · simp
    · by_cases closing : c = ':' ∧ d = ']'
      · obtain ⟨rfl, rfl⟩ := closing
        simp [Function.comp_def]
      · rw [not_and] at closing
        split <;> simp_all

theorem readAsciiClass?_append (s v : List Char) :
    readAsciiClass? (s ++ ')' :: v) = (readAsciiClass? s).map fun p => (p.1, p.2 ++ ')' :: v) := by
  rcases s with - | ⟨c, s⟩
  · rfl
  by_cases colon : c = ':'
  · subst colon
    rw [List.cons_append, readAsciiClass?_colon, readAsciiClass?_colon, classSign_append,
      readAsciiName?_append]
  · simp [readAsciiClass?, colon]

/-- What `readClassPrimitive` finds unless it is an assertion, which no class holds. -/
def readClassAtom (verbose : Bool) (c : Char) (r : List Char) : Option (Primitive × List Char) :=
  (readClassPrimitive verbose c r).filter fun p => p.1.classTree?.isSome

theorem local_readClassAtom (verbose : Bool) (c : Char) : Local (readClassAtom verbose c) := by
  by_cases backslash : c = '\\'
  · subst backslash
    refine .uncons rfl fun d => ?_
    by_cases boundary : d = 'b'
    · subst boundary
      refine local_none.congr fun r => ?_
      have escape : readEscape verbose ('b' :: r) =
        (readBoundary verbose r).map fun p => (.assertion p.1, p.2) := rfl
      rw [readClassAtom, readClassPrimitive, if_pos rfl, escape]
      cases readBoundary verbose r <;> rfl
    · exact (local_readEscape_cons boundary verbose).filter fun a => a.classTree?.isSome
  · refine (local_pure (.literal ⟨c, false⟩)).congr fun r => ?_
    rw [readClassAtom, readClassPrimitive, if_neg backslash]
    rfl

theorem bind_readClassAtom (verbose : Bool) (c : Char) (r : List Char)
    (k : Primitive × List Char → Option α) (hk : ∀ a s, k (.assertion a, s) = none) :
    (readClassPrimitive verbose c r).bind k = (readClassAtom verbose c r).bind k := by
  rw [readClassAtom]
  rcases readClassPrimitive verbose c r with - | ⟨l | a | ⟨n, neg⟩, s⟩
  · rfl
  · rfl
  · exact hk a s
  · rfl

/-- `readClassItem` at the end of a range, which is the second of two characters in order. -/
def readRangeChar (verbose : Bool) (first : Primitive) : Reader ClassTree
  | [] => none
  | d :: r => do
    match first, ← readClassPrimitive verbose d r with
    | .literal a, (.literal b, rest) =>
      if a.char ≤ b.char then some (.range a b, rest) else none
    | _, _ => none

/-- `readClassItem` after the hyphen of a range. -/
def readRangeEnd (verbose : Bool) (first : Primitive) : Reader ClassTree := fun after =>
  readRangeChar verbose first (skip verbose after)

/-- Whether a hyphen with this text after it stands for itself. -/
def hyphenEnds (verbose : Bool) (after : List Char) : Bool :=
  peekSpaced verbose after = some ']' || peekSpaced verbose after = some '-'

/-- `readClassItem` after the first character or escape and blanks. -/
def readHyphen (verbose : Bool) (first : Primitive) : Reader ClassTree
  | '-' :: after =>
    if hyphenEnds verbose after then (first.classTree?).map fun t => (t, '-' :: after)
    else readRangeEnd verbose first after
  | rest => (first.classTree?).map fun t => (t, rest)

/-- `readClassItem` after the first character or escape. -/
def readItemRest (verbose : Bool) (first : Primitive) : Reader ClassTree := fun s =>
  readHyphen verbose first (skip verbose s)

theorem readClassItem_eq (verbose : Bool) (c : Char) (r : List Char) :
    readClassItem verbose c r =
      (readClassPrimitive verbose c r).bind fun p => readItemRest verbose p.1 p.2 := by
  rfl

/-- The range from one character to another one, if they are in order. -/
def Primitive.range? : Primitive → Primitive → Option ClassTree
  | .literal a, .literal b => if a.char ≤ b.char then some (.range a b) else none
  | _, _ => none

theorem local_readRangeChar (verbose : Bool) (first : Primitive) :
    Local (readRangeChar verbose first) := by
  refine .uncons rfl fun d => ?_
  refine ((local_readClassAtom verbose d).andThen
    fun second => local_ofOption (first.range? second)).congr fun r => ?_
  refine (bind_readClassAtom verbose d r _ fun a s => ?_).trans ?_
  · cases first <;> rfl
  · rw [andThen]
    congr 1
    funext p
    obtain ⟨second, rest⟩ := p
    rcases first with a | a | ⟨n, neg⟩ <;> rcases second with b | b | ⟨m, neg'⟩
    all_goals try rfl
    by_cases ordered : a.char ≤ b.char <;> simp [Primitive.range?, ordered]

theorem local_readRangeEnd (verbose : Bool) (first : Primitive) :
    Local (readRangeEnd verbose first) :=
  (local_skip verbose).andThen fun _ => local_readRangeChar verbose first

theorem peekSpaced_append (verbose : Bool) (s v : List Char) :
    peekSpaced verbose (s ++ ')' :: v) = some ((peekSpaced verbose s).getD ')') := by
  have blank : isBlank ')' = false := by decide
  have head (t : List Char) : ((t ++ ')' :: v).dropWhile isBlank).head? =
      some ((t.dropWhile isBlank).head?.getD ')') := by
    rw [List.dropWhile_append]
    cases t.dropWhile isBlank <;> simp [blank]
  cases verbose with
  | false => cases s <;> rfl
  | true =>
    have h := head s
    simp only [peekSpaced, if_true]
    rw [List.dropWhile_append]
    cases s.dropWhile isBlank with
    | nil => simp [blank]
    | cons c t =>
      by_cases hash : c = '#'
      · subst hash
        exact head t
      · simp [hash]

theorem hyphenEnds_append (verbose : Bool) (s v : List Char) :
    hyphenEnds verbose (s ++ ')' :: v) = hyphenEnds verbose s := by
  rw [hyphenEnds, hyphenEnds, peekSpaced_append]
  cases peekSpaced verbose s <;> simp

/-- Whether a text after a character or escape of a class goes on as a range. -/
def startsRange (verbose : Bool) : List Char → Bool
  | '-' :: after => !hyphenEnds verbose after
  | _ => false

theorem startsRange_append (verbose : Bool) (s v : List Char) :
    startsRange verbose (s ++ ')' :: v) = startsRange verbose s := by
  rcases s with - | ⟨c, s⟩
  · rfl
  · by_cases hyphen : c = '-'
    · subst hyphen
      exact congrArg (!·) (hyphenEnds_append verbose s v)
    · simp [startsRange, hyphen]

theorem local_readHyphen (verbose : Bool) (first : Primitive) :
    Local (readHyphen verbose first) := by
  have single : Local fun s => first.classTree?.map fun t => (t, s) :=
    local_ofOption first.classTree?
  have range : Local (Reader.next fun _ => readRangeEnd verbose first) :=
    .uncons rfl fun _ => local_readRangeEnd verbose first
  refine (Local.ite (startsRange_append verbose) range single).congr fun s => ?_
  rcases s with - | ⟨c, s⟩
  · rfl
  · by_cases hyphen : c = '-'
    · subst hyphen
      cases h : hyphenEnds verbose s <;> simp [readHyphen, startsRange, Reader.next, h]
    · simp [readHyphen, startsRange, hyphen]

theorem local_readItemRest (verbose : Bool) (first : Primitive) :
    Local (readItemRest verbose first) :=
  (local_skip verbose).andThen fun _ => local_readHyphen verbose first

theorem local_readClassItem (verbose : Bool) (c : Char) : Local (readClassItem verbose c) := by
  refine ((local_readClassAtom verbose c).andThen (local_readItemRest verbose)).congr fun r => ?_
  rw [readClassItem_eq]
  refine bind_readClassAtom verbose c r _ fun a s => ?_
  have range (t : List Char) : readRangeEnd verbose (.assertion a) t = none := by
    rw [readRangeEnd, readRangeChar.eq_def]
    split
    · rfl
    · cases readClassPrimitive verbose _ _ <;> rfl
  rw [readItemRest, readHyphen.eq_def]
  split
  · split
    · rfl
    · exact range _
  · rfl

/-- `openClass` after blanks: the sign of negation, which may be missing. -/
def openSign (verbose : Bool) : List Char → Bool × List Char
  | '^' :: r => (true, skip verbose r)
  | s => (false, s)

/-- `openClass` after the hyphens that stand for themselves. -/
def openItems (negated : Bool) : List ClassTree → List Char → ClassState × List Char
  | [], ']' :: r => (⟨negated, none, [.literal ⟨']', false⟩]⟩, r)
  | items, s => (⟨negated, none, items⟩, s)

theorem local_openItems (negated : Bool) (items : List ClassTree) :
    Local fun s => some (openItems negated items s) := by
  cases items with
  | nil =>
    exact .head ']' (by decide) (local_pure ⟨negated, none, [.literal ⟨']', false⟩]⟩)
      (local_pure ⟨negated, none, []⟩) rfl (fun _ => rfl) fun c r h => by simp [openItems, h]
  | cons t items => exact local_pure _

theorem local_openSign (verbose : Bool) : Local fun s => some (openSign verbose s) :=
  .head '^' (by decide) ((local_skip verbose).map fun _ => true) (local_pure false) rfl
    (fun _ => rfl) fun c r h => by simp [openSign, h]

theorem local_openClass (verbose : Bool) : Local fun s => some (openClass verbose s) :=
  (local_skip verbose).andThen fun _ => (local_openSign verbose).andThen fun negated =>
    (local_takeAllSpaced verbose (· == '-') rfl).andThen fun dashes =>
      local_openItems negated (dashes.map fun c => .literal ⟨c, false⟩)

theorem shortens_readAsciiClass? : Shortens readAsciiClass? := by
  have name (negated : Bool) : Shortens (readAsciiName? negated) := by
    intro s a r h
    simp only [readAsciiName?, drop_takeWhile_length] at h
    split at h
    · next rest eq =>
      obtain ⟨k, -, h⟩ := Option.map_eq_some_iff.1 h
      obtain rfl : rest = r := congrArg Prod.snd h
      have shorter : rest <:+ ':' :: ']' :: rest := List.suffix_append [':', ']'] rest
      exact (eq ▸ shorter).trans (List.dropWhile_suffix _)
    · cases h
  intro s a r h
  rcases s with - | ⟨c, s⟩
  · cases h
  by_cases colon : c = ':'
  · subst colon
    exact ((name _ _ a r h).trans (classSign_suffix s)).trans (List.suffix_cons ':' s)
  · simp [readAsciiClass?, colon] at h

/-- After an opening bracket inside of brackets stands a class by name, or else a class. -/
theorem ClassState.local_step_bracket (verbose : Bool) (q : ClassState)
    (enclosing : List ClassState) : Local (q.step verbose enclosing '[') := by
  have opened : Local fun r =>
      some (ClassProgress.inside (openClass verbose r).1 (q :: enclosing),
        (openClass verbose r).2) :=
    (local_openClass verbose).map fun inner => ClassProgress.inside inner (q :: enclosing)
  have unnamed (r : List Char) (h : readAsciiClass? r = none) : q.step verbose enclosing '[' r =
      some (.inside (openClass verbose r).1 (q :: enclosing), (openClass verbose r).2) := by
    rw [step, h]
  have named (r rest : List Char) (t : ClassTree) (h : readAsciiClass? r = some (t, rest)) :
      q.step verbose enclosing '[' r = some (.inside (q.push t) enclosing, rest) := by
    rw [step, h]
  constructor
  · intro s a r h
    rcases name : readAsciiClass? s with - | ⟨t, rest⟩
    · rw [unnamed s name] at h
      exact opened.shortens s a r h
    · rw [named s rest t name] at h
      obtain rfl : rest = r := congrArg Prod.snd (Option.some.inj h)
      exact shortens_readAsciiClass? s t rest name
  · intro s
    rcases name : readAsciiClass? s with - | ⟨t, rest⟩
    · refine (opened.localAt s).of_eq (unnamed s name) fun v => unnamed _ ?_
      rw [readAsciiClass?_append, name, Option.map_none]
    · refine .inl ⟨.inside (q.push t) enclosing, rest, named s rest t name, fun v => ?_⟩
      exact named _ _ t (by rw [readAsciiClass?_append, name, Option.map_some])

theorem ClassState.local_step (verbose : Bool) (q : ClassState) (enclosing : List ClassState)
    (c : Char) : Local (q.step verbose enclosing c) := by
  have item : Local fun r => (readClassItem verbose c r).map fun p =>
      (ClassProgress.inside (q.push p.1) enclosing, p.2) :=
    (local_readClassItem verbose c).map fun t => ClassProgress.inside (q.push t) enclosing
  by_cases opening : c = '['
  · subst opening
    exact local_step_bracket verbose q enclosing
  by_cases closing : c = ']'
  · subst closing
    cases enclosing with
    | nil => exact local_pure _
    | cons outer enclosing => exact local_pure _
  have operation (op : SetOp) : Local fun r =>
      some (ClassProgress.inside (q.operate op) enclosing, r) :=
    local_pure (ClassProgress.inside (q.operate op) enclosing)
  by_cases both : c = '&'
  · subst both
    exact .head '&' (by decide) (operation .intersection) item rfl (fun _ => rfl)
      fun d r h => by simp [step, h]
  by_cases minus : c = '-'
  · subst minus
    exact .head '-' (by decide) (operation .difference) item rfl (fun _ => rfl)
      fun d r h => by simp [step, h]
  by_cases tilde : c = '~'
  · subst tilde
    exact .head '~' (by decide) (operation .symmetricDifference) item rfl (fun _ => rfl)
      fun d r h => by simp [step, h]
  refine item.congr fun r => ?_
  rw [step]
  all_goals simp_all

/-- How reading goes on after a step inside brackets, where `next` goes on inside of them. -/
def ClassProgress.proceed (next : ClassState → List ClassState → Reader Tree) :
    ClassProgress → Reader Tree
  | .inside q enclosing => next q enclosing
  | .done negated body => fun s => some (.bracketed negated body, s)

/-- One step inside brackets, after which `next` goes on. -/
def classRound (verbose : Bool) (next : ClassState → List ClassState → Reader Tree)
    (q : ClassState) (enclosing : List ClassState) : Reader Tree :=
  andThen (fun s => some ((), skip verbose s)) fun _ => Reader.next fun c =>
    andThen (q.step verbose enclosing c) (ClassProgress.proceed next)

theorem readClassFrom_succ (verbose : Bool) (n : Nat) :
    readClassFrom verbose (n + 1) = classRound verbose (readClassFrom verbose n) := by
  funext q enclosing s
  rw [readClassFrom, classRound, andThen, Option.bind_some]
  cases skip verbose s with
  | nil => rfl
  | cons c r =>
    simp only [Reader.next, andThen]
    rcases q.step verbose enclosing c r with - | ⟨- | -, rest⟩ <;> rfl

section Round

variable {verbose : Bool} {f g : ClassState → List ClassState → Reader Tree} {s : List Char}
  (q : ClassState) (enclosing : List ClassState)

theorem classRound_congr
    (h : ∀ q enclosing r, r.length < s.length → f q enclosing r = g q enclosing r) :
    classRound verbose f q enclosing s = classRound verbose g q enclosing s := by
  have skipped := (shortens_skip verbose s).length_le
  rw [classRound, classRound, andThen, andThen, Option.bind_some, Option.bind_some]
  cases eq : skip verbose s with
  | nil => rfl
  | cons c r =>
    rw [eq, List.length_cons] at skipped
    simp only [Reader.next, andThen]
    cases next : q.step verbose enclosing c r with
    | none => rfl
    | some p =>
      obtain ⟨progress, rest⟩ := p
      have rest_le := ((q.local_step verbose enclosing c).shortens r progress rest next).length_le
      cases progress with
      | inside q enclosing => exact h q enclosing rest (by omega)
      | done negated body => rfl

theorem shortens_proceed (h : ∀ q enclosing, (f q enclosing).Shortens) (p : ClassProgress) :
    (p.proceed f).Shortens := by
  cases p with
  | inside q enclosing => exact h q enclosing
  | done negated body => exact (local_pure _).shortens

theorem shortens_classRound (h : ∀ q enclosing, (f q enclosing).Shortens) :
    (classRound verbose f q enclosing).Shortens :=
  (local_skip verbose).shortens.andThen fun _ => .next fun c =>
    (q.local_step verbose enclosing c).shortens.andThen (shortens_proceed h)

/-- One step in a class is local where what follows is. -/
theorem localAt_classRound (short : ∀ q enclosing, (f q enclosing).Shortens)
    (later : ∀ q enclosing r, r.length < s.length → (f q enclosing).LocalAt r) :
    (classRound verbose f q enclosing).LocalAt s := by
  have short_step (c : Char) :=
    (q.local_step verbose enclosing c).shortens.andThen (shortens_proceed short)
  refine ((local_skip verbose).localAt s).andThen (fun _ => .next short_step) fun _ t skipped => ?_
  refine .next short_step fun c r eq => ?_
  have step_localAt := (q.local_step verbose enclosing c).localAt r
  refine step_localAt.andThen (shortens_proceed short) fun p rest next => ?_
  have t_le := ((local_skip verbose).shortens s _ t skipped).length_le
  have rest_le := ((q.local_step verbose enclosing c).shortens r p rest next).length_le
  rw [eq, List.length_cons] at t_le
  cases p with
  | inside q enclosing => exact later q enclosing rest (by omega)
  | done negated body => exact (local_pure _).localAt rest

end Round

theorem readClassFrom_eq (verbose : Bool) {n m : Nat} (q : ClassState)
    (enclosing : List ClassState) {s : List Char} (hn : s.length < n) (hm : s.length < m) :
    readClassFrom verbose n q enclosing s = readClassFrom verbose m q enclosing s := by
  induction n generalizing m q enclosing s with
  | zero => exact absurd hn (Nat.not_lt_zero _)
  | succ n ih =>
    cases m with
    | zero => exact absurd hm (Nat.not_lt_zero _)
    | succ m =>
      rw [readClassFrom_succ, readClassFrom_succ]
      exact classRound_congr q enclosing fun q enclosing r h => ih q enclosing (by omega) (by omega)

/-- `readClassFrom` with as many steps as the text can need. -/
def readClassRest (verbose : Bool) (q : ClassState) (enclosing : List ClassState) : Reader Tree :=
  fun s => readClassFrom verbose (s.length + 1) q enclosing s

theorem readClassRest_eq (verbose : Bool) (q : ClassState) (enclosing : List ClassState) :
    readClassRest verbose q enclosing = classRound verbose (readClassRest verbose) q enclosing := by
  funext s
  rw [readClassRest, readClassFrom_succ]
  exact classRound_congr q enclosing fun q enclosing r h =>
    readClassFrom_eq verbose q enclosing h (Nat.lt_succ_self _)

theorem shortens_readClassRest (verbose : Bool) (q : ClassState) (enclosing : List ClassState) :
    (readClassRest verbose q enclosing).Shortens := by
  have bounded (n : Nat) : ∀ q enclosing, Shortens (readClassFrom verbose n q enclosing) := by
    induction n with
    | zero =>
      intro _ _ _ _ _ h
      cases h
    | succ n ih =>
      rw [readClassFrom_succ]
      exact fun q enclosing => shortens_classRound q enclosing ih
  exact fun s => bounded (s.length + 1) q enclosing s

theorem local_readClassRest (verbose : Bool) (q : ClassState) (enclosing : List ClassState) :
    (readClassRest verbose q enclosing).Local := by
  have short := shortens_readClassRest verbose
  -- each step takes a character, so this is an induction on the length of the text
  have bounded (n : Nat) : ∀ s : List Char, s.length < n → ∀ q enclosing,
      (readClassRest verbose q enclosing).LocalAt s := by
    induction n with
    | zero => exact fun s h => absurd h (Nat.not_lt_zero _)
    | succ n ih =>
      intro s h q enclosing
      rw [readClassRest_eq]
      exact localAt_classRound q enclosing short fun q enclosing r hr => ih r (by omega) q enclosing
  exact ⟨short q enclosing, fun s => bounded (s.length + 1) s (Nat.lt_succ_self _) q enclosing⟩

theorem local_readClass (verbose : Bool) : Local (readClass verbose) :=
  (local_openClass verbose).andThen fun q => local_readClassRest verbose q []

end Acceptance.Pattern
