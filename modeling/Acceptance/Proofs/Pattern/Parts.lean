import Acceptance.Proofs.Pattern.Locality

/-!
# Numbers, escapes and the heads of groups are local

* `local_readCount`: the counts of a repetition.
* `local_readEscape_cons`: escapes but word boundaries; `localAt_readBoundary` says what is special
  about those.
* `local_readFlags`, `local_readName`: what may follow the opening parenthesis of a group.
-/

namespace Acceptance.Pattern

open Text Reader

/-! ### Numbers -/

theorem local_readDecimal (verbose : Bool) : Local (readDecimal verbose) := by
  have value (ds : List Char) : Local fun s =>
      let n := ds.foldl (fun n c => n * 10 + (c.toNat - 48)) 0
      if ds.isEmpty || countLimit ≤ n then none else some (n, s.dropWhile isBlank) := by
    dsimp only
    split
    · exact local_none
    · exact (local_dropWhile isBlank rfl).map fun _ => _
  exact (local_dropWhile isBlank rfl).andThen fun _ =>
    (local_takeAllSpaced verbose Char.isDigit rfl).andThen value

/-- `readCount` after the second number. -/
def readCountEnd (least most : Nat) : Reader (Nat × Option Nat)
  | '}' :: r => if least ≤ most then some ((least, some most), r) else none
  | _ => none

/-- `readCount` after the comma. -/
def readUpper (verbose : Bool) (least : Nat) : Reader (Nat × Option Nat)
  | '}' :: r => some ((least, none), r)
  | r => (readDecimal verbose r).bind fun p => readCountEnd least p.1 p.2

/-- `readCount` after the first number. -/
def readBounds (verbose : Bool) (least : Nat) : Reader (Nat × Option Nat)
  | '}' :: r => some ((least, some least), r)
  | ',' :: r => readUpper verbose least (skip verbose r)
  | _ => none

theorem local_readCountEnd (least most : Nat) : Local (readCountEnd least most) := by
  by_cases h : least ≤ most
  · exact .head '}' (by decide) (local_pure _) local_none rfl (fun _ => if_pos h)
      fun c r h => by simp [readCountEnd, h]
  · exact .head '}' (by decide) local_none local_none rfl (fun _ => if_neg h)
      fun c r h => by simp [readCountEnd, h]

theorem local_readUpper (verbose : Bool) (least : Nat) : Local (readUpper verbose least) :=
  .head '}' (by decide) (local_pure (least, none))
    ((local_readDecimal verbose).andThen (local_readCountEnd least)) rfl (fun _ => rfl)
    fun c r h => by simp [readUpper, h, andThen]

theorem local_readBounds (verbose : Bool) (least : Nat) : Local (readBounds verbose least) := by
  refine .uncons rfl fun c => ?_
  by_cases brace : c = '}'
  · subst brace
    exact local_pure (least, some least)
  · by_cases comma : c = ','
    · subst comma
      exact (local_skip verbose).andThen fun _ => local_readUpper verbose least
    · exact local_none.congr fun r => by simp [readBounds, brace, comma]

theorem local_readCount (verbose : Bool) : Local (readCount verbose) :=
  (local_skip verbose).andThen fun _ =>
    (local_readDecimal verbose).andThen (local_readBounds verbose)

/-! ### Escapes -/

/-- `readHex` after the digits between braces. -/
def readHexEnd (ds : List Char) : Reader Literal
  | '}' :: rest =>
    if ds.isEmpty then none else (charOfCode? (hexValue ds)).map fun c => (⟨c, false⟩, rest)
  | _ => none

/-- `readHex` after an opening brace. -/
def readHexBraced (verbose : Bool) : Reader Literal := fun r =>
  match takeAllSpaced verbose isHexDigit r with
  | (ds, '}' :: rest) =>
    if ds.isEmpty then none else (charOfCode? (hexValue ds)).map fun c => (⟨c, false⟩, rest)
  | _ => none

/-- `readHex` after blanks. -/
def readHexDigits (verbose : Bool) (digits : Nat) : Reader Literal
  | '{' :: r => readHexBraced verbose r
  | r =>
    let (ds, rest) := takeSpaced verbose isHexDigit digits false r
    if ds.length = digits then
      (charOfCode? (hexValue ds)).map fun c => (⟨c, digits == 2⟩, rest)
    else none

theorem local_readHexEnd (ds : List Char) : Local (readHexEnd ds) := by
  by_cases empty : ds.isEmpty
  · exact .head '}' (by decide) local_none local_none rfl (fun _ => if_pos empty)
      fun c r h => by simp [readHexEnd, h]
  · exact .head '}' (by decide) ((local_ofOption (charOfCode? (hexValue ds))).map (⟨·, false⟩))
      local_none rfl (fun _ => by simp [readHexEnd, empty, Function.comp_def])
      fun c r h => by simp [readHexEnd, h]

theorem local_readHexBraced (verbose : Bool) : Local (readHexBraced verbose) := by
  refine ((local_takeAllSpaced verbose isHexDigit rfl).andThen local_readHexEnd).congr fun r => ?_
  rw [readHexBraced, andThen]
  rcases takeAllSpaced verbose isHexDigit r with ⟨ds, - | ⟨c, rest⟩⟩
  · rfl
  · by_cases brace : c = '}'
    · subst brace
      rfl
    · simp [readHexEnd, brace]

theorem local_readHexDigits (verbose : Bool) (digits : Nat) :
    Local (readHexDigits verbose digits) := by
  have fixed (ds : List Char) : Local fun rest =>
      if ds.length = digits then
        (charOfCode? (hexValue ds)).map fun c => ((⟨c, digits == 2⟩ : Literal), rest)
      else none := by
    split
    · exact ((local_ofOption (charOfCode? (hexValue ds))).map (⟨·, digits == 2⟩)).congr fun s => by
        simp [Function.comp_def]
    · exact local_none
  exact .head '{' (by decide) (local_readHexBraced verbose)
    ((local_takeSpaced verbose isHexDigit rfl digits).andThen fixed) rfl (fun _ => rfl)
    fun c r h => by simp [readHexDigits, h, andThen]

theorem local_readHex (verbose : Bool) (digits : Nat) : Local (readHex verbose digits) :=
  (local_skip verbose).andThen fun _ => local_readHexDigits verbose digits

/-- `readProperty` after the name between braces. -/
def readPropertyEnd (negated : Bool) (name : List Char) : Reader Primitive
  | '}' :: rest =>
    some (.named (propertyOfName name).1 (negated != (propertyOfName name).2), rest)
  | _ => none

/-- `readProperty` after an opening brace. -/
def readPropertyBraced (verbose negated : Bool) : Reader Primitive := fun r =>
  match takeAllSpaced verbose (· != '}') r with
  | (name, '}' :: rest) =>
    let (k, unequal) := propertyOfName name
    some (.named k (negated != unequal), rest)
  | _ => none

/-- `readProperty` after blanks. -/
def readPropertyName (verbose negated : Bool) : Reader Primitive
  | '{' :: r => readPropertyBraced verbose negated r
  | '\\' :: _ => none
  | c :: r => some (.named (.property [c]) negated, r)
  | [] => none

theorem local_readPropertyEnd (negated : Bool) (name : List Char) :
    Local (readPropertyEnd negated name) :=
  .head '}' (by decide) (local_pure _) local_none rfl (fun _ => rfl)
    fun c r h => by simp [readPropertyEnd, h]

theorem local_readPropertyBraced (verbose negated : Bool) :
    Local (readPropertyBraced verbose negated) := by
  -- the name may hold a parenthesis, but a brace must follow it
  refine (Local.terminated (takesAt_takeAllSpaced verbose (· != '}'))
    (shortens_takeAllSpaced verbose (· != '}')) (local_readPropertyEnd negated)
    fun _ => rfl).congr fun r => ?_
  rw [readPropertyBraced]
  rcases takeAllSpaced verbose (· != '}') r with ⟨name, - | ⟨c, rest⟩⟩
  · rfl
  · by_cases brace : c = '}'
    · subst brace
      rfl
    · simp [readPropertyEnd, brace]

theorem local_readPropertyName (verbose negated : Bool) :
    Local (readPropertyName verbose negated) := by
  refine .uncons rfl fun c => ?_
  by_cases brace : c = '{'
  · subst brace
    exact local_readPropertyBraced verbose negated
  · by_cases backslash : c = '\\'
    · subst backslash
      exact local_none
    · exact (local_pure (.named (.property [c]) negated)).congr fun r => by simp [readPropertyName]

theorem local_readProperty (verbose negated : Bool) : Local (readProperty verbose negated) :=
  (local_skip verbose).andThen fun _ => local_readPropertyName verbose negated

theorem readEscape_cons {c : Char} (h : c ∉ ['x', 'u', 'U', 'p', 'P', 'b']) (verbose : Bool)
    (r : List Char) :
    readEscape verbose (c :: r) = ((readEscape verbose [c]).map Prod.fst).map (·, r) := by
  unfold readEscape
  dsimp only
  split <;> first | rfl | simp_all

/-- Escapes other than word boundaries are local. -/
theorem local_readEscape_cons {c : Char} (h : c ≠ 'b') (verbose : Bool) :
    Local fun r => readEscape verbose (c :: r) := by
  by_cases plain : c ∈ ['x', 'u', 'U', 'p', 'P', 'b']
  · simp only [List.mem_cons, List.not_mem_nil, or_false, h] at plain
    rcases plain with rfl | rfl | rfl | rfl | rfl
    · exact (local_readHex verbose 2).map Primitive.literal
    · exact (local_readHex verbose 4).map Primitive.literal
    · exact (local_readHex verbose 8).map Primitive.literal
    · exact local_readProperty verbose false
    · exact local_readProperty verbose true
  · exact (local_ofOption _).congr (readEscape_cons plain verbose)

/-! ### Word boundaries -/

theorem shortens_readBoundary (verbose : Bool) : Shortens (readBoundary verbose) := by
  intro s a r h
  unfold readBoundary at h
  split at h
  · next w =>
    have rest_le := shortens_takeAllSpaced verbose isBoundaryChar w
    split at h
    · cases h
    · obtain rfl := congrArg Prod.snd (Option.some.inj h)
      exact List.suffix_refl _
    · next rest _ taken =>
      rw [taken] at rest_le
      obtain ⟨b, -, h⟩ := Option.map_eq_some_iff.1 h
      obtain rfl := congrArg Prod.snd h
      exact ((List.suffix_cons '}' rest).trans rest_le).trans (List.suffix_cons _ w)
    · cases h
  · obtain rfl := congrArg Prod.snd (Option.some.inj h)
    exact List.suffix_refl s

/-- No number of repetitions stands where only blanks and comments are. -/
theorem readCount_of_filler {verbose : Bool} {p : Char → Bool} {s : List Char}
    (h : takeAllSpaced verbose p s = ([], [])) : readCount verbose s = none := by
  have nothing : readDecimal verbose [] = none := rfl
  rw [readCount, skip_of_taken_nil (congrArg Prod.fst h), h, nothing]
  rfl

/-- `readBoundary` after the name of a boundary. -/
def readBoundaryEnd (name : List Char) : Reader Assertion
  | '}' :: rest => (boundaryOfName? name).map fun a => (a, rest)
  | _ => none

theorem local_readBoundaryEnd (name : List Char) : Local (readBoundaryEnd name) :=
  .head '}' (by decide) (local_ofOption (boundaryOfName? name)) local_none rfl (fun _ => rfl)
    fun c r h => by simp [readBoundaryEnd, h]

/-- `readBoundary` at a brace before the text `w`, by the name and what follows it. -/
def readBoundaryBraced (w : List Char) : List Char × List Char → Option (Assertion × List Char)
  | ([], []) => none
  | ([], _ :: _) => some (.wordBoundary, '{' :: w)
  | (c :: name, rest) => readBoundaryEnd (c :: name) rest

theorem readBoundary_brace {verbose : Bool} {w name rest : List Char}
    (taken : takeAllSpaced verbose isBoundaryChar w = (name, rest)) :
    readBoundary verbose ('{' :: w) = readBoundaryBraced w (name, rest) := by
  rw [readBoundary, taken]
  rcases name with - | ⟨c, name⟩ <;> rcases rest with - | ⟨d, rest⟩
  · rfl
  · rfl
  · rfl
  · by_cases brace : d = '}'
    · subst brace
      rfl
    · simp [readBoundaryBraced, readBoundaryEnd, brace]

/-- At an opening brace that only blanks and comments follow, `readBoundary` looks behind the end of
the text, and if it finds anything, it may leave the brace. A repetition cannot begin there. -/
def BoundaryHangs (verbose : Bool) (s : List Char) : Prop :=
  ∃ w, s = '{' :: w ∧ readBoundary verbose s = none ∧ readCount verbose w = none ∧
    ∀ v a r, readBoundary verbose (s ++ ')' :: v) = some (a, r) → r <:+ v ∨ r = s ++ ')' :: v

section Braced

variable {verbose : Bool} {w : List Char}

/-- The name of a boundary stops within the text. -/
theorem localAt_readBoundary_of_stops {name t : List Char}
    (here : takeAllSpaced verbose isBoundaryChar w = (name, t))
    (next : ∀ v, takeAllSpaced verbose isBoundaryChar (w ++ ')' :: v) = (name, t ++ ')' :: v)) :
    LocalAt (readBoundary verbose) ('{' :: w) ∨ BoundaryHangs verbose ('{' :: w) := by
  have alone := readBoundary_brace here
  have follow (v : List Char) := readBoundary_brace (next v)
  rcases name with - | ⟨c, name⟩
  · rcases t with - | ⟨d, t⟩
    · refine .inr ⟨w, rfl, alone, readCount_of_filler here, fun v a r h => .inr ?_⟩
      rw [List.cons_append, follow] at h
      exact (congrArg Prod.snd (Option.some.inj h)).symm
    · exact .inl (.inl ⟨.wordBoundary, '{' :: w, alone, follow⟩)
  · exact .inl (((local_readBoundaryEnd (c :: name)).localAt t).of_eq alone follow)

/-- The text ends in a comment, behind which the name of a boundary may go on. -/
theorem localAt_readBoundary_of_overruns {name : List Char}
    (here : takeAllSpaced verbose isBoundaryChar w = (name, []))
    (beyond : ∀ v, (takeAllSpaced verbose isBoundaryChar (w ++ ')' :: v)).2 <:+ v) :
    LocalAt (readBoundary verbose) ('{' :: w) ∨ BoundaryHangs verbose ('{' :: w) := by
  have alone := readBoundary_brace here
  have named {v rest name' : List Char} {c : Char}
      (taken : takeAllSpaced verbose isBoundaryChar (w ++ ')' :: v) = (c :: name', rest))
      (a r) (h : readBoundary verbose ('{' :: w ++ ')' :: v) = some (a, r)) : r <:+ v := by
    rw [List.cons_append, readBoundary_brace taken] at h
    have rest_le : rest <:+ v := by simpa only [taken] using beyond v
    exact ((local_readBoundaryEnd (c :: name')).shortens rest a r h).trans rest_le
  rcases name with - | ⟨c, name⟩
  · refine .inr ⟨w, rfl, alone, readCount_of_filler here, fun v a r h => ?_⟩
    rcases taken : takeAllSpaced verbose isBoundaryChar (w ++ ')' :: v) with
      ⟨- | ⟨d, name'⟩, rest⟩
    · right
      rw [List.cons_append, readBoundary_brace taken] at h
      cases rest with
      | nil => cases h
      | cons d rest => exact (congrArg Prod.snd (Option.some.inj h)).symm
    · exact .inl (named taken a r h)
  · refine .inl (.inr ⟨fun v a r h => ?_, .inl alone⟩)
    have starts := taken_prefix verbose isBoundaryChar w (')' :: v)
    rcases taken : takeAllSpaced verbose isBoundaryChar (w ++ ')' :: v) with
      ⟨- | ⟨d, name'⟩, rest⟩
    · rw [here, taken] at starts
      exact absurd starts (by simp)
    · exact named taken a r h

end Braced

/-- `readBoundary` is local unless it hangs. -/
theorem localAt_readBoundary (verbose : Bool) (s : List Char) :
    LocalAt (readBoundary verbose) s ∨ BoundaryHangs verbose s := by
  rcases s with - | ⟨c, w⟩
  · exact .inl (.inl ⟨.wordBoundary, [], rfl, fun v => rfl⟩)
  by_cases brace : c = '{'
  · subst brace
    rcases takesAt_takeAllSpaced verbose isBoundaryChar w with
      ⟨name, t, here, next⟩ | ⟨name, here, beyond, -⟩
    · exact localAt_readBoundary_of_stops (Option.some.inj here) fun v => Option.some.inj (next v)
    · exact localAt_readBoundary_of_overruns here beyond
  · exact .inl (localAt_of_stay .wordBoundary w fun t => by simp [readBoundary, brace])

/-! ### Heads of groups -/

theorem readFlags_cons (value dangling : Bool) (found : FlagSettings) (c : Char) (r : List Char) :
    readFlags value dangling found (c :: r) =
      if c = ':' ∨ c = ')' then
        if dangling then none
        else some ((found.reverse, if c = ':' then .opened else .closed), r)
      else if c = '-' then if value then readFlags false true found r else none
      else (Flag.ofLetter? c).bind fun f =>
        if (found.lookup f).isSome then none
        else readFlags value false ((f, value) :: found) r := by
  rw [readFlags.eq_def]
  split <;> grind

theorem shortens_readFlags (value dangling : Bool) (found : FlagSettings) :
    Shortens (readFlags value dangling found) := by
  intro s a r h
  induction s generalizing value dangling found with
  | nil => cases h
  | cons c s ih =>
    refine List.IsSuffix.trans ?_ (List.suffix_cons c s)
    rw [readFlags_cons] at h
    split_ifs at h
    · cases h
      exact List.suffix_refl _
    · cases h
      exact List.suffix_refl _
    · exact ih _ _ _ h
    · obtain ⟨f, -, h⟩ := Option.bind_eq_some_iff.1 h
      split_ifs at h
      exact ih _ _ _ h

theorem local_readFlags (value dangling : Bool) (found : FlagSettings) :
    Local (readFlags value dangling found) where
  shortens := shortens_readFlags value dangling found
  localAt s := by
    induction s generalizing value dangling found with
    | nil =>
      refine .inr ⟨fun v a r h => ?_, .inl rfl⟩
      rw [List.nil_append, readFlags] at h
      split_ifs at h
      cases h
      exact List.suffix_refl v
    | cons c s ih =>
      have next := readFlags_cons value dangling found c
      by_cases ends : c = ':' ∨ c = ')'
      · simp only [if_pos ends] at next
        cases dangling with
        | true => exact (local_none.localAt s).cons next
        | false => exact ((local_pure _).localAt s).cons next
      by_cases minus : c = '-'
      · simp only [if_neg ends, if_pos minus] at next
        cases value with
        | true => exact (ih false true found).cons next
        | false => exact (local_none.localAt s).cons next
      simp only [if_neg ends, if_neg minus] at next
      cases letter : Flag.ofLetter? c with
      | none => exact (local_none.localAt s).cons fun t => by rw [next, letter]; rfl
      | some f =>
        simp only [letter, Option.bind_some] at next
        split_ifs at next
        · exact (local_none.localAt s).cons next
        · exact (ih value false ((f, value) :: found)).cons next

theorem drop_takeWhile_length (p : Char → Bool) (s : List Char) :
    s.drop (s.takeWhile p).length = s.dropWhile p :=
  calc s.drop (s.takeWhile p).length
      = (s.takeWhile p ++ s.dropWhile p).drop (s.takeWhile p).length := by
        rw [List.takeWhile_append_dropWhile]
    _ = s.dropWhile p := List.drop_left

/-- `readName` after the name. -/
def readNameEnd (name : List Char) : Reader (List Char)
  | '>' :: rest =>
    if name.head?.any isNameStart && name.tail.all isNameChar then some (name, rest) else none
  | _ => none

theorem local_readNameEnd (name : List Char) : Local (readNameEnd name) := by
  by_cases valid : (name.head?.any isNameStart && name.tail.all isNameChar) = true
  · exact .head '>' (by decide) (local_pure name) local_none rfl (fun _ => if_pos valid)
      fun d r h => by simp [readNameEnd, h]
  · exact .head '>' (by decide) local_none local_none rfl (fun _ => if_neg valid)
      fun d r h => by simp [readNameEnd, h]

theorem readName_eq (s : List Char) :
    readName s = readNameEnd (s.takeWhile (· != '>')) (s.dropWhile (· != '>')) := by
  rw [readName]
  cases taken : s.takeWhile (· != '>') with
  | nil =>
    rw [readNameEnd.eq_def]
    dsimp only
    split <;> rfl
  | cons c name =>
    have rest := drop_takeWhile_length (· != '>') s
    rw [taken, List.length_cons] at rest
    dsimp only
    rw [rest]
    rfl

theorem local_readName : Local readName :=
  (Local.terminated (takesAt_takeWhile (· != '>')) (fun _ => List.dropWhile_suffix _)
    local_readNameEnd fun _ => rfl).congr readName_eq

end Acceptance.Pattern
