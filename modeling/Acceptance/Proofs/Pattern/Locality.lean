import Acceptance.Pattern.Reader
import Mathlib.Data.List.Infix

/-!
# Readers and the end of a group

The parts of the reader of patterns take something from the front of a text. Here the text goes on
after a part `s` of it with a closing parenthesis. A reader either stops within `s`, whatever stands
after the parenthesis, or it runs over the end of `s` and takes the parenthesis too.

* `Reader.Stops` and `Reader.Overruns` are the two cases, `Reader.Local` says that there is no third
  one. A local reader makes of `s` alone what it makes of `s` in front of the parenthesis, unless it
  overruns `s`.
* `Local.andThen`, `Local.uncons` and `Local.head` build local readers from local readers.
* `local_skip` and `local_takeAllSpaced`: blanks are dropped and characters are taken locally.
* `Local.terminated`: a reader that takes up to some end, and then needs that end, is local even if
  it can take parentheses.
-/

namespace Acceptance.Pattern

open Text

/-- What takes something from the front of a text. -/
abbrev Reader (α : Type) := List Char → Option (α × List Char)

namespace Reader

variable {α β : Type}

/-- The reader stops within `s`, before a parenthesis that follows. -/
def Stops (f : Reader α) (s : List Char) : Prop :=
  ∃ a r, f s = some (a, r) ∧ ∀ v, f (s ++ ')' :: v) = some (a, r ++ ')' :: v)

/-- The reader runs over the end of `s`: if it finds anything, it takes a parenthesis that follows.
Of `s` alone it takes all or nothing; if all, it takes a parenthesis at the end as well. -/
def Overruns (f : Reader α) (s : List Char) : Prop :=
  (∀ v a r, f (s ++ ')' :: v) = some (a, r) → r <:+ v) ∧
    (f s = none ∨ ∃ a, f s = some (a, []) ∧ f (s ++ [')']) = some (a, []))

/-- The reader stops within `s` or runs over its end. -/
def LocalAt (f : Reader α) (s : List Char) : Prop := f.Stops s ∨ f.Overruns s

/-- What the reader leaves is an end of the text. -/
def Shortens (f : Reader α) : Prop := ∀ s a r, f s = some (a, r) → r <:+ s

/-- The reader stops within any text or runs over its end. -/
structure Local (f : Reader α) : Prop where
  shortens : f.Shortens
  localAt : ∀ s, f.LocalAt s

/-! ### Building readers -/

/-- One reader after another. -/
def andThen (f : Reader α) (g : α → Reader β) : Reader β := fun s =>
  (f s).bind fun p => g p.1 p.2

/-- A reader that makes of one text what another reader makes of another text. -/
theorem LocalAt.of_eq {f g : Reader α} {s t : List Char} (hg : g.LocalAt t) (here : f s = g t)
    (follow : ∀ v, f (s ++ ')' :: v) = g (t ++ ')' :: v)) : f.LocalAt s := by
  have paren := follow []
  rcases hg with ⟨a, r, alone, next⟩ | ⟨beyond, alone⟩
  · exact .inl ⟨a, r, here.trans alone, fun v => (follow v).trans (next v)⟩
  · refine .inr ⟨fun v a r h => beyond v a r ((follow v).symm.trans h), ?_⟩
    rw [here, paren]
    exact alone

theorem Shortens.andThen {f : Reader α} {g : α → Reader β} (hf : f.Shortens)
    (hg : ∀ a, (g a).Shortens) : (f.andThen g).Shortens := by
  intro s b r h
  obtain ⟨⟨a, m⟩, ha, hb⟩ := Option.bind_eq_some_iff.1 h
  exact (hg a m b r hb).trans (hf s a m ha)

/-- A reader after another one, at a text: the second one is used on what the first one leaves. -/
theorem LocalAt.andThen {f : Reader α} {g : α → Reader β} {s : List Char} (hf : f.LocalAt s)
    (hg : ∀ a, (g a).Shortens) (later : ∀ a r, f s = some (a, r) → (g a).LocalAt r) :
    (f.andThen g).LocalAt s := by
  rcases hf with ⟨a, r, here, follow⟩ | ⟨beyond, alone⟩
  · have here' : f.andThen g s = g a r := by rw [Reader.andThen, here]; rfl
    have follow' : ∀ v, f.andThen g (s ++ ')' :: v) = g a (r ++ ')' :: v) := by
      intro v
      rw [Reader.andThen, follow]
      rfl
    exact (later a r here).of_eq here' follow'
  · refine .inr ⟨?_, ?_⟩
    · intro v b m h
      obtain ⟨⟨a, r⟩, ha, hb⟩ := Option.bind_eq_some_iff.1 h
      exact (hg a r b m hb).trans (beyond v a r ha)
    · rcases alone with none | ⟨a, here, paren⟩
      · exact .inl (by rw [Reader.andThen, none]; rfl)
      · have here' : f.andThen g s = g a [] := by rw [Reader.andThen, here]; rfl
        have paren' : f.andThen g (s ++ [')']) = g a [] := by rw [Reader.andThen, paren]; rfl
        rw [here', paren']
        cases hb : g a [] with
        | none => exact .inl rfl
        | some p =>
          obtain ⟨b, m⟩ := p
          obtain rfl : m = [] := List.suffix_nil.1 (hg a [] b m hb)
          exact .inr ⟨b, rfl, rfl⟩

theorem Local.andThen {f : Reader α} {g : α → Reader β} (hf : f.Local) (hg : ∀ a, (g a).Local) :
    (f.andThen g).Local where
  shortens := hf.shortens.andThen fun a => (hg a).shortens
  localAt s := (hf.localAt s).andThen (fun a => (hg a).shortens) fun a r _ => (hg a).localAt r

theorem Local.congr {f g : Reader α} (hg : g.Local) (h : ∀ s, f s = g s) : f.Local :=
  (funext h : f = g) ▸ hg

/-- A reader that takes nothing is local. -/
theorem local_pure (a : α) : Local fun s => some (a, s) where
  shortens s b r h := by
    obtain ⟨rfl, rfl⟩ := Prod.mk.inj (Option.some.inj h)
    exact List.suffix_refl s
  localAt s := .inl ⟨a, s, rfl, fun _ => rfl⟩

/-- A reader that never finds anything is local. -/
theorem local_none : Local fun _ => (none : Option (α × List Char)) where
  shortens _ _ _ h := nomatch h
  localAt _ := .inr ⟨fun _ _ _ h => (nomatch h), .inl rfl⟩

theorem local_ofOption (o : Option α) : Local fun s => o.map fun a => (a, s) := by
  cases o with
  | none => exact local_none
  | some a => exact local_pure a

theorem LocalAt.map {f : Reader α} {s : List Char} (hf : f.LocalAt s) (g : α → β) :
    LocalAt (fun s => (f s).map fun p => (g p.1, p.2)) s := by
  have taken := hf.andThen (fun a => (local_pure (g a)).shortens)
    fun a r _ => (local_pure (g a)).localAt r
  have same (t : List Char) : ((f t).map fun p => (g p.1, p.2)) =
      f.andThen (fun a s => some (g a, s)) t := by
    rw [Reader.andThen]
    cases f t <;> rfl
  exact taken.of_eq (same s) fun v => same _

theorem Local.map {f : Reader α} (hf : f.Local) (g : α → β) :
    Local fun s => (f s).map fun p => (g p.1, p.2) where
  shortens s b r h := by
    obtain ⟨⟨a, r⟩, ha, h⟩ := Option.map_eq_some_iff.1 h
    obtain rfl := congrArg Prod.snd h
    exact hf.shortens s a r ha
  localAt s := (hf.localAt s).map g

theorem Local.filter {f : Reader α} (hf : f.Local) (q : α → Bool) :
    Local fun s => (f s).filter fun p => q p.1 := by
  have keep (a : α) : Local fun s => if q a then some (a, s) else none := by
    cases q a with
    | true => exact local_pure a
    | false => exact local_none
  refine (hf.andThen keep).congr fun s => ?_
  rw [Reader.andThen]
  cases f s <;> rfl

/-- A choice that does not depend on what stands behind a parenthesis. -/
theorem Local.ite {f g : Reader α} {b : List Char → Bool}
    (hb : ∀ s v, b (s ++ ')' :: v) = b s) (hf : f.Local) (hg : g.Local) :
    Local fun s => if b s then f s else g s where
  shortens s a r h := by
    dsimp only at h
    split_ifs at h
    · exact hf.shortens s a r h
    · exact hg.shortens s a r h
  localAt s := by
    cases h : b s with
    | true => exact (hf.localAt s).of_eq (if_pos h) fun v => if_pos ((hb s v).trans h)
    | false =>
      refine (hg.localAt s).of_eq (if_neg (ne_true_of_eq_false h)) fun v => ?_
      exact if_neg (ne_true_of_eq_false ((hb s v).trans h))

/-- A reader that goes on behind the first character as another one does. -/
theorem LocalAt.cons {f g : Reader α} {c : Char} {s : List Char} (hg : g.LocalAt s)
    (h : ∀ t, f (c :: t) = g t) : f.LocalAt (c :: s) :=
  hg.of_eq (h s) fun _ => h _

/-- A reader that takes nothing in front of some character. -/
theorem localAt_of_stay {f : Reader α} {c : Char} (a : α) (s : List Char)
    (h : ∀ t, f (c :: t) = some (a, c :: t)) : f.LocalAt (c :: s) :=
  .inl ⟨a, c :: s, h s, fun v => h (s ++ ')' :: v)⟩

/-- A reader that goes on by the first character, which it needs. -/
def next (f : Char → Reader α) : Reader α
  | [] => none
  | c :: r => f c r

theorem Shortens.next {f : Char → Reader α} (h : ∀ c, (f c).Shortens) :
    (Reader.next f).Shortens := by
  intro s a r eq
  cases s with
  | nil => cases eq
  | cons c s => exact (h c s a r eq).trans (List.suffix_cons c s)

theorem LocalAt.next {f : Char → Reader α} {s : List Char} (short : ∀ c, (f c).Shortens)
    (later : ∀ c r, s = c :: r → (f c).LocalAt r) : (Reader.next f).LocalAt s := by
  cases s with
  | nil => exact .inr ⟨fun v a r h => short ')' v a r h, .inl rfl⟩
  | cons c r => exact later c r rfl

/-- A reader that needs a first character is local if it is local after each one. -/
theorem Local.uncons {f : Reader α} (nil : f [] = none) (cons : ∀ c, Local fun r => f (c :: r)) :
    f.Local := by
  have same : f = Reader.next fun c r => f (c :: r) := by
    funext s
    cases s with
    | nil => exact nil
    | cons c r => rfl
  rw [same]
  exact ⟨.next fun c => (cons c).shortens, fun s => .next (fun c => (cons c).shortens)
    fun c r _ => (cons c).localAt r⟩

/-- A reader that tells one first character from all others, unless that is the parenthesis. -/
theorem Local.head {f g h : Reader α} (d : Char) (hd : d ≠ ')') (hg : g.Local) (hh : h.Local)
    (nil : f [] = h []) (head : ∀ r, f (d :: r) = g r)
    (other : ∀ c r, c ≠ d → f (c :: r) = h (c :: r)) : f.Local where
  shortens s a r eq := by
    rcases s with - | ⟨c, s⟩
    · exact hh.shortens [] a r (nil ▸ eq)
    · by_cases hc : c = d
      · subst hc
        exact (hg.shortens s a r (head s ▸ eq)).trans (List.suffix_cons c s)
      · exact hh.shortens (c :: s) a r (other c s hc ▸ eq)
  localAt s := by
    rcases s with - | ⟨c, s⟩
    · -- behind the end stands the parenthesis, which is another character than `d`
      exact (hh.localAt []).of_eq nil fun v => other ')' v hd.symm
    · by_cases hc : c = d
      · subst hc
        exact (hg.localAt s).of_eq (head s) fun v => head _
      · exact (hh.localAt (c :: s)).of_eq (other c s hc) fun v => other c _ hc

end Reader

open Reader

variable {α : Type}

/-! ### Blanks and comments -/

/-- `takeSpaced` with another limit: after `k` characters `more k` says whether to go on. -/
def takeWhileMore (verbose : Bool) (p : Char → Bool) (more : Nat → Bool) :
    Nat → Bool → List Char → List Char × List Char
  | _, _, [] => ([], [])
  | k, inComment, c :: r =>
    if !more k then ([], c :: r)
    else if inComment then takeWhileMore verbose p more k (c != '\n') r
    else if verbose && isBlank c then takeWhileMore verbose p more k false r
    else if verbose && c == '#' then takeWhileMore verbose p more k true r
    else if p c then
      let (taken, rest) := takeWhileMore verbose p more (k + 1) false r
      (c :: taken, rest)
    else ([], c :: r)

theorem takeSpaced_eq (verbose : Bool) (p : Char → Bool) (n k : Nat) (inComment : Bool)
    (s : List Char) :
    takeSpaced verbose p n inComment s = takeWhileMore verbose p (· < n + k) k inComment s := by
  induction s generalizing n k inComment with
  | nil => cases n <;> rfl
  | cons c s ih =>
    cases n with
    | zero => simp [takeSpaced, takeWhileMore]
    | succ n =>
      have more : k < n + (k + 1) := by omega
      simp only [takeSpaced, takeWhileMore, ih (n + 1) k, ih n (k + 1), more, decide_true,
        Bool.not_true, Bool.false_eq_true, if_false, Nat.add_assoc, Nat.add_comm 1 k]

theorem takeAllSpaced_eq (verbose : Bool) (p : Char → Bool) (s : List Char) :
    takeAllSpaced verbose p s = takeWhileMore verbose p (fun _ => true) 0 false s := by
  have free : ∀ n k inComment, s.length ≤ n →
      takeSpaced verbose p n inComment s =
        takeWhileMore verbose p (fun _ => true) k inComment s := by
    induction s with
    | nil =>
      intro n k inComment _
      cases n <;> rfl
    | cons c s ih =>
      intro n k inComment h
      cases n with
      | zero => exact absurd h (Nat.not_succ_le_zero _)
      | succ n =>
        have shorter : s.length ≤ n := Nat.le_of_succ_le_succ h
        simp [takeSpaced, takeWhileMore, ih n (k + 1) _ shorter,
          ih (n + 1) k _ (Nat.le_succ_of_le shorter)]
  exact free _ 0 false (Nat.le_refl _)

theorem dropFiller_eq (inComment : Bool) (s : List Char) :
    dropFiller inComment s =
      (takeWhileMore true (fun _ => false) (fun _ => true) 0 inComment s).2 := by
  induction s generalizing inComment with
  | nil => rfl
  | cons c s ih =>
    simp only [dropFiller, takeWhileMore, ih]
    split
    · rfl
    · split
      · simp [*]
      · next blank =>
        split
        · next hash =>
          subst hash
          simp [blank]
        · next hash => simp [blank, hash]

theorem shortens_takeWhileMore (verbose : Bool) (p : Char → Bool) (more : Nat → Bool) (k : Nat)
    (inComment : Bool) (s : List Char) : (takeWhileMore verbose p more k inComment s).2 <:+ s := by
  induction s generalizing k inComment with
  | nil => exact List.suffix_refl []
  | cons c s ih =>
    unfold takeWhileMore
    split_ifs
    · exact List.suffix_refl _
    · exact (ih _ _).trans (List.suffix_cons c s)
    · exact (ih _ _).trans (List.suffix_cons c s)
    · exact (ih _ _).trans (List.suffix_cons c s)
    · exact (ih _ _).trans (List.suffix_cons c s)
    · exact List.suffix_refl _

/-- What takes characters stops before the parenthesis, or the parenthesis is in a comment or is
taken as well, which `p` says. -/
def TakesAt (p : Char → Bool) (f : List Char → List Char × List Char) (s : List Char) : Prop :=
  Stops (fun t => some (f t)) s ∨
    ∃ a, f s = (a, []) ∧ (∀ v, (f (s ++ ')' :: v)).2 <:+ v) ∧
      (p ')' = false → f (s ++ [')']) = (a, []))

theorem TakesAt.cons {p : Char → Bool} {f g : List Char → List Char × List Char} {c : Char}
    {s : List Char} (hg : TakesAt p g s) (h : List Char → List Char)
    (eq : ∀ t, f (c :: t) = (h (g t).1, (g t).2)) : TakesAt p f (c :: s) := by
  rcases hg with ⟨a, r, here, follow⟩ | ⟨a, here, beyond, alone⟩
  · refine .inl ⟨h a, r, ?_, fun v => ?_⟩
    · simp only [eq, Option.some.inj here]
    · simp only [List.cons_append, eq, Option.some.inj (follow v)]
  · refine .inr ⟨h a, ?_, fun v => ?_, fun hp => ?_⟩
    · simp only [eq, here]
    · simpa only [List.cons_append, eq] using beyond v
    · simp only [List.cons_append, eq, alone hp]

theorem TakesAt.of_stay {p : Char → Bool} {f : List Char → List Char × List Char} {s : List Char}
    (here : f s = ([], s)) (follow : ∀ v, f (s ++ ')' :: v) = ([], s ++ ')' :: v)) :
    TakesAt p f s :=
  .inl ⟨[], s, congrArg some here, fun v => congrArg some (follow v)⟩

section Steps

variable (verbose : Bool) (p : Char → Bool) {more : Nat → Bool} {k : Nat}

theorem takeWhileMore_of_enough (enough : more k = false) (inComment : Bool) (s : List Char) :
    takeWhileMore verbose p more k inComment s = ([], s) := by
  cases s <;> simp [takeWhileMore, enough]

theorem takeWhileMore_comment (more_k : more k = true) (c : Char) (t : List Char) :
    takeWhileMore verbose p more k true (c :: t) =
      takeWhileMore verbose p more k (c != '\n') t := by
  simp [takeWhileMore, more_k]

theorem takeWhileMore_cons (more_k : more k = true) (c : Char) (t : List Char) :
    takeWhileMore verbose p more k false (c :: t) =
      if verbose && isBlank c then takeWhileMore verbose p more k false t
      else if verbose && c == '#' then takeWhileMore verbose p more k true t
      else if p c then
        (c :: (takeWhileMore verbose p more (k + 1) false t).1,
          (takeWhileMore verbose p more (k + 1) false t).2)
      else ([], c :: t) := by
  simp only [takeWhileMore, more_k, Bool.not_true, Bool.false_eq_true, if_false]

end Steps

theorem takesAt_takeWhileMore (verbose : Bool) (p : Char → Bool) (more : Nat → Bool) (k : Nat)
    (inComment : Bool) (s : List Char) :
    TakesAt p (takeWhileMore verbose p more k inComment) s := by
  induction s generalizing k inComment with
  | nil =>
    cases more_k : more k with
    | false => exact .of_stay rfl fun v => takeWhileMore_of_enough verbose p more_k inComment _
    | true =>
      -- only a comment or `p` takes the parenthesis
      cases inComment with
      | true =>
        refine .inr ⟨[], rfl, fun v => ?_, fun _ => takeWhileMore_comment verbose p more_k _ _⟩
        rw [List.nil_append, takeWhileMore_comment verbose p more_k]
        exact shortens_takeWhileMore verbose p more k _ v
      | false =>
        have paren (v : List Char) := takeWhileMore_cons verbose p more_k ')' v
        simp only [show isBlank ')' = false by decide] at paren
        cases hp : p ')' with
        | false => exact .of_stay rfl fun v => by simp [paren, hp]
        | true =>
          refine .inr ⟨[], rfl, fun v => ?_, fun h => absurd (hp.symm.trans h) Bool.noConfusion⟩
          simpa [paren, hp] using shortens_takeWhileMore verbose p more (k + 1) false v
  | cons c s ih =>
    cases more_k : more k with
    | false =>
      exact .of_stay (takeWhileMore_of_enough verbose p more_k inComment _)
        fun v => takeWhileMore_of_enough verbose p more_k inComment _
    | true =>
      cases inComment with
      | true => exact (ih k (c != '\n')).cons id fun t => takeWhileMore_comment verbose p more_k c t
      | false =>
        have next (t : List Char) := takeWhileMore_cons verbose p more_k c t
        by_cases blank : (verbose && isBlank c) = true
        · exact (ih k false).cons id fun t => (next t).trans (if_pos blank)
        · by_cases hash : (verbose && c == '#') = true
          · exact (ih k true).cons id fun t => by rw [next, if_neg blank, if_pos hash, id]
          · by_cases hp : p c = true
            · exact (ih (k + 1) false).cons (c :: ·) fun t => by
                rw [next, if_neg blank, if_neg hash, if_pos hp]
            · have stay (t : List Char) :
                  takeWhileMore verbose p more k false (c :: t) = ([], c :: t) := by
                rw [next, if_neg blank, if_neg hash, if_neg hp]
              exact .of_stay (stay s) fun v => stay _

/-- Taking characters is local unless they may be parentheses. -/
theorem local_takeWhileMore (verbose : Bool) (p : Char → Bool) (hp : p ')' = false)
    (more : Nat → Bool) (k : Nat) (inComment : Bool) :
    Local fun s => some (takeWhileMore verbose p more k inComment s) where
  shortens s a r h := by
    obtain rfl := (congrArg Prod.snd (Option.some.inj h) :)
    exact shortens_takeWhileMore verbose p more k inComment s
  localAt s := by
    rcases takesAt_takeWhileMore verbose p more k inComment s with stops | ⟨a, here, beyond, alone⟩
    · exact .inl stops
    · refine .inr ⟨fun v b r h => ?_, .inr ⟨a, congrArg some here, congrArg some (alone hp)⟩⟩
      obtain rfl := (congrArg Prod.snd (Option.some.inj h) :)
      exact beyond v

/-- What takes characters up to some end and then needs that end: when the characters run over the
end of the text, there is no such end. -/
theorem Reader.Local.terminated {p : Char → Bool} {f : List Char → List Char × List Char}
    {g : List Char → Reader α} (takes : ∀ s, TakesAt p f s) (shortens : ∀ s, (f s).2 <:+ s)
    (hg : ∀ a, (g a).Local) (nil : ∀ a, g a [] = none) : Local fun s => g (f s).1 (f s).2 where
  shortens s a r h := ((hg _).shortens _ a r h).trans (shortens s)
  localAt s := by
    rcases takes s with stops | ⟨a, here, beyond, -⟩
    · exact LocalAt.andThen (.inl stops) (fun a => (hg a).shortens) fun a r _ => (hg a).localAt r
    · refine .inr ⟨fun v b r h => ((hg _).shortens _ b r h).trans (beyond v), .inl ?_⟩
      simp only [here, nil]

theorem local_skip (verbose : Bool) : Local fun s => some ((), skip verbose s) := by
  cases verbose with
  | false => exact local_pure ()
  | true =>
    have h := (local_takeWhileMore true (fun _ => false) rfl (fun _ => true) 0 false).map
      fun _ => ()
    simpa only [skip, if_true, dropFiller_eq, Option.map_some] using h

theorem shortens_skip (verbose : Bool) (s : List Char) : skip verbose s <:+ s :=
  (local_skip verbose).shortens s () _ rfl

theorem local_takeAllSpaced (verbose : Bool) (p : Char → Bool) (hp : p ')' = false) :
    Local fun s => some (takeAllSpaced verbose p s) := by
  simpa only [takeAllSpaced_eq] using local_takeWhileMore verbose p hp (fun _ => true) 0 false

theorem local_takeSpaced (verbose : Bool) (p : Char → Bool) (hp : p ')' = false) (n : Nat) :
    Local fun s => some (takeSpaced verbose p n false s) := by
  simpa only [takeSpaced_eq verbose p n 0] using
    local_takeWhileMore verbose p hp (· < n + 0) 0 false

theorem takesAt_takeAllSpaced (verbose : Bool) (p : Char → Bool) (s : List Char) :
    TakesAt p (takeAllSpaced verbose p) s := by
  rw [funext (takeAllSpaced_eq verbose p)]
  exact takesAt_takeWhileMore verbose p (fun _ => true) 0 false s

theorem shortens_takeAllSpaced (verbose : Bool) (p : Char → Bool) (s : List Char) :
    (takeAllSpaced verbose p s).2 <:+ s := by
  rw [takeAllSpaced_eq]
  exact shortens_takeWhileMore verbose p (fun _ => true) 0 false s

theorem takeWhileMore_plain (p : Char → Bool) (k : Nat) (s : List Char) :
    takeWhileMore false p (fun _ => true) k false s = (s.takeWhile p, s.dropWhile p) := by
  induction s generalizing k with
  | nil => rfl
  | cons c s ih =>
    rw [takeWhileMore, List.takeWhile_cons, List.dropWhile_cons]
    simp only [Bool.not_true, Bool.false_eq_true, if_false, Bool.false_and, ih]
    split <;> rfl

theorem takesAt_takeWhile (p : Char → Bool) (s : List Char) :
    TakesAt p (fun s => (s.takeWhile p, s.dropWhile p)) s := by
  rw [← funext (takeWhileMore_plain p 0)]
  exact takesAt_takeWhileMore false p (fun _ => true) 0 false s

theorem local_dropWhile (p : Char → Bool) (hp : p ')' = false) :
    Local fun s => some ((), s.dropWhile p) := by
  simpa only [takeWhileMore_plain, Option.map_some] using
    (local_takeWhileMore false p hp (fun _ => true) 0 false).map fun _ => ()

theorem taken_prefix (verbose : Bool) (p : Char → Bool) (s t : List Char) :
    (takeAllSpaced verbose p s).1 <+: (takeAllSpaced verbose p (s ++ t)).1 := by
  have longer (k : Nat) (inComment : Bool) :
      (takeWhileMore verbose p (fun _ => true) k inComment s).1 <+:
        (takeWhileMore verbose p (fun _ => true) k inComment (s ++ t)).1 := by
    induction s generalizing k inComment with
    | nil => exact List.nil_prefix
    | cons c s ih =>
      simp only [List.cons_append, takeWhileMore, Bool.not_true, Bool.false_eq_true, if_false]
      split_ifs
      · exact ih _ _
      · exact ih _ _
      · exact ih _ _
      · exact (List.prefix_cons_inj c).2 (ih _ _)
      · exact List.nil_prefix
  rw [takeAllSpaced_eq, takeAllSpaced_eq]
  exact longer 0 false

/-- What takes no characters takes blanks and comments only. -/
theorem skip_of_taken_nil {verbose : Bool} {p : Char → Bool} {s : List Char}
    (h : (takeAllSpaced verbose p s).1 = []) : skip verbose s = (takeAllSpaced verbose p s).2 := by
  have filler (t : List Char) (inComment : Bool) (hv : inComment = true → verbose = true)
      (h : (takeWhileMore verbose p (fun _ => true) 0 inComment t).1 = []) :
      (if verbose then dropFiller inComment t else t) =
        (takeWhileMore verbose p (fun _ => true) 0 inComment t).2 := by
    induction t generalizing inComment with
    | nil => cases verbose <;> rfl
    | cons c t ih => cases verbose <;> cases inComment <;> grind [takeWhileMore, dropFiller]
  rw [takeAllSpaced_eq] at h ⊢
  exact filler s false nofun h

end Acceptance.Pattern
