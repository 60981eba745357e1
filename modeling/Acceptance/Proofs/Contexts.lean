import Acceptance.Context
import Mathlib.Data.Set.Card

/-!
# Contexts as tables

What the steps of a scenario see of their context is a table with at most one value of each type.
The boxes in which a context keeps its values, and the tags under which it files them, never show:
what is filed under a tag is a box of that tag, so every box opens.

* A `Table` gives each type a value or none; `Request` is what a step asks of a context, and
  `Request.answer` is how a table answers it.
* `Context.Shows` ties a context to the table that it shows, and `Shows.run` says that each request
  keeps them together.
* `answers_as_table` says that in any sequence of requests a context answers as its table does.
-/

namespace Acceptance

variable {τ : Type} {V : τ → Type}

/-! ### Requests -/

/-- What a step asks of a context. What `getOrInsert` finds or makes is changed in its place. -/
inductive Request (V : τ → Type) where
  | insert (t : τ) (v : V t)
  | get (t : τ)
  | update (t : τ) (f : V t → V t)
  | take (t : τ)
  | getOrInsert (t : τ) (make : Unit → V t) (f : V t → V t)

/-- What a context answers: a value, if there is one, a value with whether it was made, or that a
box did not open. -/
inductive Reply (V : τ → Type) where
  | found (t : τ) (v : Option (V t))
  | made (t : τ) (v : V t) (isNew : Bool)
  | broken

/-- The type that a request is about. -/
def Request.type : Request V → τ
  | .insert t _ => t
  | .get t => t
  | .update t _ => t
  | .take t => t
  | .getOrInsert t _ _ => t

/-- The values of some types. -/
abbrev Table (V : τ → Type) := (t : τ) → Option (V t)

/-- The types that have a value. -/
def Table.types (m : Table V) : Set τ := {t | m t ≠ none}

variable [DecidableEq τ]

/-- How a table answers a request, and what it is afterwards. -/
def Request.answer : Request V → Table V → Reply V × Table V
  | .insert t v, m => (.found t (m t), Function.update m t (some v))
  | .get t, m => (.found t (m t), m)
  | .update t f, m => (.found t (m t), Function.update m t ((m t).map f))
  | .take t, m => (.found t (m t), Function.update m t none)
  | .getOrInsert t make f, m =>
    let v := (m t).getD (make ())
    (.made t v (m t).isNone, Function.update m t (some (f v)))

/-- How a context answers a request, and what it is afterwards. -/
def Request.run : Request V → Context V → Reply V × Context V
  | .insert t v, c => (.found t (c.insert t v).1, (c.insert t v).2)
  | .get t, c => (.found t (c.get? t), c)
  | .update t f, c =>
    match c.get? t with
    | none => (.found t none, c)
    | some v => (.found t (some v), (c.set? t (f v)).2)
  | .take t, c => (.found t (c.take t).1, (c.take t).2)
  | .getOrInsert t make f, c =>
    match c.getOrInsert t make with
    | (none, c) => (.broken, c)
    | (some (v, isNew), c) => (.made t v isNew, (c.set? t (f v)).2)

/-- The answers to some requests one after the other, and what is there afterwards. -/
def Request.inTurn {S : Type} (ask : Request V → S → Reply V × S) :
    List (Request V) → S → List (Reply V) × S
  | [], s => ([], s)
  | q :: qs, s =>
    let (reply, s) := ask q s
    let (replies, s) := inTurn ask qs s
    (reply :: replies, s)

namespace Context

/-! ### What is filed -/

theorem mem_entries_of_find? {c : Context V} {t : τ} {b : Box V} (h : c.find? t = some b) :
    (t, b) ∈ c.entries := by
  obtain ⟨front, back, he, -⟩ := List.lookup_eq_some_iff.1 h
  rw [he]
  exact List.mem_append_right front List.mem_cons_self

/-- Every box that is filed opens. -/
theorem WellFiled.find?_eq {c : Context V} (h : c.WellFiled) (t : τ) :
    c.find? t = (c.get? t).map (Box.mk t) := by
  unfold get?
  cases hf : c.find? t with
  | none => rfl
  | some b =>
    obtain ⟨u, v⟩ := b
    obtain rfl : t = u := h.2 _ (mem_entries_of_find? hf)
    simp

theorem find?_eq_none_iff {c : Context V} {t : τ} :
    c.find? t = none ↔ t ∉ c.entries.map Prod.fst := by
  rw [find?, List.lookup_eq_none_iff]
  simp only [bne_iff_ne, List.mem_map, not_exists, not_and]
  exact ⟨fun h e he ht => h e he ht.symm, fun h e he ht => h e he ht.symm⟩

/-- The number of values is the number of types that have one. -/
theorem WellFiled.size_eq {c : Context V} (h : c.WellFiled) :
    (c.size : ℕ∞) = (Table.types fun t => c.get? t).encard := by
  have hmem : (Table.types fun t => c.get? t) = ((c.entries.map Prod.fst).toFinset : Set τ) := by
    ext t
    have := find?_eq_none_iff (c := c) (t := t)
    rw [h.find?_eq, Option.map_eq_none_iff] at this
    simp [Table.types, this]
  rw [hmem, Set.encard_coe_eq_coe_finsetCard, List.toFinset_card_of_nodup h.1, List.length_map]
  rfl

/-! ### Contexts and the tables that they show -/

/-- A context shows a table: under each tag it has the value of the table, or none. -/
structure Shows (c : Context V) (m : Table V) : Prop where
  wellFiled : c.WellFiled
  get?_eq : ∀ t, c.get? t = m t

theorem shows_empty : (∅ : Context V).Shows fun _ => none :=
  ⟨wellFiled_empty, fun _ => rfl⟩

variable {c : Context V} {m : Table V}

theorem Shows.file (h : c.Shows m) (t : τ) (v : V t) :
    (c.file t v).Shows (Function.update m t (some v)) := by
  refine ⟨wellFiled_file h.wellFiled t v, fun u => ?_⟩
  by_cases hu : u = t
  · subst hu
    rw [get?_file_self, Function.update_self]
  · rw [get?_file_of_ne hu, Function.update_of_ne hu, h.get?_eq]

theorem Shows.erase (h : c.Shows m) (t : τ) :
    (c.erase t).Shows (Function.update m t none) := by
  refine ⟨wellFiled_erase h.wellFiled t, fun u => ?_⟩
  by_cases hu : u = t
  · subst hu
    rw [get?_erase_self, Function.update_self]
  · rw [get?_erase_of_ne hu, Function.update_of_ne hu, h.get?_eq]

/-- A value is replaced exactly if there is one. -/
theorem Shows.set? (h : c.Shows m) (t : τ) (w : V t) :
    (c.set? t w).1 = (m t).isSome ∧
      (c.set? t w).2.Shows (Function.update m t ((m t).map fun _ => w)) := by
  unfold Context.set?
  rw [h.get?_eq]
  cases hm : m t with
  | none =>
    have same : Function.update m t none = m := by rw [← hm, Function.update_eq_self]
    rw [Option.map_none, same]
    exact ⟨rfl, h⟩
  | some v => exact ⟨rfl, h.file t w⟩

/-- A value is made exactly if there is none, and the answer never fails. -/
theorem Shows.getOrInsert (h : c.Shows m) (t : τ) (make : Unit → V t) :
    (c.getOrInsert t make).1 = some ((m t).getD (make ()), (m t).isNone) ∧
      (c.getOrInsert t make).2.Shows (Function.update m t (some ((m t).getD (make ())))) := by
  have hf : c.find? t = (m t).map (Box.mk t) := by rw [h.wellFiled.find?_eq, h.get?_eq]
  unfold Context.getOrInsert
  cases hm : m t with
  | none =>
    rw [hf, hm]
    exact ⟨rfl, h.file t (make ())⟩
  | some v =>
    have same : Function.update m t (some v) = m := by rw [← hm, Function.update_eq_self]
    rw [hf, hm, Option.getD_some, same]
    exact ⟨by simp, h⟩

/-- A request is answered as the table answers it, and afterwards the context shows what the table
is. -/
theorem Shows.run (h : c.Shows m) (q : Request V) :
    (q.run c).1 = (q.answer m).1 ∧ (q.run c).2.Shows (q.answer m).2 := by
  cases q with
  | insert t v => exact ⟨congrArg _ (h.get?_eq t), h.file t v⟩
  | get t => exact ⟨congrArg _ (h.get?_eq t), h⟩
  | take t => exact ⟨congrArg _ (h.get?_eq t), h.erase t⟩
  | update t f =>
    simp only [Request.run, Request.answer, h.get?_eq]
    cases hm : m t with
    | none =>
      have same : Function.update m t none = m := by rw [← hm, Function.update_eq_self]
      rw [Option.map_none, same]
      exact ⟨rfl, h⟩
    | some v =>
      have changed := (h.set? t (f v)).2
      rw [hm] at changed
      exact ⟨rfl, changed⟩
  | getOrInsert t make f =>
    -- what is found or made is stored first, and changed in the table that has it
    obtain ⟨hr, hs⟩ := h.getOrInsert t make
    have changed := (hs.set? t (f ((m t).getD (make ())))).2
    rw [Function.update_self, Function.update_idem, Option.map_some] at changed
    simp only [Request.run, Request.answer]
    split
    · next hx => simp [hx] at hr
    · next v isNew c' hx =>
      obtain ⟨rfl, rfl⟩ : v = (m t).getD (make ()) ∧ isNew = (m t).isNone := by simpa [hx] using hr
      rw [hx] at changed
      exact ⟨rfl, changed⟩

/-- Any sequence of requests is answered as the table answers it. -/
theorem Shows.inTurn (h : c.Shows m) (qs : List (Request V)) :
    (Request.inTurn Request.run qs c).1 = (Request.inTurn Request.answer qs m).1 ∧
      (Request.inTurn Request.run qs c).2.Shows (Request.inTurn Request.answer qs m).2 := by
  induction qs generalizing c m with
  | nil => exact ⟨rfl, h⟩
  | cons q qs ih =>
    obtain ⟨reply, next⟩ := h.run q
    obtain ⟨replies, last⟩ := ih next
    exact ⟨congrArg₂ List.cons reply replies, last⟩

theorem Shows.size_eq (h : c.Shows m) : (c.size : ℕ∞) = (Table.types m).encard := by
  rw [h.wellFiled.size_eq]
  congr 2
  exact funext h.get?_eq

theorem Shows.isEmpty_iff (h : c.Shows m) : c.isEmpty = true ↔ m = fun _ => none := by
  have zero : c.isEmpty = true ↔ (c.size : ℕ∞) = 0 := by
    simp [isEmpty, size, List.isEmpty_iff]
  rw [zero, h.size_eq, Set.encard_eq_zero, Set.eq_empty_iff_forall_notMem, funext_iff]
  simp [Table.types]

/-- A request changes nothing but the value of its own type. -/
theorem Shows.get?_run_of_ne (h : c.Shows m) {q : Request V} {u : τ} (hu : u ≠ q.type) :
    (q.run c).2.get? u = c.get? u := by
  rw [(h.run q).2.get?_eq, h.get?_eq]
  cases q with
  | get t => rfl
  | insert t v => exact Function.update_of_ne hu ..
  | update t f => exact Function.update_of_ne hu ..
  | take t => exact Function.update_of_ne hu ..
  | getOrInsert t make f => exact Function.update_of_ne hu ..

end Context

/-- **A context is a table of types.** In any sequence of requests to an empty context, every answer
is that of the table with at most one value of each type; the context counts the types that have a
value. It always files, under each tag, a box with the value of that tag and nothing else, so no
box fails to open: storing and removing give back what was filed, and a value is made exactly if
there is none. A request at one type leaves the values of the others. -/
theorem answers_as_table (qs : List (Request V)) :
    let c := (Request.inTurn Request.run qs ∅).2
    let m := (Request.inTurn Request.answer qs fun _ => none).2
    (Request.inTurn Request.run qs ∅).1 = (Request.inTurn Request.answer qs fun _ => none).1 ∧
    (c.size : ℕ∞) = (Table.types m).encard ∧ (c.isEmpty = true ↔ m = fun _ => none) ∧
    c.WellFiled ∧ (∀ t, c.find? t = (m t).map (Box.mk t)) ∧
    (∀ t v, (c.insert t v).1.map (Box.mk t) = c.find? t ∧
      (c.take t).1.map (Box.mk t) = c.find? t ∧ (c.set? t v).1 = (m t).isSome) ∧
    (∀ t make, (c.getOrInsert t make).1 = some ((m t).getD (make ()), (m t).isNone)) ∧
    ∀ (q : Request V) (u : τ), u ≠ q.type → (q.run c).2.get? u = c.get? u := by
  intro c m
  obtain ⟨replies, shown⟩ : _ ∧ c.Shows m := Context.shows_empty.inTurn qs
  have filed (t : τ) : c.find? t = (m t).map (Box.mk t) := by
    rw [shown.wellFiled.find?_eq, shown.get?_eq]
  refine ⟨replies, shown.size_eq, shown.isEmpty_iff, shown.wellFiled, filed, fun t v => ?_,
    fun t make => (shown.getOrInsert t make).1, fun q u hu => shown.get?_run_of_ne hu⟩
  rw [shown.wellFiled.find?_eq]
  exact ⟨rfl, rfl, (shown.set? t v).1⟩

/-- The third request makes no value, since the first stored one. -/
example :
    let requests : List (Request fun isNumber : Bool => if isNumber then Nat else String) :=
      [.insert true (5 : Nat), .take false, .getOrInsert true (fun _ => (0 : Nat)) Nat.succ,
        .get true]
    (Request.inTurn Request.run requests ∅).1 =
      [.found true none, .found false none, .made true (5 : Nat) false,
        .found true (some (6 : Nat))] :=
  rfl

end Acceptance
