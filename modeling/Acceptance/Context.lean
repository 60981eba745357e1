/-!
# Scenario contexts

The steps of a scenario share values through a context, which holds at most one value of each type.
The types are named by tags `τ`, and `V t` is the type of tag `t`.

* A `Box` is a value with the tag of its type; `Box.open?` gives the value back to who knows the
  tag.
* A `Context` files boxes under tags. `insert`, `get?`, `set?`, `take` and `getOrInsert` are its
  operations, `size` counts the values.
* `Context.WellFiled` says that each box is filed once, under the tag of its own value; filing and
  erasing keep it.
* `Context.get?_file_self`, `get?_file_of_ne`, `get?_erase_self` and `get?_erase_of_ne` say what the
  two changes of a context do to the value of each type.
-/

namespace Acceptance

variable {τ : Type} {V : τ → Type}

/-- A value with the tag of its type. -/
structure Box (V : τ → Type) where
  tag : τ
  value : V tag

/-- The value in a box, if it has the type that is asked for. -/
def Box.open? [DecidableEq τ] (b : Box V) (t : τ) : Option (V t) :=
  if h : b.tag = t then some (h ▸ b.value) else none

@[simp] theorem Box.open?_mk [DecidableEq τ] (t : τ) (v : V t) :
    (⟨t, v⟩ : Box V).open? t = some v := by
  simp [Box.open?]

/-- The values that the steps of a scenario share, in boxes that are filed under tags. -/
structure Context (V : τ → Type) where
  entries : List (τ × Box V)

namespace Context

variable [DecidableEq τ]

/-- The context without values. -/
def empty : Context V := ⟨[]⟩

instance : EmptyCollection (Context V) := ⟨empty⟩

/-- Each box is filed once, under the tag of its own value. -/
def WellFiled (c : Context V) : Prop :=
  (c.entries.map Prod.fst).Nodup ∧ ∀ e ∈ c.entries, e.1 = e.2.tag

/-- The box filed under a tag. -/
def find? (t : τ) (c : Context V) : Option (Box V) := c.entries.lookup t

/-- The context without what is filed under a tag. -/
def erase (t : τ) (c : Context V) : Context V := ⟨c.entries.filter fun e => e.1 != t⟩

/-- The context with a value filed under its tag, in place of what was there. -/
def file (t : τ) (v : V t) (c : Context V) : Context V :=
  ⟨(t, ⟨t, v⟩) :: (c.erase t).entries⟩

/-- The value of a type. -/
def get? (t : τ) (c : Context V) : Option (V t) :=
  (c.find? t).bind (·.open? t)

/-- Stores a value and returns the value of its type that was there before. -/
def insert (t : τ) (v : V t) (c : Context V) : Option (V t) × Context V :=
  (c.get? t, c.file t v)

/-- Replaces the value of a type if there is one, and returns whether there was. -/
def set? (t : τ) (v : V t) (c : Context V) : Bool × Context V :=
  match c.get? t with
  | some _ => (true, c.file t v)
  | none => (false, c)

/-- Removes the value of a type and returns it. -/
def take (t : τ) (c : Context V) : Option (V t) × Context V :=
  (c.get? t, c.erase t)

/-- The value of a type, which is made first if there is none, and whether it was made. There is no
answer if a box is filed under the tag of another type. -/
def getOrInsert (t : τ) (make : Unit → V t) (c : Context V) : Option (V t × Bool) × Context V :=
  match c.find? t with
  | some b => ((b.open? t).map fun v => (v, false), c)
  | none =>
    let v := make ()
    (some (v, true), c.file t v)

/-- The number of values. -/
def size (c : Context V) : Nat := c.entries.length

/-- Whether there are no values. -/
def isEmpty (c : Context V) : Bool := c.entries.isEmpty

/-! ## The box under a tag -/

theorem find?_erase (t u : τ) (c : Context V) :
    (c.erase t).find? u = if u = t then none else c.find? u := by
  obtain ⟨es⟩ := c
  simp only [find?, erase]
  induction es with
  | nil => simp
  | cons e es ih =>
    rw [List.filter_cons]
    by_cases he : e.1 = t
    · rw [if_neg (by simp [he]), ih, List.lookup_cons]
      by_cases hu : u = t
      · rw [if_pos hu, if_pos hu]
      · have hne : (u == e.1) = false := by simp [he, hu]
        rw [if_neg hu, if_neg hu, hne]
    · rw [if_pos (by simp [he]), List.lookup_cons, List.lookup_cons, ih]
      by_cases hu : u = e.1
      · have hut : u ≠ t := fun h => he (hu.symm.trans h)
        rw [if_neg hut, hu, beq_self_eq_true]
        rw [if_neg he]
      · have hne : (u == e.1) = false := by simp [hu]
        rw [hne]

theorem find?_file (t u : τ) (v : V t) (c : Context V) :
    (c.file t v).find? u = if u = t then some ⟨t, v⟩ else c.find? u := by
  rw [find?, file, List.lookup_cons]
  by_cases hu : u = t
  · simp [hu]
  · have hne : (u == t) = false := by simp [hu]
    rw [hne, if_neg hu]
    change (c.erase t).find? u = c.find? u
    rw [find?_erase, if_neg hu]

/-! ## The value of a type -/

@[simp] theorem get?_file_self (t : τ) (v : V t) (c : Context V) :
    (c.file t v).get? t = some v := by
  simp [get?, find?_file]

theorem get?_file_of_ne {t u : τ} (h : u ≠ t) (v : V t) (c : Context V) :
    (c.file t v).get? u = c.get? u := by
  rw [get?, find?_file, if_neg h, get?]

@[simp] theorem get?_erase_self (t : τ) (c : Context V) : (c.erase t).get? t = none := by
  simp [get?, find?_erase]

theorem get?_erase_of_ne {t u : τ} (h : u ≠ t) (c : Context V) :
    (c.erase t).get? u = c.get? u := by
  rw [get?, find?_erase, if_neg h, get?]

/-! ## Boxes under their own tags -/

omit [DecidableEq τ] in
theorem wellFiled_empty : (empty : Context V).WellFiled :=
  ⟨List.nodup_nil, by simp [empty]⟩

theorem wellFiled_erase {c : Context V} (h : c.WellFiled) (t : τ) : (c.erase t).WellFiled := by
  obtain ⟨hn, ht⟩ := h
  constructor
  · exact hn.sublist (List.filter_sublist.map _)
  · intro e he
    exact ht e (List.mem_filter.1 he).1

theorem wellFiled_file {c : Context V} (h : c.WellFiled) (t : τ) (v : V t) :
    (c.file t v).WellFiled := by
  obtain ⟨hn, ht⟩ := wellFiled_erase h t
  constructor
  · refine List.nodup_cons.2 ⟨fun hm => ?_, hn⟩
    obtain ⟨e, he, rfl⟩ := List.mem_map.1 hm
    simpa using (List.mem_filter.1 he).2
  · intro e he
    rcases List.mem_cons.1 he with rfl | he
    · rfl
    · exact ht e he

end Context

end Acceptance
