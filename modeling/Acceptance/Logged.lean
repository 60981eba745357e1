/-!
# Results with log records

Operations that report what they do return their result together with the records they write.

* `Logged` is a result with records, `Logged.tell` writes one record.
* The records of a sequence of operations are those of the first, then those of the second:
  `Logged.records_bind`.
-/

namespace Acceptance

/-- The levels of log records. -/
inductive Level where
  | trace
  | debug
  | info
  | warn
  | error
deriving DecidableEq, Repr

/-- The name of a level. -/
def Level.name : Level → String
  | .trace => "TRACE"
  | .debug => "DEBUG"
  | .info => "INFO"
  | .warn => "WARN"
  | .error => "ERROR"

/-- A log record. -/
structure LogRecord where
  level : Level
  text : String
deriving DecidableEq, Repr

/-- A result with the records written on the way to it. -/
structure Logged (α : Type u) where
  value : α
  records : List LogRecord
deriving Repr

namespace Logged

variable {α β : Type u}

/-- A result without records. -/
protected def pure (a : α) : Logged α := ⟨a, []⟩

/-- The result of a second operation, with the records of both. -/
protected def bind (x : Logged α) (f : α → Logged β) : Logged β :=
  let y := f x.value
  ⟨y.value, x.records ++ y.records⟩

instance : Monad Logged where
  pure := Logged.pure
  bind := Logged.bind

/-- Writes one record. -/
def tell (level : Level) (text : String) : Logged PUnit := ⟨⟨⟩, [⟨level, text⟩]⟩

@[simp] theorem value_pure (a : α) : (pure a : Logged α).value = a := rfl

@[simp] theorem records_pure (a : α) : (pure a : Logged α).records = [] := rfl

@[simp] theorem value_bind (x : Logged α) (f : α → Logged β) :
    (x >>= f).value = (f x.value).value := rfl

@[simp] theorem records_bind (x : Logged α) (f : α → Logged β) :
    (x >>= f).records = x.records ++ (f x.value).records := rfl

@[simp] theorem records_tell (level : Level) (text : String) :
    (tell level text : Logged PUnit.{u + 1}).records = [⟨level, text⟩] := rfl

@[ext] theorem ext {x y : Logged α} (hv : x.value = y.value) (hr : x.records = y.records) :
    x = y := by
  cases x; cases y; simp_all

instance : LawfulMonad Logged := LawfulMonad.mk' Logged
  (fun _ => ext rfl (List.append_nil _))
  (fun _ _ => ext rfl (List.nil_append _))
  (fun _ _ _ => ext rfl (List.append_assoc _ _ _))

end Logged

end Acceptance
