import Mathlib.Algebra.Field.Rat

/-!
# The grammar of JSON

What a JSON text stands for, by the grammar of RFC 8259. The grammar is stated on its own: blanks,
all escapes with surrogate pairs, and numbers with fractions and exponents are part of it, although
not every writer uses them. Half of a surrogate pair stands for no character and is not read.

* `Json.Content` is what a text stands for. Numbers are rational, strings are made of characters.
* `Json.Space`, `Json.Quoted` and `Json.Number` are the words of the grammar.
* `Json.Reads p s t` says that `s` begins with the phrase `p` and that `t` is left.
* `Json.IsText v s` says that the text `s` stands for `v`, and `Json.IsText.unique` that it stands
  for one value at most. This is read off `Json.settles`: where a phrase ends is settled by what
  follows it.
-/

namespace Acceptance.Json

/-- What a JSON text stands for. -/
inductive Content where
  | null
  | boolean (b : Bool)
  | number (q : ℚ)
  | string (s : String)
  | array (items : List Content)
  | object (members : List (String × Content))

/-! ### Runs of characters -/

section Runs

variable {p : Char → Bool}

/-- A text leaves a kind of characters: it does not begin with one of them. -/
def Leaves (p : Char → Bool) (t : List Char) : Prop := ∀ c ∈ t.head?, p c = false

@[simp] theorem leaves_nil : Leaves p [] := by simp [Leaves]

@[simp] theorem leaves_cons {c : Char} {t : List Char} : Leaves p (c :: t) ↔ p c = false := by
  simp [Leaves]

/-- A run of characters of a kind ends where the kind ends. -/
theorem run_unique {w w' t t' : List Char} (hw : ∀ c ∈ w, p c = true) (ht : Leaves p t)
    (hw' : ∀ c ∈ w', p c = true) (ht' : Leaves p t') (h : w ++ t = w' ++ t') : w = w' ∧ t = t' := by
  have taken {w t : List Char} (hw : ∀ c ∈ w, p c = true) (ht : Leaves p t) :
      (w ++ t).takeWhile p = w := by
    rw [List.takeWhile_append_of_pos hw]
    cases t with
    | nil => simp
    | cons c t => simp [leaves_cons.mp ht]
  have same : w = w' := by rw [← taken hw ht, h, taken hw' ht']
  subst same
  exact ⟨rfl, List.append_cancel_left h⟩

end Runs

/-! ### Blanks -/

/-- Whether a character may stand between the words of a text. -/
def isSpace (c : Char) : Bool := [' ', '\t', '\n', '\r'].contains c

theorem isSpace_iff {c : Char} :
    isSpace c = true ↔ c = ' ' ∨ c = '\t' ∨ c = '\n' ∨ c = '\r' := by
  simp [isSpace]

/-- Blanks, and what is left after them. -/
inductive Space : List Char → List Char → Prop
  | none {t} : Space t t
  | blank {c s t} : isSpace c = true → Space s t → Space (c :: s) t

namespace Space

theorem exists_run {s t : List Char} (h : Space s t) :
    ∃ w, (∀ c ∈ w, isSpace c = true) ∧ s = w ++ t := by
  induction h with
  | none => exact ⟨[], by simp, rfl⟩
  | @blank c s t hc _ ih =>
    obtain ⟨w, hw, hs⟩ := ih
    exact ⟨c :: w, by simpa [hc] using hw, by simp [hs]⟩

theorem unique {s t t' : List Char} (h : Space s t) (ht : Leaves isSpace t) (h' : Space s t')
    (ht' : Leaves isSpace t') : t = t' := by
  obtain ⟨w, hw, rfl⟩ := h.exists_run
  obtain ⟨w', hw', same⟩ := h'.exists_run
  exact (run_unique hw ht hw' ht' same).2

end Space

/-! ### Strings -/

/-- The characters that a backslash and one more character stand for. -/
def shortEscapes : List (Char × Char) :=
  [('"', '"'), ('\\', '\\'), ('/', '/'), ('b', '\x08'), ('f', '\x0c'), ('n', '\n'), ('r', '\r'),
    ('t', '\t')]

/-- The value of a hexadecimal digit. -/
def hexValue? (c : Char) : Option Nat :=
  if c.isDigit then some (c.toNat - 48)
  else if 'a' ≤ c ∧ c ≤ 'f' then some (c.toNat - 87)
  else if 'A' ≤ c ∧ c ≤ 'F' then some (c.toNat - 55)
  else none

/-- The value of four hexadecimal digits. -/
def fourHex? (w x y z : Char) : Option Nat := do
  return (((← hexValue? w) * 16 + (← hexValue? x)) * 16 + (← hexValue? y)) * 16 + (← hexValue? z)

/-- One character of a string, and what is left after it. One beyond the first plane may be written
in two halves. -/
inductive Letter : Char → List Char → List Char → Prop
  | plain {c t} : 32 ≤ c.toNat → c ≠ '"' → c ≠ '\\' → Letter c (c :: t) t
  | short {e c t} : shortEscapes.lookup e = some c → Letter c ('\\' :: e :: t) t
  | code {w x y z c t} : fourHex? w x y z = some c.toNat →
      Letter c ('\\' :: 'u' :: w :: x :: y :: z :: t) t
  | pair {w x y z w' x' y' z' high low c t} :
      fourHex? w x y z = some (0xD800 + high) → high < 0x400 →
      fourHex? w' x' y' z' = some (0xDC00 + low) → low < 0x400 →
      c.toNat = 0x10000 + high * 0x400 + low →
      Letter c ('\\' :: 'u' :: w :: x :: y :: z :: '\\' :: 'u' :: w' :: x' :: y' :: z' :: t) t

/-- The characters of a string up to the closing quote, and what is left after it. -/
inductive Letters : List Char → List Char → List Char → Prop
  | done {t} : Letters [] ('"' :: t) t
  | letter {c cs s r t} : Letter c s r → Letters cs r t → Letters (c :: cs) s t

/-- A string, and what is left after it. -/
inductive Quoted : String → List Char → List Char → Prop
  | mk {k s t} : Letters k.toList s t → Quoted k ('"' :: s) t

/-- The first half of a character beyond the first plane is no character. -/
theorem toNat_ne_high (c : Char) {high : Nat} (h : high < 0x400) : c.toNat ≠ 0xD800 + high := by
  have valid : c.toNat < 0xD800 ∨ 0xDFFF < c.toNat ∧ c.toNat < 0x110000 := c.valid
  omega

namespace Letter

theorem head_ne_quote {c : Char} {s t : List Char} (h : Letter c s t) : s.head? ≠ some '"' := by
  cases h with
  | plain _ hq _ => simpa using hq
  | _ => simp

/-- A backslash is followed by a short escape or by four digits. -/
theorem of_backslash {c : Char} {s t : List Char} (h : Letter c ('\\' :: s) t) :
    (∃ e, s = e :: t ∧ shortEscapes.lookup e = some c) ∨
    ∃ w x y z r, s = 'u' :: w :: x :: y :: z :: r ∧ (fourHex? w x y z = some c.toNat ∧ r = t ∨
      ∃ high low w' x' y' z', fourHex? w x y z = some (0xD800 + high) ∧ high < 0x400 ∧
        r = '\\' :: 'u' :: w' :: x' :: y' :: z' :: t ∧ fourHex? w' x' y' z' = some (0xDC00 + low) ∧
        c.toNat = 0x10000 + high * 0x400 + low) := by
  generalize hu : '\\' :: s = u at h
  cases h with
  | plain _ _ hb => exact absurd (List.cons.inj hu).1.symm hb
  | short he => exact .inl ⟨_, (List.cons.inj hu).2, he⟩
  | code hc => exact .inr ⟨_, _, _, _, _, (List.cons.inj hu).2, .inl ⟨hc, rfl⟩⟩
  | pair hw hh hw' _ hc =>
    exact .inr ⟨_, _, _, _, _, (List.cons.inj hu).2, .inr ⟨_, _, _, _, _, _, hw, hh, rfl, hw', hc⟩⟩

theorem unique {c c' : Char} {s t t' : List Char} (h : Letter c s t) (h' : Letter c' s t') :
    c = c' ∧ t = t' := by
  cases h with
  | plain _ _ hb =>
    cases h' with
    | plain => exact ⟨rfl, rfl⟩
    | _ => exact absurd rfl hb
  | short he =>
    obtain ⟨e, hs, he'⟩ | ⟨w, x, y, z, r, hs, -⟩ := of_backslash h'
    · cases hs
      exact ⟨Option.some.inj (he.symm.trans he'), rfl⟩
    · cases hs
      cases he
  | code hc =>
    obtain ⟨e, hs, he⟩ | ⟨w, x, y, z, r, hs, ⟨hc', rfl⟩ | ⟨high, low, _, _, _, _, hc', hh, -⟩⟩ :=
      of_backslash h'
    · cases hs
      cases he
    · cases hs
      exact ⟨Char.toNat_inj.mp (Option.some.inj (hc.symm.trans hc')), rfl⟩
    · cases hs
      exact absurd (Option.some.inj (hc.symm.trans hc')) (toNat_ne_high _ hh)
  | @pair _ _ _ _ _ _ _ _ high low _ _ hw hh hw' hl hc =>
    obtain ⟨e, hs, he⟩ | ⟨w, x, y, z, r, hs, ⟨hc', rfl⟩ |
      ⟨high', low', _, _, _, _, hv, hh', hr, hv', hc'⟩⟩ := of_backslash h'
    · cases hs
      cases he
    · cases hs
      exact absurd (Option.some.inj (hc'.symm.trans hw)) (toNat_ne_high _ hh)
    · cases hs
      cases hr
      have same : 0xD800 + high = 0xD800 + high' := Option.some.inj (hw.symm.trans hv)
      have same' : 0xDC00 + low = 0xDC00 + low' := Option.some.inj (hw'.symm.trans hv')
      exact ⟨Char.toNat_inj.mp (by omega), rfl⟩

end Letter

theorem Letters.unique {cs cs' s t t' : List Char} (h : Letters cs s t) (h' : Letters cs' s t') :
    cs = cs' ∧ t = t' := by
  induction h generalizing cs' with
  | @done t =>
    generalize hu : '"' :: t = u at h'
    cases h' with
    | done => exact ⟨rfl, (List.cons.inj hu).2⟩
    | letter hc => exact absurd (hu ▸ rfl) hc.head_ne_quote
  | letter hc _ ih =>
    cases h' with
    | done => exact absurd rfl hc.head_ne_quote
    | letter hc' h' =>
      obtain ⟨rfl, rfl⟩ := hc.unique hc'
      obtain ⟨rfl, rfl⟩ := ih h'
      exact ⟨rfl, rfl⟩

theorem Quoted.unique {k k' : String} {s t t' : List Char} (h : Quoted k s t)
    (h' : Quoted k' s t') : k = k' ∧ t = t' := by
  cases h with
  | mk h =>
    cases h' with
    | mk h' =>
      obtain ⟨hk, ht⟩ := h.unique h'
      exact ⟨String.toList_injective hk, ht⟩

/-! ### Numbers -/

/-- One digit or more. -/
def Digits (ds : List Char) : Prop := ds ≠ [] ∧ ∀ d ∈ ds, d.isDigit = true

/-- The number that digits stand for. -/
def decimal (ds : List Char) : Nat := Nat.ofDigitChars 10 ds 0

/-- The digits before the point: no zero comes before other digits. -/
def Whole (ds : List Char) : Prop := Digits ds ∧ (ds.head? = some '0' → ds = ['0'])

/-- The part after the point. -/
inductive Fraction : ℚ → List Char → Prop
  | none : Fraction 0 []
  | digits {ds} : Digits ds → Fraction (decimal ds / 10 ^ ds.length) ('.' :: ds)

/-- The power of ten. -/
inductive Exponent : ℤ → List Char → Prop
  | none : Exponent 0 []
  | unsigned {e ds} : e = 'e' ∨ e = 'E' → Digits ds → Exponent (decimal ds) (e :: ds)
  | plus {e ds} : e = 'e' ∨ e = 'E' → Digits ds → Exponent (decimal ds) (e :: '+' :: ds)
  | minus {e ds} : e = 'e' ∨ e = 'E' → Digits ds → Exponent (-decimal ds) (e :: '-' :: ds)

/-- A number without a sign. -/
inductive Unsigned : ℚ → List Char → Prop
  | mk {ds q f n e} : Whole ds → Fraction q f → Exponent n e →
      Unsigned ((decimal ds + q) * 10 ^ n) (ds ++ (f ++ e))

/-- A number. -/
inductive Number : ℚ → List Char → Prop
  | positive {q w} : Unsigned q w → Number q w
  | negative {q w} : Unsigned q w → Number (-q) ('-' :: w)

/-- Whether a character may stand in a number. -/
def inNumber (c : Char) : Bool := c.isDigit || ['-', '+', '.', 'e', 'E'].contains c

section Digits

variable {c : Char} {ds : List Char}

theorem Digits.isDigit_head (h : Digits (c :: ds)) : c.isDigit = true := h.2 c List.mem_cons_self

@[simp] theorem not_digits_plus : ¬Digits ('+' :: ds) := fun h => Bool.noConfusion h.isDigit_head

@[simp] theorem not_digits_minus : ¬Digits ('-' :: ds) := fun h => Bool.noConfusion h.isDigit_head

theorem Digits.inNumber (h : Digits ds) (hc : c ∈ ds) : inNumber c = true := by
  simp [Json.inNumber, h.2 c hc]

end Digits

namespace Exponent

variable {n n' : ℤ} {e : List Char}

theorem leaves (h : Exponent n e) : Leaves (fun c => c.isDigit || c == '.') e := by
  cases h with
  | none => simp
  | unsigned he | plus he | minus he => obtain rfl | rfl := he <;> simp

theorem unique (h : Exponent n e) (h' : Exponent n' e) : n = n' := by
  cases h <;> cases h' <;> simp_all

theorem inNumber (h : Exponent n e) {c : Char} (hc : c ∈ e) : inNumber c = true := by
  cases h with
  | none => cases hc
  | unsigned he hd =>
    obtain rfl | hc := List.mem_cons.mp hc
    · obtain rfl | rfl := he <;> rfl
    · exact hd.inNumber hc
  | plus he hd | minus he hd =>
    obtain rfl | hc := List.mem_cons.mp hc
    · obtain rfl | rfl := he <;> rfl
    · obtain rfl | hc := List.mem_cons.mp hc
      · rfl
      · exact hd.inNumber hc

end Exponent

namespace Fraction

variable {q q' : ℚ} {n n' : ℤ} {f f' e e' : List Char}

theorem leaves (h : Fraction q f) (he : Exponent n e) : Leaves Char.isDigit (f ++ e) := by
  cases h with
  | none => exact fun c hc => by simpa using (Bool.or_eq_false_iff.mp (he.leaves c hc)).1
  | digits => simp

theorem unique (h : Fraction q f) (h' : Fraction q' f') (he : Exponent n e) (he' : Exponent n' e')
    (same : f ++ e = f' ++ e') : q = q' ∧ e = e' := by
  have noPoint {n : ℤ} {r : List Char} (h : Exponent n ('.' :: r)) : False := by
    simpa using h.leaves
  cases h with
  | none =>
    cases h' with
    | none => exact ⟨rfl, same⟩
    | digits =>
      obtain rfl : e = _ := same
      exact (noPoint he).elim
  | digits hd =>
    cases h' with
    | none =>
      obtain rfl : _ = e' := same
      exact (noPoint he').elim
    | digits hd' =>
      obtain ⟨rfl, rfl⟩ := run_unique hd.2 (Fraction.none.leaves he) hd'.2
        (Fraction.none.leaves he') (List.cons.inj same).2
      exact ⟨rfl, rfl⟩

theorem inNumber (h : Fraction q f) {c : Char} (hc : c ∈ f) : inNumber c = true := by
  cases h with
  | none => cases hc
  | digits hd =>
    obtain rfl | hc := List.mem_cons.mp hc
    · rfl
    · exact hd.inNumber hc

end Fraction

namespace Unsigned

variable {q q' : ℚ} {w : List Char}

theorem unique (h : Unsigned q w) (h' : Unsigned q' w) : q = q' := by
  cases h with
  | @mk ds _ f _ e hw hf he =>
    generalize hu : ds ++ (f ++ e) = u at h'
    cases h' with
    | mk hw' hf' he' =>
      obtain ⟨rfl, same⟩ := run_unique hw.1.2 (hf.leaves he) hw'.1.2 (hf'.leaves he') hu
      obtain ⟨rfl, rfl⟩ := hf.unique hf' he he' same
      obtain rfl := he.unique he'
      rfl

theorem exists_digit (h : Unsigned q w) : ∃ d r, w = d :: r ∧ d.isDigit = true := by
  cases h with
  | @mk ds _ f _ e hw =>
    obtain ⟨hd, -⟩ := hw
    cases ds with
    | nil => exact absurd rfl hd.1
    | cons d ds => exact ⟨d, ds ++ (f ++ e), rfl, hd.isDigit_head⟩

theorem inNumber (h : Unsigned q w) {c : Char} (hc : c ∈ w) : inNumber c = true := by
  cases h with
  | mk hw hf he =>
    simp only [List.mem_append] at hc
    obtain hc | hc | hc := hc
    · exact hw.1.inNumber hc
    · exact hf.inNumber hc
    · exact he.inNumber hc

end Unsigned

namespace Number

variable {q q' : ℚ} {w w' : List Char}

theorem exists_head (h : Number q w) : ∃ c r, w = c :: r ∧ (c.isDigit = true ∨ c = '-') := by
  cases h with
  | positive h =>
    obtain ⟨d, r, hw, hd⟩ := h.exists_digit
    exact ⟨d, r, hw, .inl hd⟩
  | negative h => exact ⟨'-', _, rfl, .inr rfl⟩

theorem value_unique (h : Number q w) (h' : Number q' w) : q = q' := by
  have noSign {q : ℚ} {r : List Char} (h : Unsigned q ('-' :: r)) : False := by
    obtain ⟨d, r, hr, hd⟩ := h.exists_digit
    cases hr
    cases hd
  cases h with
  | positive h =>
    cases h' with
    | positive h' => exact h.unique h'
    | negative h' => exact (noSign h).elim
  | negative h =>
    cases h' with
    | positive h' => exact (noSign h').elim
    | negative h' => rw [h.unique h']

theorem inNumber (h : Number q w) : ∀ c ∈ w, inNumber c = true := by
  intro c hc
  cases h with
  | positive h => exact h.inNumber hc
  | negative h =>
    obtain rfl | hc := List.mem_cons.mp hc
    · rfl
    · exact h.inNumber hc

/-- A number ends where what follows cannot go on with it. -/
theorem unique {t t' : List Char} (h : Number q w) (ht : Leaves Json.inNumber t)
    (h' : Number q' w') (ht' : Leaves Json.inNumber t') (same : w ++ t = w' ++ t') :
    q = q' ∧ t = t' := by
  obtain ⟨rfl, rfl⟩ := run_unique h.inNumber ht h'.inNumber ht' same
  exact ⟨h.value_unique h', rfl⟩

end Number

/-! ### Values -/

/-- The phrases of the grammar: values without and with blanks around them, and the values of an
array or the members of an object, at least one. -/
inductive Phrase where
  | value (v : Content)
  | element (v : Content)
  | items (vs : List Content)
  | members (ms : List (String × Content))

/-- The name of a member with blanks around it, and what is left after it. -/
inductive Name : String → List Char → List Char → Prop
  | mk {k s r r' t} : Space s r → Quoted k r r' → Space r' t → Name k s t

/-- A text begins with a phrase and goes on with what is left. -/
inductive Reads : Phrase → List Char → List Char → Prop
  | null {t} : Reads (.value .null) ('n' :: 'u' :: 'l' :: 'l' :: t) t
  | true {t} : Reads (.value (.boolean true)) ('t' :: 'r' :: 'u' :: 'e' :: t) t
  | false {t} : Reads (.value (.boolean false)) ('f' :: 'a' :: 'l' :: 's' :: 'e' :: t) t
  | number {q w t} : Number q w → Reads (.value (.number q)) (w ++ t) t
  | string {k s t} : Quoted k s t → Reads (.value (.string k)) s t
  | emptyArray {s t} : Space s (']' :: t) → Reads (.value (.array [])) ('[' :: s) t
  | array {vs s t} : Reads (.items vs) s (']' :: t) → Reads (.value (.array vs)) ('[' :: s) t
  | emptyObject {s t} : Space s ('\x7d' :: t) → Reads (.value (.object [])) ('\x7b' :: s) t
  | object {ms s t} : Reads (.members ms) s ('\x7d' :: t) →
      Reads (.value (.object ms)) ('\x7b' :: s) t
  | element {v s r r' t} : Space s r → Reads (.value v) r r' → Space r' t → Reads (.element v) s t
  | lastItem {v s t} : Reads (.element v) s t → Reads (.items [v]) s t
  | item {v vs s r t} : Reads (.element v) s (',' :: r) → Reads (.items vs) r t →
      Reads (.items (v :: vs)) s t
  | lastMember {k v s r t} : Name k s (':' :: r) → Reads (.element v) r t →
      Reads (.members [(k, v)]) s t
  | member {k v ms s r r' t} : Name k s (':' :: r) → Reads (.element v) r (',' :: r') →
      Reads (.members ms) r' t → Reads (.members ((k, v) :: ms)) s t

/-- A text stands for a value. -/
def IsText (v : Content) (s : String) : Prop := Reads (.element v) s.toList []

/-! ### The first character of a value -/

/-- The kinds of values. -/
inductive Kind where
  | null
  | boolean (b : Bool)
  | number
  | string
  | array
  | object
deriving DecidableEq

/-- The kind of a value. -/
def Content.kind : Content → Kind
  | .null => .null
  | .boolean b => .boolean b
  | .number _ => .number
  | .string _ => .string
  | .array _ => .array
  | .object _ => .object

/-- The kind of the values that begin with a character. -/
def Kind.ofChar? (c : Char) : Option Kind :=
  match c with
  | 'n' => some .null
  | 't' => some (.boolean true)
  | 'f' => some (.boolean false)
  | '"' => some .string
  | '[' => some .array
  | '\x7b' => some .object
  | c => if c.isDigit || c == '-' then some .number else none

theorem Kind.ofChar?_of_number {c : Char} (h : c.isDigit = true ∨ c = '-') :
    ofChar? c = some .number := by
  unfold ofChar?
  split <;> simp_all

theorem Kind.ofChar?_of_isSpace {c : Char} (h : isSpace c = true) : ofChar? c = none := by
  obtain rfl | rfl | rfl | rfl := isSpace_iff.mp h
  all_goals rfl

variable {v v' : Content} {s t t' : List Char}

/-- The first character of a value tells its kind. -/
theorem kind_of_reads (h : Reads (.value v) s t) :
    ∃ c r, s = c :: r ∧ Kind.ofChar? c = some v.kind := by
  cases h with
  | number h =>
    obtain ⟨c, r, rfl, hc⟩ := h.exists_head
    exact ⟨c, r ++ t, rfl, Kind.ofChar?_of_number hc⟩
  | string h =>
    cases h
    exact ⟨_, _, rfl, rfl⟩
  | _ => exact ⟨_, _, rfl, rfl⟩

theorem kind_unique (h : Reads (.value v) s t) (h' : Reads (.value v') s t') :
    v.kind = v'.kind := by
  obtain ⟨c, r, rfl, hc⟩ := kind_of_reads h
  obtain ⟨c', r', hs, hc'⟩ := kind_of_reads h'
  cases hs
  exact Option.some.inj (hc.symm.trans hc')

theorem isSpace_eq_false {c : Char} {k : Kind} (h : Kind.ofChar? c = some k) :
    isSpace c = false := by
  rw [Bool.eq_false_iff]
  intro hs
  rw [Kind.ofChar?_of_isSpace hs] at h
  cases h

theorem leaves_isSpace_of_reads (h : Reads (.value v) s t) : Leaves isSpace s := by
  obtain ⟨c, r, rfl, hc⟩ := kind_of_reads h
  exact leaves_cons.mpr (isSpace_eq_false hc)

/-- The first character behind the blanks of a text is that of a value. -/
def Opens (s : List Char) : Prop := ∃ c r k, Space s (c :: r) ∧ Kind.ofChar? c = some k

theorem Opens.not_space (h : Opens s) {x : Char} (hx : Kind.ofChar? x = none)
    (hs : isSpace x = false) : ¬Space s (x :: t) := by
  intro hsp
  obtain ⟨c, r, k, hc, hk⟩ := h
  cases hc.unique (leaves_cons.mpr (isSpace_eq_false hk)) hsp (leaves_cons.mpr hs)
  rw [hx] at hk
  cases hk

theorem opens_of_element (h : Reads (.element v) s t) : Opens s := by
  cases h with
  | element hs hv =>
    obtain ⟨c, r, rfl, hc⟩ := kind_of_reads hv
    exact ⟨c, r, _, hs, hc⟩

theorem opens_of_items {vs : List Content} (h : Reads (.items vs) s t) : Opens s := by
  cases h with
  | lastItem h | item h => exact opens_of_element h

theorem opens_of_members {ms : List (String × Content)} (h : Reads (.members ms) s t) :
    Opens s := by
  cases h with
  | lastMember hk | member hk =>
    obtain ⟨hs, ⟨_⟩, _⟩ := hk
    exact ⟨_, _, _, hs, rfl⟩

/-! ### One way to read a text -/

/-- Whether a character may follow a value with blanks around it. -/
def closes (c : Char) : Bool := [',', ']', '\x7d'].contains c

/-- A text is at its end or goes on with a character that may follow a value. -/
def Ends (t : List Char) : Prop := Leaves (fun c => !closes c) t

@[simp] theorem ends_nil : Ends [] := leaves_nil

@[simp] theorem ends_cons {c : Char} : Ends (c :: t) ↔ closes c = true := by
  simp [Ends]

theorem Ends.leaves (h : Ends t) : Leaves (fun c => isSpace c || inNumber c) t := by
  cases t with
  | nil => simp
  | cons c t =>
    obtain rfl | rfl | rfl : c = ',' ∨ c = ']' ∨ c = '\x7d' := by
      simpa [closes] using ends_cons.mp h
    all_goals exact leaves_cons.mpr rfl

theorem Ends.leaves_isSpace (h : Ends t) : Leaves isSpace t :=
  fun c hc => (Bool.or_eq_false_iff.mp (h.leaves c hc)).1

/-- A number in front of blanks ends there, also if there are no blanks. -/
theorem Ends.leaves_inNumber (h : Ends t) (hs : Space s t) : Leaves inNumber s := by
  cases hs with
  | none => exact fun c hc => (Bool.or_eq_false_iff.mp (h.leaves c hc)).2
  | @blank c _ _ hc =>
    obtain rfl | rfl | rfl | rfl := isSpace_iff.mp hc
    all_goals exact leaves_cons.mpr rfl

theorem Quoted.leaves_isSpace {k : String} (h : Quoted k s t) : Leaves isSpace s := by
  cases h
  exact leaves_cons.mpr rfl

theorem Name.unique {k k' : String} {r r' : List Char} (h : Name k s (':' :: r))
    (h' : Name k' s (':' :: r')) : k = k' ∧ r = r' := by
  cases h with
  | mk hs hq ht =>
    cases h' with
    | mk hs' hq' ht' =>
      obtain rfl := hs.unique hq.leaves_isSpace hs' hq'.leaves_isSpace
      obtain ⟨rfl, rfl⟩ := hq.unique hq'
      cases ht.unique (leaves_cons.mpr rfl) ht' (leaves_cons.mpr rfl)
      exact ⟨rfl, rfl⟩

/-- A text begins with one phrase of a kind at most, if what is left does not go on with it. -/
def Settles : Phrase → List Char → List Char → Prop
  | .value v, s, t => Leaves inNumber t → ∀ v' t', Reads (.value v') s t' → Leaves inNumber t' →
      v = v' ∧ t = t'
  | .element v, s, t => Ends t → ∀ v' t', Reads (.element v') s t' → Ends t' → v = v' ∧ t = t'
  | .items vs, s, t => ∀ r, t = ']' :: r → ∀ vs' r', Reads (.items vs') s (']' :: r') →
      vs = vs' ∧ r = r'
  | .members ms, s, t => ∀ r, t = '\x7d' :: r → ∀ ms' r', Reads (.members ms') s ('\x7d' :: r') →
      ms = ms' ∧ r = r'

/-- The three words leave no choice: their first characters tell them apart. -/
theorem word_unique (h : Reads (.value v) s t)
    (hv : v.kind = .null ∨ v.kind = .boolean true ∨ v.kind = .boolean false)
    (h' : Reads (.value v') s t') : v = v' ∧ t = t' := by
  have same := kind_unique h h'
  cases h with
  | null | true | false =>
    cases v' <;> cases same
    cases h'
    exact ⟨rfl, rfl⟩
  | _ => simp [Content.kind] at hv

/-- What begins with a square bracket is an array. -/
theorem reads_bracket (h : Reads (.value v) ('[' :: s) t) :
    ∃ vs, v = .array vs ∧ (vs = [] ∧ Space s (']' :: t) ∨ Reads (.items vs) s (']' :: t)) := by
  obtain ⟨c, r, hs, hk⟩ := kind_of_reads h
  cases hs
  cases v <;> cases hk
  cases h with
  | emptyArray hs => exact ⟨[], rfl, .inl ⟨rfl, hs⟩⟩
  | array hi => exact ⟨_, rfl, .inr hi⟩

/-- What begins with a brace is an object. -/
theorem reads_brace (h : Reads (.value v) ('\x7b' :: s) t) :
    ∃ ms, v = .object ms ∧
      (ms = [] ∧ Space s ('\x7d' :: t) ∨ Reads (.members ms) s ('\x7d' :: t)) := by
  obtain ⟨c, r, hs, hk⟩ := kind_of_reads h
  cases hs
  cases v <;> cases hk
  cases h with
  | emptyObject hs => exact ⟨[], rfl, .inl ⟨rfl, hs⟩⟩
  | object hm => exact ⟨_, rfl, .inr hm⟩

/-- After an element stands the character that ends it. -/
theorem Settles.element_unique {c c' : Char} (h : Settles (.element v) s (c :: t))
    (hc : closes c = true) (h' : Reads (.element v') s (c' :: t')) (hc' : closes c' = true) :
    v = v' ∧ c = c' ∧ t = t' := by
  obtain ⟨hv, ht⟩ := h (ends_cons.mpr hc) _ _ h' (ends_cons.mpr hc')
  exact ⟨hv, List.cons.inj ht⟩

/-- Where a phrase ends is settled by what follows it. -/
theorem settles {p : Phrase} (h : Reads p s t) : Settles p s t := by
  -- on the first reading: what follows a part is known from the phrase around it
  induction h with
  | null | true | false => exact fun _ _ _ h' _ => word_unique (by constructor) (by decide) h'
  | @number q w t hn =>
    intro ht v' t' h' ht'
    have same := kind_unique (.number hn) h'
    cases v' <;> cases same
    generalize hu : w ++ t = u at h'
    cases h' with
    | number hn' =>
      obtain ⟨rfl, rfl⟩ := hn.unique ht hn' ht' hu
      exact ⟨rfl, rfl⟩
  | string hq =>
    intro _ v' t' h' _
    have same := kind_unique (.string hq) h'
    cases v' <;> cases same
    cases h' with
    | string hq' =>
      obtain ⟨rfl, rfl⟩ := hq.unique hq'
      exact ⟨rfl, rfl⟩
  | emptyArray hs =>
    intro _ v' t' h' _
    obtain ⟨vs, rfl, ⟨rfl, hs'⟩ | hi⟩ := reads_bracket h'
    · cases hs.unique (leaves_cons.mpr rfl) hs' (leaves_cons.mpr rfl)
      exact ⟨rfl, rfl⟩
    · exact absurd hs ((opens_of_items hi).not_space rfl rfl)
  | array hi ih =>
    intro _ v' t' h' _
    obtain ⟨vs, rfl, ⟨-, hs⟩ | hi'⟩ := reads_bracket h'
    · exact absurd hs ((opens_of_items hi).not_space rfl rfl)
    · obtain ⟨rfl, rfl⟩ := ih _ rfl _ _ hi'
      exact ⟨rfl, rfl⟩
  | emptyObject hs =>
    intro _ v' t' h' _
    obtain ⟨ms, rfl, ⟨rfl, hs'⟩ | hm⟩ := reads_brace h'
    · cases hs.unique (leaves_cons.mpr rfl) hs' (leaves_cons.mpr rfl)
      exact ⟨rfl, rfl⟩
    · exact absurd hs ((opens_of_members hm).not_space rfl rfl)
  | object hm ih =>
    intro _ v' t' h' _
    obtain ⟨ms, rfl, ⟨-, hs⟩ | hm'⟩ := reads_brace h'
    · exact absurd hs ((opens_of_members hm).not_space rfl rfl)
    · obtain ⟨rfl, rfl⟩ := ih _ rfl _ _ hm'
      exact ⟨rfl, rfl⟩
  | element hs hv hs' ih =>
    intro ht v' t' h' ht'
    cases h' with
    | element ks kv ks' =>
      obtain rfl := hs.unique (leaves_isSpace_of_reads hv) ks (leaves_isSpace_of_reads kv)
      obtain ⟨rfl, rfl⟩ := ih (ht.leaves_inNumber hs') _ _ kv (ht'.leaves_inNumber ks')
      exact ⟨rfl, hs'.unique ht.leaves_isSpace ks' ht'.leaves_isSpace⟩
  | lastItem he ih =>
    rintro r rfl vs' r' h'
    cases h' with
    | lastItem he' =>
      obtain ⟨rfl, -, rfl⟩ := ih.element_unique rfl he' rfl
      exact ⟨rfl, rfl⟩
    | item he' => cases (ih.element_unique rfl he' rfl).2.1
  | item he hi ih ihs =>
    rintro r rfl vs' r' h'
    cases h' with
    | lastItem he' => cases (ih.element_unique rfl he' rfl).2.1
    | item he' hi' =>
      obtain ⟨rfl, -, rfl⟩ := ih.element_unique rfl he' rfl
      obtain ⟨rfl, rfl⟩ := ihs _ rfl _ _ hi'
      exact ⟨rfl, rfl⟩
  | lastMember hk he ih =>
    rintro r rfl ms' r' h'
    cases h' with
    | lastMember hk' he' =>
      obtain ⟨rfl, rfl⟩ := hk.unique hk'
      obtain ⟨rfl, -, rfl⟩ := ih.element_unique rfl he' rfl
      exact ⟨rfl, rfl⟩
    | member hk' he' =>
      obtain ⟨rfl, rfl⟩ := hk.unique hk'
      cases (ih.element_unique rfl he' rfl).2.1
  | member hk he hm ih ihs =>
    rintro r rfl ms' r' h'
    cases h' with
    | lastMember hk' he' =>
      obtain ⟨rfl, rfl⟩ := hk.unique hk'
      cases (ih.element_unique rfl he' rfl).2.1
    | member hk' he' hm' =>
      obtain ⟨rfl, rfl⟩ := hk.unique hk'
      obtain ⟨rfl, -, rfl⟩ := ih.element_unique rfl he' rfl
      obtain ⟨rfl, rfl⟩ := ihs _ rfl _ _ hm'
      exact ⟨rfl, rfl⟩

/-- A text stands for one value at most. -/
theorem IsText.unique {v v' : Content} {s : String} (h : IsText v s) (h' : IsText v' s) : v = v' :=
  (settles h ends_nil _ _ h' ends_nil).1

end Acceptance.Json
