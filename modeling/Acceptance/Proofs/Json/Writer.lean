import Acceptance.Json.Writer
import Acceptance.Proofs.Json.Grammar

/-!
# Written texts are read back

The writer keeps to the grammar, and what it writes stands for the value that it was given.

* `Json.content` is what a value stands for.
* `Json.reads_chars` says that what is written for a value is read as that value, whatever follows.
* `Json.isText_text_iff` says that the text of a value stands for that value and for nothing else.
-/

namespace Acceptance.Json

mutual

/-- What a value stands for. -/
def content : Json → Content
  | .null => .null
  | .number n => .number n
  | .string s => .string s
  | .array items => .array (itemContents items)
  | .object members => .object (memberContents members)

/-- What the items of an array stand for. -/
def itemContents : List Json → List Content
  | [] => []
  | x :: rest => x.content :: itemContents rest

/-- What the members of an object stand for. -/
def memberContents : List (String × Json) → List (String × Content)
  | [] => []
  | (k, x) :: rest => (k, x.content) :: memberContents rest

end

theorem itemContents_eq_map (xs : List Json) : itemContents xs = xs.map content := by
  induction xs with
  | nil => rfl
  | cons x xs ih => simp [itemContents, ih]

/-! ### Strings -/

theorem fourHex?_control {n : Nat} (h : n < 32) :
    fourHex? '0' '0' (Nat.digitChar (n / 16)) (Nat.digitChar (n % 16)) = some n := by
  revert n
  decide

/-- Each character is written as one character of a string. -/
theorem letter_escaped (c : Char) (t : List Char) : Letter c (escaped c ++ t) t := by
  unfold escaped
  split
  case h_8 c hq hb _ _ _ _ _ =>
    split
    · next control => exact .code (fourHex?_control control)
    · next visible => exact .plain (Nat.le_of_not_lt visible) hq hb
  all_goals exact .short rfl

theorem letters_flatMap (cs t : List Char) : Letters cs (cs.flatMap escaped ++ '"' :: t) t := by
  induction cs with
  | nil => exact .done
  | cons c cs ih =>
    rw [List.flatMap_cons, List.append_assoc]
    exact .letter (letter_escaped c _) ih

theorem quoted_chars (k : String) (t : List Char) : Quoted k (quoted k ++ t) t := by
  have := letters_flatMap k.toList t
  exact .mk (by simpa [quoted] using this)

/-! ### Numbers -/

theorem digitChar_eq_zero {n : Nat} (h : n < 10) : Nat.digitChar n = '0' → n = 0 := by
  revert n
  decide

/-- No zero comes before other digits. -/
theorem eq_zero_of_head?_toDigits {n : Nat} (h : (Nat.toDigits 10 n).head? = some '0') : n = 0 := by
  induction n using Nat.strongRecOn with
  | ind n ih =>
    by_cases small : n < 10
    · rw [Nat.toDigits_of_lt_base small] at h
      exact digitChar_eq_zero small (Option.some.inj h)
    · rw [Nat.toDigits_of_base_le (by decide) (by omega),
        List.head?_append, Option.or_of_isSome (by simp [Nat.toDigits_ne_nil])] at h
      have tenth : n / 10 = 0 := ih (n / 10) (by omega) h
      omega

theorem whole_toDigits (n : Nat) : Whole (Nat.toDigits 10 n) := by
  refine ⟨⟨Nat.toDigits_ne_nil, fun d => Nat.isDigit_of_mem_toDigits (by decide) (by decide)⟩,
    fun h => ?_⟩
  obtain rfl := eq_zero_of_head?_toDigits h
  rfl

theorem number_toDigits (n : Nat) : Number n (Nat.toDigits 10 n) := by
  have written := Number.positive (.mk (whole_toDigits n) .none .none)
  simpa [decimal, Nat.ofDigitChars_ten_toDigits] using written

/-! ### Values -/

theorem Reads.toElement {v : Content} {s t : List Char} (h : Reads (.value v) s t) :
    Reads (.element v) s t :=
  .element .none h .none

theorem name_quoted (k : String) (t : List Char) : Name k (quoted k ++ t) t :=
  .mk .none (quoted_chars k t) .none

mutual

/-- What is written for a value is read as that value, whatever follows. -/
theorem reads_chars (x : Json) (t : List Char) : Reads (.value x.content) (x.chars ++ t) t := by
  match x with
  | .null => exact .null
  | .number n => exact .number (number_toDigits n)
  | .string s => exact .string (quoted_chars s t)
  | .array [] => exact .emptyArray .none
  | .array (x :: xs) =>
    have items := reads_itemChars (x :: xs) (List.cons_ne_nil x xs) (']' :: t)
    simpa [content, chars] using Reads.array items
  | .object [] => exact .emptyObject .none
  | .object (m :: ms) =>
    have members := reads_memberChars (m :: ms) (List.cons_ne_nil m ms) ('\x7d' :: t)
    simpa [content, chars] using Reads.object members

theorem reads_itemChars (xs : List Json) (some : xs ≠ []) (t : List Char) :
    Reads (.items (itemContents xs)) (itemChars xs ++ t) t := by
  match xs with
  | [] => exact absurd rfl some
  | [x] => exact .lastItem (reads_chars x t).toElement
  | x :: y :: ys =>
    have first := (reads_chars x (',' :: (itemChars (y :: ys) ++ t))).toElement
    have rest := reads_itemChars (y :: ys) (List.cons_ne_nil y ys) t
    simpa [itemContents, itemChars] using Reads.item first rest

theorem reads_memberChars (ms : List (String × Json)) (some : ms ≠ []) (t : List Char) :
    Reads (.members (memberContents ms)) (memberChars ms ++ t) t := by
  match ms with
  | [] => exact absurd rfl some
  | [(k, x)] =>
    have name := name_quoted k (':' :: (x.chars ++ t))
    simpa [memberContents, memberChars] using Reads.lastMember name (reads_chars x t).toElement
  | (k, x) :: m :: ms =>
    have name := name_quoted k (':' :: (x.chars ++ ',' :: (memberChars (m :: ms) ++ t)))
    have first := (reads_chars x (',' :: (memberChars (m :: ms) ++ t))).toElement
    have rest := reads_memberChars (m :: ms) (List.cons_ne_nil m ms) t
    simpa [memberContents, memberChars] using Reads.member name first rest

end

theorem isText_text (x : Json) : IsText x.content x.text := by
  have read := (reads_chars x []).toElement
  simpa [IsText, text] using read

/-- The text of a value stands for that value and for nothing else. -/
theorem isText_text_iff {x : Json} {v : Content} : IsText v x.text ↔ v = x.content :=
  ⟨fun h => h.unique x.isText_text, fun h => h ▸ x.isText_text⟩

/-! ### Different values have different texts -/

mutual

theorem content_inj {x y : Json} (h : x.content = y.content) : x = y := by
  match x, y with
  | .null, .null => rfl
  | .number n, .number m =>
    have same : (n : ℚ) = m := Content.number.inj h
    rw [Nat.cast_injective same]
  | .string s, .string s' => rw [Content.string.inj h]
  | .array xs, .array ys => rw [itemContents_inj (Content.array.inj h)]
  | .object ms, .object ms' => rw [memberContents_inj (Content.object.inj h)]

theorem itemContents_inj {xs ys : List Json} (h : itemContents xs = itemContents ys) :
    xs = ys := by
  match xs, ys with
  | [], [] => rfl
  | x :: xs, y :: ys =>
    obtain ⟨first, rest⟩ := List.cons.inj h
    rw [content_inj first, itemContents_inj rest]

theorem memberContents_inj {ms ms' : List (String × Json)}
    (h : memberContents ms = memberContents ms') : ms = ms' := by
  match ms, ms' with
  | [], [] => rfl
  | (k, x) :: ms, (k', x') :: ms' =>
    obtain ⟨first, rest⟩ := List.cons.inj h
    obtain ⟨rfl, value⟩ := Prod.mk.inj first
    rw [content_inj value, memberContents_inj rest]

end

theorem text_injective : Function.Injective text := fun x _ h =>
  content_inj (isText_text_iff.mp (h ▸ x.isText_text))

end Acceptance.Json
