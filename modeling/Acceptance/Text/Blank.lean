/-!
# Blank characters and trimming

A character is *blank* when it has the Unicode property White_Space. Everything in this library that
ignores surrounding white space goes through the functions of this file.

* `Text.isBlank` decides the property.
* `Text.trimLeft`, `Text.trimRight` and `Text.trim` cut blanks from the ends of a list of
  characters; `Text.trimmed` and `Text.rightTrimmed` do the same for strings.
* `Text.exists_trim` and `Text.trim_between` say what is cut: blanks at the two ends, and all of
  them. `Text.IsCore` is this rule as a relation between texts, and `Text.isCore_iff` says that
  trimming finds the only core of a text.
* `Text.lowerAscii` lowers the ASCII capitals and leaves every other character alone.
-/

namespace Acceptance.Text

/-- The code points with the property White_Space, as closed ranges. -/
def blankRanges : List (Nat × Nat) :=
  [(0x09, 0x0D), (0x20, 0x20), (0x85, 0x85), (0xA0, 0xA0), (0x1680, 0x1680), (0x2000, 0x200A),
    (0x2028, 0x2029), (0x202F, 0x202F), (0x205F, 0x205F), (0x3000, 0x3000)]

/-- Whether a character is blank. -/
def isBlank (c : Char) : Bool :=
  blankRanges.any fun r => r.1 ≤ c.toNat && c.toNat ≤ r.2

/-- A list of characters without the blanks it starts with. -/
def trimLeft (s : List Char) : List Char :=
  s.dropWhile isBlank

/-- A list of characters without the blanks it ends with. -/
def trimRight : List Char → List Char
  | [] => []
  | c :: r =>
    match trimRight r with
    | [] => if isBlank c then [] else [c]
    | d :: t => c :: d :: t

/-- A list of characters without the blanks at its two ends. -/
def trim (s : List Char) : List Char :=
  trimRight (trimLeft s)

/-- `trim` for strings. -/
def trimmed (s : String) : String :=
  String.ofList (trim s.toList)

/-- `trimRight` for strings. -/
def rightTrimmed (s : String) : String :=
  String.ofList (trimRight s.toList)

/-- The lower case of an ASCII capital; every other character stands for itself. -/
def lowerAscii (s : List Char) : List Char :=
  s.map Char.toLower

@[simp] theorem trimRight_nil : trimRight [] = [] := rfl

theorem trimLeft_cons (c : Char) (s : List Char) :
    trimLeft (c :: s) = if isBlank c then trimLeft s else c :: s := by
  simp only [trimLeft, List.dropWhile_cons]

theorem trimRight_cons (c : Char) (s : List Char) :
    trimRight (c :: s) =
      if trimRight s = [] then (if isBlank c then [] else [c]) else c :: trimRight s := by
  rw [trimRight]
  split
  · next h => simp [h]
  · next h => simp [h]

/-- What is cut from the front is blank. -/
theorem exists_trimLeft (s : List Char) :
    ∃ b, s = b ++ trimLeft s ∧ ∀ c ∈ b, isBlank c = true :=
  ⟨s.takeWhile isBlank, List.takeWhile_append_dropWhile.symm, fun c hc => by
    induction s with
    | nil => simp at hc
    | cons d s ih =>
      rw [List.takeWhile_cons] at hc
      split at hc
      · next h => rcases List.mem_cons.1 hc with rfl | hc
                  · exact h
                  · exact ih hc
      · simp at hc⟩

/-- What is cut from the end is blank. -/
theorem exists_trimRight (s : List Char) :
    ∃ b, s = trimRight s ++ b ∧ ∀ c ∈ b, isBlank c = true := by
  induction s with
  | nil => exact ⟨[], rfl, by simp⟩
  | cons d s ih =>
    obtain ⟨b, hb, hblank⟩ := ih
    rw [trimRight_cons]
    split
    · next h =>
      rw [h] at hb
      split
      · next hd => exact ⟨d :: b, by simpa using hb, by simpa [hd] using hblank⟩
      · next hd => exact ⟨b, by simpa using hb, hblank⟩
    · exact ⟨b, by rw [List.cons_append, ← hb], hblank⟩

theorem trimLeft_append {b : List Char} (hb : ∀ c ∈ b, isBlank c = true) (s : List Char) :
    trimLeft (b ++ s) = trimLeft s :=
  List.dropWhile_append_of_pos hb

theorem trimRight_append (s : List Char) {b : List Char} (hb : ∀ c ∈ b, isBlank c = true) :
    trimRight (s ++ b) = trimRight s := by
  induction s with
  | nil =>
    induction b with
    | nil => rfl
    | cons c b ih =>
      have hc := hb c List.mem_cons_self
      have rest : trimRight b = [] := ih fun d hd => hb d (List.mem_cons_of_mem c hd)
      rw [List.nil_append, trimRight_cons, rest, if_pos rfl, if_pos hc, trimRight_nil]
  | cons c s ih => rw [List.cons_append, trimRight_cons, trimRight_cons, ih]

/-- A text that does not begin with a blank is not cut at the front. -/
theorem trimLeft_of_head? {s : List Char} (h : ∀ c ∈ s.head?, isBlank c = false) :
    trimLeft s = s := by
  cases s with
  | nil => rfl
  | cons c s => rw [trimLeft_cons, h c rfl, if_neg Bool.false_ne_true]

/-- A text that does not end in a blank is not cut at the end. -/
theorem trimRight_of_getLast? {s : List Char} (h : ∀ c ∈ s.getLast?, isBlank c = false) :
    trimRight s = s := by
  induction s with
  | nil => rfl
  | cons c s ih =>
    rw [trimRight_cons]
    cases s with
    | nil => rw [trimRight_nil, if_pos rfl, h c rfl, if_neg Bool.false_ne_true]
    | cons d s =>
      rw [List.getLast?_cons_cons] at h
      rw [ih h, if_neg (List.cons_ne_nil d s)]

/-- What is left of a text between blanks is the text, if no blank stands at its ends. -/
theorem trim_between {left core right : List Char} (hl : ∀ c ∈ left, isBlank c = true)
    (hr : ∀ c ∈ right, isBlank c = true) (first : ∀ c ∈ core.head?, isBlank c = false)
    (last : ∀ c ∈ core.getLast?, isBlank c = false) : trim (left ++ core ++ right) = core := by
  rw [trim, List.append_assoc, trimLeft_append hl]
  cases core with
  | nil =>
    have all : trimLeft right = [] := by
      have := trimLeft_append hr []
      rwa [List.append_nil] at this
    rw [List.nil_append, all, trimRight_nil]
  | cons c core =>
    have front : trimLeft (c :: core ++ right) = c :: core ++ right := trimLeft_of_head? first
    rw [front, trimRight_append _ hr, trimRight_of_getLast? last]

/-- What is cut from the two ends is blank. -/
theorem exists_trim (s : List Char) :
    ∃ left right, s = left ++ trim s ++ right ∧ (∀ c ∈ left, isBlank c = true) ∧
      ∀ c ∈ right, isBlank c = true := by
  obtain ⟨left, hl, hleft⟩ := exists_trimLeft s
  obtain ⟨right, hr, hright⟩ := exists_trimRight (trimLeft s)
  refine ⟨left, right, ?_, hleft, hright⟩
  rw [List.append_assoc, trim, ← hr, ← hl]

/-- A text is what another one is without the blanks at its two ends. -/
structure IsCore (core s : List Char) : Prop where
  between : ∃ left right, s = left ++ core ++ right ∧ (∀ c ∈ left, isBlank c = true) ∧
    ∀ c ∈ right, isBlank c = true
  first : ∀ c ∈ core.head?, isBlank c = false
  last : ∀ c ∈ core.getLast?, isBlank c = false

theorem head?_trimLeft (s : List Char) : ∀ c ∈ (trimLeft s).head?, isBlank c = false := by
  intro c hc
  have cut := List.head?_dropWhile_not isBlank s
  rwa [← trimLeft, hc] at cut

/-- A text that is cut at the end begins as before. -/
theorem head?_of_head?_trimRight {s : List Char} {c : Char} (h : (trimRight s).head? = some c) :
    s.head? = some c := by
  obtain ⟨b, hb, -⟩ := exists_trimRight s
  rw [hb, List.head?_append, h, Option.some_or]

theorem getLast?_trimRight (s : List Char) : ∀ c ∈ (trimRight s).getLast?, isBlank c = false := by
  induction s with
  | nil => simp
  | cons d s ih =>
    rw [trimRight_cons]
    split
    · split
      · simp
      · next hd => simpa using hd
    · next more =>
      obtain ⟨e, t, rest⟩ := List.exists_cons_of_ne_nil more
      rw [rest] at ih ⊢
      rwa [List.getLast?_cons_cons]

/-- Trimming finds the core of a text, and a text has no other core. -/
theorem isCore_iff {core s : List Char} : IsCore core s ↔ core = trim s := by
  constructor
  · rintro ⟨⟨left, right, rfl, hl, hr⟩, first, last⟩
    exact (trim_between hl hr first last).symm
  · rintro rfl
    exact ⟨exists_trim s, fun c hc => head?_trimLeft s c (head?_of_head?_trimRight hc),
      getLast?_trimRight _⟩

/-- Blanks around a text leave its core as it is. -/
theorem trim_append_blanks {left right : List Char} (hl : ∀ c ∈ left, isBlank c = true)
    (hr : ∀ c ∈ right, isBlank c = true) (s : List Char) : trim (left ++ s ++ right) = trim s := by
  obtain ⟨⟨left', right', hs, hl', hr'⟩, first, last⟩ := isCore_iff.2 (Eq.refl (trim s))
  refine (isCore_iff.1 ⟨⟨left ++ left', right' ++ right, ?_, ?_, ?_⟩, first, last⟩).symm
  · calc left ++ s ++ right = left ++ (left' ++ trim s ++ right') ++ right := by rw [← hs]
      _ = left ++ left' ++ trim s ++ (right' ++ right) := by simp only [List.append_assoc]
  · exact fun c hc => (List.mem_append.1 hc).elim (hl c) (hl' c)
  · exact fun c hc => (List.mem_append.1 hc).elim (hr' c) (hr c)

/-- The core of a text is its own core. -/
theorem trim_trim (s : List Char) : trim (trim s) = trim s := by
  obtain ⟨-, first, last⟩ := isCore_iff.2 (Eq.refl (trim s))
  exact (isCore_iff.1 ⟨⟨[], [], by simp, by simp, by simp⟩, first, last⟩).symm

/-- Where only texts without blanks count, what counts is the core of a text. -/
theorem exists_between_iff {P : List Char → Prop}
    (hP : ∀ word, P word → ∀ c ∈ word, isBlank c = false) (s : List Char) :
    (∃ left word right, s = left ++ word ++ right ∧ (∀ c ∈ left, isBlank c = true) ∧
      (∀ c ∈ right, isBlank c = true) ∧ P word) ↔ P (trim s) := by
  constructor
  · rintro ⟨left, word, right, rfl, hl, hr, hw⟩
    rwa [trim_between hl hr (fun c hc => hP word hw c (List.mem_of_mem_head? hc))
      fun c hc => hP word hw c (List.mem_of_mem_getLast? hc)]
  · intro hw
    obtain ⟨left, right, hs, hl, hr⟩ := exists_trim s
    exact ⟨left, _, right, hs, hl, hr, hw⟩

/-- The visible ASCII characters are not blank. -/
theorem isBlank_of_visible {c : Char} (h : 32 < c.toNat) (h' : c.toNat < 127) :
    isBlank c = false := by
  simp only [isBlank, blankRanges, List.any_cons, List.any_nil, Bool.or_false, Bool.or_eq_false_iff,
    Bool.and_eq_false_iff, decide_eq_false_iff_not]
  omega

/-- An ASCII capital is lowered by 32 places. -/
theorem toNat_toLower (c : Char) :
    c.toLower.toNat = if 65 ≤ c.toNat ∧ c.toNat ≤ 90 then c.toNat + 32 else c.toNat := by
  have between : (c.val ≥ 'A'.val ∧ c.val ≤ 'Z'.val) ↔ 65 ≤ c.toNat ∧ c.toNat ≤ 90 :=
    and_congr UInt32.le_iff_toNat_le UInt32.le_iff_toNat_le
  unfold Char.toLower
  split
  · next h =>
    have h' := between.1 h
    rw [if_pos h']
    change (c.val + ('a'.val - 'A'.val)).toNat = c.toNat + 32
    rw [UInt32.toNat_add]
    exact Nat.mod_eq_of_lt (show c.toNat + 32 < 2 ^ 32 by omega)
  · next h => rw [if_neg fun h' => h (between.2 h')]

/-- The case of a letter has no part in whether it is blank. -/
theorem isBlank_toLower (c : Char) : isBlank c.toLower = isBlank c := by
  have lowered := toNat_toLower c
  split at lowered
  · next h =>
    rw [isBlank_of_visible (c := c) (by omega) (by omega),
      isBlank_of_visible (c := c.toLower) (by omega) (by omega)]
  · rw [Char.toNat_inj.1 lowered]

end Acceptance.Text
