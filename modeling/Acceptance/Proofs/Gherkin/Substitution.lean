import Mathlib
import Acceptance.Pattern.Compile
import Acceptance.Proofs.Gherkin.Placeholders

/-!
# Substitution in one pass

Placeholders are the matches of one pattern, found from left to right. The cells of a row take no
part in the search: a text and the names of the columns make up a list of pieces, and each row fills
the same pieces.

* `placeholderExpr` is the expression of the pattern, `spans_placeholder_iff` says where it matches.
* `Scans` says what a search for it finds in a text; by `scans_iff` this is one list of tokens for
  each text.
* `Denotes` is the piece of a token, `Inserts` is what a row puts in the place of a piece.
* `substitute_in_one_pass` is what all rows have in common.
-/

namespace Acceptance.Pattern

/-! ### Matches as parts of a text -/

variable {text : List Char} {k : CharClass} {i j : Nat}

theorem drop_of_drop_eq {u v : List Char} (h : text.drop i = u ++ v) :
    text.drop (i + u.length) = v := by
  rw [← List.drop_drop, h, List.drop_left]

theorem spans_one_iff :
    Spans (.one k) text i j ↔
      ∃ c, k.set.contains c = true ∧ j = i + 1 ∧ text.drop i = c :: text.drop j := by
  constructor
  · rintro ⟨⟨c, hc, hk⟩, rfl⟩
    obtain ⟨hi, rfl⟩ := List.getElem?_eq_some_iff.1 hc
    exact ⟨text[i], hk, rfl, List.drop_eq_getElem_cons hi⟩
  · rintro ⟨c, hk, rfl, hd⟩
    refine ⟨⟨c, ?_, hk⟩, rfl⟩
    rw [← List.head?_drop, hd, List.head?_cons]

/-- Steps over single characters of a class. -/
theorem steps_one_iff {n : Nat} :
    Steps (Spans (.one k) text) n i j ↔
      ∃ w : List Char, w.length = n ∧ (∀ c ∈ w, k.set.contains c = true) ∧ j = i + n ∧
        text.drop i = w ++ text.drop j := by
  induction n generalizing i with
  | zero =>
    constructor
    · rintro rfl
      exact ⟨[], rfl, by simp, rfl, rfl⟩
    · rintro ⟨w, -, -, rfl, -⟩
      rfl
  | succ n ih =>
    constructor
    · rintro ⟨m, first, rest⟩
      obtain ⟨c, hc, rfl, hd⟩ := spans_one_iff.1 first
      obtain ⟨w, rfl, hw, rfl, hr⟩ := ih.1 rest
      exact ⟨c :: w, rfl, by simpa [hc] using hw, by omega, by rw [hd, hr, List.cons_append]⟩
    · rintro ⟨w, hn, hw, rfl, hd⟩
      obtain ⟨c, w, rfl⟩ := List.exists_cons_of_length_eq_add_one hn
      have next := drop_of_drop_eq (u := [c]) hd
      refine ⟨i + 1, spans_one_iff.2 ⟨c, hw c List.mem_cons_self, rfl, ?_⟩,
        ih.2 ⟨w, ?_, ?_, ?_, next⟩⟩
      · exact hd.trans (congrArg _ next.symm)
      · simpa using hn
      · exact fun d hd' => hw d (List.mem_cons_of_mem c hd')
      · omega

/-- Any number of characters of a class. -/
theorem spans_many_iff {isLazy : Bool} :
    Spans (.times 0 none isLazy (.one k)) text i j ↔
      ∃ w : List Char, (∀ c ∈ w, k.set.contains c = true) ∧ j = i + w.length ∧
        text.drop i = w ++ text.drop j := by
  constructor
  · rintro ⟨n, -, -, h⟩
    obtain ⟨w, rfl, hw, hj, hd⟩ := steps_one_iff.1 h
    exact ⟨w, hw, hj, hd⟩
  · rintro ⟨w, hw, hj, hd⟩
    exact ⟨w.length, Nat.zero_le _, by simp, steps_one_iff.2 ⟨w, rfl, hw, hj, hd⟩⟩

end Acceptance.Pattern

namespace Acceptance.Gherkin.Placeholder

open Pattern

/-! ### The pattern of placeholders -/

/-- The characters that a name begins with. -/
def firstSet : CharSet :=
  .ofRanges [(0x00, 0x08), (0x0E, 0x1F), (0x21, 0x3D), (0x3F, 0x84), (0x86, 0x9F), (0xA1, 0x167F),
    (0x1681, 0x1FFF), (0x200B, 0x2027), (0x202A, 0x202E), (0x2030, 0x205E), (0x2060, 0x2FFF),
    (0x3001, CharSet.lastCode)]

/-- The characters that a name goes on with. -/
def laterSet : CharSet := .ofRanges [(0x00, 0x3D), (0x3F, CharSet.lastCode)]

/-- A bracket, a name and a bracket. -/
def placeholderExpr : Expr CharClass Look :=
  .seq (.one ⟨.single '<', false⟩)
    (.seq
      (.group true
        (.seq (.one ⟨firstSet, false⟩) (.times 0 none false (.one ⟨laterSet, false⟩))))
      (.one ⟨.single '>', false⟩))

/-- The expression is that of the pattern. -/
theorem compile_placeholder : compile "<([^>\\s][^>]*)>".toList = .ok placeholderExpr := by
  cbv

theorem toNat_le_lastCode (c : Char) : c.toNat ≤ CharSet.lastCode := by
  have := c.valid
  simp only [UInt32.isValidChar, Nat.isValidChar] at this
  simp only [Char.toNat, CharSet.lastCode]
  omega

theorem eq_close_iff {c : Char} : c = '>' ↔ c.toNat = 0x3E := by
  constructor
  · rintro rfl
    rfl
  · exact fun h => Char.ext (UInt32.toNat_inj.1 h)

theorem contains_laterSet {c : Char} : laterSet.contains c = true ↔ c ≠ '>' := by
  have := toNat_le_lastCode c
  simp only [laterSet, CharSet.contains_ofRanges, List.any_cons, List.any_nil, Bool.or_false,
    Bool.or_eq_true, Bool.and_eq_true, decide_eq_true_eq, ne_eq, eq_close_iff]
  omega

theorem contains_firstSet {c : Char} :
    firstSet.contains c = true ↔ c ≠ '>' ∧ Text.isBlank c = false := by
  have := toNat_le_lastCode c
  rw [← Bool.not_eq_true]
  simp only [firstSet, CharSet.contains_ofRanges, List.any_cons, List.any_nil, Bool.or_false,
    Bool.or_eq_true, Bool.and_eq_true, decide_eq_true_eq, ne_eq, eq_close_iff, Text.isBlank,
    Text.blankRanges]
  omega

/-- The pattern matches a name in brackets, and nothing else. -/
theorem spans_placeholder_iff {text : List Char} {i j : Nat} :
    Spans placeholderExpr text i j ↔
      ∃ name, IsName name ∧ j = i + name.length + 2 ∧
        text.drop i = '<' :: name ++ '>' :: text.drop j := by
  constructor
  · rintro ⟨m, opened, l, ⟨n, first, later⟩, closed⟩
    obtain ⟨a, ha, rfl, hda⟩ := spans_one_iff.1 opened
    obtain ⟨c, hc, rfl, hdc⟩ := spans_one_iff.1 first
    obtain ⟨w, hw, rfl, hdw⟩ := spans_many_iff.1 later
    obtain ⟨b, hb, rfl, hdb⟩ := spans_one_iff.1 closed
    obtain rfl : a = '<' := by simpa using ha
    obtain rfl : b = '>' := by simpa using hb
    obtain ⟨hne, hblank⟩ := contains_firstSet.1 hc
    have hnone : '>' ∉ w := fun h => contains_laterSet.1 (hw _ h) rfl
    refine ⟨c :: w, ⟨⟨?_, by simpa using hblank⟩, List.cons_ne_nil c w⟩, ?_, ?_⟩
    · simpa using ⟨hne.symm, hnone⟩
    · simp only [List.length_cons]
      omega
    · rw [hda, hdc, hdw, hdb]
      rfl
  · rintro ⟨name, hname, rfl, hd⟩
    obtain ⟨c, w, rfl⟩ := List.exists_cons_of_ne_nil hname.ne_nil
    have hc := contains_firstSet.2
      ⟨fun h => hname.not_mem (h ▸ List.mem_cons_self), hname.not_blank c rfl⟩
    have hw : ∀ d ∈ w, laterSet.contains d = true := fun d hd =>
      contains_laterSet.2 fun h => hname.not_mem (h ▸ List.mem_cons_of_mem c hd)
    have hfirst := drop_of_drop_eq (u := ['<']) hd
    have hlater := drop_of_drop_eq (u := [c]) hfirst
    have hclose := drop_of_drop_eq hlater
    refine ⟨i + 1, spans_one_iff.2 ⟨'<', by simp, rfl, hd.trans (congrArg _ hfirst.symm)⟩,
      i + 2 + w.length, ⟨i + 2, spans_one_iff.2 ⟨c, hc, rfl, hfirst.trans (congrArg _ hlater.symm)⟩,
        spans_many_iff.2 ⟨w, hw, rfl, hlater.trans (congrArg _ hclose.symm)⟩⟩,
      spans_one_iff.2 ⟨'>', by simp, ?_, hclose⟩⟩
    simp only [List.length_cons]
    omega

/-- At the front of a text the pattern matches exactly if a name is found there. -/
theorem spans_front_iff {s : List Char} {j : Nat} :
    Spans placeholderExpr s 0 j ↔
      ∃ name rest, s = '<' :: name ++ '>' :: rest ∧ IsName name ∧ j = name.length + 2 := by
  rw [spans_placeholder_iff]
  constructor
  · rintro ⟨name, hname, hj, hs⟩
    exact ⟨name, s.drop j, hs, hname, by omega⟩
  · rintro ⟨name, rest, rfl, hname, rfl⟩
    refine ⟨name, hname, by omega, ?_⟩
    have front : '<' :: name ++ '>' :: rest = ('<' :: name ++ ['>']) ++ rest := by simp
    rw [List.drop_zero, front, List.drop_left' (by simp)]
    simp

/-! ### The search for the pattern -/

/-- What a search for the pattern makes of a text, from left to right: where the pattern matches,
the match is taken and the search goes on behind it; everywhere else one character is left. -/
inductive Scans : List Char → List Token → Prop where
  | nil : Scans [] []
  | char {c : Char} {r : List Char} {ts : List Token}
      (unmatched : ∀ j, ¬Spans placeholderExpr (c :: r) 0 j) (later : Scans r ts) :
      Scans (c :: r) (.char c :: ts)
  | placeholder {s name : List Char} {j : Nat} {ts : List Token}
      (matched : Spans placeholderExpr s 0 j) (taken : s.take j = (Token.placeholder name).chars)
      (later : Scans (s.drop j) ts) : Scans s (.placeholder name :: ts)

/-- A name in brackets is taken as a whole. -/
theorem Scans.found {name rest : List Char} {ts : List Token} (h : IsName name)
    (later : Scans rest ts) : Scans ('<' :: name ++ '>' :: rest) (.placeholder name :: ts) := by
  have split : '<' :: name ++ '>' :: rest = (Token.placeholder name).chars ++ rest := by
    simp [Token.chars]
  have length : (Token.placeholder name).chars.length = name.length + 2 := by simp [Token.chars]
  refine .placeholder (spans_front_iff.2 ⟨name, rest, rfl, h, rfl⟩) ?_ ?_
  · rw [split, List.take_left' length]
  · rwa [split, List.drop_left' length]

/-- Where a placeholder is found there is a name in brackets. -/
theorem exists_name_of_taken {s name : List Char} {j : Nat}
    (matched : Spans placeholderExpr s 0 j) (taken : s.take j = (Token.placeholder name).chars) :
    IsName name ∧ s = '<' :: name ++ '>' :: s.drop j := by
  obtain ⟨word, hword, rfl, hs⟩ := spans_placeholder_iff.1 matched
  have split : s = (Token.placeholder word).chars ++ s.drop (0 + word.length + 2) := by
    simpa [Token.chars] using hs
  have same : (Token.placeholder word).chars = (Token.placeholder name).chars := by
    rw [← taken]
    conv_rhs => rw [split]
    exact (List.take_left' (by simp [Token.chars])).symm
  obtain rfl : word = name := by simpa [Token.chars] using same
  exact ⟨hword, hs⟩

/-- A search finds the tokens of a text. -/
theorem scans_tokens (s : List Char) : Scans s (tokens s) := by
  fun_induction tokens s with
  | case1 => exact .nil
  | case2 r name rest hn ih =>
    obtain ⟨rfl, hname⟩ := nameAt?_eq_some_iff.1 hn
    exact .found hname ih
  | case3 r hn ih =>
    refine .char (fun j hj => ?_) ih
    obtain ⟨name, rest, hs, hname, -⟩ := spans_front_iff.1 hj
    obtain ⟨-, rfl⟩ := List.cons.inj hs
    cases (nameAt?_of_isName hname rest).symm.trans hn
  | case4 c r hc ih =>
    refine .char (fun j hj => ?_) ih
    obtain ⟨name, rest, hs, -, -⟩ := spans_front_iff.1 hj
    exact hc (List.cons.inj hs).1

/-- A search finds nothing but the tokens of a text. -/
theorem Scans.tokens_eq {s : List Char} {ts : List Token} (h : Scans s ts) : tokens s = ts := by
  induction h with
  | nil => rw [tokens]
  | @char c r ts unmatched _ ih =>
    rw [← ih]
    by_cases hc : c = '<'
    · subst hc
      refine tokens_bracket (Option.eq_none_iff_forall_ne_some.2 fun p hp => ?_)
      obtain ⟨rfl, hname⟩ := nameAt?_eq_some_iff.1 hp
      exact unmatched _ (spans_front_iff.2 ⟨p.1, p.2, rfl, hname, rfl⟩)
    · exact tokens_cons_of_ne hc r
  | placeholder matched taken _ ih =>
    obtain ⟨hname, hs⟩ := exists_name_of_taken matched taken
    rw [← ih]
    conv_lhs => rw [hs]
    exact tokens_placeholder (nameAt?_of_isName hname _)

theorem scans_iff {s : List Char} {ts : List Token} : Scans s ts ↔ ts = tokens s :=
  ⟨fun h => h.tokens_eq.symm, fun h => h ▸ scans_tokens s⟩

/-- The tokens make up the text. -/
theorem Scans.chars_eq {s : List Char} {ts : List Token} (h : Scans s ts) :
    ts.flatMap Token.chars = s := by
  induction h with
  | nil => rfl
  | char _ _ ih => rw [List.flatMap_cons, ih]; rfl
  | placeholder _ taken _ ih => rw [List.flatMap_cons, ih, ← taken, List.take_append_drop]

/-! ### Pieces -/

variable {headers row : List String}

/-- What a token stands for in the text of every row: literally for itself, or for a column. -/
inductive Piece where
  | literal (s : List Char)
  | column (i : Nat)
deriving DecidableEq, Repr

/-- The piece of a token: a placeholder stands for the first column of its name, and for itself if
there is none. -/
inductive Denotes (headers : List String) : Token → Piece → Prop where
  | char (c : Char) : Denotes headers (.char c) (.literal [c])
  | column {name : List Char} {i : Nat} (named : headers[i]? = some (String.ofList name))
      (first : ∀ k < i, headers[k]? ≠ some (String.ofList name)) :
      Denotes headers (.placeholder name) (.column i)
  | unknown {name : List Char} (unnamed : String.ofList name ∉ headers) :
      Denotes headers (.placeholder name) (.literal (Token.placeholder name).chars)

/-- The piece of a token. -/
def Token.piece (headers : List String) : Token → Piece
  | .char c => .literal [c]
  | .placeholder name =>
    match headers.idxOf? (String.ofList name) with
    | some i => .column i
    | none => .literal (Token.placeholder name).chars

theorem denotes_piece (headers : List String) (t : Token) :
    Denotes headers t (t.piece headers) := by
  cases t with
  | char c => exact .char c
  | placeholder name =>
    rw [Token.piece]
    cases h : headers.idxOf? (String.ofList name) with
    | none => exact .unknown (List.idxOf?_eq_none_iff.1 h)
    | some i =>
      obtain ⟨named, first⟩ := idxOf?_eq_some_iff_first.1 h
      exact .column named first

/-! ### Filled pieces -/

/-- What a row puts in the place of a piece: a literal stands for itself, a column for its cell. -/
inductive Inserts (row : List String) : Piece → List Char → Prop where
  | literal (s : List Char) : Inserts row (.literal s) s
  | column {i : Nat} {v : String} (cell : row[i]? = some v) : Inserts row (.column i) v.toList

/-- A column with a name in brackets. -/
def bracketed (name : String) : String := "<" ++ name ++ ">"

/-- What is inserted for the piece of a token is what a row makes of the token. -/
theorem Denotes.fill_eq {t : Token} {p : Piece} {part : List Char} (h : Denotes headers t p)
    (inserts : Inserts row p part) : t.fill headers row = part := by
  cases h with
  | char c =>
    cases inserts with
    | literal s => rfl
  | unknown unnamed =>
    cases inserts with
    | literal s => exact fill_of_not_mem unnamed
  | column named first =>
    have found := idxOf?_eq_some_iff_first.2 ⟨named, first⟩
    cases inserts with
    | column cell => exact fill_of_cell? ((cell?_of_idxOf? found).trans cell)

theorem fill_eq_flatten {ts : List Token} {ps : List Piece} {parts : List (List Char)}
    (denotes : List.Forall₂ (Denotes headers) ts ps)
    (inserts : List.Forall₂ (Inserts row) ps parts) : fill headers row ts = parts.flatten := by
  induction denotes generalizing parts with
  | nil =>
    cases inserts with
    | nil => rfl
  | cons first _ ih =>
    cases inserts with
    | cons part rest => rw [fill_cons, first.fill_eq part, ih rest, List.flatten_cons]

/-- A row as wide as the header has a cell for each column that a token denotes. -/
theorem exists_inserts {ts : List Token} {ps : List Piece}
    (h : List.Forall₂ (Denotes headers) ts ps) (width : row.length = headers.length) :
    ∃ parts, List.Forall₂ (Inserts row) ps parts := by
  induction h with
  | nil => exact ⟨[], .nil⟩
  | cons first _ ih =>
    obtain ⟨parts, hparts⟩ := ih
    cases first with
    | char c => exact ⟨_, .cons (.literal _) hparts⟩
    | unknown _ => exact ⟨_, .cons (.literal _) hparts⟩
    | @column name i named _ =>
      have hi : i < row.length := width ▸ (List.getElem?_eq_some_iff.1 named).1
      exact ⟨_, .cons (.column (List.getElem?_eq_getElem hi)) hparts⟩

/-- With the names of its columns in brackets, each piece is written as its token. -/
theorem inserts_bracketed {ts : List Token} {ps : List Piece}
    (h : List.Forall₂ (Denotes headers) ts ps) :
    List.Forall₂ (Inserts (headers.map bracketed)) ps (ts.map Token.chars) := by
  induction h with
  | nil => exact .nil
  | cons first _ ih =>
    refine .cons ?_ ih
    cases first with
    | char c => exact .literal _
    | unknown _ => exact .literal _
    | @column name i named _ =>
      have written : (bracketed (String.ofList name)).toList = (Token.placeholder name).chars := by
        simp [bracketed, Token.chars, String.toList_append]
      exact written ▸ .column (by rw [List.getElem?_map, named, Option.map_some])

/-- **Substitution is one pass.** The pattern of placeholders is written as `<([^>\s][^>]*)>`. A text
has one list of tokens, which a search for the pattern finds, and the text and the names of the
columns make up one list of pieces: a placeholder that names no column is a literal, any other one
stands for the first column of its name. Each row that is as wide as the header gives the pieces
with its cells in the places of their columns, whatever characters the cells hold. With each name in
brackets in the place of its column the pieces are the text again, so that a row of these is filled
in without any change. -/
theorem substitute_in_one_pass (text : String) (headers : List String) :
    compile "<([^>\\s][^>]*)>".toList = .ok placeholderExpr ∧
    ∃ ts, Scans text.toList ts ∧ (∀ us, Scans text.toList us → us = ts) ∧
      ∃ ps, List.Forall₂ (Denotes headers) ts ps ∧
        (∀ row : List String, row.length = headers.length →
          ∃ parts, List.Forall₂ (Inserts row) ps parts ∧
            (substitute text headers row).toList = parts.flatten) ∧
        (∃ parts, List.Forall₂ (Inserts (headers.map bracketed)) ps parts ∧
          text.toList = parts.flatten) ∧
        substitute text headers (headers.map bracketed) = text := by
  have denotes : List.Forall₂ (Denotes headers) (tokens text.toList)
      ((tokens text.toList).map (Token.piece headers)) := by
    rw [List.forall₂_map_right_iff, List.forall₂_same]
    exact fun t _ => denotes_piece headers t
  have filled {row : List String} {parts : List (List Char)}
      (h : List.Forall₂ (Inserts row) ((tokens text.toList).map (Token.piece headers)) parts) :
      (substitute text headers row).toList = parts.flatten := by
    rw [substitute, String.toList_ofList, fill_eq_flatten denotes h]
  have written := inserts_bracketed denotes
  have whole : text.toList = ((tokens text.toList).map Token.chars).flatten :=
    (scans_tokens _).chars_eq.symm.trans List.flatMap_def
  refine ⟨compile_placeholder, _, scans_tokens _, fun us => scans_iff.1, _, denotes,
    fun row width => ?_, ⟨_, written, whole⟩,
    String.toList_inj.1 ((filled written).trans whole.symm)⟩
  obtain ⟨parts, hparts⟩ := exists_inserts denotes width
  exact ⟨parts, hparts, filled hparts⟩

/-- Cells that look like placeholders stay as they are, and so does an unknown placeholder. -/
example : substitute "<a>, <b> of <c>" ["a", "b", "a"] ["<b>", "$1 > <a>", "0"] =
    "<b>, $1 > <a> of <c>" := by
  decide +kernel

end Acceptance.Gherkin.Placeholder
