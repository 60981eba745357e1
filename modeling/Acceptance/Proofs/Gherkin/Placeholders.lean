import Acceptance.Gherkin.Expansion
import Mathlib.Data.List.TakeWhile

/-!
# Where placeholders are found

Placeholders are looked for from left to right, and the name of one reaches up to the next closing
bracket. So an opening bracket that was meant as a character of its own may take the beginning of
the placeholder after it for a part of its name. What comes before a placeholder decides whether it
is found, and this happens by its last characters alone.

* `IsName` says which names a placeholder may have, `nameAt?_eq_some_iff` that these are found.
* `LeavesOpen` says which texts end in what may be the beginning of a placeholder.
* `tokens_append` cuts a text in two at any other place.
* `substitute_around_placeholder` is what becomes of a placeholder in any text, and
  `placeholder_after_comparison` shows one that stays.
-/

namespace Acceptance.Gherkin.Placeholder

variable {headers row : List String} {name rest p r s : List Char}

/-! ### Names -/

/-- The texts that may be the beginning of a name: no closing bracket, and no blank in front. -/
structure OpensName (r : List Char) : Prop where
  not_mem : '>' ∉ r
  not_blank : ∀ c ∈ r.head?, Text.isBlank c = false

/-- The names that placeholders have. -/
structure IsName (name : List Char) : Prop extends OpensName name where
  ne_nil : name ≠ []

theorem nameAt?_of_not_mem (h : '>' ∉ s) : nameAt? s = none := by
  have hd : s.dropWhile (· != '>') = [] :=
    List.dropWhile_eq_nil_iff.2 fun c hc => by
      rw [bne_iff_ne]
      rintro rfl
      exact h hc
  unfold nameAt?
  split
  · rfl
  · rw [hd]

theorem nameAt?_of_blank {c : Char} (hc : c ∈ s.head?) (hb : Text.isBlank c = true) :
    nameAt? s = none := by
  unfold nameAt?
  rw [if_pos]
  simp [hb, Option.mem_def.1 hc]

theorem nameAt?_close : nameAt? ('>' :: s) = none := by
  unfold nameAt?
  rw [if_pos (by rfl)]

theorem nameAt?_of_isName (h : IsName name) (rest : List Char) :
    nameAt? (name ++ '>' :: rest) = some (name, rest) := by
  have hn : ∀ c ∈ name, (c != '>') = true := fun c hc => by
    rw [bne_iff_ne]
    rintro rfl
    exact h.not_mem hc
  obtain ⟨c, hc⟩ : ∃ c, name.head? = some c := Option.isSome_iff_exists.1 (by simp [h.ne_nil])
  have hb : Text.isBlank c = false := h.not_blank c hc
  have hne : (c == '>') = false := by simpa using hn c (List.mem_of_mem_head? hc)
  unfold nameAt?
  rw [if_neg (by simp [hc, hb, hne]), List.dropWhile_append_of_pos hn,
    List.takeWhile_append_of_pos hn]
  simp

/-- A text has a name in front of its first closing bracket, or nothing is found. -/
theorem nameAt?_cases (s : List Char) :
    (∃ name rest, s = name ++ '>' :: rest ∧ IsName name) ∨
      (nameAt? s = none ∧ (OpensName s ∨ ∀ t, nameAt? (s ++ t) = none)) := by
  by_cases hm : '>' ∈ s
  · obtain ⟨name, rest, rfl, hn⟩ := List.eq_append_cons_of_mem hm
    cases name with
    | nil => exact .inr ⟨nameAt?_close, .inr fun t => nameAt?_close⟩
    | cons c name =>
      cases hb : Text.isBlank c with
      | true => exact .inr ⟨nameAt?_of_blank rfl hb, .inr fun t => nameAt?_of_blank rfl hb⟩
      | false => exact .inl ⟨_, _, rfl, ⟨hn, by simpa using hb⟩, List.cons_ne_nil _ _⟩
  · refine .inr ⟨nameAt?_of_not_mem hm, ?_⟩
    cases s with
    | nil => exact .inl ⟨hm, by simp⟩
    | cons c s =>
      cases hb : Text.isBlank c with
      | true => exact .inr fun t => nameAt?_of_blank rfl hb
      | false => exact .inl ⟨hm, by simpa using hb⟩

theorem nameAt?_eq_some_iff :
    nameAt? s = some (name, rest) ↔ s = name ++ '>' :: rest ∧ IsName name := by
  constructor
  · intro h
    rcases nameAt?_cases s with ⟨n, r, rfl, hn⟩ | ⟨hnone, -⟩
    · rw [nameAt?_of_isName hn] at h
      cases h
      exact ⟨rfl, hn⟩
    · rw [hnone] at h
      cases h
  · rintro ⟨rfl, h⟩
    exact nameAt?_of_isName h rest

/-- A text in which no name is found has none when more is written behind it, unless it may be the
beginning of one. -/
theorem nameAt?_append_eq_none (h : nameAt? r = none) (hr : ¬OpensName r) (s : List Char) :
    nameAt? (r ++ s) = none := by
  rcases nameAt?_cases r with ⟨name, rest, rfl, hn⟩ | ⟨-, ho | hs⟩
  · rw [nameAt?_of_isName hn] at h
    cases h
  · exact absurd ho hr
  · exact hs s

/-! ### Texts that leave a placeholder open -/

/-- The texts in which an opening bracket after the last closing bracket has no blank behind it. -/
def LeavesOpen (p : List Char) : Prop := ∃ r, '<' :: r <:+ p ∧ OpensName r

theorem not_leavesOpen_nil : ¬LeavesOpen [] := by
  rintro ⟨r, h, -⟩
  simp at h

theorem leavesOpen_cons {c : Char} {p : List Char} :
    LeavesOpen (c :: p) ↔ (c = '<' ∧ OpensName p) ∨ LeavesOpen p := by
  simp only [LeavesOpen, List.suffix_cons_iff, List.cons.injEq]
  constructor
  · rintro ⟨r, ⟨rfl, rfl⟩ | h, hr⟩
    · exact .inl ⟨rfl, hr⟩
    · exact .inr ⟨r, h, hr⟩
  · rintro (⟨rfl, h⟩ | ⟨r, h, hr⟩)
    · exact ⟨p, .inl ⟨rfl, rfl⟩, h⟩
    · exact ⟨r, .inr h, hr⟩

/-- What stands before a closing bracket leaves nothing open. -/
theorem leavesOpen_append_close (p rest : List Char) :
    LeavesOpen (p ++ '>' :: rest) ↔ LeavesOpen rest := by
  induction p with
  | nil => simp [leavesOpen_cons]
  | cons c p ih =>
    rw [List.cons_append, leavesOpen_cons, ih]
    refine or_iff_right ?_
    rintro ⟨-, h, -⟩
    exact h (List.mem_append_right p List.mem_cons_self)

instance (r : List Char) : Decidable (OpensName r) :=
  decidable_of_iff ('>' ∉ r ∧ r.head?.all (!Text.isBlank ·) = true)
    ⟨fun h => ⟨h.1, by simpa [Option.all_eq_true] using h.2⟩,
      fun h => ⟨h.1, by simpa [Option.all_eq_true] using h.not_blank⟩⟩

instance (name : List Char) : Decidable (IsName name) :=
  decidable_of_iff (OpensName name ∧ name ≠ []) ⟨fun h => ⟨h.1, h.2⟩, fun h => ⟨h.1, h.2⟩⟩

/-- Looks at the brackets one after the other. -/
def decideLeavesOpen : (p : List Char) → Decidable (LeavesOpen p)
  | [] => .isFalse not_leavesOpen_nil
  | _ :: p =>
    have := decideLeavesOpen p
    decidable_of_iff _ leavesOpen_cons.symm

instance : DecidablePred LeavesOpen := decideLeavesOpen

/-! ### Tokens of texts in two parts -/

theorem tokens_cons_of_ne {c : Char} (hc : c ≠ '<') (r : List Char) :
    tokens (c :: r) = .char c :: tokens r := by
  rw [tokens, if_neg hc]

theorem tokens_bracket (h : nameAt? r = none) : tokens ('<' :: r) = .char '<' :: tokens r := by
  rw [tokens, if_pos rfl]
  split
  · next hs => rw [h] at hs; cases hs
  · rfl

theorem tokens_placeholder (h : nameAt? r = some (name, rest)) :
    tokens ('<' :: r) = .placeholder name :: tokens rest := by
  rw [tokens, if_pos rfl]
  split
  · next hs =>
    rw [h] at hs
    cases hs
    rfl
  · next hs => rw [h] at hs; cases hs

/-- A text that leaves nothing open can be cut apart from what follows it. -/
theorem tokens_append (h : ¬LeavesOpen p) (s : List Char) :
    tokens (p ++ s) = tokens p ++ tokens s := by
  fun_induction tokens p with
  | case1 => rfl
  | case2 r name rest hn ih =>
    obtain ⟨rfl, hname⟩ := nameAt?_eq_some_iff.1 hn
    have hrest : ¬LeavesOpen rest := fun ho =>
      h (leavesOpen_cons.2 (.inr ((leavesOpen_append_close name rest).2 ho)))
    have hs : nameAt? (name ++ '>' :: rest ++ s) = some (name, rest ++ s) := by
      rw [List.append_assoc]
      exact nameAt?_of_isName hname _
    rw [List.cons_append, tokens_placeholder hs, ih hrest, List.cons_append]
  | case3 r hn ih =>
    rw [leavesOpen_cons, not_or] at h
    have hs := nameAt?_append_eq_none hn (fun ho => h.1 ⟨rfl, ho⟩) s
    rw [List.cons_append, tokens_bracket hs, ih h.2, List.cons_append]
  | case4 c r hc ih =>
    rw [leavesOpen_cons, not_or] at h
    rw [List.cons_append, tokens_cons_of_ne hc, ih h.2, List.cons_append]

/-! ### Filled texts -/

theorem fill_cons (t : Token) (ts : List Token) :
    fill headers row (t :: ts) = t.fill headers row ++ fill headers row ts :=
  List.flatMap_cons

theorem fill_append (ts us : List Token) :
    fill headers row (ts ++ us) = fill headers row ts ++ fill headers row us :=
  List.flatMap_append

/-- A name is looked up in its first column. -/
theorem idxOf?_eq_some_iff_first {h : String} {i : Nat} :
    headers.idxOf? h = some i ↔ headers[i]? = some h ∧ ∀ k < i, headers[k]? ≠ some h := by
  rw [List.idxOf?_eq_some_iff]
  constructor
  · rintro ⟨hlt, hat, hfirst⟩
    refine ⟨by rw [List.getElem?_eq_getElem hlt, hat], fun k hk => ?_⟩
    rw [List.getElem?_eq_getElem (hk.trans hlt), ne_eq, Option.some.injEq]
    exact hfirst k hk
  · rintro ⟨hat, hfirst⟩
    obtain ⟨hlt, hat⟩ := List.getElem?_eq_some_iff.1 hat
    refine ⟨hlt, hat, fun k hk same => hfirst k hk ?_⟩
    rw [List.getElem?_eq_getElem (hk.trans hlt), same]

theorem cell?_of_idxOf? {i : Nat} (h : headers.idxOf? (String.ofList name) = some i) :
    cell? headers row name = row[i]? := by
  rw [cell?, h, Option.bind_some]

theorem cell?_of_not_mem (h : String.ofList name ∉ headers) : cell? headers row name = none := by
  rw [cell?, List.idxOf?_eq_none_iff.2 h, Option.bind_none]

theorem fill_of_cell? {v : String} (h : cell? headers row name = some v) :
    Token.fill headers row (.placeholder name) = v.toList := by
  rw [Token.fill, h]

/-- A name that no column has stays as it is written. -/
theorem fill_of_not_mem (h : String.ofList name ∉ headers) :
    Token.fill headers row (.placeholder name) = (Token.placeholder name).chars := by
  rw [Token.fill, cell?_of_not_mem h]

/-- A text without closing brackets has no placeholders. -/
theorem fill_tokens_of_not_mem (h : '>' ∉ p) : fill headers row (tokens p) = p := by
  fun_induction tokens p with
  | case1 => rfl
  | case2 r name rest hn ih =>
    obtain ⟨rfl, -⟩ := nameAt?_eq_some_iff.1 hn
    simp at h
  | case3 r hn ih =>
    rw [fill_cons, ih fun hm => h (List.mem_cons_of_mem _ hm)]
    rfl
  | case4 c r hc ih =>
    rw [fill_cons, ih fun hm => h (List.mem_cons_of_mem _ hm)]
    rfl

/-- Behind a text that leaves a placeholder open, the brackets around a name are taken for a part of
the name that was begun, and no column has a name with an opening bracket. -/
theorem fill_tokens_of_leavesOpen (hs : ∀ x ∈ headers, '<' ∉ x.toList) (hn : '>' ∉ name)
    (h : LeavesOpen p) (rest : List Char) :
    fill headers row (tokens (p ++ '<' :: name ++ '>' :: rest)) =
      fill headers row (tokens p) ++ '<' :: name ++ '>' :: fill headers row (tokens rest) := by
  simp only [List.append_assoc, List.cons_append]
  fun_induction tokens p with
  | case1 => exact absurd h not_leavesOpen_nil
  | case2 r word rest' hw ih =>
    obtain ⟨rfl, hword⟩ := nameAt?_eq_some_iff.1 hw
    have hopen : LeavesOpen rest' := by
      rw [leavesOpen_cons, leavesOpen_append_close] at h
      exact h.resolve_left fun ho => ho.2.not_mem (List.mem_append_right _ List.mem_cons_self)
    have found := nameAt?_of_isName hword (rest' ++ '<' :: (name ++ '>' :: rest))
    rw [List.cons_append, List.append_assoc, List.cons_append, tokens_placeholder found,
      fill_cons, fill_cons, ih hopen, List.append_assoc]
  | case3 r hr ih =>
    by_cases ho : OpensName r
    · -- the bracket in front begins a name that goes on up to the bracket behind `name`
      have hword : IsName (r ++ '<' :: name) :=
        { not_mem := by simp [ho.not_mem, hn]
          not_blank := by
            cases r with
            | nil => simp; decide
            | cons c r => exact ho.not_blank
          ne_nil := by simp }
      have hunknown : String.ofList (r ++ '<' :: name) ∉ headers := fun hm =>
        hs _ hm (by simp)
      have hclosed : '>' ∉ '<' :: r := by simp [ho.not_mem]
      have found := nameAt?_of_isName hword rest
      rw [List.append_assoc, List.cons_append] at found
      rw [List.cons_append, tokens_placeholder found, fill_cons, fill_of_not_mem hunknown,
        ← tokens_bracket hr, fill_tokens_of_not_mem hclosed]
      simp [Token.chars]
    · have hopen : LeavesOpen r := (leavesOpen_cons.1 h).resolve_left fun hc => ho hc.2
      have none_found := nameAt?_append_eq_none hr ho ('<' :: (name ++ '>' :: rest))
      rw [List.cons_append, tokens_bracket none_found, fill_cons, fill_cons, ih hopen,
        List.append_assoc]
  | case4 c r hc ih =>
    have hopen : LeavesOpen r := (leavesOpen_cons.1 h).resolve_left fun ho => hc ho.1
    rw [List.cons_append, tokens_cons_of_ne hc, fill_cons, fill_cons, ih hopen,
      List.append_assoc]

/-- Behind any other text the column of a name is filled in. -/
theorem fill_tokens_of_not_leavesOpen {h v : String} {i : Nat} (hh : IsName h.toList)
    (hi : headers.idxOf? h = some i) (hv : row[i]? = some v) (hp : ¬LeavesOpen p)
    (rest : List Char) :
    fill headers row (tokens (p ++ '<' :: h.toList ++ '>' :: rest)) =
      fill headers row (tokens p) ++ v.toList ++ fill headers row (tokens rest) := by
  have cell : cell? headers row h.toList = some v := by
    rw [cell?_of_idxOf? (by rwa [String.ofList_toList]), hv]
  rw [List.append_assoc, List.cons_append, tokens_append hp,
    tokens_placeholder (nameAt?_of_isName hh rest), fill_append, fill_cons, fill_of_cell? cell,
    List.append_assoc]

/-- **What becomes of a placeholder.** A placeholder of a column is replaced by the cell of the
first column of its name, unless the text before it leaves a placeholder open: then it stays as it
is written. In both cases the texts before and behind it are filled on their own. -/
theorem substitute_around_placeholder {headers row : List String}
    (width : row.length = headers.length)
    (names : ∀ x ∈ headers, IsName x.toList ∧ '<' ∉ x.toList) {h : String} (hh : h ∈ headers)
    (p q : String) :
    ∃ (i : Nat) (v : String), headers[i]? = some h ∧ (∀ j < i, headers[j]? ≠ some h) ∧
      row[i]? = some v ∧
      substitute (p ++ ("<" ++ h ++ ">") ++ q) headers row =
        substitute p headers row ++ (if LeavesOpen p.toList then "<" ++ h ++ ">" else v) ++
          substitute q headers row := by
  have whole : (p ++ ("<" ++ h ++ ">") ++ q).toList =
      p.toList ++ '<' :: h.toList ++ '>' :: q.toList := by
    simp [String.toList_append]
  obtain ⟨i, hi⟩ : ∃ i, headers.idxOf? h = some i :=
    Option.ne_none_iff_exists'.1 fun hn => List.idxOf?_eq_none_iff.1 hn hh
  obtain ⟨hat, hfirst⟩ := idxOf?_eq_some_iff_first.1 hi
  have hlt : i < row.length := width ▸ (List.getElem?_eq_some_iff.1 hat).1
  have hv : row[i]? = some row[i] := List.getElem?_eq_getElem hlt
  refine ⟨i, row[i], hat, hfirst, hv, String.toList_inj.1 ?_⟩
  simp only [substitute, String.toList_append, String.toList_ofList, whole]
  split
  · next hp =>
    rw [fill_tokens_of_leavesOpen (fun x hx => (names x hx).2) (names h hh).1.not_mem hp]
    simp
  · next hp => exact fill_tokens_of_not_leavesOpen (names h hh).1 hi hv hp q.toList

/-- An opening bracket before a blank and a placeholder that is complete leave nothing open. -/
theorem substitute_after_closed_placeholder :
    let headers := ["sum", "unit", "sum"]
    let row := ["5", "EUR", "7"]
    row.length = headers.length ∧ (∀ x ∈ headers, IsName x.toList ∧ '<' ∉ x.toList) ∧
      ¬LeavesOpen "0 < 1 <unit> < ".toList ∧
      substitute ("0 < 1 <unit> < " ++ ("<" ++ "sum" ++ ">") ++ " <unit>") headers row =
        substitute "0 < 1 <unit> < " headers row ++ "5" ++ substitute " <unit>" headers row := by
  intro headers row
  have width : row.length = headers.length := rfl
  have names : ∀ x ∈ headers, IsName x.toList ∧ '<' ∉ x.toList := by decide
  have closed : ¬LeavesOpen "0 < 1 <unit> < ".toList := by decide
  obtain ⟨i, v, -, hfirst, hv, h⟩ := substitute_around_placeholder width names
    (List.mem_cons_self : "sum" ∈ headers) "0 < 1 <unit> < " " <unit>"
  have hi : i = 0 := by
    by_contra hne
    exact hfirst 0 (Nat.pos_of_ne_zero hne) rfl
  obtain rfl : "5" = v := by simpa [hi, row] using hv
  rw [if_neg closed] at h
  exact ⟨width, names, closed, h⟩

/-- The comparison before the placeholder leaves one open, and the placeholder is not replaced. -/
theorem placeholder_after_comparison :
    let headers := ["sum"]
    let row := ["5"]
    (∀ x ∈ headers, IsName x.toList ∧ '<' ∉ x.toList) ∧
      (rowScenario "Compare" [] ["1 <2 and <sum>"] 1 ⟨headers, row⟩).texts = ["1 <2 and <sum>"] ∧
      substitute ("1 <2 and " ++ ("<" ++ "sum" ++ ">") ++ "") headers row ≠
        substitute "1 <2 and " headers row ++ "5" ++ substitute "" headers row := by
  exact ⟨by decide, by decide +kernel, by decide +kernel⟩

end Acceptance.Gherkin.Placeholder
