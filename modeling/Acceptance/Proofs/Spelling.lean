import Acceptance.Keyword
import Mathlib.Data.List.Forall2

/-!
# Spellings of keywords

A keyword may be written in any case and between blanks. Case is a matter of the ASCII letters
alone, while every character with the property White_Space is a blank.

* `Text.SameWord` compares texts up to the case of ASCII letters; `Text.lowerAscii_eq_iff` says that
  lowering decides it.
* `Keyword.SpelledBy` says that a text is a keyword between blanks, and `Keyword.eq_of_spelledBy`
  that it is no other keyword as well.
* `Keyword.readAmong_of_spelledBy` and `Keyword.readAmong_of_not_spelledBy` say what is read, in
  whatever order the keywords are tried.
* `Keyword.read_tells_keyword` is what reading says about a text and the texts around it.
-/

namespace Acceptance

/-! ### The case of letters -/

namespace Text

/-- Two characters are the same, or the two forms of one of the 26 ASCII letters. -/
def SameLetter (c d : Char) : Prop :=
  c = d ∨ ∃ i < 26, (c.toNat = 65 + i ∧ d.toNat = 97 + i) ∨ (c.toNat = 97 + i ∧ d.toNat = 65 + i)

/-- Two texts differ at most in the case of ASCII letters. -/
def SameWord (s t : List Char) : Prop :=
  List.Forall₂ SameLetter s t

/-- Among texts of ASCII characters, a comparison overlooks the case of letters at most. What it
does elsewhere is left open, as foldings of Unicode differ in that. -/
def FoldsAscii (alike : List Char → List Char → Prop) : Prop :=
  ∀ s t, (∀ c ∈ s, c.toNat < 128) → (∀ c ∈ t, c.toNat < 128) → alike s t → SameWord s t

theorem toLower_eq_iff {c d : Char} : c.toLower = d.toLower ↔ SameLetter c d := by
  rw [← Char.toNat_inj, toNat_toLower, toNat_toLower, SameLetter, ← Char.toNat_inj]
  constructor
  · intro h
    by_cases same : c.toNat = d.toNat
    · exact .inl same
    -- If the lowered characters agree and the characters do not, exactly one of them is a capital.
    · refine .inr ⟨min c.toNat d.toNat - 65, ?_⟩
      split at h <;> split at h <;> omega
  · rintro (same | ⟨i, hi, forms⟩)
    · rw [same]
    · split <;> split <;> omega

theorem lowerAscii_eq_iff {s t : List Char} : lowerAscii s = lowerAscii t ↔ SameWord s t := by
  rw [lowerAscii, lowerAscii, ← List.forall₂_eq_eq_eq, List.forall₂_map_left_iff,
    List.forall₂_map_right_iff]
  simp only [toLower_eq_iff]
  rfl

/-- A word in another case is as visible as the word. -/
theorem SameWord.visible {s t : List Char} (h : SameWord s t)
    (ht : ∀ d ∈ t, 32 < d.toNat ∧ d.toNat < 127) : ∀ c ∈ s, 32 < c.toNat ∧ c.toNat < 127 := by
  induction h with
  | nil => simp
  | cons letter _ ih =>
    obtain ⟨first, rest⟩ := List.forall_mem_cons.1 ht
    refine List.forall_mem_cons.2 ⟨?_, ih rest⟩
    rcases letter with rfl | ⟨i, hi, forms⟩
    · exact first
    · omega

end Text

/-! ### Keywords between blanks -/

namespace Keyword

/-- A text is the keyword with blanks around it, in any case of ASCII letters. -/
def SpelledBy (k : Keyword) (s : String) : Prop :=
  ∃ left word right, s.toList = left ++ word ++ right ∧ (∀ c ∈ left, Text.isBlank c = true) ∧
    (∀ c ∈ right, Text.isBlank c = true) ∧ Text.SameWord word k.text.toList

theorem visible_text (k : Keyword) : ∀ c ∈ k.text.toList, 32 < c.toNat ∧ c.toNat < 127 := by
  have visible : k.text.toList.all (fun c => 32 < c.toNat && c.toNat < 127) = true := by
    cases k <;> decide
  simpa using visible

theorem visible_of_sameWord {word : List Char} {k : Keyword}
    (h : Text.SameWord word k.text.toList) : ∀ c ∈ word, 32 < c.toNat ∧ c.toNat < 127 :=
  h.visible k.visible_text

theorem not_blank_of_sameWord {word : List Char} {k : Keyword}
    (h : Text.SameWord word k.text.toList) : ∀ c ∈ word, Text.isBlank c = false := fun c hc =>
  have visible := visible_of_sameWord h c hc
  Text.isBlank_of_visible visible.1 visible.2

theorem spelledBy_iff {k : Keyword} {s : String} :
    k.SpelledBy s ↔ Text.SameWord (Text.trim s.toList) k.text.toList :=
  Text.exists_between_iff (fun _ => not_blank_of_sameWord) s.toList

theorem isWritten_iff {word : List Char} {k : Keyword} :
    isWritten word k = true ↔ Text.SameWord word k.text.toList := by
  rw [isWritten, beq_iff_eq, Text.lowerAscii_eq_iff]

theorem eq_of_spelledBy {k k' : Keyword} {s : String} (h : k.SpelledBy s) (h' : k'.SpelledBy s) :
    k = k' := by
  rw [spelledBy_iff, ← Text.lowerAscii_eq_iff] at h h'
  exact eq_of_lowerAscii_text (h.symm.trans h')

/-! ### Reading -/

/-- The keyword that a text spells is read, in whatever order keywords are tried. -/
theorem readAmong_of_spelledBy {ks : List Keyword} {k : Keyword} {s : String} (hk : k ∈ ks)
    (h : k.SpelledBy s) : readAmong ks s = .ok k := by
  unfold readAmong
  dsimp only
  cases found : ks.find? (isWritten (Text.trim s.toList)) with
  | none => exact absurd (isWritten_iff.2 (spelledBy_iff.1 h)) (List.find?_eq_none.1 found k hk)
  | some k' =>
    have other : k'.SpelledBy s := spelledBy_iff.2 (isWritten_iff.1 (List.find?_some found))
    rw [eq_of_spelledBy other h]

/-- A text that spells no keyword is refused, and what is kept of it is its core. -/
theorem readAmong_of_not_spelledBy (ks : List Keyword) {s : String} (h : ∀ k, ¬SpelledBy k s) :
    readAmong ks s = .error ⟨Text.trimmed s⟩ := by
  unfold readAmong
  dsimp only
  have none_found : ks.find? (isWritten (Text.trim s.toList)) = none :=
    List.find?_eq_none.2 fun k _ hk => h k (spelledBy_iff.2 (isWritten_iff.1 hk))
  rw [none_found]
  rfl

theorem read_eq_ok_iff {k : Keyword} {s : String} : read s = .ok k ↔ k.SpelledBy s := by
  refine ⟨fun hread => ?_, readAmong_of_spelledBy (mem_all k)⟩
  by_cases spelled : ∃ k', SpelledBy k' s
  · obtain ⟨k', h⟩ := spelled
    cases hread.symm.trans (readAmong_of_spelledBy (mem_all k') h)
    exact h
  · cases hread.symm.trans (readAmong_of_not_spelledBy all (not_exists.1 spelled))

theorem read_eq_error_iff {e : KeywordError} {s : String} :
    read s = .error e ↔ (∀ k, ¬SpelledBy k s) ∧ e.value = Text.trimmed s := by
  constructor
  · intro hread
    have none_spelled : ∀ k, ¬SpelledBy k s := fun k h => by
      cases hread.symm.trans (read_eq_ok_iff.2 h)
    cases hread.symm.trans (readAmong_of_not_spelledBy all none_spelled)
    exact ⟨none_spelled, rfl⟩
  · rintro ⟨none_spelled, kept⟩
    rw [read, readAmong_of_not_spelledBy all none_spelled, ← kept]

/-- The order in which keywords are tried has no part in reading. -/
theorem readAmong_eq_read {ks : List Keyword} (hks : ∀ k, k ∈ ks) (s : String) :
    readAmong ks s = read s := by
  by_cases spelled : ∃ k, SpelledBy k s
  · obtain ⟨k, h⟩ := spelled
    rw [readAmong_of_spelledBy (hks k) h, read_eq_ok_iff.2 h]
  · have none_spelled := not_exists.1 spelled
    rw [read, readAmong_of_not_spelledBy ks none_spelled,
      readAmong_of_not_spelledBy all none_spelled]

/-- Texts with the same core are read alike. -/
theorem read_congr {s t : String} (h : Text.trim s.toList = Text.trim t.toList) :
    read s = read t := by
  simp only [read, readAmong, h]

/-- The core of a text is read as the text is. -/
theorem read_trimmed (s : String) : read (Text.trimmed s) = read s :=
  read_congr (by rw [Text.trimmed, String.toList_ofList, Text.trim_trim])

/-- A text with a blank inside or with a character outside of ASCII spells no keyword. -/
theorem not_spelledBy_of_outside {s : String}
    (h : ∃ c ∈ Text.trim s.toList, Text.isBlank c = true ∨ 128 ≤ c.toNat) (k : Keyword) :
    ¬k.SpelledBy s := by
  intro spelled
  rw [spelledBy_iff] at spelled
  obtain ⟨c, hc, blank | large⟩ := h
  · cases blank.symm.trans (not_blank_of_sameWord spelled c hc)
  · have visible := visible_of_sameWord spelled c hc
    omega

/-- What only another folding of case takes for a keyword spells none at all: it would be ASCII, and
there the foldings agree. -/
theorem not_spelledBy_of_foldsAscii {alike : List Char → List Char → Prop}
    (folds : Text.FoldsAscii alike) {s : String} {k : Keyword}
    (hk : alike (Text.trim s.toList) k.text.toList)
    (different : ¬Text.SameWord (Text.trim s.toList) k.text.toList) (k' : Keyword) :
    ¬k'.SpelledBy s := by
  intro spelled
  have visible := visible_of_sameWord (spelledBy_iff.1 spelled)
  refine different (folds _ _ (fun c hc => ?_) (fun c hc => ?_) hk)
  · exact Nat.lt_succ_of_lt (visible c hc).2
  · exact Nat.lt_succ_of_lt (k.visible_text c hc).2

/-- **Reading a keyword.** A keyword is read exactly if the text spells it, which it does of one
keyword at most, and the order in which keywords are tried has no part in that; nor have blanks
around the text. Any other text is refused, and the error holds the text without its outer blanks,
for which there is only one choice, and which is refused in the same way. Refused are all texts with
blanks inside or with characters outside of ASCII, and so is what another folding of case than the
one of ASCII letters takes for a keyword. -/
theorem read_tells_keyword (s : String) :
    (∀ k, read s = .ok k ↔ k.SpelledBy s) ∧
    (∀ k k', SpelledBy k s → SpelledBy k' s → k = k') ∧
    (∀ ks, (∀ k, k ∈ ks) → readAmong ks s = read s) ∧
    (∀ left right : String, (∀ c ∈ left.toList, Text.isBlank c = true) →
      (∀ c ∈ right.toList, Text.isBlank c = true) → read (left ++ s ++ right) = read s) ∧
    ∃ core : String, (∀ t, Text.IsCore t s.toList ↔ t = core.toList) ∧
      (read s = .error ⟨core⟩ ↔ ∀ k, ¬SpelledBy k s) ∧
      (∀ e, read s = .error e → e.value = core ∧ read e.value = .error e) ∧
      ((∃ c ∈ core.toList, Text.isBlank c = true ∨ 128 ≤ c.toNat) → read s = .error ⟨core⟩) ∧
      ∀ alike, Text.FoldsAscii alike → ∀ k : Keyword, alike core.toList k.text.toList →
        ¬Text.SameWord core.toList k.text.toList → read s = .error ⟨core⟩ := by
  refine ⟨fun k => read_eq_ok_iff, fun k k' => eq_of_spelledBy,
    fun ks hks => readAmong_eq_read hks s, fun left right hl hr => ?_, Text.trimmed s, ?_⟩
  · refine read_congr ?_
    rw [String.toList_append, String.toList_append, Text.trim_append_blanks hl hr]
  have core : (Text.trimmed s).toList = Text.trim s.toList := String.toList_ofList
  rw [core]
  have refused : read s = .error ⟨Text.trimmed s⟩ ↔ ∀ k, ¬SpelledBy k s := by
    simp [read_eq_error_iff]
  refine ⟨fun t => Text.isCore_iff, refused, fun e he => ?_,
    fun outside => refused.2 (not_spelledBy_of_outside outside),
    fun alike folds k hk different => refused.2 (not_spelledBy_of_foldsAscii folds hk different)⟩
  have kept := (read_eq_error_iff.1 he).2
  exact ⟨kept, by rw [kept, read_trimmed, he]⟩

/-- The long s is a small form of S outside of ASCII, as the Kelvin sign is of K: a folding that
knows both takes the text for a keyword, and reading does not. In ASCII any case is read, from the
last keyword to the first and between a tabulator and an ideographic space. -/
theorem read_tells_keyword_of_long_s :
    let fold (c : Char) : Char := if c = 'ſ' then 's' else if c = '\u212a' then 'k' else c.toLower
    let alike (s t : List Char) : Prop := s.map fold = t.map fold
    let backwards : List Keyword := [.step, .but, .and, .then_, .when, .given]
    Text.FoldsAscii alike ∧ alike "ſtep".toList (text .step).toList ∧
      read "ſtep" = .error ⟨"ſtep"⟩ ∧ read "s tep" = .error ⟨"s tep"⟩ ∧
      readAmong backwards "sTEP" = .ok .step ∧ read ("\t" ++ "sTEP" ++ "\u3000") = .ok .step := by
  intro fold alike backwards
  have folds : Text.FoldsAscii alike := fun s t hs ht h => by
    have lowers {w : List Char} (hw : ∀ c ∈ w, c.toNat < 128) : w.map fold = Text.lowerAscii w :=
      List.map_congr_left fun c hc => by
        have not_long : c ≠ 'ſ' := by rintro rfl; exact absurd (hw _ hc) (by decide)
        have not_kelvin : c ≠ '\u212a' := by rintro rfl; exact absurd (hw _ hc) (by decide)
        rw [show fold c = _ from if_neg not_long, if_neg not_kelvin]
    rw [← Text.lowerAscii_eq_iff, ← lowers hs, ← lowers ht]
    exact h
  have same : alike "ſtep".toList (text .step).toList := by decide
  have spelled : SpelledBy .step "sTEP" := spelledBy_iff.2 (Text.lowerAscii_eq_iff.1 (by decide))
  obtain ⟨-, -, -, -, core, isCore, -, -, -, folded⟩ := read_tells_keyword "ſtep"
  obtain ⟨-, -, -, -, core', isCore', -, -, outside, -⟩ := read_tells_keyword "s tep"
  obtain ⟨ok, -, order, blanks, -⟩ := read_tells_keyword "sTEP"
  have core_eq : "ſtep" = core := String.toList_inj.1 ((isCore _).1 (Text.isCore_iff.2 (by decide)))
  have core'_eq : "s tep" = core' :=
    String.toList_inj.1 ((isCore' _).1 (Text.isCore_iff.2 (by decide)))
  subst core_eq core'_eq
  refine ⟨folds, same, folded alike folds .step same fun h => ?_, outside ⟨' ', by decide⟩, ?_, ?_⟩
  · exact absurd (Text.lowerAscii_eq_iff.2 h) (by decide)
  · rw [order backwards fun k => by cases k <;> decide, (ok .step).2 spelled]
  · rw [blanks "\t" "\u3000" (List.all_eq_true.1 (by decide)) (List.all_eq_true.1 (by decide)),
      (ok .step).2 spelled]

end Keyword

end Acceptance
