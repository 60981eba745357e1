import Acceptance.Proofs.Resolution
import Mathlib.Data.List.Induction
import Mathlib.Data.List.Nodup

/-!
# Definitions with the same matcher

The search for duplicates passes over the definitions once and remembers which group belongs to a
matcher. What it finds is said without any memory: for each matcher, where it first comes, all
definitions that have it.

* `Matcher.SameAs` compares two matchers by what is written; `Matcher.sameAs_iff`: this is equality.
* `classesOf` are the definitions in classes, `Grouping.Tracks` is what one pass keeps true, and
  `duplicates_eq` is what the pass finds.
* `duplicates_are_classes` says which groups there are, in which order, and that every text that a
  member of a group accepts is ambiguous.
-/

namespace Acceptance

variable {σ : Type}

/-! ### Equal matchers -/

/-- Two matchers are of one kind and have one source. -/
def Matcher.SameAs (m n : Matcher) : Prop := m.isPattern = n.isPattern ∧ m.source = n.source

instance (m n : Matcher) : Decidable (m.SameAs n) :=
  inferInstanceAs (Decidable (m.isPattern = n.isPattern ∧ m.source = n.source))

/-- What is written determines a matcher, whatever a pattern was compiled to. -/
theorem Matcher.sameAs_iff {m n : Matcher} : m.SameAs n ↔ m = n := by
  constructor
  · rintro ⟨kind, source⟩
    cases m with
    | literal t =>
      cases n with
      | literal u => exact congrArg _ source
      | pattern q => cases kind
    | pattern p =>
      cases n with
      | literal u => cases kind
      | pattern q => exact congrArg _ (StepPattern.ext_source source)
  · rintro rfl
    exact ⟨rfl, rfl⟩

/-! ### Classes -/

variable {xs : List (Registration σ)} {x : Registration σ} {m : Matcher}

/-- The definitions with a matcher. -/
def withMatcher (m : Matcher) (xs : List (Registration σ)) : List (Registration σ) :=
  xs.filter fun x => x.matcher.SameAs m

/-- The matchers of some definitions, each one where it first comes. -/
def matchersOf (xs : List (Registration σ)) : List Matcher :=
  (xs.map Registration.matcher).eraseDups

/-- Definitions in classes: for each matcher all definitions that have it. -/
def classesOf (xs : List (Registration σ)) : List (List (Registration σ)) :=
  (matchersOf xs).map fun m => withMatcher m xs

theorem mem_withMatcher {y : Registration σ} : y ∈ withMatcher m xs ↔ y ∈ xs ∧ y.matcher = m := by
  simp [withMatcher, Matcher.sameAs_iff]

theorem withMatcher_concat (m : Matcher) (xs : List (Registration σ)) (x : Registration σ) :
    withMatcher m (xs ++ [x]) = withMatcher m xs ++ if x.matcher = m then [x] else [] := by
  rw [withMatcher, List.filter_append, List.filter_singleton, withMatcher]
  simp [Matcher.sameAs_iff]

theorem mem_matchersOf : m ∈ matchersOf xs ↔ ∃ x ∈ xs, x.matcher = m := by
  rw [matchersOf, List.mem_eraseDups, List.mem_map]

theorem matchersOf_concat_of_mem (h : x.matcher ∈ matchersOf xs) :
    matchersOf (xs ++ [x]) = matchersOf xs := by
  rw [matchersOf, List.mem_eraseDups] at h
  have known : [x.matcher].removeAll (xs.map Registration.matcher) = [] :=
    List.filter_cons_of_neg (by simpa using h)
  rw [matchersOf, List.map_append, List.eraseDups_append, List.map_singleton, known,
    List.eraseDups_nil, List.append_nil, matchersOf]

theorem matchersOf_concat_of_not_mem (h : x.matcher ∉ matchersOf xs) :
    matchersOf (xs ++ [x]) = matchersOf xs ++ [x.matcher] := by
  rw [matchersOf, List.mem_eraseDups] at h
  have new : [x.matcher].removeAll (xs.map Registration.matcher) = [x.matcher] :=
    List.filter_cons_of_pos (by simpa using h)
  rw [matchersOf, List.map_append, List.eraseDups_append, List.map_singleton, new, matchersOf]
  rfl

theorem nodup_matchersOf (xs : List (Registration σ)) : (matchersOf xs).Nodup := by
  induction xs using List.reverseRecOn with
  | nil => exact List.nodup_nil
  | append_singleton xs x ih =>
    by_cases h : x.matcher ∈ matchersOf xs
    · rwa [matchersOf_concat_of_mem h]
    · rw [matchersOf_concat_of_not_mem h, ← List.concat_eq_append]
      exact ih.concat h

/-- A new matcher stands behind all others. -/
theorem idxOf?_concat {a : Matcher} {l : List Matcher} (h : a ∉ l) (m : Matcher) :
    (l ++ [a]).idxOf? m = if m = a then some l.length else l.idxOf? m := by
  rw [List.idxOf?, List.findIdx?_append]
  split
  · next e =>
    subst e
    have none : l.findIdx? (· == m) = none := List.idxOf?_eq_none_iff.2 h
    simp [none]
  · next ne => simp [Ne.symm ne]

/-- One more definition belongs to the class of its matcher. -/
theorem modify_classesOf {i : Nat} (h : (matchersOf xs).idxOf? x.matcher = some i) :
    (classesOf xs).modify i (· ++ [x]) = classesOf (xs ++ [x]) := by
  obtain ⟨hi, hat, -⟩ := List.idxOf?_eq_some_iff.1 h
  have known : x.matcher ∈ matchersOf xs := hat ▸ List.getElem_mem hi
  rw [classesOf, classesOf, matchersOf_concat_of_mem known]
  refine List.ext_getElem (by simp) fun j hj _ => ?_
  have hj' : j < (matchersOf xs).length := by simpa using hj
  have place : x.matcher = (matchersOf xs)[j] ↔ i = j := by
    rw [← hat, (nodup_matchersOf xs).getElem_inj_iff]
  rw [List.getElem_modify, List.getElem_map, List.getElem_map, withMatcher_concat]
  by_cases hij : i = j
  · rw [if_pos hij, if_pos (place.2 hij)]
  · rw [if_neg hij, if_neg (mt place.1 hij), List.append_nil]

/-- A definition with a new matcher makes a new class. -/
theorem classesOf_concat_of_not_mem (h : x.matcher ∉ matchersOf xs) :
    classesOf (xs ++ [x]) = classesOf xs ++ [[x]] := by
  have others : ∀ m ∈ matchersOf xs, withMatcher m (xs ++ [x]) = withMatcher m xs := fun m hm => by
    rw [withMatcher_concat, if_neg (ne_of_mem_of_not_mem hm h).symm, List.append_nil]
  have fresh : withMatcher x.matcher xs = [] :=
    List.eq_nil_iff_forall_not_mem.2 fun y hy =>
      h (mem_matchersOf.2 ⟨y, mem_withMatcher.1 hy⟩)
  rw [classesOf, matchersOf_concat_of_not_mem h, List.map_append, List.map_congr_left others,
    List.map_singleton, withMatcher_concat, fresh, if_pos rfl, List.nil_append, classesOf]

/-! ### One pass -/

namespace Grouping

/-- What is remembered of some definitions: their classes, and where to find that of a matcher. -/
structure Tracks (xs : List (Registration σ)) (g : Grouping σ) : Prop where
  groups_eq : g.groups = classesOf xs
  lookup_eq : ∀ m, g.slots.lookup m = (matchersOf xs).idxOf? m

theorem tracks_empty : Tracks [] (empty : Grouping σ) := ⟨rfl, fun _ => rfl⟩

theorem Tracks.add {g : Grouping σ} (h : g.Tracks xs) (x : Registration σ) :
    (g.add x).Tracks (xs ++ [x]) := by
  obtain ⟨groups, lookup⟩ := h
  have found := lookup x.matcher
  unfold Grouping.add
  by_cases known : x.matcher ∈ matchersOf xs
  · -- a class grows, and all classes keep their places
    obtain ⟨i, hi⟩ : ∃ i, (matchersOf xs).idxOf? x.matcher = some i :=
      Option.ne_none_iff_exists'.1 fun hn => List.idxOf?_eq_none_iff.1 hn known
    rw [found, hi]
    exact ⟨groups ▸ modify_classesOf hi, fun m => matchersOf_concat_of_mem known ▸ lookup m⟩
  · -- a class comes last, so that its place is the number of classes before
    rw [found, List.idxOf?_eq_none_iff.2 known]
    refine ⟨groups ▸ (classesOf_concat_of_not_mem known).symm, fun m => ?_⟩
    rw [matchersOf_concat_of_not_mem known, idxOf?_concat known, List.lookup_cons, lookup, groups,
      classesOf, List.length_map]
    by_cases hm : m = x.matcher
    · rw [if_pos hm, hm, beq_self_eq_true]
    · rw [if_neg hm, beq_false_of_ne hm]

theorem Tracks.foldl {g : Grouping σ} (h : g.Tracks xs) (ys : List (Registration σ)) :
    (ys.foldl (fun g x => g.add x) g).Tracks (xs ++ ys) := by
  induction ys generalizing xs g with
  | nil => rwa [List.append_nil]
  | cons y ys ih =>
    rw [List.append_cons]
    exact ih (h.add y)

end Grouping

/-! ### Groups -/

theorem mem_classesOf {g : List (Registration σ)} :
    g ∈ classesOf xs ↔ ∃ x ∈ xs, g = withMatcher x.matcher xs := by
  simp only [classesOf, List.mem_map, mem_matchersOf]
  constructor
  · rintro ⟨m, ⟨x, hx, rfl⟩, rfl⟩
    exact ⟨x, hx, rfl⟩
  · rintro ⟨x, hx, rfl⟩
    exact ⟨_, ⟨x, hx, rfl⟩, rfl⟩

theorem pairwise_classesOf (xs : List (Registration σ)) :
    (classesOf xs).Pairwise fun g h => ∀ x ∈ g, ∀ y ∈ h, ¬x.matcher.SameAs y.matcher := by
  refine List.pairwise_map.2 ((nodup_matchersOf xs).imp fun apart x hx y hy same => apart ?_)
  rw [← (mem_withMatcher.1 hx).2, ← (mem_withMatcher.1 hy).2]
  exact Matcher.sameAs_iff.1 same

theorem head?_withMatcher_concat (h : m ∈ matchersOf xs) (x : Registration σ) :
    (withMatcher m (xs ++ [x])).head? = (withMatcher m xs).head? := by
  obtain ⟨y, hy, rfl⟩ := mem_matchersOf.1 h
  rw [withMatcher_concat,
    List.head?_append_of_ne_nil _ (List.ne_nil_of_mem (mem_withMatcher.2 ⟨hy, rfl⟩))]

/-- The first members of the classes are in the order of the definitions. -/
theorem heads_classesOf (xs : List (Registration σ)) :
    ((classesOf xs).filterMap List.head?).Sublist xs := by
  have heads (ys : List (Registration σ)) : (classesOf ys).filterMap List.head? =
      (matchersOf ys).filterMap fun m => (withMatcher m ys).head? := List.filterMap_map
  induction xs using List.reverseRecOn with
  | nil => exact List.Sublist.refl []
  | append_singleton xs x ih =>
    by_cases known : x.matcher ∈ matchersOf xs
    · rw [heads, matchersOf_concat_of_mem known,
        List.filterMap_congr fun m hm => head?_withMatcher_concat hm x, ← heads]
      exact ih.trans (List.sublist_append_left xs [x])
    · rw [classesOf_concat_of_not_mem known, List.filterMap_append]
      exact ih.append (List.Sublist.refl [x])

namespace Registry

/-- The pass finds the classes with at least two members. -/
theorem duplicates_eq (r : Registry σ) :
    r.duplicates = (classesOf r.registrations).filter fun g => 1 < g.length := by
  rw [duplicates, (Grouping.tracks_empty.foldl r.registrations).groups_eq, List.nil_append]

theorem mem_duplicates {r : Registry σ} {g : List (Registration σ)} :
    g ∈ r.duplicates ↔
      1 < g.length ∧ ∃ x ∈ r.registrations, g = withMatcher x.matcher r.registrations := by
  rw [duplicates_eq, List.mem_filter, mem_classesOf, decide_eq_true_eq, and_comm]

/-- Among the definitions that accept a text is each group of which a member accepts it. -/
theorem sublist_matching {r : Registry σ} {g : List (Registration σ)} (hg : g ∈ r.duplicates)
    {x : Registration σ} (hx : x ∈ g) {text : String} (h : x.matcher.accepts text = true) :
    g.Sublist (r.matching text) := by
  obtain ⟨-, y, -, rfl⟩ := mem_duplicates.1 hg
  rw [← (mem_withMatcher.1 hx).2, withMatcher, matching]
  refine List.monotone_filter_right _ fun z hz => ?_
  rwa [Matcher.sameAs_iff.1 (of_decide_eq_true hz)]

theorem resolveStep_of_two {r : Registry σ} {st : Step} (h : 1 < (r.matching st.text).length) :
    r.resolveStep st = .unresolved .ambiguous (r.matching st.text) := by
  unfold resolveStep
  match r.matching st.text, h with
  | [], h => exact absurd h (Nat.not_lt_zero 1)
  | [x], h => exact absurd h (Nat.lt_irrefl 1)
  | x :: y :: rest, _ => rfl

end Registry

/-- **What the search for duplicates finds.** The groups are the classes of definitions with the
same matcher, as far as they have at least two members. Each group holds all definitions with the
kind and the source of its members, in their order; each definition that shares its matcher is in a
group, no two groups have a matcher in common, and the groups are in the order of their first
members. The members of a group accept the same texts, and a step that they accept is ambiguous: all
of them are among the definitions that are found. -/
theorem duplicates_are_classes (r : Registry σ) :
    r.duplicates = ((classesOf r.registrations).filter fun g => 1 < g.length) ∧
    (∀ g ∈ r.duplicates, 1 < g.length ∧ ∀ x ∈ g,
      g = r.registrations.filter fun y => y.matcher.SameAs x.matcher) ∧
    (∀ x ∈ r.registrations, (1 < r.registrations.countP fun y => y.matcher.SameAs x.matcher) →
      ∃ g ∈ r.duplicates, x ∈ g) ∧
    (r.duplicates.Pairwise fun g h => ∀ x ∈ g, ∀ y ∈ h, ¬x.matcher.SameAs y.matcher) ∧
    (r.duplicates.filterMap List.head?).Sublist r.registrations ∧
    ∀ g ∈ r.duplicates, ∀ x ∈ g,
      (∀ y ∈ g, ∀ text, y.matcher.accepts text = x.matcher.accepts text) ∧
      ∀ st : Step, x.matcher.accepts st.text = true →
        r.resolveStep st = .unresolved .ambiguous (r.matching st.text) ∧
          g.Sublist (r.matching st.text) := by
  have group {g : List (Registration σ)} (hg : g ∈ r.duplicates) {x : Registration σ} (hx : x ∈ g) :
      g = withMatcher x.matcher r.registrations := by
    obtain ⟨-, y, -, rfl⟩ := Registry.mem_duplicates.1 hg
    rw [(mem_withMatcher.1 hx).2]
  refine ⟨r.duplicates_eq, fun g hg => ⟨(Registry.mem_duplicates.1 hg).1, fun x hx => group hg hx⟩,
    fun x hx shared => ?_, ?_, ?_, fun g hg x hx => ⟨fun y hy text => ?_, fun st hst => ?_⟩⟩
  · rw [List.countP_eq_length_filter] at shared
    exact ⟨_, Registry.mem_duplicates.2 ⟨shared, x, hx, rfl⟩, mem_withMatcher.2 ⟨hx, rfl⟩⟩
  · rw [r.duplicates_eq]
    exact (pairwise_classesOf _).filter _
  · rw [r.duplicates_eq]
    exact (List.filter_sublist.filterMap _).trans (heads_classesOf _)
  · rw [group hg hx] at hy
    rw [(mem_withMatcher.1 hy).2]
  · have found := Registry.sublist_matching hg hx hst
    have two := Nat.lt_of_lt_of_le (Registry.mem_duplicates.1 hg).1 found.length_le
    exact ⟨Registry.resolveStep_of_two two, found⟩

end Acceptance
