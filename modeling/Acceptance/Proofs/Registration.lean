import Acceptance.Proofs.Binding

/-!
# Registering modules

The definitions of modules are registered one after the other until the first bad pattern. If there
is none, the registry holds the definitions that are not pending, in order, each under its position;
otherwise the answer is the refusal of that pattern, and no adapter gets to see anything.

* An `Entry` is what a definition is registered with. `Registry.addAll` adds entries at the end, and
  `registrations_addAll` says under which positions.
* `Definition.fault?` and `Definition.registered?` are what a definition has wrong and what it
  registers; `value_run` and `value_ofModules` say that running definitions comes down to these two.
* `ofModules_eq_ok_iff` and `ofModules_eq_error_iff` say when modules can be registered, and what
  comes of it.
-/

namespace Acceptance

open AdapterM

variable {σ S : Type}

/-! ### Entries -/

/-- What a definition is registered with. -/
structure Entry (σ : Type) where
  keyword : Keyword
  matcher : Matcher
  handler : Handler σ

/-- The registered definition of an entry. -/
def Entry.registration (e : Entry σ) (id : Nat) : Registration σ :=
  ⟨id, e.keyword, e.matcher, e.handler⟩

/-- What a definition was registered with. -/
def Registration.entry (x : Registration σ) : Entry σ := ⟨x.keyword, x.matcher, x.handler⟩

namespace Registry

/-- The registry with more definitions. -/
def addAll (es : List (Entry σ)) (r : Registry σ) : Registry σ :=
  es.foldl (fun r e => r.add e.keyword e.matcher e.handler) r

/-- Registers definitions in order. -/
def registerAll (es : List (Entry σ)) (r : Registry σ) : Logged (Registry σ) :=
  es.foldlM (fun r e => r.register e.keyword e.matcher e.handler) r

@[simp] theorem addAll_nil (r : Registry σ) : r.addAll [] = r := rfl

theorem addAll_append (es es' : List (Entry σ)) (r : Registry σ) :
    r.addAll (es ++ es') = (r.addAll es).addAll es' := List.foldl_append

theorem value_registerAll (es : List (Entry σ)) (r : Registry σ) :
    (r.registerAll es).value = r.addAll es := by
  induction es generalizing r with
  | nil => rfl
  | cons e es ih =>
    rw [registerAll, List.foldlM_cons, Logged.value_bind, value_register]
    exact ih _

/-- Definitions are added at the end, each under the position at which it stands. -/
theorem registrations_addAll (es : List (Entry σ)) (r : Registry σ) :
    (r.addAll es).registrations =
      r.registrations ++ es.mapIdx fun i e => e.registration (r.size + i) := by
  induction es generalizing r with
  | nil => simp
  | cons e es ih =>
    have hi : ∀ i, r.size + 1 + i = r.size + (i + 1) := fun i => by omega
    rw [addAll, List.foldl_cons, ← addAll, ih, registrations_add, size_add, List.mapIdx_cons]
    simp only [hi, List.append_assoc, List.singleton_append]
    rfl

theorem registrations_addAll_empty (es : List (Entry σ)) :
    (empty.addAll es).registrations = es.mapIdx fun i e => e.registration i := by
  rw [registrations_addAll, registrations_empty, List.nil_append]
  simp [size]

theorem map_entry_addAll (es : List (Entry σ)) (r : Registry σ) :
    (r.addAll es).registrations.map Registration.entry =
      r.registrations.map Registration.entry ++ es := by
  induction es generalizing r with
  | nil => simp
  | cons e es ih =>
    rw [addAll, List.foldl_cons, ← addAll, ih, registrations_add, List.map_append,
      List.append_assoc]
    rfl

theorem map_entry_addAll_empty (es : List (Entry σ)) :
    (empty.addAll es).registrations.map Registration.entry = es := by
  rw [map_entry_addAll, registrations_empty, List.map_nil, List.nil_append]

end Registry

/-! ### Definitions -/

/-- A text is always valid, a pattern if it compiles. -/
def MatcherSource.IsValid : MatcherSource → Prop
  | .literal _ => True
  | .pattern s => ∃ p, StepPattern.read s = .ok p

namespace Definition

/-- Whether a definition has yet to be written. -/
def isPending : Definition σ → Bool
  | .define _ _ _ => false
  | .pending _ => true

/-- The refusal of a bad pattern. -/
def fault? (d : Definition σ) : Option MatcherError :=
  match d.matcher.compile with
  | .error e => some e
  | .ok _ => none

/-- What a definition registers. -/
def registered? : Definition σ → Option (Entry σ)
  | .define k src h => src.compile.toOption.map fun m => ⟨k, m, h⟩
  | .pending _ => none

/-- A definition with a keyword and a handler is registered with them and its compiled matcher. -/
inductive Registers : Definition σ → Entry σ → Prop
  | define {e : Entry σ} {src : MatcherSource} (h : src.compile = .ok e.matcher) :
    Registers (.define e.keyword src e.handler) e

theorem fault?_eq_some_iff {d : Definition σ} {e : MatcherError} :
    d.fault? = some e ↔ d.matcher = .pattern e.source ∧ StepPattern.read e.source = .error e := by
  rw [← MatcherSource.compile_eq_error_iff]
  unfold fault?
  cases d.matcher.compile with
  | error e' => simp
  | ok m => simp

theorem fault?_eq_none_iff {d : Definition σ} : d.fault? = none ↔ d.matcher.IsValid := by
  unfold fault?
  cases d.matcher with
  | literal t => exact iff_of_true rfl trivial
  | pattern s =>
    rw [MatcherSource.compile, MatcherSource.IsValid]
    cases StepPattern.read s with
    | error e => simp [Except.map]
    | ok p => simp [Except.map]

/-- One definition adds its entry, if it has one, or is refused. -/
theorem value_run (d : Definition σ) (r : Registry σ) :
    (d.run r).value = d.fault?.elim (.ok (r.addAll d.registered?.toList)) .error := by
  cases d with
  | define k src h =>
    simp only [run, fault?, registered?, matcher]
    cases src.compile with
    | error e => rfl
    | ok m => rfl
  | pending src =>
    simp only [run, fault?, registered?, matcher]
    cases src.compile with
    | error e => rfl
    | ok m => rfl

theorem exists_registers {d : Definition σ} (hv : d.fault? = none) (hp : d.isPending = false) :
    ∃ e, d.registered? = some e ∧ d.Registers e := by
  cases d with
  | pending src => cases hp
  | define k src h =>
    simp only [fault?, matcher] at hv
    simp only [registered?]
    cases hc : src.compile with
    | error e =>
      rw [hc] at hv
      cases hv
    | ok m => exact ⟨⟨k, m, h⟩, rfl, .define (e := ⟨k, m, h⟩) hc⟩

theorem registered?_of_isPending {d : Definition σ} (h : d.isPending = true) :
    d.registered? = none := by
  cases d with
  | define k src h' => cases h
  | pending src => rfl

/-- Definitions without bad patterns register an entry each, but for the pending ones. -/
theorem forall₂_registers {ds : List (Definition σ)} (h : ∀ d ∈ ds, d.fault? = none) :
    List.Forall₂ Registers (ds.filter fun d => !d.isPending) (ds.filterMap registered?) := by
  induction ds with
  | nil => exact .nil
  | cons d ds ih =>
    have hds := ih fun d' hd' => h d' (List.mem_cons_of_mem d hd')
    cases hp : d.isPending with
    | true =>
      rw [List.filter_cons_of_neg (by simp [hp]),
        List.filterMap_cons_none (registered?_of_isPending hp)]
      exact hds
    | false =>
      obtain ⟨e, he, hr⟩ := exists_registers (h d List.mem_cons_self) hp
      rw [List.filter_cons_of_pos (by simp [hp]), List.filterMap_cons_some he]
      exact .cons hr hds

end Definition

/-! ### Modules -/

namespace Registry

/-- Definitions add their entries, or the first bad pattern is refused. -/
theorem value_run (ds : List (Definition σ)) (r : Registry σ) :
    (run ds r).value = (ds.findSome? Definition.fault?).elim
      (.ok (r.addAll (ds.filterMap Definition.registered?))) .error := by
  -- what the definitions before have registered is the registry that the others start from
  induction ds generalizing r with
  | nil => rfl
  | cons d ds ih =>
    unfold run
    rw [Logged.value_bind, Definition.value_run]
    cases hf : d.fault? with
    | some e =>
      rw [List.findSome?_cons, hf]
      rfl
    | none =>
      rw [List.findSome?_cons, hf, Option.elim_none]
      simp only [ih, ← addAll_append]
      cases he : d.registered? with
      | none => rw [List.filterMap_cons_none he]; rfl
      | some e => rw [List.filterMap_cons_some he]; rfl

theorem value_ofModules (ms : List (Module σ)) :
    (ofModules ms).value = (ms.flatten.findSome? Definition.fault?).elim
      (.ok (empty.addAll (ms.flatten.filterMap Definition.registered?))) .error := by
  unfold ofModules
  rw [Logged.value_bind, value_run]
  cases ms.flatten.findSome? Definition.fault? with
  | some e => rfl
  | none => rfl

theorem ofModules_eq_ok_iff {ms : List (Module σ)} {r : Registry σ} :
    (ofModules ms).value = .ok r ↔
      (∀ d ∈ ms.flatten, d.fault? = none) ∧
        r = empty.addAll (ms.flatten.filterMap Definition.registered?) := by
  rw [value_ofModules, ← List.findSome?_eq_none_iff]
  cases ms.flatten.findSome? Definition.fault? with
  | some e => exact iff_of_false nofun nofun
  | none =>
    constructor
    · intro h
      exact ⟨rfl, (Except.ok.inj h).symm⟩
    · rintro ⟨-, rfl⟩
      rfl

theorem ofModules_eq_error_iff {ms : List (Module σ)} {e : MatcherError} :
    (ofModules ms).value = .error e ↔
      ∃ before d after, ms.flatten = before ++ d :: after ∧ d.fault? = some e ∧
        ∀ b ∈ before, b.fault? = none := by
  rw [value_ofModules, ← List.findSome?_eq_some_iff]
  cases ms.flatten.findSome? Definition.fault? with
  | none => exact iff_of_false nofun nofun
  | some e' =>
    constructor
    · intro h
      exact congrArg some (Except.error.inj h)
    · intro h
      exact congrArg Except.error (Option.some.inj h)

/-- The definitions of a registry of modules stand at the positions that identify them. -/
theorem id_of_ofModules {ms : List (Module σ)} {r : Registry σ} (h : (ofModules ms).value = .ok r)
    {i : Nat} {x : Registration σ} (hx : r.registrations[i]? = some x) : x.id = i := by
  obtain ⟨-, rfl⟩ := ofModules_eq_ok_iff.1 h
  rw [registrations_addAll_empty, List.getElem?_mapIdx] at hx
  obtain ⟨e, -, rfl⟩ := Option.map_eq_some_iff.1 hx
  rfl

/-- Modules register the same without their pending definitions. -/
theorem ofModules_without_pending {ms : List (Module σ)} {r : Registry σ}
    (h : (ofModules ms).value = .ok r) :
    (ofModules (ms.map fun m => m.filter fun d => !d.isPending)).value = .ok r := by
  obtain ⟨hv, rfl⟩ := ofModules_eq_ok_iff.1 h
  rw [ofModules_eq_ok_iff, ← List.filter_flatten]
  refine ⟨fun d hd => hv d (List.mem_filter.1 hd).1, ?_⟩
  rw [List.filterMap_filter]
  congr 1
  refine List.filterMap_congr fun d _ => ?_
  cases hp : d.isPending with
  | false => rfl
  | true => exact Definition.registered?_of_isPending hp

end Registry

/-- **Modules are registered as a whole or not at all.** They are registered exactly if no
definition, written or pending, has a bad pattern. The registry then holds the definitions that are
not pending, one after the other, each under the position at which it is found; pending definitions
make no difference. Otherwise the first bad pattern is refused, whatever comes after it, and the
features do not get to any adapter. -/
theorem ofModules_registers_all_or_none (ms : List (Module σ)) :
    ((∃ r, (Registry.ofModules ms).value = .ok r) ↔ ∀ m ∈ ms, ∀ d ∈ m, d.matcher.IsValid) ∧
    (∀ r, (Registry.ofModules ms).value = .ok r →
      List.Forall₂ (fun d x => d.Registers x.entry) (ms.flatten.filter fun d => !d.isPending)
        r.registrations ∧
      (∀ i x, r.registrations[i]? = some x → x.id = i ∧ r.get? i = some x) ∧
      (∀ i, r.size ≤ i → r.get? i = none) ∧
      (Registry.ofModules (ms.map fun m => m.filter fun d => !d.isPending)).value = .ok r) ∧
    (∀ e, (Registry.ofModules ms).value = .error e ↔
      ∃ before d after, ms.flatten = before ++ d :: after ∧ (∀ b ∈ before, b.matcher.IsValid) ∧
        d.matcher = .pattern e.source ∧ StepPattern.read e.source = .error e) ∧
    ∀ e, (Registry.ofModules ms).value = .error e →
      ∀ (S : Type) (fs : List Feature) (a : Adapter σ S) (s : S),
        answer (bindModules fs ms a) s = .error (.definition e) ∧
        after (bindModules fs ms a) s = s := by
  refine ⟨?_, fun r h => ⟨?_, ?_, ?_, Registry.ofModules_without_pending h⟩, fun e => ?_, ?_⟩
  · simp only [Registry.ofModules_eq_ok_iff, exists_and_left, exists_eq, and_true,
      Definition.fault?_eq_none_iff, List.mem_flatten]
    constructor
    · intro h m hm d hd
      exact h d ⟨m, hm, hd⟩
    · rintro h d ⟨m, hm, hd⟩
      exact h m hm d hd
  · obtain ⟨hv, rfl⟩ := Registry.ofModules_eq_ok_iff.1 h
    have hr := Definition.forall₂_registers hv
    rw [← Registry.map_entry_addAll_empty (ms.flatten.filterMap Definition.registered?),
      List.forall₂_map_right_iff] at hr
    exact hr
  · exact fun i x hx => ⟨Registry.id_of_ofModules h hx, hx⟩
  · exact fun i hi => List.getElem?_eq_none hi
  · rw [Registry.ofModules_eq_error_iff]
    simp only [Definition.fault?_eq_some_iff, Definition.fault?_eq_none_iff]
    constructor
    · rintro ⟨before, d, after, hms, hd, hb⟩
      exact ⟨before, d, after, hms, hb, hd⟩
    · rintro ⟨before, d, after, hms, hb, hd⟩
      exact ⟨before, d, after, hms, hd, hb⟩
  · exact fun e h S fs a s =>
      ⟨answer_bindModules_of_error h fs a s, after_bindModules_of_error h fs a s⟩

/-- A bad pattern of a pending definition is refused before another one gets its turn. Without the
two, the same text is registered under two positions. -/
theorem ofModules_refuses_pending_pattern :
    let users : Module Unit := [.define .given (.literal "a user") (.always "first" .done),
      .pending (.literal "nobody"), .define .when (.literal "a user") (.always "second" .done)]
    let bad : Module Unit := [.pending (.pattern "("),
      .define .then_ (.pattern "*") (.always "third" .done)]
    (∀ (fs : List Feature) (a : Adapter Unit Nat) (n : Nat),
      answer (bindModules fs [users, bad] a) n = .error (.definition ⟨"(", .unreadable⟩) ∧
      after (bindModules fs [users, bad] a) n = n) ∧
    ∃ r, (Registry.ofModules [users]).value = .ok r ∧ r.size = 2 ∧ r.get? 2 = none ∧
      ∃ x, r.registrations[1]? = some x ∧ x.id = 1 := by
  intro users bad
  obtain ⟨-, -, refused, untouched⟩ := ofModules_registers_all_or_none [users, bad]
  obtain ⟨-, registered, -⟩ := ofModules_registers_all_or_none [users]
  have valid : ∀ d ∈ users, d.matcher.IsValid := by simp [users, Definition.matcher,
    MatcherSource.IsValid]
  have first : (Registry.ofModules [users, bad]).value = .error ⟨"(", .unreadable⟩ :=
    (refused _).2 ⟨users, .pending (.pattern "("), _, rfl, valid, rfl,
      StepPattern.read_eq_error_iff.2 ⟨rfl, rfl⟩⟩
  refine ⟨fun fs a n => untouched _ first Nat fs a n, _, rfl, rfl, ?_, _, rfl, ?_⟩
  · exact (registered _ rfl).2.2.1 2 (by decide)
  · exact ((registered _ rfl).2.1 1 _ rfl).1

end Acceptance
