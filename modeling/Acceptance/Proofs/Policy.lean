import Acceptance.Proofs.Records
import Acceptance.Summary

/-!
# The policy for skipped scenarios

Whether skipped scenarios make a run fail may be set for the process, which overrides a variable of
the environment, and what was set may be taken back. What holds at a moment depends on the last
change of the override and on the last change of the variable; asking changes nothing.

* `Settings.Event` is what happens to the settings, `Settings.perform` lets events happen in order.
* `Settings.after_perform` says that the last changes make up the settings.
* `Spells` says that a text is one of some words up to blanks around it and to the case of letters;
  `readFlag?_eq_some_true_iff` and `readFlag?_eq_none_iff` say which texts switch the policy on and
  which are ignored.
* `policy_in_force` is what is answered and logged at any moment.
-/

namespace Acceptance

open AdapterM

/-! ### Words -/

/-- A text is one of some words, with blanks around it and in any case of ASCII letters. -/
def Spells (words : List String) (text : String) : Prop :=
  ∃ left core right, text.toList = left ++ core ++ right ∧ (∀ c ∈ left, Text.isBlank c = true) ∧
    (∀ c ∈ right, Text.isBlank c = true) ∧ String.ofList (Text.lowerAscii core) ∈ words

theorem not_blank_of_lowerAscii {core : List Char}
    (h : ∀ c ∈ Text.lowerAscii core, Text.isBlank c = false) : ∀ c ∈ core, Text.isBlank c = false :=
  fun c hc => Text.isBlank_toLower c ▸ h c.toLower (List.mem_map_of_mem hc)

/-- Words without blanks are looked up after the blanks at the ends are cut. -/
theorem spells_iff {words : List String}
    (hw : ∀ w ∈ words, w.toList.any Text.isBlank = false) {text : String} :
    Spells words text ↔ String.ofList (Text.lowerAscii (Text.trim text.toList)) ∈ words :=
  Text.exists_between_iff (P := fun word => String.ofList (Text.lowerAscii word) ∈ words)
    (fun _ hm => not_blank_of_lowerAscii (by simpa using hw _ hm)) text.toList

/-- The words that switch the policy on. -/
def onWords : List String := ["1", "true", "yes", "on"]

/-- The words that switch the policy off. -/
def offWords : List String := ["0", "false", "no", "off"]

theorem readFlag?_eq (text : String) :
    readFlag? text =
      let word := String.ofList (Text.lowerAscii (Text.trim text.toList))
      if word ∈ onWords then some true else if word ∈ offWords then some false else none := by
  unfold readFlag?
  simp only [List.contains_iff_mem]
  rfl

theorem readFlag?_eq_some_true_iff {text : String} :
    readFlag? text = some true ↔ Spells onWords text := by
  rw [readFlag?_eq, spells_iff (by decide)]
  dsimp only
  split
  · next on => simp only [on]
  · next notOn =>
    split <;> simp [notOn]

theorem readFlag?_eq_none_iff {text : String} :
    readFlag? text = none ↔ ¬Spells onWords text ∧ ¬Spells offWords text := by
  rw [readFlag?_eq, spells_iff (by decide), spells_iff (by decide)]
  dsimp only
  split
  · next on => simp [on]
  · next notOn =>
    split
    · next off => simp [off]
    · next notOff => simp [notOn, notOff]

/-! ### Texts of the variable -/

/-- Bytes are read as a text exactly if they are its UTF-8 form. -/
theorem fromUTF8?_eq_some_iff {bytes : ByteArray} {text : String} :
    String.fromUTF8? bytes = some text ↔ bytes = text.toUTF8 := by
  unfold String.fromUTF8?
  constructor
  · intro h
    split at h
    · cases h
      rfl
    · cases h
  · rintro rfl
    exact dif_pos text.isValidUTF8

/-! ### What happens to the settings -/

namespace Settings

theorem variableText?_eq_some_iff {s : Settings} {text : String} :
    s.variableText? = some text ↔ s.environment = some text.toUTF8 := by
  unfold variableText?
  cases s.environment with
  | none => simp
  | some bytes => simp [fromUTF8?_eq_some_iff]

/-- What happens to the settings. -/
inductive Event where
  | override (b : Bool)
  | clear
  | environment (bytes : Option ByteArray)
  | ask
  | judge (x : Summary)

/-- What is answered. -/
inductive Answer where
  | policy (b : Bool)
  | verdict (v : Except RunFailure Summary)

/-- The override that an event leaves behind, if it changes it. -/
def Event.override? : Event → Option (Option Bool)
  | .override b => some (some b)
  | .clear => some none
  | _ => none

/-- The bytes of the variable that an event leaves behind, if it changes them. -/
def Event.environment? : Event → Option (Option ByteArray)
  | .environment bytes => some bytes
  | _ => none

/-- Whether an event makes the policy known. -/
def Event.asks : Event → Bool
  | .ask | .judge _ => true
  | _ => false

/-- Lets one event happen. -/
def Event.perform : Event → AdapterM Settings (List Answer)
  | .override b => do
    modify (overrideWith b)
    return []
  | .clear => do
    modify clearOverride
    return []
  | .environment bytes => do
    modify (withEnvironment bytes)
    return []
  | .ask => do
    let s ← get
    return [.policy (← s.failOnSkipped)]
  | .judge x => do
    let s ← get
    return [.verdict (← x.verdictUnder s)]

/-- Lets events happen in order. -/
def perform : List Event → AdapterM Settings (List Answer)
  | [] => pure []
  | e :: es => do
    let first ← e.perform
    return first ++ (← perform es)

/-- What the last event that says something about a field leaves behind. -/
def lastOf {α : Type} (change? : Event → Option (Option α)) (es : List Event) : Option α :=
  (es.filterMap change?).getLast?.join

/-- What is ignored: the text of the variable, if nothing overrides it and it spells no word. -/
def Ignores (es : List Event) (text : String) : Prop :=
  lastOf Event.override? es = none ∧ lastOf Event.environment? es = some text.toUTF8 ∧
    ¬Spells onWords text ∧ ¬Spells offWords text

/-! ### One event, and events in order -/

theorem written_get (s : Settings) : written (get : AdapterM Settings Settings) s = [] := rfl

/-- If the cell is that of some value, it is again the cell of a value after an event. -/
theorem override_after (e : Event) {s : Settings} {o : Option Bool}
    (h : s.override = .ofOption o) :
    (after e.perform s).override = .ofOption (e.override?.getD o) := by
  cases e with
  | override b | clear => rfl
  | environment bytes | ask | judge x => exact h

theorem environment_after (e : Event) (s : Settings) :
    (after e.perform s).environment = e.environment?.getD s.environment := by
  cases e <;> rfl

/-- The records of asking are those of looking up the policy. -/
theorem written_event (e : Event) (s : Settings) :
    written e.perform s = if e.asks then s.failOnSkipped.records else [] := by
  cases e with
  | override b => rfl
  | clear => rfl
  | environment bytes => rfl
  | ask =>
    simp only [Event.perform, Event.asks, written_bind, written_lift, written_pure, written_get,
      after_get, answer_get, List.nil_append, List.append_nil, if_true]
  | judge x =>
    simp only [Event.perform, Event.asks, Summary.verdictUnder, written_bind, written_lift,
      written_pure, written_get, after_get, answer_get, Logged.records_bind, Logged.records_pure,
      List.nil_append, List.append_nil, if_true]

theorem after_perform_cons (e : Event) (es : List Event) (s : Settings) :
    after (perform (e :: es)) s = after (perform es) (after e.perform s) := rfl

theorem perform_append (es fs : List Event) (s : Settings) :
    answer (perform (es ++ fs)) s =
        answer (perform es) s ++ answer (perform fs) (after (perform es) s) ∧
      after (perform (es ++ fs)) s = after (perform fs) (after (perform es) s) ∧
      written (perform (es ++ fs)) s =
        written (perform es) s ++ written (perform fs) (after (perform es) s) := by
  induction es generalizing s with
  | nil => exact ⟨rfl, rfl, rfl⟩
  | cons e es ih =>
    obtain ⟨ha, hs, hw⟩ := ih (after e.perform s)
    simp only [List.cons_append, perform, answer_bind, after_bind, written_bind, answer_pure,
      after_pure, written_pure, ha, hs, hw, List.append_assoc, List.append_nil, and_self]

/-- What one more event adds. -/
theorem perform_concat (es : List Event) (e : Event) (s : Settings) :
    answer (perform (es ++ [e])) s =
        answer (perform es) s ++ answer e.perform (after (perform es) s) ∧
      after (perform (es ++ [e])) s = after e.perform (after (perform es) s) ∧
      written (perform (es ++ [e])) s =
        written (perform es) s ++ written e.perform (after (perform es) s) := by
  obtain ⟨ha, hs, hw⟩ := perform_append es [e] s
  simp only [perform, answer_bind, after_bind, written_bind, answer_pure, after_pure, written_pure,
    List.append_nil] at ha hs hw
  exact ⟨ha, hs, hw⟩

/-- The last of the changes that an event and some more make. -/
theorem getLast?_filterMap_cons {α β : Type} (f : α → Option β) (a : α) (as : List α) (b : β) :
    ((a :: as).filterMap f).getLast?.getD b = (as.filterMap f).getLast?.getD ((f a).getD b) := by
  rw [List.filterMap_cons]
  cases f a with
  | none => rfl
  | some c => simp [List.getLast?_cons]

theorem override_after_perform (es : List Event) {s : Settings} {o : Option Bool}
    (h : s.override = .ofOption o) :
    (after (perform es) s).override =
      .ofOption ((es.filterMap Event.override?).getLast?.getD o) := by
  induction es generalizing s o with
  | nil => exact h
  | cons e es ih => rw [getLast?_filterMap_cons, after_perform_cons, ih (override_after e h)]

theorem environment_after_perform (es : List Event) (s : Settings) :
    (after (perform es) s).environment =
      (es.filterMap Event.environment?).getLast?.getD s.environment := by
  induction es generalizing s with
  | nil => rfl
  | cons e es ih =>
    rw [getLast?_filterMap_cons, ← environment_after, ← ih, after_perform_cons]

theorem lastOf_eq {α : Type} (change? : Event → Option (Option α)) (es : List Event) :
    lastOf change? es = (es.filterMap change?).getLast?.getD none := by
  unfold lastOf
  cases (es.filterMap change?).getLast? <;> rfl

/-- The settings are what the last changes made them. -/
theorem after_perform (es : List Event) :
    after (perform es) initial =
      ⟨.ofOption (lastOf Event.override? es), lastOf Event.environment? es⟩ := by
  rw [lastOf_eq, lastOf_eq]
  have unset : initial.override = .ofOption none := rfl
  exact congrArg₂ mk (override_after_perform es unset) (environment_after_perform es initial)

/-! ### The policy at a moment -/

theorem failOnSkipped_of_override {s : Settings} {b : Bool} (h : s.override.value? = some b) :
    s.failOnSkipped = pure b := by
  unfold failOnSkipped
  rw [h]

/-- The warning about a text that is ignored. -/
def ignoredRecord (text : String) : LogRecord :=
  ⟨.warn, s!"ignoring unrecognised STEPBIND_FAIL_ON_SKIPPED value {Text.quoted text}"⟩

/-- Without an override the text of the variable decides. -/
theorem value_failOnSkipped_iff {s : Settings} (h : s.override.value? = none) :
    s.failOnSkipped.value = true ↔
      ∃ text : String, s.environment = some text.toUTF8 ∧ Spells onWords text := by
  unfold failOnSkipped
  simp only [h, ← variableText?_eq_some_iff, ← readFlag?_eq_some_true_iff]
  cases s.variableText? with
  | none => simp
  | some text =>
    simp only [Option.some.injEq, exists_eq_left']
    cases readFlag? text with
    | none => exact iff_of_false Bool.false_ne_true nofun
    | some b => simp

/-- A text that spells no word is ignored, and only such a text. -/
theorem records_failOnSkipped {s : Settings} (h : s.override.value? = none) :
    (∀ text : String, s.environment = some text.toUTF8 → ¬Spells onWords text →
      ¬Spells offWords text → s.failOnSkipped.records = [ignoredRecord text]) ∧
    ((∀ text : String, s.environment = some text.toUTF8 →
      Spells onWords text ∨ Spells offWords text) → s.failOnSkipped.records = []) := by
  unfold failOnSkipped
  simp only [h, ← variableText?_eq_some_iff]
  cases s.variableText? with
  | none => simp
  | some text =>
    simp only [Option.some.injEq, forall_eq']
    cases hr : readFlag? text with
    | none =>
      obtain ⟨notOn, notOff⟩ := readFlag?_eq_none_iff.1 hr
      refine ⟨fun _ _ => rfl, fun h => ?_⟩
      exact absurd h (not_or.2 ⟨notOn, notOff⟩)
    | some b =>
      refine ⟨fun notOn notOff => ?_, fun _ => rfl⟩
      have := readFlag?_eq_none_iff.2 ⟨notOn, notOff⟩
      rw [hr] at this
      cases this

end Settings

open Settings in
/-- **The policy in force.** At any moment the settings are what the last change of the override and
the last change of the variable made them, and the cell of the override is read as what was kept in
it. If the last change of the override set it, the policy is what it was set to. Otherwise it is on
exactly if the variable holds the UTF-8 form of a text that spells one of the words for it. Asking
for the policy and judging a run change nothing, and a run is judged under the policy that asking
would answer. A warning is written whenever one of the two looks at a text that spells no word, and
nothing else is written. -/
theorem policy_in_force (es : List Settings.Event) :
    let now := after (perform es) initial
    now = ⟨.ofOption (lastOf Event.override? es), lastOf Event.environment? es⟩ ∧
    now.override.value? = lastOf Event.override? es ∧
    (∀ b, lastOf Event.override? es = some b → now.failOnSkipped.value = b) ∧
    (lastOf Event.override? es = none → (now.failOnSkipped.value = true ↔
      ∃ text : String, lastOf Event.environment? es = some text.toUTF8 ∧
        Spells ["1", "true", "yes", "on"] text)) ∧
    (∀ text, Ignores es text → now.failOnSkipped.records = [ignoredRecord text]) ∧
    ((∀ text, ¬Ignores es text) → now.failOnSkipped.records = []) ∧
    (∀ e, written (perform (es ++ [e])) initial =
      written (perform es) initial ++ if e.asks then now.failOnSkipped.records else []) ∧
    (after (perform (es ++ [.ask])) initial = now ∧
      answer (perform (es ++ [.ask])) initial =
        answer (perform es) initial ++ [.policy now.failOnSkipped.value]) ∧
    ∀ x : Summary, after (perform (es ++ [.judge x])) initial = now ∧
      answer (perform (es ++ [.judge x])) initial =
        answer (perform es) initial ++ [.verdict (x.verdict now.failOnSkipped.value)] := by
  intro now
  have hnow : now = ⟨.ofOption (lastOf Event.override? es), lastOf Event.environment? es⟩ :=
    after_perform es
  have ho : now.override.value? = lastOf Event.override? es := by
    rw [hnow, Override.value?_ofOption]
  have he : now.environment = lastOf Event.environment? es := congrArg Settings.environment hnow
  refine ⟨hnow, ho, fun b hb => ?_, fun hn => ?_, fun text hi => ?_, fun hi => ?_, fun e => ?_, ?_,
    fun x => ?_⟩
  · rw [failOnSkipped_of_override (ho.trans hb)]
    rfl
  · rw [← he]
    exact value_failOnSkipped_iff (ho.trans hn)
  · obtain ⟨hn, ht, notOn, notOff⟩ := hi
    exact (records_failOnSkipped (ho.trans hn)).1 text (he.trans ht) notOn notOff
  · cases hn : lastOf Event.override? es with
    | some b =>
      rw [failOnSkipped_of_override (ho.trans hn)]
      rfl
    | none =>
      refine (records_failOnSkipped (ho.trans hn)).2 fun text ht => ?_
      by_contra hs
      rw [not_or] at hs
      exact hi text ⟨hn, he.symm.trans ht, hs⟩
  · rw [(perform_concat es e initial).2.2, written_event]
  · obtain ⟨ha, hs, -⟩ := perform_concat es .ask initial
    exact ⟨hs, ha⟩
  · obtain ⟨ha, hs, -⟩ := perform_concat es (.judge x) initial
    exact ⟨hs, ha⟩

open Settings in
/-- The variable changes while the override is set, and decides once the override is cleared. -/
theorem policy_of_variable_after_clear :
    let es : List Settings.Event :=
      [.override false, .environment (some " Yes\n".toUTF8), .ask, .clear]
    lastOf Event.override? es = none ∧ Spells ["1", "true", "yes", "on"] " Yes\n" ∧
      (after (perform es) initial).failOnSkipped.value = true := by
  intro es
  have spelled : Spells ["1", "true", "yes", "on"] " Yes\n" :=
    (spells_iff (by decide)).2 (by decide)
  refine ⟨rfl, spelled, ?_⟩
  exact ((policy_in_force es).2.2.2.1 rfl).2 ⟨_, rfl, spelled⟩

end Acceptance
