import Acceptance.Proofs.Binding
import Mathlib.Computability.Language

/-!
# The calls of a run

A run is a dialogue. Binding hands over a feature, the adapter runs the program of the feature as
often as it likes, each time the scenarios are handed over, the adapter runs the program of each as
often as it likes, and each time the steps are handed over.

* A `Strategy` is an adapter that decides from its state, after each call, whether it runs the
  program at hand once more. `Strategy.events` is all that can be seen of a run with it.
* `Registry.runEvents` is the language of the runs: what binding says is fixed, and only how often
  it is asked is open.
* `writes_handOver` and `canWrite_handOver` say that strategies show words of this language and all
  of them.
-/

namespace Acceptance

open AdapterM
open scoped Computability

variable {σ S P : Type}

/-! ### What can be seen -/

/-- What passes between binding and an adapter: features, scenarios and steps that are handed over,
and runs of the programs of a feature or of a scenario. -/
inductive Event (σ : Type) where
  | feature (f : Feature)
  | scenarios
  | test (title : String)
  | steps
  | step (m : Matcher) (h : Handler σ)

/-- The state of an adapter with all that was seen so far. -/
structure Seen (σ S : Type) where
  state : S
  events : List (Event σ)

/-- Shows an event. -/
def AdapterM.emit (e : Event σ) : AdapterM (Seen σ S) Unit :=
  modify fun w => { w with events := w.events ++ [e] }

/-- Changes the state of an adapter, which cannot be seen. -/
def AdapterM.become (g : S → S) : AdapterM (Seen σ S) Unit :=
  modify fun w => { w with state := g w.state }

/-! ### Strategies -/

/-- What an adapter does while it holds a program: it stops, or it runs the program on a partner and
goes on as the state that is left tells it. -/
inductive Turns (P S : Type) where
  | stop (s : S)
  | run (p : P) (s : S) (next : S → Turns P S)

/-- Takes the turns, where a partner is run by `perform` and each run is shown as `mark`. -/
def Turns.play (mark : Event σ) (perform : P → AdapterM (Seen σ S) Unit) :
    Turns P S → AdapterM (Seen σ S) Unit
  | .stop s => become fun _ => s
  | .run p s next => do
    become fun _ => s
    emit mark
    perform p
    (next (← get).state).play mark perform

/-- Takes a step by a change of the state. -/
abbrev StepTaker (σ S : Type) := Matcher → Handler σ → S → S

/-- Takes a scenario by turns. -/
abbrev ScenarioTaker (σ S : Type) := String → S → Turns (StepTaker σ S) S

/-- An adapter whose choices depend on its state alone: it takes a feature by turns. -/
def Strategy (σ S : Type) := Feature → S → Turns (ScenarioTaker σ S) S

/-- A taker of steps that shows what it is handed. -/
def StepTaker.binder (b : StepTaker σ S) : StepBinder σ (Seen σ S) :=
  ⟨fun m h => do
    emit (.step m h)
    become (b m h)⟩

/-- A taker of scenarios that shows what it is handed. -/
def ScenarioTaker.registrar (t : ScenarioTaker σ S) : ScenarioRegistrar σ (Seen σ S) :=
  ⟨fun title body => do
    emit (.test title)
    (t title (← get).state).play .steps fun b => body b.binder⟩

/-- The adapter of a strategy; it shows what it is handed and what it runs. -/
def Strategy.adapter (d : Strategy σ S) : Adapter σ (Seen σ S) :=
  ⟨fun f tests => do
    emit (.feature f)
    (d f (← get).state).play .scenarios fun t => tests t.registrar⟩

/-- What is seen of a run with a strategy that starts in a state. -/
def Strategy.events (d : Strategy σ S) (fs : List Feature) (r : Registry σ) (s : S) :
    List (Event σ) :=
  (after (bindWith fs r d.adapter) ⟨s, []⟩).events

/-! ### The language of the runs -/

namespace Registry

/-- The steps that the program of a scenario hands over. -/
def stepEvents (r : Registry σ) (sc : Scenario) : List (Event σ) :=
  (r.definitions sc).map fun x => .step x.matcher x.handler

/-- The events of a scenario: it is handed over, and its program is run any number of times. -/
def testEvents (r : Registry σ) (sc : Scenario) : Language (Event σ) :=
  {[.test sc.title]} * ({[.steps]} * {r.stepEvents sc})∗

/-- The events of a feature: it is handed over, and its program, which goes through the flattened
scenarios, is run any number of times. -/
def featureEvents (r : Registry σ) (f : Feature) : Language (Event σ) :=
  {[.feature f]} * ({[.scenarios]} * (f.flatten.map r.testEvents).prod)∗

/-- The events of a run: those of each feature. -/
def runEvents (r : Registry σ) (fs : List Feature) : Language (Event σ) :=
  (fs.map r.featureEvents).prod

end Registry

theorem prod_map_singleton (es : List (Event σ)) :
    (es.map fun e => ({[e]} : Language (Event σ))).prod = {es} := by
  induction es with
  | nil => rfl
  | cons e es ih =>
    rw [List.map_cons, List.prod_cons, ih]
    exact (Set.image2_singleton : Set.image2 (· ++ ·) {[e]} {es} = {[e] ++ es})

/-! ### Strategies show words of the language -/

/-- A program shows a word of a language, whatever was seen before. -/
def Writes (x : AdapterM (Seen σ S) Unit) (L : Language (Event σ)) : Prop :=
  ∀ w, ∃ es ∈ L, (after x w).events = w.events ++ es

theorem Writes.mono {x : AdapterM (Seen σ S) Unit} {L M : Language (Event σ)} (h : Writes x L)
    (hLM : ∀ es ∈ L, es ∈ M) : Writes x M := by
  intro w
  obtain ⟨es, hes, h⟩ := h w
  exact ⟨es, hLM es hes, h⟩

theorem writes_become (g : S → S) : Writes (become g : AdapterM (Seen σ S) Unit) 1 :=
  fun _ => ⟨[], rfl, (List.append_nil _).symm⟩

theorem writes_emit (e : Event σ) : Writes (emit e : AdapterM (Seen σ S) Unit) {[e]} :=
  fun _ => ⟨[e], rfl, rfl⟩

theorem writes_bind {x : AdapterM (Seen σ S) Unit} {f : Unit → AdapterM (Seen σ S) Unit}
    {L M : Language (Event σ)} (hx : Writes x L) (hf : Writes (f ()) M) :
    Writes (x >>= f) (L * M) := by
  intro w
  obtain ⟨es, hes, h⟩ := hx w
  obtain ⟨es', hes', h'⟩ := hf (after x w)
  refine ⟨es ++ es', Language.append_mem_mul hes hes', ?_⟩
  rw [after_bind, h', h, List.append_assoc]

/-- Looking at the state is not seen. -/
theorem writes_get {f : Seen σ S → AdapterM (Seen σ S) Unit} {L : Language (Event σ)}
    (h : ∀ w, Writes (f w) L) : Writes (get >>= f) L := by
  intro w
  rw [after_bind, answer_get, after_get]
  exact h w w

theorem writes_forM {α : Type} {f : α → AdapterM (Seen σ S) Unit} {L : α → Language (Event σ)}
    (h : ∀ a, Writes (f a) (L a)) (as : List α) : Writes (forM as f) (as.map L).prod := by
  induction as with
  | nil => exact fun _ => ⟨[], rfl, (List.append_nil _).symm⟩
  | cons a as ih =>
    rw [List.forM_cons, List.map_cons, List.prod_cons]
    exact writes_bind (h a) ih

theorem writes_play {mark : Event σ} {perform : P → AdapterM (Seen σ S) Unit}
    {L : Language (Event σ)} (h : ∀ p, Writes (perform p) L) (t : Turns P S) :
    Writes (t.play mark perform) ({[mark]} * L)∗ := by
  induction t with
  | stop s =>
    refine (writes_become _).mono fun es hes => ?_
    exact one_le_kstar (a := {[mark]} * L) hes
  | run p s next ih =>
    have hround : Writes ((Turns.run p s next).play mark perform)
        (1 * ({[mark]} * (L * ({[mark]} * L)∗))) :=
      writes_bind (writes_become _)
        (writes_bind (writes_emit mark) (writes_bind (h p) (writes_get fun w => ih w.state)))
    -- a round before any number of rounds is again a number of rounds
    refine hround.mono fun es hes => ?_
    rw [one_mul, ← mul_assoc] at hes
    exact mul_kstar_le_kstar (a := {[mark]} * L) hes

theorem writes_stepCalls (r : Registry σ) (sc : Scenario) (b : StepTaker σ S) :
    Writes (r.stepCalls sc b.binder) {r.stepEvents sc} := by
  have hstep : ∀ x : Registration σ, Writes (b.binder.defineStep x.matcher x.handler)
      ({[.step x.matcher x.handler]} * 1) := fun x =>
    writes_bind (writes_emit _) (writes_become _)
  have h := writes_forM hstep (r.definitions sc)
  simp only [mul_one] at h
  rwa [← prod_map_singleton, Registry.stepEvents, List.map_map]

theorem writes_test (r : Registry σ) (sc : Scenario) (t : ScenarioTaker σ S) :
    Writes (t.registrar.test sc.title (r.stepCalls sc)) (r.testEvents sc) :=
  writes_bind (writes_emit _) (writes_get fun _ => writes_play (writes_stepCalls r sc) _)

theorem writes_defineFeature (r : Registry σ) (f : Feature) (d : Strategy σ S) :
    Writes (d.adapter.defineFeature f (r.scenarioCalls f)) (r.featureEvents f) :=
  writes_bind (writes_emit _) (writes_get fun _ =>
    writes_play (fun t => writes_forM (fun sc => writes_test r sc t) f.flatten) _)

theorem writes_handOver (r : Registry σ) (d : Strategy σ S) (fs : List Feature) :
    Writes (r.handOver d.adapter fs) (r.runEvents fs) :=
  writes_forM (fun f => writes_defineFeature r f d) fs

/-! ### Every word of the language is shown -/

/-- The partner `p` is taken `n` times. -/
def Turns.times (p : P) : Nat → S → Turns P S
  | 0, s => .stop s
  | n + 1, s => .run p s (times p n)

/-- Takes a scenario as many times as the state says next. -/
def countedTaker : ScenarioTaker σ (List Nat) :=
  fun _ ns => .times (fun _ _ ns => ns) (ns.headD 0) ns.tail

/-- The strategy that reads from its state how often to run each program. -/
def counted : Strategy σ (List Nat) :=
  fun _ ns => .times countedTaker (ns.headD 0) ns.tail

/-- A program shows any word of a language if the right numbers stand first in the state, and takes
them away. -/
def CanWrite (x : AdapterM (Seen σ (List Nat)) Unit) (L : Language (Event σ)) : Prop :=
  ∀ es ∈ L, ∃ ns, ∀ ms old, after x ⟨ns ++ ms, old⟩ = ⟨ms, old ++ es⟩

theorem canWrite_emit (e : Event σ) : CanWrite (emit e) {[e]} := by
  intro es hes
  obtain rfl : es = [e] := hes
  exact ⟨[], fun _ _ => rfl⟩

theorem canWrite_bind {x : AdapterM (Seen σ (List Nat)) Unit}
    {f : Unit → AdapterM (Seen σ (List Nat)) Unit} {L M : Language (Event σ)}
    (hx : CanWrite x L) (hf : CanWrite (f ()) M) : CanWrite (x >>= f) (L * M) := by
  intro es hes
  obtain ⟨u, hu, v, hv, rfl⟩ := Language.mem_mul.1 hes
  obtain ⟨ns, hns⟩ := hx u hu
  obtain ⟨ns', hns'⟩ := hf v hv
  refine ⟨ns ++ ns', fun ms old => ?_⟩
  rw [after_bind, List.append_assoc, hns, hns', List.append_assoc]

theorem canWrite_forM {α : Type} {f : α → AdapterM (Seen σ (List Nat)) Unit}
    {L : α → Language (Event σ)} (h : ∀ a, CanWrite (f a) (L a)) (as : List α) :
    CanWrite (forM as f) (as.map L).prod := by
  induction as with
  | nil =>
    intro es hes
    obtain rfl : es = [] := hes
    exact ⟨[], fun ms old => by rw [List.append_nil]; rfl⟩
  | cons a as ih =>
    rw [List.forM_cons, List.map_cons, List.prod_cons]
    exact canWrite_bind (h a) ih

/-- A partner that is taken as often as there are words shows them one after the other. -/
theorem exists_after_play_times {mark : Event σ} {p : P}
    {perform : P → AdapterM (Seen σ (List Nat)) Unit} {L : Language (Event σ)}
    (h : CanWrite (perform p) L) {ws : List (List (Event σ))}
    (hws : ∀ u ∈ ws, u ∈ ({[mark]} * L : Language (Event σ))) :
    ∃ ns, ∀ ms w, after ((Turns.times p ws.length (ns ++ ms)).play mark perform) w =
      ⟨ms, w.events ++ ws.flatten⟩ := by
  induction ws with
  | nil => exact ⟨[], fun ms w => by rw [List.flatten_nil, List.append_nil]; rfl⟩
  | cons u ws ih =>
    obtain ⟨m, hm, v, hv, rfl⟩ := Language.mem_mul.1 (hws u List.mem_cons_self)
    obtain rfl : m = [mark] := hm
    obtain ⟨ns, hns⟩ := h v hv
    obtain ⟨ns', hns'⟩ := ih fun u' hu' => hws u' (List.mem_cons_of_mem _ hu')
    -- the numbers that the first round takes stand before those of the later rounds
    refine ⟨ns ++ ns', fun ms w => ?_⟩
    have hround : after ((Turns.times p (ws.length + 1) (ns ++ (ns' ++ ms))).play mark perform) w =
        after ((Turns.times p ws.length (ns' ++ ms)).play mark perform)
          ⟨ns' ++ ms, w.events ++ [mark] ++ v⟩ := by
      have hm : after (emit mark) (after (become fun _ => ns ++ (ns' ++ ms)) w) =
          ⟨ns ++ (ns' ++ ms), w.events ++ [mark]⟩ := rfl
      rw [Turns.times, Turns.play]
      simp only [after_bind, answer_get, after_get]
      rw [hm, hns]
    rw [List.length_cons, List.append_assoc, hround, hns']
    simp

theorem canWrite_play {mark : Event σ} {p : P} {perform : P → AdapterM (Seen σ (List Nat)) Unit}
    {L : Language (Event σ)} (h : CanWrite (perform p) L) :
    CanWrite (get >>= fun w => (Turns.times p (w.state.headD 0) w.state.tail).play mark perform)
      ({[mark]} * L)∗ := by
  intro es hes
  obtain ⟨ws, rfl, hws⟩ := Language.mem_kstar.1 hes
  obtain ⟨ns, hns⟩ := exists_after_play_times h hws
  refine ⟨ws.length :: ns, fun ms old => ?_⟩
  rw [after_bind, answer_get, after_get]
  exact hns ms _

theorem canWrite_stepCalls (r : Registry σ) (sc : Scenario) :
    CanWrite (r.stepCalls sc (StepTaker.binder fun _ _ ns => ns)) {r.stepEvents sc} := by
  have h := canWrite_forM (fun x : Registration σ => canWrite_emit (.step x.matcher x.handler))
    (r.definitions sc)
  rwa [← prod_map_singleton, Registry.stepEvents, List.map_map]

theorem canWrite_test (r : Registry σ) (sc : Scenario) :
    CanWrite (countedTaker.registrar.test sc.title (r.stepCalls sc)) (r.testEvents sc) :=
  canWrite_bind (canWrite_emit _) (canWrite_play (canWrite_stepCalls r sc))

theorem canWrite_defineFeature (r : Registry σ) (f : Feature) :
    CanWrite (counted.adapter.defineFeature f (r.scenarioCalls f)) (r.featureEvents f) :=
  canWrite_bind (canWrite_emit _) (canWrite_play (canWrite_forM (canWrite_test r) f.flatten))

theorem canWrite_handOver (r : Registry σ) (fs : List Feature) :
    CanWrite (r.handOver counted.adapter fs) (r.runEvents fs) :=
  canWrite_forM (canWrite_defineFeature r) fs

/-! ### Any adapter -/

/-- **Binding says the same to every adapter.** It hands over each feature once, in order, with a
program that hands over the flattened scenarios with programs that hand over the settled steps; what
an adapter does in between changes none of this, and not the answer either. What can be seen of such
runs is exactly a language in which only the numbers of runs are open. -/
theorem bindWith_any_adapter (fs : List Feature) (r : Registry σ) :
    (∀ (S : Type) (a : Adapter σ S) (s : S),
      answer (bindWith fs r a) s = (checkFeatures fs r).value ∧
      after (bindWith fs r a) s =
        after (forM fs fun f => a.defineFeature f fun tests =>
          forM f.flatten fun sc => tests.test sc.title fun steps =>
            forM (r.definitions sc) fun x => steps.defineStep x.matcher x.handler) s) ∧
    ∀ es, (∃ (S : Type) (d : Strategy σ S) (s : S), d.events fs r s = es) ↔
      es ∈ r.runEvents fs := by
  refine ⟨fun S a s => ⟨?_, after_bindWith fs r a s⟩, fun es => ⟨?_, fun hes => ?_⟩⟩
  · rw [answer_bindWith]
    exact (answer_bindWith fs r checkOnly ()).symm
  · rintro ⟨S, d, s, rfl⟩
    obtain ⟨es, hes, h⟩ := writes_handOver r d fs ⟨s, []⟩
    rw [Strategy.events, after_bindWith, h]
    exact hes
  · obtain ⟨ns, hns⟩ := canWrite_handOver r fs es hes
    refine ⟨List Nat, counted, ns ++ [], ?_⟩
    rw [Strategy.events, after_bindWith, hns]
    rfl

end Acceptance
