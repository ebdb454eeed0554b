namespace Execution

/-!
# Runs of a step function

A system is a partial step function: `step state event` is the state after
the event, or `none` where the event cannot happen.  A run is a list of
events.  Two kinds of statement are made about runs here.  An invariant is
proved from one step, and carried to the state a run reaches.  A property of
steps, which may look at the state before and at the event, holds `Along` a
run, or only `Since` a state with some property was first reached.
-/

universe u v

variable {σ : Type u} {ε : Type v} (step : σ -> ε -> Option σ)

def run (state : σ) : List ε -> Option σ
  | [] => some state
  | event :: events => (step state event).bind fun next => run next events

/-- Every step of the run satisfies `holds`, up to an event that cannot
happen. -/
def Along (holds : σ -> ε -> Prop) (state : σ) : List ε -> Prop
  | [] => True
  | event :: events =>
      holds state event ∧ forall next, step state event = some next -> Along holds next events

/-- From every state of the run with property `trigger`, every later step
satisfies `holds`. -/
def Since (trigger : σ -> Prop) (holds : σ -> ε -> Prop) (state : σ) (events : List ε) : Prop :=
  forall before after reached, events = before ++ after ->
    run step state before = some reached -> trigger reached -> Along step holds reached after

theorem run_cons {state last : σ} {event : ε} {events : List ε}
    (reached : run step state (event :: events) = some last) :
    ∃ next, step state event = some next ∧ run step next events = some last :=
  Option.bind_eq_some_iff.mp reached

theorem run_of_step {state next last : σ} {event : ε} {events : List ε}
    (stepped : step state event = some next) (rest : run step next events = some last) :
    run step state (event :: events) = some last :=
  Option.bind_eq_some_iff.mpr ⟨next, stepped, rest⟩

theorem run_single {state next : σ} {event : ε} (stepped : step state event = some next) :
    run step state [event] = some next := run_of_step step stepped rfl

/-- The first step of a run to a state with some property. -/
theorem reaches_of_step {goal : σ -> Prop} {state next : σ} {event : ε} {events : List ε}
    (stepped : step state event = some next)
    (rest : ∃ last, run step next events = some last ∧ goal last) :
    ∃ last, run step state (event :: events) = some last ∧ goal last := by
  rcases rest with ⟨last, reached, holds⟩
  exact ⟨last, run_of_step step stepped reached, holds⟩

/-- The same for a run along which something holds. -/
theorem reaches_along_of_step {goal : σ -> Prop} {holds : σ -> ε -> Prop} {state next : σ}
    {event : ε} {events : List ε} (now : holds state event)
    (stepped : step state event = some next)
    (rest : ∃ last, run step next events = some last ∧ goal last ∧ Along step holds next events) :
    ∃ last, run step state (event :: events) = some last ∧ goal last ∧
      Along step holds state (event :: events) := by
  rcases rest with ⟨last, reached, fulfilled, along⟩
  refine ⟨last, run_of_step step stepped reached, fulfilled, now, ?_⟩
  intro other same
  rw [stepped] at same
  cases same
  exact along

theorem run_append (state : σ) (before after : List ε) :
    run step state (before ++ after) =
      (run step state before).bind fun reached => run step reached after := by
  induction before generalizing state with
  | nil => rfl
  | cons event before ih =>
      simp only [List.cons_append, run, ih, Option.bind_assoc]

theorem run_trans {state reached last : σ} {before after : List ε}
    (first : run step state before = some reached) (second : run step reached after = some last) :
    run step state (before ++ after) = some last := by
  rw [run_append, first]
  exact second

variable {step} in
/-- Where every event can happen, every list of events is a run. -/
theorem run_total (total : forall state event, ∃ next, step state event = some next) (state : σ)
    (events : List ε) : ∃ last, run step state events = some last := by
  induction events generalizing state with
  | nil => exact ⟨state, rfl⟩
  | cons event events ih =>
      rcases total state event with ⟨next, stepped⟩
      rcases ih next with ⟨last, reached⟩
      exact ⟨last, run_of_step step stepped reached⟩

/-- A map that commutes with every step commutes with runs. -/
theorem run_map {τ : Type u} {other : τ -> ε -> Option τ} {view : σ -> τ}
    (commutes : forall state event, (step state event).map view = other (view state) event)
    (state : σ) (events : List ε) :
    (run step state events).map view = run other (view state) events := by
  induction events generalizing state with
  | nil => rfl
  | cons event events ih =>
      rw [run, run, ← commutes]
      cases step state event with
      | none => rfl
      | some next => exact ih next

/-- Events that do not change what is related may be left out of a run. -/
theorem run_filter {related : σ -> σ -> Prop} {visible : ε -> Bool}
    (hidden : forall {state other event next}, related state other -> visible event = false ->
      step state event = some next -> related next other)
    (shown : forall {state other event next}, related state other -> visible event = true ->
      step state event = some next -> ∃ after, step other event = some after ∧ related next after)
    {state other last : σ} {events : List ε} (start : related state other)
    (reached : run step state events = some last) :
    ∃ after, run step other (events.filter visible) = some after ∧ related last after := by
  induction events generalizing state other with
  | nil =>
      cases reached
      exact ⟨other, rfl, start⟩
  | cons event events ih =>
      rcases run_cons step reached with ⟨next, stepped, rest⟩
      cases seen : visible event with
      | false =>
          rw [List.filter_cons_of_neg (by rw [seen]; decide)]
          exact ih (hidden start seen stepped) rest
      | true =>
          rcases shown start seen stepped with ⟨after, followed, still⟩
          rw [List.filter_cons_of_pos seen]
          exact reaches_of_step step followed (ih still rest)

theorem along_of_forall {holds : σ -> ε -> Prop} {events : List ε}
    (always : forall event, event ∈ events -> forall state, holds state event) (state : σ) :
    Along step holds state events := by
  induction events generalizing state with
  | nil => trivial
  | cons event events ih =>
      refine ⟨always event List.mem_cons_self state, ?_⟩
      intro next _
      exact ih (fun later member => always later (List.mem_cons_of_mem event member)) next

theorem along_append {holds : σ -> ε -> Prop} {state reached : σ} {before after : List ε}
    (first : Along step holds state before) (got : run step state before = some reached)
    (second : Along step holds reached after) : Along step holds state (before ++ after) := by
  induction before generalizing state with
  | nil =>
      cases got
      exact second
  | cons event before ih =>
      rcases run_cons step got with ⟨next, stepped, rest⟩
      refine ⟨first.1, ?_⟩
      intro other same
      rw [stepped] at same
      cases same
      exact ih (first.2 next stepped) rest

/-- What holds of every step holds of those behind any state. -/
theorem since_of_along {trigger : σ -> Prop} {holds : σ -> ε -> Prop} {state : σ} {events : List ε}
    (along : Along step holds state events) : Since step trigger holds state events := by
  rintro before after reached rfl got _
  induction before generalizing state with
  | nil =>
      cases got
      exact along
  | cons event before ih =>
      rcases run_cons step got with ⟨next, stepped, rest⟩
      exact ih (along.2 next stepped) rest

/-- What every step preserves holds at the end of every run. -/
theorem run_invariant {inv : σ -> Prop}
    (kept : forall {state event next}, inv state -> step state event = some next -> inv next)
    {state last : σ} {events : List ε} (start : inv state)
    (reached : run step state events = some last) : inv last := by
  induction events generalizing state with
  | nil =>
      cases reached
      exact start
  | cons event events ih =>
      rcases run_cons step reached with ⟨next, stepped, rest⟩
      exact ih (kept start stepped) rest

/-- What follows from an invariant holds of every step of a run. -/
theorem along_of_invariant {inv : σ -> Prop} {holds : σ -> ε -> Prop}
    (kept : forall {state event next}, inv state -> step state event = some next -> inv next)
    (follows : forall {state event}, inv state -> holds state event)
    {state : σ} (start : inv state) (events : List ε) : Along step holds state events := by
  induction events generalizing state with
  | nil => trivial
  | cons event events ih =>
      refine ⟨follows start, ?_⟩
      intro next stepped
      exact ih (kept start stepped)

/-- An invariant of steps that satisfy `holds`. -/
theorem run_invariant_along {inv : σ -> Prop} {holds : σ -> ε -> Prop}
    (kept : forall {state event next}, inv state -> holds state event ->
      step state event = some next -> inv next)
    {state last : σ} {events : List ε} (start : inv state)
    (along : Along step holds state events) (reached : run step state events = some last) :
    inv last := by
  induction events generalizing state with
  | nil =>
      cases reached
      exact start
  | cons event events ih =>
      rcases run_cons step reached with ⟨next, stepped, rest⟩
      exact ih (kept start along.1 stepped) (along.2 next stepped) rest

/-- What follows from an invariant and the property that preserves it. -/
theorem along_of_along {inv : σ -> Prop} {given holds : σ -> ε -> Prop}
    (kept : forall {state event next}, inv state -> given state event ->
      step state event = some next -> inv next)
    (follows : forall {state event}, inv state -> given state event -> holds state event)
    {state : σ} (start : inv state) {events : List ε} (along : Along step given state events) :
    Along step holds state events := by
  induction events generalizing state with
  | nil => trivial
  | cons event events ih =>
      refine ⟨follows start along.1, ?_⟩
      intro next stepped
      exact ih (kept start along.1 stepped) (along.2 next stepped)

/-- A weaker property of steps holds along the same runs. -/
theorem along_mono {first second : σ -> ε -> Prop}
    (weaker : forall {state event}, first state event -> second state event) {state : σ}
    {events : List ε} (along : Along step first state events) : Along step second state events := by
  induction events generalizing state with
  | nil => trivial
  | cons event events ih => exact ⟨weaker along.1, fun next stepped => ih (along.2 next stepped)⟩

/-- Two properties of steps that agree under an invariant, where a third
property is given, hold along the same runs, provided that either of them
preserves the invariant. -/
theorem along_iff_of_along {inv : σ -> Prop} {given first second : σ -> ε -> Prop}
    (agree : forall {state event}, inv state -> given state event ->
      (first state event <-> second state event))
    (kept : forall {state event next}, inv state -> given state event -> first state event ->
      step state event = some next -> inv next)
    {state : σ} (start : inv state) {events : List ε} (along : Along step given state events) :
    Along step first state events <-> Along step second state events := by
  induction events generalizing state with
  | nil => exact Iff.rfl
  | cons event events ih =>
      rcases along with ⟨now, later⟩
      constructor
      · rintro ⟨holds, rest⟩
        refine ⟨(agree start now).mp holds, ?_⟩
        intro next stepped
        exact (ih (kept start now holds stepped) (later next stepped)).mp (rest next stepped)
      · rintro ⟨holds, rest⟩
        have holds := (agree start now).mpr holds
        refine ⟨holds, ?_⟩
        intro next stepped
        exact (ih (kept start now holds stepped) (later next stepped)).mpr (rest next stepped)

/-- The same where nothing is given. -/
theorem along_iff {inv : σ -> Prop} {first second : σ -> ε -> Prop}
    (agree : forall {state event}, inv state -> (first state event <-> second state event))
    (kept : forall {state event next}, inv state -> first state event ->
      step state event = some next -> inv next)
    {state : σ} (start : inv state) (events : List ε) :
    Along step first state events <-> Along step second state events := by
  have given : Along step (fun _ _ => True) state events :=
    along_of_forall step (fun _ _ _ => trivial) state
  apply along_iff_of_along step _ _ start given
  · intro state event holds _
    exact agree holds
  · intro state event next holds _
    exact kept holds

/-- The same from the first state with property `trigger` on. -/
theorem since_iff {inv trigger : σ -> Prop} {first second : σ -> ε -> Prop}
    (invariant : forall {state event next}, inv state -> step state event = some next -> inv next)
    (agree : forall {state event}, inv state -> trigger state ->
      (first state event <-> second state event))
    (kept : forall {state event next}, inv state -> trigger state -> first state event ->
      step state event = some next -> trigger next)
    {state : σ} (start : inv state) (events : List ε) :
    Since step trigger first state events <-> Since step trigger second state events := by
  have agreeHere {state : σ} {event : ε} (both : inv state ∧ trigger state) :
      first state event <-> second state event := agree both.1 both.2
  have keptHere {state : σ} {event : ε} {next : σ} (both : inv state ∧ trigger state)
      (now : first state event) (stepped : step state event = some next) :
      inv next ∧ trigger next :=
    ⟨invariant both.1 stepped, kept both.1 both.2 now stepped⟩
  constructor
  · intro since before later reached split got triggered
    have holds : inv reached := run_invariant step invariant start got
    exact (along_iff step agreeHere keptHere ⟨holds, triggered⟩ later).mp
      (since before later reached split got triggered)
  · intro since before later reached split got triggered
    have holds : inv reached := run_invariant step invariant start got
    exact (along_iff step agreeHere keptHere ⟨holds, triggered⟩ later).mpr
      (since before later reached split got triggered)

end Execution
