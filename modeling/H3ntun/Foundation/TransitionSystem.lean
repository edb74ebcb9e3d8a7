import Mathlib.Data.List.Basic

/-!
# Machines, runs and invariants

Deterministic machines answer each input, and a step-preserved relation
between two of them makes their answers equal.  Transition systems take
labelled steps, and a step-preserved predicate holds in every reachable
state.
-/

/-- A deterministic machine that answers every input. -/
structure Machine (State Input Output : Type) where
  step : State → Input → State × Output

namespace Machine

variable {State Input Output : Type}

/-- State after a list of inputs. -/
def run (machine : Machine State Input Output) :
    State → List Input → State
  | state, [] => state
  | state, input :: rest =>
      machine.run (machine.step state input).1 rest

/-- Answers to a list of inputs. -/
def answers (machine : Machine State Input Output) :
    State → List Input → List Output
  | _, [] => []
  | state, input :: rest =>
      (machine.step state input).2 ::
        machine.answers (machine.step state input).1 rest

/-- Inputs a yes-or-no machine answers with yes, in order. -/
def accepted (machine : Machine State Input Bool) :
    State → List Input → List Input
  | _, [] => []
  | state, input :: rest =>
      if (machine.step state input).2 then
        input :: machine.accepted (machine.step state input).1 rest
      else
        machine.accepted (machine.step state input).1 rest

@[simp] theorem length_answers
    (machine : Machine State Input Output)
    (state : State)
    (inputs : List Input) :
    (machine.answers state inputs).length = inputs.length := by
  induction inputs generalizing state with
  | nil =>
      rfl
  | cons input rest inductionHypothesis =>
      simp [answers, inductionHypothesis]

theorem run_append
    (machine : Machine State Input Output)
    (state : State)
    (first later : List Input) :
    machine.run state (first ++ later) =
      machine.run (machine.run state first) later := by
  induction first generalizing state with
  | nil =>
      rfl
  | cons input rest inductionHypothesis =>
      exact inductionHypothesis _

theorem run_concat
    (machine : Machine State Input Output)
    (state : State)
    (earlier : List Input)
    (input : Input) :
    machine.run state (earlier ++ [input]) =
      (machine.step (machine.run state earlier) input).1 := by
  rw [run_append]
  rfl

theorem answers_append
    (machine : Machine State Input Output)
    (state : State)
    (first later : List Input) :
    machine.answers state (first ++ later) =
      machine.answers state first ++
        machine.answers (machine.run state first) later := by
  induction first generalizing state with
  | nil =>
      rfl
  | cons input rest inductionHypothesis =>
      simp [answers, run, inductionHypothesis]

/-- The answers to the first inputs are the first answers. -/
theorem answers_take
    (machine : Machine State Input Output)
    (state : State)
    (inputs : List Input)
    (count : Nat) :
    machine.answers state (inputs.take count) =
      (machine.answers state inputs).take count := by
  induction inputs generalizing state count with
  | nil =>
      simp [answers]
  | cons input rest inductionHypothesis =>
      cases count with
      | zero =>
          rfl
      | succ count =>
          simp [answers, inductionHypothesis]

theorem accepted_append
    (machine : Machine State Input Bool)
    (state : State)
    (first later : List Input) :
    machine.accepted state (first ++ later) =
      machine.accepted state first ++
        machine.accepted (machine.run state first) later := by
  induction first generalizing state with
  | nil =>
      rfl
  | cons input rest inductionHypothesis =>
      have later := inductionHypothesis (machine.step state input).1
      cases answer : (machine.step state input).2 <;>
        simp [accepted, run, answer, later]

theorem accepted_sublist
    (machine : Machine State Input Bool)
    (state : State)
    (inputs : List Input) :
    (machine.accepted state inputs).Sublist inputs := by
  induction inputs generalizing state with
  | nil =>
      exact List.Sublist.slnil
  | cons input rest inductionHypothesis =>
      unfold accepted
      split
      · exact (inductionHypothesis _).cons_cons input
      · exact (inductionHypothesis _).cons input

/-- The first inputs of a run that accepts all inputs are accepted. -/
theorem accepted_of_append
    {machine : Machine State Input Bool}
    {state : State}
    {first later : List Input}
    (all : machine.accepted state (first ++ later) = first ++ later) :
    machine.accepted state first = first := by
  rw [accepted_append] at all
  have firstBound := (machine.accepted_sublist state first).length_le
  have laterBound :=
    (machine.accepted_sublist (machine.run state first) later).length_le
  have lengths := congrArg List.length all
  rw [List.length_append, List.length_append] at lengths
  exact (List.append_inj all (by omega)).1

/-- The answer at a position is the answer given in the state before it. -/
theorem getElem?_answers
    (machine : Machine State Input Output)
    (state : State)
    (inputs : List Input)
    (index : Nat) :
    (machine.answers state inputs)[index]? =
      inputs[index]?.map fun input =>
        (machine.step
          (machine.run state (inputs.take index)) input).2 := by
  induction inputs generalizing state index with
  | nil =>
      simp [answers]
  | cons input rest inductionHypothesis =>
      cases index with
      | zero =>
          simp [answers, run]
      | succ index =>
          simpa [answers, run] using
            inductionHypothesis (machine.step state input).1 index

/-- A predicate that admissible inputs preserve holds after them. -/
theorem run_invariant_of_inputs
    (machine : Machine State Input Output)
    (invariant : State → Prop)
    (admissible : Input → Prop)
    (preserved :
      ∀ state input,
        admissible input →
        invariant state →
        invariant (machine.step state input).1)
    {state : State}
    (holds : invariant state)
    (inputs : List Input)
    (areAdmissible : ∀ input ∈ inputs, admissible input) :
    invariant (machine.run state inputs) := by
  induction inputs generalizing state with
  | nil =>
      exact holds
  | cons input rest inductionHypothesis =>
      obtain ⟨isAdmissible, restAdmissible⟩ :=
        List.forall_mem_cons.mp areAdmissible
      exact inductionHypothesis
        (preserved state input isAdmissible holds) restAdmissible

/-- A predicate preserved by every step holds after every run. -/
theorem run_invariant
    (machine : Machine State Input Output)
    (invariant : State → Prop)
    (preserved :
      ∀ state input,
        invariant state → invariant (machine.step state input).1)
    {state : State}
    (holds : invariant state)
    (inputs : List Input) :
    invariant (machine.run state inputs) :=
  machine.run_invariant_of_inputs invariant (fun _ => True)
    (fun state input _ => preserved state input) holds inputs
    fun _ _ => trivial

/--
A relation under which two machines answer alike and that every step
preserves makes all their answers equal.
-/
theorem answers_eq_of_simulation
    {OtherState : Type}
    {machine : Machine State Input Output}
    {other : Machine OtherState Input Output}
    {related : State → OtherState → Prop}
    (simulates :
      ∀ state otherState input,
        related state otherState →
        (machine.step state input).2 = (other.step otherState input).2 ∧
          related (machine.step state input).1
            (other.step otherState input).1)
    {state : State}
    {otherState : OtherState}
    (start : related state otherState)
    (inputs : List Input) :
    machine.answers state inputs = other.answers otherState inputs ∧
      related (machine.run state inputs)
        (other.run otherState inputs) := by
  induction inputs generalizing state otherState with
  | nil =>
      exact ⟨rfl, start⟩
  | cons input rest inductionHypothesis =>
      obtain ⟨sameAnswer, stillRelated⟩ :=
        simulates state otherState input start
      obtain ⟨sameRest, restRelated⟩ :=
        inductionHypothesis stillRelated
      exact ⟨by simp [answers, sameAnswer, sameRest], restRelated⟩

/-- A property of every step of a run, stated on the state before it. -/
def EveryStep (machine : Machine State Input Output)
    (holds : State → Input → Prop) :
    State → List Input → Prop
  | _, [] => True
  | state, input :: rest =>
      holds state input ∧
        machine.EveryStep holds (machine.step state input).1 rest

instance decidableEveryStep
    (machine : Machine State Input Output)
    (holds : State → Input → Prop)
    [∀ state input, Decidable (holds state input)] :
    ∀ state inputs, Decidable (machine.EveryStep holds state inputs)
  | _, [] => isTrue trivial
  | state, input :: rest =>
      have := machine.decidableEveryStep holds
        (machine.step state input).1 rest
      inferInstanceAs (Decidable (_ ∧ _))

/-- Inputs with a property in every state have it at every step. -/
theorem EveryStep.of_forall
    {machine : Machine State Input Output}
    {holds : State → Input → Prop}
    {inputs : List Input}
    (always : ∀ state, ∀ input ∈ inputs, holds state input)
    (state : State) :
    machine.EveryStep holds state inputs := by
  induction inputs generalizing state with
  | nil =>
      exact trivial
  | cons input rest inductionHypothesis =>
      refine ⟨always state input List.mem_cons_self, ?_⟩
      exact inductionHypothesis
        (fun state other member =>
          always state other (List.mem_cons_of_mem _ member)) _

/-- A property that follows from an invariant holds at every step. -/
theorem EveryStep.of_invariant
    {machine : Machine State Input Output}
    {holds : State → Input → Prop}
    (invariant : State → Prop)
    (preserved :
      ∀ state input,
        invariant state → invariant (machine.step state input).1)
    (follows : ∀ state input, invariant state → holds state input)
    {state : State}
    (start : invariant state)
    (inputs : List Input) :
    machine.EveryStep holds state inputs := by
  induction inputs generalizing state with
  | nil =>
      exact trivial
  | cons input rest inductionHypothesis =>
      exact ⟨follows state input start,
        inductionHypothesis (preserved state input start)⟩

/-- A weaker property holds at every step as well. -/
theorem EveryStep.imp
    {machine : Machine State Input Output}
    {holds weaker : State → Input → Prop}
    (implies : ∀ state input, holds state input → weaker state input)
    {state : State}
    {inputs : List Input}
    (everyStep : machine.EveryStep holds state inputs) :
    machine.EveryStep weaker state inputs := by
  induction inputs generalizing state with
  | nil =>
      exact trivial
  | cons input rest inductionHypothesis =>
      exact ⟨implies state input everyStep.1,
        inductionHypothesis everyStep.2⟩

/-- A property of every step holds at the step after any prefix. -/
theorem EveryStep.after_prefix
    {machine : Machine State Input Output}
    {holds : State → Input → Prop}
    {state : State}
    {earlier later : List Input}
    {input : Input}
    (everyStep :
      machine.EveryStep holds state (earlier ++ input :: later)) :
    holds (machine.run state earlier) input := by
  induction earlier generalizing state with
  | nil =>
      exact everyStep.1
  | cons head earlier inductionHypothesis =>
      exact inductionHypothesis everyStep.2

/-- A property of every step of a run holds along its first part. -/
theorem EveryStep.earlier
    {machine : Machine State Input Output}
    {holds : State → Input → Prop}
    {state : State}
    {earlier later : List Input}
    (everyStep : machine.EveryStep holds state (earlier ++ later)) :
    machine.EveryStep holds state earlier := by
  induction earlier generalizing state with
  | nil =>
      exact trivial
  | cons head earlier inductionHypothesis =>
      exact ⟨everyStep.1, inductionHypothesis everyStep.2⟩

/--
Two step properties that agree wherever an invariant holds, and one of which
preserves that invariant on admissible steps, hold on the same runs.
-/
theorem everyStep_iff
    {machine : Machine State Input Output}
    (invariant : State → Prop)
    {admissible first second : State → Input → Prop}
    (agree :
      ∀ state input,
        invariant state →
        admissible state input →
        (first state input ↔ second state input))
    (preserved :
      ∀ state input,
        invariant state →
        admissible state input →
        second state input →
        invariant (machine.step state input).1)
    {state : State}
    (holds : invariant state)
    {inputs : List Input}
    (everyAdmissible : machine.EveryStep admissible state inputs) :
    machine.EveryStep first state inputs ↔
      machine.EveryStep second state inputs := by
  induction inputs generalizing state with
  | nil =>
      exact Iff.rfl
  | cons input rest inductionHypothesis =>
      obtain ⟨isAdmissible, restAdmissible⟩ := everyAdmissible
      have sameHead := agree state input holds isAdmissible
      constructor
      · rintro ⟨head, tail⟩
        have holdsNext :=
          preserved state input holds isAdmissible (sameHead.mp head)
        exact ⟨sameHead.mp head,
          (inductionHypothesis holdsNext restAdmissible).mp tail⟩
      · rintro ⟨head, tail⟩
        have holdsNext :=
          preserved state input holds isAdmissible head
        exact ⟨sameHead.mpr head,
          (inductionHypothesis holdsNext restAdmissible).mpr tail⟩

end Machine

/-- Labelled transitions from a set of initial states. -/
structure TransitionSystem (State Action : Type) where
  initial : State → Prop
  step : State → Action → State → Prop

namespace TransitionSystem

variable {State Action : Type}

/-- States some finite run from an initial state ends in. -/
inductive Reachable (system : TransitionSystem State Action) :
    State → Prop where
  | start
      {state : State}
      (isInitial : system.initial state) :
      Reachable system state
  | next
      {state later : State}
      (action : Action)
      (reached : Reachable system state)
      (taken : system.step state action later) :
      Reachable system later

/-- The same system with only those steps that satisfy a condition. -/
def restrict
    (system : TransitionSystem State Action)
    (condition : State → Action → Prop) :
    TransitionSystem State Action where
  initial := system.initial
  step state action later :=
    system.step state action later ∧ condition state action

/-- An invariant: it holds initially and every step preserves it. -/
theorem Reachable.invariant
    {system : TransitionSystem State Action}
    {motive : State → Prop}
    (initially :
      ∀ state,
        system.initial state → motive state)
    (preserved :
      ∀ state action later,
        Reachable system state →
        motive state →
        system.step state action later →
        motive later)
    {state : State}
    (reached : system.Reachable state) :
    motive state := by
  induction reached with
  | start isInitial =>
      exact initially _ isInitial
  | next action reached taken inductionHypothesis =>
      exact preserved _ action _ reached inductionHypothesis taken

/-- A state of a restricted system is a state of the whole system. -/
theorem Reachable.of_restrict
    {system : TransitionSystem State Action}
    {condition : State → Action → Prop}
    {state : State}
    (reached : (system.restrict condition).Reachable state) :
    system.Reachable state := by
  induction reached with
  | start isInitial =>
      exact .start isInitial
  | next action _ taken inductionHypothesis =>
      exact .next action inductionHypothesis taken.1

/-- Runs of a system that projects to another one are runs of that one. -/
theorem Reachable.project
    {Base Label : Type}
    {system : TransitionSystem State Action}
    {base : TransitionSystem Base Label}
    (projection : State → Base)
    (initially :
      ∀ state, system.initial state → base.initial (projection state))
    (follows :
      ∀ state action later,
        system.step state action later →
        ∃ label,
          base.step (projection state) label (projection later))
    {state : State}
    (reached : system.Reachable state) :
    base.Reachable (projection state) := by
  induction reached with
  | start isInitial =>
      exact .start (initially _ isInitial)
  | next action _ taken inductionHypothesis =>
      obtain ⟨label, followed⟩ := follows _ action _ taken
      exact .next label inductionHypothesis followed

/-- A machine whose admissible steps are transitions runs through them. -/
theorem Reachable.run
    {Output : Type}
    {system : TransitionSystem State Action}
    {machine : Machine State Action Output}
    {admissible : State → Action → Prop}
    (follows :
      ∀ state action,
        admissible state action →
        system.step state action (machine.step state action).1)
    {state : State}
    (reached : system.Reachable state)
    {actions : List Action}
    (everyStep : machine.EveryStep admissible state actions) :
    system.Reachable (machine.run state actions) := by
  induction actions generalizing state with
  | nil =>
      exact reached
  | cons action rest inductionHypothesis =>
      exact inductionHypothesis
        (.next action reached (follows state action everyStep.1))
        everyStep.2

end TransitionSystem
