import H3ntun.Foundation.TransitionSystem
import Mathlib.Logic.Function.Basic

/-!
# Ledgers

A ledger holds one natural number for each key, and an entry adds to one of
them.  What a list of entries adds is additive, so a law that every step of a
machine keeps is a law of all its runs.
-/

/-- One number for each key. -/
abbrev Ledger (Key : Type) :=
  Key → Nat

namespace Ledger

variable {Key : Type}

/-- The ledger in which nothing has been entered. -/
def zero : Ledger Key :=
  fun _ => 0

@[simp] theorem zero_apply (key : Key) :
    (zero : Ledger Key) key = 0 :=
  rfl

variable [DecidableEq Key]

/-- The ledger after one entry. -/
def post (ledger : Ledger Key) (entry : Key × Nat) : Ledger Key :=
  Function.update ledger entry.1 (ledger entry.1 + entry.2)

/-- The ledger after a list of entries, in their order. -/
def postAll (ledger : Ledger Key) (entries : List (Key × Nat)) :
    Ledger Key :=
  entries.foldl post ledger

/-- What entries add under one key. -/
def total (key : Key) : List (Key × Nat) → Nat
  | [] => 0
  | entry :: rest =>
      (if entry.1 = key then entry.2 else 0) + total key rest

@[simp] theorem total_nil (key : Key) :
    total key [] = 0 :=
  rfl

@[simp] theorem total_cons
    (key : Key)
    (entry : Key × Nat)
    (rest : List (Key × Nat)) :
    total key (entry :: rest) =
      (if entry.1 = key then entry.2 else 0) + total key rest :=
  rfl

@[simp] theorem total_append
    (key : Key)
    (first later : List (Key × Nat)) :
    total key (first ++ later) = total key first + total key later := by
  induction first with
  | nil =>
      simp
  | cons entry rest inductionHypothesis =>
      rw [List.cons_append, total_cons, total_cons, inductionHypothesis,
        Nat.add_assoc]

/-- Entries under other keys add nothing. -/
theorem total_eq_zero
    {key : Key}
    {entries : List (Key × Nat)}
    (others : ∀ entry ∈ entries, entry.1 ≠ key) :
    total key entries = 0 := by
  induction entries with
  | nil =>
      rfl
  | cons entry rest inductionHypothesis =>
      obtain ⟨other, restOthers⟩ := List.forall_mem_cons.mp others
      rw [total_cons, if_neg other, inductionHypothesis restOthers]

theorem post_apply
    (ledger : Ledger Key)
    (entry : Key × Nat)
    (key : Key) :
    ledger.post entry key =
      ledger key + if entry.1 = key then entry.2 else 0 := by
  by_cases same : entry.1 = key
  · rw [if_pos same, ← same]
    exact Function.update_self ..
  · rw [if_neg same]
    exact Function.update_of_ne (Ne.symm same) ..

/-- Posting entries adds their total. -/
theorem postAll_apply
    (ledger : Ledger Key)
    (entries : List (Key × Nat))
    (key : Key) :
    ledger.postAll entries key = ledger key + total key entries := by
  induction entries generalizing ledger with
  | nil =>
      rfl
  | cons entry rest inductionHypothesis =>
      have later := inductionHypothesis (ledger.post entry)
      rw [post_apply, Nat.add_assoc] at later
      exact later

end Ledger

namespace Machine

variable {State Input Output : Type}

/-- The labels of the steps of a run that have one, in order. -/
def labels
    {Label : Type}
    (machine : Machine State Input Output)
    (label : State → Input → Option Label) :
    State → List Input → List Label
  | _, [] => []
  | state, input :: rest =>
      (label state input).toList ++
        machine.labels label (machine.step state input).1 rest

/-- What grows by one with the steps of one label counts these steps. -/
theorem count_labels_run
    {Label : Type}
    [DecidableEq Label]
    (machine : Machine State Input Output)
    (label : State → Input → Option Label)
    (counted : Label)
    (measure : State → Nat)
    (grows :
      ∀ state input,
        measure (machine.step state input).1 =
          measure state + if label state input = some counted then 1 else 0)
    (state : State)
    (inputs : List Input) :
    measure (machine.run state inputs) =
      measure state + (machine.labels label state inputs).count counted := by
  induction inputs generalizing state with
  | nil =>
      rfl
  | cons input rest inductionHypothesis =>
      have step :
          (label state input).toList.count counted =
            if label state input = some counted then 1 else 0 := by
        cases label state input with
        | none =>
            rfl
        | some found =>
            simp [List.count_singleton]
      rw [run, inductionHypothesis, grows, labels, List.count_append, step]
      omega

/-- What grows with the steps of one label is zero while there is none. -/
theorem run_eq_zero_iff
    {Label : Type}
    (machine : Machine State Input Output)
    (label : State → Input → Option Label)
    (counted : Label)
    (measure : State → Nat)
    (grows :
      ∀ state input, ∃ amount,
        measure (machine.step state input).1 = measure state + amount ∧
          (amount = 0 ↔ label state input ≠ some counted))
    (state : State)
    (inputs : List Input) :
    measure (machine.run state inputs) = 0 ↔
      measure state = 0 ∧ counted ∉ machine.labels label state inputs := by
  induction inputs generalizing state with
  | nil =>
      simp [run, labels]
  | cons input rest inductionHypothesis =>
      obtain ⟨amount, added, isZero⟩ := grows state input
      rw [run, inductionHypothesis, added, Nat.add_eq_zero_iff, isZero,
        labels, List.mem_append, not_or, Option.mem_toList, and_assoc]

/-- Each label is that of an input at its place in the run. -/
theorem exists_of_mem_labels
    {Label : Type}
    {machine : Machine State Input Output}
    {label : State → Input → Option Label}
    {state : State}
    {inputs : List Input}
    {found : Label}
    (member : found ∈ machine.labels label state inputs) :
    ∃ earlier input later,
      inputs = earlier ++ input :: later ∧
        label (machine.run state earlier) input = some found := by
  induction inputs generalizing state with
  | nil =>
      cases member
  | cons first rest inductionHypothesis =>
      rcases List.mem_append.mp member with now | afterwards
      · exact ⟨[], first, rest, rfl, Option.mem_toList.mp now⟩
      · obtain ⟨earlier, input, later, rfl, isLabel⟩ :=
          inductionHypothesis afterwards
        exact ⟨first :: earlier, input, later, rfl, isLabel⟩

/-- The label of an input at its place in the run is one of the run. -/
theorem mem_labels
    {Label : Type}
    {machine : Machine State Input Output}
    {label : State → Input → Option Label}
    {state : State}
    {earlier later : List Input}
    {input : Input}
    {found : Label}
    (isLabel : label (machine.run state earlier) input = some found) :
    found ∈ machine.labels label state (earlier ++ input :: later) := by
  induction earlier generalizing state with
  | nil =>
      exact List.mem_append_left _ (Option.mem_toList.mpr isLabel)
  | cons first rest inductionHypothesis =>
      exact List.mem_append_right _ (inductionHypothesis isLabel)

/-- The labels of a run that takes one step more. -/
theorem labels_concat
    {Label : Type}
    (machine : Machine State Input Output)
    (label : State → Input → Option Label)
    (state : State)
    (earlier : List Input)
    (input : Input) :
    machine.labels label state (earlier ++ [input]) =
      machine.labels label state earlier ++
        (label (machine.run state earlier) input).toList := by
  induction earlier generalizing state with
  | nil =>
      simp [labels, run]
  | cons first rest inductionHypothesis =>
      rw [List.cons_append, labels, inductionHypothesis, labels, run,
        List.append_assoc]

/--
What every step adds on one side of a book it adds on the other, but for the
steps that lose one.
-/
theorem balance_run
    (machine : Machine State Input Output)
    {holds : State → Prop}
    (keeps :
      ∀ state input, holds state → holds (machine.step state input).1)
    (credit debit : State → Nat)
    (loses : Input → Output → Bool)
    (balances :
      ∀ state input, holds state →
        credit (machine.step state input).1 + debit state =
          credit state + debit (machine.step state input).1 +
            if loses input (machine.step state input).2 then 1 else 0)
    {state : State}
    (initially : holds state)
    (inputs : List Input) :
    credit (machine.run state inputs) + debit state =
      credit state + debit (machine.run state inputs) +
        (inputs.zip (machine.answers state inputs)).countP
          fun turn => loses turn.1 turn.2 := by
  induction inputs generalizing state with
  | nil =>
      rfl
  | cons input rest inductionHypothesis =>
      have step := balances state input initially
      have later := inductionHypothesis (keeps state input initially)
      rw [run, answers, List.zip_cons_cons, List.countP_cons]
      dsimp only
      omega

end Machine
