import H3ntun.ReassemblerSteps

namespace H3ntun

/-!
# Reassembly is exact for every arrival order

The answer to a fragment is a function of the set of fragments presented
before it: the payload when the set becomes sufficient, a duplicate after
that, and nothing before.
-/

namespace Message

variable (message : Message)

/-- All data fragments have been presented. -/
def AllData (presented : List FragmentSpec) : Prop :=
  ∀ index < message.count, message.dataFragment index ∈ presented

/-- All data fragments, or all but one of them and the parity fragment. -/
def Sufficient (presented : List FragmentSpec) : Prop :=
  message.AllData presented ∨
    (message.parityFragment ∈ presented ∧
      ∃ missing < message.count,
        ∀ index < message.count,
          index ≠ missing → message.dataFragment index ∈ presented)

instance (presented : List FragmentSpec) :
    Decidable (message.AllData presented) :=
  inferInstanceAs
    (Decidable (∀ index < message.count,
      message.dataFragment index ∈ presented))

instance (presented : List FragmentSpec) :
    Decidable (message.Sufficient presented) :=
  inferInstanceAs
    (Decidable (message.AllData presented ∨
      (message.parityFragment ∈ presented ∧
        ∃ missing < message.count,
          ∀ index < message.count,
            index ≠ missing → message.dataFragment index ∈ presented)))

/-- The answer to one more fragment, after some have been presented. -/
def expectedResult
    (presented : List FragmentSpec)
    (spec : FragmentSpec) :
    ReassemblyResult :=
  if message.Sufficient presented then
    { payload := none, duplicate := true }
  else if message.Sufficient (presented ++ [spec]) then
    { payload := some message.payload
      recoveredByFec := decide (¬ message.AllData (presented ++ [spec])) }
  else
    { payload := none }

/-- Indices of the fragments presented. -/
def indices (presented : List FragmentSpec) : Finset Nat :=
  (presented.map FragmentSpec.fragmentIndex).toFinset

variable {message} {presented : List FragmentSpec}

theorem indices_append
    (spec : FragmentSpec) :
    indices (presented ++ [spec]) =
      insert spec.fragmentIndex (indices presented) := by
  ext index
  simp [indices]

/-- Among fragments of the message, an index names the fragment. -/
theorem mem_indices_iff
    (drawn : ∀ spec ∈ presented, spec ∈ message.fragments)
    {index : Nat} :
    index ∈ indices presented ↔
      (index < message.count ∧ message.dataFragment index ∈ presented) ∨
        (index = message.count ∧ message.parityFragment ∈ presented) := by
  simp only [indices, List.mem_toFinset, List.mem_map]
  constructor
  · intro named
    obtain ⟨spec, member, rfl⟩ := named
    rcases mem_fragments_iff.mp (drawn spec member) with
      ⟨index, inRange, shape⟩ | ⟨_, shape⟩
    · subst shape
      exact .inl ⟨inRange, member⟩
    · subst shape
      exact .inr ⟨rfl, member⟩
  · intro named
    rcases named with ⟨_, member⟩ | ⟨rfl, member⟩
    · exact ⟨_, member, rfl⟩
    · exact ⟨_, member, rfl⟩

theorem dataFragment_mem_iff
    (drawn : ∀ spec ∈ presented, spec ∈ message.fragments)
    {index : Nat}
    (inRange : index < message.count) :
    message.dataFragment index ∈ presented ↔
      index ∈ indices presented := by
  rw [mem_indices_iff drawn]
  have notLast : index ≠ message.count := Nat.ne_of_lt inRange
  simp [inRange, notLast]

theorem allData_iff
    (drawn : ∀ spec ∈ presented, spec ∈ message.fragments) :
    message.AllData presented ↔
      Finset.range message.count ⊆ indices presented := by
  constructor
  · intro allData index member
    have inRange := Finset.mem_range.mp member
    exact (dataFragment_mem_iff drawn inRange).mp (allData index inRange)
  · intro covered index inRange
    exact (dataFragment_mem_iff drawn inRange).mpr
      (covered (Finset.mem_range.mpr inRange))

theorem indices_subset
    (drawn : ∀ spec ∈ presented, spec ∈ message.fragments) :
    indices presented ⊆ Finset.range (message.count + 1) := by
  intro index member
  rw [Finset.mem_range]
  rcases (mem_indices_iff drawn).mp member with ⟨inRange, _⟩ | ⟨isLast, _⟩
  · exact Nat.lt_succ_of_lt inRange
  · exact Nat.lt_succ_of_le (Nat.le_of_eq isLast)

/-- Sufficient means as many distinct fragments as data fragments. -/
theorem sufficient_iff
    (drawn : ∀ spec ∈ presented, spec ∈ message.fragments) :
    message.Sufficient presented ↔
      message.count ≤ (indices presented).card := by
  constructor
  · intro sufficient
    rcases sufficient with allData | ⟨withParity, missing, small, others⟩
    · have covered := (allData_iff drawn).mp allData
      simpa using Finset.card_le_card covered
    · have covered :
          insert message.count
              ((Finset.range message.count).erase missing) ⊆
            indices presented := by
        intro index member
        rcases Finset.mem_insert.mp member with isLast | isData
        · exact (mem_indices_iff drawn).mpr (.inr ⟨isLast, withParity⟩)
        · obtain ⟨notMissing, inRange⟩ := Finset.mem_erase.mp isData
          have bound := Finset.mem_range.mp inRange
          exact (dataFragment_mem_iff drawn bound).mp
            (others index bound notMissing)
      have counted := Finset.card_le_card covered
      rw [Finset.card_insert_of_notMem (by simp),
        Finset.card_erase_of_mem (Finset.mem_range.mpr small),
        Finset.card_range] at counted
      omega
  · intro enough
    by_cases covered : Finset.range message.count ⊆ indices presented
    · exact .inl ((allData_iff drawn).mpr covered)
    · obtain ⟨missing, inRange, absent⟩ := Finset.not_subset.mp covered
      have small := Finset.mem_range.mp inRange
      have included :
          indices presented ⊆
            (Finset.range (message.count + 1)).erase missing := by
        intro index member
        refine Finset.mem_erase.mpr ⟨?_, indices_subset drawn member⟩
        intro same
        exact absent (same ▸ member)
      have missingMember :
          missing ∈ Finset.range (message.count + 1) :=
        Finset.mem_range.mpr (Nat.lt_succ_of_lt small)
      have same :
          indices presented =
            (Finset.range (message.count + 1)).erase missing := by
        apply Finset.eq_of_subset_of_card_le included
        rw [Finset.card_erase_of_mem missingMember, Finset.card_range]
        exact enough
      have present :
          ∀ index ≤ message.count,
            index ≠ missing → index ∈ indices presented := by
        intro index bound notMissing
        rw [same]
        exact Finset.mem_erase.mpr
          ⟨notMissing, Finset.mem_range.mpr (Nat.lt_succ_of_le bound)⟩
      refine .inr ⟨?_, missing, small, ?_⟩
      · have last := present message.count le_rfl (Nat.ne_of_gt small)
        rcases (mem_indices_iff drawn).mp last with
          ⟨impossible, _⟩ | ⟨_, withParity⟩
        · exact absurd impossible (Nat.lt_irrefl _)
        · exact withParity
      · intro index bound notMissing
        exact (dataFragment_mem_iff drawn bound).mpr
          (present index (Nat.le_of_lt bound) notMissing)

/-- Presenting more keeps a sufficient set sufficient. -/
theorem Sufficient.append
    (sufficient : message.Sufficient presented)
    (spec : FragmentSpec) :
    message.Sufficient (presented ++ [spec]) := by
  rcases sufficient with allData | ⟨withParity, missing, small, others⟩
  · exact .inl fun index inRange =>
      List.mem_append_left _ (allData index inRange)
  · exact .inr ⟨List.mem_append_left _ withParity, missing, small,
      fun index inRange notMissing =>
        List.mem_append_left _ (others index inRange notMissing)⟩

theorem not_sufficient_nil :
    ¬ message.Sufficient [] := by
  have positive := message.count_pos
  intro sufficient
  rcases sufficient with allData | ⟨withParity, _⟩
  · exact absurd (allData 0 positive) List.not_mem_nil
  · exact absurd withParity List.not_mem_nil

end Message

namespace Reassembler

/--
A call neither times out nor crowds out a message, and does not make a
completed one be forgotten.
-/
def Undisturbed
    (key : Nat × Nat)
    (reassembler : Reassembler)
    (call : Frame × Time) : Prop :=
  let purged := reassembler.purge call.2
  let after := (reassembler.add call.1 call.2).1
  (reassembler.assemblies.contains key = true →
    purged.assemblies.contains key = true) ∧
  (reassembler.completed.contains key = true →
    purged.completed.contains key = true) ∧
  (call.1.key ≠ key →
    (purged.assemblies.contains key = true →
      after.assemblies.contains key = true) ∧
    (purged.completed.contains key = true →
      after.completed.contains key = true))

instance (key : Nat × Nat) (reassembler : Reassembler)
    (call : Frame × Time) :
    Decidable (reassembler.Undisturbed key call) := by
  unfold Undisturbed
  infer_instance

/-- Fragments of one message among the frames of some calls. -/
def presentedTo
    (key : Nat × Nat)
    (calls : List (Frame × Time)) : List FragmentSpec :=
  (calls.filter fun call => call.1.key = key).map fun call =>
    call.1.spec

end Reassembler

/-- The entries of a message reflect the fragments presented so far. -/
structure Message.TrackedBy
    (message : Message)
    (reassembler : Reassembler)
    (key : Nat × Nat)
    (presented : List FragmentSpec) : Prop where
  sufficient :
    message.Sufficient presented →
    reassembler.assemblies.get? key = none ∧
      reassembler.completed.contains key = true
  insufficient :
    ¬ message.Sufficient presented →
    reassembler.completed.contains key = false ∧
      message.GenuineAt reassembler key ∧
      reassembler.heldAt key = Message.indices presented

namespace Reassembler

variable
  {message : Message}
  {reassembler : Reassembler}
  {key : Nat × Nat}
  {presented : List FragmentSpec}

/-- A lookup that only loses entries and keeps its key is unchanged. -/
theorem get?_eq_of_kept
    {ν : Type}
    {before after : OrderedDict (Nat × Nat) ν}
    (fewer :
      ∀ value, after.get? key = some value → before.get? key = some value)
    (kept :
      before.contains key = true → after.contains key = true) :
    after.get? key = before.get? key := by
  cases foundBefore : before.get? key with
  | none =>
      cases foundAfter : after.get? key with
      | none =>
          rfl
      | some value =>
          rw [fewer value foundAfter] at foundBefore
          cases foundBefore
  | some value =>
      have present : after.contains key = true := by
        apply kept
        rw [OrderedDict.contains, foundBefore]
        rfl
      obtain ⟨stored, foundAfter⟩ :=
        Option.isSome_iff_exists.mp present
      rw [foundAfter]
      rw [fewer stored foundAfter] at foundBefore
      exact foundBefore

/-- An undisturbed message survives the purge of a call. -/
theorem purge_of_undisturbed
    {call : Frame × Time}
    (undisturbed : reassembler.Undisturbed key call) :
    (reassembler.purge call.2).assemblies.get? key =
        reassembler.assemblies.get? key ∧
      (reassembler.purge call.2).completed.contains key =
        reassembler.completed.contains key := by
  obtain ⟨notTimedOut, notForgotten, _⟩ := undisturbed
  refine ⟨get?_eq_of_kept
    (fun assembly found => (assembly_purge_iff.mp found).1) notTimedOut, ?_⟩
  exact Bool.eq_iff_iff.mpr ⟨completed_of_purge, notForgotten⟩

/-- An undisturbed message survives a call for another message. -/
theorem add_other_of_undisturbed
    {call : Frame × Time}
    (undisturbed : reassembler.Undisturbed key call)
    (other : call.1.key ≠ key) :
    (reassembler.add call.1 call.2).1.assemblies.get? key =
        reassembler.assemblies.get? key ∧
      (reassembler.add call.1 call.2).1.completed.contains key =
        reassembler.completed.contains key := by
  obtain ⟨notTimedOut, notForgotten, others⟩ := undisturbed
  obtain ⟨notEvicted, notDisplaced⟩ := others other
  obtain ⟨fewerAssemblies, fewerCompleted⟩ :=
    of_add_other reassembler other call.2
  refine ⟨get?_eq_of_kept fewerAssemblies
    fun present => notEvicted (notTimedOut present), ?_⟩
  exact Bool.eq_iff_iff.mpr
    ⟨fewerCompleted, fun present => notDisplaced (notForgotten present)⟩

theorem heldAt_congr
    {other : Reassembler}
    (same :
      other.assemblies.get? key = reassembler.assemblies.get? key) :
    other.heldAt key = reassembler.heldAt key := by
  rw [heldAt, same, heldAt]

/-- A call for another message leaves the message tracked. -/
theorem trackedBy_add_other
    {call : Frame × Time}
    (tracked : message.TrackedBy reassembler key presented)
    (undisturbed : reassembler.Undisturbed key call)
    (other : call.1.key ≠ key) :
    message.TrackedBy (reassembler.add call.1 call.2).1 key presented := by
  obtain ⟨sameAssembly, sameCompleted⟩ :=
    add_other_of_undisturbed undisturbed other
  refine ⟨?_, ?_⟩
  · intro sufficient
    rw [sameAssembly, sameCompleted]
    exact tracked.sufficient sufficient
  · intro insufficient
    obtain ⟨notCompleted, genuine, held⟩ :=
      tracked.insufficient insufficient
    refine ⟨sameCompleted.trans notCompleted, ?_,
      (heldAt_congr sameAssembly).trans held⟩
    intro assembly found
    exact genuine assembly (sameAssembly ▸ found)

/-- A call for the message is answered as expected and stays tracked. -/
theorem trackedBy_add
    {frame : Frame}
    {now : Time}
    (tracked : message.TrackedBy reassembler frame.key presented)
    (drawn : ∀ spec ∈ presented, spec ∈ message.fragments)
    (member : frame.spec ∈ message.fragments)
    (undisturbed : reassembler.Undisturbed frame.key (frame, now)) :
    (reassembler.add frame now).2 =
        .ok (message.expectedResult presented frame.spec) ∧
      message.TrackedBy (reassembler.add frame now).1 frame.key
        (presented ++ [frame.spec]) := by
  obtain ⟨sameAssembly, sameCompleted⟩ :=
    purge_of_undisturbed undisturbed
  have drawnAfter :
      ∀ spec ∈ presented ++ [frame.spec], spec ∈ message.fragments := by
    intro spec inList
    rcases List.mem_append.mp inList with earlier | isNew
    · exact drawn spec earlier
    · rw [List.mem_singleton.mp isNew]
      exact member
  by_cases sufficient : message.Sufficient presented
  · obtain ⟨noAssembly, isCompleted⟩ := tracked.sufficient sufficient
    obtain ⟨answer, sameAssemblies, stillCompleted⟩ :=
      add_duplicate (sameCompleted.trans isCompleted)
    refine ⟨by rw [answer, Message.expectedResult, if_pos sufficient], ?_⟩
    refine ⟨fun _ => ⟨?_, stillCompleted⟩, fun insufficient => ?_⟩
    · rw [sameAssemblies]
      exact sameAssembly.trans noAssembly
    · exact absurd (sufficient.append frame.spec) insufficient
  · obtain ⟨notCompleted, genuine, held⟩ :=
      tracked.insufficient sufficient
    have notContained := sameCompleted.trans notCompleted
    have heldBefore :
        (reassembler.purge now).heldAt frame.key =
          Message.indices presented :=
      (heldAt_congr sameAssembly).trans held
    have heldAfter :
        insert frame.fragmentIndex
            ((reassembler.purge now).heldAt frame.key) =
          Message.indices (presented ++ [frame.spec]) := by
      rw [heldBefore, Message.indices_append]
      rfl
    by_cases enough : message.Sufficient (presented ++ [frame.spec])
    · have counted := (Message.sufficient_iff drawnAfter).mp enough
      obtain ⟨answer, noAssembly, isCompleted⟩ :=
        add_completes member genuine notContained (by rwa [heldAfter])
      refine ⟨?_, fun _ => ⟨noAssembly, isCompleted⟩,
        fun insufficient => absurd enough insufficient⟩
      rw [answer, Message.expectedResult, if_neg sufficient,
        if_pos enough]
      simp only [heldAfter, Message.allData_iff drawnAfter]
    · have counted := mt (Message.sufficient_iff drawnAfter).mpr enough
      obtain ⟨answer, ⟨updated, found, isGenuine, updatedHeld, _⟩,
        stillNotCompleted⟩ :=
        add_stores member genuine notContained
          (by rw [heldAfter]; exact Nat.lt_of_not_le counted)
      refine ⟨?_, fun nowSufficient => absurd nowSufficient enough,
        fun _ => ⟨stillNotCompleted, ?_, ?_⟩⟩
      · rw [answer, Message.expectedResult, if_neg sufficient,
          if_neg enough]
      · intro assembly otherFound
        rw [found] at otherFound
        exact Option.some.inj otherFound ▸ isGenuine
      · rw [heldAt, found, ← heldAfter]
        exact updatedHeld

/-- After undisturbed calls a message is tracked by what was presented. -/
theorem trackedBy_run
    {calls : List (Frame × Time)}
    (tracked : message.TrackedBy reassembler key presented)
    (drawn : ∀ spec ∈ presented, spec ∈ message.fragments)
    (callsDrawn :
      ∀ call ∈ calls,
        call.1.key = key → call.1.spec ∈ message.fragments)
    (undisturbed :
      machine.EveryStep (Undisturbed key) reassembler calls) :
    message.TrackedBy (machine.run reassembler calls) key
        (presented ++ presentedTo key calls) ∧
      ∀ spec ∈ presented ++ presentedTo key calls,
        spec ∈ message.fragments := by
  induction calls generalizing reassembler presented with
  | nil =>
      simpa [presentedTo, Machine.run] using ⟨tracked, drawn⟩
  | cons call calls inductionHypothesis =>
      obtain ⟨here, rest⟩ := undisturbed
      have restDrawn :
          ∀ other ∈ calls,
            other.1.key = key → other.1.spec ∈ message.fragments :=
        fun other member => callsDrawn other (List.mem_cons_of_mem _ member)
      by_cases own : call.1.key = key
      · have member := callsDrawn call List.mem_cons_self own
        subst own
        obtain ⟨_, trackedNext⟩ :=
          trackedBy_add tracked drawn member here
        have drawnNext :
            ∀ spec ∈ presented ++ [call.1.spec],
              spec ∈ message.fragments := by
          intro spec inList
          rcases List.mem_append.mp inList with earlier | isNew
          · exact drawn spec earlier
          · rw [List.mem_singleton.mp isNew]
            exact member
        have later :=
          inductionHypothesis trackedNext drawnNext restDrawn rest
        simpa [presentedTo, Machine.run, machine] using later
      · have trackedNext := trackedBy_add_other tracked here own
        have later :=
          inductionHypothesis trackedNext drawn restDrawn rest
        simpa [presentedTo, own, Machine.run, machine] using later

theorem trackedBy_init
    {timeoutSeconds completedTtlSeconds : Rat}
    {maxMessages : Int}
    {fresh : Reassembler}
    (built :
      init timeoutSeconds maxMessages completedTtlSeconds = .ok fresh)
    (message : Message)
    (key : Nat × Nat) :
    message.TrackedBy fresh key [] := by
  unfold init at built
  split at built
  · cases built
  · cases built
    refine ⟨fun sufficient =>
      absurd sufficient Message.not_sufficient_nil, fun _ => ⟨rfl, ?_, rfl⟩⟩
    intro assembly found
    cases found

/--
Fed to a fresh reassembler in any order, with any repetitions and any frames
of other messages between them, the fragments of a message that is neither
timed out nor crowded out are all answered as expected.
-/
theorem fragments_reassemble_exactly
    {timeoutSeconds completedTtlSeconds : Rat}
    {maxMessages : Int}
    {fresh : Reassembler}
    (message : Message)
    (key : Nat × Nat)
    (built :
      init timeoutSeconds maxMessages completedTtlSeconds = .ok fresh)
    (calls : List (Frame × Time))
    (drawn :
      ∀ call ∈ calls,
        call.1.key = key → call.1.spec ∈ message.fragments)
    (undisturbed : machine.EveryStep (Undisturbed key) fresh calls) :
    fragmentMessage message.payload message.fragmentPayloadBytes
        message.fecEnabled = .ok message.fragments ∧
      ∀ (position : Nat) (frame : Frame) (now : Time),
        calls[position]? = some (frame, now) →
        frame.key = key →
        (machine.answers fresh calls)[position]? =
          some (.ok (message.expectedResult
            (presentedTo key (calls.take position)) frame.spec)) := by
  refine ⟨message.fragmentMessage_eq, ?_⟩
  intro position frame now found own
  subst own
  obtain ⟨inRange, atPosition⟩ := List.getElem?_eq_some_iff.mp found
  have split :
      calls =
        calls.take position ++ (frame, now) :: calls.drop (position + 1) := by
    rw [← atPosition, ← List.drop_eq_getElem_cons inRange,
      List.take_append_drop]
  have stepsSplit := undisturbed
  rw [split] at stepsSplit
  have drawnBefore :
      ∀ call ∈ calls.take position,
        call.1.key = frame.key → call.1.spec ∈ message.fragments :=
    fun call member => drawn call (List.mem_of_mem_take member)
  obtain ⟨tracked, presentedDrawn⟩ :=
    trackedBy_run (trackedBy_init built message frame.key)
      (fun spec member => absurd member List.not_mem_nil) drawnBefore
      stepsSplit.earlier
  have member :=
    drawn (frame, now) (List.mem_of_getElem? found) rfl
  obtain ⟨answer, _⟩ :=
    trackedBy_add tracked presentedDrawn member stepsSplit.after_prefix
  rw [Machine.getElem?_answers, found]
  exact congrArg some answer

end Reassembler

/-- Frame that carries one fragment under given identifiers. -/
def FragmentSpec.frame
    (spec : FragmentSpec)
    (sessionId messageId sequence : Nat) : Frame where
  kind := .dataUp
  flags := spec.flags
  tunnelId := List.replicate 16 7
  sessionId := sessionId
  sequence := sequence
  timestampMs := 0
  messageId := messageId
  messageLen := spec.messageLen
  fragmentIndex := spec.fragmentIndex
  fragmentCount := spec.fragmentCount
  payload := spec.payload

/-- A message of two fragments and a parity fragment. -/
def Message.sample : Message where
  payload := List.replicate 256 5 ++ [8, 9]
  fragmentPayloadBytes := 256
  fecEnabled := true
  sizeInRange := Message.short.sizeInRange
  payloadFits := by decide +kernel

/-- Calls that present the parity fragment and then the first one. -/
def Reassembler.sampleCalls : List (Frame × Time) :=
  [((Message.sample.parityFragment).frame 3 1 1, 0),
    ((Message.sample.dataFragment 0).frame 3 1 2, 1)]

/-- The first fragment after the parity fragment delivers the message. -/
theorem Reassembler.fragments_reassemble_exactly_first_and_parity :
    (machine.answers fresh sampleCalls)[1]? =
      some (.ok {
        payload := some Message.sample.payload
        recoveredByFec := true }) := by
  have answered :=
    (fragments_reassemble_exactly Message.sample (3, 1) init_fresh
      sampleCalls (by decide +kernel) (by decide +kernel)).2 1
      ((Message.sample.dataFragment 0).frame 3 1 2) 1
      (by decide +kernel) (by decide +kernel)
  have expected :
      Message.sample.expectedResult (presentedTo (3, 1)
          (sampleCalls.take 1))
          ((Message.sample.dataFragment 0).frame 3 1 2).spec =
        { payload := some Message.sample.payload
          recoveredByFec := true } := by
    decide +kernel
  rw [answered, expected]

end H3ntun
