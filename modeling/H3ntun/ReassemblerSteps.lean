import H3ntun.GenuineAssembly

namespace H3ntun

/-!
# What one call does to one message

Each operation of the reassembler is described by the lookups it can change.
Calls for other messages only ever remove the entries of a message.
-/

namespace Reassembler

variable {reassembler : Reassembler} {key : Nat × Nat} {now : Time}

/-- Purging keeps exactly the assemblies that were updated recently. -/
theorem assembly_purge_iff
    {assembly : Assembly} :
    (reassembler.purge now).assemblies.get? key = some assembly ↔
      reassembler.assemblies.get? key = some assembly ∧
        now - assembly.updatedAt ≤ reassembler.timeoutSeconds := by
  simp [purge, OrderedDict.get?_filter_eq_some_iff]

/-- Purging before its timeout leaves an assembly alone. -/
theorem get?_purge_of_recent
    (recent :
      ∀ assembly,
        reassembler.assemblies.get? key = some assembly →
        now - assembly.updatedAt ≤ reassembler.timeoutSeconds) :
    (reassembler.purge now).assemblies.get? key =
      reassembler.assemblies.get? key := by
  cases found : reassembler.assemblies.get? key with
  | none =>
      rw [Option.eq_none_iff_forall_ne_some]
      intro assembly purged
      rw [(assembly_purge_iff.mp purged).1] at found
      cases found
  | some assembly =>
      exact assembly_purge_iff.mpr ⟨found, recent assembly found⟩

theorem completed_of_purge
    (contained :
      (reassembler.purge now).completed.contains key = true) :
    reassembler.completed.contains key = true := by
  rw [OrderedDict.contains_iff, OrderedDict.mem_keys_iff] at contained ⊢
  obtain ⟨time, found⟩ := contained
  exact ⟨time, OrderedDict.get?_of_dropWhile found⟩

/-- Making room only removes assemblies. -/
theorem assembly_of_makeRoom
    {assembly : Assembly}
    (found :
      reassembler.makeRoom.assemblies.get? key = some assembly) :
    reassembler.assemblies.get? key = some assembly := by
  unfold makeRoom at found
  split at found
  · split at found
    · exact OrderedDict.get?_of_erase found
    · exact found
  · exact found

@[simp] theorem completed_makeRoom :
    reassembler.makeRoom.completed = reassembler.completed := by
  unfold makeRoom
  split
  · split <;> rfl
  · rfl

@[simp] theorem maxMessages_makeRoom :
    reassembler.makeRoom.maxMessages = reassembler.maxMessages := by
  unfold makeRoom
  split
  · split <;> rfl
  · rfl

/-- Opening an assembly leaves the completed messages alone. -/
theorem openAssembly_fst
    (reassembler : Reassembler)
    (frame : Frame)
    (now : Time) :
    (reassembler.openAssembly frame now).1.completed =
        reassembler.completed ∧
      (reassembler.openAssembly frame now).1.maxMessages =
        reassembler.maxMessages := by
  unfold openAssembly
  split
  · simp
  · split <;> simp

/-- Opening an assembly for another message only removes entries. -/
theorem assembly_of_openAssembly
    {frame : Frame}
    {assembly : Assembly}
    (other : frame.key ≠ key)
    (found :
      (reassembler.openAssembly frame now).1.assemblies.get? key =
        some assembly) :
    reassembler.assemblies.get? key = some assembly := by
  unfold openAssembly at found
  split at found
  · rw [OrderedDict.get?_set_other _ other.symm] at found
    exact assembly_of_makeRoom found
  · split at found <;> exact found

/-- A completed message is no longer assembled and is remembered. -/
theorem complete_self :
    (reassembler.complete key now).assemblies.get? key = none ∧
      (reassembler.complete key now).completed.contains key = true := by
  refine ⟨OrderedDict.get?_erase_same _ _, ?_⟩
  have positive : 0 < reassembler.maxMessages * 2 := by
    have := reassembler.maxMessagesPositive
    omega
  have stored := OrderedDict.get?_set_same reassembler.completed key now
  rw [OrderedDict.contains, complete,
    OrderedDict.get?_keepLast_moveToEnd stored positive]
  rfl

/-- Completing another message only removes entries. -/
theorem of_complete
    (reassembler : Reassembler)
    {completing : Nat × Nat}
    (other : completing ≠ key)
    (now : Time) :
    (reassembler.complete completing now).assemblies.get? key =
        reassembler.assemblies.get? key ∧
      ((reassembler.complete completing now).completed.contains key =
          true →
        reassembler.completed.contains key = true) := by
  refine ⟨OrderedDict.get?_erase_other _ other.symm, ?_⟩
  intro contained
  rw [OrderedDict.contains_iff, OrderedDict.mem_keys_iff] at contained ⊢
  obtain ⟨time, found⟩ := contained
  have kept := OrderedDict.get?_of_keepLast found
  rw [OrderedDict.get?_moveToEnd,
    OrderedDict.get?_set_other _ other.symm] at kept
  exact ⟨time, kept⟩

/-- Placing a frame leaves the entries of other messages as they are. -/
theorem of_addTo_other
    (reassembler : Reassembler)
    (assembly : Assembly)
    {frame : Frame}
    (other : frame.key ≠ key)
    (now : Time) :
    (reassembler.addTo assembly frame now).1.assemblies.get? key =
        reassembler.assemblies.get? key ∧
      ((reassembler.addTo assembly frame now).1.completed.contains key =
          true →
        reassembler.completed.contains key = true) := by
  have stored :=
    OrderedDict.get?_set_other reassembler.assemblies other.symm
      (assembly.place frame now).1
  simp only [addTo]
  split
  · exact ⟨stored, id⟩
  · exact ⟨stored, id⟩
  · obtain ⟨sameAssembly, sameCompleted⟩ :=
      of_complete
        { reassembler with
          assemblies :=
            reassembler.assemblies.set frame.key
              (assembly.place frame now).1 }
        other now
    exact ⟨sameAssembly.trans stored, sameCompleted⟩

/-- What `add` can do, by the result of the lookup it makes. -/
theorem add_cases
    (reassembler : Reassembler)
    (frame : Frame)
    (now : Time) :
    ((reassembler.purge now).completed.contains frame.key = true ∧
      reassembler.add frame now =
        ({ reassembler.purge now with
            completed :=
              (reassembler.purge now).completed.moveToEnd frame.key },
          .ok { payload := none, duplicate := true })) ∨
      ((reassembler.purge now).completed.contains frame.key = false ∧
        ∃ opened,
          ((reassembler.purge now).openAssembly frame now).1 = opened ∧
          ((∃ failure,
            ((reassembler.purge now).openAssembly frame now).2 =
                .error failure ∧
              reassembler.add frame now = (opened, .error failure)) ∨
            ∃ assembly,
              ((reassembler.purge now).openAssembly frame now).2 =
                  .ok assembly ∧
                reassembler.add frame now =
                  opened.addTo assembly frame now)) := by
  cases contained :
      (reassembler.purge now).completed.contains frame.key with
  | true =>
      refine .inl ⟨rfl, ?_⟩
      simp [add, contained]
  | false =>
      refine .inr ⟨rfl, _, rfl, ?_⟩
      rcases shape : (reassembler.purge now).openAssembly frame now with
        ⟨opened, failure | assembly⟩
      · exact .inl ⟨failure, rfl, by simp [add, contained, shape]⟩
      · exact .inr ⟨assembly, rfl, by simp [add, contained, shape]⟩

/-- A call for another message only removes the entries of a message. -/
theorem of_add_other
    (reassembler : Reassembler)
    {frame : Frame}
    (other : frame.key ≠ key)
    (now : Time) :
    (∀ assembly,
      (reassembler.add frame now).1.assemblies.get? key = some assembly →
      reassembler.assemblies.get? key = some assembly) ∧
      ((reassembler.add frame now).1.completed.contains key = true →
        reassembler.completed.contains key = true) := by
  have opened :
      ∀ assembly,
        ((reassembler.purge now).openAssembly frame now).1.assemblies.get?
            key = some assembly →
        reassembler.assemblies.get? key = some assembly :=
    fun assembly found =>
      (assembly_purge_iff.mp (assembly_of_openAssembly other found)).1
  have sameCompleted :=
    ((reassembler.purge now).openAssembly_fst frame now).1
  rcases add_cases reassembler frame now with
    ⟨_, shape⟩ | ⟨_, _, rfl, ⟨_, _, shape⟩ | ⟨assembly, _, shape⟩⟩
  · rw [shape]
    refine ⟨fun assembly found => (assembly_purge_iff.mp found).1, ?_⟩
    intro contained
    simp only [OrderedDict.contains, OrderedDict.get?_moveToEnd]
      at contained
    exact completed_of_purge contained
  · rw [shape]
    exact ⟨opened, fun contained =>
      completed_of_purge (sameCompleted ▸ contained)⟩
  · rw [shape]
    obtain ⟨sameAssembly, fewerCompleted⟩ :=
      of_addTo_other
        ((reassembler.purge now).openAssembly frame now).1 assembly other
        now
    refine ⟨fun found stored => opened found (sameAssembly ▸ stored), ?_⟩
    intro contained
    exact completed_of_purge (sameCompleted ▸ fewerCompleted contained)

/-- Indices of the fragments held for a message. -/
def heldAt (reassembler : Reassembler) (key : Nat × Nat) : Finset Nat :=
  match reassembler.assemblies.get? key with
  | some assembly => assembly.held
  | none => ∅

/-- Losing entries only loses held fragments. -/
theorem heldAt_subset
    {fewer more : Reassembler}
    {key : Nat × Nat}
    (kept :
      ∀ assembly,
        fewer.assemblies.get? key = some assembly →
        more.assemblies.get? key = some assembly) :
    fewer.heldAt key ⊆ more.heldAt key := by
  cases found : fewer.assemblies.get? key with
  | none =>
      simp [heldAt, found]
  | some assembly =>
      simp [heldAt, found, kept assembly found]

end Reassembler

/-- The assembly under a key, if any, is genuine. -/
def Message.GenuineAt
    (message : Message)
    (reassembler : Reassembler)
    (key : Nat × Nat) : Prop :=
  ∀ assembly,
    reassembler.assemblies.get? key = some assembly →
    message.Genuine assembly

namespace Reassembler

variable {reassembler : Reassembler} {message : Message} {frame : Frame}

theorem genuineAt_purge
    {key : Nat × Nat}
    (genuine : message.GenuineAt reassembler key)
    (now : Time) :
    message.GenuineAt (reassembler.purge now) key :=
  fun assembly found => genuine assembly (assembly_purge_iff.mp found).1

/-- The assembly opened for a fragment of the message is genuine. -/
theorem openAssembly_of_genuine
    (member : frame.spec ∈ message.fragments)
    (genuine : message.GenuineAt reassembler frame.key)
    (now : Time) :
    ∃ assembly,
      (reassembler.openAssembly frame now).2 = .ok assembly ∧
        message.Genuine assembly ∧
        assembly.held = reassembler.heldAt frame.key := by
  obtain ⟨_, messageLen, fragmentCount⟩ := Message.carries_of_mem member
  cases found : reassembler.assemblies.get? frame.key with
  | none =>
      refine ⟨{
        messageLen := frame.messageLen
        fragmentCount := frame.fragmentCount
        createdAt := now
        updatedAt := now }, by simp only [openAssembly, found], ?_, ?_⟩
      · refine ⟨messageLen, fragmentCount, ?_, ?_⟩
        · intro index piece stored
          cases stored
        · intro parity stored
          cases stored
      · simp [heldAt, found, Assembly.held, Assembly.heldData,
          OrderedDict.keys]
  | some assembly =>
      have isGenuine := genuine assembly found
      refine ⟨assembly, ?_, isGenuine, ?_⟩
      · simp [openAssembly, found, isGenuine.messageLen, messageLen,
          isGenuine.fragmentCount, fragmentCount]
      · simp [heldAt, found]

/-- The fragment that makes an assembly sufficient completes the message. -/
theorem addTo_completes
    {assembly : Assembly}
    (reassembler : Reassembler)
    (member : frame.spec ∈ message.fragments)
    (genuine : message.Genuine assembly)
    (enough :
      message.count ≤
        (insert frame.fragmentIndex assembly.held).card)
    (now : Time) :
    (reassembler.addTo assembly frame now).2 =
        .ok {
          payload := some message.payload
          recoveredByFec :=
            decide (¬ Finset.range message.count ⊆
              insert frame.fragmentIndex assembly.held) } ∧
      (reassembler.addTo assembly frame now).1.assemblies.get? frame.key =
        none ∧
      (reassembler.addTo assembly frame now).1.completed.contains
        frame.key = true := by
  obtain ⟨carries, _⟩ := Message.carries_of_mem member
  obtain ⟨updated, isGenuine, _, held, placed⟩ :=
    genuine.place_eq carries now
  rw [← held] at enough
  have assembled := isGenuine.assemble_complete enough
  simp only [addTo, placed, assembled, held]
  exact ⟨trivial, complete_self⟩

/-- A fragment that leaves an assembly insufficient is stored. -/
theorem addTo_stores
    {assembly : Assembly}
    (reassembler : Reassembler)
    (member : frame.spec ∈ message.fragments)
    (genuine : message.Genuine assembly)
    (tooFew :
      (insert frame.fragmentIndex assembly.held).card < message.count)
    (now : Time) :
    (reassembler.addTo assembly frame now).2 = .ok { payload := none } ∧
      (∃ updated,
        (reassembler.addTo assembly frame now).1.assemblies.get?
            frame.key = some updated ∧
          message.Genuine updated ∧
          updated.held = insert frame.fragmentIndex assembly.held ∧
          updated.updatedAt = now) ∧
      (reassembler.addTo assembly frame now).1.completed =
        reassembler.completed := by
  obtain ⟨carries, _⟩ := Message.carries_of_mem member
  obtain ⟨updated, isGenuine, updatedAt, held, placed⟩ :=
    genuine.place_eq carries now
  have assembled := isGenuine.assemble_incomplete (by rwa [held])
  simp only [addTo, placed, assembled]
  exact ⟨trivial,
    ⟨updated, OrderedDict.get?_set_same _ _ _, isGenuine, held, updatedAt⟩,
    trivial⟩

/-- A fragment of a remembered message is a duplicate. -/
theorem add_duplicate
    {now : Time}
    (contained :
      (reassembler.purge now).completed.contains frame.key = true) :
    (reassembler.add frame now).2 =
        .ok { payload := none, duplicate := true } ∧
      (reassembler.add frame now).1.assemblies =
        (reassembler.purge now).assemblies ∧
      (reassembler.add frame now).1.completed.contains frame.key =
        true := by
  rcases add_cases reassembler frame now with
    ⟨_, shape⟩ | ⟨notContained, _⟩
  · rw [shape]
    refine ⟨rfl, rfl, ?_⟩
    simpa only [OrderedDict.contains, OrderedDict.get?_moveToEnd]
      using contained
  · rw [contained] at notContained
    cases notContained

/-- `add` of a fragment of a message that is not remembered. -/
theorem add_of_not_completed
    {now : Time}
    (member : frame.spec ∈ message.fragments)
    (genuine : message.GenuineAt reassembler frame.key)
    (notContained :
      (reassembler.purge now).completed.contains frame.key = false) :
    ∃ (opened : Reassembler) (assembly : Assembly),
      reassembler.add frame now = opened.addTo assembly frame now ∧
        message.Genuine assembly ∧
        assembly.held = (reassembler.purge now).heldAt frame.key ∧
        opened.completed = (reassembler.purge now).completed := by
  obtain ⟨assembly, opens, isGenuine, held⟩ :=
    openAssembly_of_genuine member (genuineAt_purge genuine now) now
  have sameCompleted :=
    ((reassembler.purge now).openAssembly_fst frame now).1
  rcases add_cases reassembler frame now with
    ⟨contained, _⟩ | ⟨_, _, rfl, ⟨_, fails, _⟩ | ⟨other, opensOther, shape⟩⟩
  · rw [contained] at notContained
    cases notContained
  · rw [opens] at fails
    cases fails
  · have sameAssembly := Except.ok.inj (opens.symm.trans opensOther)
    subst sameAssembly
    exact ⟨_, assembly, shape, isGenuine, held, sameCompleted⟩

/-- The fragment that makes a message sufficient delivers its payload. -/
theorem add_completes
    {now : Time}
    (member : frame.spec ∈ message.fragments)
    (genuine : message.GenuineAt reassembler frame.key)
    (notContained :
      (reassembler.purge now).completed.contains frame.key = false)
    (enough :
      message.count ≤
        (insert frame.fragmentIndex
          ((reassembler.purge now).heldAt frame.key)).card) :
    (reassembler.add frame now).2 =
        .ok {
          payload := some message.payload
          recoveredByFec :=
            decide (¬ Finset.range message.count ⊆
              insert frame.fragmentIndex
                ((reassembler.purge now).heldAt frame.key)) } ∧
      (reassembler.add frame now).1.assemblies.get? frame.key = none ∧
      (reassembler.add frame now).1.completed.contains frame.key =
        true := by
  obtain ⟨opened, assembly, shape, isGenuine, held, _⟩ :=
    add_of_not_completed member genuine notContained
  rw [shape, ← held]
  exact addTo_completes opened member isGenuine (by rwa [held]) now

/-- A fragment that leaves a message insufficient is stored. -/
theorem add_stores
    {now : Time}
    (member : frame.spec ∈ message.fragments)
    (genuine : message.GenuineAt reassembler frame.key)
    (notContained :
      (reassembler.purge now).completed.contains frame.key = false)
    (tooFew :
      (insert frame.fragmentIndex
        ((reassembler.purge now).heldAt frame.key)).card <
          message.count) :
    (reassembler.add frame now).2 = .ok { payload := none } ∧
      (∃ updated,
        (reassembler.add frame now).1.assemblies.get? frame.key =
            some updated ∧
          message.Genuine updated ∧
          updated.held =
            insert frame.fragmentIndex
              ((reassembler.purge now).heldAt frame.key) ∧
          updated.updatedAt = now) ∧
      (reassembler.add frame now).1.completed.contains frame.key =
        false := by
  obtain ⟨opened, assembly, shape, isGenuine, held, sameCompleted⟩ :=
    add_of_not_completed member genuine notContained
  obtain ⟨answer, stored, completed⟩ :=
    addTo_stores opened member isGenuine (by rwa [held]) now
  rw [shape, ← held]
  refine ⟨answer, stored, ?_⟩
  rw [completed, sameCompleted, notContained]

/-- What a fragment leaves behind that does not complete its message. -/
structure Stores
    (message : Message)
    (before after : Reassembler)
    (frame : Frame)
    (now : Time) : Prop where
  genuine :
    message.GenuineAt after frame.key
  held :
    after.heldAt frame.key ⊆
      insert frame.fragmentIndex ((before.purge now).heldAt frame.key)
  fewer :
    after.heldAt frame.key ⊆ (before.purge now).heldAt frame.key ∨
      (after.heldAt frame.key).card < message.count
  completed :
    after.completed.contains frame.key = true →
      before.completed.contains frame.key = true
  updatedAt :
    ∀ assembly,
      after.assemblies.get? frame.key = some assembly →
      assembly.updatedAt = now ∨
        before.assemblies.get? frame.key = some assembly
  stored :
    before.completed.contains frame.key = false →
      insert frame.fragmentIndex
          ((before.purge now).heldAt frame.key) ⊆
        after.heldAt frame.key

/--
A fragment of the message is answered without a payload and at most stored,
or it completes the message out of the fragments held.
-/
theorem add_own
    (member : frame.spec ∈ message.fragments)
    (genuine : message.GenuineAt reassembler frame.key)
    (now : Time) :
    (∃ result,
      (reassembler.add frame now).2 = .ok result ∧
        result.payload = none ∧
        Stores message reassembler (reassembler.add frame now).1 frame
          now) ∨
      ∃ result,
        (reassembler.add frame now).2 = .ok result ∧
          result.payload = some message.payload ∧
          (reassembler.add frame now).1.assemblies.get? frame.key =
            none ∧
          message.count ≤
            (insert frame.fragmentIndex
              ((reassembler.purge now).heldAt frame.key)).card := by
  cases contained :
      (reassembler.purge now).completed.contains frame.key with
  | true =>
      obtain ⟨answer, sameAssemblies, _⟩ := add_duplicate contained
      have sameHeld :
          (reassembler.add frame now).1.heldAt frame.key =
            (reassembler.purge now).heldAt frame.key := by
        rw [heldAt, sameAssemblies, heldAt]
      refine .inl ⟨_, answer, rfl, ?_⟩
      refine {
        genuine := ?_
        held := sameHeld.subset.trans (Finset.subset_insert _ _)
        fewer := .inl sameHeld.subset
        completed := fun _ => completed_of_purge contained
        updatedAt := ?_
        stored := ?_
      }
      · intro assembly found
        rw [sameAssemblies] at found
        exact genuineAt_purge genuine now assembly found
      · intro assembly found
        rw [sameAssemblies] at found
        exact .inr (assembly_purge_iff.mp found).1
      · intro notContained
        rw [completed_of_purge contained] at notContained
        cases notContained
  | false =>
      by_cases enough :
          message.count ≤
            (insert frame.fragmentIndex
              ((reassembler.purge now).heldAt frame.key)).card
      · obtain ⟨answer, noAssembly, _⟩ :=
          add_completes member genuine contained enough
        exact .inr ⟨_, answer, rfl, noAssembly, enough⟩
      · obtain ⟨answer, ⟨updated, found, isGenuine, held, updatedAt⟩,
            notCompleted⟩ :=
          add_stores member genuine contained (Nat.lt_of_not_le enough)
        have sameHeld :
            (reassembler.add frame now).1.heldAt frame.key =
              insert frame.fragmentIndex
                ((reassembler.purge now).heldAt frame.key) := by
          rw [heldAt, found]
          exact held
        refine .inl ⟨_, answer, rfl, ?_⟩
        refine {
          genuine := ?_
          held := sameHeld.subset
          fewer := .inr (by rw [sameHeld]; exact Nat.lt_of_not_le enough)
          completed := ?_
          updatedAt := ?_
          stored := fun _ => sameHeld.symm.subset
        }
        · intro assembly otherFound
          rw [found] at otherFound
          exact Option.some.inj otherFound ▸ isGenuine
        · intro isCompleted
          rw [notCompleted] at isCompleted
          cases isCompleted
        · intro assembly otherFound
          rw [found] at otherFound
          exact .inl (Option.some.inj otherFound ▸ updatedAt)

end Reassembler

end H3ntun
