import H3ntun.RejectedFragments

namespace H3ntun

/-!
# Bounds of the reassembler

The tables of a reassembler stay inside their limits whatever authenticated
frames arrive, also through calls that raise.  A message that finds the table
full takes the place of the assembly that has been silent longest.
-/

namespace Assembly

/-- The data fragments are among those the assembly says it has. -/
structure InRange (assembly : Assembly) : Prop where
  indices :
    ∀ index ∈ assembly.fragments.keys, index < assembly.fragmentCount

variable {assembly : Assembly} {frame : Frame} {now : Time}

/-- Distinct indices in a range are not more than the range has. -/
theorem InRange.length_le
    (inRange : assembly.InRange) :
    assembly.fragments.length ≤ assembly.fragmentCount := by
  have inside :
      assembly.fragments.keys ⊆ List.range assembly.fragmentCount :=
    fun index member => List.mem_range.mpr (inRange.indices index member)
  have fewer :=
    (List.subperm_of_subset assembly.fragments.nodup_keys inside).length_le
  rwa [OrderedDict.length_keys, List.length_range] at fewer

/-- Storing a fragment the assembly can have. -/
theorem InRange.store
    (inRange : assembly.InRange)
    {index : Nat}
    (small : index < assembly.fragmentCount)
    (piece : Bytes) :
    { assembly with
      fragments := assembly.fragments.set index piece }.InRange := by
  refine ⟨fun other member => ?_⟩
  rcases OrderedDict.mem_keys_set.mp member with rfl | held
  · exact small
  · exact inRange.indices other held

/-- Finishing changes nothing, whatever its outcome. -/
theorem finish_fst
    (assembly : Assembly)
    (recovered : Bool)
    (mismatch : String) :
    (assembly.finish recovered mismatch).1 = assembly := by
  unfold finish
  split
  · rfl
  · split <;> rfl

/-- Recovering at most stores the fragment that is missing. -/
theorem recover_fst
    (assembly : Assembly)
    (parity : Bytes) :
    (assembly.recover parity).1 = assembly ∨
      ∃ missing piece,
        missing < assembly.fragmentCount ∧
          (assembly.recover parity).1 =
            { assembly with
              fragments := assembly.fragments.set missing piece } := by
  unfold recover
  split
  · exact .inl rfl
  · rename_i missing search
    have small : missing < assembly.fragmentCount :=
      List.mem_range.mp (List.mem_of_find?_eq_some search)
    dsimp only
    generalize
      (if (missing : Int) < assembly.fragmentCount - 1 then
          (parity.length : Int)
        else
          assembly.messageLen -
            parity.length * (assembly.fragmentCount - 1)) =
        expectedLength
    split
    · exact .inl rfl
    · split
      · exact .inl rfl
      · split
        · exact .inl rfl
        · exact .inr ⟨missing, _, small, finish_fst _ _ _⟩

/-- Assembling at most stores the fragment that is missing. -/
theorem assemble_fst
    (assembly : Assembly) :
    assembly.assemble.1 = assembly ∨
      ∃ missing piece,
        missing < assembly.fragmentCount ∧
          assembly.assemble.1 =
            { assembly with
              fragments := assembly.fragments.set missing piece } := by
  unfold assemble
  split
  · exact .inl (finish_fst _ _ _)
  · split
    · exact .inl rfl
    · split
      · exact .inl rfl
      · exact recover_fst _ _

theorem InRange.assemble
    (inRange : assembly.InRange) :
    assembly.assemble.1.InRange := by
  rcases assembly.assemble_fst with
    unchanged | ⟨missing, piece, small, extended⟩
  · rwa [unchanged]
  · rw [extended]
    exact inRange.store small piece

/-- Placing a frame stores only a fragment the assembly can have. -/
theorem InRange.place
    (inRange : assembly.InRange)
    (valid : frame.Valid)
    (sameCount : assembly.fragmentCount = frame.fragmentCount)
    (now : Time) :
    (assembly.place frame now).1.InRange := by
  have refreshed : { assembly with updatedAt := now }.InRange :=
    ⟨inRange.indices⟩
  unfold Assembly.place
  cases parity : frame.isParity with
  | true =>
      simp only [↓reduceIte]
      split
      · exact refreshed
      · exact InRange.assemble ⟨inRange.indices⟩
  | false =>
      simp only [Bool.false_eq_true, ↓reduceIte]
      split
      · exact refreshed
      · have small : frame.fragmentIndex < assembly.fragmentCount := by
          rw [sameCount]
          exact valid.fragmentIndex_lt parity
        exact (refreshed.store small frame.payload).assemble

end Assembly

namespace Reassembler

/-- The tables are inside their limits and agree with each other. -/
structure TablesBounded (reassembler : Reassembler) : Prop where
  assemblies :
    reassembler.assemblies.length ≤ reassembler.maxMessages
  completed :
    reassembler.completed.length ≤ 2 * reassembler.maxMessages
  disjoint :
    ∀ key ∈ reassembler.assemblies.keys,
      key ∉ reassembler.completed.keys
  inRange :
    ∀ assembly ∈ reassembler.assemblies.values, assembly.InRange

variable
  {reassembler : Reassembler}
  {frame : Frame}
  {now : Time}

/-- Tables stay bounded when entries are removed. -/
theorem TablesBounded.sublist
    {after : Reassembler}
    (bounded : reassembler.TablesBounded)
    (sameLimit : after.maxMessages = reassembler.maxMessages)
    (fewerAssemblies :
      after.assemblies.entries.Sublist reassembler.assemblies.entries)
    (fewerCompleted :
      after.completed.keys.Subperm reassembler.completed.keys) :
    after.TablesBounded where
  assemblies := by
    rw [sameLimit]
    exact fewerAssemblies.length_le.trans bounded.assemblies
  completed := by
    have shorter := fewerCompleted.length_le
    rw [OrderedDict.length_keys, OrderedDict.length_keys] at shorter
    rw [sameLimit]
    exact shorter.trans bounded.completed
  disjoint key member isCompleted :=
    bounded.disjoint key ((fewerAssemblies.map Prod.fst).subset member)
      (fewerCompleted.subset isCompleted)
  inRange assembly member :=
    bounded.inRange assembly
      ((fewerAssemblies.map Prod.snd).subset member)

theorem TablesBounded.purge
    (bounded : reassembler.TablesBounded)
    (now : Time) :
    (reassembler.purge now).TablesBounded :=
  bounded.sublist rfl List.filter_sublist
    ((purge_completed_sublist reassembler now).map Prod.fst).subperm

/-- A full table has an assembly that gives way, and it is an oldest one. -/
theorem exists_evicts
    (full : reassembler.maxMessages ≤ reassembler.assemblies.length) :
    ∃ key evicted,
      reassembler.Evicts key ∧
        reassembler.assemblies.get? key = some evicted ∧
        ∀ assembly ∈ reassembler.assemblies.values,
          evicted.updatedAt ≤ assembly.updatedAt := by
  have notEmpty : reassembler.assemblies.entries ≠ [] := by
    have positive := reassembler.maxMessagesPositive
    rw [← List.length_pos_iff]
    exact lt_of_lt_of_le positive full
  obtain ⟨oldest, isOldest⟩ :=
    Option.ne_none_iff_exists'.mp
      (fun isNone => notEmpty (List.argmin_eq_none.mp isNone) :
        reassembler.assemblies.entries.argmin
          (fun entry => entry.2.updatedAt) ≠ none)
  refine ⟨oldest.1, oldest.2, ⟨full, ?_⟩, ?_, ?_⟩
  · rw [oldest?, isOldest]
    rfl
  · exact OrderedDict.get?_eq_some_iff.mpr (List.argmin_mem isOldest)
  · intro assembly member
    obtain ⟨entry, inEntries, rfl⟩ := List.mem_map.mp member
    exact List.le_of_mem_argmin (f := fun entry => entry.2.updatedAt)
      inEntries isOldest

/-- Making room leaves a place in the table. -/
theorem length_makeRoom_lt
    (bounded :
      reassembler.assemblies.length ≤ reassembler.maxMessages) :
    reassembler.makeRoom.assemblies.length < reassembler.maxMessages := by
  by_cases full : reassembler.assemblies.length ≥ reassembler.maxMessages
  · obtain ⟨key, evicted, ⟨_, oldest⟩, found, _⟩ := exists_evicts full
    have removed :=
      OrderedDict.length_erase_of_mem
        (OrderedDict.mem_keys_iff.mpr ⟨evicted, found⟩)
    simp only [makeRoom, full, ↓reduceIte, oldest]
    omega
  · simp only [makeRoom, full, ↓reduceIte]
    omega

theorem makeRoom_sublist
    (reassembler : Reassembler) :
    reassembler.makeRoom.assemblies.entries.Sublist
      reassembler.assemblies.entries := by
  unfold makeRoom
  split
  · split
    · exact List.filter_sublist
    · exact List.Sublist.refl _
  · exact List.Sublist.refl _

/-- Storing an assembly under a key that is present or finds room. -/
theorem TablesBounded.store
    {key : Nat × Nat}
    {assembly : Assembly}
    (bounded : reassembler.TablesBounded)
    (room :
      key ∈ reassembler.assemblies.keys ∨
        reassembler.assemblies.length < reassembler.maxMessages)
    (notCompleted : key ∉ reassembler.completed.keys)
    (inRange : assembly.InRange) :
    { reassembler with
      assemblies :=
        reassembler.assemblies.set key assembly }.TablesBounded where
  assemblies := by
    by_cases present : key ∈ reassembler.assemblies.keys
    · have sameLength :=
        OrderedDict.length_set_of_mem present assembly
      exact sameLength.trans_le bounded.assemblies
    · have longer :=
        OrderedDict.length_set_of_not_mem present assembly
      exact longer.trans_le (room.resolve_left present)
  completed := bounded.completed
  disjoint other member := by
    rcases OrderedDict.mem_keys_set.mp member with rfl | before
    · exact notCompleted
    · exact bounded.disjoint other before
  inRange := OrderedDict.forall_values_set bounded.inRange inRange

/-- What finding or creating an assembly leaves and returns. -/
theorem TablesBounded.openAssembly
    (bounded : reassembler.TablesBounded)
    (notCompleted : frame.key ∉ reassembler.completed.keys)
    (now : Time) :
    (reassembler.openAssembly frame now).1.TablesBounded ∧
      ∀ assembly,
        (reassembler.openAssembly frame now).2 = .ok assembly →
        frame.key ∈
            (reassembler.openAssembly frame now).1.assemblies.keys ∧
          assembly.InRange ∧
          assembly.fragmentCount = frame.fragmentCount := by
  cases found : reassembler.assemblies.get? frame.key with
  | none =>
      have roomy : reassembler.makeRoom.TablesBounded :=
        bounded.sublist maxMessages_makeRoom
          reassembler.makeRoom_sublist
          (by rw [completed_makeRoom])
      have started : (startedBy frame now).InRange :=
        ⟨fun index member => absurd member (List.not_mem_nil)⟩
      simp only [Reassembler.openAssembly, found]
      refine ⟨roomy.store (.inr ?_) ?_ started, ?_⟩
      · rw [maxMessages_makeRoom]
        exact length_makeRoom_lt bounded.assemblies
      · rwa [completed_makeRoom]
      · intro assembly isOk
        rw [← Except.ok.inj isOk]
        exact ⟨OrderedDict.mem_keys_set.mpr (.inl rfl), started, rfl⟩
  | some assembly =>
      have present : frame.key ∈ reassembler.assemblies.keys :=
        OrderedDict.mem_keys_iff.mpr ⟨assembly, found⟩
      have inTable : assembly ∈ reassembler.assemblies.values :=
        List.mem_map.mpr
          ⟨_, OrderedDict.get?_eq_some_iff.mp found, rfl⟩
      simp only [Reassembler.openAssembly, found]
      split
      · exact ⟨bounded, fun _ isOk => by cases isOk⟩
      · rename_i consistent
        refine ⟨bounded, fun other isOk => ?_⟩
        rw [← Except.ok.inj isOk]
        refine ⟨present, bounded.inRange assembly inTable, ?_⟩
        by_contra different
        exact consistent (.inr different)

/-- A completed message leaves the one table and enters the other. -/
theorem TablesBounded.complete
    {key : Nat × Nat}
    (bounded : reassembler.TablesBounded)
    (now : Time) :
    (reassembler.complete key now).TablesBounded where
  assemblies :=
    (List.filter_sublist.length_le).trans bounded.assemblies
  completed := by
    have atMost :=
      OrderedDict.length_keepLast_le
        ((reassembler.completed.set key now).moveToEnd key)
        (reassembler.maxMessages * 2)
    exact atMost.trans_eq (mul_comm _ _)
  disjoint other member isCompleted := by
    obtain ⟨before, different⟩ := OrderedDict.mem_keys_of_erase member
    obtain ⟨completedAt, kept⟩ := OrderedDict.mem_keys_iff.mp isCompleted
    have stored := OrderedDict.get?_of_keepLast kept
    rw [OrderedDict.get?_moveToEnd,
      OrderedDict.get?_set_other _ different] at stored
    exact bounded.disjoint other before
      (OrderedDict.mem_keys_iff.mpr ⟨completedAt, stored⟩)
  inRange := OrderedDict.forall_values_erase bounded.inRange

/-- Working on the assembly of a frame, also when it raises. -/
theorem TablesBounded.addTo
    {assembly : Assembly}
    (bounded : reassembler.TablesBounded)
    (present : frame.key ∈ reassembler.assemblies.keys)
    (placed : (assembly.place frame now).1.InRange) :
    (reassembler.addTo assembly frame now).1.TablesBounded := by
  have updated :
      { reassembler with
        assemblies :=
          reassembler.assemblies.set frame.key
            (assembly.place frame now).1 }.TablesBounded :=
    bounded.store (.inl present) (bounded.disjoint _ present) placed
  simp only [Reassembler.addTo]
  split
  · exact updated
  · exact updated
  · exact updated.complete now

/-- `add` keeps the bounds for every frame that can be decoded. -/
theorem TablesBounded.add
    (bounded : reassembler.TablesBounded)
    (valid : frame.Valid)
    (now : Time) :
    (reassembler.add frame now).1.TablesBounded := by
  have purged := bounded.purge now
  rcases add_cases reassembler frame now with
    ⟨_, shape⟩ |
      ⟨notContained, _, rfl, ⟨_, _, shape⟩ | ⟨assembly, opens, shape⟩⟩
  · rw [shape]
    exact purged.sublist rfl (List.Sublist.refl _)
      (OrderedDict.perm_keys_moveToEnd _ _).subperm
  all_goals
    have notCompleted :
        frame.key ∉ (reassembler.purge now).completed.keys := by
      rw [← OrderedDict.contains_iff, notContained]
      exact Bool.false_ne_true
    obtain ⟨opened, finds⟩ := purged.openAssembly notCompleted now
    rw [shape]
  · exact opened
  · obtain ⟨present, inRange, sameCount⟩ := finds assembly opens
    exact opened.addTo present (inRange.place valid sameCount now)

/-- The frames among the calls are frames that can be decoded. -/
def Call.Decodable : Call → Prop
  | .add frame => frame.Valid
  | _ => True

/-- Every call keeps the bounds and the limits. -/
theorem TablesBounded.call
    {operation : Call}
    (bounded : reassembler.TablesBounded)
    (decodable : operation.Decodable)
    (now : Time) :
    (reassembler.call operation now).1.TablesBounded := by
  cases operation with
  | add frame =>
      exact bounded.add decodable now
  | isCompleted sessionId messageId =>
      exact bounded.purge now
  | cleanup =>
      exact bounded.purge now

/-- What a call of `add` leaves of the assemblies of other messages. -/
theorem get?_add_other
    (reassembler : Reassembler)
    {key : Nat × Nat}
    (other : frame.key ≠ key)
    (now : Time) :
    (reassembler.add frame now).1.assemblies.get? key =
      if (reassembler.purge now).completed.contains frame.key = false ∧
          (reassembler.purge now).assemblies.get? frame.key = none ∧
          (reassembler.purge now).Evicts key then
        none
      else
        (reassembler.purge now).assemblies.get? key := by
  have opened :
      ((reassembler.purge now).openAssembly frame now).1.assemblies.get?
          key =
        if (reassembler.purge now).assemblies.get? frame.key = none ∧
            (reassembler.purge now).Evicts key then
          none
        else
          (reassembler.purge now).assemblies.get? key := by
    cases found : (reassembler.purge now).assemblies.get? frame.key with
    | none =>
        simp only [openAssembly, found, true_and]
        rw [OrderedDict.get?_set_other _ other.symm, get?_makeRoom]
    | some assembly =>
        simp only [openAssembly, found, reduceCtorEq, false_and,
          ↓reduceIte]
        split <;> rfl
  rcases add_cases reassembler frame now with
    ⟨contained, shape⟩ |
      ⟨notContained, _, rfl, ⟨_, _, shape⟩ | ⟨assembly, _, shape⟩⟩
  · rw [shape]
    simp [contained]
  · rw [shape]
    simp only [notContained, true_and]
    exact opened
  · rw [shape, (of_addTo_other _ assembly other now).1]
    simp only [notContained, true_and]
    exact opened

/--
A call of `add` takes nothing from the other messages, except that a new
message that finds the table full takes the place of one that has been silent
longest.
-/
structure CrowdsOut
    (before after : Reassembler)
    (frame : Frame) : Prop where
  forced :
    before.completed.contains frame.key = false →
    before.assemblies.get? frame.key = none →
    before.maxMessages ≤ before.assemblies.length →
    ∃ key evicted,
      before.assemblies.get? key = some evicted ∧
        after.assemblies.get? key = none ∧
        (∀ other, other ≠ frame.key → other ≠ key →
          after.assemblies.get? other = before.assemblies.get? other) ∧
        ∀ other assembly, other ≠ frame.key →
          after.assemblies.get? other = some assembly →
          evicted.updatedAt ≤ assembly.updatedAt
  unforced :
    before.completed.contains frame.key = true ∨
        before.assemblies.get? frame.key ≠ none ∨
        before.assemblies.length < before.maxMessages →
    ∀ other, other ≠ frame.key →
      after.assemblies.get? other = before.assemblies.get? other

theorem crowdsOut_add
    (reassembler : Reassembler)
    (frame : Frame)
    (now : Time) :
    (reassembler.purge now).CrowdsOut (reassembler.add frame now).1
      frame := by
  constructor
  · intro notCompleted isNew full
    obtain ⟨key, evicted, evicts, found, oldest⟩ := exists_evicts full
    have ownKey : frame.key ≠ key := by
      rintro rfl
      rw [isNew] at found
      cases found
    have gone :
        (reassembler.add frame now).1.assemblies.get? key = none := by
      rw [get?_add_other reassembler ownKey]
      exact if_pos ⟨notCompleted, isNew, evicts⟩
    have kept :
        ∀ other, other ≠ frame.key → other ≠ key →
          (reassembler.add frame now).1.assemblies.get? other =
            (reassembler.purge now).assemblies.get? other := by
      intro other notOwn different
      rw [get?_add_other reassembler notOwn.symm]
      refine if_neg ?_
      rintro ⟨_, _, _, alsoOldest⟩
      exact different
        (Option.some.inj (alsoOldest.symm.trans evicts.2))
    refine ⟨key, evicted, found, gone, kept, ?_⟩
    intro other assembly notOwn remains
    have different : other ≠ key := by
      rintro rfl
      rw [gone] at remains
      cases remains
    rw [kept other notOwn different] at remains
    exact oldest assembly
      (List.mem_map_of_mem (OrderedDict.get?_eq_some_iff.mp remains))
  · intro noNeed other notOwn
    rw [get?_add_other reassembler notOwn.symm]
    refine if_neg ?_
    rintro ⟨notCompleted, isNew, full, _⟩
    rcases noNeed with isCompleted | isKnown | room
    · rw [notCompleted] at isCompleted
      cases isCompleted
    · exact isKnown isNew
    · exact absurd full (Nat.not_le.mpr room)

theorem maxMessages_add
    (reassembler : Reassembler)
    (frame : Frame)
    (now : Time) :
    (reassembler.add frame now).1.maxMessages =
      reassembler.maxMessages := by
  have opened :=
    ((reassembler.purge now).openAssembly_fst frame now).2
  rcases add_cases reassembler frame now with
    ⟨_, shape⟩ | ⟨_, _, rfl, ⟨_, _, shape⟩ | ⟨assembly, _, shape⟩⟩
  · rw [shape]
    rfl
  · rw [shape]
    exact opened
  · rw [shape]
    simp only [addTo]
    split <;> exact opened

theorem maxMessages_call
    (reassembler : Reassembler)
    (operation : Call)
    (now : Time) :
    (reassembler.call operation now).1.maxMessages =
      reassembler.maxMessages := by
  cases operation with
  | add frame =>
      exact maxMessages_add reassembler frame now
  | isCompleted sessionId messageId =>
      rfl
  | cleanup =>
      rfl

/--
For every reassembler that can be constructed and every sequence of calls at
any times with frames that can be decoded: at most `maxMessages` messages are
being assembled and at most twice as many are remembered, no message is both,
and every assembly holds at most the fragments it says it has.  A further call
removes the assembly of another message only if it is silent longest and has
to make room for a new one.
-/
theorem tables_stay_bounded
    {timeoutSeconds completedTtlSeconds : Rat}
    {maxMessages : Int}
    {reassembler : Reassembler}
    (constructed :
      init timeoutSeconds maxMessages completedTtlSeconds =
        .ok reassembler)
    (calls : List (Call × Time))
    (decodable : ∀ input ∈ calls, input.1.Decodable) :
    (((callMachine.run reassembler calls).assemblies.length : Int) ≤
        maxMessages) ∧
      ((callMachine.run reassembler calls).completed.length : Int) ≤
        2 * maxMessages ∧
      (∀ key ∈ (callMachine.run reassembler calls).assemblies.keys,
        key ∉ (callMachine.run reassembler calls).completed.keys) ∧
      (∀ assembly ∈
          (callMachine.run reassembler calls).assemblies.values,
        assembly.fragments.length ≤ assembly.fragmentCount ∧
          ∀ index ∈ assembly.fragments.keys,
            index < assembly.fragmentCount) ∧
      ∀ frame now,
        ((callMachine.run reassembler calls).purge now).CrowdsOut
          ((callMachine.run reassembler calls).add frame now).1
          frame := by
  obtain ⟨noAssemblies, noneCompleted, sameLimit⟩ :=
    init_eq_ok constructed
  have start : reassembler.TablesBounded := by
    refine ⟨?_, ?_, ?_, ?_⟩
    · rw [noAssemblies]
      exact Nat.zero_le _
    · rw [noneCompleted]
      exact Nat.zero_le _
    · rw [noAssemblies]
      exact fun _ member => absurd member List.not_mem_nil
    · rw [noAssemblies]
      exact fun _ member => absurd member List.not_mem_nil
  obtain ⟨bounded, limit⟩ :=
    callMachine.run_invariant_of_inputs
      (fun after =>
        after.TablesBounded ∧
          after.maxMessages = reassembler.maxMessages)
      (fun input => input.1.Decodable)
      (fun after input isDecodable holds =>
        ⟨holds.1.call isDecodable input.2,
          (after.maxMessages_call input.1 input.2).trans holds.2⟩)
      ⟨start, rfl⟩ calls decodable
  have assemblies := bounded.assemblies
  have completed := bounded.completed
  rw [limit] at assemblies completed
  refine ⟨by omega, by omega, bounded.disjoint, ?_,
    crowdsOut_add (callMachine.run reassembler calls)⟩
  intro assembly member
  have inRange := bounded.inRange assembly member
  exact ⟨inRange.length_le, inRange.indices⟩

/-- A last fragment, and a whole message of the wrong length. -/
def crowdedCalls : List (Call × Time) :=
  [(.add wrongPieceFrame, 0), (.add wrongLengthFrame, 1)]

/-- The rejected frame has taken the only place, and loses it again. -/
theorem tables_stay_bounded_crowded :
    ((callMachine.run narrow crowdedCalls).assemblies.length : Int) ≤ 1 ∧
      ((callMachine.run narrow crowdedCalls).purge 2).CrowdsOut
        ((callMachine.run narrow crowdedCalls).add wrongPieceFrame 2).1
        wrongPieceFrame := by
  have decodable :
      ∀ input ∈ crowdedCalls, input.1.Decodable :=
    List.forall_mem_cons.mpr ⟨wrongPieceFrame_valid,
      List.forall_mem_singleton.mpr wrongLengthFrame_valid⟩
  obtain ⟨assemblies, _, _, _, crowdsOut⟩ :=
    tables_stay_bounded init_narrow crowdedCalls decodable
  exact ⟨assemblies, crowdsOut wrongPieceFrame 2⟩

end Reassembler

end H3ntun
