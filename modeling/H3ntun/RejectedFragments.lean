import H3ntun.CompletedExpiry
import H3ntun.FrameCodecRoundTrip

namespace H3ntun

/-!
# What a rejected fragment leaves behind

`add` undoes nothing when it raises.  A rejected frame never touches the
completed messages, but it may have refreshed, extended or created the
assembly of its message, and created it in the place of another one.
-/

namespace Frame

variable {frame : Frame}

/-- A parity frame belongs to a message of several fragments. -/
theorem Valid.two_le_fragmentCount
    (valid : frame.Valid)
    (isParity : frame.isParity = true) :
    2 ≤ frame.fragmentCount := by
  have isSet : frame.header.flags = 1 :=
    (Header.isParity_iff valid.rules.flags).mp isParity
  have several : (2 : Int) ≤ frame.fragmentCount :=
    (valid.rules.parity isSet).1
  omega

/-- The index of a data frame is one of the data fragments. -/
theorem Valid.fragmentIndex_lt
    (valid : frame.Valid)
    (isData : frame.isParity = false) :
    frame.fragmentIndex < frame.fragmentCount := by
  have notSet : frame.header.flags ≠ 1 := by
    intro isSet
    have isParity : frame.isParity = true :=
      (Header.isParity_iff valid.rules.flags).mpr isSet
    rw [isData] at isParity
    cases isParity
  have small : (frame.fragmentIndex : Int) < frame.fragmentCount :=
    valid.rules.data (valid.rules.flags.resolve_right notSet)
  omega

end Frame

namespace Assembly

/-- The assembly of a frame once the frame has been stored in it. -/
def withFrame
    (assembly : Assembly)
    (frame : Frame)
    (now : Time) : Assembly :=
  if frame.isParity then
    { assembly with
      updatedAt := now
      parity := some frame.payload }
  else
    { assembly with
      updatedAt := now
      fragments :=
        assembly.fragments.set frame.fragmentIndex frame.payload }

/-- The errors of `_assemble` that come before a fragment is recovered. -/
def unrecoveredErrors : List String :=
  ["reassembled message length mismatch", "empty parity fragment",
    "fragment exceeds parity size", "invalid recovered fragment length"]

/-- The error of `_assemble` that comes after a fragment is recovered. -/
def recoveredError : String :=
  "FEC-recovered message length mismatch"

/--
What an assembly that agrees with a frame is left as when the frame is
rejected with a given text.
-/
inductive Residue
    (assembly : Assembly)
    (frame : Frame)
    (now : Time) : String → Assembly → Prop where
  | conflictingParity
      {parity : Bytes}
      (isParity : frame.isParity = true)
      (held : assembly.parity = some parity)
      (different : parity ≠ frame.payload) :
      Residue assembly frame now "conflicting parity fragment"
        { assembly with updatedAt := now }
  | conflictingData
      {piece : Bytes}
      (isData : frame.isParity = false)
      (held :
        assembly.fragments.get? frame.fragmentIndex = some piece)
      (different : piece ≠ frame.payload) :
      Residue assembly frame now "conflicting data fragment"
        { assembly with updatedAt := now }
  | unrecovered
      {text : String}
      (listed : text ∈ unrecoveredErrors) :
      Residue assembly frame now text (assembly.withFrame frame now)
  | recovered
      (missing : Nat)
      (piece : Bytes)
      (inRange : missing < assembly.fragmentCount)
      (absent :
        (assembly.withFrame frame now).fragments.get? missing = none) :
      Residue assembly frame now recoveredError
        { assembly.withFrame frame now with
          fragments :=
            (assembly.withFrame frame now).fragments.set missing piece }

variable {assembly : Assembly} {frame : Frame} {now : Time} {text : String}

theorem joined_error
    {failure : Failure}
    (failed : assembly.joined = .error failure) :
    failure = .keyError := by
  simp only [joined] at failed
  split at failed
  · cases failed
  · exact (Except.error.inj failed).symm

/-- Finishing changes nothing and is rejected only for the length. -/
theorem finish_error
    {recovered : Bool}
    {mismatch : String}
    (failed :
      (assembly.finish recovered mismatch).2 =
        .error (.protocolError text)) :
    (assembly.finish recovered mismatch).1 = assembly ∧
      text = mismatch := by
  cases joins : assembly.joined with
  | error failure =>
      have isKeyError := joined_error joins
      subst isKeyError
      simp [finish, joins] at failed
  | ok payload =>
      simp only [finish, joins] at failed ⊢
      split at failed
      · rename_i wrongLength
        simp only [Except.error.injEq, Failure.protocolError.injEq]
          at failed
        simp [wrongLength, failed]
      · cases failed

/-- A failed recovery stores a fragment only with its last error. -/
theorem recover_error
    {parity : Bytes}
    (failed :
      (assembly.recover parity).2 = .error (.protocolError text)) :
    (text ∈ unrecoveredErrors ∧
      (assembly.recover parity).1 = assembly) ∨
      text = recoveredError ∧
        ∃ missing piece,
          missing < assembly.fragmentCount ∧
            assembly.fragments.get? missing = none ∧
            (assembly.recover parity).1 =
              { assembly with
                fragments := assembly.fragments.set missing piece } := by
  cases search : (List.range assembly.fragmentCount).find? fun index =>
      ¬ assembly.fragments.contains index with
  | none =>
      simp only [recover, search, Except.error.injEq, reduceCtorEq]
        at failed
  | some missing =>
      have inRange :=
        List.mem_range.mp (List.mem_of_find?_eq_some search)
      have absent : assembly.fragments.get? missing = none := by
        simpa [OrderedDict.contains] using List.find?_some search
      simp only [recover, search] at failed ⊢
      by_cases empty : parity.length = 0
      · simp only [empty, ↓reduceIte, Except.error.injEq,
          Failure.protocolError.injEq] at failed ⊢
        exact .inl ⟨by simp [unrecoveredErrors, ← failed], trivial⟩
      by_cases exceeds :
          assembly.fragments.values.any fun piece =>
            piece.length > parity.length
      · simp only [empty, exceeds, ↓reduceIte, Except.error.injEq,
          Failure.protocolError.injEq] at failed ⊢
        exact .inl ⟨by simp [unrecoveredErrors, ← failed], trivial⟩
      simp only [empty, exceeds, ↓reduceIte, Bool.false_eq_true]
        at failed ⊢
      generalize
        (if (missing : Int) < assembly.fragmentCount - 1 then
            (parity.length : Int)
          else
            assembly.messageLen -
              parity.length * (assembly.fragmentCount - 1)) =
          expectedLength at failed ⊢
      by_cases fits :
          0 ≤ expectedLength ∧ expectedLength ≤ parity.length
      · simp only [fits, and_self, not_true_eq_false, ↓reduceIte]
          at failed ⊢
        obtain ⟨unchanged, isText⟩ := finish_error failed
        exact .inr ⟨isText, missing, _, inRange, absent, unchanged⟩
      · simp only [fits, not_false_eq_true, ↓reduceIte,
          Except.error.injEq, Failure.protocolError.injEq] at failed ⊢
        exact .inl ⟨by simp [unrecoveredErrors, ← failed], trivial⟩

/-- A failed assembling stores a fragment only with its last error. -/
theorem assemble_error
    (failed :
      assembly.assemble.2 = .error (.protocolError text)) :
    (text ∈ unrecoveredErrors ∧ assembly.assemble.1 = assembly) ∨
      text = recoveredError ∧
        ∃ missing piece,
          missing < assembly.fragmentCount ∧
            assembly.fragments.get? missing = none ∧
            assembly.assemble.1 =
              { assembly with
                fragments := assembly.fragments.set missing piece } := by
  unfold assemble at failed ⊢
  by_cases full : assembly.fragments.length = assembly.fragmentCount
  · simp only [full, ↓reduceIte] at failed ⊢
    obtain ⟨unchanged, isText⟩ := finish_error failed
    exact .inl ⟨by simp [unrecoveredErrors, isText], unchanged⟩
  · simp only [full, ↓reduceIte] at failed ⊢
    cases held : assembly.parity with
    | none =>
        simp [held] at failed
    | some parity =>
        simp only [held] at failed ⊢
        split at failed
        · cases failed
        · rename_i oneMissing
          simp only [oneMissing, ↓reduceIte]
          simpa only [held] using recover_error failed

/-- What placing a frame that is rejected makes of the assembly. -/
theorem place_error
    (failed :
      (assembly.place frame now).2 = .error (.protocolError text)) :
    assembly.Residue frame now text (assembly.place frame now).1 := by
  have stored :
      (assembly.withFrame frame now).assemble.2 =
          .error (.protocolError text) →
        assembly.Residue frame now text
          (assembly.withFrame frame now).assemble.1 := by
    intro failedToAssemble
    rcases assemble_error failedToAssemble with
      ⟨listed, unchanged⟩ |
        ⟨rfl, missing, piece, inRange, absent, extended⟩
    · rw [unchanged]
      exact .unrecovered listed
    · rw [extended]
      refine .recovered missing piece ?_ absent
      unfold withFrame at inRange
      split at inRange <;> exact inRange
  simp only [place] at failed ⊢
  cases parity : frame.isParity with
  | true =>
      simp only [withFrame, parity, ↓reduceIte] at failed stored ⊢
      split at failed
      · rename_i conflicts
        obtain ⟨held, found, different⟩ :=
          (Option.any_eq_true _ _).mp conflicts
        simp only [conflicts, ↓reduceIte, Except.error.injEq,
          Failure.protocolError.injEq] at failed ⊢
        rw [← failed]
        exact .conflictingParity parity found
          (by simpa using different)
      · rename_i agrees
        simp only [agrees, Bool.false_eq_true, ↓reduceIte]
        exact stored failed
  | false =>
      simp only [withFrame, parity, Bool.false_eq_true, ↓reduceIte]
        at failed stored ⊢
      split at failed
      · rename_i conflicts
        obtain ⟨held, found, different⟩ :=
          (Option.any_eq_true _ _).mp conflicts
        simp only [conflicts, ↓reduceIte, Except.error.injEq,
          Failure.protocolError.injEq] at failed ⊢
        rw [← failed]
        exact .conflictingData parity found (by simpa using different)
      · rename_i agrees
        simp only [agrees, Bool.false_eq_true, ↓reduceIte]
        exact stored failed

/--
The first frame of a message is rejected only when it is the whole message
and has another length than it says.
-/
theorem place_first_error
    (valid : frame.Valid)
    (messageLen : assembly.messageLen = frame.messageLen)
    (fragmentCount : assembly.fragmentCount = frame.fragmentCount)
    (noFragments : assembly.fragments = .empty)
    (noParity : assembly.parity = none)
    (failed :
      (assembly.place frame now).2 = .error (.protocolError text)) :
    text = "reassembled message length mismatch" ∧
      frame.fragmentCount = 1 ∧
      frame.payload.length ≠ frame.messageLen ∧
      (assembly.place frame now).1 = assembly.withFrame frame now := by
  cases parity : frame.isParity with
  | true =>
      have several := valid.two_le_fragmentCount parity
      have notFull : (0 : Nat) ≠ frame.fragmentCount := by
        omega
      have notOneShort : ¬ (0 : Int) = frame.fragmentCount - 1 := by
        omega
      simp [place, parity, noParity, assemble, noFragments,
        fragmentCount, notFull, notOneShort] at failed
  | false =>
      have oneFragment :
          ((OrderedDict.empty : OrderedDict Nat Bytes).set
            frame.fragmentIndex frame.payload).length = 1 :=
        rfl
      by_cases single : frame.fragmentCount = 1
      · have firstIndex : frame.fragmentIndex = 0 := by
          have small := valid.fragmentIndex_lt parity
          omega
        have placed :
            assembly.place frame now =
              (assembly.withFrame frame now).finish false
                "reassembled message length mismatch" := by
          simp [place, withFrame, parity, assemble, noFragments,
            fragmentCount, oneFragment, single]
        have joins :
            (assembly.withFrame frame now).joined =
              .ok frame.payload := by
          simp [joined, withFrame, parity, fragmentCount, single,
            firstIndex, noFragments, OrderedDict.contains]
        have sameLen :
            (assembly.withFrame frame now).messageLen =
              frame.messageLen := by
          simp [withFrame, parity, messageLen]
        rw [placed] at failed ⊢
        obtain ⟨unchanged, isText⟩ := finish_error failed
        refine ⟨isText, single, ?_, unchanged⟩
        intro sameLength
        simp [finish, joins, sameLen, sameLength] at failed
      · simp [place, parity, noParity, assemble, noFragments,
          fragmentCount, oneFragment, Ne.symm single] at failed

/--
A fragment held after a rejection was held before, is the rejected one, or
was recovered before the last error.
-/
theorem Residue.fragment_cases
    {residue : Assembly}
    (isResidue : assembly.Residue frame now text residue)
    {index : Nat}
    {piece : Bytes}
    (held : residue.fragments.get? index = some piece) :
    assembly.fragments.get? index = some piece ∨
      (frame.isParity = false ∧
        index = frame.fragmentIndex ∧ piece = frame.payload) ∨
      text = recoveredError := by
  have storedCases :
      ∀ stored,
        (assembly.withFrame frame now).fragments.get? index =
            some stored →
          assembly.fragments.get? index = some stored ∨
            (frame.isParity = false ∧
              index = frame.fragmentIndex ∧ stored = frame.payload) := by
    intro stored found
    unfold withFrame at found
    split at found
    · exact .inl found
    · rename_i isData
      by_cases own : index = frame.fragmentIndex
      · subst own
        rw [OrderedDict.get?_set_same, Option.some.injEq] at found
        exact .inr ⟨by simpa using isData, rfl, found.symm⟩
      · rw [OrderedDict.get?_set_other _ own] at found
        exact .inl found
  cases isResidue with
  | conflictingParity =>
      exact .inl held
  | conflictingData =>
      exact .inl held
  | unrecovered =>
      rcases storedCases piece held with before | own
      · exact .inl before
      · exact .inr (.inl own)
  | recovered =>
      exact .inr (.inr rfl)

end Assembly

namespace Reassembler

/-- The assembly `add` starts for the first frame of a message. -/
def startedBy (frame : Frame) (now : Time) : Assembly where
  messageLen := frame.messageLen
  fragmentCount := frame.fragmentCount
  createdAt := now
  updatedAt := now

/-- The table is full and this is the assembly that gives way to a new one. -/
def Evicts (reassembler : Reassembler) (key : Nat × Nat) : Prop :=
  reassembler.assemblies.length ≥ reassembler.maxMessages ∧
    reassembler.oldest? = some key

instance (reassembler : Reassembler) (key : Nat × Nat) :
    Decidable (reassembler.Evicts key) := by
  unfold Evicts
  infer_instance

/-- What a rejected frame changes, besides expiry. -/
structure Rejects
    (before after : Reassembler)
    (frame : Frame)
    (now : Time)
    (text : String) : Prop where
  completed :
    after.completed = before.completed
  others :
    ∀ key, key ≠ frame.key →
      after.assemblies.get? key =
        if before.assemblies.get? frame.key = none ∧
            before.Evicts key then
          none
        else
          before.assemblies.get? key
  first :
    before.assemblies.get? frame.key = none →
      text = "reassembled message length mismatch" ∧
        frame.fragmentCount = 1 ∧
        frame.payload.length ≠ frame.messageLen ∧
        after.assemblies.get? frame.key =
          some ((startedBy frame now).withFrame frame now)
  inconsistent :
    ∀ assembly,
      before.assemblies.get? frame.key = some assembly →
      assembly.messageLen ≠ frame.messageLen ∨
        assembly.fragmentCount ≠ frame.fragmentCount →
      text = "inconsistent fragment metadata" ∧ after = before
  consistent :
    ∀ assembly,
      before.assemblies.get? frame.key = some assembly →
      assembly.messageLen = frame.messageLen →
      assembly.fragmentCount = frame.fragmentCount →
      ∃ residue,
        after.assemblies.get? frame.key = some residue ∧
          assembly.Residue frame now text residue

variable
  {reassembler : Reassembler}
  {frame : Frame}
  {now : Time}
  {text : String}

/-- Making room removes exactly the assembly that gives way. -/
theorem get?_makeRoom
    (reassembler : Reassembler)
    (key : Nat × Nat) :
    reassembler.makeRoom.assemblies.get? key =
      if reassembler.Evicts key then
        none
      else
        reassembler.assemblies.get? key := by
  by_cases full :
      reassembler.assemblies.length ≥ reassembler.maxMessages
  · cases oldest : reassembler.oldest? with
    | none =>
        simp [makeRoom, Evicts, full, oldest]
    | some evicted =>
        by_cases same : key = evicted
        · subst same
          simp [makeRoom, Evicts, full, oldest]
        · have notEvicted : ¬ evicted = key := Ne.symm same
          simp [makeRoom, Evicts, full, oldest, notEvicted,
            OrderedDict.get?_erase_other _ same]
  · simp [makeRoom, Evicts, full]

/-- Placing a frame that is rejected replaces its assembly only. -/
theorem addTo_error
    {assembly : Assembly}
    (rejected :
      (reassembler.addTo assembly frame now).2 =
        .error (.protocolError text)) :
    (assembly.place frame now).2 = .error (.protocolError text) ∧
      (reassembler.addTo assembly frame now).1 =
        { reassembler with
          assemblies :=
            reassembler.assemblies.set frame.key
              (assembly.place frame now).1 } := by
  simp only [addTo] at rejected ⊢
  split at rejected
  · rename_i failure failed
    simp only [failed]
    exact ⟨congrArg Except.error (Except.error.inj rejected), trivial⟩
  · cases rejected
  · cases rejected

/--
A rejected frame leaves the completed messages alone.  It changes nothing if
it contradicts the assembly of its message, otherwise only that assembly, and
only a first frame that is a whole message of the wrong length evicts another
message and leaves an assembly behind.
-/
theorem rejected_frame_changes
    (valid : frame.Valid)
    (rejected :
      (reassembler.add frame now).2 = .error (.protocolError text)) :
    Rejects (reassembler.purge now) (reassembler.add frame now).1 frame
      now text := by
  have notContained :
      (reassembler.purge now).completed.contains frame.key = false := by
    rcases add_cases reassembler frame now with ⟨_, shape⟩ | ⟨absent, _⟩
    · rw [shape] at rejected
      cases rejected
    · exact absent
  rw [add_of_not_contained notContained] at rejected ⊢
  generalize reassembler.purge now = before at rejected ⊢
  cases found : before.assemblies.get? frame.key with
  | none =>
      simp only [openAssembly, found] at rejected ⊢
      obtain ⟨failed, after⟩ := addTo_error rejected
      obtain ⟨isText, single, wrongLength, stored⟩ :=
        Assembly.place_first_error valid rfl rfl rfl rfl failed
      rw [after]
      refine {
        completed := completed_makeRoom
        others := ?_
        first := fun _ => ⟨isText, single, wrongLength, ?_⟩
        inconsistent := ?_
        consistent := ?_
      }
      · intro key other
        simp only [found, true_and]
        rw [OrderedDict.get?_set_other _ other,
          OrderedDict.get?_set_other _ other, get?_makeRoom]
      · rw [OrderedDict.get?_set_same]
        exact congrArg some stored
      · intro assembly isFound
        rw [found] at isFound
        cases isFound
      · intro assembly isFound
        rw [found] at isFound
        cases isFound
  | some assembly =>
      by_cases consistent :
          assembly.messageLen ≠ frame.messageLen ∨
            assembly.fragmentCount ≠ frame.fragmentCount
      · simp only [openAssembly, found, consistent, ↓reduceIte,
          Except.error.injEq, Failure.protocolError.injEq]
          at rejected ⊢
        refine {
          completed := rfl
          others := ?_
          first := ?_
          inconsistent := fun _ _ _ => ⟨rejected.symm, rfl⟩
          consistent := ?_
        }
        · intro key _
          simp [found]
        · intro isNone
          rw [found] at isNone
          cases isNone
        · intro other isFound messageLen fragmentCount
          rw [found, Option.some.injEq] at isFound
          subst isFound
          rcases consistent with differs | differs
          · exact absurd messageLen differs
          · exact absurd fragmentCount differs
      · simp only [openAssembly, found, consistent, ↓reduceIte]
          at rejected ⊢
        obtain ⟨failed, after⟩ := addTo_error rejected
        rw [after]
        refine {
          completed := rfl
          others := ?_
          first := ?_
          inconsistent := ?_
          consistent := ?_
        }
        · intro key other
          simp [found, OrderedDict.get?_set_other _ other]
        · intro isNone
          rw [found] at isNone
          cases isNone
        · intro other isFound differs
          rw [found, Option.some.injEq] at isFound
          subst isFound
          exact absurd differs consistent
        · intro other isFound _ _
          rw [found, Option.some.injEq] at isFound
          subst isFound
          exact ⟨_, OrderedDict.get?_set_same _ _ _,
            Assembly.place_error failed⟩

/-- A whole message of three bytes that says it has five. -/
def wrongLengthFrame : Frame :=
  ({
    payload := [1, 2, 3]
    messageLen := 5
    fragmentIndex := 0
    fragmentCount := 1 : FragmentSpec }).frame 3 2 2

/-- A last fragment that is one byte longer than its message allows. -/
def wrongPieceFrame : Frame :=
  ({
    payload := [8, 9, 1]
    messageLen := 258
    fragmentIndex := 1
    fragmentCount := 2 : FragmentSpec }).frame 3 1 2

theorem wrongLengthFrame_valid :
    wrongLengthFrame.Valid := by
  refine ⟨⟨?_, ?_, ?_, ?_, ?_, ?_, ?_, ?_⟩, ?_, ?_, ?_, ?_, ?_⟩ <;> decide

theorem wrongPieceFrame_valid :
    wrongPieceFrame.Valid := by
  refine ⟨⟨?_, ?_, ?_, ?_, ?_, ?_, ?_, ?_⟩, ?_, ?_, ?_, ?_, ?_⟩ <;> decide

/-- A fresh reassembler for one message at a time. -/
def narrow : Reassembler :=
  { fresh with
    maxMessages := 1
    maxMessagesPositive := le_rfl }

theorem init_narrow :
    init defaultTimeoutSeconds 1 defaultCompletedTtlSeconds =
      .ok narrow := by
  have valid :
      ¬ (defaultTimeoutSeconds ≤ 0 ∨ (1 : Int) < 1 ∨
        defaultCompletedTtlSeconds ≤ 0) := by
    decide +kernel
  rw [init, dif_neg valid]
  rfl

/-- The narrow reassembler after the first fragment of a message. -/
def narrowCalls : List (Frame × Time) :=
  [((Message.sample.dataFragment 0).frame 3 1 1, 0)]

/--
A whole message of the wrong length takes the place of another message, and
a last fragment of the wrong length makes a genuine fragment conflict.
-/
theorem rejected_frames_leave_traces :
    wrongLengthFrame.Valid ∧
      ((machine.run narrow narrowCalls).add wrongLengthFrame 1).2 =
        .error (.protocolError "reassembled message length mismatch") ∧
      ((machine.run narrow narrowCalls).purge 1).assemblies.keys =
        [(3, 1)] ∧
      ((machine.run narrow narrowCalls).add
        wrongLengthFrame 1).1.assemblies.keys = [(3, 2)] ∧
      wrongPieceFrame.Valid ∧
      machine.answers fresh
          [(Message.sample.parityFragment.frame 3 1 1, 0),
            (wrongPieceFrame, 1),
            ((Message.sample.dataFragment 0).frame 3 1 3, 2)] =
        [.ok { payload := none },
          .error (.protocolError "FEC-recovered message length mismatch"),
          .error (.protocolError "conflicting data fragment")] ∧
      machine.answers fresh
          [(Message.sample.parityFragment.frame 3 1 1, 0),
            ((Message.sample.dataFragment 0).frame 3 1 3, 2)] =
        [.ok { payload := none },
          .ok {
            payload := some Message.sample.payload
            recoveredByFec := true }] := by
  refine ⟨wrongLengthFrame_valid, ?_, ?_, ?_, wrongPieceFrame_valid,
    ?_, ?_⟩ <;> decide +kernel

/-- What the whole message of the wrong length changes. -/
theorem rejected_frame_changes_wrong_length :
    Rejects ((machine.run narrow narrowCalls).purge 1)
      ((machine.run narrow narrowCalls).add wrongLengthFrame 1).1
      wrongLengthFrame 1 "reassembled message length mismatch" :=
  rejected_frame_changes wrongLengthFrame_valid (by decide +kernel)

end Reassembler

end H3ntun
