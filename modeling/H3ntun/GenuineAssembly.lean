import H3ntun.Reassembler
import Mathlib.Data.Finset.Card
import Mathlib.Data.Finset.Range

namespace H3ntun

/-!
# Assemblies of one message

An assembly is genuine for a message if everything it stores is a fragment of
that message.  Placing another fragment keeps it genuine, and yields exactly
the payload as soon as as many distinct fragments are held as there are data
fragments.
-/

/-- Fragment carried by a frame. -/
def Frame.spec (frame : Frame) : FragmentSpec where
  payload := frame.payload
  messageLen := frame.messageLen
  fragmentIndex := frame.fragmentIndex
  fragmentCount := frame.fragmentCount
  flags := frame.flags

namespace Message

variable {message : Message}

/-- What a frame that carries a fragment of the message looks like. -/
inductive Carries (message : Message) (frame : Frame) : Prop where
  | data
      (notParity : frame.isParity = false)
      (inRange : frame.fragmentIndex < message.count)
      (piece :
        message.pieces[frame.fragmentIndex]? = some frame.payload)
  | parity
      (isParity : frame.isParity = true)
      (index : frame.fragmentIndex = message.count)
      (withParity : message.hasParity = true)
      (payload : frame.payload = message.parity)

/-- A frame whose fragment belongs to the message carries it. -/
theorem carries_of_mem
    {frame : Frame}
    (member : frame.spec ∈ message.fragments) :
    message.Carries frame ∧
      frame.messageLen = message.payload.length ∧
      frame.fragmentCount = message.count := by
  rcases mem_fragments_iff.mp member with
    ⟨index, inRange, shape⟩ | ⟨withParity, shape⟩
  · simp only [Frame.spec, dataFragment, FragmentSpec.mk.injEq] at shape
    obtain ⟨payload, messageLen, fragmentIndex, fragmentCount, flags⟩ := shape
    have inPieces : index < message.pieces.length := by
      rw [length_pieces]
      exact inRange
    refine ⟨.data ?_ (fragmentIndex ▸ inRange) ?_, messageLen, fragmentCount⟩
    · rw [Frame.isParity, flags]
      decide
    · rw [fragmentIndex, payload, List.getD_eq_getElem?_getD,
        List.getElem?_eq_getElem inPieces, Option.getD_some]
  · simp only [Frame.spec, parityFragment, FragmentSpec.mk.injEq] at shape
    obtain ⟨payload, messageLen, fragmentIndex, fragmentCount, flags⟩ := shape
    refine ⟨.parity ?_ fragmentIndex withParity payload, messageLen,
      fragmentCount⟩
    rw [Frame.isParity, flags]
    decide

/-- Everything stored is a fragment of the message. -/
structure Genuine (message : Message) (assembly : Assembly) : Prop where
  messageLen :
    assembly.messageLen = message.payload.length
  fragmentCount :
    assembly.fragmentCount = message.count
  fragments :
    ∀ index piece,
      assembly.fragments.get? index = some piece →
      message.pieces[index]? = some piece
  parity :
    ∀ parity,
      assembly.parity = some parity →
      message.hasParity = true ∧ parity = message.parity

end Message

namespace Assembly

/-- Indices of the data fragments held. -/
def heldData (assembly : Assembly) : Finset Nat :=
  assembly.fragments.keys.toFinset

/-- Indices of the fragments held; the parity fragment has the last one. -/
def held (assembly : Assembly) : Finset Nat :=
  assembly.heldData ∪
    if assembly.parity.isSome then {assembly.fragmentCount} else ∅

theorem card_heldData
    (assembly : Assembly) :
    assembly.heldData.card = assembly.fragments.length := by
  rw [heldData, List.toFinset_card_of_nodup assembly.fragments.nodup_keys,
    OrderedDict.length_keys]

theorem mem_heldData_iff
    {assembly : Assembly}
    {index : Nat} :
    index ∈ assembly.heldData ↔
      ∃ piece, assembly.fragments.get? index = some piece := by
  rw [heldData, List.mem_toFinset, OrderedDict.mem_keys_iff]

end Assembly

namespace Message.Genuine

variable {message : Message} {assembly : Assembly}

/-- Data fragments have indices below the count. -/
theorem heldData_subset
    (genuine : message.Genuine assembly) :
    assembly.heldData ⊆ Finset.range message.count := by
  intro index member
  obtain ⟨piece, found⟩ := Assembly.mem_heldData_iff.mp member
  have inPieces :=
    (List.getElem?_eq_some_iff.mp (genuine.fragments _ _ found)).1
  rw [Finset.mem_range]
  simpa using inPieces

/-- The number of fragments held, split into data and parity. -/
theorem card_held
    (genuine : message.Genuine assembly) :
    assembly.held.card =
      assembly.fragments.length +
        if assembly.parity.isSome then 1 else 0 := by
  rw [← assembly.card_heldData]
  by_cases withParity : assembly.parity.isSome = true
  · have fresh : message.count ∉ assembly.heldData := by
      intro member
      simpa using genuine.heldData_subset member
    rw [Assembly.held, if_pos withParity, if_pos withParity,
      genuine.fragmentCount, Finset.union_comm, ← Finset.insert_eq,
      Finset.card_insert_of_notMem fresh]
  · simp [Assembly.held, withParity]

/-- The concatenation of all data fragments is the payload. -/
theorem joined_eq
    (genuine : message.Genuine assembly)
    (full : Finset.range message.count ⊆ assembly.heldData) :
    assembly.joined = .ok message.payload := by
  have present :
      ((List.range message.count).all assembly.fragments.contains) =
        true := by
    rw [List.all_eq_true]
    intro index member
    rw [OrderedDict.contains_iff, OrderedDict.mem_keys_iff]
    exact Assembly.mem_heldData_iff.mp (full (by simpa using member))
  have samePieces :
      ((List.range message.count).map fun index =>
        (assembly.fragments.get? index).getD []) = message.pieces := by
    apply List.ext_getElem (by simp)
    intro index inRange inPieces
    have small : index < message.count := by simpa using inPieces
    obtain ⟨piece, found⟩ :=
      Assembly.mem_heldData_iff.mp (full (Finset.mem_range.mpr small))
    have stored := genuine.fragments _ _ found
    rw [List.getElem?_eq_getElem inPieces] at stored
    simpa [found] using (Option.some.inj stored).symm
  simp only [Assembly.joined, genuine.fragmentCount, present, ↓reduceIte,
    samePieces, flatten_pieces]

theorem finish_eq
    (genuine : message.Genuine assembly)
    (full : Finset.range message.count ⊆ assembly.heldData)
    (recovered : Bool)
    (mismatch : String) :
    assembly.finish recovered mismatch =
      (assembly, .ok (some message.payload, recovered)) := by
  simp [Assembly.finish, genuine.joined_eq full, genuine.messageLen]

/-- Storing a piece of the message keeps the assembly genuine. -/
theorem set_fragment
    (genuine : message.Genuine assembly)
    {index : Nat}
    {piece : Bytes}
    (isPiece : message.pieces[index]? = some piece) :
    message.Genuine
        { assembly with
          fragments := assembly.fragments.set index piece } ∧
      Assembly.heldData
          { assembly with
            fragments := assembly.fragments.set index piece } =
        insert index assembly.heldData := by
  refine ⟨{ genuine with fragments := ?_ }, ?_⟩
  · intro other stored found
    by_cases same : other = index
    · subst same
      rw [OrderedDict.get?_set_same] at found
      rw [isPiece, found]
    · rw [OrderedDict.get?_set_other _ same] at found
      exact genuine.fragments other stored found
  · ext other
    simp [Assembly.heldData, OrderedDict.mem_keys_set]

/-- If all but one data fragment is held, the first missing one is found. -/
theorem find_missing
    (genuine : message.Genuine assembly)
    (oneMissing : assembly.fragments.length + 1 = message.count) :
    ∃ missing,
      ((List.range assembly.fragmentCount).find? fun index =>
          ¬ assembly.fragments.contains index) = some missing ∧
        missing < message.count ∧
        (List.range message.count).Perm
          (missing :: assembly.fragments.keys) := by
  have notFull : ¬ Finset.range message.count ⊆ assembly.heldData := by
    intro full
    have := Finset.card_le_card full
    rw [Finset.card_range, assembly.card_heldData] at this
    omega
  cases search :
      ((List.range assembly.fragmentCount).find? fun index =>
        ¬ assembly.fragments.contains index) with
  | none =>
      exfalso
      apply notFull
      intro index member
      have present :=
        List.find?_eq_none.mp search index
          (by simpa [genuine.fragmentCount] using member)
      rw [Assembly.mem_heldData_iff, ← OrderedDict.mem_keys_iff,
        ← OrderedDict.contains_iff]
      simpa using present
  | some missing =>
      have inRange : missing < message.count := by
        have member := List.mem_of_find?_eq_some search
        simpa [genuine.fragmentCount] using member
      have absent : missing ∉ assembly.fragments.keys := by
        rw [← OrderedDict.contains_iff]
        simpa using List.find?_some search
      refine ⟨missing, rfl, inRange, ?_⟩
      have nodup : (missing :: assembly.fragments.keys).Nodup :=
        List.nodup_cons.mpr ⟨absent, assembly.fragments.nodup_keys⟩
      have included :
          (missing :: assembly.fragments.keys) ⊆
            List.range message.count := by
        intro index member
        rw [List.mem_range]
        rcases List.mem_cons.mp member with isMissing | isHeld
        · exact isMissing ▸ inRange
        · have := genuine.heldData_subset
            (List.mem_toFinset.mpr isHeld)
          simpa using this
      have longEnough :
          (List.range message.count).length ≤
            (missing :: assembly.fragments.keys).length := by
        simp [oneMissing]
      exact ((List.subperm_of_subset nodup included).perm_of_length_le
        longEnough).symm

/-- The pieces are the missing one and the ones held, in some order. -/
theorem pieces_perm
    (genuine : message.Genuine assembly)
    {missing : Nat}
    {piece : Bytes}
    (isMissing : message.pieces[missing]? = some piece)
    (split :
      (List.range message.count).Perm
        (missing :: assembly.fragments.keys)) :
    message.pieces.Perm (piece :: assembly.fragments.values) := by
  have piecesShape :
      message.pieces =
        (List.range message.count).map fun index =>
          message.pieces.getD index [] := by
    apply List.ext_getElem (by simp)
    intro index inPieces _
    simp [List.getElem?_eq_getElem inPieces]
  have valuesShape :
      assembly.fragments.values =
        assembly.fragments.keys.map fun index =>
          message.pieces.getD index [] := by
    rw [OrderedDict.values, OrderedDict.keys, List.map_map]
    apply List.map_congr_left
    intro entry member
    have stored :=
      genuine.fragments _ _ (OrderedDict.get?_eq_some_iff.mpr member)
    simp [stored]
  have pieceShape : piece = message.pieces.getD missing [] := by
    simp [isMissing]
  rw [piecesShape, valuesShape, pieceShape]
  exact split.map _

/-- Recovery fills in the missing fragment and returns the payload. -/
theorem recover_eq
    (genuine : message.Genuine assembly)
    (oneMissing : assembly.fragments.length + 1 = message.count) :
    (assembly.recover message.parity).2 =
      .ok (some message.payload, true) := by
  obtain ⟨missing, search, inRange, split⟩ :=
    genuine.find_missing oneMissing
  have inPieces : missing < message.pieces.length := by
    rw [length_pieces]
    exact inRange
  have isPiece := List.getElem?_eq_getElem inPieces
  obtain ⟨pieceFits, pieceFull, pieceLast⟩ := length_piece isPiece
  have sizePositive : 0 < message.fragmentPayloadBytes := by
    have := message.sizeInRange.1
    omega
  have noneTooLong :
      (assembly.fragments.values.any fun piece =>
        decide (piece.length > message.parity.length)) = false := by
    rw [List.any_eq_false]
    intro piece member
    obtain ⟨entry, entryMember, rfl⟩ := List.mem_map.mp member
    have stored :=
      genuine.fragments _ _
        (OrderedDict.get?_eq_some_iff.mpr entryMember)
    simpa using (length_piece stored).1
  have expected :
      (if (missing : Int) < assembly.fragmentCount - 1 then
        (message.parity.length : Int)
      else
        assembly.messageLen -
          message.parity.length * (assembly.fragmentCount - 1)) =
        message.pieces[missing].length := by
    have full := message.count_bounds.2
    rw [length_parity, genuine.fragmentCount, genuine.messageLen]
    split
    · rename_i notLast
      rw [pieceFull (by omega)]
    · rename_i isLast
      rw [pieceLast (by omega), Nat.cast_sub full]
      push_cast [Nat.cast_sub (Nat.succ_le_of_lt message.count_pos)]
      ring
  have recovered :=
    xorCode.recover (genuine.pieces_perm isPiece split) pieceFits
  have allHeld :
      Finset.range message.count ⊆
        insert missing assembly.heldData := by
    intro index member
    have inSplit := split.subset (by simpa using member)
    rcases List.mem_cons.mp inSplit with isMissing | isHeld
    · exact isMissing ▸ Finset.mem_insert_self _ _
    · exact Finset.mem_insert_of_mem (List.mem_toFinset.mpr isHeld)
  obtain ⟨completedGenuine, completedHeld⟩ :=
    genuine.set_fragment isPiece
  rw [← completedHeld] at allHeld
  have finished :=
    completedGenuine.finish_eq allHeld true
      "FEC-recovered message length mismatch"
  have notEmpty : message.parity.length ≠ 0 := by
    rw [length_parity]
    omega
  simp only [Assembly.recover, search, notEmpty, ↓reduceIte, noneTooLong,
    Bool.false_eq_true, expected]
  rw [if_neg (by rw [length_parity]; omega), Int.toNat_natCast]
  rw [Message.parity, recovered]
  exact congrArg Prod.snd finished

theorem length_le
    (genuine : message.Genuine assembly) :
    assembly.fragments.length ≤ message.count := by
  rw [← assembly.card_heldData]
  simpa using Finset.card_le_card genuine.heldData_subset

theorem full_iff
    (genuine : message.Genuine assembly) :
    Finset.range message.count ⊆ assembly.heldData ↔
      assembly.fragments.length = message.count := by
  constructor
  · intro full
    have atLeast := Finset.card_le_card full
    rw [Finset.card_range, assembly.card_heldData] at atLeast
    exact Nat.le_antisymm genuine.length_le atLeast
  · intro full
    have same :
        assembly.heldData = Finset.range message.count := by
      apply Finset.eq_of_subset_of_card_le genuine.heldData_subset
      rw [Finset.card_range, assembly.card_heldData, full]
    rw [same]

/-- The parity fragment does not count as a data fragment. -/
theorem range_subset_heldData_iff
    (genuine : message.Genuine assembly) :
    Finset.range message.count ⊆ assembly.heldData ↔
      Finset.range message.count ⊆ assembly.held := by
  constructor
  · intro covered index member
    exact Finset.mem_union_left _ (covered member)
  · intro covered index member
    rcases Finset.mem_union.mp (covered member) with isData | isParity
    · exact isData
    · have isLast : index = message.count := by
        split at isParity
        · rw [Finset.mem_singleton.mp isParity, genuine.fragmentCount]
        · cases isParity
      rw [isLast] at member
      simp at member

/-- As many fragments as there are data fragments give the payload. -/
theorem assemble_complete
    (genuine : message.Genuine assembly)
    (enough : message.count ≤ assembly.held.card) :
    assembly.assemble.2 =
      .ok (some message.payload,
        decide (¬ Finset.range message.count ⊆ assembly.held)) := by
  rw [genuine.card_held] at enough
  by_cases full : assembly.fragments.length = message.count
  · have coveredData := genuine.full_iff.mpr full
    have covered := genuine.range_subset_heldData_iff.mp coveredData
    simp only [Assembly.assemble, genuine.fragmentCount, full, ↓reduceIte,
      genuine.finish_eq coveredData, covered, not_true_eq_false,
      decide_false]
  · have atMost := genuine.length_le
    cases withParity : assembly.parity with
    | none =>
        simp only [withParity, Option.isSome_none, Bool.false_eq_true,
          ↓reduceIte, Nat.add_zero] at enough
        omega
    | some parity =>
        simp only [withParity, Option.isSome_some, ↓reduceIte] at enough
        have notCovered :
            ¬ Finset.range message.count ⊆ assembly.held := by
          intro covered
          exact full (genuine.full_iff.mp
            (genuine.range_subset_heldData_iff.mpr covered))
        have oneMissing :
            assembly.fragments.length + 1 = message.count := by
          omega
        have inRange :
            ¬ (assembly.fragments.length : Int) ≠ message.count - 1 := by
          omega
        obtain ⟨_, rfl⟩ := genuine.parity parity withParity
        simp only [Assembly.assemble, genuine.fragmentCount, full,
          ↓reduceIte, withParity, inRange, genuine.recover_eq oneMissing,
          notCovered, not_false_eq_true, decide_true]

/-- With fewer fragments nothing happens. -/
theorem assemble_incomplete
    (genuine : message.Genuine assembly)
    (tooFew : assembly.held.card < message.count) :
    assembly.assemble = (assembly, .ok (none, false)) := by
  rw [genuine.card_held] at tooFew
  have notFull : ¬ assembly.fragments.length = message.count := by
    omega
  cases withParity : assembly.parity with
  | none =>
      simp only [Assembly.assemble, genuine.fragmentCount, notFull,
        ↓reduceIte, withParity]
  | some parity =>
      simp only [withParity, Option.isSome_some, ↓reduceIte] at tooFew
      have notOneMissing :
          (assembly.fragments.length : Int) ≠ message.count - 1 := by
        omega
      simp [Assembly.assemble, genuine.fragmentCount, notFull, withParity,
        notOneMissing]

/-- A carried frame is added to the assembly before it is assembled. -/
theorem place_eq
    {frame : Frame}
    (genuine : message.Genuine assembly)
    (carries : message.Carries frame)
    (now : Time) :
    ∃ updated : Assembly,
      message.Genuine updated ∧
        updated.updatedAt = now ∧
        updated.held = insert frame.fragmentIndex assembly.held ∧
        assembly.place frame now = updated.assemble := by
  cases carries with
  | data notParity inRange piece =>
      have agrees :
          ((assembly.fragments.get? frame.fragmentIndex).any
            (· ≠ frame.payload)) = false := by
        cases found : assembly.fragments.get? frame.fragmentIndex with
        | none =>
            rfl
        | some stored =>
            have same := genuine.fragments _ _ found
            rw [piece] at same
            simp [(Option.some.inj same).symm]
      have touched : message.Genuine { assembly with updatedAt := now } :=
        ⟨genuine.messageLen, genuine.fragmentCount, genuine.fragments,
          genuine.parity⟩
      obtain ⟨updatedGenuine, updatedHeld⟩ := touched.set_fragment piece
      refine ⟨_, updatedGenuine, rfl, ?_, ?_⟩
      · rw [Assembly.held, updatedHeld, Finset.insert_union]
        rfl
      · simp only [Assembly.place, notParity, Bool.false_eq_true,
          ↓reduceIte, agrees]
  | parity isParity index withParity payload =>
      have agrees :
          (assembly.parity.any (· ≠ frame.payload)) = false := by
        cases stored : assembly.parity with
        | none =>
            rfl
        | some parity =>
            simp [(genuine.parity parity stored).2, payload]
      refine ⟨{ assembly with
        updatedAt := now
        parity := some frame.payload },
        ⟨genuine.messageLen, genuine.fragmentCount, genuine.fragments, ?_⟩,
        rfl, ?_, ?_⟩
      · intro parity stored
        obtain rfl := Option.some.inj stored
        exact ⟨withParity, payload⟩
      · have countShape := genuine.fragmentCount
        simp only [Assembly.held, Assembly.heldData, Option.isSome_some,
          ↓reduceIte, countShape, index]
        ext other
        by_cases hadParity : assembly.parity.isSome = true <;>
          simp [hadParity, or_comm]
      · simp only [Assembly.place, isParity, ↓reduceIte, agrees,
          Bool.false_eq_true]

end Message.Genuine

end H3ntun
