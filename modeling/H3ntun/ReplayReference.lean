import H3ntun.ReplayWindow
import H3ntun.Foundation.SlidingBitmap
import Mathlib.Data.List.MinMax

namespace H3ntun

open SlidingBitmap

/-!
# The window refines a full-history reference

`ReplayReference` remembers every accepted pair and every session ever left.
Its acceptance rule is stated on that history.  The bitmap window gives the
same answers, because bit `distance` records exactly whether the sequence
`highest - distance` was accepted in the current session.
-/

/-- Everything a replay check could remember. -/
structure ReplayReference where
  accepted : List (Int × Int)
  current : Option Int
  left : Finset Int
  deriving DecidableEq

namespace ReplayReference

/-- The reference before the first call. -/
def fresh : ReplayReference where
  accepted := []
  current := none
  left := ∅

/-- Largest sequence accepted so far in a session, if there is one. -/
def largest (reference : ReplayReference) (sessionId : Int) :
    Option Int :=
  ((reference.accepted.filter fun pair => pair.1 = sessionId).map
    Prod.snd).max?

/-- The acceptance rule, on the whole history. -/
def Admits
    (size : Nat)
    (reference : ReplayReference)
    (sequence sessionId : Int) : Prop :=
  0 ≤ sequence ∧
    sessionId ∉ reference.left ∧
    (sessionId, sequence) ∉ reference.accepted ∧
    ∀ top ∈ reference.largest sessionId, sequence > top - size

instance
    (size : Nat)
    (reference : ReplayReference)
    (sequence sessionId : Int) :
    Decidable (Admits size reference sequence sessionId) := by
  unfold Admits
  infer_instance

/-- Sessions left once a session has become current. -/
def leave (reference : ReplayReference) (sessionId : Int) : Finset Int :=
  match reference.current with
  | none => reference.left
  | some current =>
      if current = sessionId then
        reference.left
      else
        insert current reference.left

/-- History after an accepted pair. -/
def record
    (reference : ReplayReference)
    (sequence sessionId : Int) :
    ReplayReference where
  accepted := (sessionId, sequence) :: reference.accepted
  current := some sessionId
  left := reference.leave sessionId

/-- The reference as a machine answering the same calls as the window. -/
def machine (size : Nat) : Machine ReplayReference (Int × Int) Bool where
  step reference call :=
    if Admits size reference call.1 call.2 then
      (reference.record call.1 call.2, true)
    else
      (reference, false)

/-- Sequences accepted in one session. -/
def seen (reference : ReplayReference) (sessionId : Int) : Set Int :=
  { sequence | (sessionId, sequence) ∈ reference.accepted }

theorem mem_seen
    {reference : ReplayReference}
    {sessionId sequence : Int} :
    sequence ∈ reference.seen sessionId ↔
      (sessionId, sequence) ∈ reference.accepted :=
  Iff.rfl

theorem seen_record_same
    (reference : ReplayReference)
    (sequence sessionId : Int) :
    (reference.record sequence sessionId).seen sessionId =
      insert sequence (reference.seen sessionId) := by
  ext other
  simp [record, seen]

/-- The largest accepted sequence is accepted and bounds the others. -/
theorem largest_eq_some_iff
    {reference : ReplayReference}
    {sessionId top : Int} :
    reference.largest sessionId = some top ↔
      top ∈ reference.seen sessionId ∧
        ∀ sequence ∈ reference.seen sessionId, sequence ≤ top := by
  simp [largest, List.max?_eq_some_iff, mem_seen]

/-- A session nothing was accepted in has no largest sequence. -/
theorem largest_eq_none_of_seen_empty
    {reference : ReplayReference}
    {sessionId : Int}
    (unseen : reference.seen sessionId = ∅) :
    reference.largest sessionId = none := by
  cases shape : reference.largest sessionId with
  | none =>
      rfl
  | some top =>
      have member := (largest_eq_some_iff.mp shape).1
      simp [unseen] at member

end ReplayReference

namespace ReplayWindow

/--
The window has retired the session, or it is current and the sequence has
been seen or is too old.
-/
def Covers (window : ReplayWindow) (sequence sessionId : Int) : Prop :=
  sessionId ∈ window.retiredSessions ∨
    (window.sessionId = some sessionId ∧
      sequence ≤ window.highest ∧
      (window.size ≤ (window.highest - sequence).toNat ∨
        window.bitmap.testBit (window.highest - sequence).toNat = true))

instance (window : ReplayWindow) (sequence sessionId : Int) :
    Decidable (window.Covers sequence sessionId) :=
  inferInstanceAs (Decidable (_ ∨ (_ ∧ _ ∧ (_ ∨ _))))

/-- The code's window holds exactly what the reference needs of its history. -/
structure Refines
    (window : ReplayWindow)
    (size : Nat)
    (reference : ReplayReference) : Prop where
  sameSize :
    window.size = size
  sameCurrent :
    window.sessionId = reference.current
  sameLeft :
    window.retiredSessions = reference.left
  currentNotLeft :
    ∀ sessionId,
      reference.current = some sessionId → sessionId ∉ reference.left
  acceptedKnown :
    ∀ pair ∈ reference.accepted,
      reference.current = some pair.1 ∨ pair.1 ∈ reference.left
  unopened :
    reference.current = none →
      window.highest = -1 ∧ window.bitmap = 0 ∧ reference.left = ∅
  opened :
    ∀ sessionId,
      reference.current = some sessionId →
      0 ≤ window.highest ∧
        window.highest ∈ reference.seen sessionId ∧
        Records size (reference.seen sessionId)
          window.highest window.bitmap

namespace Refines

/-- Before the first call both remember nothing. -/
theorem fresh
    (size : Nat) :
    (ReplayWindow.fresh size).Refines size ReplayReference.fresh where
  sameSize := rfl
  sameCurrent := rfl
  sameLeft := rfl
  currentNotLeft _ isCurrent := by cases isCurrent
  acceptedKnown _ member := by cases member
  unopened _ := ⟨rfl, rfl, rfl⟩
  opened _ isCurrent := by cases isCurrent

variable
  {window : ReplayWindow}
  {size : Nat}
  {reference : ReplayReference}

/-- A session that is neither current nor left has accepted nothing. -/
theorem seen_eq_empty
    (refines : window.Refines size reference)
    {sessionId : Int}
    (notCurrent : reference.current ≠ some sessionId)
    (notLeft : sessionId ∉ reference.left) :
    reference.seen sessionId = ∅ := by
  apply Set.eq_empty_of_forall_notMem
  intro sequence member
  rcases refines.acceptedKnown _ member with isCurrent | wasLeft
  · exact notCurrent isCurrent
  · exact notLeft wasLeft

/-- Before the first frame every session is unknown. -/
theorem unknown_of_unopened
    (refines : window.Refines size reference)
    (unopened : reference.current = none)
    (sessionId : Int) :
    reference.current ≠ some sessionId ∧ sessionId ∉ reference.left := by
  obtain ⟨_, _, noneLeft⟩ := refines.unopened unopened
  rw [unopened, noneLeft]
  exact ⟨(Option.some_ne_none _).symm, Finset.notMem_empty _⟩

/-- The largest sequence of the current session is the window's highest. -/
theorem largest_current
    (refines : window.Refines size reference)
    {sessionId : Int}
    (isCurrent : reference.current = some sessionId) :
    reference.largest sessionId = some window.highest := by
  obtain ⟨_, member, records⟩ := refines.opened sessionId isCurrent
  exact ReplayReference.largest_eq_some_iff.mpr
    ⟨member, records.bounded⟩

/-- In the current session the rule reads the highest sequence. -/
theorem admits_current_iff
    (refines : window.Refines size reference)
    {sequence sessionId : Int}
    (isCurrent : reference.current = some sessionId)
    (nonnegative : 0 ≤ sequence) :
    reference.Admits size sequence sessionId ↔
      sequence ∉ reference.seen sessionId ∧
        sequence > window.highest - size := by
  simp only [ReplayReference.Admits, nonnegative,
    refines.currentNotLeft sessionId isCurrent, not_false_eq_true,
    refines.largest_current isCurrent, Option.mem_def,
    Option.some.injEq, forall_eq', true_and,
    ReplayReference.mem_seen]

/-- Any nonnegative sequence opens a session that was never current. -/
theorem admits_unknown
    (refines : window.Refines size reference)
    {sequence sessionId : Int}
    (notCurrent : reference.current ≠ some sessionId)
    (notLeft : sessionId ∉ reference.left)
    (nonnegative : 0 ≤ sequence) :
    reference.Admits size sequence sessionId := by
  have unseen := refines.seen_eq_empty notCurrent notLeft
  refine ⟨nonnegative, notLeft, ?_, ?_⟩
  · rw [← ReplayReference.mem_seen, unseen]
    exact Set.notMem_empty sequence
  · rw [ReplayReference.largest_eq_none_of_seen_empty unseen]
    simp

/-- Sessions other than the recorded one keep their accepted sequences. -/
theorem acceptedKnown_record
    (refines : window.Refines size reference)
    (sequence sessionId : Int) :
    ∀ pair ∈ (reference.record sequence sessionId).accepted,
      (reference.record sequence sessionId).current = some pair.1 ∨
        pair.1 ∈ (reference.record sequence sessionId).left := by
  intro pair member
  rcases List.mem_cons.mp member with isNew | old
  · exact Or.inl (by rw [isNew]; rfl)
  · by_cases same : pair.1 = sessionId
    · exact Or.inl (by rw [same]; rfl)
    · right
      simp only [ReplayReference.record, ReplayReference.leave]
      rcases refines.acceptedKnown pair old with isCurrent | wasLeft
      · rw [isCurrent]
        simp [same]
      · cases reference.current with
        | none =>
            exact wasLeft
        | some current =>
            by_cases stays : current = sessionId
            · simpa [stays] using wasLeft
            · simp [stays, wasLeft]

/--
A new session: the window after a switch refines the history extended by the
pair that opened it.
-/
theorem open_session
    (refines : window.Refines size reference)
    (positive : 0 < size)
    {sequence sessionId : Int}
    (notCurrent : reference.current ≠ some sessionId)
    (notLeft : sessionId ∉ reference.left)
    (nonnegative : 0 ≤ sequence) :
    Refines
      { size := window.size
        sessionId := some sessionId
        retiredSessions := reference.leave sessionId
        highest := sequence
        bitmap := 1 }
      size (reference.record sequence sessionId) where
  sameSize := refines.sameSize
  sameCurrent := rfl
  sameLeft := rfl
  currentNotLeft other isCurrent := by
    obtain rfl : sessionId = other := Option.some.inj isCurrent
    simp only [ReplayReference.record, ReplayReference.leave]
    cases shape : reference.current with
    | none =>
        exact notLeft
    | some current =>
        have different : current ≠ sessionId := by
          rintro rfl
          exact notCurrent shape
        simp [different, Ne.symm different, notLeft]
  acceptedKnown := refines.acceptedKnown_record sequence sessionId
  unopened isNone := by cases isNone
  opened other isCurrent := by
    obtain rfl : sessionId = other := Option.some.inj isCurrent
    have unseen := refines.seen_eq_empty notCurrent notLeft
    rw [reference.seen_record_same, unseen, insert_empty_eq]
    exact ⟨nonnegative, rfl, Records.single positive sequence⟩

/-- The current session records one more sequence. -/
theorem record_current
    (refines : window.Refines size reference)
    {sequence sessionId highest : Int}
    {bitmap : Nat}
    (isCurrent : reference.current = some sessionId)
    (nonnegative : 0 ≤ highest)
    (highestSeen :
      highest ∈ insert sequence (reference.seen sessionId))
    (records :
      Records size (insert sequence (reference.seen sessionId))
        highest bitmap) :
    Refines { window with highest := highest, bitmap := bitmap }
      size (reference.record sequence sessionId) where
  sameSize := refines.sameSize
  sameCurrent := by
    rw [refines.sameCurrent, isCurrent]
    rfl
  sameLeft := by
    rw [refines.sameLeft]
    simp [ReplayReference.record, ReplayReference.leave, isCurrent]
  currentNotLeft other same := by
    obtain rfl : sessionId = other := Option.some.inj same
    simpa [ReplayReference.record, ReplayReference.leave, isCurrent]
      using refines.currentNotLeft sessionId isCurrent
  acceptedKnown := refines.acceptedKnown_record sequence sessionId
  unopened isNone := by cases isNone
  opened other same := by
    obtain rfl : sessionId = other := Option.some.inj same
    rw [reference.seen_record_same]
    exact ⟨nonnegative, highestSeen, records⟩

/-- Placing a nonnegative sequence in the current session. -/
theorem place
    (refines : window.Refines size reference)
    (positive : 0 < size)
    {sequence sessionId : Int}
    (isCurrent : reference.current = some sessionId)
    (nonnegative : 0 ≤ sequence) :
    (reference.Admits size sequence sessionId ∧
        (window.place sequence).2 = true ∧
        (window.place sequence).1.Refines size
          (reference.record sequence sessionId)) ∨
      (¬ reference.Admits size sequence sessionId ∧
        window.place sequence = (window, false)) := by
  obtain ⟨opened, highestSeen, records⟩ :=
    refines.opened sessionId isCurrent
  rw [refines.admits_current_iff isCurrent nonnegative]
  have notFirst : ¬ window.highest < 0 := by omega
  by_cases ahead : sequence > window.highest
  · left
    refine ⟨⟨?_, by omega⟩, by simp [ReplayWindow.place, notFirst, ahead], ?_⟩
    · intro member
      have notAbove := records.bounded sequence member
      omega
    · simp only [ReplayWindow.place, notFirst, ahead, ↓reduceIte]
      apply refines.record_current isCurrent nonnegative
        (Set.mem_insert sequence _)
      rw [refines.sameSize]
      split
      · rename_i far
        exact records.jump positive far
      · exact records.shift ahead
  · have behind : sequence ≤ window.highest := by omega
    by_cases outside : (window.highest - sequence).toNat ≥ window.size
    · right
      refine ⟨?_, by
        simp [ReplayWindow.place, notFirst, ahead, outside]⟩
      rintro ⟨_, inside⟩
      have sizeShape := refines.sameSize
      omega
    · have inside : (window.highest - sequence).toNat < size := by
        have sizeShape := refines.sameSize
        omega
      have readsBit := records.and_mask_ne_zero behind inside
      by_cases taken :
          window.bitmap &&&
            (1 <<< (window.highest - sequence).toNat) ≠ 0
      · right
        refine ⟨fun admitted => admitted.1 (readsBit.mp taken), ?_⟩
        simp only [ReplayWindow.place, notFirst, ahead, outside,
          ↓reduceIte]
        simp [taken]
      · left
        have clear := mt readsBit.mpr taken
        refine ⟨⟨clear, by omega⟩, ?_, ?_⟩
        · simp only [ReplayWindow.place, notFirst, ahead, outside,
            taken, ↓reduceIte]
        · simp only [ReplayWindow.place, notFirst, ahead, outside,
            taken, ↓reduceIte]
          exact refines.record_current isCurrent opened
            (Set.mem_insert_of_mem sequence highestSeen)
            (records.mark behind inside)

/--
One call: the window accepts exactly what the rule admits, records it, and is
unchanged when it refuses.
-/
theorem accept
    (refines : window.Refines size reference)
    (positive : 0 < size)
    (sequence sessionId : Int) :
    (reference.Admits size sequence sessionId ∧
        (window.accept sequence sessionId).2 = true ∧
        (window.accept sequence sessionId).1.Refines size
          (reference.record sequence sessionId)) ∨
      (¬ reference.Admits size sequence sessionId ∧
        window.accept sequence sessionId = (window, false)) := by
  by_cases negative : sequence < 0
  · right
    refine ⟨fun admitted => ?_, by
      simp [ReplayWindow.accept, acceptLocked, negative]⟩
    have nonnegative := admitted.1
    omega
  have nonnegative : 0 ≤ sequence := by omega
  by_cases isCurrent : reference.current = some sessionId
  · have stays :
        window.accept sequence sessionId = window.place sequence := by
      simp [ReplayWindow.accept, acceptLocked, negative, selectSession,
        refines.sameCurrent, isCurrent]
    rw [stays]
    exact refines.place positive isCurrent nonnegative
  · by_cases wasLeft : sessionId ∈ reference.left
    · right
      refine ⟨fun admitted => admitted.2.1 wasLeft, ?_⟩
      cases shape : reference.current with
      | none =>
          simp [(refines.unopened shape).2.2] at wasLeft
      | some current =>
          have different : sessionId ≠ current := by
            rintro rfl
            exact isCurrent shape
          simp [ReplayWindow.accept, acceptLocked, negative,
            selectSession, refines.sameCurrent, shape, different,
            refines.sameLeft, wasLeft]
    · left
      have switched :
          window.accept sequence sessionId =
            ({ size := window.size
               sessionId := some sessionId
               retiredSessions := reference.leave sessionId
               highest := sequence
               bitmap := 1 }, true) := by
        cases shape : reference.current with
        | none =>
            simp [ReplayWindow.accept, acceptLocked, negative,
              selectSession, refines.sameCurrent, shape,
              ReplayWindow.place, (refines.unopened shape).1,
              ReplayReference.leave, refines.sameLeft]
        | some current =>
            have different : sessionId ≠ current := by
              rintro rfl
              exact isCurrent shape
            simp [ReplayWindow.accept, acceptLocked, negative,
              selectSession, refines.sameCurrent, shape, different,
              refines.sameLeft, wasLeft, ReplayWindow.place,
              ReplayReference.leave, Ne.symm different]
      rw [switched]
      exact ⟨refines.admits_unknown isCurrent wasLeft nonnegative, rfl,
        refines.open_session positive isCurrent wasLeft nonnegative⟩

/-- One call, as a simulation step between the two machines. -/
theorem simulates
    (positive : 0 < size)
    (window : ReplayWindow)
    (reference : ReplayReference)
    (call : Int × Int)
    (refines : window.Refines size reference) :
    (ReplayWindow.machine.step window call).2 =
        ((ReplayReference.machine size).step reference call).2 ∧
      (ReplayWindow.machine.step window call).1.Refines size
        ((ReplayReference.machine size).step reference call).1 := by
  rcases refines.accept positive call.1 call.2 with
      ⟨admitted, accepts, next⟩ | ⟨refused, unchanged⟩
  · simp only [ReplayWindow.machine, ReplayReference.machine, admitted,
      ↓reduceIte]
    exact ⟨accepts, next⟩
  · simp only [ReplayWindow.machine, ReplayReference.machine, refused,
      ↓reduceIte, unchanged]
    exact ⟨trivial, refines⟩

/-- A whole run: equal answers, and the windows still correspond. -/
theorem run
    (refines : window.Refines size reference)
    (positive : 0 < size)
    (calls : List (Int × Int)) :
    ReplayWindow.machine.answers window calls =
        (ReplayReference.machine size).answers reference calls ∧
      (ReplayWindow.machine.run window calls).Refines size
        ((ReplayReference.machine size).run reference calls) :=
  Machine.answers_eq_of_simulation (simulates positive) refines calls

/-- The reference remembers exactly the pairs the window accepted. -/
theorem accepted_run
    (refines : window.Refines size reference)
    (positive : 0 < size)
    (calls : List (Int × Int)) :
    ((ReplayReference.machine size).run reference calls).accepted =
      (((ReplayWindow.machine.accepted window calls).map
        Prod.swap).reverse ++ reference.accepted) := by
  induction calls generalizing window reference with
  | nil =>
      rfl
  | cons call rest inductionHypothesis =>
      obtain ⟨sequence, sessionId⟩ := call
      obtain ⟨sameAnswer, next⟩ :=
        simulates positive window reference (sequence, sessionId) refines
      rw [Machine.run, inductionHypothesis next, Machine.accepted,
        sameAnswer]
      by_cases admitted : reference.Admits size sequence sessionId
      · simp [ReplayReference.machine, admitted, ReplayReference.record]
      · simp [ReplayReference.machine, admitted]

/-- What the window covers is what the rule does not admit. -/
theorem covers_iff
    (refines : window.Refines size reference)
    {sequence sessionId : Int}
    (nonnegative : 0 ≤ sequence) :
    window.Covers sequence sessionId ↔
      ¬ reference.Admits size sequence sessionId := by
  unfold Covers
  rw [refines.sameLeft, refines.sameCurrent, refines.sameSize]
  by_cases wasLeft : sessionId ∈ reference.left
  · exact iff_of_true (.inl wasLeft) fun admitted =>
      admitted.2.1 wasLeft
  by_cases isCurrent : reference.current = some sessionId
  · obtain ⟨_, _, records⟩ := refines.opened sessionId isCurrent
    rw [refines.admits_current_iff isCurrent nonnegative]
    constructor
    · rintro (retired | ⟨_, behind, tooOld | marked⟩) ⟨unseen, inside⟩
      · exact wasLeft retired
      · omega
      · have member := ((records.bit _).mp marked).2
        rw [Int.toNat_of_nonneg (by omega), Int.sub_sub_self] at member
        exact unseen member
    · intro refused
      by_cases member : sequence ∈ reference.seen sessionId
      · have behind := records.bounded sequence member
        refine .inr ⟨isCurrent, behind, ?_⟩
        by_cases inside : (window.highest - sequence).toNat < size
        · refine .inr ((records.bit _).mpr ⟨inside, ?_⟩)
          rw [Int.toNat_of_nonneg (by omega), Int.sub_sub_self]
          exact member
        · exact .inl (not_lt.mp inside)
      · have outside : ¬ sequence > window.highest - size :=
          fun inside => refused ⟨member, inside⟩
        exact .inr ⟨isCurrent, by omega, .inl (by omega)⟩
  · have admitted :=
      refines.admits_unknown isCurrent wasLeft nonnegative
    refine iff_of_false ?_ (not_not.mpr admitted)
    rintro (retired | ⟨current, _⟩)
    · exact wasLeft retired
    · exact isCurrent current

/-- The window accepts exactly what its reference admits. -/
theorem accept_iff_admits
    (refines : window.Refines size reference)
    (positive : 0 < size)
    {sequence sessionId : Int} :
    (window.accept sequence sessionId).2 = true ↔
      reference.Admits size sequence sessionId := by
  rcases refines.accept positive sequence sessionId with
    ⟨admitted, accepts, _⟩ | ⟨refused, unchanged⟩
  · exact iff_of_true accepts admitted
  · rw [unchanged]
    exact iff_of_false Bool.false_ne_true refused

/-- The window refuses exactly what it covers. -/
theorem accept_eq_false_iff
    (refines : window.Refines size reference)
    (positive : 0 < size)
    {sequence sessionId : Int}
    (nonnegative : 0 ≤ sequence) :
    (window.accept sequence sessionId).2 = false ↔
      window.Covers sequence sessionId := by
  rw [refines.covers_iff nonnegative]
  rcases refines.accept positive sequence sessionId with
    ⟨admitted, accepts, _⟩ | ⟨refused, unchanged⟩
  · simp [admitted, accepts]
  · simp [refused, unchanged]

/-- Accepting a frame changes the window. -/
theorem accept_ne
    (refines : window.Refines size reference)
    (positive : 0 < size)
    {sequence sessionId : Int}
    (accepts : (window.accept sequence sessionId).2 = true) :
    (window.accept sequence sessionId).1 ≠ window := by
  intro same
  rcases refines.accept positive sequence sessionId with
    ⟨_, _, next⟩ | ⟨_, unchanged⟩
  · rw [same] at next
    -- A second copy would be refused, but the window has not changed.
    rcases next.accept positive sequence sessionId with
      ⟨again, _⟩ | ⟨_, unchanged⟩
    · exact again.2.2.1 List.mem_cons_self
    · rw [unchanged] at accepts
      cases accepts
  · rw [unchanged] at accepts
    cases accepts

/-- In a window of one session only age and repetition decide. -/
theorem accept_only_iff
    (refines : window.Refines size reference)
    (positive : 0 < size)
    {sequence sessionId : Int}
    (only : ∀ pair ∈ reference.accepted, pair.1 = sessionId)
    (nonnegative : 0 ≤ sequence) :
    (window.accept sequence sessionId).2 = true ↔
      (sessionId, sequence) ∉ reference.accepted ∧
        window.highest - sequence < size := by
  rw [refines.accept_iff_admits positive]
  cases current : reference.current with
  | none =>
      obtain ⟨unopened, _, _⟩ := refines.unopened current
      obtain ⟨notCurrent, notLeft⟩ :=
        refines.unknown_of_unopened current sessionId
      have unseen := refines.seen_eq_empty notCurrent notLeft
      refine iff_of_true
        (refines.admits_unknown notCurrent notLeft nonnegative) ⟨?_, ?_⟩
      · rw [← ReplayReference.mem_seen, unseen]
        exact Set.notMem_empty sequence
      · omega
  | some known =>
      obtain ⟨_, highestSeen, _⟩ := refines.opened known current
      have same : known = sessionId := only _ highestSeen
      subst same
      rw [refines.admits_current_iff current nonnegative,
        ReplayReference.mem_seen]
      constructor <;> rintro ⟨unseen, inside⟩ <;>
        exact ⟨unseen, by omega⟩

/-- In a window of one session the highest sequence is a maximum. -/
theorem highest_accept
    (refines : window.Refines size reference)
    (positive : 0 < size)
    {sequence sessionId : Int}
    (only : ∀ pair ∈ reference.accepted, pair.1 = sessionId)
    (accepts : (window.accept sequence sessionId).2 = true) :
    (window.accept sequence sessionId).1.highest =
      max window.highest sequence := by
  rcases refines.accept positive sequence sessionId with
    ⟨admitted, _, next⟩ | ⟨_, unchanged⟩
  · obtain ⟨_, highestSeen, records⟩ := next.opened sessionId rfl
    rw [ReplayReference.seen_record_same] at highestSeen records
    have aboveNew := records.bounded sequence (Set.mem_insert _ _)
    cases current : reference.current with
    | none =>
        obtain ⟨unopened, _, _⟩ := refines.unopened current
        obtain ⟨notCurrent, notLeft⟩ :=
          refines.unknown_of_unopened current sessionId
        rw [refines.seen_eq_empty notCurrent notLeft] at highestSeen
        rcases highestSeen with isNew | impossible
        · have nonnegative := admitted.1
          omega
        · cases impossible
    | some known =>
        obtain ⟨_, oldSeen, oldRecords⟩ := refines.opened known current
        have same : known = sessionId := only _ oldSeen
        subst same
        have aboveOld :=
          records.bounded window.highest (Set.mem_insert_of_mem _ oldSeen)
        rcases highestSeen with isNew | old
        · omega
        · have notAbove := oldRecords.bounded _ old
          omega
  · rw [unchanged] at accepts
    cases accepts

end Refines

/-- The rule never admits a pair twice, so the reference lists it once. -/
theorem reference_accepted_nodup
    (size : Nat)
    (calls : List (Int × Int)) :
    ((ReplayReference.machine size).run
      ReplayReference.fresh calls).accepted.Nodup := by
  apply (ReplayReference.machine size).run_invariant
    fun reference => reference.accepted.Nodup
  · intro reference call distinct
    by_cases admitted : reference.Admits size call.1 call.2
    · simp only [ReplayReference.machine, admitted, ↓reduceIte,
        ReplayReference.record, List.nodup_cons]
      exact ⟨admitted.2.2.1, distinct⟩
    · simpa [ReplayReference.machine, admitted] using distinct
  · exact List.nodup_nil

/--
For every window size the constructor allows and every list of calls, a fresh
window answers as the full-history reference.  No pair is accepted twice, an
unseen sequence above `highest - size` of the current session is accepted,
and a refused call changes nothing.
-/
theorem fresh_window_refines_reference
    (size : Nat)
    (allowed : 64 ≤ size)
    (calls : List (Int × Int)) :
    init size = .ok (fresh size) ∧
      machine.answers (fresh size) calls =
        (ReplayReference.machine size).answers
          ReplayReference.fresh calls ∧
      (machine.accepted (fresh size) calls).Nodup ∧
      (∀ sequence sessionId,
        0 ≤ sequence →
        (machine.run (fresh size) calls).sessionId = some sessionId →
        sequence > (machine.run (fresh size) calls).highest - size →
        (sequence, sessionId) ∉ machine.accepted (fresh size) calls →
        ((machine.run (fresh size) calls).accept
          sequence sessionId).2 = true) ∧
      (∀ sequence sessionId,
        ((machine.run (fresh size) calls).accept
          sequence sessionId).2 = false →
        ((machine.run (fresh size) calls).accept
          sequence sessionId).1 = machine.run (fresh size) calls) := by
  have positive : 0 < size := by omega
  obtain ⟨sameAnswers, refines⟩ :=
    (Refines.fresh size).run positive calls
  have remembered := (Refines.fresh size).accepted_run positive calls
  rw [show ReplayReference.fresh.accepted = [] from rfl,
    List.append_nil] at remembered
  refine ⟨?_, sameAnswers, ?_, ?_, ?_⟩
  · have notSmall : ¬ size < 64 := by omega
    simp [init, notSmall]
  · have distinct := reference_accepted_nodup size calls
    rw [remembered, List.nodup_reverse] at distinct
    exact distinct.of_map Prod.swap
  · intro sequence sessionId nonnegative isCurrent inside unseen
    have current := isCurrent
    rw [refines.sameCurrent] at current
    have admitted :=
      (refines.admits_current_iff current nonnegative).mpr
        ⟨by
          rw [ReplayReference.mem_seen, remembered, List.mem_reverse]
          intro member
          obtain ⟨call, accepted, shape⟩ := List.mem_map.mp member
          obtain ⟨rfl, rfl⟩ := Prod.mk.inj shape
          exact unseen accepted, inside⟩
    rcases refines.accept positive sequence sessionId with
        ⟨_, accepts, _⟩ | ⟨refused, _⟩
    · exact accepts
    · exact absurd admitted refused
  · intro sequence sessionId refusedCall
    rcases refines.accept positive sequence sessionId with
        ⟨_, accepts, _⟩ | ⟨_, unchanged⟩
    · rw [accepts] at refusedCall
      cases refusedCall
    · rw [unchanged]

/-- The boundary at size 64: distance 63 is accepted, distance 64 is not. -/
theorem fresh_window_refines_reference_boundary :
    init 64 = .ok (fresh 64) ∧
      machine.answers (fresh 64) [(100, 0), (37, 0), (36, 0), (37, 0)] =
        [true, true, false, false] ∧
      (machine.accepted (fresh 64)
        [(100, 0), (37, 0), (36, 0), (37, 0)]).Nodup := by
  obtain ⟨built, sameAnswers, distinct, _⟩ :=
    fresh_window_refines_reference 64 (by decide)
      [(100, 0), (37, 0), (36, 0), (37, 0)]
  exact ⟨built, sameAnswers.trans (by decide), distinct⟩

end ReplayWindow

end H3ntun
