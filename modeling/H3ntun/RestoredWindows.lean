import H3ntun.ReplayReference
import H3ntun.ReplayState

namespace H3ntun

/-!
# Windows that are restored

Every reachable window satisfies a representation invariant and comes back
unchanged from its snapshot.  `restore` checks less than that invariant: it
admits states no run of a window leads to.
-/

namespace ReplayReference

/-- Only nonnegative sequences are admitted. -/
theorem nonnegative_run
    (size : Nat)
    (calls : List (Int × Int)) :
    ∀ pair ∈ ((machine size).run fresh calls).accepted, 0 ≤ pair.2 := by
  apply (machine size).run_invariant
    fun reference => ∀ pair ∈ reference.accepted, 0 ≤ pair.2
  · intro reference call nonnegative
    simp only [machine]
    split
    · rename_i admitted
      intro pair member
      rcases List.mem_cons.mp member with isNew | old
      · rw [isNew]
        exact admitted.1
      · exact nonnegative pair old
    · exact nonnegative
  · intro pair member
    cases member

end ReplayReference

namespace ReplayWindow

/-- What holds of every reachable window. -/
structure WellFormed (window : ReplayWindow) : Prop where
  bounded :
    -1 ≤ window.highest
  unopened :
    window.sessionId = none ↔ window.highest = -1
  empty :
    window.highest = -1 ↔ window.bitmap = 0
  newest :
    0 ≤ window.highest → window.bitmap.testBit 0 = true
  recorded :
    0 ≤ window.highest →
    ∀ distance : Nat,
      window.bitmap.testBit distance = true →
      (distance : Int) ≤ min ((window.size : Int) - 1) window.highest
  current :
    ∀ sessionId,
      window.sessionId = some sessionId →
      sessionId ∉ window.retiredSessions

variable {window : ReplayWindow}

theorem wellFormed_of_reachable
    {size : Nat}
    (positive : 0 < size)
    (calls : List (Int × Int)) :
    (machine.run (fresh size) calls).WellFormed := by
  have refines := ((Refines.fresh size).run positive calls).2
  have nonnegative := ReplayReference.nonnegative_run size calls
  generalize machine.run (fresh size) calls = window at refines ⊢
  generalize (ReplayReference.machine size).run
    ReplayReference.fresh calls = reference at refines nonnegative
  cases current : reference.current with
  | none =>
      obtain ⟨highest, bitmap, _⟩ := refines.unopened current
      have sameCurrent := refines.sameCurrent.trans current
      exact {
        bounded := by omega
        unopened := iff_of_true sameCurrent highest
        empty := iff_of_true highest bitmap
        newest := by omega
        recorded := by omega
        current := by simp [sameCurrent] }
  | some sessionId =>
      obtain ⟨opened, highestSeen, records⟩ :=
        refines.opened sessionId current
      have sameCurrent := refines.sameCurrent.trans current
      have newest : window.bitmap.testBit 0 = true := by
        rw [records.bit]
        exact ⟨positive, by simpa using highestSeen⟩
      have notEmpty : window.bitmap ≠ 0 := by
        intro isZero
        simp [isZero] at newest
      exact {
        bounded := by omega
        unopened := iff_of_false (by simp [sameCurrent]) (by omega)
        empty := iff_of_false (by omega) notEmpty
        newest := fun _ => newest
        recorded := by
          intro _ distance marked
          obtain ⟨inside, member⟩ := (records.bit distance).mp marked
          have seen := nonnegative _ member
          have seen : 0 ≤ window.highest - distance := seen
          rw [refines.sameSize]
          omega
        current := by
          intro other same
          rw [sameCurrent] at same
          rw [← Option.some.inj same, refines.sameLeft]
          exact refines.currentNotLeft sessionId current }

/-- The bitmap of a well-formed window fits its size. -/
theorem WellFormed.bitmap_lt
    (wellFormed : window.WellFormed) :
    window.bitmap < 2 ^ window.size := by
  by_cases opened : 0 ≤ window.highest
  · apply Nat.lt_pow_two_of_testBit
    intro distance outside
    by_contra marked
    have inside := wellFormed.recorded opened distance
      (Bool.not_eq_false _ ▸ marked)
    omega
  · have bounded := wellFormed.bounded
    rw [wellFormed.empty.mp (by omega)]
    exact Nat.two_pow_pos _

/-- A well-formed window comes back from its snapshot. -/
theorem restore_snapshot
    (wellFormed : window.WellFormed)
    (target : ReplayWindow)
    (sameSize : target.size = window.size) :
    target.restore window.snapshot = (window, .ok ()) := by
  rw [restore_eq_ok_iff]
  refine ⟨_, window.sessionId, readState_snapshot window, ?_, ?_,
    wellFormed.bounded, Int.natCast_nonneg _, ?_, ?_⟩
  · rw [sameSize]
    rfl
  · unfold recorded
    cases window.sessionId <;> rfl
  · rw [sameSize, Nat.size_le]
    exact wellFormed.bitmap_lt
  · simp only [recorded, Finset.sort_toFinset, Int.toNat_natCast,
      sameSize]

/-- A window of another size does not accept a snapshot. -/
theorem restore_snapshot_of_size_ne
    (window : ReplayWindow)
    {target : ReplayWindow}
    (otherSize : target.size ≠ window.size) :
    target.restore window.snapshot =
      (target, .error
        (.protocolError "replay state window size mismatch")) := by
  have mismatch : (window.size : Int) ≠ target.size :=
    fun same => otherSize (Int.ofNat_inj.mp same).symm
  simp [restore, readState_snapshot, restoreValues, recorded, mismatch]

/--
For every reachable window: restoring its snapshot into a fresh window of the
same size succeeds, and the two give the same answers and the same snapshots
ever after; restoring it into a window of another size raises and changes
nothing.
-/
theorem restored_snapshot_behaves_alike
    {size : Nat}
    (large : 64 ≤ size)
    (calls : List (Int × Int)) :
    ((fresh size).restore
        (machine.run (fresh size) calls).snapshot).2 = .ok () ∧
      (∀ later : List (Int × Int),
        machine.answers ((fresh size).restore
            (machine.run (fresh size) calls).snapshot).1 later =
          machine.answers (machine.run (fresh size) calls) later ∧
        (machine.run ((fresh size).restore
            (machine.run (fresh size) calls).snapshot).1 later).snapshot =
          (machine.run (machine.run (fresh size) calls)
            later).snapshot) ∧
      ∀ target : ReplayWindow,
        target.size ≠ size →
        target.restore (machine.run (fresh size) calls).snapshot =
          (target, .error
            (.protocolError "replay state window size mismatch")) := by
  have positive : 0 < size := by omega
  have wellFormed := wellFormed_of_reachable positive calls
  have sameSize : (machine.run (fresh size) calls).size = size :=
    ((Refines.fresh size).run positive calls).2.sameSize
  have restored :=
    restore_snapshot wellFormed (fresh size) sameSize.symm
  rw [restored]
  refine ⟨rfl, fun later => ⟨rfl, rfl⟩, fun target otherSize => ?_⟩
  exact restore_snapshot_of_size_ne _ fun same =>
    otherSize (same.trans sameSize)

theorem restored_snapshot_behaves_alike_two_sessions :
    ((fresh 64).restore
        (machine.run (fresh 64) [(5, 1), (7, 1), (3, 2)]).snapshot).2 =
          .ok () ∧
      machine.answers ((fresh 64).restore
          (machine.run (fresh 64) [(5, 1), (7, 1), (3, 2)]).snapshot).1
        [(3, 2), (4, 2), (8, 1)] = [false, true, false] := by
  obtain ⟨restores, alike, _⟩ :=
    restored_snapshot_behaves_alike (le_refl 64) [(5, 1), (7, 1), (3, 2)]
  refine ⟨restores, ?_⟩
  rw [(alike [(3, 2), (4, 2), (8, 1)]).1]
  decide

/-- In a well-formed window the newest frame is not accepted again. -/
theorem WellFormed.accept_highest
    (wellFormed : window.WellFormed)
    {sessionId : Int}
    (isCurrent : window.sessionId = some sessionId)
    (positive : 0 < window.size) :
    (window.accept window.highest sessionId).2 = false := by
  have opened : 0 ≤ window.highest := by
    have bounded := wellFormed.bounded
    by_contra negative
    have unopened := wellFormed.unopened.mpr (by omega)
    rw [isCurrent] at unopened
    cases unopened
  have odd : window.bitmap % 2 = 1 := by
    simpa using wellFormed.newest opened
  simp [accept, acceptLocked, selectSession, isCurrent, place,
    not_lt.mpr opened, odd, Nat.not_le.mpr positive]

/-- A well-formed window accepts the first frame of a new session. -/
theorem WellFormed.accept_new_session
    (wellFormed : window.WellFormed)
    {sequence sessionId : Int}
    (nonnegative : 0 ≤ sequence)
    (notCurrent : window.sessionId ≠ some sessionId)
    (notRetired : sessionId ∉ window.retiredSessions) :
    (window.accept sequence sessionId).2 = true := by
  cases current : window.sessionId with
  | none =>
      have unopened := wellFormed.unopened.mp current
      simp [accept, acceptLocked, selectSession, current, place,
        not_lt.mpr nonnegative, unopened]
  | some known =>
      have different : sessionId ≠ known := by
        rintro rfl
        exact notCurrent current
      simp [accept, acceptLocked, selectSession, current, place,
        not_lt.mpr nonnegative, different, notRetired]

/-- The numbers in the fields of a state. -/
def Stores
    (state : JsonValue)
    (sessionId : Option Int)
    (retired : Finset Int)
    (highest : Int)
    (bitmap : Nat) : Prop :=
  ∃ values, readState state = .ok values ∧
    readSession values.sessionId = .ok sessionId ∧
    values.retired.toFinset = retired ∧
    values.highest = highest ∧
    values.bitmap = bitmap

/-- What an admitted state stores is what the restored window holds. -/
theorem restored_of_stores
    {restored : ReplayWindow}
    {state : JsonValue}
    {sessionId : Option Int}
    {retired : Finset Int}
    {highest : Int}
    {bitmap : Nat}
    (stores : Stores state sessionId retired highest bitmap)
    (restores : window.restore state = (restored, .ok ())) :
    -1 ≤ highest ∧
      bitmap < 2 ^ window.size ∧
      restored =
        { window with
          sessionId := sessionId
          retiredSessions := retired
          highest := highest
          bitmap := bitmap } := by
  obtain ⟨values, read, readsSession, rfl, rfl, sameBitmap⟩ := stores
  obtain ⟨others, session, readOthers, _, readsOther, bounded, _, bits,
    rfl⟩ := restore_eq_ok_iff.mp restores
  rw [read] at readOthers
  obtain rfl := Except.ok.inj readOthers
  rw [readsSession] at readsOther
  obtain rfl := Except.ok.inj readsOther
  rw [sameBitmap, Int.toNat_natCast] at bits ⊢
  exact ⟨bounded, Nat.size_le.mp bits, rfl⟩

/-- The newest frame is refused, and the first of a new session accepted. -/
structure Resumes (window : ReplayWindow) : Prop where
  newest :
    ∀ sessionId,
      window.sessionId = some sessionId →
      (window.accept window.highest sessionId).2 = false
  fresh :
    ∀ sequence sessionId,
      0 ≤ sequence →
      window.sessionId ≠ some sessionId →
      sessionId ∉ window.retiredSessions →
      (window.accept sequence sessionId).2 = true

/--
For every state `restore` admits: the restored window satisfies the invariant
of the reachable windows, with what follows from it for the next frames, if
and only if the state either stores no session, nothing received and an empty
bitmap, or a session not among the retired ones, a highest sequence, and an
odd bitmap with no bit above that sequence.
-/
theorem restored_window_reachable_iff
    {size : Nat}
    (large : 64 ≤ size)
    {window restored : ReplayWindow}
    (sameSize : window.size = size)
    {state : JsonValue}
    {sessionId : Option Int}
    {retired : Finset Int}
    {highest : Int}
    {bitmap : Nat}
    (stores : Stores state sessionId retired highest bitmap)
    (restores : window.restore state = (restored, .ok ())) :
    (∀ calls, (machine.run (fresh size) calls).WellFormed) ∧
      (restored.WellFormed ∧ restored.Resumes ↔
        sessionId = none ∧ highest = -1 ∧ bitmap = 0 ∨
          (∃ session, sessionId = some session ∧ session ∉ retired) ∧
            0 ≤ highest ∧ bitmap % 2 = 1 ∧
              bitmap < 2 ^ (highest + 1).toNat) := by
  have positive : 0 < size := by omega
  obtain ⟨bounded, fits, rfl⟩ := restored_of_stores stores restores
  refine ⟨wellFormed_of_reachable positive, ?_⟩
  constructor
  · rintro ⟨wellFormed, _⟩
    cases sessionId with
    | none =>
        have unopened : highest = -1 := wellFormed.unopened.mp rfl
        exact .inl ⟨rfl, unopened, wellFormed.empty.mp unopened⟩
    | some session =>
        have opened : 0 ≤ highest := by
          by_contra negative
          have unopened : highest = -1 := by omega
          cases wellFormed.unopened.mpr unopened
        refine .inr ⟨⟨session, rfl, wellFormed.current session rfl⟩,
          opened, by simpa using wellFormed.newest opened, ?_⟩
        apply Nat.lt_pow_two_of_testBit
        intro distance above
        by_contra marked
        have inside := wellFormed.recorded opened distance
          (Bool.not_eq_false _ ▸ marked)
        have inside :
            (distance : Int) ≤ min ((window.size : Int) - 1) highest :=
          inside
        omega
  · intro consistent
    have wellFormed :
        WellFormed
          { window with
            sessionId := sessionId
            retiredSessions := retired
            highest := highest
            bitmap := bitmap } := by
      have notOpened : ¬ (0 : Int) ≤ -1 := by decide
      rcases consistent with ⟨rfl, rfl, rfl⟩ |
        ⟨⟨session, rfl, notRetired⟩, opened, odd, low⟩
      · exact {
          bounded := le_refl _
          unopened := iff_of_true rfl rfl
          empty := iff_of_true rfl rfl
          newest := fun opened => absurd opened notOpened
          recorded := fun opened => absurd opened notOpened
          current := fun _ isCurrent => by cases isCurrent }
      · have notEmpty : bitmap ≠ 0 := by omega
        exact {
          bounded := bounded
          unopened := iff_of_false (Option.some_ne_none _) (by
            change ¬ highest = -1
            omega)
          empty := iff_of_false (by
            change ¬ highest = -1
            omega) notEmpty
          newest := fun _ => by simpa using odd
          recorded := by
            intro _ distance marked
            have marked : bitmap.testBit distance = true := marked
            have below :
                ∀ bits, bitmap < 2 ^ bits → distance < bits := by
              intro bits bound
              by_contra outside
              have unmarked := Nat.testBit_lt_two_pow
                (lt_of_lt_of_le bound
                  (Nat.pow_le_pow_right (by decide) (not_lt.mp outside)))
              rw [marked] at unmarked
              cases unmarked
            have belowSize := below _ fits
            have belowHighest := below _ low
            change (distance : Int) ≤ min ((window.size : Int) - 1) highest
            omega
          current := by
            intro other isCurrent
            rw [← Option.some.inj isCurrent]
            exact notRetired }
    refine ⟨wellFormed, ?_, ?_⟩
    · intro session isCurrent
      exact wellFormed.accept_highest isCurrent (sameSize ▸ positive)
    · intro sequence session nonnegative notCurrent notRetired
      exact wellFormed.accept_new_session nonnegative notCurrent notRetired

/-- A state for windows of size 64 without retired sessions. -/
def stateOf (sessionId : JsonValue) (highest : Int) (bitmap : String) :
    JsonValue :=
  .object [
    ("size", .int 64),
    ("session_id", sessionId),
    ("retired_sessions", .array []),
    ("highest", .int highest),
    ("bitmap", .string bitmap)]

theorem restored_window_reachable_iff_bitmap_five :
    (((fresh 64).restore (stateOf (.int 7) 10 "5")).1).WellFormed := by
  have stores : Stores (stateOf (.int 7) 10 "5") (some 7) ∅ 10 5 :=
    ⟨⟨64, .int 7, [], 10, 5⟩, by rfl, rfl, rfl, rfl, rfl⟩
  have restores :
      (fresh 64).restore (stateOf (.int 7) 10 "5") =
        (((fresh 64).restore (stateOf (.int 7) 10 "5")).1, .ok ()) := by
    rfl
  have consistent :=
    (restored_window_reachable_iff (le_refl 64) rfl stores restores).2.mpr
      (.inr ⟨⟨7, rfl, by decide⟩, by decide, by decide, by decide⟩)
  exact consistent.1

/--
Two states `restore` admits.  After the first, a window without a session
refuses the first frame of a session; after the second, the newest frame is
accepted again.
-/
theorem unreachable_state_restored :
    (fresh 64).restore (stateOf .null 100 "0") =
        ({ fresh 64 with highest := 100 }, .ok ()) ∧
      ¬ WellFormed { fresh 64 with highest := 100 } ∧
      (accept { fresh 64 with highest := 100 } 5 7).2 = false ∧
      (fresh 64).restore (stateOf (.int 7) 10 "0") =
        ({ fresh 64 with sessionId := some 7, highest := 10 }, .ok ()) ∧
      (accept { fresh 64 with sessionId := some 7, highest := 10 }
        10 7).2 = true := by
  refine ⟨by rfl, fun wellFormed => ?_, by decide, by rfl, by decide⟩
  have unopened : (100 : Int) = -1 := wellFormed.unopened.mp rfl
  omega

end ReplayWindow

end H3ntun
