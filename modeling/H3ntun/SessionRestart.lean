import H3ntun.ReplayReference

namespace H3ntun

/-!
# Restarts of the peer process

The peer process is restarted any number of times, each time with a new
session identifier, and the network delivers the authentic frames of all its
processes in any order.  The receiver passes every decoded frame to its
replay window.
-/

/-- Receiver's window together with the peer's processes, newest first. -/
structure RestartState where
  started : List Int
  window : ReplayWindow
  accepted : List (Int × Int)
  deriving DecidableEq

/-- The peer starts a new process, or a frame of some process arrives. -/
inductive RestartEvent where
  | restart (sessionId : Int)
  | deliver (sequence : Nat) (sessionId : Int)
  deriving DecidableEq

namespace RestartState

/-- No process has been started and the window is fresh. -/
def initial (size : Nat) : RestartState where
  started := []
  window := ReplayWindow.fresh size
  accepted := []

/-- Session of the peer's running process. -/
def newest (state : RestartState) : Option Int :=
  state.started.head?

/-- Some frame of the session was accepted. -/
def HasAccepted (state : RestartState) (sessionId : Int) : Prop :=
  sessionId ∈ state.accepted.map Prod.fst

/-- Frames reach the window through `record_received_frame`. -/
def machine : Machine RestartState RestartEvent Bool where
  step state
    | .restart sessionId =>
        ({ state with started := sessionId :: state.started }, true)
    | .deliver sequence sessionId =>
        match state.window.accept sequence sessionId with
        | (window, true) =>
            ({ state with
                window := window
                accepted := (sessionId, (sequence : Int)) :: state.accepted },
              true)
        | (window, false) => ({ state with window := window }, false)

/-- Session identifiers are new, and frames come from started processes. -/
def Authentic (state : RestartState) : RestartEvent → Prop
  | .restart sessionId => sessionId ∉ state.started
  | .deliver _ sessionId => sessionId ∈ state.started

/--
Once a frame of the newest session was accepted, a frame of an earlier
session is refused and does not retire the newest session, and an unseen
frame of the newest session inside the window is accepted.
-/
def Survives (state : RestartState) : RestartEvent → Prop
  | .restart _ => True
  | .deliver sequence sessionId =>
      ∀ live ∈ state.newest,
        state.HasAccepted live →
        (sessionId ≠ live →
          (state.window.accept sequence sessionId).2 = false ∧
            live ∉
              (state.window.accept sequence sessionId).1.retiredSessions) ∧
          (sessionId = live →
            (live, (sequence : Int)) ∉ state.accepted →
            (∀ pair ∈ state.accepted,
              pair.1 = live →
              (sequence : Int) > pair.2 - state.window.size) →
            (state.window.accept sequence sessionId).2 = true)

/--
Once a frame of the newest session was accepted, frames of an earlier session
arrive only if one of that session was accepted before.
-/
def KnownSession (state : RestartState) : RestartEvent → Prop
  | .restart _ => True
  | .deliver _ sessionId =>
      ∀ live ∈ state.newest,
        state.HasAccepted live →
        sessionId ≠ live →
        state.HasAccepted sessionId

instance (state : RestartState) (sessionId : Int) :
    Decidable (state.HasAccepted sessionId) :=
  inferInstanceAs (Decidable (_ ∈ _))

instance (state : RestartState) (event : RestartEvent) :
    Decidable (state.Authentic event) := by
  cases event <;> unfold Authentic <;> infer_instance

instance (state : RestartState) :
    ∀ event, Decidable (state.Survives event)
  | .restart _ => isTrue trivial
  | .deliver sequence sessionId =>
      inferInstanceAs (Decidable (∀ live ∈ state.newest,
        state.HasAccepted live →
        (sessionId ≠ live →
          (state.window.accept sequence sessionId).2 = false ∧
            live ∉
              (state.window.accept sequence sessionId).1.retiredSessions) ∧
          (sessionId = live →
            (live, (sequence : Int)) ∉ state.accepted →
            (∀ pair ∈ state.accepted,
              pair.1 = live →
              (sequence : Int) > pair.2 - state.window.size) →
            (state.window.accept sequence sessionId).2 = true)))

instance (state : RestartState) (event : RestartEvent) :
    Decidable (state.KnownSession event) := by
  cases event <;> unfold KnownSession <;> infer_instance

/--
The window refines the history, every session left has an accepted frame,
and the newest session is current once one of its frames was accepted.
-/
structure Invariant (size : Nat) (state : RestartState) : Prop where
  refines :
    ∃ reference : ReplayReference,
      state.window.Refines size reference ∧
        reference.accepted = state.accepted
  retiredAccepted :
    ∀ sessionId ∈ state.window.retiredSessions,
      state.HasAccepted sessionId
  currentAccepted :
    ∀ sessionId,
      state.window.sessionId = some sessionId →
      state.HasAccepted sessionId
  acceptedStarted :
    ∀ sessionId,
      state.HasAccepted sessionId → sessionId ∈ state.started
  newestCurrent :
    ∀ live ∈ state.newest,
      state.HasAccepted live →
      state.window.sessionId = some live

variable
  {size : Nat}
  {state : RestartState}
  {sequence : Nat}
  {sessionId : Int}

theorem initial_invariant
    (size : Nat) :
    (initial size).Invariant size where
  refines :=
    ⟨ReplayReference.fresh, ReplayWindow.Refines.fresh size, rfl⟩
  retiredAccepted _ member := by simp [initial, ReplayWindow.fresh] at member
  currentAccepted _ isCurrent := by cases isCurrent
  acceptedStarted _ accepted := by cases accepted
  newestCurrent _ isNewest := by cases isNewest

namespace Invariant

/-- A session is known to the window exactly if it has an accepted frame. -/
theorem known_iff
    (invariant : state.Invariant size) :
    state.HasAccepted sessionId ↔
      state.window.sessionId = some sessionId ∨
        sessionId ∈ state.window.retiredSessions := by
  constructor
  · intro accepted
    obtain ⟨pair, member, sameSession⟩ := List.mem_map.mp accepted
    obtain ⟨reference, refines, sameAccepted⟩ := invariant.refines
    rw [← sameAccepted] at member
    rw [refines.sameCurrent, refines.sameLeft, ← sameSession]
    exact refines.acceptedKnown pair member
  · rintro (isCurrent | wasLeft)
    · exact invariant.currentAccepted sessionId isCurrent
    · exact invariant.retiredAccepted sessionId wasLeft

/-- A frame of a session that was left is refused without effect. -/
theorem accept_retired
    (invariant : state.Invariant size)
    (wasLeft : sessionId ∈ state.window.retiredSessions)
    (positive : 0 < size) :
    state.window.accept sequence sessionId = (state.window, false) := by
  obtain ⟨reference, refines, _⟩ := invariant.refines
  rcases refines.accept positive sequence sessionId with
      ⟨admitted, _⟩ | ⟨_, unchanged⟩
  · rw [refines.sameLeft] at wasLeft
    exact absurd wasLeft admitted.2.1
  · exact unchanged

/-- A frame of an unknown session is accepted. -/
theorem accept_unknown
    (invariant : state.Invariant size)
    (unknown : ¬ state.HasAccepted sessionId)
    (positive : 0 < size) :
    (state.window.accept sequence sessionId).2 = true := by
  rw [invariant.known_iff, not_or] at unknown
  obtain ⟨reference, refines, _⟩ := invariant.refines
  rw [refines.sameCurrent, refines.sameLeft] at unknown
  have admitted :=
    refines.admits_unknown unknown.1 unknown.2
      (Int.natCast_nonneg sequence)
  rcases refines.accept positive sequence sessionId with
      ⟨_, accepts, _⟩ | ⟨refused, _⟩
  · exact accepts
  · exact absurd admitted refused

/-- The current session is not retired. -/
theorem current_not_retired
    (invariant : state.Invariant size)
    (isCurrent : state.window.sessionId = some sessionId) :
    sessionId ∉ state.window.retiredSessions := by
  obtain ⟨reference, refines, _⟩ := invariant.refines
  rw [refines.sameCurrent] at isCurrent
  rw [refines.sameLeft]
  exact refines.currentNotLeft sessionId isCurrent

/-- An unseen frame of the current session inside the window is accepted. -/
theorem accept_current
    (invariant : state.Invariant size)
    (positive : 0 < size)
    (isCurrent : state.window.sessionId = some sessionId)
    (unseen : (sessionId, (sequence : Int)) ∉ state.accepted)
    (inside :
      ∀ pair ∈ state.accepted,
        pair.1 = sessionId →
        (sequence : Int) > pair.2 - state.window.size) :
    (state.window.accept sequence sessionId).2 = true := by
  obtain ⟨reference, refines, sameAccepted⟩ := invariant.refines
  rw [refines.sameCurrent] at isCurrent
  obtain ⟨_, highestSeen, _⟩ := refines.opened sessionId isCurrent
  have admitted :=
    (refines.admits_current_iff isCurrent
      (Int.natCast_nonneg sequence)).mpr
      ⟨by rwa [ReplayReference.mem_seen, sameAccepted], by
        have bound := inside (sessionId, state.window.highest)
          (by rwa [← sameAccepted]) rfl
        rwa [refines.sameSize] at bound⟩
  rcases refines.accept positive sequence sessionId with
      ⟨_, accepts, _⟩ | ⟨refused, _⟩
  · exact accepts
  · exact absurd admitted refused

/-- On one delivery the guarantee says that the session was known. -/
theorem survives_iff_known
    (invariant : state.Invariant size)
    (positive : 0 < size)
    (event : RestartEvent) :
    state.Survives event ↔ state.KnownSession event := by
  cases event with
  | restart sessionId =>
      exact Iff.rfl
  | deliver sequence sessionId =>
      constructor
      · intro survives live isNewest accepted different
        by_contra unknown
        have refused := ((survives live isNewest accepted).1 different).1
        rw [invariant.accept_unknown unknown positive] at refused
        cases refused
      · intro known live isNewest accepted
        have isCurrent := invariant.newestCurrent live isNewest accepted
        constructor
        · intro different
          have wasLeft : sessionId ∈ state.window.retiredSessions := by
            rcases invariant.known_iff.mp
                (known live isNewest accepted different) with
                alsoCurrent | wasLeft
            · rw [isCurrent] at alsoCurrent
              exact absurd (Option.some.inj alsoCurrent).symm different
            · exact wasLeft
          rw [invariant.accept_retired wasLeft positive]
          exact ⟨rfl, invariant.current_not_retired isCurrent⟩
        · rintro rfl unseen inside
          exact invariant.accept_current positive isCurrent unseen inside

/-- A restart leaves the window alone; the new session has no frame yet. -/
theorem restart
    (invariant : state.Invariant size)
    (isNew : sessionId ∉ state.started) :
    Invariant size
      { state with started := sessionId :: state.started } where
  refines := invariant.refines
  retiredAccepted := invariant.retiredAccepted
  currentAccepted := invariant.currentAccepted
  acceptedStarted other accepted :=
    List.mem_cons_of_mem _ (invariant.acceptedStarted other accepted)
  newestCurrent live isNewest accepted := by
    obtain rfl : sessionId = live := Option.some.inj isNewest
    exact absurd (invariant.acceptedStarted sessionId accepted) isNew

/-- Sessions after an accepted pair. -/
theorem hasAccepted_cons
    {other : Int} :
    HasAccepted
        { state with
          accepted := (sessionId, (sequence : Int)) :: state.accepted }
        other ↔
      other = sessionId ∨ state.HasAccepted other := by
  simp [HasAccepted]

/-- Sessions left by recording a pair were left before or were current. -/
theorem mem_leave
    {reference : ReplayReference}
    {other : Int}
    (member : other ∈ reference.leave sessionId) :
    reference.current = some other ∨ other ∈ reference.left := by
  unfold ReplayReference.leave at member
  split at member
  · exact Or.inr member
  · rename_i current isCurrent
    split at member
    · exact Or.inr member
    · rcases Finset.mem_insert.mp member with same | wasLeft
      · subst other
        exact Or.inl isCurrent
      · exact Or.inr wasLeft

/-- Delivering a frame of a known session preserves the invariant. -/
theorem deliver
    (invariant : state.Invariant size)
    (positive : 0 < size)
    (authentic : state.Authentic (.deliver sequence sessionId))
    (known : state.KnownSession (.deliver sequence sessionId)) :
    Invariant size
      (machine.step state (.deliver sequence sessionId)).1 := by
  obtain ⟨reference, refines, sameAccepted⟩ := invariant.refines
  rcases refines.accept positive sequence sessionId with
      ⟨_, accepts, next⟩ | ⟨_, unchanged⟩
  · have stepShape :
        (machine.step state (.deliver sequence sessionId)).1 =
          { state with
            window := (state.window.accept sequence sessionId).1
            accepted :=
              (sessionId, (sequence : Int)) :: state.accepted } := by
      simp only [machine]
      split <;> rename_i window answer
      · rw [answer]
      · rw [answer] at accepts
        cases accepts
    rw [stepShape]
    have knownBefore :
        ∀ other,
          reference.current = some other ∨ other ∈ reference.left →
          state.HasAccepted other := by
      intro other
      rw [← refines.sameCurrent, ← refines.sameLeft]
      exact invariant.known_iff.mpr
    refine {
      refines :=
        ⟨reference.record sequence sessionId, next, by
          simp [ReplayReference.record, sameAccepted]⟩
      retiredAccepted := ?_
      currentAccepted := ?_
      acceptedStarted := ?_
      newestCurrent := ?_
    }
    · intro other member
      rw [next.sameLeft] at member
      exact hasAccepted_cons.mpr
        (Or.inr (knownBefore other (mem_leave member)))
    · intro other isCurrent
      rw [next.sameCurrent] at isCurrent
      exact hasAccepted_cons.mpr
        (Or.inl (Option.some.inj isCurrent).symm)
    · intro other accepted
      rcases hasAccepted_cons.mp accepted with same | before
      · subst other
        exact authentic
      · exact invariant.acceptedStarted other before
    · intro live isNewest accepted
      rw [next.sameCurrent]
      by_cases same : sessionId = live
      · exact congrArg some same
      · have liveBefore : state.HasAccepted live :=
          (hasAccepted_cons.mp accepted).resolve_left (Ne.symm same)
        have refused :=
          (((invariant.survives_iff_known positive _).mpr known
            live isNewest liveBefore).1 same).1
        rw [accepts] at refused
        cases refused
  · have stepShape :
        (machine.step state (.deliver sequence sessionId)).1 = state := by
      simp [machine, unchanged]
    rw [stepShape]
    exact invariant

end Invariant

/--
For every run of authentic frames over any number of restarts, the newest
session stays live at every delivery exactly if, once it has an accepted
frame, frames of earlier sessions come only from sessions accepted before.
-/
theorem live_session_survives_iff_known_sessions
    (size : Nat)
    (allowed : 64 ≤ size)
    (events : List RestartEvent)
    (authentic :
      machine.EveryStep Authentic (initial size) events) :
    machine.EveryStep Survives (initial size) events ↔
      machine.EveryStep KnownSession (initial size) events := by
  have positive : 0 < size := by omega
  apply Machine.everyStep_iff (Invariant size)
    (fun state event invariant _ =>
      invariant.survives_iff_known positive event)
    ?_ (initial_invariant size) authentic
  intro state event invariant isAuthentic isKnown
  cases event with
  | restart sessionId =>
      exact invariant.restart isAuthentic
  | deliver sequence sessionId =>
      exact invariant.deliver positive isAuthentic isKnown

/-- Restarts whose frames arrive in order meet the condition. -/
theorem live_session_survives_iff_known_sessions_in_order :
    machine.EveryStep Survives (initial 64)
      [.restart 1, .deliver 5 1, .restart 2, .deliver 3 2,
        .deliver 6 1, .deliver 4 2] :=
  (live_session_survives_iff_known_sessions 64 (by decide) _
    (by decide)).mpr (by decide)

/--
A delayed frame of a session the receiver never saw takes the window over:
it is accepted after the newest session was, and retires that session.
-/
theorem delayed_unseen_session_retires_live_session :
    ¬ ∀ (size : Nat) (events : List RestartEvent),
      64 ≤ size →
      machine.EveryStep Authentic (initial size) events →
      machine.EveryStep Survives (initial size) events := by
  intro alwaysSurvives
  have survives :=
    alwaysSurvives 4096 [.restart 1, .restart 2, .deliver 0 2, .deliver 0 1]
      (by decide) (by decide)
  exact absurd survives (by decide)

/-- After the takeover every frame of the newest session is refused. -/
example :
    machine.answers (initial 4096)
      [.restart 1, .restart 2, .deliver 0 2, .deliver 0 1, .deliver 1 2] =
        [true, true, true, true, false] := by
  decide

end RestartState

end H3ntun
