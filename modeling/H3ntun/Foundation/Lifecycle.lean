import Mathlib.Data.List.Induction
import Mathlib.Data.List.Nodup
import Mathlib.Data.List.Perm.Basic

/-!
# Lifecycle of jobs with a bounded number of attempts

Jobs are accepted, attempted in the order of acceptance, attempted again up to
a limit, and end acknowledged or exhausted.  A trace of such events is kept by
a component when it accounts for the jobs that wait and those that run.
-/

namespace Lifecycle

/-- What can happen to a job. -/
inductive Event (Id Content : Type) where
  | accepted (id : Id) (content : Content)
  | attempted (id : Id) (content : Content) (again : Bool)
  | acknowledged (id : Id)
  | exhausted (id : Id)
  deriving Repr, DecidableEq

/-- Where a job is. -/
inductive Stage where
  | waiting
  | running
  | acknowledged
  | exhausted
  deriving Repr, DecidableEq

namespace Stage

/-- A job may go from one stage to the other, or stay. -/
inductive Leads : Stage → Stage → Prop where
  | stay (stage : Stage) : Leads stage stage
  | begun (stage : Stage) : Leads .waiting stage
  | ackEnds : Leads .running .acknowledged
  | exhaustionEnds : Leads .running .exhausted

end Stage

section

variable {Id Content : Type}

/-- Identifiers of the jobs accepted, in order. -/
def accepted (trace : List (Event Id Content)) : List Id :=
  trace.filterMap fun
    | .accepted id _ => some id
    | _ => none

/-- Identifiers of the first attempts, in order. -/
def started (trace : List (Event Id Content)) : List Id :=
  trace.filterMap fun
    | .attempted id _ false => some id
    | _ => none

/-- Jobs that were acknowledged, in order. -/
def acknowledged (trace : List (Event Id Content)) : List Id :=
  trace.filterMap fun
    | .acknowledged id => some id
    | _ => none

/-- Jobs that were given up, in order. -/
def exhausted (trace : List (Event Id Content)) : List Id :=
  trace.filterMap fun
    | .exhausted id => some id
    | _ => none

/-- Attempts of one job: whether each was made again, in order. -/
def attempts [DecidableEq Id] (trace : List (Event Id Content)) (id : Id) :
    List Bool :=
  trace.filterMap fun
    | .attempted other _ again => if other = id then some again else none
    | _ => none

/-- Jobs that have ended. -/
def ended (trace : List (Event Id Content)) : List Id :=
  acknowledged trace ++ exhausted trace

@[simp] theorem accepted_append
    (earlier later : List (Event Id Content)) :
    accepted (earlier ++ later) = accepted earlier ++ accepted later :=
  List.filterMap_append

@[simp] theorem started_append
    (earlier later : List (Event Id Content)) :
    started (earlier ++ later) = started earlier ++ started later :=
  List.filterMap_append

@[simp] theorem acknowledged_append
    (earlier later : List (Event Id Content)) :
    acknowledged (earlier ++ later) =
      acknowledged earlier ++ acknowledged later :=
  List.filterMap_append

@[simp] theorem exhausted_append
    (earlier later : List (Event Id Content)) :
    exhausted (earlier ++ later) =
      exhausted earlier ++ exhausted later :=
  List.filterMap_append

@[simp] theorem attempts_append
    [DecidableEq Id]
    (earlier later : List (Event Id Content))
    (id : Id) :
    attempts (earlier ++ later) id =
      attempts earlier id ++ attempts later id :=
  List.filterMap_append

/-- An attempt counts for its own job only. -/
theorem attempts_attempted
    [DecidableEq Id]
    (trace : List (Event Id Content))
    (id other : Id)
    (content : Content)
    (again : Bool) :
    attempts (trace ++ [.attempted id content again]) other =
      if id = other then attempts trace id ++ [again]
      else attempts trace other := by
  rw [attempts_append]
  split
  · rename_i same
    rw [← same]
    simp [attempts]
  · simp [attempts, *]

end

/--
A trace with its attempts limited that accounts for the jobs that wait and
those that run.
-/
structure Keeps
    {Id Content : Type}
    [DecidableEq Id]
    (limit : Nat)
    (trace : List (Event Id Content))
    (waiting running : List Id) : Prop where
  /-- No job is accepted twice. -/
  distinct :
    (accepted trace).Nodup
  /-- Every accepted job waits, runs or has ended, and nothing else does. -/
  partition :
    (accepted trace).Perm
      (waiting ++ running ++ acknowledged trace ++ exhausted trace)
  /-- First attempts are made in the order of acceptance. -/
  order :
    accepted trace = started trace ++ waiting
  /-- Attempts are made with the content that was accepted. -/
  contents :
    ∀ id content again,
      .attempted id content again ∈ trace → .accepted id content ∈ trace
  /-- Only the first attempt of a job is not made again. -/
  marks :
    ∀ id,
      attempts trace id = [] ∨
        ∃ count, attempts trace id = false :: List.replicate count true
  bounded :
    ∀ id, (attempts trace id).length ≤ limit
  /-- A job is exhausted only after all its attempts. -/
  exhaustedAttempts :
    ∀ id ∈ exhausted trace, (attempts trace id).length = limit
  /-- No job is attempted after it ended. -/
  silent :
    ∀ earlier later,
      trace = earlier ++ later →
      ∀ id ∈ ended earlier, attempts later id = []

/-- The stage of a job in a trace with waiting and running jobs. -/
def InStage
    {Id Content : Type}
    (trace : List (Event Id Content))
    (waiting running : List Id)
    (id : Id) : Stage → Prop
  | .waiting => id ∈ waiting
  | .running => id ∈ running
  | .acknowledged => id ∈ acknowledged trace
  | .exhausted => id ∈ exhausted trace

namespace Keeps

variable
  {Id Content : Type}
  [DecidableEq Id]
  {limit : Nat}
  {trace : List (Event Id Content)}
  {waiting running : List Id}

/-- All stages together hold every job once. -/
theorem nodup_stages
    (keeps : Keeps limit trace waiting running) :
    (waiting ++ running ++ acknowledged trace ++
      exhausted trace).Nodup :=
  keeps.partition.nodup_iff.mp keeps.distinct

/-- Nothing has happened yet. -/
theorem nil
    (limit : Nat) :
    Keeps limit ([] : List (Event Id Content)) [] [] where
  distinct := List.nodup_nil
  partition := List.Perm.refl _
  order := rfl
  contents id content again member := by cases member
  marks id := .inl rfl
  bounded id := Nat.zero_le _
  exhaustedAttempts id member := by cases member
  silent earlier later shape id member := by
    obtain ⟨rfl, rfl⟩ := List.append_eq_nil_iff.mp shape.symm
    rfl

/-- A job is started when its first attempt is made. -/
theorem mem_started_iff
    {id : Id} :
    id ∈ started trace ↔ false ∈ attempts trace id := by
  simp only [started, attempts, List.mem_filterMap]
  constructor
  · rintro ⟨event, member, isStart⟩
    refine ⟨event, member, ?_⟩
    match event with
    | .attempted other content false =>
        simp only [Option.some.injEq] at isStart
        simp [isStart]
  · rintro ⟨event, member, isAttempt⟩
    refine ⟨event, member, ?_⟩
    match event with
    | .attempted other content again =>
        simp only [Option.ite_none_right_eq_some, Option.some.injEq]
          at isAttempt
        obtain ⟨rfl, rfl⟩ := isAttempt
        rfl

/-- A waiting job has not been attempted. -/
theorem attempts_of_waiting
    (keeps : Keeps limit trace waiting running)
    {id : Id}
    (waits : id ∈ waiting) :
    attempts trace id = [] := by
  have distinct := keeps.distinct
  rw [keeps.order] at distinct
  have notStarted : id ∉ started trace := fun isStarted =>
    (List.nodup_append.mp distinct).2.2 id isStarted id waits rfl
  rw [mem_started_iff] at notStarted
  rcases keeps.marks id with none | ⟨count, several⟩
  · exact none
  · rw [several] at notStarted
    exact absurd List.mem_cons_self notStarted

/-- A running job has been attempted. -/
theorem attempts_of_running
    (keeps : Keeps limit trace waiting running)
    {id : Id}
    (runs : id ∈ running) :
    ∃ count, attempts trace id = false :: List.replicate count true := by
  have isAccepted : id ∈ accepted trace := by
    rw [keeps.partition.mem_iff]
    simp [runs]
  have notWaiting : id ∉ waiting := by
    intro waits
    have stages := keeps.nodup_stages
    rw [List.append_assoc, List.append_assoc] at stages
    exact (List.nodup_append.mp stages).2.2 id waits id
      (by simp [runs]) rfl
  rw [keeps.order, List.mem_append] at isAccepted
  have isStarted := isAccepted.resolve_right notWaiting
  rcases keeps.marks id with none | several
  · rw [mem_started_iff, none] at isStarted
    cases isStarted
  · exact several

/-- A job that waits or runs has not ended. -/
theorem not_ended
    (keeps : Keeps limit trace waiting running)
    {id : Id}
    (live : id ∈ waiting ++ running) :
    id ∉ ended trace := by
  intro isEnded
  have stages := keeps.nodup_stages
  rw [List.append_assoc (waiting ++ running)] at stages
  exact (List.nodup_append.mp stages).2.2 id live id isEnded rfl

/-- An event after a trace attempts no job that has ended. -/
theorem silent_concat
    (keeps : Keeps limit trace waiting running)
    {event : Event Id Content}
    (quiet : ∀ id ∈ ended trace, attempts [event] id = [])
    {earlier later : List (Event Id Content)}
    (shape : trace ++ [event] = earlier ++ later)
    {id : Id}
    (isEnded : id ∈ ended earlier) :
    attempts later id = [] := by
  induction later using List.reverseRecOn with
  | nil =>
      rfl
  | append_singleton front last _ =>
      rw [← List.append_assoc] at shape
      obtain ⟨sameFront, sameLast⟩ := List.append_inj' shape rfl
      have endedBefore : id ∈ ended trace := by
        rw [sameFront]
        simp only [ended, acknowledged_append, exhausted_append,
          List.mem_append] at isEnded ⊢
        rcases isEnded with isAcknowledged | isExhausted
        · exact .inl (.inl isAcknowledged)
        · exact .inr (.inl isExhausted)
      rw [attempts_append, keeps.silent earlier front sameFront id isEnded,
        ← sameLast, quiet id endedBefore]
      rfl

/-- An event that attempts no job leaves the attempts as they are. -/
theorem attempts_concat
    {event : Event Id Content}
    (quiet : ∀ id, attempts [event] id = [])
    (id : Id) :
    attempts (trace ++ [event]) id = attempts trace id := by
  rw [attempts_append, quiet, List.append_nil]

/-- An event that attempts no job adds no content. -/
theorem contents_concat
    (keeps : Keeps limit trace waiting running)
    {event : Event Id Content}
    (quiet : ∀ id, attempts [event] id = [])
    {id : Id}
    {content : Content}
    {again : Bool}
    (member : .attempted id content again ∈ trace ++ [event]) :
    .accepted id content ∈ trace ++ [event] := by
  rcases List.mem_append.mp member with earlier | isNew
  · exact List.mem_append_left _
      (keeps.contents id content again earlier)
  · have noAttempt := quiet id
    rw [← List.mem_singleton.mp isNew] at noAttempt
    simp [attempts] at noAttempt

/-- An event that accepts no job keeps the accepted ones different. -/
theorem distinct_concat
    (keeps : Keeps limit trace waiting running)
    {event : Event Id Content}
    (noneAccepted : accepted [event] = []) :
    (accepted (trace ++ [event])).Nodup := by
  rw [accepted_append, noneAccepted, List.append_nil]
  exact keeps.distinct

/-- An event that neither accepts nor starts a job keeps their order. -/
theorem order_concat
    (keeps : Keeps limit trace waiting running)
    {event : Event Id Content}
    (noneAccepted : accepted [event] = [])
    (noneStarted : started [event] = []) :
    accepted (trace ++ [event]) =
      started (trace ++ [event]) ++ waiting := by
  rw [accepted_append, started_append, noneAccepted, noneStarted,
    List.append_nil, List.append_nil]
  exact keeps.order

/-- A new job is accepted. -/
theorem accept
    (keeps : Keeps limit trace waiting running)
    {id : Id}
    (new : id ∉ accepted trace)
    (content : Content) :
    Keeps limit (trace ++ [.accepted id content]) (waiting ++ [id])
      running where
  distinct := by
    rw [accepted_append]
    refine keeps.distinct.append (List.nodup_singleton id) ?_
    intro other member isNew
    rw [List.mem_singleton.mp isNew] at member
    exact new member
  partition := by
    rw [accepted_append, acknowledged_append, exhausted_append]
    change
      (accepted trace ++ [id]).Perm
        (waiting ++ [id] ++ running ++ (acknowledged trace ++ []) ++
          (exhausted trace ++ []))
    refine (keeps.partition.append_right [id]).trans ?_
    simp only [List.append_assoc, List.append_nil]
    refine List.Perm.append_left waiting ?_
    simpa only [List.append_assoc, List.singleton_append] using
      List.perm_append_singleton id
        (running ++ acknowledged trace ++ exhausted trace)
  order := by
    rw [accepted_append, started_append]
    change
      accepted trace ++ [id] = started trace ++ [] ++ (waiting ++ [id])
    rw [keeps.order, List.append_nil, List.append_assoc]
  contents other otherContent again member :=
    keeps.contents_concat (fun _ => rfl) member
  marks other := by
    rw [attempts_concat fun _ => rfl]
    exact keeps.marks other
  bounded other := by
    rw [attempts_concat fun _ => rfl]
    exact keeps.bounded other
  exhaustedAttempts other member := by
    rw [exhausted_append] at member
    rw [attempts_concat fun _ => rfl]
    exact keeps.exhaustedAttempts other
      ((List.append_nil (exhausted trace)) ▸ member)
  silent earlier later shape other isEnded :=
    keeps.silent_concat (fun _ _ => rfl) shape isEnded

/-- An attempt at a live job is content that was accepted. -/
theorem contents_attempted
    (keeps : Keeps limit trace waiting running)
    {id other : Id}
    {content otherContent : Content}
    {mark again : Bool}
    (isAccepted : .accepted id content ∈ trace)
    (member :
      .attempted other otherContent again ∈
        trace ++ [.attempted id content mark]) :
    .accepted other otherContent ∈
      trace ++ [.attempted id content mark] := by
  apply List.mem_append_left
  rcases List.mem_append.mp member with earlier | isNew
  · exact keeps.contents other otherContent again earlier
  · cases List.mem_singleton.mp isNew
    exact isAccepted

/-- An attempt below the limit keeps the limit. -/
theorem bounded_attempted
    (keeps : Keeps limit trace waiting running)
    {id : Id}
    (below : (attempts trace id).length < limit)
    (content : Content)
    (again : Bool)
    (other : Id) :
    (attempts (trace ++ [.attempted id content again])
      other).length ≤ limit := by
  rw [attempts_attempted]
  split
  · rw [List.length_append]
    exact below
  · exact keeps.bounded other

/-- An attempt at a live job is none at an exhausted one. -/
theorem exhaustedAttempts_attempted
    (keeps : Keeps limit trace waiting running)
    {id : Id}
    (live : id ∈ waiting ++ running)
    (content : Content)
    (again : Bool)
    {other : Id}
    (member :
      other ∈ exhausted (trace ++ [.attempted id content again])) :
    (attempts (trace ++ [.attempted id content again])
      other).length = limit := by
  have before : other ∈ exhausted trace := by
    rw [exhausted_append] at member
    exact (List.mem_append.mp member).resolve_right List.not_mem_nil
  have different : id ≠ other := by
    rintro rfl
    exact keeps.not_ended live (List.mem_append_right _ before)
  rw [attempts_attempted, if_neg different]
  exact keeps.exhaustedAttempts other before

/-- An attempt at a live job is none at one that has ended. -/
theorem silent_attempted
    (keeps : Keeps limit trace waiting running)
    {id : Id}
    (live : id ∈ waiting ++ running)
    {content : Content}
    {again : Bool}
    {earlier later : List (Event Id Content)}
    (shape :
      trace ++ [.attempted id content again] = earlier ++ later)
    {other : Id}
    (isEnded : other ∈ ended earlier) :
    attempts later other = [] := by
  refine keeps.silent_concat ?_ shape isEnded
  intro endedId member
  have different : id ≠ endedId := by
    rintro rfl
    exact keeps.not_ended live member
  exact (attempts_attempted [] id endedId content again).trans
    (if_neg different)

/-- The oldest waiting job is attempted for the first time. -/
theorem start
    {id : Id}
    {rest : List Id}
    (keeps : Keeps limit trace (id :: rest) running)
    {content : Content}
    (isAccepted : .accepted id content ∈ trace)
    (positive : 1 ≤ limit) :
    Keeps limit (trace ++ [.attempted id content false]) rest
      (running ++ [id]) where
  distinct := keeps.distinct_concat rfl
  partition := by
    rw [accepted_append, acknowledged_append, exhausted_append]
    change
      (accepted trace ++ []).Perm
        (rest ++ (running ++ [id]) ++ (acknowledged trace ++ []) ++
          (exhausted trace ++ []))
    simp only [List.append_nil]
    refine keeps.partition.trans ?_
    refine List.Perm.append_right _ (List.Perm.append_right _ ?_)
    rw [← List.append_assoc]
    exact (List.perm_append_singleton id (rest ++ running)).symm
  order := by
    rw [accepted_append, started_append]
    change
      accepted trace ++ [] = started trace ++ [id] ++ rest
    rw [keeps.order, List.append_nil, List.append_assoc]
    rfl
  contents other otherContent again member :=
    keeps.contents_attempted isAccepted member
  marks other := by
    rw [attempts_attempted]
    split
    · rw [keeps.attempts_of_waiting List.mem_cons_self]
      exact .inr ⟨0, rfl⟩
    · exact keeps.marks other
  bounded other := by
    refine keeps.bounded_attempted ?_ content false other
    rw [keeps.attempts_of_waiting List.mem_cons_self]
    exact positive
  exhaustedAttempts other member :=
    keeps.exhaustedAttempts_attempted
      (List.mem_append_left _ List.mem_cons_self) content false member
  silent earlier later shape other isEnded :=
    keeps.silent_attempted
      (List.mem_append_left _ List.mem_cons_self) shape isEnded

/-- A running job with attempts left is attempted again. -/
theorem retry
    (keeps : Keeps limit trace waiting running)
    {id : Id}
    (runs : id ∈ running)
    {content : Content}
    (isAccepted : .accepted id content ∈ trace)
    (below : (attempts trace id).length < limit) :
    Keeps limit (trace ++ [.attempted id content true]) waiting
      running where
  distinct := keeps.distinct_concat rfl
  partition := by
    rw [accepted_append, acknowledged_append, exhausted_append]
    change
      (accepted trace ++ []).Perm
        (waiting ++ running ++ (acknowledged trace ++ []) ++
          (exhausted trace ++ []))
    simp only [List.append_nil]
    exact keeps.partition
  order := keeps.order_concat rfl rfl
  contents other otherContent again member :=
    keeps.contents_attempted isAccepted member
  marks other := by
    rw [attempts_attempted]
    split
    · obtain ⟨count, several⟩ := keeps.attempts_of_running runs
      refine .inr ⟨count + 1, ?_⟩
      rw [several, List.cons_append, List.replicate_succ']
    · exact keeps.marks other
  bounded other :=
    keeps.bounded_attempted below content true other
  exhaustedAttempts other member :=
    keeps.exhaustedAttempts_attempted
      (List.mem_append_right _ runs) content true member
  silent earlier later shape other isEnded :=
    keeps.silent_attempted (List.mem_append_right _ runs) shape isEnded

/-- A running job is acknowledged. -/
theorem acknowledge
    {id : Id}
    {after : List Id}
    (keeps : Keeps limit trace waiting running)
    (removed : running.Perm (id :: after)) :
    Keeps limit (trace ++ [.acknowledged id]) waiting after where
  distinct := keeps.distinct_concat rfl
  partition := by
    rw [accepted_append, acknowledged_append, exhausted_append]
    change
      (accepted trace ++ []).Perm
        (waiting ++ after ++ (acknowledged trace ++ [id]) ++
          (exhausted trace ++ []))
    simp only [List.append_nil]
    refine keeps.partition.trans (List.Perm.append_right _ ?_)
    simp only [List.append_assoc]
    refine List.Perm.append_left waiting ?_
    refine (removed.append_right _).trans ?_
    rw [← List.append_assoc]
    exact
      (List.perm_append_singleton id (after ++ acknowledged trace)).symm
  order := keeps.order_concat rfl rfl
  contents other otherContent again member :=
    keeps.contents_concat (fun _ => rfl) member
  marks other := by
    rw [attempts_concat fun _ => rfl]
    exact keeps.marks other
  bounded other := by
    rw [attempts_concat fun _ => rfl]
    exact keeps.bounded other
  exhaustedAttempts other member := by
    rw [exhausted_append] at member
    rw [attempts_concat fun _ => rfl]
    exact keeps.exhaustedAttempts other
      ((List.mem_append.mp member).resolve_right List.not_mem_nil)
  silent earlier later shape other isEnded :=
    keeps.silent_concat (fun _ _ => rfl) shape isEnded

/-- A running job without attempts left is exhausted. -/
theorem exhaust
    {id : Id}
    {after : List Id}
    (keeps : Keeps limit trace waiting running)
    (removed : running.Perm (id :: after))
    (spent : (attempts trace id).length = limit) :
    Keeps limit (trace ++ [.exhausted id]) waiting after where
  distinct := keeps.distinct_concat rfl
  partition := by
    rw [accepted_append, acknowledged_append, exhausted_append]
    change
      (accepted trace ++ []).Perm
        (waiting ++ after ++ (acknowledged trace ++ []) ++
          (exhausted trace ++ [id]))
    simp only [List.append_nil]
    refine keeps.partition.trans ?_
    simp only [List.append_assoc]
    refine List.Perm.append_left waiting ?_
    refine (removed.append_right _).trans ?_
    simpa only [List.append_assoc, List.cons_append] using
      (List.perm_append_singleton id
        (after ++ (acknowledged trace ++ exhausted trace))).symm
  order := keeps.order_concat rfl rfl
  contents other otherContent again member :=
    keeps.contents_concat (fun _ => rfl) member
  marks other := by
    rw [attempts_concat fun _ => rfl]
    exact keeps.marks other
  bounded other := by
    rw [attempts_concat fun _ => rfl]
    exact keeps.bounded other
  exhaustedAttempts other member := by
    rw [exhausted_append] at member
    rw [attempts_concat fun _ => rfl]
    rcases List.mem_append.mp member with before | isNew
    · exact keeps.exhaustedAttempts other before
    · rw [List.mem_singleton.mp isNew]
      exact spent
  silent earlier later shape other isEnded :=
    keeps.silent_concat (fun _ _ => rfl) shape isEnded

/-- No job is in two stages. -/
theorem stage_unique
    (keeps : Keeps limit trace waiting running)
    {id : Id}
    {first second : Stage}
    (inFirst : InStage trace waiting running id first)
    (inSecond : InStage trace waiting running id second) :
    first = second := by
  obtain ⟨liveOrAcknowledged, _, fromExhausted⟩ :=
    List.nodup_append.mp keeps.nodup_stages
  obtain ⟨live, _, fromAcknowledged⟩ :=
    List.nodup_append.mp liveOrAcknowledged
  obtain ⟨_, _, fromRunning⟩ := List.nodup_append.mp live
  cases first <;> cases second <;>
    simp only [InStage] at inFirst inSecond <;>
    grind

/-- Every job accepted is in exactly one stage. -/
theorem existsUnique_stage
    (keeps : Keeps limit trace waiting running)
    {id : Id}
    (isAccepted : id ∈ accepted trace) :
    ∃! stage, InStage trace waiting running id stage := by
  have someStage : ∃ stage, InStage trace waiting running id stage := by
    rw [keeps.partition.mem_iff] at isAccepted
    simp only [List.mem_append] at isAccepted
    rcases isAccepted with ((waits | runs) | isAcknowledged) | isExhausted
    · exact ⟨.waiting, waits⟩
    · exact ⟨.running, runs⟩
    · exact ⟨.acknowledged, isAcknowledged⟩
    · exact ⟨.exhausted, isExhausted⟩
  obtain ⟨stage, inStage⟩ := someStage
  exact ⟨stage, inStage, fun other inOther =>
    keeps.stage_unique inOther inStage⟩

/-- A job that waits later has always waited. -/
theorem waiting_of_later
    (keeps : Keeps limit trace waiting running)
    {later : List (Event Id Content)}
    {waitingLater runningLater : List Id}
    (keepsLater :
      Keeps limit (trace ++ later) waitingLater runningLater)
    {id : Id}
    (isAccepted : id ∈ accepted trace)
    (waits : id ∈ waitingLater) :
    id ∈ waiting := by
  have distinct := keepsLater.distinct
  rw [keepsLater.order] at distinct
  have notStarted : id ∉ started trace := by
    intro isStarted
    refine (List.nodup_append.mp distinct).2.2 id ?_ id waits rfl
    rw [started_append]
    exact List.mem_append_left _ isStarted
  rw [keeps.order, List.mem_append] at isAccepted
  exact isAccepted.resolve_left notStarted

/-- Jobs only go forward as the trace grows. -/
theorem forward
    (keeps : Keeps limit trace waiting running)
    {later : List (Event Id Content)}
    {waitingLater runningLater : List Id}
    (keepsLater :
      Keeps limit (trace ++ later) waitingLater runningLater)
    {id : Id}
    (isAccepted : id ∈ accepted trace)
    {before after : Stage}
    (inBefore : InStage trace waiting running id before)
    (inAfter :
      InStage (trace ++ later) waitingLater runningLater id after) :
    before.Leads after := by
  cases before with
  | waiting =>
      exact .begun after
  | running =>
      cases after with
      | waiting =>
          have waited : InStage trace waiting running id .waiting :=
            keeps.waiting_of_later keepsLater isAccepted inAfter
          cases keeps.stage_unique inBefore waited
      | running =>
          exact .stay .running
      | acknowledged =>
          exact .ackEnds
      | exhausted =>
          exact .exhaustionEnds
  | acknowledged =>
      have stays :
          InStage (trace ++ later) waitingLater runningLater id
            .acknowledged := by
        simp only [InStage, acknowledged_append, List.mem_append]
        exact .inl inBefore
      rw [keepsLater.stage_unique inAfter stays]
      exact .stay .acknowledged
  | exhausted =>
      have stays :
          InStage (trace ++ later) waitingLater runningLater id
            .exhausted := by
        simp only [InStage, exhausted_append, List.mem_append]
        exact .inl inBefore
      rw [keepsLater.stage_unique inAfter stays]
      exact .stay .exhausted

/-- The jobs accepted are those that wait, run or have ended. -/
theorem length_accepted
    (keeps : Keeps limit trace waiting running) :
    (accepted trace).length =
      waiting.length + running.length +
        (acknowledged trace).length + (exhausted trace).length := by
  have lengths := keeps.partition.length_eq
  simpa only [List.length_append] using lengths

/-- A job is acknowledged at most once. -/
theorem nodup_acknowledged
    (keeps : Keeps limit trace waiting running) :
    (acknowledged trace).Nodup :=
  (List.nodup_append.mp
    (List.nodup_append.mp keeps.nodup_stages).1).2.1

end Keeps

section Timed

variable {Id Content Clock : Type}

/-- The job an event is about. -/
def Event.subject : Event Id Content → Id
  | .accepted id _ => id
  | .attempted id _ _ => id
  | .acknowledged id => id
  | .exhausted id => id

/-- Times of the attempts of a job since it was accepted, after an event. -/
def noteAttempt
    [DecidableEq Id]
    (id : Id)
    (times : List Clock)
    (event : Clock × Event Id Content) : List Clock :=
  match event.2 with
  | .accepted other _ => if other = id then [] else times
  | .attempted other _ _ => if other = id then times ++ [event.1] else times
  | _ => times

/-- Times of the attempts of a job since it was last accepted. -/
def attemptTimes
    [DecidableEq Id]
    (id : Id)
    (trace : List (Clock × Event Id Content)) : List Clock :=
  trace.foldl (noteAttempt id) []

/-- A property of every event of a trace and of what was before it. -/
def EveryEvent
    (holds :
      List (Clock × Event Id Content) → Clock × Event Id Content → Prop)
    (trace : List (Clock × Event Id Content)) : Prop :=
  ∀ before event later,
    trace = before ++ event :: later → holds before event

/-- Events about other jobs do not count. -/
theorem attemptTimes_append_other
    [DecidableEq Id]
    (earlier : List (Clock × Event Id Content))
    {later : List (Clock × Event Id Content)}
    {id : Id}
    (others : ∀ event ∈ later, event.2.subject ≠ id) :
    attemptTimes id (earlier ++ later) = attemptTimes id earlier := by
  rw [attemptTimes, List.foldl_append, ← attemptTimes]
  generalize attemptTimes id earlier = times
  induction later with
  | nil =>
      rfl
  | cons event rest inductionHypothesis =>
      have other := others event List.mem_cons_self
      have same : noteAttempt id times event = times := by
        obtain ⟨time, event⟩ := event
        cases event <;> simp_all [noteAttempt, Event.subject]
      rw [List.foldl_cons, same]
      exact inductionHypothesis fun event member =>
        others event (List.mem_cons_of_mem _ member)

/-- Of events about different jobs one counts for each job. -/
theorem attemptTimes_append_once
    [DecidableEq Id]
    (earlier : List (Clock × Event Id Content))
    {later : List (Clock × Event Id Content)}
    (distinct : (later.map fun event => event.2.subject).Nodup)
    {event : Clock × Event Id Content}
    (member : event ∈ later) :
    attemptTimes event.2.subject (earlier ++ later) =
      noteAttempt event.2.subject
        (attemptTimes event.2.subject earlier) event := by
  obtain ⟨before, after, rfl⟩ := List.append_of_mem member
  rw [List.map_append, List.map_cons, List.nodup_middle, List.nodup_cons,
    ← List.map_append] at distinct
  have others :
      ∀ other ∈ before ++ after, other.2.subject ≠ event.2.subject := by
    intro other inRest same
    exact distinct.1 (List.mem_map.mpr ⟨other, inRest, same⟩)
  rw [← List.singleton_append, ← List.append_assoc, ← List.append_assoc,
    attemptTimes_append_other _ fun other inRest =>
      others other (List.mem_append_right _ inRest),
    attemptTimes, List.foldl_append, ← attemptTimes,
    attemptTimes_append_other _ fun other inRest =>
      others other (List.mem_append_left _ inRest)]
  rfl

/-- A property of the earlier events and of each later one. -/
theorem EveryEvent.append
    {holds :
      List (Clock × Event Id Content) → Clock × Event Id Content → Prop}
    {earlier later : List (Clock × Event Id Content)}
    (every : EveryEvent holds earlier)
    (each :
      ∀ before event rest,
        later = before ++ event :: rest → holds (earlier ++ before) event) :
    EveryEvent holds (earlier ++ later) := by
  intro before event rest shape
  rcases List.append_eq_append_iff.mp shape with
    ⟨middle, rfl, laterShape⟩ | ⟨middle, earlierShape, restShape⟩
  · exact each middle event rest laterShape
  · cases middle with
    | nil =>
        rw [List.append_nil] at earlierShape
        have first := each [] event rest restShape.symm
        rw [List.append_nil, earlierShape] at first
        exact first
    | cons first middle =>
        cases restShape
        exact every before event middle earlierShape

end Timed

end Lifecycle
