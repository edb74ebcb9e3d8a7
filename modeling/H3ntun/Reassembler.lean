import H3ntun.Fragment
import H3ntun.Foundation.OrderedDict
import H3ntun.Foundation.TransitionSystem
import Mathlib.Data.List.MinMax

namespace H3ntun

/-!
# The reassembler

Collects the fragments of each message under its session and message
identifier, recovers one missing fragment from parity, forgets assemblies
that stay silent too long or are crowded out, and remembers completed
messages for a while.  An exception keeps what was changed before it.
-/

/-- What `add` returns. -/
structure ReassemblyResult where
  payload : Option Bytes
  duplicate : Bool := false
  recoveredByFec : Bool := false
  deriving Repr, DecidableEq

/-- Fragments of one message received so far. -/
structure Assembly where
  messageLen : Nat
  fragmentCount : Nat
  createdAt : Time
  updatedAt : Time
  fragments : OrderedDict Nat Bytes := .empty
  parity : Option Bytes := none

namespace Assembly

/--
Concatenation of the fragments `0, …, fragmentCount - 1`; a missing one is a
`KeyError`.
-/
def joined (assembly : Assembly) : Except Failure Bytes :=
  let indices := List.range assembly.fragmentCount
  if indices.all assembly.fragments.contains then
    .ok (indices.map fun index =>
      (assembly.fragments.get? index).getD []).flatten
  else
    .error .keyError

/-- The end of both branches of `_assemble`. -/
def finish
    (assembly : Assembly)
    (recovered : Bool)
    (mismatch : String) :
    Assembly × Except Failure (Option Bytes × Bool) :=
  match assembly.joined with
  | .error failure => (assembly, .error failure)
  | .ok payload =>
      if payload.length ≠ assembly.messageLen then
        (assembly, .error (.protocolError mismatch))
      else
        (assembly, .ok (some payload, recovered))

/-- The branch of `_assemble` that recovers a fragment from parity. -/
def recover
    (assembly : Assembly)
    (parity : Bytes) :
    Assembly × Except Failure (Option Bytes × Bool) :=
  match (List.range assembly.fragmentCount).find? fun index =>
      ¬ assembly.fragments.contains index with
  | none => (assembly, .error .stopIteration)
  | some missing =>
      let fragmentSize := parity.length
      if fragmentSize = 0 then
        (assembly, .error (.protocolError "empty parity fragment"))
      else if assembly.fragments.values.any fun piece =>
          piece.length > fragmentSize then
        (assembly, .error (.protocolError "fragment exceeds parity size"))
      else
        let recovered :=
          assembly.fragments.values.foldl xorCode.combine parity
        let expectedLength : Int :=
          if (missing : Int) < assembly.fragmentCount - 1 then
            fragmentSize
          else
            assembly.messageLen -
              fragmentSize * (assembly.fragmentCount - 1)
        if ¬ (0 ≤ expectedLength ∧ expectedLength ≤ fragmentSize) then
          (assembly, .error
            (.protocolError "invalid recovered fragment length"))
        else
          let completed := { assembly with
            fragments := assembly.fragments.set missing
              (recovered.take expectedLength.toNat) }
          completed.finish true "FEC-recovered message length mismatch"

/-- `_assemble`: the payload, if complete, and whether parity was used. -/
def assemble
    (assembly : Assembly) :
    Assembly × Except Failure (Option Bytes × Bool) :=
  if assembly.fragments.length = assembly.fragmentCount then
    assembly.finish false "reassembled message length mismatch"
  else
    match assembly.parity with
    | none => (assembly, .ok (none, false))
    | some parity =>
        if (assembly.fragments.length : Int) ≠
            assembly.fragmentCount - 1 then
          (assembly, .ok (none, false))
        else
          assembly.recover parity

/-- The part of `add` that works on the assembly of the frame. -/
def place
    (assembly : Assembly)
    (frame : Frame)
    (now : Time) :
    Assembly × Except Failure (Option Bytes × Bool) :=
  let assembly := { assembly with updatedAt := now }
  if frame.isParity then
    if assembly.parity.any (· ≠ frame.payload) then
      (assembly, .error (.protocolError "conflicting parity fragment"))
    else
      { assembly with parity := some frame.payload }.assemble
  else if (assembly.fragments.get? frame.fragmentIndex).any
      (· ≠ frame.payload) then
    (assembly, .error (.protocolError "conflicting data fragment"))
  else
    { assembly with
      fragments :=
        assembly.fragments.set frame.fragmentIndex frame.payload }.assemble

end Assembly

/-- Session and message identifier of a frame. -/
def Frame.key (frame : Frame) : Nat × Nat :=
  (frame.sessionId, frame.messageId)

/-- The reassembler; its limits are the ones the constructor accepts. -/
structure Reassembler where
  timeoutSeconds : Rat
  maxMessages : Nat
  completedTtlSeconds : Rat
  assemblies : OrderedDict (Nat × Nat) Assembly
  completed : OrderedDict (Nat × Nat) Time
  timeoutPositive : 0 < timeoutSeconds
  maxMessagesPositive : 1 ≤ maxMessages
  completedTtlPositive : 0 < completedTtlSeconds

namespace Reassembler

/-- Default of `timeout_seconds`. -/
def defaultTimeoutSeconds : Rat := 30

/-- Default of `completed_ttl_seconds`. -/
def defaultCompletedTtlSeconds : Rat := 120

/-- The constructor. -/
def init
    (timeoutSeconds : Rat)
    (maxMessages : Int)
    (completedTtlSeconds : Rat) :
    Except Failure Reassembler :=
  if invalid :
      timeoutSeconds ≤ 0 ∨ maxMessages < 1 ∨ completedTtlSeconds ≤ 0 then
    .error (.valueError "invalid reassembly limits")
  else
    .ok {
      timeoutSeconds := timeoutSeconds
      maxMessages := maxMessages.toNat
      completedTtlSeconds := completedTtlSeconds
      assemblies := .empty
      completed := .empty
      timeoutPositive := by
        simp only [not_or, not_le] at invalid
        exact invalid.1
      maxMessagesPositive := by
        simp only [not_or, not_lt] at invalid
        omega
      completedTtlPositive := by
        simp only [not_or, not_le] at invalid
        exact invalid.2.2
    }

/-- A fresh reassembler with the default limits. -/
def fresh : Reassembler where
  timeoutSeconds := defaultTimeoutSeconds
  maxMessages := 1024
  completedTtlSeconds := defaultCompletedTtlSeconds
  assemblies := .empty
  completed := .empty
  timeoutPositive := by decide +kernel
  maxMessagesPositive := by decide
  completedTtlPositive := by decide +kernel

theorem init_fresh :
    init defaultTimeoutSeconds 1024 defaultCompletedTtlSeconds =
      .ok fresh := by
  have valid :
      ¬ (defaultTimeoutSeconds ≤ 0 ∨ (1024 : Int) < 1 ∨
        defaultCompletedTtlSeconds ≤ 0) := by
    decide +kernel
  rw [init, dif_neg valid]
  rfl

/-- `_purge`, without the number of expired assemblies it returns. -/
def purge (reassembler : Reassembler) (now : Time) : Reassembler :=
  { reassembler with
    assemblies := reassembler.assemblies.filter fun entry =>
      ¬ now - entry.2.updatedAt > reassembler.timeoutSeconds
    completed := reassembler.completed.dropWhile fun entry =>
      ¬ now - entry.2 ≤ reassembler.completedTtlSeconds }

/-- Number of assemblies `_purge` removes. -/
def expiredCount (reassembler : Reassembler) (now : Time) : Nat :=
  reassembler.assemblies.entries.countP fun entry =>
    now - entry.2.updatedAt > reassembler.timeoutSeconds

/-- `Reassembler.cleanup`. -/
def cleanup (reassembler : Reassembler) (now : Time) :
    Reassembler × Nat :=
  (reassembler.purge now, reassembler.expiredCount now)

/-- `Reassembler.is_completed`. -/
def isCompleted
    (reassembler : Reassembler)
    (sessionId messageId : Nat)
    (now : Time) :
    Reassembler × Bool :=
  let purged := reassembler.purge now
  (purged, purged.completed.contains (sessionId, messageId))

/-- Key of the assembly with the smallest `updatedAt`, first on a tie. -/
def oldest? (reassembler : Reassembler) : Option (Nat × Nat) :=
  (reassembler.assemblies.entries.argmin fun entry =>
    entry.2.updatedAt).map Prod.fst

/-- Delete the oldest assembly if the table is full. -/
def makeRoom (reassembler : Reassembler) : Reassembler :=
  if reassembler.assemblies.length ≥ reassembler.maxMessages then
    match reassembler.oldest? with
    | some oldest =>
        { reassembler with
          assemblies := reassembler.assemblies.erase oldest }
    | none => reassembler
  else
    reassembler

/-- Find or create the assembly of a frame. -/
def openAssembly
    (reassembler : Reassembler)
    (frame : Frame)
    (now : Time) :
    Reassembler × Except Failure Assembly :=
  match reassembler.assemblies.get? frame.key with
  | none =>
      let roomy := reassembler.makeRoom
      let assembly := {
        messageLen := frame.messageLen
        fragmentCount := frame.fragmentCount
        createdAt := now
        updatedAt := now : Assembly
      }
      ({ roomy with assemblies := roomy.assemblies.set frame.key assembly },
        .ok assembly)
  | some assembly =>
      if assembly.messageLen ≠ frame.messageLen ∨
          assembly.fragmentCount ≠ frame.fragmentCount then
        (reassembler,
          .error (.protocolError "inconsistent fragment metadata"))
      else
        (reassembler, .ok assembly)

/-- Move a message from the assemblies to the completed ones. -/
def complete
    (reassembler : Reassembler)
    (key : Nat × Nat)
    (now : Time) :
    Reassembler :=
  { reassembler with
    assemblies := reassembler.assemblies.erase key
    completed :=
      ((reassembler.completed.set key now).moveToEnd key).keepLast
        (reassembler.maxMessages * 2) }

/-- The rest of `add`, once the assembly of the frame has been found. -/
def addTo
    (reassembler : Reassembler)
    (assembly : Assembly)
    (frame : Frame)
    (now : Time) :
    Reassembler × Except Failure ReassemblyResult :=
  let placed := assembly.place frame now
  let updated := { reassembler with
    assemblies := reassembler.assemblies.set frame.key placed.1 }
  match placed.2 with
  | .error failure => (updated, .error failure)
  | .ok (none, _) => (updated, .ok { payload := none })
  | .ok (some payload, recovered) =>
      (updated.complete frame.key now,
        .ok { payload := some payload, recoveredByFec := recovered })

/-- `add`, with the reading of the monotonic clock it makes. -/
def add
    (reassembler : Reassembler)
    (frame : Frame)
    (now : Time) :
    Reassembler × Except Failure ReassemblyResult :=
  let purged := reassembler.purge now
  if purged.completed.contains frame.key then
    ({ purged with completed := purged.completed.moveToEnd frame.key },
      .ok { payload := none, duplicate := true })
  else
    match purged.openAssembly frame now with
    | (opened, .error failure) => (opened, .error failure)
    | (opened, .ok assembly) => opened.addTo assembly frame now

/-- A frame of a message that is not completed reaches its assembly. -/
theorem add_of_not_contained
    {reassembler : Reassembler}
    {frame : Frame}
    {now : Time}
    (notContained :
      (reassembler.purge now).completed.contains frame.key = false) :
    reassembler.add frame now =
      match (reassembler.purge now).openAssembly frame now with
      | (opened, .error failure) => (opened, .error failure)
      | (opened, .ok assembly) => opened.addTo assembly frame now := by
  have notCompleted :
      ¬ (reassembler.purge now).completed.contains frame.key = true := by
    rw [notContained]
    exact Bool.false_ne_true
  rw [add]
  exact if_neg notCompleted

/-- The reassembler answering `add` calls at given times. -/
def machine :
    Machine Reassembler (Frame × Time)
      (Except Failure ReassemblyResult) where
  step reassembler call := reassembler.add call.1 call.2

end Reassembler

end H3ntun
