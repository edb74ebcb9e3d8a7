import H3ntun.Basic
import H3ntun.Foundation.OrderedDict
import Mathlib.Data.Rat.Floor

namespace H3ntun

/-!
# The reliable sender

A bounded queue of messages, those in flight, and a congestion window, read
as an exact rational.  Every call reads the monotonic clock once.
-/

/-- One queued or transmitted message. -/
structure Transmission where
  messageId : Nat
  packets : List Bytes
  queuedAt : Time
  firstSentAt : Option Time := none
  lastSentAt : Option Time := none
  attempts : Nat := 0
  deriving DecidableEq

/-- A packet to be sent, first or again. -/
structure OutboundPacket where
  payload : Bytes
  retransmission : Bool
  deriving Repr, DecidableEq

/-- What `pump` returns. -/
structure PumpResult where
  packets : List OutboundPacket
  exhaustedMessages : Nat
  deriving Repr, DecidableEq

/-- The sender; its limits are the ones the constructor accepts. -/
structure ReliableSender where
  retransmitTimeoutSeconds : Rat
  maxAttempts : Nat
  maxPendingMessages : Nat
  maxWindow : Rat
  cwnd : Rat
  queue : List Transmission
  pending : OrderedDict Nat Transmission
  timeoutPositive : 0 < retransmitTimeoutSeconds
  maxAttemptsPositive : 1 ≤ maxAttempts
  maxPendingPositive : 1 ≤ maxPendingMessages
  maxWindowAtLeastOne : 1 ≤ maxWindow

namespace ReliableSender

/-- The constructor. -/
def init
    (retransmitTimeoutSeconds : Rat)
    (maxRetries maxPendingMessages initialWindow maxWindow : Int) :
    Except Failure ReliableSender :=
  if timeout : retransmitTimeoutSeconds ≤ 0 then
    .error (.valueError "retransmit timeout must be positive")
  else if limits : maxRetries < 0 ∨ maxPendingMessages < 1 then
    .error (.valueError "invalid reliability limits")
  else if window : ¬ (1 ≤ initialWindow ∧ initialWindow ≤ maxWindow) then
    .error (.valueError "invalid congestion window")
  else
    .ok {
      retransmitTimeoutSeconds := retransmitTimeoutSeconds
      maxAttempts := (maxRetries + 1).toNat
      maxPendingMessages := maxPendingMessages.toNat
      maxWindow := maxWindow
      cwnd := initialWindow
      queue := []
      pending := .empty
      timeoutPositive := not_le.mp timeout
      maxAttemptsPositive := by omega
      maxPendingPositive := by omega
      maxWindowAtLeastOne := by
        have bound : (1 : Int) ≤ maxWindow := by omega
        exact_mod_cast bound
    }

/-- A fresh sender with the default limits. -/
def fresh : ReliableSender where
  retransmitTimeoutSeconds := 1 / 2
  maxAttempts := 9
  maxPendingMessages := 2048
  maxWindow := 512
  cwnd := 64
  queue := []
  pending := .empty
  timeoutPositive := by decide +kernel
  maxAttemptsPositive := by decide
  maxPendingPositive := by decide
  maxWindowAtLeastOne := by decide +kernel

/-- The limits the constructor accepts, and the sender it makes. -/
theorem init_eq_ok_iff
    {retransmitTimeoutSeconds : Rat}
    {maxRetries maxPendingMessages initialWindow maxWindow : Int}
    {sender : ReliableSender} :
    init retransmitTimeoutSeconds maxRetries maxPendingMessages
        initialWindow maxWindow = .ok sender ↔
      (0 < retransmitTimeoutSeconds ∧
        (0 ≤ maxRetries ∧ 1 ≤ maxPendingMessages) ∧
        (1 ≤ initialWindow ∧ initialWindow ≤ maxWindow)) ∧
        sender.retransmitTimeoutSeconds = retransmitTimeoutSeconds ∧
        sender.maxAttempts = (maxRetries + 1).toNat ∧
        sender.maxPendingMessages = maxPendingMessages.toNat ∧
        sender.maxWindow = maxWindow ∧
        sender.cwnd = initialWindow ∧
        sender.queue = [] ∧
        sender.pending = .empty := by
  constructor
  · intro created
    unfold init at created
    split at created
    · cases created
    · rename_i timeout
      split at created
      · cases created
      · rename_i limits
        split at created
        · cases created
        · rename_i window
          cases created
          exact ⟨⟨not_le.mp timeout, by omega, not_not.mp window⟩, rfl,
            rfl, rfl, rfl, rfl, rfl, rfl⟩
  · rintro ⟨⟨timeout, limits, window⟩, sameTimeout, attempts, pending,
      largest, cwnd, noQueue, noPending⟩
    have withinLimits :
        ¬ (maxRetries < 0 ∨ maxPendingMessages < 1) := by
      omega
    rw [init, dif_neg (not_le.mpr timeout), dif_neg withinLimits,
      dif_neg (not_not.mpr window)]
    cases sender
    cases sameTimeout
    cases attempts
    cases pending
    cases largest
    cases cwnd
    cases noQueue
    cases noPending
    rfl

theorem init_fresh :
    init (1 / 2) 8 2048 64 512 = .ok fresh :=
  init_eq_ok_iff.mpr
    ⟨⟨by decide +kernel, by decide, by decide⟩, rfl, rfl, rfl, rfl, rfl,
      rfl, rfl⟩

/-- `ReliableSender.enqueue`. -/
def enqueue
    (sender : ReliableSender)
    (messageId : Nat)
    (packets : List Bytes)
    (now : Time) :
    ReliableSender × Except Failure Bool :=
  if packets = [] then
    (sender, .error (.valueError "at least one packet is required"))
  else if sender.queue.length + sender.pending.length ≥
      sender.maxPendingMessages then
    (sender, .ok false)
  else if sender.pending.contains messageId ∨
      sender.queue.any (·.messageId = messageId) then
    (sender, .error (.valueError "duplicate outbound message id"))
  else
    ({ sender with
        queue := sender.queue ++
          [{ messageId := messageId, packets := packets,
             queuedAt := now }] },
      .ok true)

/-- Whether the message was in flight, and its latency if it had been sent. -/
def acknowledge
    (sender : ReliableSender)
    (messageId : Nat)
    (now : Time) :
    ReliableSender × Bool × Option Time :=
  match sender.pending.get? messageId with
  | none => (sender, false, none)
  | some transmission =>
      ({ sender with
          pending := sender.pending.erase messageId
          cwnd := min sender.maxWindow
            (sender.cwnd + 1 / max 1 sender.cwnd) },
        true,
        transmission.firstSentAt.map fun sentAt => now - sentAt)

/-- Time an unanswered message waits before its next attempt. -/
def timeout (sender : ReliableSender) (transmission : Transmission) :
    Rat :=
  sender.retransmitTimeoutSeconds *
    (min (2 ^ (transmission.attempts - 1)) 16 : Nat)

/-- One turn of the first loop of `pump`, on one message in flight. -/
def resend
    (now : Time)
    (progress : ReliableSender × PumpResult)
    (transmission : Transmission) :
    ReliableSender × PumpResult :=
  let (sender, result) := progress
  match transmission.lastSentAt with
  | none => progress
  | some lastSentAt =>
      if now - lastSentAt < sender.timeout transmission then
        progress
      else if transmission.attempts ≥ sender.maxAttempts then
        ({ sender with
            pending := sender.pending.erase transmission.messageId
            cwnd := max 1 (sender.cwnd / 2) },
          { result with
            exhaustedMessages := result.exhaustedMessages + 1 })
      else
        ({ sender with
            pending := sender.pending.set transmission.messageId
              { transmission with
                attempts := transmission.attempts + 1
                lastSentAt := some now }
            cwnd := max 1 (sender.cwnd / 2) },
          { result with
            packets := result.packets ++
              transmission.packets.map fun packet =>
                { payload := packet, retransmission := true } })

/-- The second loop of `pump`: start queued messages up to the window. -/
def startQueued
    (now : Time)
    (window : Nat) :
    List Transmission →
    ReliableSender × PumpResult →
    ReliableSender × PumpResult
  | [], (sender, result) => ({ sender with queue := [] }, result)
  | transmission :: rest, (sender, result) =>
      if sender.pending.length < window then
        startQueued now window rest
          ({ sender with
              pending := sender.pending.set transmission.messageId
                { transmission with
                  attempts := 1
                  firstSentAt := some now
                  lastSentAt := some now } },
            { result with
              packets := result.packets ++
                transmission.packets.map fun packet =>
                  { payload := packet, retransmission := false } })
      else
        ({ sender with queue := transmission :: rest }, result)

/-- `ReliableSender.pump`. -/
def pump (sender : ReliableSender) (now : Time) :
    ReliableSender × PumpResult :=
  let (resent, result) :=
    sender.pending.values.foldl (resend now)
      (sender, { packets := [], exhaustedMessages := 0 })
  let window := max 1 resent.cwnd.floor.toNat
  startQueued now window resent.queue (resent, result)

end ReliableSender

end H3ntun
