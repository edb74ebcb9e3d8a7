import H3ntun.ReliableSender

namespace H3ntun

/-!
# Numeric limits of a configuration

`load_config` refuses settings outside these limits, before the agents are
built from the others.
-/

/-- A Python float. -/
inductive FloatValue where
  | finite (value : Rat)
  | infinity (negative : Bool)
  | nan
  deriving Repr, DecidableEq

namespace FloatValue

/-- `math.isfinite(value)`. -/
def isFinite : FloatValue → Bool
  | .finite _ => true
  | _ => false

/-- `value <= 0`, which is false of `nan`. -/
def isNonpositive : FloatValue → Bool
  | .finite value => value ≤ 0
  | .infinity negative => negative
  | .nan => false

/-- The number a finite float stands for. -/
def toRat : FloatValue → Rat
  | .finite value => value
  | _ => 0

/-- The checks of `load_config` leave positive numbers. -/
theorem toRat_pos
    {value : FloatValue}
    (finite : value.isFinite = true)
    (positive : ¬ value.isNonpositive = true) :
    0 < value.toRat := by
  cases value with
  | finite number =>
      simpa [isNonpositive, toRat] using positive
  | infinity negative =>
      cases finite
  | nan =>
      cases finite

end FloatValue

/-- `ConfigError`, a subclass of `ValueError`. -/
def Failure.configError (message : String) : Failure :=
  .valueError message

/-- The values of `common` that the limits are about. -/
structure CommonSettings where
  keepaliveSeconds : FloatValue := .finite 5
  healthTimeoutSeconds : FloatValue := .finite 20
  recvBufferBytes : Int := 4 * 1024 * 1024
  fragmentPayloadBytes : Int := 1200
  retransmitTimeoutSeconds : FloatValue := .finite (1 / 2)
  maxRetries : Int := 8
  maxPendingMessages : Int := 2048
  reassemblyTimeoutSeconds : FloatValue := .finite 30
  replayCheckpointIntervalSeconds : FloatValue := .finite (1 / 20)
  replayCheckpointBatchFrames : Int := 128
  deriving Repr, DecidableEq

namespace CommonSettings

/-- The checks of `load_config` on numbers, in source order. -/
def checkLimits (common : CommonSettings) : Except Failure Unit :=
  if ¬ common.keepaliveSeconds.isFinite ∨
      ¬ common.healthTimeoutSeconds.isFinite ∨
      common.keepaliveSeconds.isNonpositive ∨
      common.healthTimeoutSeconds.isNonpositive ∨
      ¬ common.retransmitTimeoutSeconds.isFinite ∨
      ¬ common.reassemblyTimeoutSeconds.isFinite ∨
      ¬ common.replayCheckpointIntervalSeconds.isFinite ∨
      common.retransmitTimeoutSeconds.isNonpositive ∨
      common.reassemblyTimeoutSeconds.isNonpositive ∨
      common.replayCheckpointIntervalSeconds.isNonpositive then
    .error (.configError "all timeout values must be finite and positive")
  else if common.recvBufferBytes < 65536 then
    .error (.configError "recv_buffer_bytes is too small")
  else if ¬ (256 ≤ common.fragmentPayloadBytes ∧
      common.fragmentPayloadBytes ≤ 1391) then
    .error (.configError
      "fragment_payload_bytes must be between 256 and 1391")
  else if ¬ (0 ≤ common.maxRetries ∧ common.maxRetries ≤ 100) then
    .error (.configError "max_retries must be between 0 and 100")
  else if ¬ (1 ≤ common.maxPendingMessages ∧
      common.maxPendingMessages ≤ 100000) then
    .error (.configError
      "max_pending_messages must be between 1 and 100000")
  else if ¬ (1 ≤ common.replayCheckpointBatchFrames ∧
      common.replayCheckpointBatchFrames ≤ 100000) then
    .error (.configError
      "replay_checkpoint_batch_frames must be between 1 and 100000")
  else
    .ok ()

/-- What the checks promise to the constructor of the sender. -/
theorem limits_of_accepted
    {common : CommonSettings}
    (accepted : common.checkLimits = .ok ()) :
    0 < common.retransmitTimeoutSeconds.toRat ∧
      0 ≤ common.maxRetries ∧
      1 ≤ common.maxPendingMessages := by
  simp only [checkLimits, guard_eq_ok_iff, not_or, not_not]
    at accepted
  obtain ⟨⟨_, _, _, _, isFinite, _, _, positive, _, _⟩, _, _, retries,
    pending, _⟩ := accepted
  exact ⟨FloatValue.toRat_pos isFinite positive, retries.1, pending.1⟩

/-- The sender of an agent, with the default congestion window. -/
def sender (common : CommonSettings) : Except Failure ReliableSender :=
  ReliableSender.init common.retransmitTimeoutSeconds.toRat
    common.maxRetries common.maxPendingMessages 64 512

/-- Every accepted configuration is one the sender can be built from. -/
theorem exists_sender
    {common : CommonSettings}
    (accepted : common.checkLimits = .ok ()) :
    ∃ sender, common.sender = .ok sender := by
  obtain ⟨positive, retries, pending⟩ := limits_of_accepted accepted
  have limits :
      ¬ (common.maxRetries < 0 ∨ common.maxPendingMessages < 1) := by
    omega
  have window : ¬ ¬ ((1 : Int) ≤ 64 ∧ (64 : Int) ≤ 512) := by
    decide
  rw [sender, ReliableSender.init, dif_neg (not_le.mpr positive),
    dif_neg limits, dif_neg window]
  exact ⟨_, rfl⟩

end CommonSettings

end H3ntun
