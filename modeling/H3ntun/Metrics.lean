import H3ntun.Agent
import H3ntun.ConfigValues
import H3ntun.Foundation.Ledger

namespace H3ntun

/-!
# The metrics of an agent

The counters and the latest values an agent publishes.  A call of `add`,
`increment` or `set` holds the lock of the metrics from its beginning to its
end, so calls of several threads take effect one after the other.
-/

/-- The prefixes `add` is called with. -/
inductive Traffic where
  | uplinkTx
  | uplinkRx
  | downlinkTx
  | downlinkRx
  | innerTx
  | innerRx
  deriving Repr, DecidableEq

/-- The keys of the metrics that only ever grow. -/
inductive Counter where
  | packets (traffic : Traffic)
  | bytes (traffic : Traffic)
  | authFailures
  | replayDrops
  | sourceMismatchDrops
  | innerSourceMismatchDrops
  | oversizeDrops
  | encryptedFramesTx
  | encryptedFramesRx
  | fragmentMessages
  | fragmentsCreated
  | fragmentsReceived
  | fecRecoveries
  | acksTx
  | acksRx
  | ackedMessages
  | retransmittedFrames
  | retryExhausted
  | queueDrops
  | reassemblyTimeouts
  | duplicateMessages
  | staleAckDrops
  | unknownAckDrops
  deriving Repr, DecidableEq

/-- The keys of the metrics that hold the latest value. -/
structure Gauges where
  queuedMessages : Nat := 0
  inflightMessages : Nat := 0
  congestionWindow : Rat := 64
  lastAckRttMs : Option Rat := none
  lastUplinkPeer : Option String := none
  lastDownlinkSource : Option String := none
  lastUplinkAt : Option Time := none
  lastDownlinkAt : Option Time := none
  lastInnerAt : Option Time := none
  lastPongAt : Option Time := none
  lastRttMs : Option Int := none
  deriving Repr, DecidableEq

/-- A value passed to `set`. -/
inductive Setting where
  | sender (queued inflight : Nat) (window : Rat)
  | lastAckRttMs (milliseconds : Rat)
  | lastUplinkPeer (peer : String)
  | lastDownlinkSource (host : String)
  | lastUplinkAt (time : Time)
  | lastDownlinkAt (time : Time)
  | lastInnerAt (time : Time)
  | lastPongAt (time : Time)
  | lastRttMs (milliseconds : Int)
  deriving Repr, DecidableEq

/-- `set` of one key. -/
def Gauges.update (gauges : Gauges) : Setting → Gauges
  | .sender queued inflight window =>
      { gauges with
        queuedMessages := queued
        inflightMessages := inflight
        congestionWindow := window }
  | .lastAckRttMs milliseconds =>
      { gauges with lastAckRttMs := some milliseconds }
  | .lastUplinkPeer peer => { gauges with lastUplinkPeer := some peer }
  | .lastDownlinkSource host =>
      { gauges with lastDownlinkSource := some host }
  | .lastUplinkAt time => { gauges with lastUplinkAt := some time }
  | .lastDownlinkAt time => { gauges with lastDownlinkAt := some time }
  | .lastInnerAt time => { gauges with lastInnerAt := some time }
  | .lastPongAt time => { gauges with lastPongAt := some time }
  | .lastRttMs milliseconds =>
      { gauges with lastRttMs := some milliseconds }

/-- The metrics of a process. -/
structure Metrics where
  role : Side
  counts : Ledger Counter := .zero
  gauges : Gauges := {}

/-- A call of one of the three methods that change the metrics. -/
inductive MetricCall where
  | add (traffic : Traffic) (byteCount : Nat)
  | increment (counter : Counter) (amount : Nat)
  | set (settings : List Setting)
  deriving Repr, DecidableEq

namespace Metrics

/-- `Metrics.add`. -/
def add (metrics : Metrics) (traffic : Traffic) (byteCount : Nat) :
    Metrics :=
  { metrics with
    counts :=
      (metrics.counts.post (.packets traffic, 1)).post
        (.bytes traffic, byteCount) }

/-- `Metrics.increment`. -/
def increment (metrics : Metrics) (counter : Counter) (amount : Nat) :
    Metrics :=
  { metrics with counts := metrics.counts.post (counter, amount) }

/-- `Metrics.set`. -/
def set (metrics : Metrics) (settings : List Setting) : Metrics :=
  { metrics with gauges := settings.foldl Gauges.update metrics.gauges }

/-- What a call changes. -/
def perform (metrics : Metrics) : MetricCall → Metrics
  | .add traffic byteCount => metrics.add traffic byteCount
  | .increment counter amount => metrics.increment counter amount
  | .set settings => metrics.set settings

/-- The metrics after calls made one after the other. -/
def performAll (metrics : Metrics) (calls : List MetricCall) : Metrics :=
  calls.foldl perform metrics

end Metrics

namespace MetricCall

/-- What a call enters into the counters. -/
def entries : MetricCall → List (Counter × Nat)
  | .add traffic byteCount =>
      [(.packets traffic, 1), (.bytes traffic, byteCount)]
  | .increment counter amount => [(counter, amount)]
  | .set _ => []

/-- What a call sets. -/
def settings : MetricCall → List Setting
  | .set settings => settings
  | _ => []

/-- What calls add to one counter. -/
def total (counter : Counter) (calls : List MetricCall) : Nat :=
  Ledger.total counter (calls.flatMap entries)

/-- No call raises a counter by nothing. -/
@[simp] theorem total_nil (counter : Counter) :
    total counter [] = 0 :=
  rfl

@[simp] theorem total_cons
    (counter : Counter)
    (call : MetricCall)
    (rest : List MetricCall) :
    total counter (call :: rest) =
      Ledger.total counter call.entries + total counter rest := by
  simp [total]

@[simp] theorem total_append
    (counter : Counter)
    (first later : List MetricCall) :
    total counter (first ++ later) =
      total counter first + total counter later := by
  simp [total]

/-- `add` raises two counters. -/
@[simp] theorem entries_add (traffic : Traffic) (byteCount : Nat) :
    (add traffic byteCount).entries =
      [(.packets traffic, 1), (.bytes traffic, byteCount)] :=
  rfl

/-- `increment` raises one. -/
@[simp] theorem entries_increment (counter : Counter) (amount : Nat) :
    (increment counter amount).entries = [(counter, amount)] :=
  rfl

/-- `set` raises none. -/
@[simp] theorem entries_set (settings : List Setting) :
    (set settings).entries = [] :=
  rfl

end MetricCall

namespace Metrics

/-- Counters and values are changed by what the calls enter and set. -/
theorem performAll_eq
    (metrics : Metrics)
    (calls : List MetricCall) :
    metrics.performAll calls = {
      role := metrics.role
      counts :=
        metrics.counts.postAll (calls.flatMap MetricCall.entries)
      gauges :=
        (calls.flatMap MetricCall.settings).foldl Gauges.update
          metrics.gauges } := by
  induction calls generalizing metrics with
  | nil =>
      rfl
  | cons call rest inductionHypothesis =>
      rw [performAll, List.foldl_cons, ← performAll, inductionHypothesis]
      cases call with
      | add traffic byteCount =>
          rfl
      | increment counter amount =>
          rfl
      | set settings =>
          simp only [perform, set, List.flatMap_cons, MetricCall.settings,
            List.foldl_append, MetricCall.entries_set, List.nil_append]

theorem counts_performAll
    (metrics : Metrics)
    (calls : List MetricCall)
    (counter : Counter) :
    (metrics.performAll calls).counts counter =
      metrics.counts counter + MetricCall.total counter calls := by
  rw [performAll_eq]
  exact Ledger.postAll_apply ..

theorem gauges_performAll
    (metrics : Metrics)
    (calls : List MetricCall) :
    (metrics.performAll calls).gauges =
      (calls.flatMap MetricCall.settings).foldl Gauges.update
        metrics.gauges := by
  rw [performAll_eq]

@[simp] theorem role_performAll
    (metrics : Metrics)
    (calls : List MetricCall) :
    (metrics.performAll calls).role = metrics.role := by
  rw [performAll_eq]

end Metrics

end H3ntun
