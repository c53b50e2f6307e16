import NwbLot.Volume.VolumeTypes

/-!
# GPU timing query slots

`GpuTimingAccumulator` of `gpu_timing.cpp`: the query pools of one timing scope, their reservation
for a pair of timestamps, and the collection of their results.

What a command list records is told by the results: `recordFrameReset` returns the slots whose pools
it resets, a valid scope of `beginQuery` stands for the begin timestamp, and `recordQueryEnd`
returns whether it writes the end timestamp.
-/

namespace NwbLot.GpuTiming

open Volume (NameHash)

/-- A query pool. -/
abbrev TimerQuery := ℕ

/-- `GpuTimingSampleAttribution`. -/
abbrev Attribution := ℕ

/-- `s_NoGpuTimingSampleAttribution`. -/
def noAttribution : Attribution := 0

/-- `Limit<u32>::s_Max`. -/
def u32Max : ℕ := 2 ^ 32 - 1

/-- The two timestamps of a query. -/
structure TimerQueryResult (Seconds : Type) where
  beginSeconds : Seconds
  endSeconds : Seconds

/-- The time between the timestamps. -/
def TimerQueryResult.durationSeconds {Seconds : Type} [Sub Seconds]
    (result : TimerQueryResult Seconds) : Seconds :=
  result.endSeconds - result.beginSeconds

/-- What the device answers about its query pools at a time. -/
structure Device (Seconds : Type) where
  pollTimerQuery : TimerQuery → Bool
  getTimerQueryResult : TimerQuery → Option (TimerQueryResult Seconds)

/-- A scope names its accumulator by the address of it. -/
structure GpuTimingScope where
  accumulator : Option ℕ := none
  query : Option TimerQuery := none
  index : ℕ := u32Max
  reservation : ℕ := 0
  deriving DecidableEq

/-- The scope names a reservation. -/
def GpuTimingScope.valid (scope : GpuTimingScope) : Bool :=
  scope.accumulator.isSome && scope.query.isSome && scope.index != u32Max && scope.reservation != 0

/-- What a listener gets of a query. -/
structure GpuTimingSample (Seconds : Type) where
  scopeName : NameHash
  sourceFrameIndex : ℕ
  durationSeconds : Seconds
  attribution : Attribution
  published : Bool

/-- A sample of the timing sink, with its timestamps. -/
structure TimingRecord (Seconds : Type) where
  timingScope : ℕ
  scopeName : NameHash
  frameIndex : ℕ
  durationSeconds : Seconds
  range : TimerQueryResult Seconds

/-! ## Query records -/

/-- A slot with its query and its reservation. -/
structure QueryRecord where
  query : Option TimerQuery
  frameIndex : ℕ := 0
  attribution : Attribution := noAttribution
  epoch : ℕ := 0
  reservation : ℕ := 0
  recording : Bool := false
  pending : Bool := false
  publishSample : Bool := true
  frameResetRecorded : Bool := false
  deviceReady : Bool := false
  deriving DecidableEq

namespace QueryRecord

variable (record : QueryRecord)

/-- The slot can be reserved. -/
def available : Bool := !record.recording && !record.pending

/-- The loop body of `recordFrameReset`. -/
def recordFrameReset : QueryRecord :=
  { record with
    deviceReady := false
    frameResetRecorded := record.query.isSome && record.available }

/-- The loop body of `confirmFrameReset`. -/
def confirmFrameReset (enabled : Bool) : QueryRecord :=
  if record.frameResetRecorded = false then record
  else { record with
    frameResetRecorded := false
    deviceReady := enabled || record.deviceReady }

/-- The loop body of `discardFrameReset`. -/
def discardFrameReset : QueryRecord :=
  { record with
    frameResetRecorded := false
    deviceReady := false }

/-- The result with which `collect` retires the record. -/
def completed {Seconds : Type} (device : Device Seconds) : Option (TimerQueryResult Seconds) :=
  if record.pending = false then none
  else record.query.bind fun query =>
    if device.pollTimerQuery query = false then none else device.getTimerQueryResult query

/-- The slot after its result was read. -/
def retire : QueryRecord :=
  { record with
    pending := false
    publishSample := true
    attribution := noAttribution }

/-- The result is of this epoch and wanted. -/
def published (epoch : ℕ) : Bool := record.epoch == epoch && record.publishSample

/-- The slot under a new reservation, without its reset. -/
def reserve (reservation frameIndex epoch : ℕ) (attribution : Attribution) : QueryRecord :=
  { record with
    recording := true
    publishSample := true
    deviceReady := false
    frameIndex
    attribution
    epoch
    reservation }

/-- The slot waits for its result. -/
def confirm (publishSample : Bool) : QueryRecord :=
  { record with
    recording := false
    pending := true
    publishSample }

/-- The slot without its reservation. -/
def discard : QueryRecord :=
  { record with
    recording := false
    pending := false
    publishSample := true
    attribution := noAttribution
    deviceReady := false }

/-- The loop body of `retireAttributions`. -/
def clearAttribution : QueryRecord := { record with attribution := noAttribution }

end QueryRecord

/-! ## The accumulator -/

/-- The reservation number behind another: zero is none. -/
def nextReservation (reservation : ℕ) : ℕ :=
  if (reservation + 1) % 2 ^ 64 = 0 then 1 else (reservation + 1) % 2 ^ 64

/-- The slots of a timing scope. -/
structure GpuTimingAccumulator where
  address : ℕ
  scopeName : NameHash
  timingScope : ℕ
  queries : List QueryRecord := []
  requestedQueryCount : UInt32 := 0
  lastReservation : ℕ := 0
  enabled : Bool := false

namespace GpuTimingAccumulator

variable (accumulator : GpuTimingAccumulator)

/-- Every record passes through one loop body. -/
def mapQueries (body : QueryRecord → QueryRecord) : GpuTimingAccumulator :=
  { accumulator with queries := accumulator.queries.map body }

/-! ### Frame resets -/

/-- The accumulator and the slots whose pools are reset. -/
def recordFrameReset : GpuTimingAccumulator × List ℕ :=
  if accumulator.enabled = false then (accumulator, [])
  else
    (accumulator.mapQueries QueryRecord.recordFrameReset,
      (List.range accumulator.queries.length).filter fun slot =>
        (accumulator.queries[slot]?).any fun record => record.query.isSome && record.available)

/-- Resets that were recorded make their slots ready. -/
def confirmFrameReset : GpuTimingAccumulator :=
  accumulator.mapQueries fun record => record.confirmFrameReset accumulator.enabled

/-- Resets that were recorded are forgotten. -/
def discardFrameReset : GpuTimingAccumulator :=
  accumulator.mapQueries QueryRecord.discardFrameReset

/-- Turning the accumulator off forgets the recorded resets. -/
def setEnabled (enabled : Bool) : GpuTimingAccumulator :=
  if enabled then { accumulator with enabled }
  else { accumulator with enabled }.discardFrameReset

/-! ### Query pools -/

/-- The largest request counts. -/
def requestQueries (queryCount : UInt32) : GpuTimingAccumulator :=
  { accumulator with requestedQueryCount := max accumulator.requestedQueryCount queryCount }

/-- `appendQuery` with the answer of `createTimerQuery`. -/
def appendQuery (query : Option TimerQuery) : Option GpuTimingAccumulator :=
  query.map fun query =>
    { accumulator with queries := accumulator.queries ++ [{ query := some query }] }

/-- The loop of `reserveQueries`, for the slots that are missing.  The device answers by the number
of slots there are. -/
def appendQueries (createTimerQuery : ℕ → Option TimerQuery) :
    ℕ → GpuTimingAccumulator → GpuTimingAccumulator × Bool
  | 0, accumulator => (accumulator, true)
  | missing + 1, accumulator =>
    match accumulator.appendQuery (createTimerQuery accumulator.queries.length) with
    | none => (accumulator, false)
    | some accumulator => appendQueries createTimerQuery missing accumulator

/-- Slots up to a number, as far as queries can be created. -/
def reserveQueries (createTimerQuery : ℕ → Option TimerQuery) (queryCount : UInt32) :
    GpuTimingAccumulator × Bool :=
  appendQueries createTimerQuery (queryCount.toNat - accumulator.queries.length) accumulator

/-- The slots that were requested. -/
def materializeRequestedQueries (createTimerQuery : ℕ → Option TimerQuery) :
    GpuTimingAccumulator × Bool :=
  if accumulator.requestedQueryCount = 0 then (accumulator, true)
  else accumulator.reserveQueries createTimerQuery accumulator.requestedQueryCount

/-! ### Reservations -/

/-- The first available slot. -/
def findAvailableQuery : Option ℕ :=
  accumulator.queries.findIdx? QueryRecord.available

/-- `canReset` is `canResetTimerQueryHere` of the command list: no render pass is open. -/
def beginQuery (canReset : Bool) (frameIndex epoch : ℕ) (attribution : Attribution) :
    GpuTimingAccumulator × GpuTimingScope :=
  if accumulator.enabled = false then (accumulator, {})
  else
    match accumulator.findAvailableQuery with
    | none => (accumulator, {})
    | some index =>
      match accumulator.queries[index]? with
      | none => (accumulator, {})
      | some record =>
        if record.deviceReady = false ∧ canReset = false then (accumulator, {})
        else
          let reservation := nextReservation accumulator.lastReservation
          ({ accumulator with
              queries := accumulator.queries.set index
                (record.reserve reservation frameIndex epoch attribution)
              lastReservation := reservation },
            { accumulator := some accumulator.address, query := record.query, index, reservation })

/-- The record that a scope has reserved. -/
def reserved (scope : GpuTimingScope) : Option QueryRecord :=
  if scope.valid = false ∨ scope.accumulator ≠ some accumulator.address then none
  else (accumulator.queries[scope.index]?).filter fun record =>
    record.query == scope.query && record.reservation == scope.reservation

/-- The record that a scope has reserved, while it is recording. -/
def recordingOf (scope : GpuTimingScope) : Option QueryRecord :=
  (accumulator.reserved scope).filter QueryRecord.recording

/-- Whether the end timestamp is written. -/
def recordQueryEnd (scope : GpuTimingScope) : Bool := (accumulator.recordingOf scope).isSome

/-- The reservation waits for its result, whether or not it is published. -/
def confirmQuery (scope : GpuTimingScope) (publishSample : Bool) : GpuTimingAccumulator × Bool :=
  match accumulator.recordingOf scope with
  | none => (accumulator, false)
  | some record =>
    ({ accumulator with
        queries := accumulator.queries.set scope.index (record.confirm publishSample) }, true)

/-- The end is recorded, and the result will be published. -/
def endQuery (scope : GpuTimingScope) : GpuTimingAccumulator × Bool :=
  if accumulator.recordQueryEnd scope = false then (accumulator, false)
  else accumulator.confirmQuery scope true

/-- The reservation is given back. -/
def discardQuery (scope : GpuTimingScope) : GpuTimingAccumulator :=
  match accumulator.reserved scope with
  | none => accumulator
  | some record =>
    { accumulator with queries := accumulator.queries.set scope.index record.discard }

/-! ### Collection -/

section Collection

variable {Seconds : Type} [Sub Seconds] [Zero Seconds]

/-- The sample that a record reports, when it has an attribution. -/
def sampleOf (record : QueryRecord) (published : Bool) (durationSeconds : Seconds) :
    Option (GpuTimingSample Seconds) :=
  if record.attribution = noAttribution then none
  else some {
    scopeName := accumulator.scopeName
    sourceFrameIndex := record.frameIndex
    durationSeconds
    attribution := record.attribution
    published }

/-- The sample of a record that `collect` retires. -/
def collectedSample (device : Device Seconds) (epoch : ℕ) (record : QueryRecord) :
    Option (GpuTimingSample Seconds) :=
  (record.completed device).bind fun result =>
    accumulator.sampleOf record (record.published epoch)
      (if record.published epoch then result.durationSeconds else 0)

/-- The accumulator, what goes to the timing sink, and the samples for a listener. -/
def collect (device : Device Seconds) (epoch : ℕ) :
    GpuTimingAccumulator × List (TimingRecord Seconds) × List (GpuTimingSample Seconds) :=
  if accumulator.enabled = false then (accumulator, [], [])
  else
    (accumulator.mapQueries fun record =>
        if (record.completed device).isSome then record.retire else record,
      accumulator.queries.filterMap fun record =>
        (record.completed device).bind fun result =>
          if record.published epoch = false then none
          else some {
            timingScope := accumulator.timingScope
            scopeName := accumulator.scopeName
            frameIndex := record.frameIndex
            durationSeconds := result.durationSeconds
            range := result },
      accumulator.queries.filterMap (accumulator.collectedSample device epoch))

/-- The accumulator without attributions, and the samples for a listener. -/
def retireAttributions : GpuTimingAccumulator × List (GpuTimingSample Seconds) :=
  (accumulator.mapQueries QueryRecord.clearAttribution,
    accumulator.queries.filterMap fun record => accumulator.sampleOf record false 0)

end Collection

end GpuTimingAccumulator

end NwbLot.GpuTiming
