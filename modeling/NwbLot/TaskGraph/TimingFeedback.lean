import NwbLot.TaskGraph.Graph
import Mathlib.Algebra.Order.Ring.Unbundled.Rat

/-!
# Timing feedback

`timing_feedback.h` and `timing_feedback.cpp`: keys and histories of measured task durations, the
last accepted route of a key, the policy that decides whether a switch is worthwhile, and the store
that collects samples and accepted routes.
-/

namespace NwbLot

/-- The `f64` constants and operations that timing feedback uses.  The results below hold for
whatever they compute. -/
class F64 (F : Type) where
  zero : F
  one : F
  /-- `Limit<f64>::s_Max`. -/
  max : F
  lt : F → F → Bool
  le : F → F → Bool
  eq : F → F → Bool
  add : F → F → F
  sub : F → F → F
  div : F → F → F
  ofU32 : ℕ → F

/-- Exact arithmetic, which agrees with `f64` as long as no result is rounded. -/
instance : F64 ℚ where
  zero := 0
  one := 1
  max := 2 ^ 1024 - 2 ^ 971
  lt a b := decide (a < b)
  le a b := decide (a ≤ b)
  eq a b := decide (a = b)
  add := (· + ·)
  sub := (· - ·)
  div := (· / ·)
  ofU32 n := n

namespace TaskGraph

open F64 (lt le)

/-! ## Keys, histories and assignment states -/

/-- `GpuTaskTimingKey`; the queue is the broad class of the selected queue. -/
structure GpuTaskTimingKey where
  task : Name := 0
  variant : ℕ := 0
  resolutionClass : ℕ := 0
  queue : CommandQueue := .graphics
  deriving DecidableEq, Repr, Inhabited

/-- The key names a task and a queue class. -/
def GpuTaskTimingKey.valid (key : GpuTaskTimingKey) : Bool :=
  key.task != 0 && key.queue.known

/-- The samples of a task on one queue, summed up. -/
structure GpuTaskTimingHistory (F : Type) where
  averageSeconds : F
  minimumSeconds : F
  maximumSeconds : F
  sampleCount : ℕ

/-- A history under its key and queue. -/
structure GpuTaskTimingHistoryEntry (F : Type) where
  key : GpuTaskTimingKey
  physicalQueue : GpuPhysicalQueueId
  history : GpuTaskTimingHistory F

/-- The last accepted queue of a task, and the frame of its last switch. -/
structure GpuTaskTimingAssignmentState where
  key : GpuTaskTimingKey := {}
  lastAcceptedQueue : GpuPhysicalQueueId := {}
  lastAcceptedFrameIndex : ℕ := 0
  lastSwitchFrameIndex : ℕ := 0
  hasAcceptedAssignment : Bool := false
  deriving DecidableEq, Repr, Inhabited

/-- An accepted assignment, its last switch no later than it. -/
def GpuTaskTimingAssignmentState.valid (state : GpuTaskTimingAssignmentState) : Bool :=
  state.key.valid && state.hasAcceptedAssignment && state.lastAcceptedQueue.valid
    && decide (state.lastSwitchFrameIndex ≤ state.lastAcceptedFrameIndex)

/-- A queue that is fixed for a key. -/
structure GpuTaskTimingQueueOverride where
  key : GpuTaskTimingKey := {}
  queue : GpuPhysicalQueueId := {}
  deriving DecidableEq, Repr, Inhabited

/-- `ValidateGpuTaskTimingQueueOverrides` succeeds, given the overrides already visited; a null
array with a count is excluded by the type. -/
def validQueueOverrides (deviceGeneration : ℕ) (visited : List GpuTaskTimingQueueOverride) :
    List GpuTaskTimingQueueOverride → Bool
  | [] => true
  | entry :: rest =>
      deviceGeneration != 0
        && entry.key.valid
        && entry.queue.valid
        && entry.queue.deviceGeneration == deviceGeneration
        && visited.all (fun previous => previous.key != entry.key)
        && validQueueOverrides deviceGeneration (visited ++ [entry]) rest

/-- `FindGpuTaskTimingQueueOverride`. -/
def findGpuTaskTimingQueueOverride (overrides : List GpuTaskTimingQueueOverride)
    (key : GpuTaskTimingKey) : Option GpuTaskTimingQueueOverride :=
  if !key.valid then none else overrides.find? (·.key == key)

section Policy

variable {F : Type} [F64 F]

/-- Above zero and finite. -/
def isFinitePositiveDuration (value : F) : Bool :=
  lt F64.zero value && lt value F64.max

/-- At least zero and finite. -/
def isFiniteNonNegative (value : F) : Bool :=
  le F64.zero value && lt value F64.max

/-- The sums fit each other. -/
def GpuTaskTimingHistory.valid (history : GpuTaskTimingHistory F) : Bool :=
  history.sampleCount != 0
    && isFinitePositiveDuration history.averageSeconds
    && isFinitePositiveDuration history.minimumSeconds
    && isFinitePositiveDuration history.maximumSeconds
    && le history.minimumSeconds history.averageSeconds
    && le history.averageSeconds history.maximumSeconds

/-! ## The policy -/

/-- When feedback may switch a task to another queue. -/
structure GpuTaskTimingFeedbackPolicy (F : Type) where
  enabled : Bool
  minimumSampleCount : ℕ
  calibrationIntervalFrames : ℕ
  minimumAbsoluteBenefitSeconds : F
  minimumRelativeBenefit : F
  minimumFramesBetweenSwitches : ℕ

/-- The bounds are in range. -/
def GpuTaskTimingFeedbackPolicy.valid (policy : GpuTaskTimingFeedbackPolicy F) : Bool :=
  policy.minimumSampleCount != 0
    && isFiniteNonNegative policy.minimumAbsoluteBenefitSeconds
    && isFiniteNonNegative policy.minimumRelativeBenefit
    && le policy.minimumRelativeBenefit F64.one

variable (policy : GpuTaskTimingFeedbackPolicy F)

/-- The history has enough samples to be compared. -/
def gpuTaskTimingHistoryMeetsMinimumSamples (history : GpuTaskTimingHistory F) : Bool :=
  policy.valid && history.valid && decide (policy.minimumSampleCount ≤ history.sampleCount)

/-- The candidate is faster by more than both margins. -/
def gpuTaskTimingBenefitExceedsHysteresis (incumbent candidate : GpuTaskTimingHistory F) : Bool :=
  if !policy.valid || !incumbent.valid || !candidate.valid
      || le incumbent.averageSeconds candidate.averageSeconds then false
  else
    let benefitSeconds := F64.sub incumbent.averageSeconds candidate.averageSeconds
    if lt benefitSeconds policy.minimumAbsoluteBenefitSeconds then false
    else le policy.minimumRelativeBenefit (F64.div benefitSeconds incumbent.averageSeconds)

/-- Enough frames have passed since the last switch. -/
def gpuTaskTimingSwitchDwellElapsed (assignment : GpuTaskTimingAssignmentState)
    (frameIndex : ℕ) : Bool :=
  if !policy.valid || !assignment.valid || decide (frameIndex < assignment.lastSwitchFrameIndex)
  then false
  else decide (policy.minimumFramesBetweenSwitches ≤ frameIndex - assignment.lastSwitchFrameIndex)

/-- The incumbent may give way to the candidate. -/
def gpuTaskTimingFeedbackCanSwitch (incumbent candidate : GpuTaskTimingHistory F)
    (assignment : GpuTaskTimingAssignmentState) (incumbentQueue candidateQueue : GpuPhysicalQueueId)
    (frameIndex : ℕ) : Bool :=
  policy.enabled
    && incumbentQueue.valid
    && candidateQueue.valid
    && incumbentQueue != candidateQueue
    && incumbentQueue.deviceGeneration == candidateQueue.deviceGeneration
    && assignment.valid
    && assignment.lastAcceptedQueue == incumbentQueue
    && gpuTaskTimingHistoryMeetsMinimumSamples policy incumbent
    && gpuTaskTimingHistoryMeetsMinimumSamples policy candidate
    && gpuTaskTimingBenefitExceedsHysteresis policy incumbent candidate
    && gpuTaskTimingSwitchDwellElapsed policy assignment frameIndex

end Policy

/-! ## Snapshots -/

/-- What the compiler reads of a store. -/
structure GpuTaskTimingHistorySnapshot (F : Type) where
  histories : List (GpuTaskTimingHistoryEntry F) := []
  assignments : List GpuTaskTimingAssignmentState := []
  deviceGeneration : ℕ := 0
  valid : Bool := false

namespace GpuTaskTimingHistorySnapshot

variable {F : Type} (snapshot : GpuTaskTimingHistorySnapshot F)

/-- The history of a key on a queue. -/
def find (key : GpuTaskTimingKey) (physicalQueue : GpuPhysicalQueueId) :
    Option (GpuTaskTimingHistory F) :=
  if !snapshot.valid || !key.valid || !physicalQueue.valid
      || physicalQueue.deviceGeneration != snapshot.deviceGeneration then none
  else
    (snapshot.histories.find? fun entry =>
      entry.key == key && entry.physicalQueue == physicalQueue).map (·.history)

/-- The assignment of a key. -/
def findAssignment (key : GpuTaskTimingKey) : Option GpuTaskTimingAssignmentState :=
  if !snapshot.valid || !key.valid then none else snapshot.assignments.find? (·.key == key)

end GpuTaskTimingHistorySnapshot

/-! ## The history store -/

/-- An entry and the samples behind it. -/
structure HistoryRecord (F : Type) where
  entry : GpuTaskTimingHistoryEntry F
  samples : List F

/-- The histories and assignments of one device generation. -/
structure GpuTaskTimingHistoryStore (F : Type) where
  histories : List (HistoryRecord F) := []
  assignments : List GpuTaskTimingAssignmentState := []
  maximumSamplesPerHistory : ℕ := 1
  deviceGeneration : ℕ := 0

namespace GpuTaskTimingHistoryStore

variable {F : Type} (store : GpuTaskTimingHistoryStore F)

/-- The constructor; a store keeps at least one sample per history. -/
def create (maximumSamplesPerHistory : ℕ) : GpuTaskTimingHistoryStore F where
  maximumSamplesPerHistory := if maximumSamplesPerHistory = 0 then 1 else maximumSamplesPerHistory

/-- `findAssignmentState`. -/
def findAssignment (key : GpuTaskTimingKey) : Option GpuTaskTimingAssignmentState :=
  store.assignments.find? (·.key == key)

/-- The states with one written through the pointer that `findAssignmentState` returned, or
appended. -/
def putAssignment (assignment : GpuTaskTimingAssignmentState) :
    List GpuTaskTimingAssignmentState → List GpuTaskTimingAssignmentState
  | [] => [assignment]
  | existing :: rest =>
      if existing.key = assignment.key then assignment :: rest
      else existing :: putAssignment assignment rest

/-- The state after accepting a route that is not older than the last one. -/
def acceptRoute (assignment : GpuTaskTimingAssignmentState) (physicalQueue : GpuPhysicalQueueId)
    (sourceFrameIndex : ℕ) : GpuTaskTimingAssignmentState :=
  { assignment with
    lastAcceptedQueue := physicalQueue
    lastSwitchFrameIndex :=
      if physicalQueue ≠ assignment.lastAcceptedQueue then sourceFrameIndex
      else assignment.lastSwitchFrameIndex
    lastAcceptedFrameIndex := sourceFrameIndex
    hasAcceptedAssignment := true }

/-- The first noted route decides the device generation. -/
def openFor (physicalQueue : GpuPhysicalQueueId) : GpuTaskTimingHistoryStore F :=
  if store.deviceGeneration = 0 then
    { store with deviceGeneration := physicalQueue.deviceGeneration }
  else store

/-- `noteAcceptedAssignment` behind its checks. -/
def noteChecked (key : GpuTaskTimingKey) (physicalQueue : GpuPhysicalQueueId)
    (sourceFrameIndex : ℕ) : GpuTaskTimingHistoryStore F × Bool :=
  match store.findAssignment key with
  | none =>
      let assignment : GpuTaskTimingAssignmentState :=
        { key
          lastAcceptedQueue := physicalQueue
          lastAcceptedFrameIndex := sourceFrameIndex
          lastSwitchFrameIndex := sourceFrameIndex
          hasAcceptedAssignment := true }
      ({ store with assignments := putAssignment assignment store.assignments }, true)
  | some assignment =>
      if sourceFrameIndex < assignment.lastAcceptedFrameIndex then (store, true)
      else if sourceFrameIndex = assignment.lastAcceptedFrameIndex
          ∧ physicalQueue ≠ assignment.lastAcceptedQueue then (store, false)
      else
        let accepted := acceptRoute assignment physicalQueue sourceFrameIndex
        ({ store with assignments := putAssignment accepted store.assignments }, true)

/-- The accepted queue of a task, with the frame of a switch. -/
def noteAcceptedAssignment (key : GpuTaskTimingKey) (physicalQueue : GpuPhysicalQueueId)
    (sourceFrameIndex : ℕ) : GpuTaskTimingHistoryStore F × Bool :=
  if !key.valid || !physicalQueue.valid then (store, false)
  else if (store.openFor physicalQueue).deviceGeneration ≠ physicalQueue.deviceGeneration then
    (store.openFor physicalQueue, false)
  else (store.openFor physicalQueue).noteChecked key physicalQueue sourceFrameIndex

section Samples

variable [F64 F]

/-- `rebuildHistory`: the running mean, the least and the greatest sample. -/
def rebuildHistory (first : F) (samples : List F) : GpuTaskTimingHistory F :=
  samples.foldl
    (fun history sampleSeconds =>
      let sampleCount := history.sampleCount + 1
      { averageSeconds := F64.add history.averageSeconds
          (F64.div (F64.sub sampleSeconds history.averageSeconds) (F64.ofU32 sampleCount))
        minimumSeconds :=
          if lt sampleSeconds history.minimumSeconds then sampleSeconds else history.minimumSeconds
        maximumSeconds :=
          if lt history.maximumSeconds sampleSeconds then sampleSeconds else history.maximumSeconds
        sampleCount })
    { averageSeconds := F64.zero, minimumSeconds := first, maximumSeconds := first, sampleCount := 0 }

/-- A record with one more sample, the oldest dropped when it is full. -/
def HistoryRecord.push (record : HistoryRecord F) (maximumSamplesPerHistory : ℕ)
    (durationSeconds : F) : HistoryRecord F :=
  let kept :=
    if record.samples.length = maximumSamplesPerHistory then record.samples.tail
    else record.samples
  let samples := kept ++ [durationSeconds]
  { entry := { record.entry with history := rebuildHistory (samples.headD durationSeconds) samples }
    samples }

/-- The records after a sample of a key on a queue; a first sample opens a record. -/
def pushSample (key : GpuTaskTimingKey) (physicalQueue : GpuPhysicalQueueId) (durationSeconds : F)
    (maximumSamplesPerHistory : ℕ) : List (HistoryRecord F) → List (HistoryRecord F)
  | [] =>
      let opened : HistoryRecord F :=
        { entry := { key, physicalQueue, history := rebuildHistory F64.zero [] }, samples := [] }
      [HistoryRecord.push opened maximumSamplesPerHistory durationSeconds]
  | record :: rest =>
      if record.entry.key = key ∧ record.entry.physicalQueue = physicalQueue then
        HistoryRecord.push record maximumSamplesPerHistory durationSeconds :: rest
      else record :: pushSample key physicalQueue durationSeconds maximumSamplesPerHistory rest

/-- One more sample of an accepted assignment. -/
def recordSample (key : GpuTaskTimingKey) (physicalQueue : GpuPhysicalQueueId)
    (durationSeconds : F) (sourceFrameIndex : ℕ) : GpuTaskTimingHistoryStore F × Bool :=
  if !isFinitePositiveDuration durationSeconds then (store, false)
  else
    let noted := store.noteAcceptedAssignment key physicalQueue sourceFrameIndex
    if !noted.2 then (noted.1, false)
    else
      ({ noted.1 with
         histories := pushSample key physicalQueue durationSeconds
           noted.1.maximumSamplesPerHistory noted.1.histories }, true)

end Samples

/-- What the compiler reads. -/
def snapshot : GpuTaskTimingHistorySnapshot F :=
  if store.deviceGeneration = 0 then {}
  else
    { histories := store.histories.map (·.entry)
      assignments := store.assignments
      deviceGeneration := store.deviceGeneration
      valid := true }

end GpuTaskTimingHistoryStore

end TaskGraph
end NwbLot
