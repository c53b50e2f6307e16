import NwbLot.TaskGraph.Analysis
import NwbLot.TaskGraph.CompiledPlan
import NwbLot.TaskGraph.TimingFeedback

/-!
# Queue assignment

`compiler_queue_assignment.cpp`.  Every task first gets the queue its request selects; opted-in
tasks are then spread over the queues of the same class, and an override, a calibration probe or
the timing history may move them once more.

Queues are compared by value where the source compares addresses of topology entries; a valid
topology names no queue twice.
-/

namespace NwbLot.TaskGraph

/-- How queue assignment ended. -/
inductive GpuTaskGraphQueueAssignmentStatus
  | notAssigned
  | success
  | invalidGraphAnalysis
  | invalidQueueTopology
  | invalidTimingFeedback
  | noCompatibleQueue
  deriving DecidableEq, Repr, Inhabited

/-- The task that assignment failed at, and why. -/
structure GpuTaskQueueAssignmentDiagnostic where
  status : GpuTaskGraphQueueAssignmentStatus := .notAssigned
  task : GpuTaskId := {}
  requiredCapabilities : GpuQueueCapability := 0
  deriving DecidableEq, Repr, Inhabited

/-- The timing feedback that assignment may use. -/
structure GpuTaskGraphQueueAssignmentOptions (F : Type) where
  timingHistory : Option (GpuTaskTimingHistorySnapshot F) := none
  timingFeedbackPolicy : Option (GpuTaskTimingFeedbackPolicy F) := none
  timingQueueOverrides : List GpuTaskTimingQueueOverride := []
  timingFrameIndex : ℕ := 0

/-! ## The requested queue -/

/-- The queue that the request of a task selects, before any routing. -/
def selectQueue (topology : GpuTaskGraphQueueTopology) (task : GpuTaskGraphTaskView) :
    Option (GpuPhysicalQueueInfo × GpuTaskQueueAssignmentReason) :=
  let best := findBestCompatibleQueue topology task.queue.requiredCapabilities
  let fallbackTo (queue : Option GpuPhysicalQueueInfo) :=
    if task.queue.allowFallback then
      queue.map fun queue => (queue, GpuTaskQueueAssignmentReason.fallback)
    else none
  if requiresGraphics task.queue.requiredCapabilities then
    (best .graphics).map fun queue => (queue, .requiredGraphics)
  else
    match task.queue.preferredQueue with
    | .graphics =>
        ((best .graphics).map fun queue => (queue, .preferredQueue)) <|> fallbackTo (best .kCount)
    | .compute =>
        (((best .compute).filter fun queue =>
            !task.queue.compilerMayOverridePreference
              || (queue.dedicated && shouldUseDedicatedCompute task.scheduling)).map fun queue =>
          (queue, if queue.dedicated then .dedicatedCompute else .preferredQueue))
        <|> fallbackTo (best .graphics)
        <|> ((best .compute).map fun queue => (queue, .preferredQueue))
        <|> fallbackTo (best .kCount)
    | .transfer =>
        (((best .transfer).filter fun queue =>
            !task.queue.compilerMayOverridePreference
              || (queue.dedicated && shouldUseDedicatedTransfer task.scheduling)).map fun queue =>
          (queue, if queue.dedicated then .dedicatedTransfer else .preferredQueue))
        <|> fallbackTo ((best .compute).filter fun queue =>
          queue.dedicated && shouldUseDedicatedCompute task.scheduling)
        <|> fallbackTo (best .graphics)
        <|> ((best .transfer).map fun queue => (queue, .preferredQueue))
        <|> fallbackTo (best .compute)
        <|> fallbackTo (best .kCount)
    | .any =>
        (best .graphics <|> best .kCount).map fun queue => (queue, .conservativeAny)

/-! ## Spreading over a class -/

section SameClass

variable (graph : GpuTaskGraph) (analysis : GpuTaskGraphAnalysis)
  (assignments : List GpuTaskQueueAssignment) (topology : GpuTaskGraphQueueTopology)

/-- `FindQueueAssignment`. -/
def findQueueAssignment (task : GpuTaskId) : Option GpuTaskQueueAssignment :=
  assignments.find? (·.task == task)

/-- Saturating `u64` addition. -/
def saturatingAdd (load cost : ℕ) : ℕ :=
  if u64Max - cost < load then u64Max else load + cost

/-- The cost of the tasks already assigned to a queue, in topological order. -/
def assignedLoad (queue : GpuPhysicalQueueId) : ℕ :=
  analysis.topologicalOrder.foldl
    (fun load assignedTask =>
      match findQueueAssignment assignments assignedTask with
      | none => load
      | some assignment =>
          if assignment.queue ≠ queue then load
          else saturatingAdd load (queueCostWeight (graph.taskAt assignedTask.index).scheduling.cost))
    0

/-- The candidate may take the place of a queue of the same class. -/
def isSameClassCandidate (baseQueue candidate : GpuPhysicalQueueInfo)
    (requiredCapabilities : GpuQueueCapability) (allowCrossFamilyRouting : Bool) : Bool :=
  candidate.queueClass == baseQueue.queueClass
    && (allowCrossFamilyRouting || candidate.familyIndex == baseQueue.familyIndex)
    && hasCapabilities candidate.capabilities requiredCapabilities

/-- The candidate replaces the best queue found so far. -/
def winsLoad (baseQueue : GpuPhysicalQueueInfo) (preferNonPrimaryQueue : Bool)
    (candidate : GpuPhysicalQueueInfo) (load : ℕ) : Option (GpuPhysicalQueueInfo × ℕ) → Bool
  | none => true
  | some (result, resultLoad) =>
      let candidateIsNonPrimary := candidate.id != baseQueue.id
      let resultIsNonPrimary := result.id != baseQueue.id
      let winsEqualLoad :=
        if preferNonPrimaryQueue && candidateIsNonPrimary != resultIsNonPrimary then
          candidateIsNonPrimary
        else isBetterQueue candidate (some result)
      decide (load < resultLoad) || (load == resultLoad && winsEqualLoad)

/-- The least loaded legal queue of a class. -/
def findLeastLoadedSameClassQueue (baseQueue : GpuPhysicalQueueInfo)
    (requiredCapabilities : GpuQueueCapability)
    (allowCrossFamilyRouting preferNonPrimaryQueue : Bool) : Option GpuPhysicalQueueInfo :=
  (topology.foldl
    (fun best candidate =>
      if !isSameClassCandidate baseQueue candidate requiredCapabilities allowCrossFamilyRouting
      then best
      else
        let load := assignedLoad graph analysis assignments candidate.id
        if winsLoad baseQueue preferNonPrimaryQueue candidate load best then some (candidate, load)
        else best)
    none).map (·.1)

/-- The queue of the last direct dependency that has a compatible one. -/
def findDirectDependencySameClassQueue (task : GpuTaskGraphTaskView)
    (baseQueue : GpuPhysicalQueueInfo) (requiredCapabilities : GpuQueueCapability)
    (allowCrossFamilyRouting : Bool) : Option GpuPhysicalQueueInfo :=
  task.dependencies.reverse.findSome? fun dependency =>
    (findQueueAssignment assignments dependency).bind fun assignment =>
      topology.find? fun candidate =>
        candidate.id == assignment.queue
          && isSameClassCandidate baseQueue candidate requiredCapabilities allowCrossFamilyRouting

/-- The same-class routing of an opted-in task. -/
def routeSameClass (task : GpuTaskGraphTaskView) (selected : GpuPhysicalQueueInfo) :
    GpuPhysicalQueueInfo :=
  let hint := task.scheduling
  if hint.allowSameClassQueueRouting && hint.overlapPreferred && !hint.avoidQueueCrossing then
    let dependencyQueue :=
      if hint.preserveSameClassQueueWithDirectDependency then
        findDirectDependencySameClassQueue assignments topology task selected
          task.queue.requiredCapabilities hint.allowCrossFamilySameClassQueueRouting
      else none
    (dependencyQueue <|> findLeastLoadedSameClassQueue graph analysis assignments topology selected
      task.queue.requiredCapabilities hint.allowCrossFamilySameClassQueueRouting
      hint.preferNonPrimarySameClassQueue).getD selected
  else selected

/-- The queue of a task before overrides and timing: the requested one, or one of its class. -/
def staticQueue (task : GpuTaskGraphTaskView) :
    Option (GpuPhysicalQueueInfo × GpuTaskQueueAssignmentReason) :=
  (selectQueue topology task).map fun (initial, reason) =>
    let selected := routeSameClass graph analysis assignments topology task initial
    (selected, if selected ≠ initial then .sameClassRouting else reason)

end SameClass

/-! ## Timing routes -/

/-- The task opts into routing by measured times. -/
def allowsTimingFeedbackRouting (task : GpuTaskGraphTaskView) : Bool :=
  task.scheduling.allowTimingFeedbackRouting
    && task.scheduling.allowSameClassQueueRouting
    && task.scheduling.overlapPreferred
    && !task.scheduling.avoidQueueCrossing

/-- Feedback may move the task to the candidate. -/
def isLegalTimingFeedbackRoute (task : GpuTaskGraphTaskView)
    (incumbent candidate : GpuPhysicalQueueInfo) : Bool :=
  allowsTimingFeedbackRouting task
    && candidate.queueClass == incumbent.queueClass
    && (candidate.familyIndex == incumbent.familyIndex
      || task.scheduling.allowCrossFamilySameClassQueueRouting)
    && hasCapabilities candidate.capabilities task.queue.requiredCapabilities

/-- The key of a task on a queue class. -/
def timingKeyOf (task : GpuTaskGraphTaskView) (queueClass : CommandQueue) : GpuTaskTimingKey where
  task := task.identity
  variant := task.timing.variant
  resolutionClass := task.timing.resolutionClass
  queue := queueClass

/-- `Limit<i32>::s_Max`. -/
def i32Max : ℤ := 2 ^ 31 - 1

/-- `Limit<i32>::s_Min`. -/
def i32Min : ℤ := -2 ^ 31

/-- A term that fits 32 bits. -/
def saturateQueueScoreTerm (value : ℕ) : ℤ :=
  if i32Max < value then i32Max else value

/-- The terms of a queue's score. -/
structure GpuQueueAssignmentScore where
  preference : ℤ := 0
  overlap : ℤ := 0
  queueLoad : ℤ := 0
  incomingCrossings : ℤ := 0
  outgoingCrossings : ℤ := 0
  ownershipTransfers : ℤ := 0
  deriving DecidableEq, Repr, Inhabited

/-- The benefits less the costs, within 32 bits. -/
def GpuQueueAssignmentScore.total (score : GpuQueueAssignmentScore) : ℤ :=
  let total := score.preference + score.overlap - score.queueLoad - score.incomingCrossings
    - score.outgoingCrossings - score.ownershipTransfers
  if total < i32Min then i32Min else if i32Max < total then i32Max else total

/-- The score of a candidate against the incumbent. -/
def buildTimingFeedbackScore (graph : GpuTaskGraph) (analysis : GpuTaskGraphAnalysis)
    (assignments : List GpuTaskQueueAssignment) (task : GpuTaskGraphTaskView)
    (incumbent candidate : GpuPhysicalQueueInfo) : GpuQueueAssignmentScore where
  preference := if candidate.id == incumbent.id then 1 else 0
  overlap := if candidate.id != incumbent.id && task.scheduling.overlapPreferred then 1 else 0
  queueLoad := saturateQueueScoreTerm <| assignments.foldl
    (fun load assignment =>
      if assignment.queue ≠ candidate.id then load
      else saturatingAdd load (queueCostWeight (graph.taskAt assignment.task.index).scheduling.cost))
    0
  incomingCrossings := saturateQueueScoreTerm <| analysis.edges.countP fun edge =>
    edge.consumer == task.id
      && (findQueueAssignment assignments edge.producer).any (·.queue != candidate.id)

section Timing

variable {F : Type} [F64 F]

/-- The history and policy, if both can be used. -/
def hasUsableTimingFeedback (options : GpuTaskGraphQueueAssignmentOptions F)
    (deviceGeneration : ℕ) :
    Option (GpuTaskTimingHistorySnapshot F × GpuTaskTimingFeedbackPolicy F) := do
  let policy ← options.timingFeedbackPolicy
  let history ← options.timingHistory
  if policy.enabled && policy.valid && history.valid
      && history.deviceGeneration == deviceGeneration then some (history, policy)
  else none

variable (graph : GpuTaskGraph) (analysis : GpuTaskGraphAnalysis)
  (assignments : List GpuTaskQueueAssignment) (topology : GpuTaskGraphQueueTopology)
  (task : GpuTaskGraphTaskView) (incumbent : GpuPhysicalQueueInfo) (key : GpuTaskTimingKey)
  (historySnapshot : GpuTaskTimingHistorySnapshot F) (policy : GpuTaskTimingFeedbackPolicy F)
  (frameIndex : ℕ)

/-- The best route found so far with its history. -/
structure TimingRoute (F : Type) where
  queue : GpuPhysicalQueueInfo
  history : GpuTaskTimingHistory F
  score : GpuQueueAssignmentScore

/-- The candidate is faster than the best route so far, or as fast with a better score. -/
def TimingRoute.beats (candidate : TimingRoute F) : Option (TimingRoute F) → Bool
  | none => true
  | some result =>
      F64.lt candidate.history.averageSeconds result.history.averageSeconds
        || (F64.eq candidate.history.averageSeconds result.history.averageSeconds
          && (decide (result.score.total < candidate.score.total)
            || (candidate.score.total == result.score.total
              && isBetterQueue candidate.queue (some result.queue))))

/-- A candidate of `FindTimingFeedbackQueue`: another legal route that the policy lets the task
switch to. -/
def timingCandidate (incumbentHistory : GpuTaskTimingHistory F)
    (assignmentState : GpuTaskTimingAssignmentState) (candidate : GpuPhysicalQueueInfo) :
    Option (TimingRoute F) :=
  if candidate.id == incumbent.id || !isLegalTimingFeedbackRoute task incumbent candidate then none
  else
    (historySnapshot.find key candidate.id).bind fun history =>
      if !gpuTaskTimingFeedbackCanSwitch policy incumbentHistory history assignmentState
          incumbent.id candidate.id frameIndex then none
      else
        some { queue := candidate, history,
               score := buildTimingFeedbackScore graph analysis assignments task incumbent candidate }

/-- The queue that measured times prefer. -/
def findTimingFeedbackQueue : Option GpuPhysicalQueueInfo := do
  let incumbentHistory ← historySnapshot.find key incumbent.id
  let assignmentState ← historySnapshot.findAssignment key
  (topology.foldl
    (fun best candidate =>
      match timingCandidate graph analysis assignments task incumbent key historySnapshot policy
          frameIndex incumbentHistory assignmentState candidate with
      | none => best
      | some route => if route.beats best then some route else best)
    none).map (·.queue)

/-- Accepted samples of the key on a queue. -/
def sampleCountFor (queue : GpuPhysicalQueueInfo) : ℕ :=
  match historySnapshot.find key queue.id with
  | none => 0
  | some history => history.sampleCount

/-- The queue to probe in a calibration frame; returning the incumbent reserves the frame for a
baseline sample. -/
def findTimingFeedbackCalibrationQueue : Option GpuPhysicalQueueInfo :=
  if policy.calibrationIntervalFrames = 0 ∨ frameIndex % policy.calibrationIntervalFrames ≠ 0
      ∨ allowsTimingFeedbackRouting task = false then none
  else
    let needed := topology.filter fun candidate =>
      candidate.id != incumbent.id && isLegalTimingFeedbackRoute task incumbent candidate
        && decide (sampleCountFor key historySnapshot candidate < policy.minimumSampleCount)
    let result := needed.foldl
      (fun result candidate =>
        let candidateSampleCount := sampleCountFor key historySnapshot candidate
        let resultSampleCount := sampleCountFor key historySnapshot result
        if candidateSampleCount < resultSampleCount
            ∨ (candidateSampleCount = resultSampleCount
              ∧ isBetterQueue candidate (some result) = true) then candidate
        else result) incumbent
    if sampleCountFor key historySnapshot incumbent < policy.minimumSampleCount ∨ needed ≠ [] then
      some result
    else none

end Timing

/-! ## The assignment -/

section Assign

variable {F : Type} [F64 F] (options : GpuTaskGraphQueueAssignmentOptions F)
  (graph : GpuTaskGraph) (analysis : GpuTaskGraphAnalysis) (topology : GpuTaskGraphQueueTopology)

/-- Every queue of a valid topology has the device generation of the first one. -/
def topologyGeneration : ℕ := (topology.headD {}).id.deviceGeneration

/-- The queue after overrides, calibration and timing history; an illegal override fails. -/
def routeByTiming (assignments : List GpuTaskQueueAssignment) (task : GpuTaskGraphTaskView)
    (selected : GpuPhysicalQueueInfo) : Option GpuPhysicalQueueInfo :=
  let timingKey := timingKeyOf task selected.queueClass
  match findGpuTaskTimingQueueOverride options.timingQueueOverrides timingKey with
  | some timingOverride =>
      (topology.find? (·.id == timingOverride.queue)).filter fun forcedQueue =>
        isLegalTimingFeedbackRoute task selected forcedQueue
  | none =>
      match hasUsableTimingFeedback options (topologyGeneration topology) with
      | none => some selected
      | some (history, policy) =>
          match findTimingFeedbackCalibrationQueue topology task selected timingKey history policy
              options.timingFrameIndex with
          | some calibrationQueue => some calibrationQueue
          | none =>
              some ((findTimingFeedbackQueue graph analysis assignments topology task selected
                timingKey history policy options.timingFrameIndex).getD selected)

/-- One task of the assignment loop, given the assignments made before it. -/
def assignTask (assignments : List GpuTaskQueueAssignment) (taskID : GpuTaskId) :
    Except GpuTaskQueueAssignmentDiagnostic GpuTaskQueueAssignment :=
  let task := graph.taskAt taskID.index
  let fail (status : GpuTaskGraphQueueAssignmentStatus) : GpuTaskQueueAssignmentDiagnostic :=
    { status, task := task.id, requiredCapabilities := task.queue.requiredCapabilities }
  match staticQueue graph analysis assignments topology task with
  | none => .error (fail .noCompatibleQueue)
  | some (selected, reason) =>
      match routeByTiming options graph analysis topology assignments task selected with
      | none => .error (fail .invalidTimingFeedback)
      | some queue =>
          .ok { task := task.id
                queue := queue.id
                queueClass := queue.queueClass
                reason := if queue ≠ selected then .sameClassRouting else reason
                dedicated := queue.dedicated }

/-- The assignment loop. -/
def assignTasks (assignments : List GpuTaskQueueAssignment) :
    List GpuTaskId → Except GpuTaskQueueAssignmentDiagnostic (List GpuTaskQueueAssignment)
  | [] => .ok assignments
  | taskID :: rest =>
      match assignTask options graph analysis topology assignments taskID with
      | .error diagnostic => .error diagnostic
      | .ok assignment => assignTasks (assignments ++ [assignment]) rest

/-- The checks before the loop. -/
def queueAssignmentDiagnostic : Option GpuTaskGraphQueueAssignmentStatus :=
  if !analysis.valid then some .invalidGraphAnalysis
  else if !isValidQueueTopology topology then some .invalidQueueTopology
  else if options.timingFeedbackPolicy.any fun policy => policy.enabled && !policy.valid then
    some .invalidTimingFeedback
  else if !validQueueOverrides (topologyGeneration topology) [] options.timingQueueOverrides then
    some .invalidTimingFeedback
  else none

/-- `GpuTaskGraphCompiler::assignQueues`. -/
def assignQueues : Except GpuTaskQueueAssignmentDiagnostic GpuTaskGraphQueueAssignments :=
  match queueAssignmentDiagnostic options analysis topology with
  | some status => .error { status }
  | none =>
      match assignTasks options graph analysis topology [] analysis.topologicalOrder with
      | .error diagnostic => .error diagnostic
      | .ok assignments => .ok { assignments, generation := graph.generation }

end Assign

end NwbLot.TaskGraph
