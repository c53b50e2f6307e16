import NwbLot.Library.Runs
import NwbLot.TaskGraph.QueueLegality

/-!
# Damping of adaptive routes

The closed loop of queue assignment and the timing history store: every frame records samples of
routes accepted earlier, assigns queues from a snapshot of the store, and notes the routes it
accepted.  The policy lets a task leave its static queue only when enough frames have passed since
its last accepted switch.  Nothing delays the way back, and a switch that was not accepted leaves no
trace; the changes are damped in the runs that meet neither.
-/

namespace NwbLot.TaskGraph

open Runs

variable {F : Type} [F64 F]

/-! ## Accepted routes of a key -/

/-- The last accepted queue of a key, the frame it was last accepted in and the frame it was
switched to. -/
structure AcceptedRoute where
  queue : GpuPhysicalQueueId
  acceptedAt : ℕ
  switchedAt : ℕ
  deriving DecidableEq, Repr

namespace GpuTaskTimingHistoryStore

/-- The accepted route of a key. -/
def routeOf (store : GpuTaskTimingHistoryStore F) (key : GpuTaskTimingKey) :
    Option AcceptedRoute :=
  (store.findAssignment key).map fun assignment =>
    ⟨assignment.lastAcceptedQueue, assignment.lastAcceptedFrameIndex,
      assignment.lastSwitchFrameIndex⟩

/-- What noting a route does to the route of its key. -/
def noteRoute (queue : GpuPhysicalQueueId) (frameIndex : ℕ) :
    Option AcceptedRoute → AcceptedRoute
  | none => ⟨queue, frameIndex, frameIndex⟩
  | some route =>
      if frameIndex < route.acceptedAt ∨ (frameIndex = route.acceptedAt ∧ queue ≠ route.queue) then
        route
      else ⟨queue, frameIndex, if queue ≠ route.queue then frameIndex else route.switchedAt⟩

/-- The store takes a route of the key on the queue. -/
def Takes (store : GpuTaskTimingHistoryStore F) (key : GpuTaskTimingKey)
    (queue : GpuPhysicalQueueId) : Prop :=
  key.valid = true ∧ queue.valid = true ∧
    (store.deviceGeneration = 0 ∨ store.deviceGeneration = queue.deviceGeneration)

omit [F64 F] in
lemma find?_putAssignment (assignment : GpuTaskTimingAssignmentState)
    (assignments : List GpuTaskTimingAssignmentState) (key : GpuTaskTimingKey) :
    (putAssignment assignment assignments).find? (·.key == key) =
      if assignment.key = key then some assignment else assignments.find? (·.key == key) := by
  induction assignments with
  | nil =>
    by_cases hkey : assignment.key = key <;> simp [putAssignment, hkey]
  | cons existing rest ih =>
    rw [putAssignment]
    by_cases hsame : existing.key = assignment.key
    · rw [if_pos hsame]
      by_cases hkey : assignment.key = key
      · simp [hkey]
      · simp [hkey, hsame]
    · rw [if_neg hsame, List.find?_cons, ih]
      by_cases hkey : assignment.key = key
      · have hother : (existing.key == key) = false := by
          rw [← hkey]
          simpa using hsame
        simp [hkey, hother]
      · rw [List.find?_cons]
        by_cases hother : existing.key = key
        · simp [hkey, hother]
        · have hskip : (existing.key == key) = false := by simpa using hother
          simp [hkey, hskip]

omit [F64 F] in
lemma routeOf_put (store : GpuTaskTimingHistoryStore F) (assignment : GpuTaskTimingAssignmentState)
    (key : GpuTaskTimingKey) :
    ({ store with assignments := putAssignment assignment store.assignments }
        : GpuTaskTimingHistoryStore F).routeOf key =
      if assignment.key = key then
        some ⟨assignment.lastAcceptedQueue, assignment.lastAcceptedFrameIndex,
          assignment.lastSwitchFrameIndex⟩
      else store.routeOf key := by
  rw [routeOf, findAssignment, find?_putAssignment, apply_ite (Option.map _)]
  rfl

omit [F64 F] in
lemma noteChecked_spec (store : GpuTaskTimingHistoryStore F) (key : GpuTaskTimingKey)
    (queue : GpuPhysicalQueueId) (frameIndex : ℕ) :
    (store.noteChecked key queue frameIndex).1.deviceGeneration = store.deviceGeneration ∧
    ∀ other, (store.noteChecked key queue frameIndex).1.routeOf other =
      if key = other then some (noteRoute queue frameIndex (store.routeOf key))
      else store.routeOf other := by
  cases hfound : store.findAssignment key with
  | none =>
    have hroute : store.routeOf key = none := by rw [routeOf, hfound]; rfl
    simp only [noteChecked, hfound, hroute]
    exact ⟨trivial, fun other => routeOf_put store _ other⟩
  | some assignment =>
    have hassignment : assignment.key = key := by simpa using List.find?_some hfound
    have hroute : store.routeOf key = some ⟨assignment.lastAcceptedQueue,
        assignment.lastAcceptedFrameIndex, assignment.lastSwitchFrameIndex⟩ := by
      rw [routeOf, hfound]
      rfl
    have hkept : ∀ other, store.routeOf other =
        if key = other then store.routeOf key else store.routeOf other := by
      intro other
      split
      · next hother => rw [hother]
      · rfl
    simp only [noteChecked, hfound]
    split
    · next hlate =>
        refine ⟨rfl, fun other => ?_⟩
        rw [hroute, noteRoute, if_pos (Or.inl hlate), ← hroute, ← hkept]
    · next hlate =>
        split
        · next hother =>
            refine ⟨rfl, fun other => ?_⟩
            rw [hroute, noteRoute, if_pos (Or.inr hother), ← hroute, ← hkept]
        · next hnew =>
            refine ⟨rfl, fun other => ?_⟩
            rw [routeOf_put, hroute, noteRoute, if_neg (not_or.2 ⟨hlate, hnew⟩)]
            show (if assignment.key = other then _ else _) = _
            rw [hassignment]
            rfl

variable {store : GpuTaskTimingHistoryStore F} {queue : GpuPhysicalQueueId}

omit [F64 F] in
/-- A route the store does not take leaves it as it is. -/
lemma noteAcceptedAssignment_of_not_takes {key : GpuTaskTimingKey} (h : ¬store.Takes key queue)
    (frameIndex : ℕ) : (store.noteAcceptedAssignment key queue frameIndex).1 = store := by
  rw [noteAcceptedAssignment]
  split
  · rfl
  · next hvalid =>
      simp only [Bool.or_eq_true, Bool.not_eq_true', not_or, Bool.not_eq_false] at hvalid
      obtain ⟨hopen, hother⟩ := not_or.1 fun hok => h ⟨hvalid.1, hvalid.2, hok⟩
      have hopened : store.openFor queue = store := by rw [openFor, if_neg hopen]
      rw [hopened, if_pos hother]

omit [F64 F] in
/-- A route the store takes changes the route of its key only. -/
lemma noteAcceptedAssignment_of_takes {key : GpuTaskTimingKey} (h : store.Takes key queue)
    (frameIndex : ℕ) :
    (store.noteAcceptedAssignment key queue frameIndex).1.deviceGeneration
      = queue.deviceGeneration ∧
    ∀ other, (store.noteAcceptedAssignment key queue frameIndex).1.routeOf other =
      if key = other then some (noteRoute queue frameIndex (store.routeOf key))
      else store.routeOf other := by
  obtain ⟨hkey, hqueue, hgeneration⟩ := h
  have hdevice : (store.openFor queue).deviceGeneration = queue.deviceGeneration := by
    rw [openFor]
    split
    · rfl
    · next hopen => exact hgeneration.resolve_left hopen
  have hroutes : ∀ other, (store.openFor queue).routeOf other = store.routeOf other := by
    intro other
    rw [openFor]
    split <;> rfl
  have hnote : store.noteAcceptedAssignment key queue frameIndex
      = (store.openFor queue).noteChecked key queue frameIndex := by
    simp [noteAcceptedAssignment, hkey, hqueue, hdevice]
  obtain ⟨hkeeps, hspec⟩ := noteChecked_spec (store.openFor queue) key queue frameIndex
  rw [hnote]
  refine ⟨hkeeps.trans hdevice, fun other => ?_⟩
  rw [hspec other, hroutes key, hroutes other]

/-! ## The loop -/

/-- What a store knows about a noted route: it refuses it for good, or has accepted its key at
least as late. -/
def Settled (store : GpuTaskTimingHistoryStore F)
    (noted : GpuTaskTimingKey × GpuPhysicalQueueId × ℕ) : Prop :=
  ¬store.Takes noted.1 noted.2.1 ∨
    ∃ route, store.routeOf noted.1 = some route ∧ noted.2.2 ≤ route.acceptedAt

end GpuTaskTimingHistoryStore

open GpuTaskTimingHistoryStore

/-- A measured duration of an accepted route. -/
structure TimingSample (F : Type) where
  key : GpuTaskTimingKey
  queue : GpuPhysicalQueueId
  durationSeconds : F
  sourceFrameIndex : ℕ

/-- Where and when the sample was taken. -/
def TimingSample.route (sample : TimingSample F) : GpuTaskTimingKey × GpuPhysicalQueueId × ℕ :=
  (sample.key, sample.queue, sample.sourceFrameIndex)

/-- One frame: the samples recorded before its compile, the compiled graph with the task in
question, and the tasks whose packets were accepted, in the order of acceptance. -/
structure TimedFrame (F : Type) where
  samples : List (TimingSample F)
  graph : GpuTaskGraph
  analysis : GpuTaskGraphAnalysis
  task : GpuTaskId
  frameIndex : ℕ
  accepted : List GpuTaskId

/-- The store, the assigned queues of the task so far, every route noted so far, and the last frame
with the store its queues were assigned from. -/
structure TimingLoop (F : Type) where
  store : GpuTaskTimingHistoryStore F
  routes : List (ℕ × GpuPhysicalQueueId) := []
  noted : List (GpuTaskTimingKey × GpuPhysicalQueueId × ℕ) := []
  last : Option (GpuTaskTimingHistoryStore F × TimedFrame F) := none

/-- A call that filled the store before the loop began. -/
inductive HistoryCall (F : Type)
  | note (key : GpuTaskTimingKey) (queue : GpuPhysicalQueueId) (sourceFrameIndex : ℕ)
  | sample (measured : TimingSample F)

/-- What the loop fixes: the topology, the overrides and the policy. -/
structure TimingSetup (F : Type) where
  topology : GpuTaskGraphQueueTopology
  overrides : List GpuTaskTimingQueueOverride
  policy : GpuTaskTimingFeedbackPolicy F

section Loop

variable (setup : TimingSetup F)

/-- The samples recorded before a compile. -/
def recordSamples (store : GpuTaskTimingHistoryStore F) (samples : List (TimingSample F)) :
    GpuTaskTimingHistoryStore F :=
  samples.foldl
    (fun store sample =>
      (store.recordSample sample.key sample.queue sample.durationSeconds
        sample.sourceFrameIndex).1) store

/-- The store after a call. -/
def HistoryCall.apply (store : GpuTaskTimingHistoryStore F) :
    HistoryCall F → GpuTaskTimingHistoryStore F
  | .note key queue sourceFrameIndex =>
      (store.noteAcceptedAssignment key queue sourceFrameIndex).1
  | .sample measured =>
      (store.recordSample measured.key measured.queue measured.durationSeconds
        measured.sourceFrameIndex).1

/-- The routes a call notes; a sample of no finite positive duration is ignored. -/
def HistoryCall.noted : HistoryCall F → List (GpuTaskTimingKey × GpuPhysicalQueueId × ℕ)
  | .note key queue sourceFrameIndex => [(key, queue, sourceFrameIndex)]
  | .sample measured =>
      if isFinitePositiveDuration measured.durationSeconds then [measured.route] else []

/-- The loop begins with whatever earlier calls left in the store. -/
def startLoop (maximumSamplesPerHistory : ℕ) (calls : List (HistoryCall F)) : TimingLoop F where
  store := calls.foldl HistoryCall.apply (GpuTaskTimingHistoryStore.create maximumSamplesPerHistory)
  noted := calls.flatMap HistoryCall.noted

/-- The options of a compile that uses a snapshot of the store. -/
def compileOptions (store : GpuTaskTimingHistoryStore F) (frameIndex : ℕ) :
    GpuTaskGraphQueueAssignmentOptions F where
  timingHistory := some store.snapshot
  timingFeedbackPolicy := some setup.policy
  timingQueueOverrides := setup.overrides
  timingFrameIndex := frameIndex

/-- The assignments of a frame. -/
def frameAssignments (loop : TimingLoop F) (frame : TimedFrame F) :
    Option (List GpuTaskQueueAssignment) :=
  (assignQueues (compileOptions setup (recordSamples loop.store frame.samples) frame.frameIndex)
    frame.graph frame.analysis setup.topology).toOption.map (·.assignments)

/-- The routes of the accepted tasks. -/
def acceptedRoutes (frame : TimedFrame F) (assignments : List GpuTaskQueueAssignment) :
    List (GpuTaskTimingKey × GpuPhysicalQueueId) :=
  frame.accepted.filterMap fun task =>
    (findQueueAssignment assignments task).map fun assignment =>
      (timingKeyOf (frame.graph.taskAt task.index) assignment.queueClass, assignment.queue)

/-- The routes of a frame noted in order. -/
def noteRoutes (frameIndex : ℕ) (store : GpuTaskTimingHistoryStore F)
    (routes : List (GpuTaskTimingKey × GpuPhysicalQueueId)) : GpuTaskTimingHistoryStore F :=
  routes.foldl (fun store route => (store.noteAcceptedAssignment route.1 route.2 frameIndex).1) store

/-- One frame of the loop; a failing compile is no frame. -/
def timingStep (loop : TimingLoop F) (frame : TimedFrame F) : Option (TimingLoop F) := do
  let assignments ← frameAssignments setup loop frame
  let assignment ← findQueueAssignment assignments frame.task
  let routes := acceptedRoutes frame assignments
  some
    { store := noteRoutes frame.frameIndex (recordSamples loop.store frame.samples) routes
      routes := loop.routes ++ [(frame.frameIndex, assignment.queue)]
      noted := loop.noted ++ routes.map fun route => (route.1, route.2, frame.frameIndex)
      last := some (recordSamples loop.store frame.samples, frame) }

/-- The assignments made before a task. -/
def priorAssignments (assignments : List GpuTaskQueueAssignment) (task : GpuTaskId) :
    List GpuTaskQueueAssignment :=
  assignments.takeWhile (·.task != task)

/-- A frame of the runs in question: later than the frames before it, with samples of noted routes,
and with the task statically on the same queue, without an override. -/
def Admitted (key : GpuTaskTimingKey) (static : GpuPhysicalQueueInfo) (loop : TimingLoop F)
    (frame : TimedFrame F) : Prop :=
  (∀ route ∈ loop.routes, route.1 < frame.frameIndex) ∧
  (∀ sample ∈ frame.samples, sample.route ∈ loop.noted) ∧
  timingKeyOf (frame.graph.taskAt frame.task.index) static.queueClass = key ∧
  findGpuTaskTimingQueueOverride setup.overrides key = none ∧
  ∀ assignments ∈ frameAssignments setup loop frame,
    (staticQueue frame.graph frame.analysis (priorAssignments assignments frame.task) setup.topology
      (frame.graph.taskAt frame.task.index)).map (·.1) = some static

/-- The frames in which the assigned queue differs from that of the frame before. -/
def changeFrames : List (ℕ × GpuPhysicalQueueId) → List ℕ
  | [] => []
  | [_] => []
  | previous :: route :: rest =>
      if previous.2 ≠ route.2 then route.1 :: changeFrames (route :: rest)
      else changeFrames (route :: rest)

/-- Any two changes are far enough apart. -/
def Damped (minimumFramesBetweenSwitches : ℕ) (routes : List (ℕ × GpuPhysicalQueueId)) : Prop :=
  (changeFrames routes).Pairwise fun earlier later => earlier + minimumFramesBetweenSwitches ≤ later

/-- A queue that the switch test lets the task take, with the measured average there. -/
structure OfferedRoute (F : Type) where
  queue : GpuPhysicalQueueId
  averageSeconds : F

/-- The route to a candidate: legal, measured, and allowed by the switch test. -/
def offeredRoute (key : GpuTaskTimingKey) (static : GpuPhysicalQueueInfo)
    (task : GpuTaskGraphTaskView) (history : GpuTaskTimingHistorySnapshot F)
    (policy : GpuTaskTimingFeedbackPolicy F) (frameIndex : ℕ) (candidate : GpuPhysicalQueueInfo) :
    Option (OfferedRoute F) := do
  let staticHistory ← history.find key static.id
  let state ← history.findAssignment key
  let candidateHistory ← history.find key candidate.id
  if candidate.id != static.id && isLegalTimingFeedbackRoute task static candidate
      && gpuTaskTimingFeedbackCanSwitch policy staticHistory candidateHistory state static.id
        candidate.id frameIndex then
    some { queue := candidate.id, averageSeconds := candidateHistory.averageSeconds }
  else none

/-- The routes off the static queue that a store offers the task of a frame. -/
def offeredRoutes (key : GpuTaskTimingKey) (static : GpuPhysicalQueueInfo)
    (store : GpuTaskTimingHistoryStore F) (frame : TimedFrame F) : List (OfferedRoute F) :=
  match hasUsableTimingFeedback (compileOptions setup store frame.frameIndex)
      (topologyGeneration setup.topology) with
  | none => []
  | some (history, policy) => setup.topology.filterMap (offeredRoute key static
      (frame.graph.taskAt frame.task.index) history policy frame.frameIndex)

/-- The route is strictly faster than those to other queues. -/
def Outruns (offered : List (OfferedRoute F)) (route : OfferedRoute F) : Prop :=
  ∀ other ∈ offered, other.queue ≠ route.queue →
    F64.lt route.averageSeconds other.averageSeconds = true ∧
      F64.lt other.averageSeconds route.averageSeconds = false ∧
      F64.eq other.averageSeconds route.averageSeconds = false

/-- After a frame that offered to leave the static queue, the store either has another queue
accepted last and the dwell since that switch is over, or it still has the static queue and the
fastest offer leads where the last one led. -/
def KeepsSwitch (key : GpuTaskTimingKey) (static : GpuPhysicalQueueInfo) (loop : TimingLoop F)
    (frame : TimedFrame F) : Prop :=
  ∀ last ∈ loop.last, offeredRoutes setup key static last.1 last.2 ≠ [] →
    ∃ route ∈ (recordSamples loop.store frame.samples).routeOf key,
      if route.queue = static.id then
        ∃ before ∈ offeredRoutes setup key static last.1 last.2,
          ∃ now ∈ offeredRoutes setup key static (recordSamples loop.store frame.samples) frame,
            before.queue = now.queue ∧
              Outruns (offeredRoutes setup key static last.1 last.2) before ∧
              Outruns (offeredRoutes setup key static (recordSamples loop.store frame.samples)
                frame) now
      else route.switchedAt + setup.policy.minimumFramesBetweenSwitches ≤ frame.frameIndex

end Loop

/-! ## One compile -/

section Compile

variable {options : GpuTaskGraphQueueAssignmentOptions F} {graph : GpuTaskGraph}
  {analysis : GpuTaskGraphAnalysis} {topology : GpuTaskGraphQueueTopology}

variable {assignments : List GpuTaskQueueAssignment}

/-- Every assignment was made from the ones before it. -/
lemma assignTask_of_assignTasks {result : List GpuTaskQueueAssignment} {order : List GpuTaskId}
    (h : assignTasks options graph analysis topology assignments order = .ok result) :
    ∃ made, result = assignments ++ made ∧ ∀ front assignment back,
      made = front ++ assignment :: back →
      assignTask options graph analysis topology (assignments ++ front) assignment.task
        = .ok assignment := by
  induction order generalizing assignments with
  | nil =>
    cases h
    exact ⟨[], by simp, fun front assignment back hsplit => absurd hsplit (by simp)⟩
  | cons taskID rest ih =>
    rw [assignTasks] at h
    split at h
    · cases h
    · next assignment hassigned =>
        obtain ⟨made, rfl, hmade⟩ := ih h
        refine ⟨assignment :: made, by simp, ?_⟩
        intro front other back hsplit
        cases front with
        | nil =>
          obtain ⟨rfl, -⟩ := List.cons.inj hsplit
          obtain ⟨htask, -⟩ := legallyAssigned_of_assignTask hassigned
          rw [List.append_nil, htask]
          exact hassigned
        | cons first front =>
          obtain ⟨rfl, hrest⟩ := List.cons.inj hsplit
          have hlater := hmade front other back hrest
          rwa [List.append_assoc] at hlater

lemma assignTask_of_find {result : GpuTaskGraphQueueAssignments}
    (h : assignQueues options graph analysis topology = .ok result) {task : GpuTaskId}
    {assignment : GpuTaskQueueAssignment}
    (hfound : findQueueAssignment result.assignments task = some assignment) :
    assignment.task = task ∧ assignTask options graph analysis topology
      (priorAssignments result.assignments task) task = .ok assignment := by
  rw [assignQueues] at h
  split at h
  · cases h
  · split at h
    · cases h
    · next assignments hassigned =>
        cases h
        obtain ⟨made, hresult, hmade⟩ := assignTask_of_assignTasks hassigned
        rw [List.nil_append] at hresult
        subst hresult
        obtain ⟨hself, front, back, hsplit, hfront⟩ := List.find?_eq_some_iff_append.1 hfound
        obtain rfl : assignment.task = task := by simpa using hself
        refine ⟨rfl, ?_⟩
        change assignments = front ++ assignment :: back at hsplit
        have hprior : priorAssignments assignments assignment.task = front := by
          rw [priorAssignments, hsplit, List.takeWhile_append_of_pos]
          · simp
          · intro other hother
            simpa using hfront other hother
        rw [hprior]
        exact hmade front assignment back hsplit

variable {key : GpuTaskTimingKey} {static : GpuPhysicalQueueInfo}
  {history : GpuTaskTimingHistorySnapshot F} {policy : GpuTaskTimingFeedbackPolicy F}
  {frameIndex : ℕ}

variable {task : GpuTaskGraphTaskView}

/-- An offered route names a queue off the static one, which the store has accepted last and
switched to long enough ago. -/
lemma offeredRoute_spec {candidate : GpuPhysicalQueueInfo} {route : OfferedRoute F}
    (h : offeredRoute key static task history policy frameIndex candidate = some route) :
    route.queue ≠ static.id ∧ (∃ candidateHistory, history.find key route.queue
      = some candidateHistory ∧ candidateHistory.averageSeconds = route.averageSeconds) ∧
    ∃ state, history.findAssignment key = some state ∧ state.lastAcceptedQueue = static.id ∧
      state.lastSwitchFrameIndex + policy.minimumFramesBetweenSwitches ≤ frameIndex := by
  simp only [offeredRoute, Option.bind_eq_bind, Option.bind_eq_some_iff] at h
  obtain ⟨staticHistory, -, state, hstate, candidateHistory, hcandidate, h⟩ := h
  split at h
  · next hchecked =>
      cases h
      simp only [gpuTaskTimingFeedbackCanSwitch, Bool.and_eq_true, beq_iff_eq, bne_iff_ne]
        at hchecked
      obtain ⟨⟨hother, -⟩, ⟨⟨⟨⟨-, hqueue⟩, -⟩, -⟩, -⟩, hdwell⟩ := hchecked
      refine ⟨hother, ⟨candidateHistory, hcandidate, rfl⟩, state, hstate, hqueue, ?_⟩
      simp only [gpuTaskTimingSwitchDwellElapsed] at hdwell
      split at hdwell
      · cases hdwell
      · next hnow =>
          simp only [Bool.or_eq_true, decide_eq_true_eq, not_or, not_lt] at hnow
          have helapsed := of_decide_eq_true hdwell
          omega
  · cases h

variable {state : GpuTaskTimingAssignmentState}

/-- The candidates of the search are the offered routes. -/
lemma offeredRoute_eq (graph : GpuTaskGraph) (analysis : GpuTaskGraphAnalysis)
    (assignments : List GpuTaskQueueAssignment) {staticHistory : GpuTaskTimingHistory F}
    (hstatic : history.find key static.id = some staticHistory)
    (hstate : history.findAssignment key = some state) (candidate : GpuPhysicalQueueInfo) :
    offeredRoute key static task history policy frameIndex candidate
      = (timingCandidate graph analysis assignments task static key history policy frameIndex
          staticHistory state candidate).map fun route =>
        { queue := route.queue.id, averageSeconds := route.history.averageSeconds } := by
  simp only [offeredRoute, timingCandidate, hstatic, hstate, Option.bind_eq_bind, Option.bind_some]
  cases hfound : history.find key candidate.id with
  | none => simp
  | some candidateHistory =>
    by_cases hid : candidate.id = static.id
    · simp [hid]
    · cases hlegal : isLegalTimingFeedbackRoute task static candidate with
      | false => simp
      | true =>
        cases hswitch : gpuTaskTimingFeedbackCanSwitch policy staticHistory candidateHistory state
            static.id candidate.id frameIndex with
        | false => simp [hswitch, hid]
        | true => simp [hswitch, hid]

section Search

variable {assignments : List GpuTaskQueueAssignment} {task : GpuTaskGraphTaskView}
  {static : GpuPhysicalQueueInfo} {key : GpuTaskTimingKey}
  {history : GpuTaskTimingHistorySnapshot F} {policy : GpuTaskTimingFeedbackPolicy F}
  {frameIndex : ℕ}

/-- Routes to one queue have one measured average. -/
lemma averageSeconds_of_offered {o o' : OfferedRoute F}
    (ho : o ∈ topology.filterMap (offeredRoute key static task history policy frameIndex))
    (ho' : o' ∈ topology.filterMap (offeredRoute key static task history policy frameIndex))
    (hqueue : o.queue = o'.queue) : o.averageSeconds = o'.averageSeconds := by
  obtain ⟨c, -, hc⟩ := List.mem_filterMap.1 ho
  obtain ⟨c', -, hc'⟩ := List.mem_filterMap.1 ho'
  obtain ⟨-, ⟨measured, hmeasured, hseconds⟩, -⟩ := offeredRoute_spec hc
  obtain ⟨-, ⟨measured', hmeasured', hseconds'⟩, -⟩ := offeredRoute_spec hc'
  rw [hqueue, hmeasured'] at hmeasured
  obtain rfl := Option.some.inj hmeasured
  exact hseconds.symm.trans hseconds'

variable {staticHistory : GpuTaskTimingHistory F} {state : GpuTaskTimingAssignmentState}

/-- A step of the search. -/
def searchStep (graph : GpuTaskGraph) (analysis : GpuTaskGraphAnalysis)
    (assignments : List GpuTaskQueueAssignment) (task : GpuTaskGraphTaskView)
    (static : GpuPhysicalQueueInfo) (key : GpuTaskTimingKey)
    (history : GpuTaskTimingHistorySnapshot F) (policy : GpuTaskTimingFeedbackPolicy F)
    (frameIndex : ℕ) (staticHistory : GpuTaskTimingHistory F)
    (state : GpuTaskTimingAssignmentState) (best : Option (TimingRoute F))
    (candidate : GpuPhysicalQueueInfo) : Option (TimingRoute F) :=
  match timingCandidate graph analysis assignments task static key history policy frameIndex
      staticHistory state candidate with
  | none => best
  | some route => if route.beats best then some route else best

/-- The found route is an offered one. -/
def TimingRoute.IsOffered (found : TimingRoute F) (offered : List (OfferedRoute F)) : Prop :=
  ∃ o ∈ offered, o.queue = found.queue.id ∧ o.averageSeconds = found.history.averageSeconds

/-- What a step keeps is what it had or an offered route. -/
lemma isOffered_of_searchStep (hstatic : history.find key static.id = some staticHistory)
    (hstate : history.findAssignment key = some state) {candidate : GpuPhysicalQueueInfo}
    (hmem : candidate ∈ topology) {best : Option (TimingRoute F)} {kept : TimingRoute F}
    (h : searchStep graph analysis assignments task static key history policy frameIndex
      staticHistory state best candidate = some kept) :
    best = some kept ∨ kept.IsOffered (topology.filterMap
      (offeredRoute key static task history policy frameIndex)) := by
  rw [searchStep] at h
  split at h
  · exact Or.inl h
  · next found hfound =>
      split at h
      · obtain rfl := Option.some.inj h
        refine Or.inr ⟨⟨found.queue.id, found.history.averageSeconds⟩,
          List.mem_filterMap.2 ⟨candidate, hmem, ?_⟩, rfl, rfl⟩
        rw [offeredRoute_eq graph analysis assignments hstatic hstate, hfound]
        rfl
      · exact Or.inl h

/-- The search ends on an offered route. -/
lemma findTimingFeedbackQueue_offered {queue : GpuPhysicalQueueInfo}
    (h : findTimingFeedbackQueue graph analysis assignments topology task static key history
      policy frameIndex = some queue) :
    ∃ route ∈ topology.filterMap (offeredRoute key static task history policy frameIndex),
      route.queue = queue.id := by
  simp only [findTimingFeedbackQueue, Option.bind_eq_bind, Option.bind_eq_some_iff,
    Option.map_eq_some_iff] at h
  obtain ⟨staticHistory, hstatic, state, hstate, found, hfold, rfl⟩ := h
  obtain ⟨o, ho, hqueue, -⟩ := @OptionList.foldl_best _ _ (searchStep graph analysis assignments
      task static key history policy frameIndex staticHistory state) _ _
    (fun best candidate hmem kept => isOffered_of_searchStep hstatic hstate hmem) _ hfold
  exact ⟨o, ho, hqueue⟩

/-- The search ends on the route that outruns the others. -/
lemma findTimingFeedbackQueue_fastest {offered : List (OfferedRoute F)}
    (hoffered : offered = topology.filterMap
      (offeredRoute key static task history policy frameIndex))
    {route : OfferedRoute F} (hroute : route ∈ offered) (hfast : Outruns offered route) :
    ∃ queue, findTimingFeedbackQueue graph analysis assignments topology task static key history
      policy frameIndex = some queue ∧ queue.id = route.queue := by
  subst hoffered
  obtain ⟨candidate, hmem, hoffer⟩ := List.mem_filterMap.1 hroute
  have hread := hoffer
  simp only [offeredRoute, Option.bind_eq_bind, Option.bind_eq_some_iff] at hread
  obtain ⟨staticHistory, hstatic, state, hstate, -⟩ := hread
  suffices hwins : ∃ winner ∈ topology.foldl (searchStep graph analysis assignments task static key
      history policy frameIndex staticHistory state) none,
      winner.queue.id = route.queue ∧ winner.history.averageSeconds = route.averageSeconds by
    obtain ⟨winner, hwinner, hqueue, -⟩ := hwins
    refine ⟨winner.queue, ?_, hqueue⟩
    simp only [findTimingFeedbackQueue, hstatic, hstate, Option.bind_eq_bind, Option.bind_some]
    exact Option.map_eq_some_iff.2 ⟨winner, hwinner, rfl⟩
  refine OptionList.foldl_best_wins (P := fun found => found.IsOffered (topology.filterMap
    (offeredRoute key static task history policy frameIndex))) ?_ ?_ ?_
  · intro best hbest candidate hmem kept hkept
    exact (isOffered_of_searchStep hstatic hstate hmem hkept).elim (hbest kept) id
  · -- a route to another queue is slower and does not take the place
    rintro winner ⟨hwinnerQueue, hwinnerSeconds⟩ candidate hmem
    rw [searchStep]
    split
    · exact ⟨winner, rfl, hwinnerQueue, hwinnerSeconds⟩
    · next found hfound =>
        have hoffer : offeredRoute key static task history policy frameIndex candidate
            = some ⟨found.queue.id, found.history.averageSeconds⟩ := by
          rw [offeredRoute_eq graph analysis assignments hstatic hstate, hfound]
          rfl
        have ho := List.mem_filterMap.2 ⟨candidate, hmem, hoffer⟩
        by_cases hown : found.queue.id = route.queue
        · split
          · exact ⟨found, rfl, hown, averageSeconds_of_offered ho hroute hown⟩
          · exact ⟨winner, rfl, hwinnerQueue, hwinnerSeconds⟩
        · obtain ⟨-, hslower, hequal⟩ := hfast _ ho hown
          rw [if_neg]
          · exact ⟨winner, rfl, hwinnerQueue, hwinnerSeconds⟩
          · simp [TimingRoute.beats, hwinnerSeconds, hslower, hequal]
  · rw [offeredRoute_eq graph analysis assignments hstatic hstate] at hoffer
    obtain ⟨found, hfound, rfl⟩ := Option.map_eq_some_iff.1 hoffer
    refine ⟨candidate, hmem, fun best hbest => ?_⟩
    simp only [searchStep, hfound]
    split
    · exact ⟨found, rfl, rfl, rfl⟩
    · next hloses =>
        cases best with
        | none => exact absurd rfl hloses
        | some kept =>
          obtain ⟨o, ho, hqueue, hseconds⟩ := hbest kept rfl
          by_cases hown : o.queue = found.queue.id
          · exact ⟨kept, rfl, hqueue.symm.trans hown,
              hseconds.symm.trans (averageSeconds_of_offered ho hroute hown)⟩
          · obtain ⟨hfaster, -, -⟩ := hfast o ho hown
            exact absurd (by simp [TimingRoute.beats, ← hseconds, hfaster]) hloses

end Search

variable {setup : TimingSetup F} {store : GpuTaskTimingHistoryStore F}

/-- What the compile reads of the store. -/
lemma usable_cases {deviceGeneration : ℕ}
    (h : hasUsableTimingFeedback (compileOptions setup store frameIndex) deviceGeneration
      = some (history, policy)) :
    history = store.snapshot ∧ policy = setup.policy ∧
      (store.deviceGeneration ≠ 0 → store.deviceGeneration = deviceGeneration) := by
  simp only [hasUsableTimingFeedback, compileOptions, Option.bind_eq_bind, Option.bind_some] at h
  split at h
  · next hchecked =>
      obtain ⟨rfl, rfl⟩ := Prod.mk.inj (Option.some.inj h)
      refine ⟨rfl, rfl, fun hopen => ?_⟩
      simp only [Bool.and_eq_true, beq_iff_eq] at hchecked
      have hdevice := hchecked.2
      rw [snapshot, if_neg hopen] at hdevice
      exact hdevice
  · cases h

omit [F64 F] in
lemma findAssignment_snapshot (h : store.snapshot.findAssignment key = some state) :
    key.valid = true ∧ store.deviceGeneration ≠ 0 ∧ store.findAssignment key = some state := by
  rw [GpuTaskTimingHistorySnapshot.findAssignment] at h
  split at h
  · cases h
  · next hvalid =>
      simp only [Bool.or_eq_true, Bool.not_eq_true', not_or, Bool.not_eq_false] at hvalid
      have hopen : store.deviceGeneration ≠ 0 := by
        intro hclosed
        rw [snapshot, if_pos hclosed] at hvalid
        exact absurd hvalid.1 (by simp)
      rw [snapshot, if_neg hopen] at h
      exact ⟨hvalid.2, hopen, h⟩

/-- Where routing by timing leads: to the static queue or an offered route, and to the route that
outruns the others. -/
structure TimingChoice (offered : List (OfferedRoute F)) (static queue : GpuPhysicalQueueId) :
    Prop where
  moved : queue ≠ static → ∃ route ∈ offered, route.queue = queue
  fastest : ∀ route ∈ offered, Outruns offered route → queue = route.queue

variable {frame : TimedFrame F}

/-- Without an override and with calibration off, only the history moves a task off its queue. -/
lemma timingChoice_of_routeByTiming {queue : GpuPhysicalQueueInfo}
    (hcalibration : setup.policy.calibrationIntervalFrames = 0)
    (hoverride : findGpuTaskTimingQueueOverride setup.overrides
      (timingKeyOf (frame.graph.taskAt frame.task.index) static.queueClass) = none)
    (h : routeByTiming (compileOptions setup store frame.frameIndex) frame.graph frame.analysis
      setup.topology assignments (frame.graph.taskAt frame.task.index) static = some queue) :
    TimingChoice (offeredRoutes setup
      (timingKeyOf (frame.graph.taskAt frame.task.index) static.queueClass) static store frame)
      static.id queue.id := by
  have hoverride' : findGpuTaskTimingQueueOverride (compileOptions setup store
      frame.frameIndex).timingQueueOverrides (timingKeyOf (frame.graph.taskAt frame.task.index)
        static.queueClass) = none := hoverride
  simp only [routeByTiming, hoverride'] at h
  rw [offeredRoutes]
  cases husable : hasUsableTimingFeedback (compileOptions setup store frame.frameIndex)
      (topologyGeneration setup.topology) with
  | none =>
    simp only [husable] at h
    cases h
    exact ⟨fun hmoved => absurd rfl hmoved, by simp⟩
  | some usable =>
    obtain ⟨history, policy⟩ := usable
    obtain ⟨-, rfl, -⟩ := usable_cases husable
    have hprobe : findTimingFeedbackCalibrationQueue setup.topology
        (frame.graph.taskAt frame.task.index) static
        (timingKeyOf (frame.graph.taskAt frame.task.index) static.queueClass) history
        setup.policy (compileOptions setup store frame.frameIndex).timingFrameIndex = none := by
      rw [findTimingFeedbackCalibrationQueue, if_pos (Or.inl hcalibration)]
    simp only [husable, hprobe, Option.some.injEq] at h
    refine ⟨fun hmoved => ?_, fun route hroute houtruns => ?_⟩
    · cases hchosen : findTimingFeedbackQueue frame.graph frame.analysis assignments setup.topology
          (frame.graph.taskAt frame.task.index) static
          (timingKeyOf (frame.graph.taskAt frame.task.index) static.queueClass) history setup.policy
          (compileOptions setup store frame.frameIndex).timingFrameIndex with
      | none =>
        rw [hchosen] at h
        exact absurd (congrArg GpuPhysicalQueueInfo.id h.symm) hmoved
      | some chosen =>
        rw [hchosen] at h
        obtain rfl : chosen = queue := h
        exact findTimingFeedbackQueue_offered hchosen
    · obtain ⟨chosen, hchosen, hqueue⟩ := @findTimingFeedbackQueue_fastest _ _
        frame.graph frame.analysis _ _ _ _ _ _ _ _ _ rfl _ hroute houtruns
      have hresult : queue = chosen := by
        rw [← h]
        exact congrArg (·.getD static) hchosen
      rw [hresult, hqueue]

/-- A store offers routes only while it has the static queue accepted last, and after the dwell. -/
lemma route_of_offered {offered : OfferedRoute F}
    (h : offered ∈ offeredRoutes setup key static store frame) :
    offered.queue ≠ static.id ∧ ∃ route, store.routeOf key = some route ∧ route.queue = static.id ∧
      route.switchedAt + setup.policy.minimumFramesBetweenSwitches ≤ frame.frameIndex := by
  rw [offeredRoutes] at h
  split at h
  · cases h
  · next history policy husable =>
      obtain ⟨rfl, rfl, -⟩ := usable_cases husable
      obtain ⟨candidate, -, hcandidate⟩ := List.mem_filterMap.1 h
      obtain ⟨hother, -, state, hstate, hqueue, hdwell⟩ := offeredRoute_spec hcandidate
      obtain ⟨-, -, hfound⟩ := findAssignment_snapshot hstate
      refine ⟨hother, ⟨state.lastAcceptedQueue, state.lastAcceptedFrameIndex,
        state.lastSwitchFrameIndex⟩, ?_, hqueue, hdwell⟩
      rw [routeOf, hfound]
      rfl

end Compile

/-! ## What the store knows -/

section StoreInvariant

variable {noted : List (GpuTaskTimingKey × GpuPhysicalQueueId × ℕ)}
  {store store' : GpuTaskTimingHistoryStore F}

/-- The store agrees with what was noted. -/
structure StoreInv (store : GpuTaskTimingHistoryStore F)
    (noted : List (GpuTaskTimingKey × GpuPhysicalQueueId × ℕ)) : Prop where
  settled : ∀ route ∈ noted, store.Settled route
  closed : store.deviceGeneration = 0 → ∀ key, store.routeOf key = none

/-- Stores that differ in their measured durations only. -/
def SameRoutes (store store' : GpuTaskTimingHistoryStore F) : Prop :=
  store'.deviceGeneration = store.deviceGeneration ∧ ∀ key, store'.routeOf key = store.routeOf key

omit [F64 F] in
lemma StoreInv.congr (h : StoreInv store noted) (hsame : SameRoutes store store') :
    StoreInv store' noted := by
  obtain ⟨hdevice, hroutes⟩ := hsame
  refine ⟨fun route hroute => ?_, ?_⟩
  · have hsettled := h.settled route hroute
    simpa only [Settled, Takes, hdevice, hroutes] using hsettled
  · intro hclosed key
    rw [hroutes key]
    exact h.closed (hdevice ▸ hclosed) key

omit [F64 F] in
lemma le_acceptedAt_noteRoute (queue : GpuPhysicalQueueId) (frameIndex : ℕ)
    (route : Option AcceptedRoute) : frameIndex ≤ (noteRoute queue frameIndex route).acceptedAt := by
  cases route with
  | none => exact le_rfl
  | some route =>
    rw [noteRoute]
    split
    · next hlate => exact hlate.elim le_of_lt fun h => h.1.le
    · exact le_rfl

lemma acceptedAt_le_noteRoute (queue : GpuPhysicalQueueId) (frameIndex : ℕ)
    (route : AcceptedRoute) :
    route.acceptedAt ≤ (noteRoute queue frameIndex (some route)).acceptedAt := by
  rw [noteRoute]
  split
  · exact le_rfl
  · next hnew => exact not_lt.1 (not_or.1 hnew).1

variable {frameIndex : ℕ}

variable {queue : GpuPhysicalQueueId}

/-- Noting a route that is not newer than the last accepted one changes nothing. -/
lemma noteRoute_of_le {route : AcceptedRoute} (h : frameIndex ≤ route.acceptedAt) :
    noteRoute queue frameIndex (some route) = route := by
  rw [noteRoute]
  split
  · rfl
  · next hnew =>
      obtain ⟨hlate, hother⟩ := not_or.1 hnew
      have hnow : frameIndex = route.acceptedAt := le_antisymm h (not_lt.1 hlate)
      have hqueue : queue = route.queue := by
        by_contra hne
        exact hother ⟨hnow, hne⟩
      subst hnow hqueue
      simp

omit [F64 F] in
lemma StoreInv.note (h : StoreInv store noted) (key : GpuTaskTimingKey)
    (queue : GpuPhysicalQueueId) (frameIndex : ℕ) :
    StoreInv (store.noteAcceptedAssignment key queue frameIndex).1
      (noted ++ [(key, queue, frameIndex)]) := by
  by_cases htakes : store.Takes key queue
  · obtain ⟨hdevice, hroutes⟩ := noteAcceptedAssignment_of_takes htakes frameIndex
    have hopen : queue.deviceGeneration ≠ 0 := by
      have hvalid := htakes.2.1
      simp only [GpuPhysicalQueueId.valid, Bool.and_eq_true, bne_iff_ne] at hvalid
      exact hvalid.2
    refine ⟨fun route hroute => ?_, fun hclosed => ?_⟩
    · rcases List.mem_append.1 hroute with hold | hnew
      · rcases h.settled route hold with hrefused | ⟨accepted, haccepted, hle⟩
        · refine Or.inl fun htakes' => hrefused ⟨htakes'.1, htakes'.2.1, ?_⟩
          have hsame : queue.deviceGeneration = route.2.1.deviceGeneration :=
            hdevice ▸ htakes'.2.2.resolve_left (hdevice ▸ hopen)
          exact hsame ▸ htakes.2.2
        · refine Or.inr ?_
          rw [hroutes]
          split
          · next hkey =>
              rw [hkey, haccepted]
              exact ⟨_, rfl, hle.trans (acceptedAt_le_noteRoute queue frameIndex accepted)⟩
          · exact ⟨accepted, haccepted, hle⟩
      · rw [List.mem_singleton.1 hnew]
        refine Or.inr ⟨_, ?_, le_acceptedAt_noteRoute queue frameIndex (store.routeOf key)⟩
        rw [hroutes, if_pos rfl]
    · exact absurd (hdevice ▸ hclosed) hopen
  · rw [noteAcceptedAssignment_of_not_takes htakes]
    refine ⟨fun route hroute => ?_, h.closed⟩
    rcases List.mem_append.1 hroute with hold | hnew
    · exact h.settled route hold
    · rw [List.mem_singleton.1 hnew]
      exact Or.inl htakes

/-- Recording a sample is noting its route, unless the sample is ignored. -/
lemma recordSample_routes (store : GpuTaskTimingHistoryStore F) (sample : TimingSample F) :
    SameRoutes
      (if isFinitePositiveDuration sample.durationSeconds then
        (store.noteAcceptedAssignment sample.key sample.queue sample.sourceFrameIndex).1
      else store)
      (store.recordSample sample.key sample.queue sample.durationSeconds
        sample.sourceFrameIndex).1 := by
  cases hfinite : isFinitePositiveDuration sample.durationSeconds with
  | false =>
    simp only [recordSample, hfinite, Bool.not_false, if_true, Bool.false_eq_true, if_false]
    exact ⟨rfl, fun _ => rfl⟩
  | true =>
    simp only [recordSample, hfinite, Bool.not_true, Bool.false_eq_true, if_false, if_true]
    split
    · exact ⟨rfl, fun _ => rfl⟩
    · exact ⟨rfl, fun _ => rfl⟩

omit [F64 F] in
/-- A route that was noted before is no news to the store. -/
lemma StoreInv.note_again (h : StoreInv store noted) {key : GpuTaskTimingKey}
    (hnoted : (key, queue, frameIndex) ∈ noted) :
    SameRoutes store (store.noteAcceptedAssignment key queue frameIndex).1 := by
  by_cases htakes : store.Takes key queue
  · obtain ⟨hdevice, hroutes⟩ := noteAcceptedAssignment_of_takes htakes frameIndex
    obtain ⟨route, hroute, hle⟩ := (h.settled _ hnoted).resolve_left fun hrefused => hrefused htakes
    have hopen : store.deviceGeneration ≠ 0 := by
      intro hclosed
      rw [h.closed hclosed key] at hroute
      cases hroute
    refine ⟨hdevice.trans (htakes.2.2.resolve_left hopen).symm, fun other => ?_⟩
    rw [hroutes]
    split
    · next hkey => rw [hroute, noteRoute_of_le hle, ← hkey, hroute]
    · rfl
  · rw [noteAcceptedAssignment_of_not_takes htakes]
    exact ⟨rfl, fun _ => rfl⟩

omit [F64 F] in
lemma SameRoutes.trans {store'' : GpuTaskTimingHistoryStore F} (h : SameRoutes store store')
    (h' : SameRoutes store' store'') : SameRoutes store store'' :=
  ⟨h'.1.trans h.1, fun key => (h'.2 key).trans (h.2 key)⟩

/-- Samples of noted routes change measured durations only. -/
lemma StoreInv.recordSamples (h : StoreInv store noted) {samples : List (TimingSample F)}
    (hsamples : ∀ sample ∈ samples, sample.route ∈ noted) :
    SameRoutes store (recordSamples store samples) := by
  induction samples generalizing store with
  | nil => exact ⟨rfl, fun _ => rfl⟩
  | cons sample rest ih =>
    have hsame : SameRoutes store (store.recordSample sample.key sample.queue
        sample.durationSeconds sample.sourceFrameIndex).1 := by
      refine SameRoutes.trans ?_ (recordSample_routes store sample)
      split
      · exact h.note_again (hsamples sample List.mem_cons_self)
      · exact ⟨rfl, fun _ => rfl⟩
    exact hsame.trans (ih (h.congr hsame) fun other hmem =>
      hsamples other (List.mem_cons_of_mem _ hmem))

/-- The earlier calls establish the invariant. -/
lemma storeInv_startLoop (maximumSamplesPerHistory : ℕ) (calls : List (HistoryCall F)) :
    StoreInv (startLoop maximumSamplesPerHistory calls).store
      (startLoop maximumSamplesPerHistory calls).noted := by
  simp only [startLoop]
  induction calls using List.reverseRecOn with
  | nil => exact ⟨by simp, fun _ _ => rfl⟩
  | append_singleton calls call ih =>
    rw [List.foldl_append, List.flatMap_append, List.foldl_cons, List.foldl_nil,
      List.flatMap_singleton]
    cases call with
    | note key queue frameIndex => exact ih.note key queue frameIndex
    | sample measured =>
      refine StoreInv.congr ?_ (recordSample_routes _ measured)
      rw [HistoryCall.noted]
      split
      · exact ih.note _ _ _
      · rw [List.append_nil]
        exact ih

omit [F64 F] in
lemma StoreInv.noteRoutes (h : StoreInv store noted) (frameIndex : ℕ)
    (routes : List (GpuTaskTimingKey × GpuPhysicalQueueId)) :
    StoreInv (noteRoutes frameIndex store routes)
      (noted ++ routes.map fun route => (route.1, route.2, frameIndex)) := by
  induction routes generalizing store noted with
  | nil => simpa [TaskGraph.noteRoutes] using h
  | cons route rest ih =>
    have hrest := ih (h.note route.1 route.2 frameIndex)
    rwa [List.append_assoc] at hrest

/-- A note keeps the queue of a key and the frame it was switched to, or it is a switch. -/
lemma switchedAt_noteRoute (queue : GpuPhysicalQueueId) (frameIndex : ℕ)
    (route : Option AcceptedRoute) :
    (noteRoute queue frameIndex route).switchedAt = frameIndex ∨ ∃ old, route = some old ∧
      old.queue = (noteRoute queue frameIndex route).queue ∧
      old.switchedAt = (noteRoute queue frameIndex route).switchedAt := by
  cases route with
  | none => exact Or.inl rfl
  | some old =>
    rw [noteRoute]
    split
    · exact Or.inr ⟨old, rfl, rfl, rfl⟩
    · by_cases hqueue : queue = old.queue
      · exact Or.inr ⟨old, rfl, hqueue.symm, by simp [hqueue]⟩
      · exact Or.inl (by simp [hqueue])

omit [F64 F] in
/-- So do the notes of a frame. -/
lemma switchedAt_noteRoutes {key : GpuTaskTimingKey}
    {routes : List (GpuTaskTimingKey × GpuPhysicalQueueId)} {route : AcceptedRoute}
    (h : (noteRoutes frameIndex store routes).routeOf key = some route) :
    route.switchedAt = frameIndex ∨ ∃ old, store.routeOf key = some old ∧
      old.queue = route.queue ∧ old.switchedAt = route.switchedAt := by
  induction routes generalizing store with
  | nil => exact Or.inr ⟨route, h, rfl, rfl⟩
  | cons noted rest ih =>
    rcases ih h with hnow | ⟨middle, hmiddle, hqueue, hswitched⟩
    · exact Or.inl hnow
    by_cases htakes : store.Takes noted.1 noted.2
    · rw [(noteAcceptedAssignment_of_takes htakes frameIndex).2] at hmiddle
      split at hmiddle
      · next hkey =>
          obtain rfl := Option.some.inj hmiddle
          rcases switchedAt_noteRoute noted.2 frameIndex (store.routeOf noted.1) with
            hnow | ⟨old, hold, hsameQueue, hsameFrame⟩
          · exact Or.inl (hswitched.symm.trans hnow)
          · exact Or.inr ⟨old, hkey ▸ hold, hsameQueue.trans hqueue, hsameFrame.trans hswitched⟩
      · exact Or.inr ⟨middle, hmiddle, hqueue, hswitched⟩
    · simp only [noteAcceptedAssignment_of_not_takes htakes] at hmiddle
      exact Or.inr ⟨middle, hmiddle, hqueue, hswitched⟩

end StoreInvariant

/-! ## One frame -/

variable {queue : GpuPhysicalQueueInfo}

lemma valid_of_areValidQueues {deviceGeneration : ℕ} {visited queues : GpuTaskGraphQueueTopology}
    (h : areValidQueues deviceGeneration visited queues = true) (hqueue : queue ∈ queues) :
    queue.id.valid = true ∧ queue.id.deviceGeneration = deviceGeneration := by
  induction queues generalizing visited with
  | nil => cases hqueue
  | cons first rest ih =>
    simp only [areValidQueues, Bool.and_eq_true, beq_iff_eq] at h
    obtain ⟨⟨⟨hfirst, hdevice⟩, -⟩, hrest⟩ := h
    rcases List.mem_cons.1 hqueue with rfl | hmem
    · simp only [isValidQueueInfo, Bool.and_eq_true] at hfirst
      exact ⟨hfirst.1.1.1.1.1, hdevice⟩
    · exact ih hrest hmem

lemma valid_of_isValidQueueTopology {topology : GpuTaskGraphQueueTopology}
    (h : isValidQueueTopology topology = true) (hqueue : queue ∈ topology) :
    queue.id.valid = true ∧ queue.id.deviceGeneration = topologyGeneration topology := by
  cases topology with
  | nil => cases hqueue
  | cons first rest => exact valid_of_areValidQueues h hqueue

section Frame

variable {setup : TimingSetup F} {key : GpuTaskTimingKey} {static : GpuPhysicalQueueInfo}
  {loop next : TimingLoop F} {frame : TimedFrame F}

lemma frameAssignments_eq_some {assignments : List GpuTaskQueueAssignment}
    (h : frameAssignments setup loop frame = some assignments) :
    ∃ result, assignQueues (compileOptions setup (recordSamples loop.store frame.samples)
        frame.frameIndex) frame.graph frame.analysis setup.topology = .ok result ∧
      result.assignments = assignments := by
  obtain ⟨result, hresult, rfl⟩ := Option.map_eq_some_iff.1 h
  refine ⟨result, ?_, rfl⟩
  cases houtcome : assignQueues (compileOptions setup (recordSamples loop.store frame.samples)
      frame.frameIndex) frame.graph frame.analysis setup.topology with
  | error _ =>
    rw [houtcome] at hresult
    cases hresult
  | ok value =>
    rw [houtcome] at hresult
    cases hresult
    rfl

/-- What a frame did: where it routed the task, and which routes it noted. -/
lemma timingChoice_of_step (hcalibration : setup.policy.calibrationIntervalFrames = 0)
    (hadmitted : Admitted setup key static loop frame)
    (h : timingStep setup loop frame = some next) :
    ∃ queue routes, TimingChoice (offeredRoutes setup key static
        (recordSamples loop.store frame.samples) frame) static.id queue ∧
      next = { store := noteRoutes frame.frameIndex (recordSamples loop.store frame.samples) routes
               routes := loop.routes ++ [(frame.frameIndex, queue)]
               noted := loop.noted
                ++ routes.map fun route => (route.1, route.2, frame.frameIndex)
               last := some (recordSamples loop.store frame.samples, frame) } := by
  obtain ⟨-, -, rfl, hoverride, hframe⟩ := hadmitted
  simp only [timingStep, Option.bind_eq_bind, Option.bind_eq_some_iff, Option.some.injEq] at h
  obtain ⟨assignments, hassignments, assignment, hfound, rfl⟩ := h
  have hstatic := hframe assignments hassignments
  obtain ⟨result, hresult, rfl⟩ := frameAssignments_eq_some hassignments
  refine ⟨assignment.queue, acceptedRoutes frame result.assignments, ?_, rfl⟩
  obtain ⟨-, hassigned⟩ := assignTask_of_find hresult hfound
  simp only [assignTask] at hassigned
  split at hassigned
  · cases hassigned
  · next selected reason hselected =>
      rw [hselected, Option.map_some, Option.some.injEq] at hstatic
      subst hstatic
      split at hassigned
      · cases hassigned
      · next queue hqueue =>
          cases hassigned
          exact timingChoice_of_routeByTiming hcalibration hoverride hqueue

end Frame

/-! ## The invariant of the loop -/

lemma changeFrames_snoc (front : List (ℕ × GpuPhysicalQueueId))
    (previous route : ℕ × GpuPhysicalQueueId) :
    changeFrames (front ++ [previous] ++ [route]) = changeFrames (front ++ [previous]) ++
      if previous.2 ≠ route.2 then [route.1] else [] := by
  induction front with
  | nil => simp only [List.nil_append, List.cons_append, changeFrames]
  | cons first rest ih =>
    cases rest with
    | nil =>
      simp only [List.nil_append, List.cons_append, changeFrames] at ih ⊢
      by_cases hfirst : first.2 ≠ previous.2
      · rw [if_pos hfirst, if_pos hfirst]
        by_cases hlast : previous.2 ≠ route.2 <;> simp [hlast]
      · rw [if_neg hfirst, if_neg hfirst]
        by_cases hlast : previous.2 ≠ route.2 <;> simp [hlast]
    | cons second rest =>
      simp only [List.cons_append, changeFrames] at ih ⊢
      by_cases hfirst : first.2 ≠ second.2
      · rw [if_pos hfirst, if_pos hfirst, List.cons_append, ← ih]
      · rw [if_neg hfirst, if_neg hfirst, ← ih]

/-- A change is in one of the frames. -/
lemma exists_of_mem_changeFrames {routes : List (ℕ × GpuPhysicalQueueId)} {frameIndex : ℕ}
    (h : frameIndex ∈ changeFrames routes) : ∃ route ∈ routes, route.1 = frameIndex := by
  induction routes using List.reverseRecOn with
  | nil => cases h
  | append_singleton front route ih =>
    rcases List.eq_nil_or_concat front with rfl | ⟨front, previous, rfl⟩
    · cases h
    · rw [List.concat_eq_append] at h ih ⊢
      rw [changeFrames_snoc] at h
      rcases List.mem_append.1 h with hold | hnew
      · obtain ⟨other, hother, rfl⟩ := ih hold
        exact ⟨other, List.mem_append_left _ hother, rfl⟩
      · split at hnew
        · exact ⟨route, List.mem_append_right _ (List.mem_singleton_self _),
            (List.mem_singleton.1 hnew).symm⟩
        · cases hnew

section Invariant

variable {setup : TimingSetup F} {key : GpuTaskTimingKey} {static : GpuPhysicalQueueInfo}
  {loop next : TimingLoop F} {frame : TimedFrame F}

/-- What every frame keeps.  A task on its static queue has changed no later than the switch the
store remembers, if that was to this queue; a task off it was offered the way there, and a switch the
store remembers is the last frame's. -/
structure LoopInv (setup : TimingSetup F) (key : GpuTaskTimingKey) (static : GpuPhysicalQueueInfo)
    (loop : TimingLoop F) : Prop where
  store : StoreInv loop.store loop.noted
  last : ∀ front last, loop.routes = front ++ [last] → ∀ route ∈ loop.routes, route.1 ≤ last.1
  stayed : ∀ front last, loop.routes = front ++ [last] → last.2 = static.id →
    ∀ route ∈ loop.store.routeOf key, route.queue = static.id →
      ∀ change ∈ changeFrames loop.routes, change ≤ route.switchedAt
  left : ∀ front last, loop.routes = front ++ [last] → last.2 ≠ static.id →
    ∀ route ∈ loop.store.routeOf key, route.queue ≠ static.id → route.switchedAt = last.1
  chosen : ∀ front last, loop.routes = front ++ [last] → ∃ compiled ∈ loop.last,
    TimingChoice (offeredRoutes setup key static compiled.1 compiled.2) static.id last.2

lemma loopInv_startLoop (maximumSamplesPerHistory : ℕ) (calls : List (HistoryCall F)) :
    LoopInv setup key static (startLoop maximumSamplesPerHistory calls) where
  store := storeInv_startLoop maximumSamplesPerHistory calls
  last front last h := absurd h (by simp [startLoop])
  stayed front last h := absurd h (by simp [startLoop])
  left front last h := absurd h (by simp [startLoop])
  chosen front last h := absurd h (by simp [startLoop])

lemma eq_of_snoc_eq {α : Type*} {xs ys : List α} {x y : α} (h : xs ++ [x] = ys ++ [y]) :
    xs = ys ∧ x = y := by
  obtain ⟨hfront, hlast⟩ := List.append_inj' h rfl
  exact ⟨hfront, List.singleton_inj.1 hlast⟩

variable {queue : GpuPhysicalQueueId}

/-- A change is no later than the frame. -/
lemma Admitted.change_le (hadmitted : Admitted setup key static loop frame) {change : ℕ}
    (hchange : change ∈ changeFrames (loop.routes ++ [(frame.frameIndex, queue)])) :
    change ≤ frame.frameIndex := by
  obtain ⟨route, hroute, rfl⟩ := exists_of_mem_changeFrames hchange
  rcases List.mem_append.1 hroute with hold | hnew
  · exact (hadmitted.1 route hold).le
  · rw [List.mem_singleton.1 hnew]

variable {front : List (ℕ × GpuPhysicalQueueId)} {last : ℕ × GpuPhysicalQueueId}

/-- While the store has the static queue accepted last, a task off it is where it was. -/
lemma LoopInv.kept (h : LoopInv setup key static loop)
    (hkeeps : KeepsSwitch setup key static loop frame)
    (hchoice : TimingChoice (offeredRoutes setup key static
      (recordSamples loop.store frame.samples) frame) static.id queue)
    (hlast : loop.routes = front ++ [last]) (haway : last.2 ≠ static.id) :
    ∃ route ∈ (recordSamples loop.store frame.samples).routeOf key,
      if route.queue = static.id then last.2 = queue
      else route.switchedAt + setup.policy.minimumFramesBetweenSwitches ≤ frame.frameIndex := by
  obtain ⟨compiled, hcompiled, hchosen⟩ := h.chosen front last hlast
  obtain ⟨offer, hoffer, -⟩ := hchosen.moved haway
  obtain ⟨route, hroute, hcase⟩ := hkeeps compiled hcompiled (List.ne_nil_of_mem hoffer)
  refine ⟨route, hroute, ?_⟩
  split at hcase
  · next hstatic =>
      obtain ⟨before, hbefore, now, hnow, hqueue, hbeforeFast, hnowFast⟩ := hcase
      rw [if_pos hstatic, hchosen.fastest before hbefore hbeforeFast, hqueue,
        hchoice.fastest now hnow hnowFast]
  · next hother => rwa [if_neg hother]

/-- A change comes long enough after every other one. -/
lemma LoopInv.change (h : LoopInv setup key static loop)
    (hadmitted : Admitted setup key static loop frame)
    (hkeeps : KeepsSwitch setup key static loop frame)
    (hchoice : TimingChoice (offeredRoutes setup key static
      (recordSamples loop.store frame.samples) frame) static.id queue)
    (hlast : loop.routes = front ++ [last]) (hmoved : last.2 ≠ queue) :
    ∀ change ∈ changeFrames loop.routes,
      change + setup.policy.minimumFramesBetweenSwitches ≤ frame.frameIndex := by
  intro change hchange
  obtain ⟨-, hroutes⟩ := h.store.recordSamples hadmitted.2.1
  by_cases hstatic : last.2 = static.id
  · -- the task leaves: the switch test asks for the dwell since the switch to the static queue
    obtain ⟨offer, hoffer, -⟩ := hchoice.moved fun hback => hmoved (hstatic.trans hback.symm)
    obtain ⟨-, route, hroute, hqueue, hdwell⟩ := route_of_offered hoffer
    have hle := h.stayed front last hlast hstatic route (hroutes key ▸ hroute) hqueue change hchange
    omega
  · -- the task returns: the condition asks for the dwell since the switch away
    obtain ⟨route, hroute, hcase⟩ := h.kept hkeeps hchoice hlast hstatic
    split at hcase
    · exact absurd hcase hmoved
    · next hother =>
        have hswitched := h.left front last hlast hstatic route (hroutes key ▸ hroute) hother
        obtain ⟨changed, hmem, rfl⟩ := exists_of_mem_changeFrames hchange
        have hle := h.last front last hlast changed hmem
        omega

lemma LoopInv.step (hcalibration : setup.policy.calibrationIntervalFrames = 0)
    (h : LoopInv setup key static loop) (hadmitted : Admitted setup key static loop frame)
    (hkeeps : KeepsSwitch setup key static loop frame)
    (hstep : timingStep setup loop frame = some next) : LoopInv setup key static next := by
  obtain ⟨queue, routes, hchoice, rfl⟩ := timingChoice_of_step hcalibration hadmitted hstep
  have hsame := h.store.recordSamples hadmitted.2.1
  refine ⟨(h.store.congr hsame).noteRoutes frame.frameIndex routes, ?_, ?_, ?_, ?_⟩
  · intro front last hlast route hroute
    obtain ⟨rfl, rfl⟩ := eq_of_snoc_eq hlast
    rcases List.mem_append.1 hroute with hold | hnew
    · exact (hadmitted.1 route hold).le
    · rw [List.mem_singleton.1 hnew]
  · intro front last hlast hstatic route hroute hqueue change hchange
    obtain ⟨rfl, rfl⟩ := eq_of_snoc_eq hlast
    rcases switchedAt_noteRoutes hroute with hnow | ⟨old, hold, holdQueue, hsameFrame⟩
    · exact hnow ▸ hadmitted.change_le hchange
    rcases List.eq_nil_or_concat loop.routes with hempty | ⟨earlier, last, hroutes⟩
    · rw [hempty] at hchange
      cases hchange
    rw [List.concat_eq_append] at hroutes
    -- an old route to the static queue leaves no room for a return
    have hstayed : last.2 = queue := by
      by_cases haway : last.2 = static.id
      · exact haway.trans hstatic.symm
      · obtain ⟨known, hknown, hcase⟩ := h.kept hkeeps hchoice hroutes haway
        obtain rfl := Option.some.inj (hknown.symm.trans hold)
        rwa [if_pos (holdQueue.trans hqueue)] at hcase
    rw [hroutes, changeFrames_snoc, ← hroutes, if_neg (not_not.2 hstayed), List.append_nil]
      at hchange
    rw [← hsameFrame]
    exact h.stayed earlier last hroutes (hstayed.trans hstatic) old (hsame.2 key ▸ hold)
      (holdQueue.trans hqueue) change hchange
  · intro front last hlast haway route hroute hother
    obtain ⟨rfl, rfl⟩ := eq_of_snoc_eq hlast
    rcases switchedAt_noteRoutes hroute with hnow | ⟨old, hold, holdQueue, -⟩
    · exact hnow
    · -- the routes were offered while the store had the static queue
      obtain ⟨offer, hoffer, -⟩ := hchoice.moved haway
      obtain ⟨-, offered, hoffered, hstatic, -⟩ := route_of_offered hoffer
      obtain rfl := Option.some.inj (hold.symm.trans hoffered)
      exact absurd (holdQueue.symm.trans hstatic) hother
  · intro front last hlast
    obtain ⟨rfl, rfl⟩ := eq_of_snoc_eq hlast
    exact ⟨_, rfl, hchoice⟩

lemma damped_snoc {minimumFrames : ℕ} {route : ℕ × GpuPhysicalQueueId} :
    Damped minimumFrames (front ++ [last] ++ [route]) ↔
      Damped minimumFrames (front ++ [last]) ∧ (last.2 ≠ route.2 →
        ∀ change ∈ changeFrames (front ++ [last]), change + minimumFrames ≤ route.1) := by
  rw [Damped, Damped, changeFrames_snoc, List.pairwise_append]
  refine and_congr Iff.rfl ?_
  by_cases hmoved : last.2 ≠ route.2
  · simp [hmoved]
  · simp [hmoved]

/-- One more frame keeps the changes damped. -/
lemma LoopInv.damped (h : LoopInv setup key static loop)
    (hcalibration : setup.policy.calibrationIntervalFrames = 0)
    (hadmitted : Admitted setup key static loop frame)
    (hkeeps : KeepsSwitch setup key static loop frame)
    (hstep : timingStep setup loop frame = some next)
    (hdamped : Damped setup.policy.minimumFramesBetweenSwitches loop.routes) :
    Damped setup.policy.minimumFramesBetweenSwitches next.routes := by
  obtain ⟨queue, routes, hchoice, rfl⟩ := timingChoice_of_step hcalibration hadmitted hstep
  show Damped _ (loop.routes ++ [(frame.frameIndex, queue)])
  rcases List.eq_nil_or_concat loop.routes with hempty | ⟨front, last, hroutes⟩
  · simp [hempty, Damped, changeFrames]
  · rw [List.concat_eq_append] at hroutes
    rw [hroutes, damped_snoc, ← hroutes]
    exact ⟨hdamped, fun hmoved => h.change hadmitted hkeeps hchoice hroutes hmoved⟩

end Invariant

/-! ## The runs -/

/-- Calibration off: over every run of frames in which a return waits for the dwell and a switch that
was not accepted is offered again, the changes of the assigned queue are at least the minimum
apart. -/
theorem adaptiveRouting_damped {setup : TimingSetup F} {key : GpuTaskTimingKey}
    {static : GpuPhysicalQueueInfo} (hcalibration : setup.policy.calibrationIntervalFrames = 0)
    {maximumSamplesPerHistory : ℕ} {calls : List (HistoryCall F)} {frames : List (TimedFrame F)}
    {loop : TimingLoop F}
    (hrun : Run (timingStep setup)
      (fun loop frame => Admitted setup key static loop frame ∧
        KeepsSwitch setup key static loop frame)
      (startLoop maximumSamplesPerHistory calls) frames loop) :
    Damped setup.policy.minimumFramesBetweenSwitches loop.routes := by
  have hinv := hrun.invariant
    (P := fun loop => LoopInv setup key static loop ∧
      Damped setup.policy.minimumFramesBetweenSwitches loop.routes)
    ⟨loopInv_startLoop maximumSamplesPerHistory calls, List.Pairwise.nil⟩
    fun _ _ _ admitted next h => ⟨h.1.step hcalibration admitted.1 admitted.2 next,
      h.1.damped hcalibration admitted.1 admitted.2 next h.2⟩
  exact hinv.2

/-! ## A task that does not stay -/

/-- Adaptive routing of the measured task over two Graphics queues. -/
def measuredSetup : TimingSetup ℚ where
  topology := twoGraphicsQueues
  overrides := []
  policy := twoFramePolicy

/-- The primary Graphics queue, on which the task is statically. -/
def primaryGraphicsQueue : GpuPhysicalQueueInfo :=
  { id := ⟨0, 1⟩, queueClass := .graphics, capabilities := 7, familyIndex := 0 }

/-- The second queue was measured twice as fast as the first. -/
def probedBothQueues : List (HistoryCall ℚ) :=
  [.sample { key := { task := 1 }, queue := ⟨1, 1⟩, durationSeconds := 1, sourceFrameIndex := 1 },
   .sample { key := { task := 1 }, queue := ⟨0, 1⟩, durationSeconds := 2, sourceFrameIndex := 2 }]

/-- A frame of the measured task, whose packet is accepted or not. -/
def measuredFrame (accepted : Bool) (frameIndex : ℕ) : TimedFrame ℚ where
  samples := []
  graph := measuredTaskGraph
  analysis := analyze measuredTaskGraph
  task := ⟨0, 1⟩
  frameIndex := frameIndex
  accepted := if accepted then [⟨0, 1⟩] else []

instance (key : GpuTaskTimingKey) (static : GpuPhysicalQueueInfo) (loop : TimingLoop ℚ)
    (frame : TimedFrame ℚ) : Decidable (Admitted measuredSetup key static loop frame) :=
  inferInstanceAs (Decidable (_ ∧ _ ∧ _ ∧ _ ∧ _))

instance (offered : List (OfferedRoute ℚ)) (route : OfferedRoute ℚ) :
    Decidable (Outruns offered route) :=
  inferInstanceAs (Decidable (∀ other ∈ offered, _ → _))

instance (key : GpuTaskTimingKey) (static : GpuPhysicalQueueInfo) (loop : TimingLoop ℚ)
    (frame : TimedFrame ℚ) : Decidable (KeepsSwitch measuredSetup key static loop frame) :=
  inferInstanceAs (Decidable (∀ last ∈ loop.last, _ → _))

/-- Runs of the measured task can be computed. -/
lemma measuredRun (ok : TimingLoop ℚ → TimedFrame ℚ → Prop) [∀ loop frame, Decidable (ok loop frame)]
    (frames : List (TimedFrame ℚ)) (routes : List (ℕ × GpuPhysicalQueueId))
    (h : (after (timingStep measuredSetup) (fun loop frame => decide (ok loop frame))
      (startLoop 32 probedBothQueues) frames).map (·.routes) = some routes) :
    ∃ loop, Run (timingStep measuredSetup) ok (startLoop 32 probedBothQueues) frames loop ∧
      loop.routes = routes := by
  obtain ⟨loop, hloop, hroutes⟩ := Option.map_eq_some_iff.1 h
  exact ⟨loop, run_of_after (fun _ _ hchecked => of_decide_eq_true hchecked) hloop, hroutes⟩

/-- The switch of frame 4 is not accepted, that of frame 5 is; the task returns in frame 7. -/
theorem adaptiveRouting_damped_measured :
    ∃ loop, Run (timingStep measuredSetup)
        (fun loop frame => Admitted measuredSetup { task := 1 } primaryGraphicsQueue loop frame ∧
          KeepsSwitch measuredSetup { task := 1 } primaryGraphicsQueue loop frame)
        (startLoop 32 probedBothQueues)
        [measuredFrame true 3, measuredFrame false 4, measuredFrame true 5, measuredFrame true 7]
        loop ∧
      loop.routes = [(3, ⟨0, 1⟩), (4, ⟨1, 1⟩), (5, ⟨1, 1⟩), (7, ⟨0, 1⟩)] ∧
      Damped measuredSetup.policy.minimumFramesBetweenSwitches loop.routes := by
  obtain ⟨loop, hrun, hroutes⟩ := measuredRun
    (fun loop frame => Admitted measuredSetup { task := 1 } primaryGraphicsQueue loop frame ∧
      KeepsSwitch measuredSetup { task := 1 } primaryGraphicsQueue loop frame)
    [measuredFrame true 3, measuredFrame false 4, measuredFrame true 5, measuredFrame true 7]
    [(3, ⟨0, 1⟩), (4, ⟨1, 1⟩), (5, ⟨1, 1⟩), (7, ⟨0, 1⟩)] (by decide +kernel)
  exact ⟨loop, hrun, hroutes, adaptiveRouting_damped rfl hrun⟩

/-- Two frames must lie between switches; the task moves to the faster queue in frame 4 and back in
frame 5. -/
theorem adaptiveRouting_returns_at_once :
    ∃ loop, Run (timingStep measuredSetup)
        (Admitted measuredSetup { task := 1 } primaryGraphicsQueue) (startLoop 32 probedBothQueues)
        ([3, 4, 5].map (measuredFrame true)) loop ∧
      measuredSetup.policy.valid = true ∧ measuredSetup.policy.enabled = true ∧
      ¬Damped measuredSetup.policy.minimumFramesBetweenSwitches loop.routes := by
  obtain ⟨loop, hrun, hroutes⟩ := measuredRun
    (Admitted measuredSetup { task := 1 } primaryGraphicsQueue)
    ([3, 4, 5].map (measuredFrame true))
    [(3, ⟨0, 1⟩), (4, ⟨1, 1⟩), (5, ⟨0, 1⟩)] (by decide +kernel)
  refine ⟨loop, hrun, by decide +kernel, rfl, ?_⟩
  rw [hroutes]
  show ¬List.Pairwise _ [4, 5]
  simp [measuredSetup, twoFramePolicy]

end NwbLot.TaskGraph
