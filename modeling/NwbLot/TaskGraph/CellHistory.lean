import NwbLot.TaskGraph.CompileTrace

/-!
# The users of a cell

The newest tracked state over a cell before a task is the last use of the newest earlier task that
uses the cell.  With `planTaskUses_at` this says what a task's prologue holds over the cell in
terms of declared uses only.
-/

namespace NwbLot.TaskGraph

variable (graph : GpuTaskGraph) (plan : GpuCompiledGraph) (x : ResourceCell)

/-- The last use of a list over a cell. -/
def lastUse (uses : List GpuTaskResourceUse) : Option GpuTaskResourceUse :=
  uses.reverse.find? (useCovers graph x)

/-- Some declared use of the task covers the cell. -/
def usesCell (t : GpuCompiledTask) : Bool := (declaredUses graph t).any (useCovers graph x)

/-- No task strictly between two positions uses the cell. -/
def UnusedBetween (i k : ℕ) : Prop :=
  ∀ j, i < j → j < k → ∀ t, plan.tasks[j]? = some t → usesCell graph x t = false

/-- The newest user of the cell before a position, with its last use of the cell. -/
structure PreviousUser (k i : ℕ) (t : GpuCompiledTask) (use : GpuTaskResourceUse) : Prop where
  lt : i < k
  task_at : plan.tasks[i]? = some t
  last : lastUse graph x (declaredUses graph t) = some use
  unused : UnusedBetween graph plan x i k

variable {graph plan x}

lemma firstUse_isSome (t : GpuCompiledTask) :
    (firstUse graph x (declaredUses graph t)).isSome = usesCell graph x t := by
  rw [firstUse, usesCell, List.isSome_find?]

lemma lastUse_isSome (t : GpuCompiledTask) :
    (lastUse graph x (declaredUses graph t)).isSome = usesCell graph x t := by
  rw [lastUse, usesCell, List.isSome_find?, List.any_reverse]

variable {t : GpuCompiledTask} {use : GpuTaskResourceUse}

lemma usesCell_of_firstUse (h : firstUse graph x (declaredUses graph t) = some use) :
    usesCell graph x t = true := by
  rw [← firstUse_isSome, h]
  rfl

lemma usesCell_of_lastUse (h : lastUse graph x (declaredUses graph t) = some use) :
    usesCell graph x t = true := by
  rw [← lastUse_isSome, h]
  rfl

lemma firstUse_eq_none (h : usesCell graph x t = false) :
    firstUse graph x (declaredUses graph t) = none := by
  rw [← Option.not_isSome_iff_eq_none, firstUse_isSome, h]
  simp

lemma lastUse_eq_none (h : usesCell graph x t = false) :
    lastUse graph x (declaredUses graph t) = none := by
  rw [← Option.not_isSome_iff_eq_none, lastUse_isSome, h]
  simp

/-- A user has a last use. -/
lemma exists_lastUse (h : usesCell graph x t = true) :
    ∃ use, lastUse graph x (declaredUses graph t) = some use :=
  Option.isSome_iff_exists.1 ((lastUse_isSome t).trans h)

/-- A user has a first use. -/
lemma exists_firstUse (h : usesCell graph x t = true) :
    ∃ use, firstUse graph x (declaredUses graph t) = some use :=
  Option.isSome_iff_exists.1 ((firstUse_isSome t).trans h)

lemma useCovers_of_firstUse {uses : List GpuTaskResourceUse}
    (h : firstUse graph x uses = some use) : use ∈ uses ∧ useCovers graph x use = true :=
  ⟨List.mem_of_find?_eq_some h, List.find?_some h⟩

lemma useCovers_of_lastUse {uses : List GpuTaskResourceUse} (h : lastUse graph x uses = some use) :
    use ∈ uses ∧ useCovers graph x use = true :=
  ⟨List.mem_reverse.1 (List.mem_of_find?_eq_some h), List.find?_some h⟩

/-- The use that covers a cell names the cell's resource. -/
lemma resource_of_useCovers (h : useCovers graph x use = true) :
    use.resource = x.resource := by
  by_contra hresource
  rw [useCovers_other hresource] at h
  cases h

/-! ## The newest state -/

/-- What a list of uses leaves over a cell is its last use there. -/
lemma latestState_uses (t : GpuCompiledTask) (uses : List GpuTaskResourceUse)
    (tracked : List TrackedCompiledResourceState) :
    latestState graph x (tracked ++ uses.flatMap (useStates graph t))
      = match lastUse graph x uses with
        | some use => (plannedRange graph use).map (trackedState t use)
        | none => latestState graph x tracked := by
  induction uses using List.reverseRecOn with
  | nil => simp [lastUse]
  | append_singleton front use ih =>
    rw [List.flatMap_append, ← List.append_assoc, List.flatMap_singleton, latestState_useStates]
    cases hcovers : useCovers graph x use
    · simp only [Bool.false_eq_true, if_false, ih]
      simp [lastUse, hcovers]
    · simp [lastUse, hcovers]

/-- A covering use has a planned range. -/
lemma exists_plannedRange (h : useCovers graph x use = true) :
    ∃ range, plannedRange graph use = some range ∧ x.within graph use.resource range = true := by
  rw [useCovers, Bool.and_eq_true, Option.any_eq_true] at h
  exact h.2

/-- What the newest state before a position says about the users of the cell. -/
def HistoryAt (graph : GpuTaskGraph) (plan : GpuCompiledGraph) (x : ResourceCell) (k : ℕ) :
    Option TrackedCompiledResourceState → Prop
  | none => ∀ j < k, ∀ t, plan.tasks[j]? = some t → usesCell graph x t = false
  | some state => ∃ i t use range, PreviousUser graph plan x k i t use ∧
      state = trackedState t use range

variable {k : ℕ}

lemma historyAt_latestState (hk : k ≤ plan.tasks.length) :
    HistoryAt graph plan x k (latestState graph x (trackedBefore graph plan k)) := by
  induction k with
  | zero =>
    have hnone : latestState graph x (trackedBefore graph plan 0) = none := by
      simp [trackedBefore, latestState]
    rw [hnone]
    intro j hj
    omega
  | succ k ih =>
    have ht := List.getElem?_eq_getElem hk
    have ihk := ih (Nat.le_of_succ_le hk)
    rw [trackedBefore_succ ht, taskStates, latestState_uses]
    cases huses : usesCell graph x plan.tasks[k]
    · -- the task does not touch the cell
      rw [lastUse_eq_none huses]
      have hextend : ∀ j, j < k + 1 → ¬ j < k → ∀ t, plan.tasks[j]? = some t →
          usesCell graph x t = false := by
        intro j hj hjk t hat
        obtain rfl : j = k := by omega
        rw [ht] at hat
        cases hat
        exact huses
      cases hlatest : latestState graph x (trackedBefore graph plan k) with
      | none =>
        rw [hlatest] at ihk
        intro j hj t hat
        by_cases hjk : j < k
        · exact ihk j hjk t hat
        · exact hextend j hj hjk t hat
      | some state =>
        rw [hlatest] at ihk
        obtain ⟨i, t, use, range, hprevious, hstate⟩ := ihk
        refine ⟨i, t, use, range, ⟨Nat.lt_succ_of_lt hprevious.lt, hprevious.task_at,
          hprevious.last, ?_⟩, hstate⟩
        intro j hij hj t' hat
        by_cases hjk : j < k
        · exact hprevious.unused j hij hjk t' hat
        · exact hextend j hj hjk t' hat
    · obtain ⟨use, hlast⟩ := exists_lastUse huses
      obtain ⟨range, hrange, -⟩ := exists_plannedRange (useCovers_of_lastUse hlast).2
      rw [hlast]
      simp only [hrange, Option.map_some]
      refine ⟨k, _, use, range, ⟨Nat.lt_succ_self k, ht, hlast, ?_⟩, rfl⟩
      intro j hj hj'
      omega

/-- The newest user is unique. -/
lemma PreviousUser.unique {i j : ℕ} {u : GpuCompiledTask} {use' : GpuTaskResourceUse}
    (h : PreviousUser graph plan x k i t use) (h' : PreviousUser graph plan x k j u use') :
    i = j ∧ t = u ∧ use = use' := by
  have hij : i = j := by
    rcases Nat.lt_trichotomy i j with hlt | heq | hlt
    · have := h.unused j hlt h'.lt u h'.task_at
      rw [usesCell_of_lastUse h'.last] at this
      cases this
    · exact heq
    · have := h'.unused i hlt h.lt t h.task_at
      rw [usesCell_of_lastUse h.last] at this
      cases this
  subst hij
  have ht : t = u := Option.some.inj (h.task_at.symm.trans h'.task_at)
  subst ht
  exact ⟨rfl, rfl, Option.some.inj (h.last.symm.trans h'.last)⟩

/-! ## A task's entries over a cell -/

/-- What a task's entries hold over a cell: nothing for a cell it does not use, the plan of its
first use against the newest earlier user otherwise. -/
lemma TaskTrace.at_cell {topology : GpuTaskGraphQueueTopology}
    {pending : List PendingCompiledEpilogueBarrier} {e : StatePlanEntries}
    (trace : TaskTrace graph topology plan pending k t e)
    (haccepted : ∀ use ∈ declaredUses graph t, AcceptedUse graph use) (x : ResourceCell) :
    TaskEntriesAt graph topology plan t (declaredUses graph t)
      (latestState graph x (trackedBefore graph plan k)) x e := by
  obtain ⟨taskQueue, new, -, huses⟩ := trace.planned
  exact (planTaskUses_at huses haccepted).2 x

section Planned

variable {topology : GpuTaskGraphQueueTopology} {assignments : GpuTaskGraphQueueAssignments}
  {entries : List StatePlanEntries} {exports : ExternalExportPlan}

/-- The declared uses of a planned task were accepted. -/
lemma PlannedGraph.accepted (h : PlannedGraph graph topology assignments plan entries exports)
    {k : ℕ} {t : GpuCompiledTask} (ht : plan.tasks[k]? = some t) :
    ∀ use ∈ declaredUses graph t, AcceptedUse graph use :=
  acceptedUses_of_analyzed h.analyzed t.task (List.mem_of_getElem? (h.layout.order_at ht))

/-- A task that does not use a cell has no barrier and no seed over it. -/
lemma PlannedGraph.restrict_of_unused
    (h : PlannedGraph graph topology assignments plan entries exports) {k : ℕ}
    {t : GpuCompiledTask} (ht : plan.tasks[k]? = some t) (hunused : usesCell graph x t = false)
    {e : StatePlanEntries} (he : entries[k]? = some e) : e.restrict graph x = {} := by
  obtain ⟨e', he', trace⟩ := h.trace.at_task k t ht
  obtain rfl := Option.some.inj (he.symm.trans he')
  have hcell := trace.at_cell (h.accepted ht) x
  rwa [TaskEntriesAt, firstUse_eq_none hunused] at hcell

end Planned

end TaskGraph

/-! ## The plan of one range

Which barriers and seeds state planning gives one range, by what came before: an ownership acquire
and a seed when the state comes from another packet, a transition or UAV barrier when the state or
a write asks for one, an import and the initial transition on a first use. -/

namespace TaskGraph

/-! ## Kinds of barriers -/

namespace GpuCompiledBarrierType

/-- Changes of state. -/
def isTransition : GpuCompiledBarrierType → Bool
  | .textureTransition | .bufferTransition | .accelStructTransition => true
  | _ => false

/-- Barriers between writes. -/
def isUav : GpuCompiledBarrierType → Bool
  | .textureUav | .bufferUav | .accelStructUav => true
  | _ => false

/-- Releases to another queue. -/
def isOwnershipRelease : GpuCompiledBarrierType → Bool
  | .textureOwnershipRelease | .bufferOwnershipRelease | .accelStructOwnershipRelease => true
  | _ => false

/-- Acquires from another queue. -/
def isOwnershipAcquire : GpuCompiledBarrierType → Bool
  | .textureOwnershipAcquire | .bufferOwnershipAcquire | .accelStructOwnershipAcquire => true
  | _ => false

/-- Exports of the final state. -/
def isStateExport : GpuCompiledBarrierType → Bool
  | .textureStateExport | .bufferStateExport | .accelStructStateExport => true
  | _ => false

end GpuCompiledBarrierType

@[simp] lemma transitionBarrierType_isTransition (type : GpuGraphResourceType) :
    (transitionBarrierType type).isTransition = true := by cases type <;> rfl

@[simp] lemma transitionBarrierType_isUav (type : GpuGraphResourceType) :
    (transitionBarrierType type).isUav = false := by cases type <;> rfl

@[simp] lemma transitionBarrierType_isOwnershipAcquire (type : GpuGraphResourceType) :
    (transitionBarrierType type).isOwnershipAcquire = false := by cases type <;> rfl

@[simp] lemma uavBarrierType_isTransition (type : GpuGraphResourceType) :
    (uavBarrierType type).isTransition = false := by cases type <;> rfl

@[simp] lemma uavBarrierType_isUav (type : GpuGraphResourceType) :
    (uavBarrierType type).isUav = true := by cases type <;> rfl

@[simp] lemma uavBarrierType_isOwnershipAcquire (type : GpuGraphResourceType) :
    (uavBarrierType type).isOwnershipAcquire = false := by cases type <;> rfl

/-- An acquire is neither a transition nor a UAV barrier. -/
lemma isTransition_of_acquire {type : GpuCompiledBarrierType}
    (h : type.isOwnershipAcquire = true) : type.isTransition = false := by
  cases type <;> first | rfl | cases h

lemma isUav_of_acquire {type : GpuCompiledBarrierType} (h : type.isOwnershipAcquire = true) :
    type.isUav = false := by
  cases type <;> first | rfl | cases h

lemma ownershipAcquireBarrierType_isOwnershipAcquire {type : GpuGraphResourceType}
    {acquire : GpuCompiledBarrierType} (h : ownershipAcquireBarrierType type = some acquire) :
    acquire.isOwnershipAcquire = true := by
  cases type <;> cases h <;> rfl

lemma ownershipReleaseBarrierType_isOwnershipRelease {type : GpuGraphResourceType}
    {release : GpuCompiledBarrierType} (h : ownershipReleaseBarrierType type = some release) :
    release.isOwnershipRelease = true := by
  cases type <;> cases h <;> rfl

/-! ## Handoffs between packets -/

section Range

variable {topology : GpuTaskGraphQueueTopology} {plan : GpuCompiledGraph}
  {resource : GpuTaskGraphResourceView} {use : GpuTaskResourceUse} {task : GpuCompiledTask}
  {range : GpuTaskResourceRange} {previousState : TrackedCompiledResourceState}

/-- The release and acquire of one range share everything but their type. -/
structure OwnershipPair (resource : GpuTaskGraphResourceView) (use : GpuTaskResourceUse)
    (task : GpuCompiledTask) (range : GpuTaskResourceRange)
    (previousState : TrackedCompiledResourceState) (entries : StatePlanEntries)
    (release acquire : GpuCompiledBarrierType) : Prop where
  release_eq : ownershipReleaseBarrierType resource.type = some release
  acquire_eq : ownershipAcquireBarrierType resource.type = some acquire
  pending : entries.pendingEpilogueBarriers =
    [{ task := previousState.task
       barrier := { resource := use.resource, range, before := previousState.state,
                    after := previousState.state, sourceQueue := previousState.queue,
                    destinationQueue := task.queue, type := release } }]
  barriers : entries.prologueBarriers =
    [{ resource := use.resource, range, before := previousState.state,
       after := previousState.state, sourceQueue := previousState.queue,
       destinationQueue := task.queue, type := acquire }]

/-- What a range whose state comes from another packet gets. -/
structure PacketHandoff (topology : GpuTaskGraphQueueTopology) (plan : GpuCompiledGraph)
    (resource : GpuTaskGraphResourceView) (use : GpuTaskResourceUse) (task : GpuCompiledTask)
    (range : GpuTaskResourceRange) (previousState : TrackedCompiledResourceState)
    (source destination : GpuPhysicalQueueInfo) (entries : StatePlanEntries) : Prop where
  source_eq : plan.findCompiledQueueInfo previousState.queue = some source
  destination_eq : plan.findCompiledQueueInfo task.queue = some destination
  seeds : entries.prologueStateSeeds =
    if mayOmitInternalStateSeed use previousState (resourceSharesQueuePairConcurrently
        resource.queueSharing topology source destination) then []
    else [{ resource := use.resource, range,
            sourcePacket := plan.findCompiledPacketForTask previousState.task }]
  exclusive : requiresExclusiveOwnershipHandoff topology resource source destination = true →
    ∃ release acquire, OwnershipPair resource use task range previousState entries release acquire
  shared : requiresExclusiveOwnershipHandoff topology resource source destination = false →
    entries.pendingEpilogueBarriers = [] ∧ entries.prologueBarriers = []

lemma planStateSeed_seeds {sourcePacket : GpuSubmissionPacketId} {concurrentQueuePair : Bool} :
    (planStateSeed use range previousState sourcePacket concurrentQueuePair).prologueStateSeeds
      = if mayOmitInternalStateSeed use previousState concurrentQueuePair then []
        else [{ resource := use.resource, range, sourcePacket }] := by
  rw [planStateSeed]
  split <;> rfl

lemma planStateSeed_rest {sourcePacket : GpuSubmissionPacketId} {concurrentQueuePair : Bool} :
    (planStateSeed use range previousState sourcePacket concurrentQueuePair).prologueBarriers = [] ∧
      (planStateSeed use range previousState sourcePacket
        concurrentQueuePair).pendingEpilogueBarriers = [] := by
  rw [planStateSeed]
  split <;> exact ⟨rfl, rfl⟩

lemma planOwnershipHandoff_pair {handoff : StatePlanEntries}
    (h : planOwnershipHandoff resource use task range previousState = some handoff) :
    handoff.prologueStateSeeds = [] ∧
      ∃ release acquire, OwnershipPair resource use task range previousState handoff release
        acquire := by
  simp only [planOwnershipHandoff, Option.bind_eq_bind, Option.bind_eq_some_iff,
    Option.some.injEq] at h
  obtain ⟨release, hrelease, acquire, hacquire, rfl⟩ := h
  exact ⟨rfl, release, acquire, hrelease, hacquire, rfl, rfl⟩

/-- Within one packet nothing is handed over; between packets the handoff is as described. -/
lemma planPacketHandoff_cases {entries : StatePlanEntries}
    (h : planPacketHandoff topology plan resource use task range previousState = some entries) :
    (plan.findCompiledPacketForTask previousState.task = task.packet ∧ entries = {}) ∨
      (plan.findCompiledPacketForTask previousState.task ≠ task.packet ∧
        ∃ source destination, PacketHandoff topology plan resource use task range previousState
          source destination entries) := by
  simp only [planPacketHandoff] at h
  split at h
  · cases h
  split at h
  · next hsame =>
      cases h
      exact Or.inl ⟨hsame, rfl⟩
  next hother =>
  simp only [Option.bind_eq_bind, Option.bind_eq_some_iff] at h
  obtain ⟨source, hsource, destination, hdestination, h⟩ := h
  split at h
  · cases h
  simp only [Option.bind_eq_some_iff, Option.some.injEq] at h
  obtain ⟨handoff, hhandoff, rfl⟩ := h
  refine Or.inr ⟨hother, source, destination, ?_⟩
  rw [planExclusiveHandoff] at hhandoff
  split at hhandoff
  · next hexclusive =>
      obtain ⟨hseeds, release, acquire, hpair⟩ := planOwnershipHandoff_pair hhandoff
      refine ⟨hsource, hdestination, ?_, fun _ => ⟨release, acquire, hpair.release_eq,
        hpair.acquire_eq, ?_, ?_⟩, fun hshared => ?_⟩
      · rw [StatePlanEntries.append_seeds, hseeds, List.nil_append, planStateSeed_seeds]
      · rw [StatePlanEntries.append_pending, planStateSeed_rest.2, List.append_nil, hpair.pending]
      · rw [StatePlanEntries.append_barriers, planStateSeed_rest.1, List.append_nil, hpair.barriers]
      · rw [hexclusive] at hshared
        cases hshared
  · next hshared =>
      cases hhandoff
      refine ⟨hsource, hdestination, ?_, fun hexclusive => absurd hexclusive hshared, fun _ => ?_⟩
      · rw [StatePlanEntries.empty_append, planStateSeed_seeds]
      · rw [StatePlanEntries.empty_append]
        exact planStateSeed_rest.symm

/-! ## Transitions -/

/-- The transition or UAV barrier from a state of the graph. -/
lemma planTransition_barriers :
    (planTransition resource use task range previousState).prologueBarriers
      = if previousState.state != use.requiredState || needsUavDependency use previousState then
          [{ resource := use.resource, range, before := previousState.state,
             after := use.requiredState, sourceQueue := previousState.queue,
             destinationQueue := task.queue,
             type := if needsUavDependency use previousState then uavBarrierType resource.type
               else transitionBarrierType resource.type }]
        else [] := by
  simp only [planTransition]
  split <;> rfl

lemma planTransition_rest :
    (planTransition resource use task range previousState).prologueStateSeeds = [] ∧
      (planTransition resource use task range previousState).pendingEpilogueBarriers = [] := by
  simp only [planTransition]
  split <;> exact ⟨rfl, rfl⟩

/-- A UAV dependency joins equal states. -/
lemma state_eq_of_needsUavDependency (h : needsUavDependency use previousState = true) :
    previousState.state = use.requiredState := by
  simp only [needsUavDependency, Bool.and_eq_true, beq_iff_eq] at h
  exact h.1.1

end Range

/-! ## The plan of a use over a cell -/

section Cell

variable {graph : GpuTaskGraph} {topology : GpuTaskGraphQueueTopology} {plan : GpuCompiledGraph}
  {assignments : GpuTaskGraphQueueAssignments} {entries : List StatePlanEntries}
  {exports : ExternalExportPlan} {x : ResourceCell}

/-- A use over a cell after an earlier user of the cell. -/
structure PlannedAfter (graph : GpuTaskGraph) (topology : GpuTaskGraphQueueTopology)
    (plan : GpuCompiledGraph) (x : ResourceCell) (t : GpuCompiledTask) (use : GpuTaskResourceUse)
    (i : ℕ) (u : GpuCompiledTask) (previousUse : GpuTaskResourceUse) (range previousRange :
      GpuTaskResourceRange) (own : StatePlanEntries) : Prop where
  within : x.within graph use.resource range = true
  planned : ∃ entries, planFromPreviousState topology plan (graph.resourceAt use.resource.index)
      use t range (trackedState u previousUse previousRange) = some entries ∧ own = entries.ranged

/-- A use over a cell no earlier task uses. -/
structure PlannedFirst (graph : GpuTaskGraph) (x : ResourceCell)
    (t : GpuCompiledTask) (use : GpuTaskResourceUse) (range : GpuTaskResourceRange)
    (owner : Option InitialOwnerImport) (own : StatePlanEntries) : Prop where
  within : x.within graph use.resource range = true
  owner_eq : resolveInitialOwner (graph.resourceAt use.resource.index)
    (graph.textureForResource use.resource) range t.queue = some owner
  planned : own = (planFromInitialState (graph.resourceAt use.resource.index) use t range owner
    owner.isSome).ranged

/-- The first use of a planned task over a cell, by the users before it. -/
lemma PlannedGraph.plan_at_cell
    (h : PlannedGraph graph topology assignments plan entries exports) {k : ℕ}
    {t : GpuCompiledTask} (ht : plan.tasks[k]? = some t) {e : StatePlanEntries}
    (he : entries[k]? = some e) {use : GpuTaskResourceUse}
    (huse : firstUse graph x (declaredUses graph t) = some use) :
    (∃ i u previousUse range previousRange, PreviousUser graph plan x k i u previousUse ∧
        PlannedAfter graph topology plan x t use i u previousUse range previousRange
          (e.restrict graph x)) ∨
      ((∀ j < k, ∀ u, plan.tasks[j]? = some u → usesCell graph x u = false) ∧
        ∃ range owner, PlannedFirst graph x t use range owner (e.restrict graph x)) := by
  obtain ⟨e', he', trace⟩ := h.trace.at_task k t ht
  obtain rfl := Option.some.inj (he.symm.trans he')
  have hcell := trace.at_cell (h.accepted ht) x
  have hhistory : HistoryAt graph plan x k _ :=
    historyAt_latestState (Nat.le_of_lt (List.getElem?_eq_some_iff.1 ht).1)
  rw [TaskEntriesAt, huse] at hcell
  obtain ⟨range, hwithin, hplanned⟩ := hcell
  cases hlatest : latestState graph x (trackedBefore graph plan k) with
  | none =>
    rw [hlatest] at hhistory hplanned
    obtain ⟨owner, howner, hown⟩ := hplanned
    exact Or.inr ⟨hhistory, range, owner, hwithin, howner, hown⟩
  | some state =>
    rw [hlatest] at hhistory hplanned
    obtain ⟨i, u, previousUse, previousRange, hprevious, rfl⟩ := hhistory
    exact Or.inl ⟨i, u, previousUse, range, previousRange, hprevious, hwithin, hplanned⟩

/-- After a user of the cell, a first use is planned by a handoff from that user's packet and a
transition from the state it left. -/
lemma PlannedGraph.handoff_at_cell
    (h : PlannedGraph graph topology assignments plan entries exports) {k : ℕ}
    {t : GpuCompiledTask} (ht : plan.tasks[k]? = some t) {e : StatePlanEntries}
    (he : entries[k]? = some e) {use : GpuTaskResourceUse}
    (huse : firstUse graph x (declaredUses graph t) = some use) {i : ℕ} {u : GpuCompiledTask}
    {previousUse : GpuTaskResourceUse} (hprevious : PreviousUser graph plan x k i u previousUse) :
    ∃ range previousRange handoff, x.within graph use.resource range = true ∧
      planPacketHandoff topology plan (graph.resourceAt use.resource.index) use t range
        (trackedState u previousUse previousRange) = some handoff ∧
      e.restrict graph x = (handoff ++ planTransition (graph.resourceAt use.resource.index) use t
        range (trackedState u previousUse previousRange)).ranged := by
  rcases h.plan_at_cell ht he huse with
    ⟨i', u', previousUse', range, previousRange, hprevious', hplanned⟩ | ⟨hunused, -⟩
  · obtain ⟨rfl, rfl, rfl⟩ := hprevious.unique hprevious'
    obtain ⟨planned, hrange, hown⟩ := hplanned.planned
    simp only [planFromPreviousState, Option.bind_eq_bind, Option.bind_eq_some_iff,
      Option.some.injEq] at hrange
    obtain ⟨handoff, hhandoff, rfl⟩ := hrange
    exact ⟨range, previousRange, handoff, hplanned.within, hhandoff, hown⟩
  · have := hunused i hprevious.lt u hprevious.task_at
    rw [usesCell_of_lastUse hprevious.last] at this
    cases this

end Cell

end NwbLot.TaskGraph
