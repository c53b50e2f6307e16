import NwbLot.TaskGraph.TerminalExports

/-!
# Epilogue barriers

An epilogue holds the releases that later tasks of other queue families ask for and the barriers
export planning adds.  Over one cell, a release is asked for by the next user of the cell, and an
export stands in the epilogue of its last user.
-/

namespace NwbLot.TaskGraph

/-! ## Releases and acquires -/

/-- The acquire that answers a release. -/
def GpuCompiledBarrierType.acquireOf : GpuCompiledBarrierType → GpuCompiledBarrierType
  | .textureOwnershipRelease => .textureOwnershipAcquire
  | .bufferOwnershipRelease => .bufferOwnershipAcquire
  | .accelStructOwnershipRelease => .accelStructOwnershipAcquire
  | type => type

/-- A release differs from its acquire in the type only. -/
def GpuCompiledBarrier.acquireOf (release : GpuCompiledBarrier) : GpuCompiledBarrier :=
  { release with type := release.type.acquireOf }

/-- An acquire from another task of the graph, not from an external owner. -/
def GpuCompiledBarrier.isInternalAcquire (barrier : GpuCompiledBarrier) : Bool :=
  barrier.type.isOwnershipAcquire && !barrier.isInitialOwnerHandoff

lemma acquireOf_ownershipReleaseBarrierType {type : GpuGraphResourceType}
    {release acquire : GpuCompiledBarrierType}
    (hrelease : ownershipReleaseBarrierType type = some release)
    (hacquire : ownershipAcquireBarrierType type = some acquire) :
    acquire = release.acquireOf := by
  cases type <;> cases hrelease <;> cases hacquire <;> rfl

section Kinds

variable {graph : GpuTaskGraph} {topology : GpuTaskGraphQueueTopology} {plan : GpuCompiledGraph}

/-- Two queues of the plan lie in one family. -/
def sameFamily (plan : GpuCompiledGraph) (source destination : GpuPhysicalQueueId) : Bool :=
  match plan.findCompiledQueueInfo source, plan.findCompiledQueueInfo destination with
  | some s, some d => s.familyIndex == d.familyIndex
  | _, _ => false

/-- The resource is owned by one queue family at a time. -/
def ExclusivelyShared (graph : GpuTaskGraph) (topology : GpuTaskGraphQueueTopology)
    (resource : GpuGraphResourceId) : Prop :=
  resourceUsesConcurrentQueueSharing (graph.resourceAt resource.index).queueSharing topology = false

variable {resource : GpuTaskGraphResourceView} {use : GpuTaskResourceUse} {task : GpuCompiledTask}
  {range : GpuTaskResourceRange}

lemma planTransition_notAcquire {previousState : TrackedCompiledResourceState} :
    ∀ barrier ∈ (planTransition resource use task range previousState).prologueBarriers,
      barrier.type.isOwnershipAcquire = false := by
  rw [planTransition_barriers]
  intro barrier hmem
  split at hmem
  · rw [List.mem_singleton.1 hmem]
    dsimp only
    split_ifs <;> simp
  · cases hmem

lemma planFromInitialState_notInternal {owner : Option InitialOwnerImport}
    {hasInitialOwnerStateSeed : Bool} :
    (∀ barrier ∈ (planFromInitialState resource use task range owner
        hasInitialOwnerStateSeed).prologueBarriers, barrier.isInternalAcquire = false) ∧
      (planFromInitialState resource use task range owner
        hasInitialOwnerStateSeed).pendingEpilogueBarriers = [] := by
  have htransition : ∀ barrier ∈ (planInitialTransition resource use task range
      hasInitialOwnerStateSeed).prologueBarriers, barrier.isInternalAcquire = false := by
    simp only [planInitialTransition]
    split
    · intro barrier hmem
      rw [List.mem_singleton.1 hmem]
      simp [GpuCompiledBarrier.isInternalAcquire]
    · simp
  have hpending : (planInitialTransition resource use task range
      hasInitialOwnerStateSeed).pendingEpilogueBarriers = [] := by
    simp only [planInitialTransition]
    split <;> rfl
  cases owner with
  | none => exact ⟨htransition, hpending⟩
  | some owner =>
    refine ⟨fun barrier hmem => ?_, hpending⟩
    rcases List.mem_cons.1 hmem with rfl | hmem
    · simp [GpuCompiledBarrier.isInternalAcquire]
    · exact htransition barrier hmem

end Kinds

/-! ## The tasks that hold them -/

section Plan

variable {graph : GpuTaskGraph} {topology : GpuTaskGraphQueueTopology} {plan : GpuCompiledGraph}
  {assignments : GpuTaskGraphQueueAssignments} {entries : List StatePlanEntries}
  {exports : ExternalExportPlan} {x : ResourceCell}

/-- The task that holds a terminal barrier over a cell is the last user of the cell. -/
lemma PlannedGraph.last_user_of_exported
    (h : PlannedGraph graph topology assignments plan entries exports)
    {pending : PendingCompiledEpilogueBarrier} (hmem : pending ∈ exports.pendingEpilogueBarriers)
    (hcovers : barrierCovers graph x pending.barrier = true) :
    ∃ i t use, PreviousUser graph plan x plan.tasks.length i t use ∧ t.task = pending.task ∧
      t.queue = pending.barrier.sourceQueue := by
  obtain ⟨index, terminals, hterminals, terminal, hterminal, hbarrier⟩ :=
    exportedFrom_of_mem h.exported pending hmem
  rw [barrierCovers, hbarrier.resource_eq, hbarrier.range_eq] at hcovers
  have hhistory : HistoryAt graph plan x plan.tasks.length _ :=
    historyAt_latestState (Nat.le_refl _)
  rw [latestState_of_terminal hterminals hterminal hcovers] at hhistory
  obtain ⟨i, t, use, range, hlast, hstate⟩ := hhistory
  refine ⟨i, t, use, hlast, ?_, ?_⟩
  · rw [hbarrier.task_eq, hstate]
    rfl
  · rw [hbarrier.source_eq, hstate]
    rfl

/-- A cell handed from one task to another with a release and its acquire. -/
structure CellRelease (graph : GpuTaskGraph) (topology : GpuTaskGraphQueueTopology)
    (plan : GpuCompiledGraph) (x : ResourceCell) (u t : GpuCompiledTask) (own : StatePlanEntries)
    (release : GpuCompiledBarrier) : Prop where
  pending_eq : own.pendingEpilogueBarriers = [{ task := u.task, barrier := release }]
  acquires_eq : own.prologueBarriers.filter (·.type.isOwnershipAcquire) = [release.acquireOf]
  isRelease : release.type.isOwnershipRelease = true
  isInitialOwnerHandoff : release.isInitialOwnerHandoff = false
  source_eq : release.sourceQueue = u.queue
  destination_eq : release.destinationQueue = t.queue
  covers : barrierCovers graph x release = true
  exclusive : ExclusivelyShared graph topology x.resource
  families : sameFamily plan u.queue t.queue = false

/-- A cell taken over without a release. -/
structure CellKept (graph : GpuTaskGraph) (topology : GpuTaskGraphQueueTopology)
    (plan : GpuCompiledGraph) (x : ResourceCell) (u t : GpuCompiledTask) (own : StatePlanEntries) :
    Prop where
  pending_eq : own.pendingEpilogueBarriers = []
  acquires_eq : own.prologueBarriers.filter (·.type.isOwnershipAcquire) = []
  families : ExclusivelyShared graph topology x.resource → sameFamily plan u.queue t.queue = true

variable {k : ℕ} {t : GpuCompiledTask}

/-- The queue of a planned task is one of the topology. -/
lemma PlannedGraph.exists_queueInfo
    (h : PlannedGraph graph topology assignments plan entries exports)
    (ht : plan.tasks[k]? = some t) :
    ∃ info, plan.findCompiledQueueInfo t.queue = some info := by
  obtain ⟨e, -, trace⟩ := h.trace.at_task k t ht
  obtain ⟨taskQueue, new, hqueue, -⟩ := trace.planned
  exact ⟨taskQueue, hqueue⟩

namespace PlannedGraph

variable (h : PlannedGraph graph topology assignments plan entries exports) {k : ℕ}
  {t : GpuCompiledTask} (ht : plan.tasks[k]? = some t) {e : StatePlanEntries}
  (he : entries[k]? = some e)
include h ht he

/-- A task takes a cell over from its previous user with a release and an acquire, exactly when
their queues lie in different families and the resource is exclusive. -/
theorem takeover {use : GpuTaskResourceUse}
    (huse : firstUse graph x (declaredUses graph t) = some use) {i : ℕ} {u : GpuCompiledTask}
    {previousUse : GpuTaskResourceUse} (hprevious : PreviousUser graph plan x k i u previousUse) :
    (∃ release, CellRelease graph topology plan x u t (e.restrict graph x) release) ∨
      CellKept graph topology plan x u t (e.restrict graph x) := by
  have hresource := resource_of_useCovers (useCovers_of_firstUse huse).2
  obtain ⟨range, previousRange, handoff, hwithin, hhandoff, hown⟩ :=
    h.handoff_at_cell ht he huse hprevious
  have hpending : (e.restrict graph x).pendingEpilogueBarriers
      = handoff.pendingEpilogueBarriers := by
    rw [hown, StatePlanEntries.ranged, StatePlanEntries.append_pending, planTransition_rest.2,
      List.append_nil]
  have hacquires : (e.restrict graph x).prologueBarriers.filter (·.type.isOwnershipAcquire)
      = handoff.prologueBarriers.filter (·.type.isOwnershipAcquire) := by
    have hnone : (planTransition (graph.resourceAt use.resource.index) use t range
        (trackedState u previousUse previousRange)).prologueBarriers.filter
          (·.type.isOwnershipAcquire) = [] :=
      List.filter_eq_nil_iff.2 fun barrier hmem => by
        simp [planTransition_notAcquire barrier hmem]
    rw [hown, StatePlanEntries.ranged, StatePlanEntries.append_barriers, List.filter_append,
      hnone, List.append_nil]
  rcases planPacketHandoff_cases hhandoff with ⟨hsame, rfl⟩ | ⟨-, source, destination, hcase⟩
  · -- tasks of one packet share its queue
    refine Or.inr ⟨hpending, hacquires, fun _ => ?_⟩
    have hpacket := (h.layout.packet_at hprevious.task_at).symm.trans hsame
    obtain ⟨packet, hplaced⟩ := h.layout.placed k t ht
    have hqueue : u.queue = t.queue :=
      (h.layout.queue_eq hprevious.task_at (hpacket ▸ hplaced.packet_at)).trans
        hplaced.queue.symm
    obtain ⟨info, hinfo⟩ := h.exists_queueInfo ht
    simp [sameFamily, hqueue, hinfo]
  have hsource : plan.findCompiledQueueInfo u.queue = some source := hcase.source_eq
  have hfamilies : sameFamily plan u.queue t.queue
      = (source.familyIndex == destination.familyIndex) := by
    rw [sameFamily, hsource, hcase.destination_eq]
  cases hexclusive : requiresExclusiveOwnershipHandoff topology
      (graph.resourceAt use.resource.index) source destination
  · obtain ⟨hnone, hbarriers⟩ := hcase.shared hexclusive
    refine Or.inr ⟨hpending.trans hnone, by rw [hacquires, hbarriers]; rfl, fun hshared => ?_⟩
    rw [ExclusivelyShared, ← hresource] at hshared
    simp only [requiresExclusiveOwnershipHandoff, hshared, Bool.not_false, Bool.true_and,
      bne_eq_false_iff_eq] at hexclusive
    simp [hfamilies, hexclusive]
  · obtain ⟨release, acquire, hpair⟩ := hcase.exclusive hexclusive
    simp only [requiresExclusiveOwnershipHandoff, Bool.and_eq_true, Bool.not_eq_true',
      bne_iff_ne] at hexclusive
    have hacquire := ownershipAcquireBarrierType_isOwnershipAcquire hpair.acquire_eq
    have htype := acquireOf_ownershipReleaseBarrierType hpair.release_eq hpair.acquire_eq
    refine Or.inl ⟨_, hpending.trans hpair.pending, ?_,
      ownershipReleaseBarrierType_isOwnershipRelease hpair.release_eq, rfl, rfl, rfl,
      hwithin, ?_, ?_⟩
    · rw [hacquires, hpair.barriers, List.filter_singleton, hacquire, htype]
      rfl
    · rw [ExclusivelyShared, ← hresource]
      exact hexclusive.1
    · simpa [hfamilies] using hexclusive.2

/-- A pending release over a cell comes from the previous user of the cell. -/
lemma release_of_pending {pending : PendingCompiledEpilogueBarrier}
    (hmem : pending ∈ (e.restrict graph x).pendingEpilogueBarriers) :
    usesCell graph x t = true ∧ ∃ i u previousUse, PreviousUser graph plan x k i u previousUse ∧
      CellRelease graph topology plan x u t (e.restrict graph x) pending.barrier ∧
      pending.task = u.task := by
  have huses : usesCell graph x t = true := by
    by_contra hunused
    rw [h.restrict_of_unused ht (by simpa using hunused) he] at hmem
    cases hmem
  obtain ⟨use, huse⟩ := exists_firstUse huses
  refine ⟨huses, ?_⟩
  rcases h.plan_at_cell ht he huse with
    ⟨i, u, previousUse, -, -, hprevious, -⟩ | ⟨-, range, owner, hfirst⟩
  · rcases h.takeover ht he huse hprevious with ⟨release, hrelease⟩ | hkept
    · have hpending := hmem
      rw [hrelease.pending_eq, List.mem_singleton] at hpending
      subst hpending
      exact ⟨i, u, previousUse, hprevious, hrelease, rfl⟩
    · rw [hkept.pending_eq] at hmem
      cases hmem
  · rw [hfirst.planned, StatePlanEntries.ranged, planFromInitialState_notInternal.2] at hmem
    cases hmem

end PlannedGraph

lemma isStateExport_of_release {type : GpuCompiledBarrierType}
    (h : type.isOwnershipRelease = true) : type.isStateExport = false := by
  cases type <;> first | rfl | cases h

/-- A state export over a cell stands in the epilogue of the cell's last user. -/
theorem PlannedGraph.last_user_of_stateExport
    (h : PlannedGraph graph topology assignments plan entries exports)
    (ht : plan.tasks[k]? = some t) {barrier : GpuCompiledBarrier}
    (hmem : barrier ∈ plan.epilogueBarriersOf t) (hexport : barrier.type.isStateExport = true)
    (hcovers : barrierCovers graph x barrier = true) :
    ∃ use, PreviousUser graph plan x plan.tasks.length k t use := by
  obtain ⟨e, -, trace⟩ := h.trace.at_task k t ht
  rw [trace.epilogue, pendingOf, List.mem_map] at hmem
  obtain ⟨pending, hpending, rfl⟩ := hmem
  obtain ⟨hlisted, htask⟩ := List.mem_filter.1 hpending
  rw [beq_iff_eq] at htask
  rcases List.mem_append.1 hlisted with hinternal | hexported
  · -- pending barriers of state planning are releases
    obtain ⟨j, e', he', hmem⟩ := StatePlanEntries.exists_of_mem_concat_pending hinternal
    have hj : j < plan.tasks.length :=
      h.trace.entries_length ▸ (List.getElem?_eq_some_iff.1 he').1
    obtain ⟨-, i, u, previousUse, -, hrelease, -⟩ := h.release_of_pending
      (List.getElem?_eq_getElem hj) he' (List.mem_filter.2 ⟨hmem, hcovers⟩)
    rw [isStateExport_of_release hrelease.isRelease] at hexport
    cases hexport
  · obtain ⟨i, u, use, hlast, hidentity, -⟩ := h.last_user_of_exported hexported hcovers
    obtain rfl := h.layout.position_unique ht hlast.task_at (htask.symm.trans hidentity.symm)
    obtain rfl := Option.some.inj (ht.symm.trans hlast.task_at)
    exact ⟨use, hlast⟩

end Plan

end NwbLot.TaskGraph
