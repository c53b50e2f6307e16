import NwbLot.TaskGraph.OwnershipReplay
import NwbLot.TaskGraph.UseOrdering

/-!
# The ownership protocol of exclusive resources

The transfers of a compiled plan match its releases and acquires one to one, up to imports from
external owners and releases to external queues; every family crossing of a cell has its transfer,
between consecutive users, behind a packet dependency.  An import takes a cell over from an owner
its resource declares, in the declared initial state, before any task uses it.
-/

namespace NwbLot.TaskGraph

/-! ## The protocol -/

section Protocol

variable (graph : GpuTaskGraph) (topology : GpuTaskGraphQueueTopology) (plan : GpuCompiledGraph)

/-- The release hands a resource to the external queue its declaration names. -/
def IsFinalRelease (release : GpuCompiledBarrier) : Prop :=
  (graph.resourceAt release.resource.index).externalFinalReleaseDestinationQueue.valid = true ∧
    release.destinationQueue
      = (graph.resourceAt release.resource.index).externalFinalReleaseDestinationQueue ∧
    release.sourceQueue ≠ release.destinationQueue

/-- One release of the releaser's epilogue with its acquire in the consumer's prologue. -/
structure TransferSound (transfer : OwnershipTransfer) (i k : ℕ) (u t : GpuCompiledTask) :
    Prop where
  releaser_eq : transfer.releaser = u.task
  consumer_eq : transfer.consumer = t.task
  /-- Both name the same range, queues and states. -/
  acquire_eq : transfer.acquire = transfer.release.acquireOf
  between : TransferBetween graph topology plan i k u t transfer.release
  depends : DependsOn plan t.packet u.packet
  /-- Both tasks use the cells, and nobody between them does. -/
  cells : ∀ x, barrierCovers graph x transfer.release = true → usesCell graph x u = true ∧
    usesCell graph x t = true ∧ UnusedBetween graph plan x i k

/-- An acquire from an external owner, over one cell: one of the declared handoffs, taken over by the
first user. -/
structure ImportSound (x : ResourceCell) (k : ℕ) (t : GpuCompiledTask)
    (acquire : GpuCompiledBarrier) : Prop where
  destination_eq : acquire.destinationQueue = t.queue
  before_eq : acquire.before = (graph.resourceAt acquire.resource.index).initialState
  after_eq : acquire.after = (graph.resourceAt acquire.resource.index).initialState
  used : usesCell graph x t = true
  first : ∀ j < k, ∀ u, plan.tasks[j]? = some u → usesCell graph x u = false
  declared : ∃ handoffs, declaredOwner graph x = .handedOver handoffs ∧
    (acquire.sourceQueue, acquire.destinationQueue) ∈ handoffs

/-- What a plan promises about exclusive resources, with the list of its transfers. -/
structure OwnershipProtocol (transfers : List OwnershipTransfer) : Prop where
  /-- Every acquire that is not from an external owner belongs to one transfer. -/
  acquires : ∀ (k : ℕ) (t : GpuCompiledTask), plan.tasks[k]? = some t →
    (plan.prologueBarriersOf t).filter (·.isInternalAcquire)
      = (transfers.filter (·.consumer == t.task)).map (·.acquire)
  /-- So does every release that is not to an external queue. -/
  releases : ∀ (i : ℕ) (u : GpuCompiledTask), plan.tasks[i]? = some u → ∃ finals,
    (plan.epilogueBarriersOf u).filter (·.type.isOwnershipRelease)
      = (transfers.filter (·.releaser == u.task)).map (·.release) ++ finals ∧
    ∀ release ∈ finals, IsFinalRelease graph release
  transfers_sound : ∀ transfer ∈ transfers, ∃ i k u t,
    TransferSound graph topology plan transfer i k u t
  imports_sound : ∀ (k : ℕ) (t : GpuCompiledTask), plan.tasks[k]? = some t →
    ∀ acquire ∈ plan.prologueBarriersOf t, acquire.isInitialOwnerHandoff = true →
      ∀ x, barrierCovers graph x acquire = true → ImportSound graph plan x k t acquire
  /-- A cell that crosses families between two users has a transfer between them. -/
  crossings : ∀ x, ExclusivelyShared graph topology x.resource →
    ∀ (i k : ℕ) (u t : GpuCompiledTask) (use : GpuTaskResourceUse),
      PreviousUser graph plan x k i u use → plan.tasks[k]? = some t → usesCell graph x t = true →
      sameFamily plan u.queue t.queue = false →
      ∃ transfer ∈ transfers, transfer.releaser = u.task ∧ transfer.consumer = t.task ∧
        barrierCovers graph x transfer.release = true
  /-- Users of an exclusive cell execute in compiled order. -/
  users : ∀ x, ExclusivelyShared graph topology x.resource →
    ∀ (i k : ℕ) (u t : GpuCompiledTask), i < k → plan.tasks[i]? = some u →
      usesCell graph x u = true → plan.tasks[k]? = some t → usesCell graph x t = true →
      ExecutesBefore plan i k
  /-- From its declared owner on, every use finds the cell with its queue's family. -/
  owners : ∀ x, ExclusivelyShared graph topology x.resource → ∀ k ≤ plan.tasks.length,
    (replayedOwner graph plan x k).isSome = true

/-- Every release and every acquire belongs to one transfer between tasks of the plan. -/
structure FullyMatched (transfers : List OwnershipTransfer) : Prop where
  acquires : ∀ t ∈ plan.tasks, (plan.prologueBarriersOf t).filter (·.type.isOwnershipAcquire)
    = (transfers.filter (·.consumer == t.task)).map (·.acquire)
  releases : ∀ u ∈ plan.tasks, (plan.epilogueBarriersOf u).filter (·.type.isOwnershipRelease)
    = (transfers.filter (·.releaser == u.task)).map (·.release)
  tasks : ∀ transfer ∈ transfers, (∃ u ∈ plan.tasks, transfer.releaser = u.task) ∧
    ∃ t ∈ plan.tasks, transfer.consumer = t.task

variable {graph topology plan} {assignments : GpuTaskGraphQueueAssignments}
  {entries : List StatePlanEntries} {exports : ExternalExportPlan}

namespace PlannedGraph

variable (h : PlannedGraph graph topology assignments plan entries exports)
include h

lemma releases_split {i : ℕ} {u : GpuCompiledTask} (hu : plan.tasks[i]? = some u) :
    ∃ finals, (plan.epilogueBarriersOf u).filter (·.type.isOwnershipRelease)
        = ((planTransfers plan.tasks entries).filter (·.releaser == u.task)).map (·.release)
          ++ finals ∧
      ∀ release ∈ finals, IsFinalRelease graph release := by
  obtain ⟨e, -, trace⟩ := h.trace.at_task i u hu
  have hsplit : plan.epilogueBarriersOf u
      = pendingOf (StatePlanEntries.concat entries).pendingEpilogueBarriers u.task
        ++ pendingOf exports.pendingEpilogueBarriers u.task := by
    rw [trace.epilogue, pendingOf, List.filter_append, List.map_append]
    rfl
  have hinternal : ∀ release ∈
      pendingOf (StatePlanEntries.concat entries).pendingEpilogueBarriers u.task,
        release.type.isOwnershipRelease = true := by
    intro release hmem
    obtain ⟨pending, hpending, rfl⟩ := List.mem_map.1 hmem
    obtain ⟨k, e', he', hlisted⟩ :=
      StatePlanEntries.exists_of_mem_concat_pending (List.mem_filter.1 hpending).1
    have hk : k < plan.tasks.length :=
      h.trace.entries_length ▸ (List.getElem?_eq_some_iff.1 he').1
    obtain ⟨j, v, -, hbetween, -⟩ :=
      (h.pairedEntries (List.getElem?_eq_getElem hk) he').transfers pending hlisted
    exact hbetween.isRelease
  rw [planTransfers_from h.trace.entries_length, hsplit, List.filter_append,
    List.filter_eq_self.2 hinternal]
  refine ⟨_, rfl, fun release hmem => ?_⟩
  obtain ⟨hlisted, hrelease⟩ := List.mem_filter.1 hmem
  obtain ⟨pending, hpending, rfl⟩ := List.mem_map.1 hlisted
  obtain ⟨index, terminals, hterminals, terminal, hterminal, hbarrier⟩ :=
    exportedFrom_of_mem h.exported pending (List.mem_filter.1 hpending).1
  rcases hbarrier.kind with hexport | ⟨-, hvalid, hdestination, hne⟩
  · rw [isOwnershipRelease_of_stateExport hexport] at hrelease
    cases hrelease
  · have hresource : pending.barrier.resource.index = index := by
      rw [hbarrier.resource_eq, resource_of_terminal hterminals hterminal]
      rfl
    rw [IsFinalRelease, hresource, hdestination, hbarrier.source_eq]
    exact ⟨hvalid, rfl, hne⟩

lemma transferSound (hwell : PacketPlanWellFormed (analyze graph) assignments plan)
    {transfer : OwnershipTransfer} (hmem : transfer ∈ planTransfers plan.tasks entries) :
    ∃ i k u t, TransferSound graph topology plan transfer i k u t := by
  obtain ⟨k, t, e, ht, he, htransfer⟩ := exists_of_mem_planTransfers hmem
  obtain ⟨pending, hpending, rfl⟩ := List.mem_map.1 htransfer
  obtain ⟨i, u, htask, hbetween, seed, hseed, hsource⟩ :=
    (h.pairedEntries ht he).transfers pending hpending
  obtain ⟨e', he', trace⟩ := h.trace.at_task k t ht
  obtain rfl := Option.some.inj (he.symm.trans he')
  obtain ⟨seeds, hseeds, hdepends⟩ := hwell.seeds t (List.mem_of_getElem? ht)
  obtain rfl := Option.some.inj (hseeds.symm.trans trace.seeds)
  refine ⟨i, k, u, t, htask, rfl, rfl, hbetween, hsource ▸ hdepends seed hseed, fun x hcovers => ?_⟩
  obtain ⟨huses, j, v, use, hprevious, -, htask'⟩ :=
    h.release_of_pending ht he (List.mem_filter.2 ⟨hpending, hcovers⟩)
  obtain rfl := h.layout.position_unique hbetween.releaser_at hprevious.task_at
    (htask.symm.trans htask')
  obtain rfl := Option.some.inj (hbetween.releaser_at.symm.trans hprevious.task_at)
  exact ⟨usesCell_of_lastUse hprevious.last, huses, hprevious.unused⟩

lemma importSound {k : ℕ} {t : GpuCompiledTask} (ht : plan.tasks[k]? = some t)
    {acquire : GpuCompiledBarrier} (hmem : acquire ∈ plan.prologueBarriersOf t)
    (hhandoff : acquire.isInitialOwnerHandoff = true) {x : ResourceCell}
    (hcovers : barrierCovers graph x acquire = true) : ImportSound graph plan x k t acquire := by
  obtain ⟨e, he, trace⟩ := h.trace.at_task k t ht
  have hover : acquire ∈ (e.restrict graph x).prologueBarriers :=
    List.mem_filter.2 ⟨trace.barriers ▸ hmem, hcovers⟩
  cases huses : usesCell graph x t with
  | false =>
    rw [h.restrict_of_unused ht huses he] at hover
    cases hover
  | true =>
    obtain ⟨use, huse⟩ := exists_firstUse huses
    rcases h.plan_at_cell ht he huse with
      ⟨i, u, previousUse, range, previousRange, -, hafter⟩ | ⟨hunused, range, owner, hfirst⟩
    · obtain ⟨planned, hplanned, heq⟩ := hafter.planned
      rw [heq] at hover
      rw [not_handoff_of_previousState hplanned acquire hover] at hhandoff
      cases hhandoff
    · rw [hfirst.planned] at hover
      obtain ⟨owner, rfl, rfl⟩ := import_of_handoff hover hhandoff
      exact ⟨rfl, rfl, rfl, huses, hunused,
        declaredOwner_of_some hfirst.within hfirst.owner_eq⟩

omit h in
/-- Over an exclusive resource no seed is dropped. -/
lemma not_dropsSeed {x : ResourceCell} (hexclusive : ExclusivelyShared graph topology x.resource)
    (k : ℕ) : ¬ DropsSeed graph topology plan x k := by
  rintro ⟨i, u, previousUse, t, use, source, destination, -, -, -, -, -, -, -, -, -, hshared⟩
  rw [ExclusivelyShared, resourceUsesConcurrentQueueSharing_of_pair hshared] at hexclusive
  cases hexclusive

theorem ownershipProtocol (hwell : PacketPlanWellFormed (analyze graph) assignments plan) :
    OwnershipProtocol graph topology plan (planTransfers plan.tasks entries) where
  acquires := by
    intro k t ht
    obtain ⟨e, he, trace⟩ := h.trace.at_task k t ht
    rw [trace.barriers, (h.pairedEntries ht he).acquires, h.planTransfers_into ht he, transfersOf,
      List.map_map]
    rfl
  releases := fun i u hu => h.releases_split hu
  transfers_sound := fun transfer hmem => h.transferSound hwell hmem
  imports_sound := fun k t ht acquire hmem hhandoff x hcovers =>
    h.importSound ht hmem hhandoff hcovers
  crossings := by
    intro x hexclusive i k u t use hprevious ht huses hcross
    obtain ⟨e, he, -⟩ := h.trace.at_task k t ht
    obtain ⟨first, hfirst⟩ := exists_firstUse huses
    rcases h.takeover ht he hfirst hprevious with ⟨release, hrelease⟩ | hkept
    · have hmem : ({ task := u.task, barrier := release } : PendingCompiledEpilogueBarrier) ∈
          (e.restrict graph x).pendingEpilogueBarriers :=
        hrelease.pending_eq ▸ List.mem_cons_self
      have htransfer : ({ releaser := u.task, consumer := t.task, release
                          acquire := release.acquireOf } : OwnershipTransfer) ∈ transfersOf t e :=
        List.mem_map.2 ⟨_, (List.mem_filter.1 hmem).1, rfl⟩
      rw [← h.planTransfers_into ht he] at htransfer
      exact ⟨_, (List.mem_filter.1 htransfer).1, rfl, rfl, hrelease.covers⟩
    · rw [hkept.families hexclusive] at hcross
      cases hcross
  users := by
    intro x hexclusive i k u t hik hu huses ht huses'
    exact h.users_in_order hwell hik hu huses ht huses' fun j _ _ => not_dropsSeed hexclusive j
  owners := by
    intro x hexclusive k hk
    obtain ⟨owner, hreplayed, -⟩ := h.replayedOwner_history hexclusive hk
    rw [hreplayed]
    rfl

end PlannedGraph

end Protocol

/-- Every compiled plan follows the ownership protocol. -/
theorem compile_ownershipProtocol {assignQueues : QueueAssigner}
    {options : GpuTaskGraphCompileOptions} {planGeneration : CompiledPlanGeneration}
    {graph : GpuTaskGraph} {topology : GpuTaskGraphQueueTopology} {out : GpuTaskGraphCompilation}
    (h : compile assignQueues options planGeneration graph topology = some out) :
    ∃ transfers, OwnershipProtocol graph topology out.compiledGraph transfers := by
  obtain ⟨entries, exports, hplanned⟩ := plannedGraph_of_compile h
  exact ⟨_, hplanned.ownershipProtocol (packetPlanWellFormed_of_compile h)⟩

/-- A Graphics task fills a buffer that the Compute queue released to it, and a Compute task reads
it. -/
def returnedBufferGraph : GpuTaskGraph where
  generation := 1
  tasks :=
    [recordedTask 2 .graphics
      [{ resource := ⟨0, 1⟩, requiredState := ResourceStates.copyDest, access := .write }],
     recordedTask 3 .compute
      [{ resource := ⟨0, 1⟩, requiredState := ResourceStates.shaderResource }]]
  resources :=
    [{ bufferNode 1 ResourceStates.common with
        initialOwnerQueue := ⟨1, 1⟩
        initialOwnerReleaseDestinationQueue := ⟨0, 1⟩
        initialOwnerCompletion := ⟨0, 1⟩
        initialOwnerMinimumCompletionToken := ⟨.compute, 5, 1, 1⟩
        initialOwnerStateSource := some { deviceGeneration := 1 } }]
  externalCompletions := [9]
  generation_ne_zero := Nat.one_ne_zero
  tasks_length_le := by decide
  resources_length_le := by decide
  resources_declared := by decide

/-- The compiled example. -/
def returnedBufferCompilation : Option GpuTaskGraphCompilation :=
  compile assignPreferredQueues {} ⟨1, Nat.one_ne_zero⟩ returnedBufferGraph twoFamilyTopology

/-- The Graphics task imports the buffer and hands it back. -/
theorem compile_ownershipProtocol_twoFamilies : ∃ out, returnedBufferCompilation = some out ∧
    declaredOwner returnedBufferGraph ⟨⟨0, 1⟩, (0, 0)⟩ = .handedOver [(⟨1, 1⟩, ⟨0, 1⟩)] ∧
    out.compiledGraph.prologueBarriers.map (·.isInitialOwnerHandoff) = [true, false, false, false] ∧
    ∃ transfers, OwnershipProtocol returnedBufferGraph twoFamilyTopology out.compiledGraph
      transfers := by
  obtain ⟨out, hout, hhandoffs⟩ : ∃ out, returnedBufferCompilation = some out ∧
      out.compiledGraph.prologueBarriers.map (·.isInitialOwnerHandoff) = [true, false, false, false] :=
    ⟨_, rfl, by decide⟩
  exact ⟨out, hout, by decide, hhandoffs, compile_ownershipProtocol hout⟩

/-- A Graphics task fills a buffer that leaves the graph for the Compute queue. -/
def exportedBufferGraph : GpuTaskGraph where
  generation := 1
  tasks :=
    [recordedTask 1 .graphics
      [{ resource := ⟨0, 1⟩, requiredState := ResourceStates.copyDest, access := .write }]]
  resources :=
    [{ bufferNode 2 ResourceStates.common with
        externalFinalState := ResourceStates.shaderResource
        externalFinalReleaseDestinationQueue := ⟨1, 1⟩ }]
  externalCompletions := []
  generation_ne_zero := Nat.one_ne_zero
  tasks_length_le := by decide
  resources_length_le := by decide
  resources_declared := by decide

/-- The compiled example. -/
def exportedBufferCompilation : Option GpuTaskGraphCompilation :=
  compile assignPreferredQueues {} ⟨1, Nat.one_ne_zero⟩ exportedBufferGraph twoFamilyTopology

/-- The release to the external queue has no acquire in the plan. -/
theorem exportedBuffer_not_fullyMatched : ∃ out, exportedBufferCompilation = some out ∧
    ¬ ∃ transfers, FullyMatched out.compiledGraph transfers := by
  obtain ⟨out, hout, t, htasks, hacquires, hreleases⟩ : ∃ out, exportedBufferCompilation = some out ∧
      ∃ t, out.compiledGraph.tasks = [t] ∧
        (out.compiledGraph.prologueBarriersOf t).filter (·.type.isOwnershipAcquire) = [] ∧
        (out.compiledGraph.epilogueBarriersOf t).filter (·.type.isOwnershipRelease) ≠ [] :=
    ⟨_, rfl, _, rfl, by decide, by decide⟩
  refine ⟨out, hout, ?_⟩
  rintro ⟨transfers, hmatched⟩
  have hmem : t ∈ out.compiledGraph.tasks := htasks ▸ List.mem_cons_self
  have hnone := hmatched.acquires t hmem
  rw [hacquires, eq_comm, List.map_eq_nil_iff, List.filter_eq_nil_iff] at hnone
  apply hreleases
  rw [hmatched.releases t hmem, List.map_eq_nil_iff, List.filter_eq_nil_iff]
  intro transfer htransfer
  obtain ⟨-, u, hu, hconsumer⟩ := hmatched.tasks transfer htransfer
  rw [htasks, List.mem_singleton] at hu
  exact absurd (by simp [hconsumer, hu]) (hnone transfer htransfer)

end NwbLot.TaskGraph
