import NwbLot.TaskGraph.EpilogueBarriers
import NwbLot.TaskGraph.PacketOrder

/-!
# Ownership transfers

Every release that state planning hangs on an earlier task belongs to one acquire in the prologue of
the task that asked for it.  Paired up, the releases and acquires of a plan are one list of
transfers; what is left are acquires from external owners and releases to external queues.
-/

namespace NwbLot.TaskGraph

/-! ## Transfers -/

/-- A release in the epilogue of one task with the acquire in the prologue of a later one. -/
structure OwnershipTransfer where
  releaser : GpuTaskId
  consumer : GpuTaskId
  release : GpuCompiledBarrier
  acquire : GpuCompiledBarrier

section Sound

variable (graph : GpuTaskGraph) (topology : GpuTaskGraphQueueTopology) (plan : GpuCompiledGraph)

/-- A release of the task at `k` from the earlier task that holds the range. -/
structure TransferBetween (i k : ℕ) (u t : GpuCompiledTask) (release : GpuCompiledBarrier) :
    Prop where
  lt : i < k
  releaser_at : plan.tasks[i]? = some u
  consumer_at : plan.tasks[k]? = some t
  source_eq : release.sourceQueue = u.queue
  destination_eq : release.destinationQueue = t.queue
  isRelease : release.type.isOwnershipRelease = true
  isInitialOwnerHandoff : release.isInitialOwnerHandoff = false
  exclusive : ExclusivelyShared graph topology release.resource
  families : sameFamily plan u.queue t.queue = false

end Sound

/-! ## What one task appends -/

section Task

variable {graph : GpuTaskGraph} {topology : GpuTaskGraphQueueTopology} {plan : GpuCompiledGraph}
  {assignments : GpuTaskGraphQueueAssignments} {entries : List StatePlanEntries}
  {exports : ExternalExportPlan}

/-- What the entries of the task at `k` say about its transfers. -/
structure PairedEntries (graph : GpuTaskGraph) (topology : GpuTaskGraphQueueTopology)
    (plan : GpuCompiledGraph) (k : ℕ) (t : GpuCompiledTask) (entries : StatePlanEntries) :
    Prop where
  acquires : entries.prologueBarriers.filter (·.isInternalAcquire)
    = entries.pendingEpilogueBarriers.map (·.barrier.acquireOf)
  transfers : ∀ pending ∈ entries.pendingEpilogueBarriers, ∃ i u, pending.task = u.task ∧
    TransferBetween graph topology plan i k u t pending.barrier ∧
    ∃ seed ∈ entries.prologueStateSeeds, seed.sourcePacket = u.packet

lemma PairedEntries.append {k : ℕ} {t : GpuCompiledTask} {a b : StatePlanEntries}
    (ha : PairedEntries graph topology plan k t a) (hb : PairedEntries graph topology plan k t b) :
    PairedEntries graph topology plan k t (a ++ b) where
  acquires := by
    rw [StatePlanEntries.append_barriers, List.filter_append, ha.acquires, hb.acquires,
      StatePlanEntries.append_pending, List.map_append]
  transfers := by
    intro pending hmem
    rcases List.mem_append.1 hmem with hleft | hright
    · obtain ⟨i, u, htask, hbetween, seed, hseed, hsource⟩ := ha.transfers pending hleft
      exact ⟨i, u, htask, hbetween, seed, List.mem_append_left _ hseed, hsource⟩
    · obtain ⟨i, u, htask, hbetween, seed, hseed, hsource⟩ := hb.transfers pending hright
      exact ⟨i, u, htask, hbetween, seed, List.mem_append_right _ hseed, hsource⟩

/-- Entries without releases and internal acquires. -/
lemma pairedEntries_of_empty {k : ℕ} {t : GpuCompiledTask} {entries : StatePlanEntries}
    (hbarriers : ∀ barrier ∈ entries.prologueBarriers, barrier.isInternalAcquire = false)
    (hpending : entries.pendingEpilogueBarriers = []) :
    PairedEntries graph topology plan k t entries where
  acquires := by
    rw [hpending, List.map_nil, List.filter_eq_nil_iff]
    intro barrier hmem
    simp [hbarriers barrier hmem]
  transfers := by
    intro pending hmem
    rw [hpending] at hmem
    cases hmem

/-- An exclusive handoff pairs its release with its acquire and keeps its seed. -/
lemma pairedEntries_of_handoff
    (h : PlannedGraph graph topology assignments plan entries exports) {k : ℕ}
    {t : GpuCompiledTask} (ht : plan.tasks[k]? = some t) {use : GpuTaskResourceUse}
    {range : GpuTaskResourceRange} {state : TrackedCompiledResourceState}
    (hstate : state.task = t.task ∨ ∃ i u, i < k ∧ plan.tasks[i]? = some u ∧
      state.task = u.task ∧ state.queue = u.queue)
    (hother : plan.findCompiledPacketForTask state.task ≠ t.packet)
    {source destination : GpuPhysicalQueueInfo} {handoff : StatePlanEntries}
    (hcase : PacketHandoff topology plan (graph.resourceAt use.resource.index) use t range state
      source destination handoff)
    (hexclusive : requiresExclusiveOwnershipHandoff topology
      (graph.resourceAt use.resource.index) source destination = true)
    {release acquire : GpuCompiledBarrierType}
    (hpair : OwnershipPair (graph.resourceAt use.resource.index) use t range state handoff release
      acquire) : PairedEntries graph topology plan k t handoff := by
  simp only [requiresExclusiveOwnershipHandoff, Bool.and_eq_true, Bool.not_eq_true', bne_iff_ne]
    at hexclusive
  obtain ⟨hshared, hfamilies⟩ := hexclusive
  rcases hstate with hown | ⟨i, u, hi, hu, htask, hqueue⟩
  · exact absurd (hown ▸ h.layout.packet_at ht) hother
  have hpacket : plan.findCompiledPacketForTask state.task = u.packet := by
    rw [htask]
    exact h.layout.packet_at hu
  have hkeeps : ¬ mayOmitInternalStateSeed use state (resourceSharesQueuePairConcurrently
      (graph.resourceAt use.resource.index).queueSharing topology source destination) = true := by
    rw [mayOmitInternalStateSeed]
    intro homitted
    simp only [Bool.and_eq_true] at homitted
    rw [resourceUsesConcurrentQueueSharing_of_pair homitted.2] at hshared
    cases hshared
  refine ⟨?_, fun pending hmem => ?_⟩
  · rw [hpair.barriers, hpair.pending, acquireOf_ownershipReleaseBarrierType hpair.release_eq
      hpair.acquire_eq]
    have hacquire := ownershipAcquireBarrierType_isOwnershipAcquire hpair.acquire_eq
    rw [acquireOf_ownershipReleaseBarrierType hpair.release_eq hpair.acquire_eq] at hacquire
    simp [GpuCompiledBarrier.isInternalAcquire, GpuCompiledBarrier.acquireOf, hacquire]
  · rw [hpair.pending, List.mem_singleton] at hmem
    subst hmem
    have hdiffer : sameFamily plan u.queue t.queue = false := by
      rw [← hqueue, sameFamily, hcase.source_eq, hcase.destination_eq]
      simpa using hfamilies
    refine ⟨i, u, htask, ⟨hi, hu, ht, hqueue, rfl,
      ownershipReleaseBarrierType_isOwnershipRelease hpair.release_eq, rfl, hshared, hdiffer⟩, ?_⟩
    have hseeds := hcase.seeds
    rw [if_neg hkeeps, hpacket] at hseeds
    exact ⟨_, hseeds ▸ List.mem_cons_self, rfl⟩

/-- The entries of every planned task are paired. -/
theorem PlannedGraph.pairedEntries
    (h : PlannedGraph graph topology assignments plan entries exports) {k : ℕ}
    {t : GpuCompiledTask} (ht : plan.tasks[k]? = some t) {e : StatePlanEntries}
    (he : entries[k]? = some e) : PairedEntries graph topology plan k t e := by
  obtain ⟨e', he', trace⟩ := h.trace.at_task k t ht
  obtain rfl := Option.some.inj (he.symm.trans he')
  obtain ⟨taskQueue, new, -, huses⟩ := trace.planned
  have rule : EntryRule graph topology plan t (PairedEntries graph topology plan k t)
      (fun state => state.task = t.task ∨ ∃ i u, i < k ∧ plan.tasks[i]? = some u ∧
        state.task = u.task ∧ state.queue = u.queue) := {
    empty := pairedEntries_of_empty (by simp) rfl
    append := fun a b ha hb => ha.append hb
    previous := by
      intro use range state planned hstate hplanned
      simp only [planFromPreviousState, Option.bind_eq_bind, Option.bind_eq_some_iff,
        Option.some.injEq] at hplanned
      obtain ⟨handoff, hhandoff, rfl⟩ := hplanned
      refine PairedEntries.append ?_ (pairedEntries_of_empty (fun barrier hmem => ?_)
        planTransition_rest.2)
      · rcases planPacketHandoff_cases hhandoff with ⟨-, rfl⟩ | ⟨hother, source, destination, hcase⟩
        · exact pairedEntries_of_empty (by simp) rfl
        cases hexclusive : requiresExclusiveOwnershipHandoff topology
            (graph.resourceAt use.resource.index) source destination
        · obtain ⟨hpending, hbarriers⟩ := hcase.shared hexclusive
          exact pairedEntries_of_empty (by simp [hbarriers]) hpending
        · obtain ⟨release, acquire, hpair⟩ := hcase.exclusive hexclusive
          exact pairedEntries_of_handoff h ht hstate hother hcase hexclusive hpair
      · simp [GpuCompiledBarrier.isInternalAcquire, planTransition_notAcquire barrier hmem]
    initial := by
      intro use range texture owner hasInitialOwnerStateSeed _
      exact pairedEntries_of_empty planFromInitialState_notInternal.1
        planFromInitialState_notInternal.2
    own := fun use range => Or.inl rfl }
  refine rule.taskUses huses fun state hmem => ?_
  obtain ⟨i, u, hi, hu, htask, hqueue⟩ := task_of_mem_trackedBefore hmem
  exact Or.inr ⟨i, u, hi, hu, htask, hqueue⟩

end Task

/-! ## The transfers of a plan -/

section Transfers

/-- The transfers into one task. -/
def transfersOf (t : GpuCompiledTask) (e : StatePlanEntries) : List OwnershipTransfer :=
  e.pendingEpilogueBarriers.map fun pending =>
    { releaser := pending.task, consumer := t.task, release := pending.barrier
      acquire := pending.barrier.acquireOf }

/-- The transfers of a plan, in the order of their consumers. -/
def planTransfers (tasks : List GpuCompiledTask) (entries : List StatePlanEntries) :
    List OwnershipTransfer :=
  (tasks.zip entries).flatMap fun planned => transfersOf planned.1 planned.2

/-- The transfers from one task are its pending barriers. -/
lemma planTransfers_from {tasks : List GpuCompiledTask} {entries : List StatePlanEntries}
    (hlength : entries.length = tasks.length) (id : GpuTaskId) :
    ((planTransfers tasks entries).filter (·.releaser == id)).map (·.release)
      = pendingOf (StatePlanEntries.concat entries).pendingEpilogueBarriers id := by
  induction entries generalizing tasks with
  | nil => simp [planTransfers, pendingOf]
  | cons e rest ih =>
    cases tasks with
    | nil => simp at hlength
    | cons t more =>
      have htail := ih (Nat.succ.inj hlength)
      rw [planTransfers] at htail ⊢
      rw [List.zip_cons_cons, List.flatMap_cons, List.filter_append, List.map_append, htail]
      simp [transfersOf, pendingOf, List.filter_map, Function.comp_def]

/-- Every transfer comes from the entries of its consumer. -/
lemma exists_of_mem_planTransfers {tasks : List GpuCompiledTask}
    {entries : List StatePlanEntries} {transfer : OwnershipTransfer}
    (hmem : transfer ∈ planTransfers tasks entries) :
    ∃ (k : ℕ) (t : GpuCompiledTask) (e : StatePlanEntries), tasks[k]? = some t ∧
      entries[k]? = some e ∧ transfer ∈ transfersOf t e := by
  obtain ⟨⟨t, e⟩, hplanned, htransfer⟩ := List.mem_flatMap.1 hmem
  obtain ⟨k, hk⟩ := List.mem_iff_getElem?.1 hplanned
  obtain ⟨ht, he⟩ := List.getElem?_zip_eq_some.1 hk
  exact ⟨k, t, e, ht, he, htransfer⟩

variable {graph : GpuTaskGraph} {topology : GpuTaskGraphQueueTopology} {plan : GpuCompiledGraph}
  {assignments : GpuTaskGraphQueueAssignments} {entries : List StatePlanEntries}
  {exports : ExternalExportPlan} {x : ResourceCell}

namespace PlannedGraph

variable (h : PlannedGraph graph topology assignments plan entries exports)
include h

/-- The transfers into one task are those of its own entries. -/
lemma planTransfers_into {k : ℕ} {t : GpuCompiledTask} (ht : plan.tasks[k]? = some t)
    {e : StatePlanEntries} (he : entries[k]? = some e) :
    (planTransfers plan.tasks entries).filter (·.consumer == t.task) = transfersOf t e := by
  have hmem : (t, e) ∈ plan.tasks.zip entries :=
    List.mem_of_getElem? (List.getElem?_zip_eq_some.2 ⟨ht, he⟩)
  refine @OptionList.filter_flatMap_of_key_nodup _ _ _ _
    (fun planned : GpuCompiledTask × StatePlanEntries => planned.1.task) _ _ ?_ _ ?_ _ hmem
  · rintro ⟨u, e'⟩ transfer htransfer
    obtain ⟨pending, -, rfl⟩ := List.mem_map.1 htransfer
    rfl
  · have hkeys : (plan.tasks.zip entries).map (fun planned => planned.1.task)
        = plan.tasks.map (·.task) := by
      rw [← Function.comp_def, ← List.map_map, List.map_fst_zip]
      exact Nat.le_of_eq h.trace.entries_length.symm
    rw [hkeys, h.layout.tasks_eq]
    exact h.layout.order_nodup

end PlannedGraph

end Transfers

end NwbLot.TaskGraph
