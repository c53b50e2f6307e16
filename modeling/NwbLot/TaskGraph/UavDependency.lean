import NwbLot.TaskGraph.CellHistory
import NwbLot.TaskGraph.Compiler

/-!
# Memory dependencies of a cell

Between consecutive users of a cell state planning compares the last use of the earlier with the
first use of the later: a different state gives a transition, an unordered-access state with a
write on either side a UAV barrier.  Writes of the earlier task before its last use are not seen.
-/

namespace NwbLot.TaskGraph

variable (graph : GpuTaskGraph) (plan : GpuCompiledGraph) (x : ResourceCell)

/-- A transition or UAV barrier over the cell in the prologue of the task at a position. -/
def DependencyBarrier (position : ℕ) : Prop :=
  ∃ t, plan.tasks[position]? = some t ∧ ∃ barrier ∈ plan.prologueBarriersOf t,
    (barrier.type.isUav || barrier.type.isTransition) = true ∧
      barrierCovers graph x barrier = true

/-- Two uses in a row need a barrier: another state, or an unordered-access state and a write. -/
def dependencyDue (previousUse use : GpuTaskResourceUse) : Bool :=
  previousUse.requiredState != use.requiredState
    || (ResourceStates.hasUnorderedAccess previousUse.requiredState
      && (isWriteAccess previousUse.access || isWriteAccess use.access))

/-- The users of a cell at two positions are consecutive and need a barrier. -/
def DuePair (i j : ℕ) : Prop :=
  ∃ u previousUse t use, PreviousUser graph plan x j i u previousUse ∧ plan.tasks[j]? = some t ∧
    firstUse graph x (declaredUses graph t) = some use ∧ dependencyDue previousUse use = true

/-- The task at `a` writes the cell in an unordered-access state and the task at `c`, behind it,
first uses the cell in the same state. -/
structure UavHazard (a c : ℕ) : Prop where
  lt : a < c
  writer : ∃ t write, plan.tasks[a]? = some t ∧ write ∈ declaredUses graph t ∧
    useCovers graph x write = true ∧ isWriteAccess write.access = true ∧
    ResourceStates.hasUnorderedAccess write.requiredState = true ∧
    ∃ t' use, plan.tasks[c]? = some t' ∧ firstUse graph x (declaredUses graph t') = some use ∧
      use.requiredState = write.requiredState

/-- Every such hazard has a barrier over the cell behind the writer. -/
def UavDependenciesPlanned : Prop :=
  ∀ x a c, UavHazard graph plan x a c →
    ∃ j, a < j ∧ j ≤ c ∧ DependencyBarrier graph plan x j

variable {graph plan x}

/-! ## One range -/

section Range

variable {topology : GpuTaskGraphQueueTopology} {resource : GpuTaskGraphResourceView}
  {use previousUse : GpuTaskResourceUse} {t u : GpuCompiledTask}
  {range previousRange : GpuTaskResourceRange}

lemma due_iff_planned :
    (previousUse.requiredState != use.requiredState
        || needsUavDependency use (trackedState u previousUse previousRange))
      = dependencyDue previousUse use := by
  by_cases hstate : previousUse.requiredState = use.requiredState
  · simp [dependencyDue, needsUavDependency, trackedState, hstate]
  · have hdiffers : (previousUse.requiredState != use.requiredState) = true := by simpa using hstate
    simp [dependencyDue, hdiffers]

/-- A handoff holds no transition and no UAV barrier. -/
lemma planPacketHandoff_noDependency {entries : StatePlanEntries}
    {previousState : TrackedCompiledResourceState}
    (h : planPacketHandoff topology plan resource use t range previousState = some entries) :
    ∀ barrier ∈ entries.prologueBarriers,
      (barrier.type.isUav || barrier.type.isTransition) = false := by
  intro barrier hmem
  rcases planPacketHandoff_cases h with ⟨-, rfl⟩ | ⟨-, source, destination, handoff⟩
  · cases hmem
  · cases hexclusive : requiresExclusiveOwnershipHandoff topology resource source destination
    · rw [(handoff.shared hexclusive).2] at hmem
      cases hmem
    · obtain ⟨release, acquire, hpair⟩ := handoff.exclusive hexclusive
      rw [hpair.barriers, List.mem_singleton] at hmem
      have hacquire := ownershipAcquireBarrierType_isOwnershipAcquire hpair.acquire_eq
      rw [hmem]
      simp [isUav_of_acquire hacquire, isTransition_of_acquire hacquire]

/-- A range after an earlier use holds a transition or UAV barrier exactly when one is due. -/
lemma planFromPreviousState_dependency {entries : StatePlanEntries}
    (h : planFromPreviousState topology plan resource use t range
      (trackedState u previousUse previousRange) = some entries) :
    (∃ barrier ∈ entries.prologueBarriers,
        (barrier.type.isUav || barrier.type.isTransition) = true) ↔
      dependencyDue previousUse use = true := by
  simp only [planFromPreviousState, Option.bind_eq_bind, Option.bind_eq_some_iff,
    Option.some.injEq] at h
  obtain ⟨handoff, hhandoff, rfl⟩ := h
  have hnone := planPacketHandoff_noDependency hhandoff
  rw [StatePlanEntries.append_barriers, planTransition_barriers,
    show (trackedState u previousUse previousRange).state = previousUse.requiredState from rfl,
    due_iff_planned]
  constructor
  · rintro ⟨barrier, hmem, hkind⟩
    by_contra hdue
    rw [if_neg hdue, List.append_nil] at hmem
    rw [hnone barrier hmem] at hkind
    cases hkind
  · intro hdue
    rw [if_pos hdue]
    refine ⟨_, List.mem_append_right _ List.mem_cons_self, ?_⟩
    split <;> simp

end Range

/-! ## Consecutive users -/

section Planned

variable {topology : GpuTaskGraphQueueTopology} {assignments : GpuTaskGraphQueueAssignments}
  {entries : List StatePlanEntries} {exports : ExternalExportPlan}

namespace PlannedGraph

variable (h : PlannedGraph graph topology assignments plan entries exports)
include h

/-- The barriers over a cell are those of the task's entries there. -/
lemma dependencyBarrier_iff {j : ℕ} {t : GpuCompiledTask} (ht : plan.tasks[j]? = some t)
    {e : StatePlanEntries} (he : entries[j]? = some e) :
    DependencyBarrier graph plan x j ↔
      ∃ barrier ∈ (e.restrict graph x).prologueBarriers,
        (barrier.type.isUav || barrier.type.isTransition) = true := by
  obtain ⟨e', he', trace⟩ := h.trace.at_task j t ht
  obtain rfl := Option.some.inj (he.symm.trans he')
  constructor
  · rintro ⟨t', ht', barrier, hmem, hkind, hcovers⟩
    obtain rfl := Option.some.inj (ht.symm.trans ht')
    rw [trace.barriers] at hmem
    exact ⟨barrier, List.mem_filter.2 ⟨hmem, hcovers⟩, hkind⟩
  · rintro ⟨barrier, hmem, hkind⟩
    obtain ⟨hmem, hcovers⟩ := List.mem_filter.1 hmem
    exact ⟨t, ht, barrier, trace.barriers ▸ hmem, hkind, hcovers⟩

/-- A task behind a user of the cell has a barrier over it exactly when it and the user before it
are a due pair. -/
lemma dependencyBarrier_iff_due {a j : ℕ} (haj : a < j) {A : GpuCompiledTask}
    (hA : plan.tasks[a]? = some A) (huses : usesCell graph x A = true) :
    DependencyBarrier graph plan x j ↔ ∃ i, a ≤ i ∧ DuePair graph plan x i j := by
  rcases Nat.lt_or_ge j plan.tasks.length with hj | hj
  · have ht := List.getElem?_eq_getElem hj
    obtain ⟨e, he, -⟩ := h.trace.at_task j _ ht
    rw [h.dependencyBarrier_iff ht he]
    cases huse : firstUse graph x (declaredUses graph plan.tasks[j]) with
    | none =>
      have hunused : usesCell graph x plan.tasks[j] = false := by
        rw [← firstUse_isSome, huse]
        rfl
      rw [h.restrict_of_unused ht hunused he]
      constructor
      · rintro ⟨barrier, hmem, -⟩
        cases hmem
      · rintro ⟨i, -, u, previousUse, t, use, -, ht', huse', -⟩
        obtain rfl := Option.some.inj (ht.symm.trans ht')
        rw [huse] at huse'
        cases huse'
    | some use =>
      rcases h.plan_at_cell ht he huse with
        ⟨i, u, previousUse, range, previousRange, hprevious, hplanned⟩ | ⟨hunused, -⟩
      · obtain ⟨planned, hrange, hown⟩ := hplanned.planned
        have hai : a ≤ i := by
          by_contra hlt
          have := hprevious.unused a (by omega) haj A hA
          rw [huses] at this
          cases this
        rw [hown]
        refine (planFromPreviousState_dependency hrange).trans ⟨fun hdue => ?_, ?_⟩
        · exact ⟨i, hai, u, previousUse, _, use, hprevious, ht, huse, hdue⟩
        · rintro ⟨i', -, u', previousUse', t', use', hprevious', ht', huse', hdue⟩
          obtain ⟨-, -, rfl⟩ := hprevious.unique hprevious'
          obtain rfl := Option.some.inj (ht.symm.trans ht')
          obtain rfl := Option.some.inj (huse.symm.trans huse')
          exact hdue
      · have := hunused a haj A hA
        rw [huses] at this
        cases this
  · have hnone : plan.tasks[j]? = none := List.getElem?_eq_none hj
    constructor
    · rintro ⟨t, ht, -⟩
      rw [hnone] at ht
      cases ht
    · rintro ⟨i, -, u, previousUse, t, use, -, ht, -⟩
      rw [hnone] at ht
      cases ht

end PlannedGraph

end Planned

/-- Between the tasks of a hazard some prologue holds a barrier over the cell exactly when two
consecutive users in between are due one. -/
theorem compile_uavDependency_iff {assignQueues : QueueAssigner}
    {options : GpuTaskGraphCompileOptions} {planGeneration : CompiledPlanGeneration}
    {graph : GpuTaskGraph} {topology : GpuTaskGraphQueueTopology} {out : GpuTaskGraphCompilation}
    (h : compile assignQueues options planGeneration graph topology = some out)
    {x : ResourceCell} {a c : ℕ} (hazard : UavHazard graph out.compiledGraph x a c) :
    (∃ j, a < j ∧ j ≤ c ∧ DependencyBarrier graph out.compiledGraph x j) ↔
      ∃ i j, a ≤ i ∧ j ≤ c ∧ DuePair graph out.compiledGraph x i j := by
  obtain ⟨entries, exports, hplanned⟩ := plannedGraph_of_compile h
  obtain ⟨A, write, hA, hwrite, hcovers, -⟩ := hazard.writer
  have huses : usesCell graph x A = true := List.any_eq_true.2 ⟨write, hwrite, hcovers⟩
  constructor
  · rintro ⟨j, haj, hjc, hbarrier⟩
    obtain ⟨i, hai, hdue⟩ := (hplanned.dependencyBarrier_iff_due haj hA huses).1 hbarrier
    exact ⟨i, j, hai, hjc, hdue⟩
  · rintro ⟨i, j, hai, hjc, hdue⟩
    have hij : i < j := by
      obtain ⟨u, previousUse, t, use, hprevious, -⟩ := hdue
      exact hprevious.lt
    have haj : a < j := by omega
    exact ⟨j, haj, hjc, (hplanned.dependencyBarrier_iff_due haj hA huses).2 ⟨i, hai, hdue⟩⟩

/-- A task writes a buffer and reads it again before a second task reads it, all in the same
unordered-access state. -/
def writeThenReadGraph : GpuTaskGraph where
  generation := 1
  tasks :=
    [recordedTask 1 .graphics
      [{ resource := ⟨0, 1⟩, requiredState := ResourceStates.unorderedAccess, access := .write },
       { resource := ⟨0, 1⟩, requiredState := ResourceStates.unorderedAccess }],
     recordedTask 2 .graphics
      [{ resource := ⟨0, 1⟩, requiredState := ResourceStates.unorderedAccess }]]
  resources := [bufferNode 3 ResourceStates.common]
  externalCompletions := []
  generation_ne_zero := Nat.one_ne_zero
  tasks_length_le := by decide
  resources_length_le := length_oneBuffer
  resources_declared := oneBuffer_declared

def writeThenReadCompilation : Option GpuTaskGraphCompilation :=
  compile assignPreferredQueues {} ⟨1, Nat.one_ne_zero⟩ writeThenReadGraph singleQueueTopology

lemma writeThenRead_hazard {out : GpuTaskGraphCompilation}
    (h : writeThenReadCompilation = some out) :
    UavHazard writeThenReadGraph out.compiledGraph ⟨⟨0, 1⟩, (0, 0)⟩ 0 1 := by
  cases h
  exact ⟨by decide, _, _, rfl, List.mem_cons_self, by decide, by decide, by decide, _, _, rfl, rfl,
    by decide⟩

theorem compile_uavDependency_writeThenRead : ∃ out, writeThenReadCompilation = some out ∧
    ((∃ j, 0 < j ∧ j ≤ 1 ∧
        DependencyBarrier writeThenReadGraph out.compiledGraph ⟨⟨0, 1⟩, (0, 0)⟩ j) ↔
      ∃ i j, 0 ≤ i ∧ j ≤ 1 ∧ DuePair writeThenReadGraph out.compiledGraph ⟨⟨0, 1⟩, (0, 0)⟩ i j) := by
  obtain ⟨out, hout⟩ : ∃ out, writeThenReadCompilation = some out := ⟨_, rfl⟩
  exact ⟨out, hout, compile_uavDependency_iff hout (writeThenRead_hazard hout)⟩

/-- The reader gets no barrier although the first task's write may be pending. -/
theorem writeThenRead_dependency_missing : ∃ out, writeThenReadCompilation = some out ∧
    ¬ UavDependenciesPlanned writeThenReadGraph out.compiledGraph := by
  obtain ⟨out, hout⟩ : ∃ out, writeThenReadCompilation = some out := ⟨_, rfl⟩
  refine ⟨out, hout, fun hplanned => ?_⟩
  obtain ⟨j, hpositive, hj, t, ht, barrier, hmem, -⟩ := hplanned _ 0 1 (writeThenRead_hazard hout)
  obtain rfl : j = 1 := by omega
  cases hout
  cases ht
  revert hmem
  exact List.not_mem_nil

end NwbLot.TaskGraph
