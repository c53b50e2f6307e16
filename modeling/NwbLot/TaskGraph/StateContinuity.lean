import NwbLot.TaskGraph.CellHistory
import NwbLot.TaskGraph.Compiler

/-!
# Continuity of resource states

Replaying a plan cell by cell.  A transition barrier over a cell sets its state; a task leaves a
cell it uses in the state of its last declared use, because the task's own thunk moves between its
uses.  Against this replay every prologue barrier starts from the current state and every prologue
ends in the state of the task's first use.
-/

namespace NwbLot.TaskGraph

/-! ## Replay -/

section Replay

variable (graph : GpuTaskGraph) (plan : GpuCompiledGraph)

/-- A transition over the cell sets its state. -/
def replayBarrier (x : ResourceCell) (current : ResourceStates) (barrier : GpuCompiledBarrier) :
    ResourceStates :=
  if barrier.type.isTransition && barrierCovers graph x barrier then barrier.after else current

/-- The cell's state after a task's prologue. -/
def replayPrologue (x : ResourceCell) (t : GpuCompiledTask) (current : ResourceStates) :
    ResourceStates :=
  (plan.prologueBarriersOf t).foldl (replayBarrier graph x) current

/-- A task acts on a cell through its prologue and its own uses, the last of which decides. -/
def taskEffect (x : ResourceCell) (t : GpuCompiledTask) (current : ResourceStates) :
    ResourceStates :=
  match lastUse graph x (declaredUses graph t) with
  | some use => use.requiredState
  | none => replayPrologue graph plan x t current

/-- The cell's state before a task, from its initial state through the effects of the tasks
before it. -/
def replayedState (effect : ResourceCell → GpuCompiledTask → ResourceStates → ResourceStates)
    (x : ResourceCell) (position : ℕ) : ResourceStates :=
  (plan.tasks.take position).foldl (fun current t => effect x t current)
    (graph.resourceAt x.resource.index).initialState

/-- Prologues agree with the replay under the given effect of a task. -/
structure ContinuousStates
    (effect : ResourceCell → GpuCompiledTask → ResourceStates → ResourceStates) : Prop where
  /-- Every prologue barrier starts from the state replayed up to it. -/
  barriers : ∀ (k : ℕ) (t : GpuCompiledTask), plan.tasks[k]? = some t →
    ∀ front barrier back, plan.prologueBarriersOf t = front ++ barrier :: back →
      ∀ x, barrierCovers graph x barrier = true →
        barrier.before
          = front.foldl (replayBarrier graph x) (replayedState graph plan effect x k)
  /-- After the prologue a used cell is in the state of the task's first use over it. -/
  uses : ∀ (k : ℕ) (t : GpuCompiledTask), plan.tasks[k]? = some t →
    ∀ x use, firstUse graph x (declaredUses graph t) = some use →
      replayPrologue graph plan x t (replayedState graph plan effect x k) = use.requiredState

end Replay

/-! ## Barriers over one cell -/

section Chain

variable {graph : GpuTaskGraph} {plan : GpuCompiledGraph} {x : ResourceCell}

variable {current : ResourceStates} {barrier : GpuCompiledBarrier}

lemma replayBarrier_other (h : barrierCovers graph x barrier = false) :
    replayBarrier graph x current barrier = current := by
  simp [replayBarrier, h]

/-- Only the barriers over the cell matter. -/
lemma foldl_replayBarrier_filter (barriers : List GpuCompiledBarrier) (current : ResourceStates) :
    barriers.foldl (replayBarrier graph x) current
      = (barriers.filter (barrierCovers graph x)).foldl (replayBarrier graph x) current := by
  induction barriers generalizing current with
  | nil => rfl
  | cons barrier rest ih =>
    cases hcovers : barrierCovers graph x barrier
    · rw [List.foldl_cons, replayBarrier_other hcovers, List.filter_cons_of_neg (by simp [hcovers]),
        ih]
    · rw [List.filter_cons_of_pos hcovers, List.foldl_cons, List.foldl_cons, ih]

/-- Every barrier starts where the replay has come to, and the replay ends in `final`. -/
def ChainedTo (graph : GpuTaskGraph) (x : ResourceCell) (final : ResourceStates) :
    ResourceStates → List GpuCompiledBarrier → Prop
  | current, [] => current = final
  | current, barrier :: rest =>
      barrier.before = current ∧ ChainedTo graph x final (replayBarrier graph x current barrier) rest

lemma ChainedTo.final {final : ResourceStates} {barriers : List GpuCompiledBarrier}
    (h : ChainedTo graph x final current barriers) :
    barriers.foldl (replayBarrier graph x) current = final := by
  induction barriers generalizing current with
  | nil => exact h
  | cons barrier rest ih => exact ih h.2

lemma ChainedTo.before {final : ResourceStates} {front back : List GpuCompiledBarrier}
    (h : ChainedTo graph x final current (front ++ barrier :: back)) :
    barrier.before = front.foldl (replayBarrier graph x) current := by
  induction front generalizing current with
  | nil => exact h.1
  | cons first rest ih => exact ih h.2

lemma ChainedTo.append {final middle current : ResourceStates}
    {front back : List GpuCompiledBarrier} (hfront : ChainedTo graph x middle current front)
    (hback : ChainedTo graph x final middle back) :
    ChainedTo graph x final current (front ++ back) := by
  induction front generalizing current with
  | nil =>
    cases hfront
    exact hback
  | cons barrier rest ih => exact ⟨hfront.1, ih hfront.2⟩

/-- An acquire hands the state over unchanged. -/
lemma chainedTo_acquire (hacquire : barrier.type.isOwnershipAcquire = true)
    (hbefore : barrier.before = current) :
    ChainedTo graph x current current [barrier] := by
  refine ⟨hbefore, ?_⟩
  simp [ChainedTo, replayBarrier, isTransition_of_acquire hacquire]

end Chain

/-! ## One range -/

section Range

variable {graph : GpuTaskGraph} {topology : GpuTaskGraphQueueTopology} {plan : GpuCompiledGraph}
  {x : ResourceCell} {resource : GpuTaskGraphResourceView} {use : GpuTaskResourceUse}
  {task : GpuCompiledTask} {range : GpuTaskResourceRange}
  {previousState : TrackedCompiledResourceState}

variable {entries : StatePlanEntries}

lemma planPacketHandoff_chained
    (h : planPacketHandoff topology plan resource use task range previousState = some entries) :
    ChainedTo graph x previousState.state previousState.state entries.prologueBarriers := by
  rcases planPacketHandoff_cases h with ⟨-, rfl⟩ | ⟨-, source, destination, handoff⟩
  · exact rfl
  · cases hexclusive : requiresExclusiveOwnershipHandoff topology resource source destination
    · rw [(handoff.shared hexclusive).2]
      exact rfl
    · obtain ⟨release, acquire, hpair⟩ := handoff.exclusive hexclusive
      rw [hpair.barriers]
      exact chainedTo_acquire (ownershipAcquireBarrierType_isOwnershipAcquire hpair.acquire_eq) rfl

lemma planTransition_chained (hwithin : x.within graph use.resource range = true) :
    ChainedTo graph x use.requiredState previousState.state
      (planTransition resource use task range previousState).prologueBarriers := by
  rw [planTransition_barriers]
  split
  · refine ⟨rfl, ?_⟩
    cases huav : needsUavDependency use previousState
    · simp [ChainedTo, replayBarrier, barrierCovers, hwithin]
    · simp [ChainedTo, replayBarrier, state_eq_of_needsUavDependency huav]
  · next hsame =>
      simp only [Bool.or_eq_true, bne_iff_ne, not_or, not_not] at hsame
      exact hsame.1

lemma planFromPreviousState_chained
    (h : planFromPreviousState topology plan resource use task range previousState = some entries)
    (hwithin : x.within graph use.resource range = true) :
    ChainedTo graph x use.requiredState previousState.state entries.prologueBarriers := by
  simp only [planFromPreviousState, Option.bind_eq_bind, Option.bind_eq_some_iff,
    Option.some.injEq] at h
  obtain ⟨handoff, hhandoff, rfl⟩ := h
  exact (planPacketHandoff_chained hhandoff).append (planTransition_chained hwithin)

lemma planInitialTransition_chained {hasInitialOwnerStateSeed : Bool}
    (hwithin : x.within graph use.resource range = true) :
    ChainedTo graph x use.requiredState resource.initialState
      (planInitialTransition resource use task range hasInitialOwnerStateSeed).prologueBarriers := by
  simp only [planInitialTransition]
  split
  · exact ⟨rfl, by simp [ChainedTo, replayBarrier, barrierCovers, hwithin]⟩
  · next hsame =>
      simp only [Bool.or_eq_true, bne_iff_ne, not_or, not_not] at hsame
      exact hsame.2

variable {texture : Option TextureDesc} {queue : GpuPhysicalQueueId}

/-- The imported owner's type comes from the resource. -/
lemma resolveInitialOwner_acquires {owner : InitialOwnerImport}
    (h : resolveInitialOwner resource texture range queue = some (some owner)) :
    owner.acquireType.isOwnershipAcquire = true := by
  simp only [resolveInitialOwner] at h
  split at h
  · cases h
  split at h
  · simp only [Option.bind_eq_bind, Option.bind_eq_some_iff, Option.some.injEq] at h
    obtain ⟨source, -, acquire, hacquire, rfl⟩ := h
    exact ownershipAcquireBarrierType_isOwnershipAcquire hacquire
  · split at h
    · split at h
      · cases h
      · simp only [Option.bind_eq_bind, Option.bind_eq_some_iff, Option.some.injEq] at h
        obtain ⟨acquire, hacquire, rfl⟩ := h
        exact ownershipAcquireBarrierType_isOwnershipAcquire hacquire
    · cases h

lemma planFromInitialState_chained {owner : Option InitialOwnerImport}
    (howner : resolveInitialOwner resource texture range queue = some owner)
    (hwithin : x.within graph use.resource range = true) :
    ChainedTo graph x use.requiredState resource.initialState
      (planFromInitialState resource use task range owner owner.isSome).prologueBarriers := by
  refine ChainedTo.append ?_ (planInitialTransition_chained hwithin)
  cases owner with
  | none => exact rfl
  | some owner => exact chainedTo_acquire (resolveInitialOwner_acquires howner) rfl

end Range

/-! ## The whole plan -/

section Plan

variable {graph : GpuTaskGraph} {topology : GpuTaskGraphQueueTopology} {plan : GpuCompiledGraph}
  {assignments : GpuTaskGraphQueueAssignments} {entries : List StatePlanEntries}
  {exports : ExternalExportPlan}

/-- The state a cell's history leaves it in. -/
def StateAfterHistory (graph : GpuTaskGraph) (plan : GpuCompiledGraph) (x : ResourceCell)
    (k : ℕ) (state : ResourceStates) : Prop :=
  (∃ i t use, PreviousUser graph plan x k i t use ∧ state = use.requiredState) ∨
    ((∀ j < k, ∀ t, plan.tasks[j]? = some t → usesCell graph x t = false) ∧
      state = (graph.resourceAt x.resource.index).initialState)

namespace PlannedGraph

variable (h : PlannedGraph graph topology assignments plan entries exports)
include h

variable {x : ResourceCell} {k : ℕ} {t : GpuCompiledTask}

/-- The barriers of a task over a cell it uses lead from the state its history left to the first
use. -/
lemma chained_at_cell (ht : plan.tasks[k]? = some t) {use : GpuTaskResourceUse}
    (huse : firstUse graph x (declaredUses graph t) = some use) {state : ResourceStates}
    (hstate : StateAfterHistory graph plan x k state) :
    ChainedTo graph x use.requiredState state
      ((plan.prologueBarriersOf t).filter (barrierCovers graph x)) := by
  obtain ⟨e, he, trace⟩ := h.trace.at_task k t ht
  have hresource := resource_of_useCovers (useCovers_of_firstUse huse).2
  have hfilter : (plan.prologueBarriersOf t).filter (barrierCovers graph x)
      = (e.restrict graph x).prologueBarriers := by rw [trace.barriers, StatePlanEntries.restrict]
  rw [hfilter]
  rcases h.plan_at_cell ht he huse with
    ⟨i, u, previousUse, range, previousRange, hprevious, hplanned⟩ | ⟨hunused, range, owner, hfirst⟩
  · obtain ⟨planned, hrange, hown⟩ := hplanned.planned
    have hprev : state = previousUse.requiredState := by
      rcases hstate with ⟨j, t', use', hprevious', rfl⟩ | ⟨hnone, -⟩
      · obtain ⟨-, -, rfl⟩ := hprevious.unique hprevious'
        rfl
      · have := hnone i hprevious.lt u hprevious.task_at
        rw [usesCell_of_lastUse hprevious.last] at this
        cases this
    rw [hown, hprev]
    exact planFromPreviousState_chained hrange hplanned.within
  · have hinitial : state = (graph.resourceAt use.resource.index).initialState := by
      rcases hstate with ⟨j, t', use', hprevious', rfl⟩ | ⟨-, hinitial⟩
      · have := hunused j hprevious'.lt t' hprevious'.task_at
        rw [usesCell_of_lastUse hprevious'.last] at this
        cases this
      · rw [hinitial, hresource]
    rw [hfirst.planned, hinitial]
    exact planFromInitialState_chained hfirst.owner_eq hfirst.within

/-- A task leaves the cells it does not use alone. -/
lemma prologue_unused (ht : plan.tasks[k]? = some t) (hunused : usesCell graph x t = false) :
    (plan.prologueBarriersOf t).filter (barrierCovers graph x) = [] := by
  obtain ⟨e, he, trace⟩ := h.trace.at_task k t ht
  rw [trace.barriers]
  exact congrArg StatePlanEntries.prologueBarriers (h.restrict_of_unused ht hunused he)

/-- The replayed state is that of the newest tracked state, or the initial one. -/
lemma replayedState_eq (x : ResourceCell) (hk : k ≤ plan.tasks.length) :
    replayedState graph plan (taskEffect graph plan) x k
      = ((latestState graph x (trackedBefore graph plan k)).map (·.state)).getD
          (graph.resourceAt x.resource.index).initialState := by
  induction k with
  | zero => simp [replayedState, trackedBefore, latestState]
  | succ k ih =>
    have ht := List.getElem?_eq_getElem hk
    have hnext : replayedState graph plan (taskEffect graph plan) x (k + 1)
        = taskEffect graph plan x plan.tasks[k]
            (replayedState graph plan (taskEffect graph plan) x k) := by
      rw [replayedState, List.take_succ_eq_append_getElem hk, List.foldl_append]
      rfl
    rw [hnext, taskEffect, trackedBefore_succ ht, taskStates, latestState_uses]
    cases huses : usesCell graph x plan.tasks[k]
    · rw [lastUse_eq_none huses]
      show replayPrologue graph plan x plan.tasks[k] _ = _
      rw [replayPrologue, foldl_replayBarrier_filter, h.prologue_unused ht huses, List.foldl_nil,
        ih (Nat.le_of_succ_le hk)]
    · obtain ⟨use, hlast⟩ := exists_lastUse huses
      obtain ⟨range, hrange, -⟩ := exists_plannedRange (useCovers_of_lastUse hlast).2
      simp [hlast, hrange, trackedState]

/-- Before every task the replayed state is the one its history left. -/
lemma replayedState_history (x : ResourceCell) (hk : k ≤ plan.tasks.length) :
    StateAfterHistory graph plan x k
      (replayedState graph plan (taskEffect graph plan) x k) := by
  have hhistory : HistoryAt graph plan x k _ := historyAt_latestState hk
  rw [h.replayedState_eq x hk]
  cases hlatest : latestState graph x (trackedBefore graph plan k) with
  | none =>
    rw [hlatest] at hhistory
    exact Or.inr ⟨hhistory, rfl⟩
  | some state =>
    rw [hlatest] at hhistory
    obtain ⟨i, t, use, range, hprevious, rfl⟩ := hhistory
    exact Or.inl ⟨i, t, use, hprevious, rfl⟩

/-- States are continuous over a planned graph. -/
lemma continuousStates : ContinuousStates graph plan (taskEffect graph plan) where
  barriers := by
    intro k t ht front barrier back hsplit x hcovers
    have hhistory := h.replayedState_history x (Nat.le_of_lt (List.getElem?_eq_some_iff.1 ht).1)
    have huses : usesCell graph x t = true := by
      by_contra hunused
      have hnone := h.prologue_unused ht (by simpa using hunused)
      rw [hsplit, List.filter_append, List.filter_cons_of_pos hcovers] at hnone
      simp at hnone
    obtain ⟨use, huse⟩ := exists_firstUse huses
    have hchain := h.chained_at_cell ht huse hhistory
    rw [hsplit, List.filter_append, List.filter_cons_of_pos hcovers] at hchain
    rw [foldl_replayBarrier_filter]
    exact hchain.before
  uses := by
    intro k t ht x use huse
    have hhistory := h.replayedState_history x (Nat.le_of_lt (List.getElem?_eq_some_iff.1 ht).1)
    rw [replayPrologue, foldl_replayBarrier_filter]
    exact (h.chained_at_cell ht huse hhistory).final

end PlannedGraph

end Plan

/-- Resource states are continuous over every compiled plan. -/
theorem compile_continuousStates {assignQueues : QueueAssigner}
    {options : GpuTaskGraphCompileOptions} {planGeneration : CompiledPlanGeneration}
    {graph : GpuTaskGraph} {topology : GpuTaskGraphQueueTopology} {out : GpuTaskGraphCompilation}
    (h : compile assignQueues options planGeneration graph topology = some out) :
    ContinuousStates graph out.compiledGraph (taskEffect graph out.compiledGraph) := by
  obtain ⟨entries, exports, hplanned⟩ := plannedGraph_of_compile h
  exact hplanned.continuousStates

/-- A task that reads a buffer and then writes it in another state, before a reader. -/
def localTransitionGraph : GpuTaskGraph where
  generation := 1
  tasks :=
    [recordedTask 1 .graphics
      [{ resource := ⟨0, 1⟩, requiredState := ResourceStates.shaderResource },
       { resource := ⟨0, 1⟩, requiredState := ResourceStates.copyDest, access := .write }],
     recordedTask 2 .graphics
      [{ resource := ⟨0, 1⟩, requiredState := ResourceStates.shaderResource }]]
  resources := [bufferNode 3 ResourceStates.common]
  externalCompletions := []
  generation_ne_zero := Nat.one_ne_zero
  tasks_length_le := by decide
  resources_length_le := length_oneBuffer
  resources_declared := oneBuffer_declared

def localTransitionCompilation : Option GpuTaskGraphCompilation :=
  compile assignPreferredQueues {} ⟨1, Nat.one_ne_zero⟩ localTransitionGraph singleQueueTopology

theorem compile_continuousStates_localTransition : ∃ out, localTransitionCompilation = some out ∧
    ContinuousStates localTransitionGraph out.compiledGraph
      (taskEffect localTransitionGraph out.compiledGraph) := by
  obtain ⟨out, hout⟩ : ∃ out, localTransitionCompilation = some out := ⟨_, rfl⟩
  exact ⟨out, hout, compile_continuousStates hout⟩

/-- Replayed through barriers alone, the buffer would still be in the first use's state when the
reader's transition starts from the last use's. -/
theorem barriers_alone_not_continuous : ∃ out, localTransitionCompilation = some out ∧
    ¬ ContinuousStates localTransitionGraph out.compiledGraph
      (replayPrologue localTransitionGraph out.compiledGraph) := by
  refine ⟨_, rfl, fun hcontinuous => ?_⟩
  have hbarrier := hcontinuous.barriers 1 _ rfl [] _ [] rfl ⟨⟨0, 1⟩, (0, 0)⟩ rfl
  revert hbarrier
  decide

end NwbLot.TaskGraph
