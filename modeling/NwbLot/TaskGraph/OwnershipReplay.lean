import Mathlib.Data.Nat.Find
import NwbLot.TaskGraph.InitialOwnerImports
import NwbLot.TaskGraph.OwnershipTransfers
import NwbLot.TaskGraph.StateContinuity

/-!
# Who owns a cell

Replaying who owns a cell, task by task.  A cell starts with the owner its resource declares: a
queue that keeps it, a queue outside the graph that has released it to one of the graph's, or nobody,
and then the first user claims it.  A release gives the cell up, and only the acquire with the
release's queues takes it over again.  The replay of a compiled plan never meets a use, a release or
an acquire by the wrong owner.
-/

namespace NwbLot.TaskGraph

/-! ## Replay -/

/-- Who owns a cell. -/
inductive CellOwner
  /-- The resource declares no owner, and no task has used the cell. -/
  | unclaimed
  /-- The resource declares this queue as its owner, and no task has used the cell. -/
  | declared (queue : GpuPhysicalQueueId)
  /-- Released outside the graph, by the source to the destination of one of these handoffs. -/
  | handedOver (handoffs : List (GpuPhysicalQueueId × GpuPhysicalQueueId))
  | owned (queue : GpuPhysicalQueueId)
  | released (source destination : GpuPhysicalQueueId)
  deriving DecidableEq, Repr

section Replay

variable (graph : GpuTaskGraph) (plan : GpuCompiledGraph) (x : ResourceCell)

/-- The listed source has released the cell. -/
def GpuTaskGraphInitialOwnerHandoffSourceView.covers
    (source : GpuTaskGraphInitialOwnerHandoffSourceView) : Bool :=
  (resolveTextureRangeForPlanning (graph.textureForResource x.resource) source.range).any
    (x.within graph x.resource)

/-- The owner the declaration of its resource gives a cell. -/
def declaredOwner : CellOwner :=
  let resource := graph.resourceAt x.resource.index
  if !resource.initialOwnerHandoffSources.isEmpty then
    .handedOver ((resource.initialOwnerHandoffSources.filter (·.covers graph x)).map fun source =>
      (source.sourceQueue, source.destinationQueue))
  else if resource.initialOwnerReleaseDestinationQueue.valid then
    .handedOver [(resource.initialOwnerQueue, resource.initialOwnerReleaseDestinationQueue)]
  else if resource.initialOwnerQueue.valid then .declared resource.initialOwnerQueue
  else .unclaimed

/-- An acquire takes a cell over from the release with the same queues, which for a handoff from an
external owner the resource declares. -/
def acquireCell (owner : CellOwner) (acquire : GpuCompiledBarrier) : Option CellOwner :=
  match owner with
  | .handedOver handoffs =>
      if acquire.isInitialOwnerHandoff
          && handoffs.contains (acquire.sourceQueue, acquire.destinationQueue) then
        some (.owned acquire.destinationQueue)
      else none
  | .released source destination =>
      if acquire.isInternalAcquire && acquire.sourceQueue == source
          && acquire.destinationQueue == destination then some (.owned destination)
      else none
  | _ => none

/-- A use claims an unclaimed cell.  A declared owner is the only queue to begin with its cell;
later the cell belongs to the family of the task's queue. -/
def useCell (queue : GpuPhysicalQueueId) : CellOwner → Option CellOwner
  | .unclaimed => some (.owned queue)
  | .declared owner => if owner = queue then some (.owned queue) else none
  | .owned owner => if sameFamily plan owner queue then some (.owned queue) else none
  | .handedOver _ | .released _ _ => none

/-- A release gives up a cell that belongs to the family of its source queue. -/
def releaseCell (owner : CellOwner) (release : GpuCompiledBarrier) : Option CellOwner :=
  match owner with
  | .owned queue =>
      if sameFamily plan queue release.sourceQueue then
        some (.released release.sourceQueue release.destinationQueue)
      else none
  | _ => none

/-- The acquires over the cell in a task's prologue. -/
def acquiresOver (t : GpuCompiledTask) : List GpuCompiledBarrier :=
  (plan.prologueBarriersOf t).filter fun barrier =>
    barrierCovers graph x barrier && barrier.type.isOwnershipAcquire

/-- The releases over the cell in a task's epilogue. -/
def releasesOver (t : GpuCompiledTask) : List GpuCompiledBarrier :=
  (plan.epilogueBarriersOf t).filter fun barrier =>
    barrier.type.isOwnershipRelease && barrierCovers graph x barrier

/-- A task acquires the cell, uses it and releases it. -/
def taskOwner (owner : CellOwner) (t : GpuCompiledTask) : Option CellOwner := do
  let acquired ← (acquiresOver graph plan x t).foldlM acquireCell owner
  let used ← if usesCell graph x t then useCell plan t.queue acquired else some acquired
  (releasesOver graph plan x t).foldlM (releaseCell plan) used

/-- The owner of the cell before a task; `none` when the protocol was violated. -/
def replayedOwner (position : ℕ) : Option CellOwner :=
  (plan.tasks.take position).foldlM (taskOwner graph plan x) (declaredOwner graph x)

end Replay

/-! ## Declared owners -/

section Declared

variable {graph : GpuTaskGraph} {x : ResourceCell} {resource : GpuGraphResourceId}
  {range : GpuTaskResourceRange} {queue : GpuPhysicalQueueId}

omit range queue in
/-- A handoff from an owner comes with the source of its state. -/
lemma stateSource_of_destination {validCompletion : GpuExternalCompletionId → Bool}
    {desc : GpuGraphResourceNode} (h : validResourceDeclaration validCompletion desc = true)
    (hdestination : desc.initialOwnerReleaseDestinationQueue.valid = true) :
    desc.initialOwnerStateSource.isSome = true := by
  simp only [validResourceDeclaration, hdestination, Bool.true_or, Bool.not_true, Bool.false_or,
    Bool.and_eq_true] at h
  exact h.1.1.2.1.2

lemma resource_of_within (h : x.within graph resource range = true) : resource = x.resource := by
  simp only [ResourceCell.within, Bool.and_eq_true, beq_iff_eq] at h
  exact h.1

/-- Where nothing is imported, no owner is declared, or the queue that begins with the cell. -/
lemma declaredOwner_of_none (hvalid : graph.validResource resource = true)
    (hwithin : x.within graph resource range = true)
    (h : resolveInitialOwner (graph.resourceAt resource.index) (graph.textureForResource resource)
      range queue = some none) :
    declaredOwner graph x = .unclaimed ∨ declaredOwner graph x = .declared queue := by
  obtain rfl := resource_of_within hwithin
  have hdeclared := declared_of_validResource hvalid
  have hsources :
      (graph.resourceAt x.resource.index).initialOwnerHandoffSources.isEmpty = true := by
    by_contra hlisted
    rw [List.isEmpty_iff] at hlisted
    simp [resolveInitialOwner, hlisted, Option.bind_eq_some_iff] at h
  have hdestination :
      (graph.resourceAt x.resource.index).initialOwnerReleaseDestinationQueue.valid = false := by
    by_contra hvalidDestination
    have hannounced := announced_eq_isSome hdeclared hsources h
    rw [Bool.not_eq_false] at hvalidDestination
    rw [hvalidDestination, stateSource_of_destination hdeclared hvalidDestination] at hannounced
    cases hannounced
  simp only [declaredOwner, hsources, hdestination, Bool.not_true, Bool.false_eq_true, if_false]
  cases howner : (graph.resourceAt x.resource.index).initialOwnerQueue.valid with
  | false => exact Or.inl (by simp)
  | true =>
    right
    by_contra hother
    have hne : (graph.resourceAt x.resource.index).initialOwnerQueue ≠ queue := by
      simpa using hother
    simp [resolveInitialOwner, hsources, hdestination, howner, hne] at h

/-- An imported owner is one the resource declares for the cell. -/
lemma declaredOwner_of_some {owner : InitialOwnerImport}
    (hwithin : x.within graph resource range = true)
    (h : resolveInitialOwner (graph.resourceAt resource.index) (graph.textureForResource resource)
      range queue = some (some owner)) :
    ∃ handoffs, declaredOwner graph x = .handedOver handoffs ∧
      (owner.sourceQueue, queue) ∈ handoffs := by
  obtain rfl := resource_of_within hwithin
  simp only [resolveInitialOwner] at h
  split at h
  · cases h
  next hdestination =>
  split at h
  · next hlisted =>
    simp only [Option.bind_eq_bind, Option.bind_eq_some_iff, Option.some.injEq] at h
    obtain ⟨source, hfind, acquire, -, rfl⟩ := h
    refine ⟨_, if_pos hlisted, List.mem_map.2 ⟨source, List.mem_filter.2 ⟨?_, ?_⟩, ?_⟩⟩
    · exact (findInitialOwnerHandoffSource_eq_some hfind).1
    · obtain ⟨planned, hplanned, hcontains⟩ := (findInitialOwnerHandoffSource_eq_some hfind).2.1
      simp only [ResourceCell.within, beq_self_eq_true, Bool.true_and] at hwithin
      simp only [GpuTaskGraphInitialOwnerHandoffSourceView.covers, hplanned, Option.any_some,
        ResourceCell.within, beq_self_eq_true, Bool.true_and]
      exact rangeCovers_of_rangeContains hcontains hwithin
    · rw [findInitialOwnerHandoffSource_destination hfind]
  · next hunlisted =>
    split at h
    · split at h
      · cases h
      · next howner hannounced =>
        simp only [Option.bind_eq_bind, Option.bind_eq_some_iff, Option.some.injEq] at h
        obtain ⟨acquire, -, rfl⟩ := h
        simp only [Bool.or_eq_true, Bool.not_eq_true', bne_iff_ne, not_or, Bool.not_eq_false,
          not_not] at hannounced
        obtain ⟨⟨⟨hvalid, hqueue⟩, -⟩, -⟩ := hannounced
        refine ⟨_, (if_neg hunlisted).trans (if_pos hvalid), ?_⟩
        rw [hqueue]
        exact List.mem_singleton_self _
    · cases h

end Declared

/-! ## Releases over a cell -/

section Cell

variable {graph : GpuTaskGraph} {topology : GpuTaskGraphQueueTopology} {plan : GpuCompiledGraph}
  {assignments : GpuTaskGraphQueueAssignments} {entries : List StatePlanEntries}
  {exports : ExternalExportPlan} {x : ResourceCell}

namespace PlannedGraph

variable (h : PlannedGraph graph topology assignments plan entries exports)
include h

variable {i : ℕ} {u : GpuCompiledTask}

lemma releasesOver_eq (hu : plan.tasks[i]? = some u) :
    releasesOver graph plan x u
      = (((StatePlanEntries.concat entries).pendingEpilogueBarriers.filter fun pending =>
            releasesCell graph x pending && pending.task == u.task)
          ++ exports.pendingEpilogueBarriers.filter fun pending =>
            releasesCell graph x pending && pending.task == u.task).map (·.barrier) := by
  obtain ⟨e, -, trace⟩ := h.trace.at_task i u hu
  rw [releasesOver, trace.epilogue, pendingOf, List.filter_map, List.filter_filter,
    List.filter_append]
  rfl

variable {k : ℕ} {t : GpuCompiledTask} {use : GpuTaskResourceUse}

/-- Between two consecutive users, nobody else asks for a release by the first. -/
lemma requested_by_next (hprevious : PreviousUser graph plan x k i u use)
    (ht : plan.tasks[k]? = some t) (huses : usesCell graph x t = true) {j : ℕ}
    {e : StatePlanEntries} (he : entries[j]? = some e) {pending : PendingCompiledEpilogueBarrier}
    (hmem : pending ∈ e.pendingEpilogueBarriers) (hreleases : releasesCell graph x pending = true)
    (htask : pending.task = u.task) : j = k := by
  have hj : j < plan.tasks.length := h.trace.entries_length ▸ (List.getElem?_eq_some_iff.1 he).1
  have hat := List.getElem?_eq_getElem hj
  simp only [releasesCell, Bool.and_eq_true] at hreleases
  obtain ⟨huses', i', u', use', hprevious', -, htask'⟩ :=
    h.release_of_pending hat he (List.mem_filter.2 ⟨hmem, hreleases.2⟩)
  obtain rfl := h.layout.position_unique hprevious.task_at hprevious'.task_at
    (htask.symm.trans htask')
  rcases Nat.lt_trichotomy j k with hlt | heq | hlt
  · have := hprevious.unused j hprevious'.lt hlt _ hat
    rw [huses'] at this
    cases this
  · exact heq
  · have := hprevious'.unused k hprevious.lt hlt t ht
    rw [huses] at this
    cases this

/-- A user with a later user releases what that one asks for. -/
lemma releasesOver_of_next (hprevious : PreviousUser graph plan x k i u use)
    (ht : plan.tasks[k]? = some t) (huses : usesCell graph x t = true) {e : StatePlanEntries}
    (he : entries[k]? = some e) :
    releasesOver graph plan x u
      = (e.restrict graph x).pendingEpilogueBarriers.map (·.barrier) := by
  have hother : ∀ (part : List StatePlanEntries),
      (∀ (j : ℕ) (e' : StatePlanEntries), part[j]? = some e' →
        ∃ l, l ≠ k ∧ entries[l]? = some e') →
      (StatePlanEntries.concat part).pendingEpilogueBarriers.filter (fun pending =>
        releasesCell graph x pending && pending.task == u.task) = [] := by
    intro part hpart
    rw [List.filter_eq_nil_iff]
    intro pending hmem hreleases
    simp only [Bool.and_eq_true, beq_iff_eq] at hreleases
    obtain ⟨j, e', he', hpending⟩ := StatePlanEntries.exists_of_mem_concat_pending hmem
    obtain ⟨l, hne, hl⟩ := hpart j e' he'
    exact hne (h.requested_by_next hprevious ht huses hl hpending hreleases.1 hreleases.2)
  have hexported : exports.pendingEpilogueBarriers.filter (fun pending =>
      releasesCell graph x pending && pending.task == u.task) = [] := by
    rw [List.filter_eq_nil_iff]
    intro pending hmem hreleases
    simp only [releasesCell, Bool.and_eq_true, beq_iff_eq] at hreleases
    obtain ⟨j, v, use', hlast, hidentity, -⟩ := h.last_user_of_exported hmem hreleases.1.2
    obtain rfl := h.layout.position_unique hprevious.task_at hlast.task_at
      (hreleases.2.symm.trans hidentity.symm)
    have := hlast.unused k hprevious.lt (List.getElem?_eq_some_iff.1 ht).1 t ht
    rw [huses] at this
    cases this
  have hown : e.pendingEpilogueBarriers.filter (fun pending =>
      releasesCell graph x pending && pending.task == u.task)
        = (e.restrict graph x).pendingEpilogueBarriers := by
    refine List.filter_congr fun pending hmem => ?_
    cases hcovers : barrierCovers graph x pending.barrier
    · simp [releasesCell, hcovers]
    · obtain ⟨-, i', u', use', hprevious', hrelease, htask⟩ :=
        h.release_of_pending ht he (List.mem_filter.2 ⟨hmem, hcovers⟩)
      obtain ⟨rfl, rfl, rfl⟩ := hprevious.unique hprevious'
      simp [releasesCell, hcovers, hrelease.isRelease, htask]
  have hbefore := hother (entries.take k) fun j e' he' => by
    have hlt := (List.getElem?_eq_some_iff.1 he').1
    rw [List.length_take] at hlt
    rw [List.getElem?_take_of_lt (by omega)] at he'
    exact ⟨j, by omega, he'⟩
  have hafter := hother (entries.drop (k + 1)) fun j e' he' => by
    rw [List.getElem?_drop] at he'
    exact ⟨k + 1 + j, by omega, he'⟩
  rw [h.releasesOver_eq hprevious.task_at, hexported, List.append_nil,
    StatePlanEntries.concat_split he, StatePlanEntries.append_pending,
    StatePlanEntries.append_pending, List.filter_append, List.filter_append, hbefore, hown, hafter,
    List.nil_append, List.append_nil]

/-- A task that does not use a cell does not release it. -/
lemma releasesOver_of_unused (ht : plan.tasks[k]? = some t) (hunused : usesCell graph x t = false) :
    releasesOver graph plan x t = [] := by
  rw [h.releasesOver_eq ht, List.map_eq_nil_iff, List.append_eq_nil_iff]
  constructor
  · rw [List.filter_eq_nil_iff]
    intro pending hmem hreleases
    simp only [releasesCell, Bool.and_eq_true, beq_iff_eq] at hreleases
    obtain ⟨j, e, he, hpending⟩ := StatePlanEntries.exists_of_mem_concat_pending hmem
    have hj : j < plan.tasks.length := h.trace.entries_length ▸ (List.getElem?_eq_some_iff.1 he).1
    obtain ⟨-, i, u, use, hprevious, -, htask⟩ := h.release_of_pending
      (List.getElem?_eq_getElem hj) he (List.mem_filter.2 ⟨hpending, hreleases.1.2⟩)
    obtain rfl := h.layout.position_unique ht hprevious.task_at (hreleases.2.symm.trans htask)
    obtain rfl := Option.some.inj (ht.symm.trans hprevious.task_at)
    rw [usesCell_of_lastUse hprevious.last] at hunused
    cases hunused
  · rw [List.filter_eq_nil_iff]
    intro pending hmem hreleases
    simp only [releasesCell, Bool.and_eq_true, beq_iff_eq] at hreleases
    obtain ⟨i, u, use, hlast, hidentity, -⟩ := h.last_user_of_exported hmem hreleases.1.2
    obtain rfl := h.layout.position_unique ht hlast.task_at
      (hreleases.2.symm.trans hidentity.symm)
    obtain rfl := Option.some.inj (ht.symm.trans hlast.task_at)
    rw [usesCell_of_lastUse hlast.last] at hunused
    cases hunused

/-- The last user of a cell releases it at most once, from its own queue. -/
lemma releasesOver_of_last (hlast : PreviousUser graph plan x plan.tasks.length i u use) :
    (releasesOver graph plan x u).length ≤ 1 ∧
      ∀ release ∈ releasesOver graph plan x u, release.sourceQueue = u.queue := by
  have hinternal : (StatePlanEntries.concat entries).pendingEpilogueBarriers.filter (fun pending =>
      releasesCell graph x pending && pending.task == u.task) = [] := by
    rw [List.filter_eq_nil_iff]
    intro pending hmem hreleases
    simp only [releasesCell, Bool.and_eq_true, beq_iff_eq] at hreleases
    obtain ⟨j, e, he, hpending⟩ := StatePlanEntries.exists_of_mem_concat_pending hmem
    have hj : j < plan.tasks.length := h.trace.entries_length ▸ (List.getElem?_eq_some_iff.1 he).1
    have hat := List.getElem?_eq_getElem hj
    obtain ⟨huses, i', u', use', hprevious, -, htask⟩ :=
      h.release_of_pending hat he (List.mem_filter.2 ⟨hpending, hreleases.1.2⟩)
    obtain rfl := h.layout.position_unique hlast.task_at hprevious.task_at
      (hreleases.2.symm.trans htask)
    rw [hlast.unused j hprevious.lt hj _ hat] at huses
    cases huses
  rw [h.releasesOver_eq hlast.task_at, hinternal, List.nil_append, List.length_map]
  constructor
  · calc _ ≤ exports.pendingEpilogueBarriers.countP (releasesCell graph x) := by
          rw [← List.countP_eq_length_filter]
          refine List.countP_mono_left fun pending _ hreleases => ?_
          exact (Bool.and_eq_true _ _ ▸ hreleases).1
      _ ≤ 1 := exported_countP h.exported
  · intro release hmem
    obtain ⟨pending, hpending, rfl⟩ := List.mem_map.1 hmem
    obtain ⟨hlisted, hreleases⟩ := List.mem_filter.1 hpending
    simp only [releasesCell, Bool.and_eq_true, beq_iff_eq] at hreleases
    obtain ⟨j, v, use', hlast', -, hqueue⟩ := h.last_user_of_exported hlisted hreleases.1.2
    obtain ⟨rfl, rfl, -⟩ := hlast.unique hlast'
    exact hqueue.symm

omit h in
/-- A user either has a next user or is the last one. -/
lemma next_or_last (hu : plan.tasks[i]? = some u)
    (hlast : lastUse graph x (declaredUses graph u) = some use) :
    (∃ k t, PreviousUser graph plan x k i u use ∧ plan.tasks[k]? = some t ∧
      usesCell graph x t = true) ∨ PreviousUser graph plan x plan.tasks.length i u use := by
  by_cases hnext : ∃ k, i < k ∧ ∃ t, plan.tasks[k]? = some t ∧ usesCell graph x t = true
  · classical
    obtain ⟨hlt, t, ht, huses⟩ := Nat.find_spec hnext
    refine Or.inl ⟨_, t, ⟨hlt, hu, hlast, fun j hij hj v hv => ?_⟩, ht, huses⟩
    by_contra hused
    exact Nat.find_min hnext hj ⟨hij, v, hv, by simpa using hused⟩
  · refine Or.inr ⟨(List.getElem?_eq_some_iff.1 hu).1, hu, hlast, fun j hij _ v hv => ?_⟩
    by_contra hused
    exact hnext ⟨j, hij, v, hv, by simpa using hused⟩

/-- A user releases a cell at most once, from its own queue. -/
lemma releasesOver_single (hu : plan.tasks[i]? = some u) (huses : usesCell graph x u = true) :
    (releasesOver graph plan x u).length ≤ 1 ∧
      ∀ release ∈ releasesOver graph plan x u, release.sourceQueue = u.queue := by
  obtain ⟨use, hlast⟩ := exists_lastUse huses
  rcases next_or_last hu hlast with ⟨k, t, hprevious, ht, huses'⟩ | hend
  · obtain ⟨first, hfirst⟩ := exists_firstUse huses'
    obtain ⟨e, he, -⟩ := h.trace.at_task k t ht
    rw [h.releasesOver_of_next hprevious ht huses' he]
    rcases h.takeover ht he hfirst hprevious with ⟨release, hrelease⟩ | hkept
    · simp [hrelease.pending_eq, hrelease.source_eq]
    · simp [hkept.pending_eq]
  · exact h.releasesOver_of_last hend

end PlannedGraph

end Cell

/-! ## The replay never fails -/

section Safety

variable {graph : GpuTaskGraph} {topology : GpuTaskGraphQueueTopology} {plan : GpuCompiledGraph}
  {assignments : GpuTaskGraphQueueAssignments} {entries : List StatePlanEntries}
  {exports : ExternalExportPlan} {x : ResourceCell}

/-- The owner a user of the cell leaves behind. -/
def ownerAfter (u : GpuCompiledTask) : List GpuCompiledBarrier → CellOwner
  | [] => .owned u.queue
  | release :: _ => .released release.sourceQueue release.destinationQueue

/-- The owner of a cell by its history. -/
def OwnerAt (graph : GpuTaskGraph) (plan : GpuCompiledGraph) (x : ResourceCell) (k : ℕ)
    (owner : CellOwner) : Prop :=
  ((∀ j < k, ∀ t, plan.tasks[j]? = some t → usesCell graph x t = false) ∧
      owner = declaredOwner graph x) ∨
    ∃ i u use, PreviousUser graph plan x k i u use ∧
      owner = ownerAfter u (releasesOver graph plan x u)

namespace PlannedGraph

variable (h : PlannedGraph graph topology assignments plan entries exports)
include h

variable {k : ℕ} {t : GpuCompiledTask}

lemma acquiresOver_eq (ht : plan.tasks[k]? = some t) {e : StatePlanEntries}
    (he : entries[k]? = some e) :
    acquiresOver graph plan x t
      = (e.restrict graph x).prologueBarriers.filter (·.type.isOwnershipAcquire) := by
  obtain ⟨e', he', trace⟩ := h.trace.at_task k t ht
  obtain rfl := Option.some.inj (he.symm.trans he')
  rw [acquiresOver, trace.barriers, StatePlanEntries.restrict, List.filter_filter]
  exact List.filter_congr fun barrier _ => Bool.and_comm _ _

lemma sameFamily_self (ht : plan.tasks[k]? = some t) :
    sameFamily plan t.queue t.queue = true := by
  obtain ⟨info, hinfo⟩ := h.exists_queueInfo ht
  simp [sameFamily, hinfo]

/-- Before its first use, a cell comes from the owner its resource declares. -/
lemma acquire_first (ht : plan.tasks[k]? = some t) (huses : usesCell graph x t = true)
    (hunused : ∀ j < k, ∀ u, plan.tasks[j]? = some u → usesCell graph x u = false) :
    ∃ acquired, (acquiresOver graph plan x t).foldlM acquireCell (declaredOwner graph x)
        = some acquired ∧
      useCell plan t.queue acquired = some (.owned t.queue) := by
  obtain ⟨e, he, -⟩ := h.trace.at_task k t ht
  obtain ⟨use, huse⟩ := exists_firstUse huses
  have hvalid := (h.accepted ht use (useCovers_of_firstUse huse).1).1
  rcases h.plan_at_cell ht he huse with
    ⟨i, u, previousUse, -, -, hprevious, -⟩ | ⟨-, range, owner, hfirst⟩
  · have := hunused i hprevious.lt u hprevious.task_at
    rw [usesCell_of_lastUse hprevious.last] at this
    cases this
  have htransition : (planInitialTransition (graph.resourceAt use.resource.index) use t range
      owner.isSome).prologueBarriers.filter (·.type.isOwnershipAcquire) = [] := by
    simp only [planInitialTransition]
    split <;> simp
  rw [h.acquiresOver_eq ht he, hfirst.planned, StatePlanEntries.ranged]
  simp only [planFromInitialState, StatePlanEntries.append_barriers, List.filter_append,
    htransition, List.append_nil]
  cases owner with
  | none =>
    refine ⟨declaredOwner graph x, rfl, ?_⟩
    rcases declaredOwner_of_none hvalid hfirst.within hfirst.owner_eq with hnobody | hqueue
    · rw [hnobody]
      rfl
    · simp [hqueue, useCell]
  | some owner =>
    have hacquire := resolveInitialOwner_acquires hfirst.owner_eq
    obtain ⟨handoffs, howner, hmem⟩ := declaredOwner_of_some hfirst.within hfirst.owner_eq
    refine ⟨.owned t.queue, ?_, by simp [useCell, h.sameFamily_self ht]⟩
    simp [planInitialOwnerImport, hacquire, howner, acquireCell, hmem]

/-- Behind an earlier user, a cell comes from that user's queue family or through its release. -/
lemma acquire_next (hexclusive : ExclusivelyShared graph topology x.resource) {i : ℕ}
    {u : GpuCompiledTask} {use : GpuTaskResourceUse} (ht : plan.tasks[k]? = some t)
    (huses : usesCell graph x t = true) (hprevious : PreviousUser graph plan x k i u use) :
    ∃ acquired, (acquiresOver graph plan x t).foldlM acquireCell
        (ownerAfter u (releasesOver graph plan x u)) = some acquired ∧
      useCell plan t.queue acquired = some (.owned t.queue) := by
  obtain ⟨e, he, -⟩ := h.trace.at_task k t ht
  obtain ⟨first, hfirst⟩ := exists_firstUse huses
  rw [h.releasesOver_of_next hprevious ht huses he, h.acquiresOver_eq ht he]
  rcases h.takeover ht he hfirst hprevious with ⟨release, hrelease⟩ | hkept
  · refine ⟨.owned t.queue, ?_, by simp [useCell, h.sameFamily_self ht]⟩
    have hinternal : release.acquireOf.isInternalAcquire = true := by
      have hmem : release.acquireOf ∈ (e.restrict graph x).prologueBarriers.filter
          (·.type.isOwnershipAcquire) := hrelease.acquires_eq ▸ List.mem_cons_self
      rw [GpuCompiledBarrier.isInternalAcquire, (List.mem_filter.1 hmem).2]
      simp [GpuCompiledBarrier.acquireOf, hrelease.isInitialOwnerHandoff]
    have hqueues : release.acquireOf.sourceQueue = u.queue ∧
        release.acquireOf.destinationQueue = t.queue :=
      ⟨hrelease.source_eq, hrelease.destination_eq⟩
    rw [hrelease.pending_eq, hrelease.acquires_eq]
    simp [ownerAfter, acquireCell, hinternal, hqueues, hrelease.source_eq,
      hrelease.destination_eq]
  · rw [hkept.pending_eq, hkept.acquires_eq]
    exact ⟨.owned u.queue, rfl, by simp [useCell, hkept.families hexclusive]⟩

/-- A task takes the owner of its history to the owner it leaves behind. -/
lemma ownerAt_step (hexclusive : ExclusivelyShared graph topology x.resource)
    (ht : plan.tasks[k]? = some t) {owner : CellOwner} (howner : OwnerAt graph plan x k owner) :
    ∃ owner', taskOwner graph plan x owner t = some owner' ∧
      OwnerAt graph plan x (k + 1) owner' := by
  obtain ⟨e, he, -⟩ := h.trace.at_task k t ht
  cases huses : usesCell graph x t
  · -- nothing happens to a cell the task does not use
    have hacquires : acquiresOver graph plan x t = [] := by
      rw [h.acquiresOver_eq ht he, h.restrict_of_unused ht huses he]
      rfl
    refine ⟨owner, by simp [taskOwner, hacquires, h.releasesOver_of_unused ht huses, huses], ?_⟩
    have hhere : ∀ j, j < k + 1 → ¬ j < k → ∀ v, plan.tasks[j]? = some v →
        usesCell graph x v = false := by
      intro j hj hjk v hv
      obtain rfl : j = k := by omega
      obtain rfl := Option.some.inj (ht.symm.trans hv)
      exact huses
    rcases howner with ⟨hunused, rfl⟩ | ⟨i, u, use, hprevious, rfl⟩
    · refine Or.inl ⟨fun j hj v hv => ?_, rfl⟩
      by_cases hjk : j < k
      · exact hunused j hjk v hv
      · exact hhere j hj hjk v hv
    · refine Or.inr ⟨i, u, use, ⟨Nat.lt_succ_of_lt hprevious.lt, hprevious.task_at,
        hprevious.last, fun j hij hj v hv => ?_⟩, rfl⟩
      by_cases hjk : j < k
      · exact hprevious.unused j hij hjk v hv
      · exact hhere j hj hjk v hv
  · have hacquired : ∃ acquired,
        (acquiresOver graph plan x t).foldlM acquireCell owner = some acquired ∧
          useCell plan t.queue acquired = some (.owned t.queue) := by
      rcases howner with ⟨hunused, rfl⟩ | ⟨i, u, use, hprevious, rfl⟩
      · exact h.acquire_first ht huses hunused
      · exact h.acquire_next hexclusive ht huses hprevious
    obtain ⟨acquired, hacquires, hused⟩ := hacquired
    obtain ⟨use, hlast⟩ := exists_lastUse huses
    refine ⟨ownerAfter t (releasesOver graph plan x t), ?_, Or.inr ⟨k, t, use,
      ⟨Nat.lt_succ_self k, ht, hlast, fun j hkj hj => by omega⟩, rfl⟩⟩
    obtain ⟨hlength, hsources⟩ := h.releasesOver_single ht huses
    simp only [taskOwner, hacquires, huses, if_true, Option.bind_eq_bind, Option.bind_some, hused]
    cases hreleases : releasesOver graph plan x t with
    | nil => rfl
    | cons release more =>
      rw [hreleases] at hlength hsources
      obtain rfl : more = [] := List.eq_nil_of_length_eq_zero (by simpa using hlength)
      simp [releaseCell, hsources, h.sameFamily_self ht, ownerAfter]

/-- The replay of an exclusive cell agrees with its history. -/
theorem replayedOwner_history (hexclusive : ExclusivelyShared graph topology x.resource)
    (hk : k ≤ plan.tasks.length) :
    ∃ owner, replayedOwner graph plan x k = some owner ∧ OwnerAt graph plan x k owner := by
  induction k with
  | zero => exact ⟨declaredOwner graph x, rfl, Or.inl ⟨fun j hj => by omega, rfl⟩⟩
  | succ k ih =>
    obtain ⟨owner, hreplayed, howner⟩ := ih (Nat.le_of_succ_le hk)
    obtain ⟨owner', hstep, howner'⟩ :=
      h.ownerAt_step hexclusive (List.getElem?_eq_getElem hk) howner
    refine ⟨owner', ?_, howner'⟩
    rw [replayedOwner] at hreplayed ⊢
    rw [List.take_succ_eq_append_getElem hk, List.foldlM_append, hreplayed]
    simpa using hstep

end PlannedGraph

end Safety

end NwbLot.TaskGraph
