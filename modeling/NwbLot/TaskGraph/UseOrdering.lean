import NwbLot.TaskGraph.EpilogueBarriers
import NwbLot.TaskGraph.PacketOrder

/-!
# State changes after earlier uses

A task takes a cell over from its newest user with a state seed, so packet dependencies chain the
users of a cell along the compiled order.  A read that declares an independent state source may
drop its seed, and with it a link; without such a read in between, a task that changes the state or
the owner of a cell executes after every earlier user.
-/

namespace NwbLot.TaskGraph

open Relation

/-! ## Execution order -/

section Order

variable (plan : GpuCompiledGraph)

/-- A packet waits for another: through a recorded dependency, or behind it on the same queue. -/
def PacketPrecedes (p q : GpuSubmissionPacketId) : Prop :=
  DependsOn plan q p ∨
    (p.index < q.index ∧ ∃ P Q, plan.packets[p.index]? = some P ∧ plan.packets[q.index]? = some Q ∧
      P.queue = Q.queue)

/-- The task at `i` executes before the task at `k`: earlier in the same packet, or in a packet
that a chain of waits puts before the other's. -/
def ExecutesBefore (i k : ℕ) : Prop :=
  ∃ t u, plan.tasks[i]? = some t ∧ plan.tasks[k]? = some u ∧
    ((t.packet = u.packet ∧ i < k) ∨ TransGen (PacketPrecedes plan) t.packet u.packet)

variable {plan}

lemma ExecutesBefore.trans {i j k : ℕ} (hij : ExecutesBefore plan i j)
    (hjk : ExecutesBefore plan j k) : ExecutesBefore plan i k := by
  obtain ⟨t, u, ht, hu, hfirst⟩ := hij
  obtain ⟨u', v, hu', hv, hsecond⟩ := hjk
  obtain rfl := Option.some.inj (hu.symm.trans hu')
  refine ⟨t, v, ht, hv, ?_⟩
  rcases hfirst with ⟨hpacket, hlt⟩ | hchain
  · rcases hsecond with ⟨hpacket', hlt'⟩ | hchain'
    · exact Or.inl ⟨hpacket.trans hpacket', by omega⟩
    · exact Or.inr (hpacket ▸ hchain')
  · rcases hsecond with ⟨hpacket', -⟩ | hchain'
    · exact Or.inr (hpacket' ▸ hchain)
    · exact Or.inr (hchain.trans hchain')

end Order

/-- A packet that no dependency names and no later packet shares a queue with precedes nothing. -/
lemma not_packetPrecedes {plan : GpuCompiledGraph} {p : GpuSubmissionPacketId}
    (hdependencies : ∀ d ∈ plan.packetDependencies, d.producer ≠ p)
    (hqueues : ∀ P, plan.packets[p.index]? = some P →
      ∀ Q ∈ plan.packets.drop (p.index + 1), P.queue ≠ Q.queue) (q : GpuSubmissionPacketId) :
    ¬ PacketPrecedes plan p q := by
  rintro (⟨packet, -, d, hd, hproducer, -⟩ | ⟨hlt, P, Q, hP, hQ, hqueue⟩)
  · exact hdependencies d (List.mem_of_mem_drop (List.mem_of_mem_take hd)) hproducer
  · refine hqueues P hP Q (List.mem_iff_getElem?.2 ⟨q.index - (p.index + 1), ?_⟩) hqueue
    rw [List.getElem?_drop, show p.index + 1 + (q.index - (p.index + 1)) = q.index by omega]
    exact hQ

/-! ## Links between consecutive users -/

section Links

variable (graph : GpuTaskGraph) (topology : GpuTaskGraphQueueTopology) (plan : GpuCompiledGraph)
  (x : ResourceCell)

/-- The task at a position takes the cell over without a seed: it reads, with an independent state
source, in the state of the newest user's read, and the two queues share the resource
concurrently. -/
def DropsSeed (position : ℕ) : Prop :=
  ∃ i u previousUse t use source destination, PreviousUser graph plan x position i u previousUse ∧
    plan.tasks[position]? = some t ∧ firstUse graph x (declaredUses graph t) = some use ∧
    plan.findCompiledQueueInfo u.queue = some source ∧
    plan.findCompiledQueueInfo t.queue = some destination ∧
    use.hasIndependentStateSource = true ∧ previousUse.access = .read ∧ use.access = .read ∧
    previousUse.requiredState = use.requiredState ∧
    resourceSharesQueuePairConcurrently (graph.resourceAt x.resource.index).queueSharing topology
      source destination = true

variable {graph topology plan x}

lemma mayOmit_iff {use previousUse : GpuTaskResourceUse} {u : GpuCompiledTask}
    {range : GpuTaskResourceRange} {concurrentQueuePair : Bool} :
    mayOmitInternalStateSeed use (trackedState u previousUse range) concurrentQueuePair = true ↔
      use.hasIndependentStateSource = true ∧ previousUse.access = .read ∧ use.access = .read ∧
        previousUse.requiredState = use.requiredState ∧ concurrentQueuePair = true := by
  simp only [mayOmitInternalStateSeed, needsUavDependency, trackedState, Bool.and_eq_true,
    beq_iff_eq, Bool.not_eq_true']
  constructor
  · rintro ⟨⟨hflag, ⟨⟨hprevious, huse⟩, hstate⟩, -⟩, hshared⟩
    exact ⟨hflag, hprevious, huse, hstate, hshared⟩
  · rintro ⟨hflag, hprevious, huse, hstate, hshared⟩
    exact ⟨⟨hflag, ⟨⟨hprevious, huse⟩, hstate⟩, by simp [hprevious, huse, isWriteAccess]⟩, hshared⟩

variable {assignments : GpuTaskGraphQueueAssignments} {entries : List StatePlanEntries}
  {exports : ExternalExportPlan}

namespace PlannedGraph

variable (h : PlannedGraph graph topology assignments plan entries exports)
include h

/-- A user that keeps its seed executes after the newest user before it. -/
lemma link (hwell : PacketPlanWellFormed (analyze graph) assignments plan) {i k : ℕ}
    {u t : GpuCompiledTask} {previousUse use : GpuTaskResourceUse}
    (hprevious : PreviousUser graph plan x k i u previousUse) (ht : plan.tasks[k]? = some t)
    (huse : firstUse graph x (declaredUses graph t) = some use)
    (hkept : ¬ DropsSeed graph topology plan x k) : ExecutesBefore plan i k := by
  refine ⟨u, t, hprevious.task_at, ht, ?_⟩
  by_cases hpacket : u.packet = t.packet
  · exact Or.inl ⟨hpacket, hprevious.lt⟩
  refine Or.inr (TransGen.single (Or.inl ?_))
  obtain ⟨e, he, trace⟩ := h.trace.at_task k t ht
  have hresource := resource_of_useCovers (useCovers_of_firstUse huse).2
  obtain ⟨range, previousRange, handoff, -, hhandoff, hown⟩ :=
    h.handoff_at_cell ht he huse hprevious
  have hsource := h.layout.packet_at hprevious.task_at
  rcases planPacketHandoff_cases hhandoff with ⟨hsame, -⟩ | ⟨-, source, destination, hcase⟩
  · exact absurd (hsource.symm.trans hsame) hpacket
  · have hkeeps : ¬ mayOmitInternalStateSeed use (trackedState u previousUse previousRange)
        (resourceSharesQueuePairConcurrently (graph.resourceAt use.resource.index).queueSharing
          topology source destination) = true := by
      intro homitted
      obtain ⟨hflag, hread, hread', hstate, hshared⟩ := mayOmit_iff.1 homitted
      rw [hresource] at hshared
      exact hkept ⟨i, u, previousUse, t, use, source, destination, hprevious, ht, huse,
        hcase.source_eq, hcase.destination_eq, hflag, hread, hread', hstate, hshared⟩
    have hseeds : handoff.prologueStateSeeds =
        [{ resource := use.resource, range
           sourcePacket := plan.findCompiledPacketForTask u.task }] := by
      rw [hcase.seeds, if_neg hkeeps]
      rfl
    rw [hsource] at hseeds
    obtain ⟨seeds, hrequired, hdepends⟩ := hwell.seeds t (List.mem_of_getElem? ht)
    obtain rfl := Option.some.inj (hrequired.symm.trans trace.seeds)
    refine hdepends { resource := use.resource, range, sourcePacket := u.packet } ?_
    have hmem : ({ resource := use.resource, range, sourcePacket := u.packet } :
        GpuPacketStateSeed) ∈ (e.restrict graph x).prologueStateSeeds := by
      rw [hown]
      exact List.mem_append_left _ (hseeds ▸ List.mem_cons_self)
    exact (List.mem_filter.1 hmem).1

omit h in
/-- The newest user before a position that has one. -/
lemma exists_previousUser {i k : ℕ} (hik : i < k) (hk : k ≤ plan.tasks.length)
    {t : GpuCompiledTask} (ht : plan.tasks[i]? = some t) (huses : usesCell graph x t = true) :
    ∃ j u previousUse, i ≤ j ∧ PreviousUser graph plan x k j u previousUse := by
  have hhistory : HistoryAt graph plan x k _ := historyAt_latestState hk
  cases hlatest : latestState graph x (trackedBefore graph plan k) with
  | none =>
    rw [hlatest] at hhistory
    rw [hhistory i hik t ht] at huses
    cases huses
  | some state =>
    rw [hlatest] at hhistory
    obtain ⟨j, u, previousUse, range, hprevious, -⟩ := hhistory
    refine ⟨j, u, previousUse, ?_, hprevious⟩
    by_contra hlt
    rw [hprevious.unused i (by omega) hik t ht] at huses
    cases huses

/-- Users of a cell execute in order when no user behind the first drops its seed. -/
theorem users_in_order (hwell : PacketPlanWellFormed (analyze graph) assignments plan) {i k : ℕ}
    (hik : i < k) {t u : GpuCompiledTask} (ht : plan.tasks[i]? = some t)
    (huses : usesCell graph x t = true) (hu : plan.tasks[k]? = some u)
    (huses' : usesCell graph x u = true)
    (hkept : ∀ j, i < j → j ≤ k → ¬ DropsSeed graph topology plan x j) :
    ExecutesBefore plan i k := by
  -- the newest user before `k` links to it; the induction reaches that user
  induction k using Nat.strong_induction_on generalizing u with
  | _ k ih =>
    have hk := Nat.le_of_lt (List.getElem?_eq_some_iff.1 hu).1
    obtain ⟨j, v, previousUse, hij, hprevious⟩ := exists_previousUser hik hk ht huses
    obtain ⟨use, huse⟩ := exists_firstUse huses'
    have hlast := h.link hwell hprevious hu huse (hkept k hik (Nat.le_refl k))
    rcases Nat.eq_or_lt_of_le hij with rfl | hlt
    · exact hlast
    · have hearlier := ih j hprevious.lt hlt hprevious.task_at
        (usesCell_of_lastUse hprevious.last) fun l hil hlj =>
          hkept l hil (by have := hprevious.lt; omega)
      exact hearlier.trans hlast

/-! ## Order through the analysis -/

/-- The ends of a scheduling edge execute in order. -/
lemma executes_of_edge (hwell : PacketPlanWellFormed (analyze graph) assignments plan)
    {edge : GpuTaskDependencyEdge} (hedge : edge ∈ (analyze graph).edges) :
    ∃ (i k : ℕ) (t u : GpuCompiledTask), i < k ∧ plan.tasks[i]? = some t ∧
      plan.tasks[k]? = some u ∧ t.task = edge.producer ∧ u.task = edge.consumer ∧
      ExecutesBefore plan i k := by
  obtain ⟨i, k, t, u, hik, ht, hu, hproducer, hconsumer⟩ := h.layout.edge_positions h.analyzed hedge
  refine ⟨i, k, t, u, hik, ht, hu, hproducer, hconsumer, t, u, ht, hu, ?_⟩
  have hpackets := hwell.edges edge hedge
  rw [← hproducer, ← hconsumer, h.layout.packet_at ht, h.layout.packet_at hu] at hpackets
  rcases hpackets with ⟨packet, hpacket, hlisted⟩ | hdepends
  · refine Or.inl ⟨?_, hik⟩
    obtain ⟨index, hindex⟩ := List.mem_iff_getElem?.1 hpacket
    have hpacketOf : ∀ {k : ℕ} {t : GpuCompiledTask}, plan.tasks[k]? = some t →
        t.task ∈ plan.packetTasksOf packet → t.packet = ⟨index, plan.planGeneration⟩ := by
      intro k t ht hlistedTask
      obtain ⟨l, v, hv, heq, hat⟩ := h.layout.exists_of_mem_packetTasksOf hindex hlistedTask
      obtain rfl := h.layout.position_unique hv ht heq
      obtain rfl := Option.some.inj (hv.symm.trans ht)
      obtain ⟨_, hplaced⟩ := h.layout.placed l v hv
      rw [← hat, ← hplaced.generation]
    rw [hpacketOf ht (hlisted.subset List.mem_cons_self),
      hpacketOf hu (hlisted.subset (List.mem_cons_of_mem _ List.mem_cons_self))]
  · exact Or.inr (TransGen.single (Or.inl hdepends))

/-- Tasks joined by a path of scheduling edges execute in the order of the path. -/
lemma executes_of_orders (hwell : PacketPlanWellFormed (analyze graph) assignments plan)
    {a b : GpuTaskId} (horders : Orders (analyze graph).edges a b) :
    ∃ (i k : ℕ) (t u : GpuCompiledTask), i < k ∧ plan.tasks[i]? = some t ∧
      plan.tasks[k]? = some u ∧ t.task = a ∧ u.task = b ∧ ExecutesBefore plan i k := by
  induction horders with
  | single hstep =>
    obtain ⟨edge, hedge, rfl, rfl⟩ := hstep
    exact h.executes_of_edge hwell hedge
  | tail _ hstep ih =>
    obtain ⟨edge, hedge, hproducer, rfl⟩ := hstep
    obtain ⟨i, k, t, u, hik, ht, hu, rfl, hmiddle, hfirst⟩ := ih
    obtain ⟨k', l, u', v, hkl, hu', hv, hmiddle', hend, hlast⟩ := h.executes_of_edge hwell hedge
    obtain rfl := h.layout.position_unique hu hu'
      (hmiddle.trans (hproducer.symm.trans hmiddle'.symm))
    exact ⟨i, l, t, v, hik.trans hkl, ht, hv, rfl, hend, hfirst.trans hlast⟩

end PlannedGraph

/-- The task declares a range over the cell, with the given kind of access. -/
def DeclaresCell (graph : GpuTaskGraph) (x : ResourceCell) (accepts : GpuTaskResourceAccess → Prop)
    (t : GpuCompiledTask) : Prop :=
  ∃ use ∈ declaredUses graph t, use.resource = x.resource ∧ accepts use.access ∧
    rangeCovers (x.type graph) use.range x.cell = true

/-- Some task from `i` to `k` writes the cell, and the tasks at both ends declare it. -/
def WrittenAcross (graph : GpuTaskGraph) (plan : GpuCompiledGraph) (x : ResourceCell) (i k : ℕ) :
    Prop :=
  ∃ w t v u, i ≤ w ∧ w ≤ k ∧ plan.tasks[i]? = some t ∧ plan.tasks[w]? = some v ∧
    plan.tasks[k]? = some u ∧ DeclaresCell graph x (fun _ => True) t ∧
    DeclaresCell graph x (isWriteAccess · = true) v ∧ DeclaresCell graph x (fun _ => True) u

namespace PlannedGraph

variable (h : PlannedGraph graph topology assignments plan entries exports)
include h

/-- Declared accesses to a cell, one of them writing, execute in compiled order. -/
lemma executes_of_conflict (hwell : PacketPlanWellFormed (analyze graph) assignments plan)
    {i k : ℕ} (hik : i < k) {t u : GpuCompiledTask} (ht : plan.tasks[i]? = some t)
    (hu : plan.tasks[k]? = some u) {useT useU : GpuTaskResourceUse}
    (huseT : useT ∈ declaredUses graph t) (huseU : useU ∈ declaredUses graph u)
    (hresourceT : useT.resource = x.resource) (hresourceU : useU.resource = x.resource)
    (hcellT : rangeCovers (x.type graph) useT.range x.cell = true)
    (hcellU : rangeCovers (x.type graph) useU.range x.cell = true)
    (hwrites : isWriteAccess useT.access = true ∨ isWriteAccess useU.access = true) :
    ExecutesBefore plan i k := by
  have success := analyze_success h.analyzed
  have hvalid : ∀ {k : ℕ} {t : GpuCompiledTask}, plan.tasks[k]? = some t →
      graph.validTask t.task = true := fun ht =>
    (mem_order_iff success.ordered).1 (List.mem_of_getElem? (h.layout.order_at ht))
  have hne : t.task ≠ u.task := fun heq => by
    have := h.layout.position_unique ht hu heq
    omega
  have hconflict : DeclaredAccess.Conflicts graph ⟨t.task, useT⟩ ⟨u.task, useU⟩ := by
    refine ⟨hne, hresourceT.trans hresourceU.symm, ⟨x.cell, ?_, ?_⟩, hwrites⟩
    · rw [DeclaredAccess.Touches, GpuTaskResourceUse.type, hresourceT]
      exact hcellT
    · rw [DeclaredAccess.Touches, GpuTaskResourceUse.type, hresourceU]
      exact hcellU
  rcases orders_of_conflict graph success (hvalid ht) (hvalid hu) huseT huseU hconflict with
    ⟨-, horders⟩ | ⟨-, horders⟩
  · obtain ⟨i', k', t', u', -, ht', hu', htask, htask', hbefore⟩ :=
      h.executes_of_orders hwell horders
    obtain rfl := h.layout.position_unique ht ht' htask.symm
    obtain rfl := h.layout.position_unique hu hu' htask'.symm
    exact hbefore
  · -- the path would lead against the compiled order
    obtain ⟨k', i', u', t', hlt, hu', ht', htask', htask, -⟩ := h.executes_of_orders hwell horders
    obtain rfl := h.layout.position_unique ht ht' htask.symm
    obtain rfl := h.layout.position_unique hu hu' htask'.symm
    omega

/-- A writer from `i` to `k` orders the tasks at both ends. -/
lemma executes_of_writtenAcross (hwell : PacketPlanWellFormed (analyze graph) assignments plan)
    {i k : ℕ} (hik : i < k) (hwritten : WrittenAcross graph plan x i k) :
    ExecutesBefore plan i k := by
  obtain ⟨w, t, v, u, hiw, hwk, ht, hv, hu, ⟨useT, huseT, hresourceT, -, hcellT⟩,
    ⟨useV, huseV, hresourceV, hwrites, hcellV⟩, useU, huseU, hresourceU, -, hcellU⟩ := hwritten
  have hlast : w < k → ExecutesBefore plan w k := fun hlt =>
    h.executes_of_conflict hwell hlt hv hu huseV huseU hresourceV hresourceU hcellV hcellU
      (Or.inl hwrites)
  rcases Nat.eq_or_lt_of_le hiw with rfl | hlt
  · exact hlast hik
  have hfirst := h.executes_of_conflict hwell hlt ht hv huseT huseV hresourceT hresourceV hcellT
    hcellV (Or.inr hwrites)
  rcases Nat.eq_or_lt_of_le hwk with rfl | hlt'
  · exact hfirst
  · exact hfirst.trans (hlast hlt')

/-- A task with a prologue barrier over a cell uses the cell and has not dropped its seed. -/
lemma kept_of_prologueBarrier {k : ℕ} {t : GpuCompiledTask} (ht : plan.tasks[k]? = some t)
    {barrier : GpuCompiledBarrier} (hmem : barrier ∈ plan.prologueBarriersOf t)
    (hcovers : barrierCovers graph x barrier = true) :
    usesCell graph x t = true ∧ ¬ DropsSeed graph topology plan x k := by
  obtain ⟨e, he, trace⟩ := h.trace.at_task k t ht
  rw [trace.barriers] at hmem
  have hown : barrier ∈ (e.restrict graph x).prologueBarriers := List.mem_filter.2 ⟨hmem, hcovers⟩
  constructor
  · by_contra hunused
    rw [h.restrict_of_unused ht (by simpa using hunused) he] at hown
    cases hown
  rintro ⟨i, u, previousUse, t', use, source, destination, hprevious, ht', huse, hsource,
    hdestination, -, hread, hread', hstate, hshared⟩
  obtain rfl := Option.some.inj (ht.symm.trans ht')
  have hresource := resource_of_useCovers (useCovers_of_firstUse huse).2
  obtain ⟨range, previousRange, handoff, -, hhandoff, hplannedOwn⟩ :=
    h.handoff_at_cell ht he huse hprevious
  -- nothing is handed over and nothing changes
  have hhandoffBarriers : handoff.prologueBarriers = [] := by
    rcases planPacketHandoff_cases hhandoff with ⟨-, rfl⟩ | ⟨-, source', destination', hcase⟩
    · rfl
    · refine (hcase.shared ?_).2
      obtain rfl := Option.some.inj (hsource.symm.trans hcase.source_eq)
      obtain rfl := Option.some.inj (hdestination.symm.trans hcase.destination_eq)
      rw [requiresExclusiveOwnershipHandoff, hresource,
        resourceUsesConcurrentQueueSharing_of_pair hshared]
      rfl
  have htransition : (planTransition (graph.resourceAt use.resource.index) use t range
      (trackedState u previousUse previousRange)).prologueBarriers = [] := by
    rw [planTransition_barriers, if_neg]
    simp [trackedState, needsUavDependency, hstate, hread, hread', isWriteAccess]
  rw [hplannedOwn, StatePlanEntries.ranged, StatePlanEntries.append_barriers, hhandoffBarriers,
    htransition] at hown
  cases hown

end PlannedGraph

end Links

/-! ## State changes -/

section Changes

variable (graph : GpuTaskGraph) (topology : GpuTaskGraphQueueTopology) (plan : GpuCompiledGraph)

/-- The barrier changes the state of its cells or takes them over from another queue. -/
def changesCells (barrier : GpuCompiledBarrier) : Bool :=
  barrier.before != barrier.after || barrier.type.isOwnershipAcquire

/-- Barriers over a cell come after the earlier users of the cell, except for the pairs of
positions that are excused. -/
structure OrderedChanges (excused : ResourceCell → ℕ → ℕ → Prop) : Prop where
  /-- A task that changes a cell executes after every earlier user of it. -/
  prologues : ∀ (i k : ℕ) (t u : GpuCompiledTask), i < k → plan.tasks[i]? = some t →
    plan.tasks[k]? = some u → ∀ barrier ∈ plan.prologueBarriersOf u, changesCells barrier = true →
    ∀ x, barrierCovers graph x barrier = true → usesCell graph x t = true →
      ¬ excused x i k → ExecutesBefore plan i k
  /-- So does a task that exports a cell, and no later task uses the cell. -/
  exports : ∀ (i k : ℕ) (t u : GpuCompiledTask), plan.tasks[i]? = some t →
    plan.tasks[k]? = some u → ∀ barrier ∈ plan.epilogueBarriersOf u,
    barrier.type.isStateExport = true → ∀ x, barrierCovers graph x barrier = true →
    usesCell graph x t = true → i ≤ k ∧ (i < k → ¬ excused x i k → ExecutesBefore plan i k)

/-- A user behind `i` and not behind `k` has dropped its seed, and nobody writes the cell across. -/
def SeedDropped (x : ResourceCell) (i k : ℕ) : Prop :=
  (∃ j, i < j ∧ j ≤ k ∧ DropsSeed graph topology plan x j) ∧ ¬ WrittenAcross graph plan x i k

variable {graph topology plan} {assignments : GpuTaskGraphQueueAssignments}
  {entries : List StatePlanEntries} {exports : ExternalExportPlan}

namespace PlannedGraph

variable (h : PlannedGraph graph topology assignments plan entries exports)
include h

/-- Users of a cell execute in order unless a seed was dropped in between. -/
lemma executes_of_not_seedDropped (hwell : PacketPlanWellFormed (analyze graph) assignments plan)
    {x : ResourceCell} {i k : ℕ} (hik : i < k) {t u : GpuCompiledTask}
    (ht : plan.tasks[i]? = some t) (huses : usesCell graph x t = true)
    (hu : plan.tasks[k]? = some u) (huses' : usesCell graph x u = true)
    (hkept : ¬ SeedDropped graph topology plan x i k) : ExecutesBefore plan i k := by
  by_cases hwritten : WrittenAcross graph plan x i k
  · exact h.executes_of_writtenAcross hwell hik hwritten
  · refine h.users_in_order hwell hik ht huses hu huses' fun j hij hjk hdropped => ?_
    exact hkept ⟨⟨j, hij, hjk, hdropped⟩, hwritten⟩

lemma orderedChanges (hwell : PacketPlanWellFormed (analyze graph) assignments plan) :
    OrderedChanges graph plan (SeedDropped graph topology plan) where
  prologues := by
    intro i k t u hik ht hu barrier hmem _ x hcovers huses hkept
    have huses' := (h.kept_of_prologueBarrier hu hmem hcovers).1
    exact h.executes_of_not_seedDropped hwell hik ht huses hu huses' hkept
  exports := by
    intro i k t u ht hu barrier hmem hexport x hcovers huses
    obtain ⟨use, hlast⟩ := h.last_user_of_stateExport hu hmem hexport hcovers
    refine ⟨?_, fun hik hkept => ?_⟩
    · by_contra hlater
      have := hlast.unused i (by omega) (List.getElem?_eq_some_iff.1 ht).1 t ht
      rw [huses] at this
      cases this
    · exact h.executes_of_not_seedDropped hwell hik ht huses hu (usesCell_of_lastUse hlast.last)
        hkept

end PlannedGraph

end Changes

/-- In every compiled plan state changes and exports of a cell come after its earlier users, unless
a reader with an independent state source has dropped its seed in between. -/
theorem compile_orderedChanges {assignQueues : QueueAssigner}
    {options : GpuTaskGraphCompileOptions} {planGeneration : CompiledPlanGeneration}
    {graph : GpuTaskGraph} {topology : GpuTaskGraphQueueTopology} {out : GpuTaskGraphCompilation}
    (h : compile assignQueues options planGeneration graph topology = some out) :
    OrderedChanges graph out.compiledGraph (SeedDropped graph topology out.compiledGraph) := by
  obtain ⟨entries, exports, hplanned⟩ := plannedGraph_of_compile h
  exact hplanned.orderedChanges (packetPlanWellFormed_of_compile h)

/-- A Graphics reader, a Compute reader of the same state, and a Compute reader of another state. -/
def independentReaderGraph (hasIndependentStateSource : Bool) : GpuTaskGraph where
  generation := 1
  tasks :=
    [recordedTask 1 .graphics
      [{ resource := ⟨0, 1⟩, requiredState := ResourceStates.shaderResource }],
     recordedTask 2 .compute
      [{ resource := ⟨0, 1⟩, requiredState := ResourceStates.shaderResource
         hasIndependentStateSource }],
     recordedTask 3 .compute
      [{ resource := ⟨0, 1⟩, requiredState := ResourceStates.constantBuffer }]]
  resources :=
    [{ bufferNode 4 ResourceStates.shaderResource with
        queueSharing := ResourceQueueSharing.graphics ||| ResourceQueueSharing.asyncCompute }]
  externalCompletions := []
  generation_ne_zero := Nat.one_ne_zero
  tasks_length_le := show 3 ≤ u32Max by decide
  resources_length_le := by decide
  resources_declared := by decide

def independentReaderCompilation (hasIndependentStateSource : Bool) :
    Option GpuTaskGraphCompilation :=
  compile assignPreferredQueues {} ⟨1, Nat.one_ne_zero⟩
    (independentReaderGraph hasIndependentStateSource) twoFamilyTopology

theorem compile_orderedChanges_seededReader : ∃ out, independentReaderCompilation false = some out ∧
    OrderedChanges (independentReaderGraph false) out.compiledGraph
      (SeedDropped (independentReaderGraph false) twoFamilyTopology out.compiledGraph) := by
  obtain ⟨out, hout⟩ : ∃ out, independentReaderCompilation false = some out := ⟨_, rfl⟩
  exact ⟨out, hout, compile_orderedChanges hout⟩

/-- The Compute reader drops its seed, so nothing puts the later transition behind the Graphics
reader. -/
theorem independentReader_not_ordered : ∃ out, independentReaderCompilation true = some out ∧
    ¬ OrderedChanges (independentReaderGraph true) out.compiledGraph (fun _ _ _ => False) := by
  obtain ⟨out, hout, hdependencies, hqueues, hfirst, hlast⟩ : ∃ out,
      independentReaderCompilation true = some out ∧
        (∀ d ∈ out.compiledGraph.packetDependencies, d.producer ≠ ⟨0, 1⟩) ∧
        (∀ P, out.compiledGraph.packets[0]? = some P →
          ∀ Q ∈ out.compiledGraph.packets.drop 1, P.queue ≠ Q.queue) ∧
        (∃ t, out.compiledGraph.tasks[0]? = some t ∧ t.packet = ⟨0, 1⟩ ∧
          usesCell (independentReaderGraph true) ⟨⟨0, 1⟩, (0, 0)⟩ t = true) ∧
        (∃ u, out.compiledGraph.tasks[2]? = some u ∧ u.packet = ⟨2, 1⟩ ∧
          ∃ barrier ∈ out.compiledGraph.prologueBarriersOf u, changesCells barrier = true ∧
            barrierCovers (independentReaderGraph true) ⟨⟨0, 1⟩, (0, 0)⟩ barrier = true) := by
    refine ⟨_, rfl, by decide, ?_, ⟨_, rfl, rfl, rfl⟩, ⟨_, rfl, rfl, _, List.mem_cons_self, rfl,
      rfl⟩⟩
    rintro P hP
    cases hP
    decide
  obtain ⟨t, ht, hpacket, huses⟩ := hfirst
  obtain ⟨u, hu, hpacket', barrier, hmem, hchanges, hcovers⟩ := hlast
  refine ⟨out, hout, fun hordered => ?_⟩
  obtain ⟨t', u', ht', hu', hexecutes⟩ :=
    hordered.prologues 0 2 t u (by decide) ht hu barrier hmem hchanges _ hcovers huses id
  obtain rfl := Option.some.inj (ht.symm.trans ht')
  obtain rfl := Option.some.inj (hu.symm.trans hu')
  rw [hpacket, hpacket'] at hexecutes
  rcases hexecutes with ⟨heq, -⟩ | hchain
  · revert heq
    decide
  · obtain ⟨q, hstep, -⟩ := TransGen.head'_iff.1 hchain
    exact not_packetPrecedes hdependencies hqueues q hstep

end NwbLot.TaskGraph
