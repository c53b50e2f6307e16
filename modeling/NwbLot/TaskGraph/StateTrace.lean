import NwbLot.TaskGraph.CellProjection
import NwbLot.TaskGraph.PlanLayout

/-!
# The trace of state planning

State planning appends, for every task of the order, the entries of its use loop against the
states the earlier tasks declared.  `StateTrace` says that a plan still shows these entries: each
task's prologue spans hold its own seeds and barriers, its epilogue span the releases and exports
pending for it.
-/

namespace NwbLot.TaskGraph

/-! ## What was tracked before a task -/

/-- The declared uses of a compiled task. -/
def declaredUses (graph : GpuTaskGraph) (t : GpuCompiledTask) : List GpuTaskResourceUse :=
  (graph.taskAt t.task.index).resourceUses

/-- The tracked states a task leaves. -/
def taskStates (graph : GpuTaskGraph) (t : GpuCompiledTask) :
    List TrackedCompiledResourceState :=
  (declaredUses graph t).flatMap (useStates graph t)

/-- The tracked states before the task at a position. -/
def trackedBefore (graph : GpuTaskGraph) (plan : GpuCompiledGraph) (position : ℕ) :
    List TrackedCompiledResourceState :=
  (plan.tasks.take position).flatMap (taskStates graph)

variable {graph : GpuTaskGraph} {plan : GpuCompiledGraph} {t : GpuCompiledTask}

lemma trackedBefore_succ {position : ℕ} (ht : plan.tasks[position]? = some t) :
    trackedBefore graph plan (position + 1)
      = trackedBefore graph plan position ++ taskStates graph t := by
  obtain ⟨hposition, rfl⟩ := List.getElem?_eq_some_iff.1 ht
  rw [trackedBefore, List.take_succ_eq_append_getElem hposition, List.flatMap_append]
  simp [trackedBefore]

/-! ## Concatenated entries -/

namespace StatePlanEntries

lemma append_assoc (a b c : StatePlanEntries) : a ++ b ++ c = a ++ (b ++ c) := by
  ext1 <;> simp

lemma concat_append (xs ys : List StatePlanEntries) :
    concat (xs ++ ys) = concat xs ++ concat ys := by
  induction xs with
  | nil => simp
  | cons x rest ih => simp [ih, append_assoc]

variable {xs : List StatePlanEntries}

/-- The entries around one position. -/
lemma concat_split {k : ℕ} {e : StatePlanEntries} (h : xs[k]? = some e) :
    concat xs = concat (xs.take k) ++ e ++ concat (xs.drop (k + 1)) := by
  obtain ⟨hk, rfl⟩ := List.getElem?_eq_some_iff.1 h
  calc concat xs = concat (xs.take k ++ xs.drop k) := by rw [List.take_append_drop]
    _ = concat (xs.take k) ++ (xs[k] ++ concat (xs.drop (k + 1))) := by
        rw [concat_append, List.drop_eq_getElem_cons hk, concat_cons]
    _ = _ := (append_assoc _ _ _).symm

/-- Membership in a concatenated vector comes from one position. -/
lemma exists_of_mem_concat_pending {pending : PendingCompiledEpilogueBarrier}
    (h : pending ∈ (concat xs).pendingEpilogueBarriers) :
    ∃ (k : ℕ) (e : StatePlanEntries), xs[k]? = some e ∧ pending ∈ e.pendingEpilogueBarriers := by
  induction xs with
  | nil => cases h
  | cons x rest ih =>
    rcases List.mem_append.1 h with hx | hrest
    · exact ⟨0, x, rfl, hx⟩
    · obtain ⟨k, e, he, hmem⟩ := ih hrest
      exact ⟨k + 1, e, he, hmem⟩

end StatePlanEntries

/-! ## The task loop -/

section Loop

variable (graph : GpuTaskGraph) (topology : GpuTaskGraphQueueTopology) (base : GpuCompiledGraph)

/-- The use loop of the task at a position appended these entries. -/
def PlannedEntries (position : ℕ) (t : GpuCompiledTask) (entries : StatePlanEntries) : Prop :=
  ∃ taskQueue new, base.findCompiledQueueInfo t.queue = some taskQueue ∧
    planTaskUses graph topology base t taskQueue [] (trackedBefore graph base position)
      (declaredUses graph t) = some (new, entries)

/-- A task with its prologue spans behind the entries planned before it. -/
def GpuCompiledTask.withPrologue (t : GpuCompiledTask) (before own : StatePlanEntries) :
    GpuCompiledTask :=
  { t with
    prologueStateSeedOffset := before.prologueStateSeeds.length
    prologueBarrierOffset := before.prologueBarriers.length
    prologueStateSeedCount := own.prologueStateSeeds.length
    prologueBarrierCount := own.prologueBarriers.length }

@[simp] lemma GpuCompiledTask.withPrologue_task (t : GpuCompiledTask)
    (before own : StatePlanEntries) : (t.withPrologue before own).task = t.task := rfl

/-- The loop invariant over the tasks planned so far and the entries of each. -/
structure TraceInv (count : ℕ) (state : ResourceStatePlan) (entries : List StatePlanEntries) :
    Prop where
  entries_length : entries.length = count
  tasks_length : state.tasks.length = count
  count_le : count ≤ base.tasks.length
  tracked : state.trackedResourceStates = trackedBefore graph base count
  concat : state.entries = StatePlanEntries.concat entries
  planned : ∀ (k : ℕ) (t : GpuCompiledTask) (e : StatePlanEntries), base.tasks[k]? = some t →
    entries[k]? = some e → PlannedEntries graph topology base k t e
  spans : ∀ (k : ℕ) (t : GpuCompiledTask) (e : StatePlanEntries), base.tasks[k]? = some t →
    entries[k]? = some e →
      state.tasks[k]? = some (t.withPrologue (StatePlanEntries.concat (entries.take k)) e)

variable {graph topology base}

variable {count : ℕ} {state : ResourceStatePlan} {entries : List StatePlanEntries}

lemma traceInv_step {state' : ResourceStatePlan} {taskID : GpuTaskId}
    (haccepted : ∀ use ∈ (graph.taskAt taskID.index).resourceUses, AcceptedUse graph use)
    (hstep : planTask graph topology base state taskID = some state')
    (h : TraceInv graph topology base count state entries) :
    ∃ own, TraceInv graph topology base (count + 1) state' (entries ++ [own]) := by
  simp only [planTask, Option.bind_eq_bind, Option.bind_eq_some_iff] at hstep
  obtain ⟨t, ht, hstep⟩ := hstep
  split at hstep
  · cases hstep
  next htask =>
  obtain rfl : t.task = taskID := not_not.1 htask
  simp only [Option.bind_eq_some_iff, Option.some.injEq] at hstep
  obtain ⟨taskQueue, hqueue, ⟨new, own⟩, hown, rfl⟩ := hstep
  rw [h.tasks_length] at ht
  rw [h.tracked] at hown
  have hplanned : PlannedEntries graph topology base count t own := ⟨taskQueue, new, hqueue, hown⟩
  refine ⟨own, ⟨by simp [h.entries_length], by simp [h.tasks_length], ?_, ?_, ?_, ?_, ?_⟩⟩
  · exact (List.getElem?_eq_some_iff.1 ht).1
  · rw [trackedBefore_succ ht]
    exact (planTaskUses_at hown haccepted).1
  · rw [StatePlanEntries.concat_append, ← h.concat]
    simp
  · intro k t' e ht' he
    rcases Spans.getElem?_snoc_cases he with ⟨-, hold⟩ | ⟨hk, rfl⟩
    · exact h.planned k t' e ht' hold
    · rw [hk, h.entries_length, ht] at ht'
      cases ht'
      rw [hk, h.entries_length]
      exact hplanned
  · intro k t' e ht' he
    rcases Spans.getElem?_snoc_cases he with ⟨hk, hold⟩ | ⟨hk, rfl⟩
    · have hlt : k < state.tasks.length := by
        rw [h.tasks_length, ← h.entries_length]
        exact hk
      rw [List.getElem?_append_left hlt, h.spans k t' e ht' hold,
        List.take_append_of_le_length (Nat.le_of_lt hk)]
    · rw [h.entries_length] at hk
      subst hk
      rw [ht] at ht'
      cases ht'
      rw [← h.entries_length, List.take_left, ← h.concat, h.entries_length, ← h.tasks_length]
      exact List.getElem?_concat_length

variable {order : List GpuTaskId} {states : ResourceStatePlan}

lemma traceInv_run (haccepted : ∀ id ∈ order, ∀ use ∈ (graph.taskAt id.index).resourceUses,
      AcceptedUse graph use)
    (hrun : order.foldlM (planTask graph topology base) state = some states)
    (h : TraceInv graph topology base count state entries) :
    ∃ entries', TraceInv graph topology base (count + order.length) states entries' := by
  induction order generalizing count state entries with
  | nil =>
    simp only [List.foldlM_nil, Option.pure_def, Option.some.injEq] at hrun
    exact ⟨entries, hrun ▸ h⟩
  | cons id rest ih =>
    simp only [List.foldlM_cons, Option.bind_eq_bind, Option.bind_eq_some_iff] at hrun
    obtain ⟨state', hstep, hrest⟩ := hrun
    obtain ⟨own, hown⟩ := traceInv_step (haccepted id List.mem_cons_self) hstep h
    obtain ⟨entries', hentries'⟩ :=
      ih (fun id' hmem => haccepted id' (List.mem_cons_of_mem _ hmem)) hrest hown
    refine ⟨entries', ?_⟩
    rw [List.length_cons, show count + (rest.length + 1) = count + 1 + rest.length by omega]
    exact hentries'

/-- The invariant of a finished state planning. -/
theorem traceInv_planTaskResourceStates
    (haccepted : ∀ id ∈ order, ∀ use ∈ (graph.taskAt id.index).resourceUses,
      AcceptedUse graph use) (h : planTaskResourceStates graph topology base order = some states) :
    ∃ entries, TraceInv graph topology base order.length states entries := by
  have hinit : TraceInv graph topology base 0 {} [] :=
    ⟨rfl, rfl, Nat.zero_le _, by simp [trackedBefore], rfl, by simp, by simp⟩
  simpa using traceInv_run haccepted h hinit

end Loop

/-! ## Lookups after planning -/

/-- Two plans with the same placements and topology: state planning reads nothing else. -/
structure SamePlacements (base plan : GpuCompiledGraph) : Prop where
  tasks : plan.tasks.map GpuCompiledTask.placement = base.tasks.map GpuCompiledTask.placement
  graphGeneration : plan.graphGeneration = base.graphGeneration
  deviceGeneration : plan.deviceGeneration = base.deviceGeneration
  queueTopology : plan.queueTopology = base.queueTopology

lemma find?_packet_of_placements {xs ys : List GpuCompiledTask}
    (h : ys.map GpuCompiledTask.placement = xs.map GpuCompiledTask.placement) (id : GpuTaskId) :
    (ys.find? (·.task == id)).map (·.packet) = (xs.find? (·.task == id)).map (·.packet) := by
  have hvia : ∀ ts : List GpuCompiledTask, (ts.find? (·.task == id)).map (·.packet)
      = ((ts.map GpuCompiledTask.placement).find? (·.1 == id)).map (·.2.2) := by
    intro ts
    rw [List.find?_map, Option.map_map]
    rfl
  rw [hvia, hvia, h]

namespace SamePlacements

variable {base plan : GpuCompiledGraph} (h : SamePlacements base plan)
include h

lemma findCompiledPacketForTask (id : GpuTaskId) :
    plan.findCompiledPacketForTask id = base.findCompiledPacketForTask id := by
  have hfind := find?_packet_of_placements h.tasks id
  simp only [GpuCompiledGraph.findCompiledPacketForTask, GpuCompiledGraph.findCompiledTask,
    h.graphGeneration]
  split_ifs with hinvalid
  · rfl
  · cases hplan : plan.tasks.find? (·.task == id) <;>
      cases hbase : base.tasks.find? (·.task == id) <;> simp_all

lemma findCompiledQueueInfo (queue : GpuPhysicalQueueId) :
    plan.findCompiledQueueInfo queue = base.findCompiledQueueInfo queue := by
  simp only [GpuCompiledGraph.findCompiledQueueInfo, h.deviceGeneration, h.queueTopology]

lemma trackedBefore (graph : GpuTaskGraph) (position : ℕ) :
    trackedBefore graph plan position = trackedBefore graph base position := by
  have hvia : ∀ ts : List GpuCompiledTask, ts.flatMap (taskStates graph)
      = (ts.map GpuCompiledTask.placement).flatMap fun placement =>
          taskStates graph { task := placement.1, queue := placement.2.1 } := by
    intro ts
    rw [List.flatMap_map]
    rfl
  rw [TaskGraph.trackedBefore, TaskGraph.trackedBefore, hvia, hvia, List.map_take, List.map_take,
    h.tasks]

variable {graph : GpuTaskGraph} {topology : GpuTaskGraphQueueTopology} {placed t : GpuCompiledTask}

/-- The use loop of a task gives the same result over both plans. -/
lemma planTaskUses (ht : t.placement = placed.placement) (taskQueue : GpuPhysicalQueueInfo)
    (previousUses : List GpuTaskResourceUse) (tracked : List TrackedCompiledResourceState)
    (uses : List GpuTaskResourceUse) :
    planTaskUses graph topology plan t taskQueue previousUses tracked uses
      = planTaskUses graph topology base placed taskQueue previousUses tracked uses := by
  simp only [GpuCompiledTask.placement, Prod.mk.injEq] at ht
  obtain ⟨htask, hqueue, hpacket⟩ := ht
  have hprevious : ∀ resource use range previousState,
      planFromPreviousState topology plan resource use t range previousState
        = planFromPreviousState topology base resource use placed range previousState := by
    intro resource use range previousState
    simp only [planFromPreviousState, planPacketHandoff, planExclusiveHandoff,
      planOwnershipHandoff, planTransition, h.findCompiledPacketForTask, h.findCompiledQueueInfo,
      hqueue, hpacket]
  have hinitial : ∀ resource use range owner hasInitialOwnerStateSeed,
      planFromInitialState resource use t range owner hasInitialOwnerStateSeed
        = planFromInitialState resource use placed range owner hasInitialOwnerStateSeed := by
    intro resource use range owner hasInitialOwnerStateSeed
    simp only [planFromInitialState, planInitialOwnerImport, planInitialTransition, htask, hqueue]
  have hfragment : ∀ use, planTextureFragment graph topology plan t use
      = planTextureFragment graph topology base placed use := by
    intro use
    funext fragment
    simp only [planTextureFragment, hprevious, hinitial, hqueue]
  have htracked : ∀ use range, trackedState t use range = trackedState placed use range := by
    intro use range
    simp only [trackedState, htask, hqueue]
  have huse : ∀ previousUses tracked use,
      planResourceUse graph topology plan t taskQueue previousUses tracked use
        = planResourceUse graph topology base placed taskQueue previousUses tracked use := by
    intro previousUses tracked use
    simp only [planResourceUse, planTextureUse, planWholeResourceUse, hfragment, hprevious,
      hinitial, htracked, hqueue]
  induction uses generalizing previousUses tracked with
  | nil => rfl
  | cons use rest ih => simp only [TaskGraph.planTaskUses, huse, ih]

lemma plannedEntries {position : ℕ} (ht : t.placement = placed.placement)
    {entries : StatePlanEntries}
    (hplanned : PlannedEntries graph topology base position placed entries) :
    PlannedEntries graph topology plan position t entries := by
  have hparts := ht
  simp only [GpuCompiledTask.placement, Prod.mk.injEq] at hparts
  obtain ⟨taskQueue, new, hqueue, huses⟩ := hplanned
  refine ⟨taskQueue, new, ?_, ?_⟩
  · rw [h.findCompiledQueueInfo, hparts.2.1]
    exact hqueue
  · rw [h.planTaskUses ht, h.trackedBefore, declaredUses, hparts.1]
    exact huses

end SamePlacements

/-! ## Epilogues -/

/-- The pending barriers of one task. -/
def pendingOf (pending : List PendingCompiledEpilogueBarrier) (task : GpuTaskId) :
    List GpuCompiledBarrier :=
  (pending.filter (·.task == task)).map (·.barrier)

lemma appendPendingEpilogueBarriers_barriers (pending : List PendingCompiledEpilogueBarrier)
    (tasks : List GpuCompiledTask) (barriers : List GpuCompiledBarrier) :
    (appendPendingEpilogueBarriers pending tasks barriers).2
      = barriers ++ tasks.flatMap fun t => pendingOf pending t.task := by
  induction tasks generalizing barriers with
  | nil => simp [appendPendingEpilogueBarriers]
  | cons t rest ih => simp [appendPendingEpilogueBarriers, ih, pendingOf]

/-- Grouping gives every task the span of its own pending barriers and changes nothing else. -/
lemma appendPendingEpilogueBarriers_at {pending : List PendingCompiledEpilogueBarrier}
    {tasks : List GpuCompiledTask} {barriers : List GpuCompiledBarrier} {k : ℕ}
    {t : GpuCompiledTask} (ht : tasks[k]? = some t) :
    ∃ offset count,
      (appendPendingEpilogueBarriers pending tasks barriers).1[k]?
        = some { t with epilogueBarrierOffset := offset, epilogueBarrierCount := count } ∧
      Spans.part (appendPendingEpilogueBarriers pending tasks barriers).2 offset count
        = pendingOf pending t.task := by
  induction tasks generalizing barriers k with
  | nil => simp at ht
  | cons first rest ih =>
    cases k with
    | zero =>
      simp only [List.getElem?_cons_zero, Option.some.injEq] at ht
      subst ht
      refine ⟨barriers.length, (pendingOf pending first.task).length, rfl, ?_⟩
      rw [appendPendingEpilogueBarriers_barriers, List.flatMap_cons, ← List.append_assoc]
      exact Spans.part_append_middle barriers (pendingOf pending first.task) _
    | succ k =>
      simp only [List.getElem?_cons_succ] at ht
      exact ih ht

lemma appendPendingEpilogueBarriers_length (pending : List PendingCompiledEpilogueBarrier)
    (tasks : List GpuCompiledTask) (barriers : List GpuCompiledBarrier) :
    (appendPendingEpilogueBarriers pending tasks barriers).1.length = tasks.length := by
  induction tasks generalizing barriers with
  | nil => rfl
  | cons t rest ih => simp [appendPendingEpilogueBarriers, ih]

/-! ## The traced plan -/

/-- The task at a position of a plan against its entries. -/
structure TaskTrace (graph : GpuTaskGraph) (topology : GpuTaskGraphQueueTopology)
    (plan : GpuCompiledGraph) (pending : List PendingCompiledEpilogueBarrier)
    (position : ℕ) (t : GpuCompiledTask) (entries : StatePlanEntries) : Prop where
  planned : PlannedEntries graph topology plan position t entries
  barriers : plan.prologueBarriersOf t = entries.prologueBarriers
  seeds : requireStateSeeds plan t = some entries.prologueStateSeeds
  epilogue : plan.epilogueBarriersOf t = pendingOf pending t.task

/-- Every task of the plan shows the entries state planning appended for it. -/
structure StateTrace (graph : GpuTaskGraph) (topology : GpuTaskGraphQueueTopology)
    (plan : GpuCompiledGraph) (entries : List StatePlanEntries)
    (exports : List PendingCompiledEpilogueBarrier) : Prop where
  entries_length : entries.length = plan.tasks.length
  at_task : ∀ (k : ℕ) (t : GpuCompiledTask), plan.tasks[k]? = some t →
    ∃ e, entries[k]? = some e ∧ TaskTrace graph topology plan
      ((StatePlanEntries.concat entries).pendingEpilogueBarriers ++ exports) k t e

variable {topology : GpuTaskGraphQueueTopology} {entries : List StatePlanEntries}

/-- The trace only reads the tasks, the lookups and the vectors the task spans name. -/
lemma StateTrace.congr {plan' : GpuCompiledGraph} {exports : List PendingCompiledEpilogueBarrier}
    (h : StateTrace graph topology plan entries exports) (hplans : SamePlacements plan plan')
    (htasks : plan'.tasks = plan.tasks)
    (hseeds : plan'.prologueStateSeeds = plan.prologueStateSeeds)
    (hbarriers : plan'.prologueBarriers = plan.prologueBarriers)
    (hepilogues : plan'.epilogueBarriers = plan.epilogueBarriers) :
    StateTrace graph topology plan' entries exports where
  entries_length := by rw [htasks, h.entries_length]
  at_task := by
    intro k t ht
    obtain ⟨e, he, trace⟩ := h.at_task k t (htasks ▸ ht)
    refine ⟨e, he, hplans.plannedEntries rfl trace.planned, ?_, ?_, ?_⟩
    · rw [← trace.barriers, GpuCompiledGraph.prologueBarriersOf, hbarriers]
      rfl
    · rw [← trace.seeds, requireStateSeeds, GpuCompiledGraph.taskPrologueStateSeeds, hseeds]
      rfl
    · rw [← trace.epilogue, GpuCompiledGraph.epilogueBarriersOf, hepilogues]
      rfl

/-- The seeds of a task that names its own span. -/
lemma requireStateSeeds_of_span {before own after : List GpuPacketStateSeed}
    (hplan : plan.prologueStateSeeds = before ++ own ++ after)
    (hoffset : t.prologueStateSeedOffset = before.length)
    (hcount : t.prologueStateSeedCount = own.length) : requireStateSeeds plan t = some own := by
  rw [requireStateSeeds, hcount]
  split
  · next hempty => rw [List.eq_nil_of_length_eq_zero hempty]
  · next hsome =>
      have hlength : plan.prologueStateSeeds.length
          = before.length + own.length + after.length := by simp [hplan, Nat.add_assoc]
      have hinside : ¬ plan.prologueStateSeeds.length < before.length := by omega
      have henough : ¬ plan.prologueStateSeeds.length - before.length < own.length := by omega
      simp only [GpuCompiledGraph.taskPrologueStateSeeds, hoffset, hcount, hsome, hinside, henough,
        decide_false, Bool.or_self, Bool.false_eq_true, if_false]
      rw [hplan, Spans.part_append_middle]

theorem stateTrace_withStates {base : GpuCompiledGraph} {states : ResourceStatePlan}
    (h : TraceInv graph topology base base.tasks.length states entries)
    (exports : ExternalExportPlan) :
    SamePlacements base (base.withStates states exports) ∧
      StateTrace graph topology (base.withStates states exports) entries
        exports.pendingEpilogueBarriers := by
  have htasks : states.tasks ++ base.tasks.drop states.tasks.length = states.tasks := by
    rw [h.tasks_length, List.drop_length, List.append_nil]
  have hat : ∀ (k : ℕ) (placed : GpuCompiledTask) (e : StatePlanEntries),
      base.tasks[k]? = some placed → entries[k]? = some e →
      ∃ offset count,
        (base.withStates states exports).tasks[k]? = some
          { placed.withPrologue (StatePlanEntries.concat (entries.take k)) e with
            epilogueBarrierOffset := offset, epilogueBarrierCount := count } ∧
        Spans.part (base.withStates states exports).epilogueBarriers offset count
          = pendingOf ((StatePlanEntries.concat entries).pendingEpilogueBarriers
              ++ exports.pendingEpilogueBarriers) placed.task := by
    intro k placed e hplaced he
    have := @appendPendingEpilogueBarriers_at
      (states.entries.pendingEpilogueBarriers ++ exports.pendingEpilogueBarriers) states.tasks []
      k _ (h.spans k placed e hplaced he)
    simpa [GpuCompiledGraph.withStates, htasks, h.concat] using this
  have hlength : (base.withStates states exports).tasks.length = base.tasks.length := by
    rw [GpuCompiledGraph.withStates, appendPendingEpilogueBarriers_length, htasks, h.tasks_length]
  have hentry : ∀ {k : ℕ}, k < base.tasks.length → ∃ e, entries[k]? = some e := fun hk =>
    ⟨_, List.getElem?_eq_getElem (by rw [h.entries_length]; exact hk)⟩
  have hplacements : SamePlacements base (base.withStates states exports) := by
    refine ⟨List.ext_getElem? fun k => ?_, rfl, rfl, rfl⟩
    rcases Nat.lt_or_ge k base.tasks.length with hk | hk
    · obtain ⟨e, he⟩ := hentry hk
      obtain ⟨offset, count, htask, -⟩ := hat k _ e (List.getElem?_eq_getElem hk) he
      rw [List.getElem?_map, List.getElem?_map, htask, List.getElem?_eq_getElem hk]
      rfl
    · rw [List.getElem?_eq_none (by rw [List.length_map, hlength]; exact hk),
        List.getElem?_eq_none (by rw [List.length_map]; exact hk)]
  refine ⟨hplacements, h.entries_length.trans hlength.symm, ?_⟩
  intro k t ht
  have hk : k < base.tasks.length := hlength ▸ (List.getElem?_eq_some_iff.1 ht).1
  obtain ⟨e, he⟩ := hentry hk
  have hplaced := List.getElem?_eq_getElem hk
  obtain ⟨offset, count, htask, hepilogue⟩ := hat k _ e hplaced he
  have heq := Option.some.inj (ht.symm.trans htask)
  have hplacement : t.placement = base.tasks[k].placement := by
    rw [heq]
    rfl
  have hplanned := hplacements.plannedEntries hplacement (h.planned k _ e hplaced he)
  have hsplit := StatePlanEntries.concat_split he
  subst heq
  refine ⟨e, he, hplanned, ?_, ?_, hepilogue⟩
  · show Spans.part states.entries.prologueBarriers _ _ = _
    rw [h.concat, hsplit]
    exact Spans.part_append_middle _ _ _
  · have hseeds : (base.withStates states exports).prologueStateSeeds
        = (StatePlanEntries.concat (entries.take k)).prologueStateSeeds ++ e.prologueStateSeeds
          ++ (StatePlanEntries.concat (entries.drop (k + 1))).prologueStateSeeds := by
      show states.entries.prologueStateSeeds = _
      rw [h.concat, hsplit]
      rfl
    exact requireStateSeeds_of_span hseeds rfl rfl

end NwbLot.TaskGraph
