import NwbLot.Library.CallbackLedger
import NwbLot.PacketRuntime.CallbackLaws

/-!
# The ledger behind a schedule

Every state of a schedule is explained by a callback ledger: the tasks whose callback is running are
claimed by the one call that moved them, and each call knows which of them it has called.  The
operations of the ledger are the steps of the schedule that move a task.
-/

namespace NwbLot.PacketRuntime

open TaskGraph CallbackLedger

/-- One cell for every task, owned by threads. -/
abbrev LifecycleLedger := Ledger ℕ ℕ CallbackKind

/-! ## The relation -/

/-- The state that a cell's status stands for. -/
def Explains : CellStatus ℕ CallbackKind → GpuTaskLifecycleState → Prop
  | .unclaimed, state => state.idle = true
  | .claimed _ kind _, state => state = kind.transit
  | .settled kind, state => state = kind.done

/-- The callbacks that the tasks of a graph have to run. -/
def GpuTaskGraphLifecycle.emits (graph : GpuTaskGraphLifecycle) (i : ℕ) (kind : CallbackKind) :
    Bool :=
  (graph.tasks[i]?).any (·.owesCallback kind)

/-- The pending call has moved task `i` and not settled it; `called` tells whether the loop is past
it. -/
def Holds (graph : GpuTaskGraphLifecycle) (pending : Option PendingCall) (i : ℕ)
    (kind : CallbackKind) (called : Bool) : Prop :=
  match pending with
  | some (.calling call next moved) => kind = call.operation.kind ∧ ∃ j id,
      call.operation.tasks[j]? = some id ∧ id ∈ moved ∧ id.index = i ∧ called = decide (j < next)
  | some (.reset (.discarding next)) => kind = .discard ∧ called = decide (i < next) ∧
      ∃ task, graph.tasks[i]? = some task ∧ task.lifecycleState = .discarding
  | _ => False

/-- A call between its two sections. -/
structure Window (graph : GpuTaskGraphLifecycle) (op : CallbackOperation)
    (moved : List GpuTaskId) : Prop where
  lawful : op.Lawful
  distinct : op.tasks.Nodup
  moved_subset : ∀ id ∈ moved, id ∈ op.tasks
  all_moved : op.rereads = false → ∀ id ∈ op.tasks, id ∈ moved
  /-- While the call holds a task, its last section will succeed. -/
  live : moved ≠ [] → op.closeAllowed graph = true ∧ graph.admitted op.tasks op.closes = true
  /-- What the call did not move was done, and stays done within the attempt. -/
  unmoved : op.attempt = graph.activeRecordingAttemptGeneration → ∀ id ∈ op.tasks, id ∉ moved →
    graph.validTask id = true ∧
      ∃ task, graph.tasks[id.index]? = some task ∧ task.lifecycleState = op.kind.done

/-- The reset owns the teardown flag. -/
def ResetPoint.tearing : ResetPoint → Bool
  | .entering => false
  | _ => true

/-- The task states that a reset can meet from here on. -/
def ResetPoint.allows : ResetPoint → GpuTaskLifecycleState → Bool
  | .discarding _, state => state.finished || state == .discarding
  | .destroying, state | .clearing, state => state.finished
  | _, _ => true

/-- The ledger explains the system. -/
structure Tracks (s : LifecycleSystem) (ledger : LifecycleLedger) : Prop where
  records : Records s.graph.emits ledger s.attemptCallbacks
  absent : ∀ i : ℕ, s.graph.tasks[i]? = none → ledger i = .unclaimed
  explains : ∀ (i : ℕ) task, s.graph.tasks[i]? = some task → Explains (ledger i) task.lifecycleState
  holders : ∀ thread i kind called,
    ledger i = .claimed thread kind called ↔ Holds s.graph (s.calls thread) i kind called
  windows : ∀ thread call next moved, s.calls thread = some (.calling call next moved) →
    Window s.graph call.operation moved
  distinct : ∀ thread call, s.calls thread = some (.opening call) → call.operation.tasks.Nodup
  tearing : ∀ thread point, s.calls thread = some (.reset point) → point.tearing = true →
    s.graph.teardownInProgress = true ∧
      ∀ (i : ℕ) task, s.graph.tasks[i]? = some task → point.allows task.lifecycleState = true
  oneTeardown : ∀ thread thread' point point', s.calls thread = some (.reset point) →
    s.calls thread' = some (.reset point') → point.tearing = true → point'.tearing = true →
    thread = thread'
  destroyed : ∀ (i : ℕ) task, s.graph.tasks[i]? = some task → task.payload = .destroyed →
    ∃ thread, s.calls thread = some (.reset .clearing)
  earlier : ∀ log ∈ s.earlierCallbacks, ∀ i, (log.filter (fun entry => entry.1 = i)).length ≤ 1

/-! ## Reading the relation -/

lemma idle_transit (kind : CallbackKind) : kind.transit.idle = false := by
  cases kind <;> rfl

lemma idle_done (kind : CallbackKind) : kind.done.idle = false := by
  cases kind <;> rfl

lemma finished_transit (kind : CallbackKind) : kind.transit.finished = false := by
  cases kind <;> rfl

lemma transit_ne_done (kind kind' : CallbackKind) : kind.transit ≠ kind'.done := by
  cases kind <;> cases kind' <;> decide

lemma done_injective {kind kind' : CallbackKind} (h : kind.done = kind'.done) : kind = kind' := by
  cases kind <;> cases kind' <;> first | rfl | cases h

lemma idle_not_finished {state : GpuTaskLifecycleState} (h : state.idle = true) :
    state.finished = false := by
  cases state <;> first | rfl | cases h

/-- Where a reset tolerates an idle task it tolerates every task. -/
lemma ResetPoint.allows_of_idle {point : ResetPoint} {state : GpuTaskLifecycleState}
    (hidle : state.idle = true) (h : point.allows state = true) (state' : GpuTaskLifecycleState) :
    point.allows state' = true := by
  have hfinished := idle_not_finished hidle
  have hne : state ≠ .discarding := by
    intro heq
    rw [heq] at hidle
    cases hidle
  cases point with
  | entering | tearingDown | refusing => rfl
  | discarding next => simp [ResetPoint.allows, hfinished, hne] at h
  | destroying | clearing => simp [ResetPoint.allows, hfinished] at h

section Explains

variable {status : CellStatus ℕ CallbackKind} {state : GpuTaskLifecycleState}

lemma Explains.unclaimed_of_idle (h : Explains status state) (hidle : state.idle = true) :
    status = .unclaimed := by
  cases status with
  | unclaimed => rfl
  | claimed owner kind called =>
    have hstate : state = kind.transit := h
    rw [hstate, idle_transit] at hidle
    cases hidle
  | settled kind =>
    have hstate : state = kind.done := h
    rw [hstate, idle_done] at hidle
    cases hidle

lemma Explains.settled_of_done {kind : CallbackKind} (h : Explains status kind.done) :
    status = .settled kind := by
  cases status with
  | unclaimed =>
    have hidle : kind.done.idle = true := h
    rw [idle_done] at hidle
    cases hidle
  | claimed owner kind' called => exact absurd (Eq.symm h) (transit_ne_done kind' kind)
  | settled kind' => rw [done_injective h]

end Explains

namespace Tracks

variable {s : LifecycleSystem} {ledger : LifecycleLedger}

variable {i : ℕ}

/-- A cell that is not unclaimed has a task. -/
lemma exists_task (h : Tracks s ledger) (hi : ledger i ≠ .unclaimed) :
    ∃ task, s.graph.tasks[i]? = some task := by
  cases htask : s.graph.tasks[i]? with
  | none => exact absurd (h.absent i htask) hi
  | some task => exact ⟨task, rfl⟩

variable {thread : ℕ}

/-- A claimed task is in transit. -/
lemma transit_of_claimed (h : Tracks s ledger) {kind : CallbackKind} {called : Bool}
    (hi : ledger i = .claimed thread kind called) :
    ∃ task, s.graph.tasks[i]? = some task ∧ task.lifecycleState = kind.transit := by
  obtain ⟨task, htask⟩ := h.exists_task (i := i) (by simp [hi])
  have hexplains := h.explains i task htask
  rw [hi] at hexplains
  exact ⟨task, htask, hexplains⟩

/-- Nothing is claimed while no task is in transit. -/
lemma not_claimed (h : Tracks s ledger)
    (hquiet : ∀ (i : ℕ) task kind, s.graph.tasks[i]? = some task → task.lifecycleState ≠
      CallbackKind.transit kind) (i thread : ℕ) (kind : CallbackKind) (called : Bool) :
    ledger i ≠ .claimed thread kind called := by
  intro hi
  obtain ⟨task, htask, hstate⟩ := h.transit_of_claimed hi
  exact hquiet i task kind htask hstate

/-- A call that holds nothing has moved nothing. -/
lemma moved_eq_nil (h : Tracks s ledger) {call : CallbackCall} {next : ℕ} {moved : List GpuTaskId}
    (hcall : s.calls thread = some (.calling call next moved))
    (hnone : ∀ i kind called, ledger i ≠ .claimed thread kind called) : moved = [] := by
  by_contra hmoved
  obtain ⟨id, hid⟩ := List.exists_mem_of_ne_nil moved hmoved
  obtain ⟨j, hj⟩ := List.mem_iff_getElem?.1 ((h.windows thread call next moved hcall).moved_subset
    id hid)
  refine hnone id.index call.operation.kind (decide (j < next)) ?_
  rw [h.holders, hcall]
  exact ⟨rfl, j, id, hj, hid, rfl, rfl⟩

/-- A task in transit still has its payload. -/
lemma runsCallback_eq_emits (h : Tracks s ledger) {kind : CallbackKind} {called : Bool}
    (hi : ledger i = .claimed thread kind called) :
    (s.graph.tasks[i]?).any (·.runsCallback kind) = s.graph.emits i kind := by
  obtain ⟨task, htask, hstate⟩ := h.transit_of_claimed hi
  have hpayload : task.payload ≠ .destroyed := by
    intro hdestroyed
    obtain ⟨clearing, hclearing⟩ := h.destroyed i task htask hdestroyed
    have hallows := (h.tearing clearing .clearing hclearing rfl).2 i task htask
    rw [hstate, ResetPoint.allows, finished_transit] at hallows
    cases hallows
  unfold GpuTaskGraphLifecycle.emits
  rw [htask]
  simp only [Option.any_some, GpuTaskLifecycleNode.runsCallback, GpuTaskLifecycleNode.owesCallback]
  cases hslot : task.payload with
  | null => rfl
  | live => rfl
  | destroyed => exact absurd hslot hpayload

/-- The callback of a claimed task goes to the log where the task has one. -/
lemma runCallback_eq (h : Tracks s ledger) {kind : CallbackKind} {called : Bool}
    (hi : ledger i = .claimed thread kind called) :
    s.runCallback i kind = { s with
      attemptCallbacks := if s.graph.emits i kind then (i, kind) :: s.attemptCallbacks
        else s.attemptCallbacks } := by
  unfold LifecycleSystem.runCallback
  rw [h.runsCallback_eq_emits hi]
  split <;> rfl

end Tracks

/-! ## Quiet changes -/

/-- A change of the graph that moves no task into, through or out of a callback window. -/
structure Quiet (graph graph' : GpuTaskGraphLifecycle) : Prop where
  generation : graph'.generation = graph.generation
  plan : graph'.activeRecordingPlanGeneration = graph.activeRecordingPlanGeneration
  attempt : graph'.activeRecordingAttemptGeneration = graph.activeRecordingAttemptGeneration
  teardown : graph'.teardownInProgress = graph.teardownInProgress
  kept : ∀ (i : ℕ) task, graph.tasks[i]? = some task → ∃ task', graph'.tasks[i]? = some task' ∧
    SameThunks task task' ∧
      (task' = task ∨ (task.lifecycleState.idle = true ∧ task'.lifecycleState.idle = true))
  added : ∀ (i : ℕ) task', graph.tasks[i]? = none → graph'.tasks[i]? = some task' →
    task'.lifecycleState.idle = true ∧ task'.payload ≠ .destroyed ∧
      graph.teardownInProgress = false

namespace Quiet

variable {graph graph' : GpuTaskGraphLifecycle}

lemma refl (graph : GpuTaskGraphLifecycle) : Quiet graph graph where
  generation := rfl
  plan := rfl
  attempt := rfl
  teardown := rfl
  kept := fun _ task htask => ⟨task, htask, ⟨rfl, rfl, rfl⟩, Or.inl rfl⟩
  added := fun _ _ hnone hsome => by
    rw [hnone] at hsome
    cases hsome

/-- Changing other fields only is quiet. -/
lemma of_tasks_eq (htasks : graph'.tasks = graph.tasks)
    (hgeneration : graph'.generation = graph.generation)
    (hplan : graph'.activeRecordingPlanGeneration = graph.activeRecordingPlanGeneration)
    (hattempt : graph'.activeRecordingAttemptGeneration = graph.activeRecordingAttemptGeneration)
    (hteardown : graph'.teardownInProgress = graph.teardownInProgress) : Quiet graph graph' where
  generation := hgeneration
  plan := hplan
  attempt := hattempt
  teardown := hteardown
  kept := fun _ task htask => ⟨task, by rw [htasks, htask], ⟨rfl, rfl, rfl⟩, Or.inl rfl⟩
  added := fun _ _ hnone hsome => by
    rw [htasks, hnone] at hsome
    cases hsome

variable {tasks : List GpuTaskId} {admits : GpuTaskLifecycleNode → Bool}

/-- A section that moves tasks from idle states to idle states is quiet. -/
lemma updateTasks {update : GpuTaskLifecycleNode → GpuTaskLifecycleNode}
    (hadmitted : graph.admitted tasks admits = true)
    (hadmits : ∀ task, admits task = true → task.lifecycleState.idle = true)
    (hupdate : ∀ task : GpuTaskLifecycleNode, admits task = true →
      (update task).lifecycleState.idle = true) (hthunks : ∀ task, SameThunks task (update task)) :
    Quiet graph (graph.updateTasks tasks update) where
  generation := rfl
  plan := rfl
  attempt := rfl
  teardown := rfl
  kept := by
    intro i task htask
    by_cases hi : ∃ id ∈ tasks, id.index = i
    · obtain ⟨id, hid, rfl⟩ := hi
      obtain ⟨-, task', htask', hok⟩ := GpuTaskGraphLifecycle.admitted_iff.1 hadmitted id hid
      obtain rfl : task' = task := Option.some.inj (htask'.symm.trans htask)
      refine ⟨update task', ?_, hthunks task', Or.inr ⟨hadmits task' hok, hupdate task' hok⟩⟩
      rw [GpuTaskGraphLifecycle.getElem?_updateTasks_of_mem hid, htask]
      rfl
    · refine ⟨task, ?_, ⟨rfl, rfl, rfl⟩, Or.inl rfl⟩
      rw [GpuTaskGraphLifecycle.getElem?_updateTasks_of_forall_ne
        fun id hid heq => hi ⟨id, hid, heq⟩, htask]
  added := by
    intro i task' hnone hsome
    rw [GpuTaskGraphLifecycle.getElem?_updateTasks, hnone] at hsome
    cases hsome

lemma packetSection_getD {allowed : Bool} {update : GpuTaskLifecycleNode → GpuTaskLifecycleNode}
    (hadmits : ∀ task, admits task = true → task.lifecycleState.idle = true)
    (hupdate : ∀ task : GpuTaskLifecycleNode, admits task = true →
      (update task).lifecycleState.idle = true) (hthunks : ∀ task, SameThunks task (update task)) :
    Quiet graph ((graph.packetSection allowed tasks admits update).getD graph) := by
  cases hsection : graph.packetSection allowed tasks admits update with
  | none => exact Quiet.refl graph
  | some graph' =>
    obtain ⟨-, hadmitted, rfl⟩ := GpuTaskGraphLifecycle.packetSection_eq_some.1 hsection
    exact Quiet.updateTasks hadmitted hadmits hupdate hthunks

lemma claimSection {planGeneration attempt : ℕ}
    {update : ℕ → GpuTaskLifecycleNode → GpuTaskLifecycleNode}
    (hadmits : ∀ task, admits task = true → task.lifecycleState.idle = true)
    (hupdate : ∀ claim, ∀ task : GpuTaskLifecycleNode, admits task = true →
      (update claim task).lifecycleState.idle = true)
    (hthunks : ∀ claim task, SameThunks task (update claim task)) :
    Quiet graph (graph.claimSection planGeneration attempt tasks admits update).1 := by
  unfold GpuTaskGraphLifecycle.claimSection
  by_cases hallowed : (graph.inAttempt planGeneration attempt && graph.admitted tasks admits) = true
  · rw [if_pos hallowed]
    simp only [Bool.and_eq_true] at hallowed
    split
    next claim next _ =>
    split
    · exact Quiet.of_tasks_eq rfl rfl rfl rfl rfl
    · have hadmitted : ({ graph with nextGeneration := next } :
          GpuTaskGraphLifecycle).admitted tasks admits = true := hallowed.2
      have hquiet : Quiet { graph with nextGeneration := next }
          (({ graph with nextGeneration := next } : GpuTaskGraphLifecycle).updateTasks tasks
            (update claim)) :=
        Quiet.updateTasks hadmitted hadmits (hupdate claim) (hthunks claim)
      exact ⟨hquiet.generation, hquiet.plan, hquiet.attempt, hquiet.teardown, hquiet.kept,
        hquiet.added⟩
  · rw [if_neg hallowed]
    exact Quiet.refl graph

lemma validTask (h : Quiet graph graph') {id : GpuTaskId} (hid : graph.validTask id = true) :
    graph'.validTask id = true := by
  simp only [GpuTaskGraphLifecycle.validTask, Bool.and_eq_true, beq_iff_eq,
    decide_eq_true_eq] at hid ⊢
  obtain ⟨task', htask', -⟩ := h.kept id.index _ (List.getElem?_eq_getElem hid.2)
  exact ⟨⟨hid.1.1, by rw [hid.1.2, h.generation]⟩, (List.getElem?_eq_some_iff.1 htask').1⟩

/-- A task outside the idle states is untouched. -/
lemma getElem?_of_not_idle (h : Quiet graph graph') {i : ℕ} {task : GpuTaskLifecycleNode}
    (htask : graph.tasks[i]? = some task) (hidle : task.lifecycleState.idle = false) :
    graph'.tasks[i]? = some task := by
  obtain ⟨task', htask', -, rfl | hboth⟩ := h.kept i task htask
  · exact htask'
  · rw [hidle] at hboth
    cases hboth.1

lemma getElem?_of_not_idle' (h : Quiet graph graph') {i : ℕ} {task : GpuTaskLifecycleNode}
    (htask : graph'.tasks[i]? = some task) (hidle : task.lifecycleState.idle = false) :
    graph.tasks[i]? = some task := by
  cases hbefore : graph.tasks[i]? with
  | none =>
    rw [(h.added i task hbefore htask).1] at hidle
    cases hidle
  | some old =>
    obtain ⟨task', htask', -, hsame | hboth⟩ := h.kept i old hbefore
    · rw [← hsame, ← htask', htask]
    · obtain rfl : task' = task := Option.some.inj (htask'.symm.trans htask)
      rw [hboth.2] at hidle
      cases hidle

end Quiet

namespace Window

variable {graph graph' : GpuTaskGraphLifecycle} {op : CallbackOperation} {moved : List GpuTaskId}

lemma mem_not_idle (h : Window graph op moved) {task : GpuTaskLifecycleNode}
    (hcloses : op.closes task = true) : task.lifecycleState.idle = false := by
  rcases h.lawful.closes_state task hcloses with htransit | ⟨-, hdone⟩
  · rw [htransit, idle_transit]
  · rw [hdone, idle_done]

/-- A window survives a change that keeps the guards and the tasks outside the idle states. -/
lemma frame (h : Window graph op moved)
    (hplan : graph'.activeRecordingPlanGeneration = graph.activeRecordingPlanGeneration)
    (hattempt : graph'.activeRecordingAttemptGeneration = graph.activeRecordingAttemptGeneration)
    (hteardown : graph'.teardownInProgress = graph.teardownInProgress)
    (hvalid : ∀ id, graph.validTask id = true → graph'.validTask id = true)
    (htasks : ∀ id ∈ op.tasks, ∀ task, graph.tasks[id.index]? = some task →
      (op.closes task = true ∧ moved ≠ [] ∨ id ∉ moved ∧ task.lifecycleState = op.kind.done) →
        graph'.tasks[id.index]? = some task) :
    Window graph' op moved where
  lawful := h.lawful
  distinct := h.distinct
  moved_subset := h.moved_subset
  all_moved := h.all_moved
  live := by
    intro hmoved
    obtain ⟨hallowed, hadmitted⟩ := h.live hmoved
    refine ⟨by rw [h.lawful.close_congr graph graph' hteardown hplan hattempt, hallowed], ?_⟩
    rw [GpuTaskGraphLifecycle.admitted_iff] at hadmitted ⊢
    intro id hid
    obtain ⟨hok, task, htask, hcloses⟩ := hadmitted id hid
    exact ⟨hvalid id hok, task, htasks id hid task htask (Or.inl ⟨hcloses, hmoved⟩), hcloses⟩
  unmoved := by
    intro heq id hid hnot
    rw [hattempt] at heq
    obtain ⟨hok, task, htask, hdone⟩ := h.unmoved heq id hid hnot
    exact ⟨hvalid id hok, task, htasks id hid task htask (Or.inr ⟨hnot, hdone⟩), hdone⟩

end Window

/-! ## Steps of the relation -/

namespace Tracks

variable {s : LifecycleSystem} {ledger : LifecycleLedger}

/-- A quiet change of the graph needs no change of the ledger. -/
theorem withGraph (h : Tracks s ledger) {graph' : GpuTaskGraphLifecycle}
    (hquiet : Quiet s.graph graph') : Tracks (s.withGraph graph') ledger where
  records := by
    refine h.records.congr_emits fun i kind hreceived => ?_
    obtain ⟨task, htask⟩ := h.exists_task (i := i) (by
      intro heq
      rw [heq] at hreceived
      cases hreceived)
    obtain ⟨task', htask', hthunks, -⟩ := hquiet.kept i task htask
    simp only [GpuTaskGraphLifecycle.emits, LifecycleSystem.withGraph]
    rw [htask, htask']
    exact hthunks.owesCallback kind
  absent := by
    intro i hnone
    refine h.absent i ?_
    cases htask : s.graph.tasks[i]? with
    | none => rfl
    | some task =>
      obtain ⟨task', htask', -⟩ := hquiet.kept i task htask
      exact absurd (hnone.symm.trans htask') (by simp)
  explains := by
    intro i task' htask'
    cases htask : s.graph.tasks[i]? with
    | none =>
      rw [h.absent i htask]
      exact (hquiet.added i task' htask htask').1
    | some task =>
      obtain ⟨task'', htask'', -, hsame⟩ := hquiet.kept i task htask
      obtain rfl : task'' = task' := Option.some.inj (htask''.symm.trans htask')
      have hexplains := h.explains i task htask
      rcases hsame with rfl | ⟨hidle, hidle'⟩
      · exact hexplains
      · rw [hexplains.unclaimed_of_idle hidle]
        exact hidle'
  holders := by
    intro thread i kind called
    rw [h.holders]
    unfold Holds
    simp only [LifecycleSystem.withGraph]
    split
    · exact Iff.rfl
    · refine and_congr Iff.rfl (and_congr Iff.rfl ⟨?_, ?_⟩)
      · rintro ⟨task, htask, hstate⟩
        exact ⟨task, hquiet.getElem?_of_not_idle htask (by rw [hstate]; rfl), hstate⟩
      · rintro ⟨task, htask, hstate⟩
        exact ⟨task, hquiet.getElem?_of_not_idle' htask (by rw [hstate]; rfl), hstate⟩
    · exact Iff.rfl
  windows := by
    intro thread call next moved hcall
    have hwindow := h.windows thread call next moved hcall
    refine hwindow.frame hquiet.plan hquiet.attempt hquiet.teardown (fun id => hquiet.validTask) ?_
    rintro id - task htask (⟨hcloses, -⟩ | ⟨-, hdone⟩)
    · exact hquiet.getElem?_of_not_idle htask (hwindow.mem_not_idle hcloses)
    · exact hquiet.getElem?_of_not_idle htask (by rw [hdone, idle_done])
  distinct := h.distinct
  tearing := by
    intro thread point hpoint htearing
    obtain ⟨hteardown, hallows⟩ := h.tearing thread point hpoint htearing
    refine ⟨by rw [← hteardown]; exact hquiet.teardown, fun i task' htask' => ?_⟩
    cases htask : s.graph.tasks[i]? with
    | none =>
      rw [(hquiet.added i task' htask htask').2.2] at hteardown
      cases hteardown
    | some task =>
      obtain ⟨task'', htask'', -, hsame⟩ := hquiet.kept i task htask
      obtain rfl : task'' = task' := Option.some.inj (htask''.symm.trans htask')
      have hold := hallows i task htask
      rcases hsame with rfl | ⟨hidle, hidle'⟩
      · exact hold
      · exact ResetPoint.allows_of_idle hidle hold _
  oneTeardown := h.oneTeardown
  destroyed := by
    intro i task' htask' hpayload
    cases htask : s.graph.tasks[i]? with
    | none => exact absurd hpayload (hquiet.added i task' htask htask').2.1
    | some task =>
      obtain ⟨task'', htask'', hthunks, -⟩ := hquiet.kept i task htask
      obtain rfl : task'' = task' := Option.some.inj (htask''.symm.trans htask')
      exact h.destroyed i task htask (by rw [← hthunks.1]; exact hpayload)
  earlier := h.earlier

/-- A call that stands where it holds nothing, opens nothing and tears nothing down. -/
def Plain : Option PendingCall → Prop
  | some (.calling _ _ _) => False
  | some (.reset point) => point.tearing = false
  | some (.opening call) => call.operation.tasks.Nodup
  | _ => True

lemma Plain.not_holds {pending : Option PendingCall} (h : Plain pending)
    {graph : GpuTaskGraphLifecycle} {i : ℕ} {kind : CallbackKind} {called : Bool} :
    ¬ Holds graph pending i kind called := by
  intro hholds
  unfold Holds at hholds
  split at hholds
  · exact h
  · cases h
  · exact hholds

end Tracks

end NwbLot.PacketRuntime
