import Mathlib.Data.List.Nodup
import NwbLot.PacketRuntime.LifecycleSteps

/-!
# Callback windows

The first section of an operation claims the tasks it moves, each turn of its loop calls one of
them, and its last section settles them.

Each of the three is an `Act` of its thread; between them the window holds what the last section
relies on.
-/

namespace NwbLot.PacketRuntime

open TaskGraph CallbackLedger

variable {s : LifecycleSystem} {ledger : LifecycleLedger} {thread : ℕ}

/-! ## Positions in the task array -/

/-- A held task is named by one position of the array only. -/
lemma position_unique {graph : GpuTaskGraphLifecycle} {tasks : List GpuTaskId}
    (hnodup : tasks.Nodup) (hvalid : ∀ id ∈ tasks, graph.validTask id = true) {i j : ℕ}
    {a b : GpuTaskId} (ha : tasks[i]? = some a) (hb : tasks[j]? = some b)
    (hindex : a.index = b.index) : i = j := by
  have hab : a = b := GpuTaskGraphLifecycle.validTask_index_inj
    (hvalid a (List.mem_of_getElem? ha)) (hvalid b (List.mem_of_getElem? hb)) hindex
  obtain ⟨hi, hgeti⟩ := List.getElem?_eq_some_iff.1 ha
  obtain ⟨hj, hgetj⟩ := List.getElem?_eq_some_iff.1 hb
  exact (List.Nodup.getElem_inj_iff hnodup).1 (by rw [hgeti, hgetj, hab])

lemma mem_movedTasks {op : CallbackOperation} {id : GpuTaskId} :
    id ∈ s.movedTasks op ↔ id ∈ op.tasks ∧
      ∀ task, s.graph.tasks[id.index]? = some task → task.lifecycleState ≠ op.kind.done := by
  unfold LifecycleSystem.movedTasks
  cases htask : s.graph.tasks[id.index]? with
  | none => simp [htask]
  | some task => simp [htask]

/-! ## The first section -/

section Opening

variable {call : CallbackCall}

/-- A task that the section admits is idle, or the section leaves it as it is. -/
lemma opens_cases (call : CallbackCall) {task : GpuTaskLifecycleNode}
    (hopens : call.operation.opens s.graph task = true) :
    (task.lifecycleState.idle = true ∧ task.lifecycleState ≠ call.operation.kind.done) ∨
      (call.operation.rereads = true ∧ task.lifecycleState = call.operation.kind.done ∧
        call.operation.opening task = task) := by
  rcases call.lawful.opens_state _ task hopens with hidle | ⟨hrereads, hdone⟩
  · refine Or.inl ⟨hidle, fun hdone => ?_⟩
    rw [hdone, idle_done] at hidle
    cases hidle
  · exact Or.inr ⟨hrereads, hdone, call.lawful.opening_done hrereads task hdone⟩

variable (h : Tracks s ledger) (hcall : s.calls thread = some (.opening call))

include h hcall

lemma openWindow (hallowed : call.operation.openAllowed s.graph = true)
    (hadmitted : s.graph.admitted call.operation.tasks (call.operation.opens s.graph) = true) :
    Window (s.graph.updateTasks call.operation.tasks call.operation.opening) call.operation
      (s.movedTasks call.operation) where
  lawful := call.lawful
  distinct := h.distinct thread call hcall
  moved_subset := fun id hid => (mem_movedTasks.1 hid).1
  all_moved := by
    intro hrereads id hid
    refine mem_movedTasks.2 ⟨hid, fun task htask => ?_⟩
    obtain ⟨-, task', htask', hopens⟩ := GpuTaskGraphLifecycle.admitted_iff.1 hadmitted id hid
    obtain rfl : task' = task := Option.some.inj (htask'.symm.trans htask)
    rcases opens_cases call hopens with ⟨-, hne⟩ | ⟨hrereads', -⟩
    · exact hne
    · rw [hrereads] at hrereads'
      cases hrereads'
  live := by
    intro _
    refine ⟨?_, GpuTaskGraphLifecycle.admitted_iff.2 fun id hid => ?_⟩
    · have hsame := call.lawful.close_congr s.graph
        (s.graph.updateTasks call.operation.tasks call.operation.opening) rfl rfl rfl
      rw [hsame]
      exact call.lawful.open_close _ hallowed
    · obtain ⟨hok, task, htask, hopens⟩ := GpuTaskGraphLifecycle.admitted_iff.1 hadmitted id hid
      refine ⟨by simpa using hok, call.operation.opening task, ?_,
        call.lawful.opening_closes _ task hopens⟩
      rw [GpuTaskGraphLifecycle.getElem?_updateTasks_of_mem hid, htask]
      rfl
  unmoved := by
    intro _ id hid hnot
    obtain ⟨hok, task, htask, hopens⟩ := GpuTaskGraphLifecycle.admitted_iff.1 hadmitted id hid
    have hdone : task.lifecycleState = call.operation.kind.done := by
      by_contra hne
      refine hnot (mem_movedTasks.2 ⟨hid, fun task' htask' => ?_⟩)
      obtain rfl : task = task' := Option.some.inj (htask.symm.trans htask')
      exact hne
    refine ⟨by simpa using hok, task, ?_, hdone⟩
    rw [GpuTaskGraphLifecycle.getElem?_updateTasks_of_mem hid, htask]
    rcases opens_cases call hopens with ⟨-, hne⟩ | ⟨-, -, hsame⟩
    · exact absurd hdone hne
    · simp [hsame]

/-- The first section claims the tasks it moves. -/
theorem Tracks.openSection {graph' : GpuTaskGraphLifecycle}
    (hopen : call.operation.openSection s.graph = some graph') :
    ∃ ledger', Tracks ((s.withGraph graph').resume thread
      (some (.calling call 0 (s.movedTasks call.operation)))) ledger' := by
  obtain ⟨hallowed, hadmitted, rfl⟩ := GpuTaskGraphLifecycle.packetSection_eq_some.1 hopen
  have hwindow := openWindow h hcall hallowed hadmitted
  have hplain : Tracks.Plain (s.calls thread) := by
    rw [hcall]
    exact h.distinct thread call hcall
  have hmoved : ∀ id ∈ s.movedTasks call.operation, ∃ task,
      s.graph.tasks[id.index]? = some task ∧ task.lifecycleState.idle = true := by
    intro id hid
    obtain ⟨hmem, hne⟩ := mem_movedTasks.1 hid
    obtain ⟨-, task, htask, hopens⟩ := GpuTaskGraphLifecycle.admitted_iff.1 hadmitted id hmem
    rcases opens_cases call hopens with ⟨hidle, -⟩ | ⟨-, hdone, -⟩
    · exact ⟨task, htask, hidle⟩
    · exact absurd hdone (hne task htask)
  have hunclaimed : ∀ i ∈ (s.movedTasks call.operation).map (·.index), ledger i = .unclaimed := by
    intro i hi
    obtain ⟨id, hid, rfl⟩ := List.mem_map.1 hi
    obtain ⟨task, htask, hidle⟩ := hmoved id hid
    exact (h.explains _ task htask).unclaimed_of_idle hidle
  suffices act : Act s ledger thread
      (s.graph.updateTasks call.operation.tasks call.operation.opening)
      (some (.calling call 0 (s.movedTasks call.operation)))
      (claim thread call.operation.kind ((s.movedTasks call.operation).map (·.index)) ledger)
      s.attemptCallbacks from ⟨_, act.tracks h⟩
  refine ⟨rfl, rfl, rfl, rfl, ?_, h.records.claim hunclaimed, ?_, ?_, by simp, by simp, by simp,
    by simp [hcall]⟩
  · intro i
    by_cases hi : i ∈ (s.movedTasks call.operation).map (·.index)
    · right
      obtain ⟨id, hid, rfl⟩ := List.mem_map.1 hi
      obtain ⟨task, htask, hidle⟩ := hmoved id hid
      refine ⟨task, call.operation.opening task, htask, ?_, call.lawful.opening_thunks task,
        Or.inl (hunclaimed _ hi), ?_, ?_⟩
      · rw [GpuTaskGraphLifecycle.getElem?_updateTasks_of_mem (mem_movedTasks.1 hid).1, htask]
        rfl
      · simp only [claim, if_pos hi]
        exact call.lawful.opening_idle task hidle
      · intro thread' hne kind called heq
        simp only [claim, if_pos hi] at heq
        injection heq with hsame
        exact hne hsame.symm
    · refine Or.inl ⟨by simp only [claim, if_neg hi], ?_⟩
      by_cases hnamed : ∃ id ∈ call.operation.tasks, id.index = i
      · obtain ⟨id, hid, rfl⟩ := hnamed
        obtain ⟨-, task, htask, hopens⟩ := GpuTaskGraphLifecycle.admitted_iff.1 hadmitted id hid
        have hnot : id ∉ s.movedTasks call.operation := fun hmem =>
          hi (List.mem_map.2 ⟨id, hmem, rfl⟩)
        rw [GpuTaskGraphLifecycle.getElem?_updateTasks_of_mem hid, htask]
        rcases opens_cases call hopens with ⟨-, hne⟩ | ⟨-, -, hsame⟩
        · refine absurd (mem_movedTasks.2 ⟨hid, fun task' htask' => ?_⟩) hnot
          obtain rfl : task = task' := Option.some.inj (htask.symm.trans htask')
          exact hne
        · simp [hsame]
      · exact GpuTaskGraphLifecycle.getElem?_updateTasks_of_forall_ne
          fun id hid heq => hnamed ⟨id, hid, heq⟩
  · intro i kind called
    constructor
    · intro hclaimed
      by_cases hi : i ∈ (s.movedTasks call.operation).map (·.index)
      · simp only [claim, if_pos hi] at hclaimed
        injection hclaimed with _ hkind hcalled
        obtain ⟨id, hid, rfl⟩ := List.mem_map.1 hi
        obtain ⟨j, hj⟩ := List.mem_iff_getElem?.1 (mem_movedTasks.1 hid).1
        exact ⟨hkind.symm, j, id, hj, hid, rfl, by simp [← hcalled]⟩
      · simp only [claim, if_neg hi] at hclaimed
        exact absurd ((h.holders thread i kind called).1 hclaimed) hplain.not_holds
    · rintro ⟨rfl, j, id, -, hid, rfl, rfl⟩
      have hi : id.index ∈ (s.movedTasks call.operation).map (·.index) :=
        List.mem_map.2 ⟨id, hid, rfl⟩
      simp only [claim, if_pos hi, Nat.not_lt_zero, decide_false]
  · rintro call' next moved heq
    injection heq with heq
    injection heq with hcall' _ hmoved'
    subst hcall' hmoved'
    exact hwindow

end Opening

/-! ## The callback loop -/

section Calling

variable {call : CallbackCall} {next : ℕ} {moved : List GpuTaskId} {id : GpuTaskId}

/-- A loop turn that reaches a task its own call did not move finds it out of the window. -/
def FindsNoForeignTask (graph : GpuTaskGraphLifecycle) (op : CallbackOperation)
    (moved : List GpuTaskId) (id : GpuTaskId) : Prop :=
  op.rereads = true → id ∉ moved →
    ∃ task, graph.tasks[id.index]? = some task ∧ task.lifecycleState ≠ op.kind.transit

variable (h : Tracks s ledger) (hcall : s.calls thread = some (.calling call next moved))
  (hid : call.operation.tasks[next]? = some id)

include h hcall hid

/-- A loop turn over a task that the call did not move does nothing. -/
lemma Tracks.runLoopCallback_eq_self (hmem : id ∉ moved)
    (hforeign : FindsNoForeignTask s.graph call.operation moved id) :
    s.runLoopCallback call.operation id = s := by
  have hrereads : call.operation.rereads = true := by
    by_contra hnot
    exact hmem ((h.windows thread call next moved hcall).all_moved (by simpa using hnot) id
      (List.mem_of_getElem? hid))
  obtain ⟨task, htask, hne⟩ := hforeign hrereads hmem
  simp [LifecycleSystem.runLoopCallback, hrereads, htask, hne]

/-- A loop turn over a task that the call moved logs its callback. -/
lemma Tracks.runLoopCallback_eq (hmem : id ∈ moved) :
    ledger id.index = .claimed thread call.operation.kind false ∧
      s.runLoopCallback call.operation id = { s with
        attemptCallbacks := if s.graph.emits id.index call.operation.kind then
            (id.index, call.operation.kind) :: s.attemptCallbacks
          else s.attemptCallbacks } := by
  have hheld : ledger id.index = .claimed thread call.operation.kind false := by
    rw [h.holders, hcall]
    exact ⟨rfl, next, id, hid, hmem, rfl, by simp⟩
  obtain ⟨task, htask, hstate⟩ := h.transit_of_claimed hheld
  refine ⟨hheld, ?_⟩
  simp only [LifecycleSystem.runLoopCallback, htask, Option.any_some, hstate, beq_self_eq_true,
    Bool.not_true, Bool.and_false, Bool.false_eq_true, if_false]
  exact h.runCallback_eq hheld

/-- One turn of the loop. -/
theorem Tracks.runLoopCallback (hforeign : FindsNoForeignTask s.graph call.operation moved id) :
    ∃ ledger', Tracks ((s.runLoopCallback call.operation id).resume thread
      (some (.calling call (next + 1) moved))) ledger' := by
  have hwindow := h.windows thread call next moved hcall
  by_cases hmem : id ∈ moved
  · obtain ⟨hheld, hrun⟩ := h.runLoopCallback_eq hcall hid hmem
    have hmoved : moved ≠ [] := List.ne_nil_of_mem hmem
    have hvalid : ∀ id ∈ call.operation.tasks, s.graph.validTask id = true := fun id hid =>
      (GpuTaskGraphLifecycle.admitted_iff.1 (hwindow.live hmoved).2 id hid).1
    rw [hrun]
    suffices act : Act s ledger thread s.graph (some (.calling call (next + 1) moved))
        (CallbackLedger.call id.index ledger)
        (if s.graph.emits id.index call.operation.kind then
          (id.index, call.operation.kind) :: s.attemptCallbacks else s.attemptCallbacks) from
      ⟨_, act.tracks h⟩
    refine ⟨rfl, rfl, rfl, rfl, h.actedOn_call hheld, h.records.call hheld, ?_, ?_, by simp,
      by simp, by simp, by simp [hcall]⟩
    · intro i kind called
      by_cases hi : i = id.index
      · subst hi
        rw [CallbackLedger.call, Function.update_self, hheld]
        constructor
        · intro heq
          injection heq with _ hkind hcalled
          exact ⟨hkind.symm, next, id, hid, hmem, rfl, by simp [← hcalled]⟩
        · rintro ⟨rfl, j, other, hj, -, hindex, rfl⟩
          obtain rfl : j = next := position_unique hwindow.distinct hvalid hj hid hindex
          simp [CellStatus.call]
      · rw [CallbackLedger.call, Function.update_of_ne hi, h.holders, hcall]
        refine and_congr Iff.rfl (exists_congr fun j => exists_congr fun other => ?_)
        refine and_congr_right fun hj => and_congr_right fun _ => and_congr_right fun hindex => ?_
        have hne : j ≠ next := by
          rintro rfl
          obtain rfl : other = id := Option.some.inj (hj.symm.trans hid)
          exact hi hindex.symm
        rw [show decide (j < next + 1) = decide (j < next) from decide_eq_decide.2 (by omega)]
    · rintro call' next' moved' heq
      injection heq with heq
      injection heq with hcall' _ hmoved'
      subst hcall' hmoved'
      exact hwindow
  · rw [h.runLoopCallback_eq_self hcall hid hmem hforeign]
    refine ⟨ledger, h.resume ?_ ?_ (by simp) (by simp) (by simp [hcall])⟩
    · intro i kind called
      rw [hcall]
      refine and_congr Iff.rfl (exists_congr fun j => exists_congr fun other => ?_)
      refine and_congr_right fun hj => and_congr_right fun hother => and_congr_right fun _ => ?_
      have hne : j ≠ next := by
        rintro rfl
        obtain rfl : other = id := Option.some.inj (hj.symm.trans hid)
        exact hmem hother
      rw [show decide (j < next + 1) = decide (j < next) from decide_eq_decide.2 (by omega)]
    · rintro call' next' moved' heq
      injection heq with heq
      injection heq with hcall' _ hmoved'
      subst hcall' hmoved'
      exact hwindow

end Calling

/-! ## The last section -/

section Closing

variable {call : CallbackCall} {next : ℕ} {moved : List GpuTaskId}

/-- A call that moved nothing changes nothing in its last section. -/
lemma Window.closeSection_of_moved_nil {graph : GpuTaskGraphLifecycle} {op : CallbackOperation}
    (hwindow : Window graph op []) : (op.closeSection graph).getD graph = graph := by
  cases hclose : op.closeSection graph with
  | none => rfl
  | some graph' =>
    obtain ⟨hallowed, -, rfl⟩ := GpuTaskGraphLifecycle.packetSection_eq_some.1 hclose
    simp only [Option.getD_some]
    apply GpuTaskGraphLifecycle.updateTasks_eq_self
    intro id hid task htask
    have hrereads : op.rereads = true := by
      by_contra hnot
      exact absurd (hwindow.all_moved (by simpa using hnot) id hid) (List.not_mem_nil)
    obtain ⟨-, task', htask', hdone⟩ :=
      hwindow.unmoved (hwindow.lawful.close_attempt _ hallowed) id hid List.not_mem_nil
    obtain rfl : task' = task := Option.some.inj (htask'.symm.trans htask)
    exact hwindow.lawful.closing_done hrereads task' hdone

/-- The last section settles what the call holds. -/
theorem Tracks.closeSection (h : Tracks s ledger)
    (hcall : s.calls thread = some (.calling call next moved))
    (hend : call.operation.tasks[next]? = none) :
    ∃ ledger', Tracks ((s.withGraph
      ((call.operation.closeSection s.graph).getD s.graph)).finish thread) ledger' := by
  have hwindow := h.windows thread call next moved hcall
  by_cases hmoved : moved = []
  · subst hmoved
    rw [hwindow.closeSection_of_moved_nil]
    refine ⟨ledger, h.resume ?_ (by simp) (by simp) (by simp) (by simp [hcall])⟩
    intro i kind called
    rw [hcall]
    refine iff_of_false ?_ id
    rintro ⟨-, j, id, -, hid, -⟩
    exact absurd hid List.not_mem_nil
  · obtain ⟨hallowed, hadmitted⟩ := hwindow.live hmoved
    have hclose : call.operation.closeSection s.graph
        = some (s.graph.updateTasks call.operation.tasks call.operation.closing) :=
      GpuTaskGraphLifecycle.packetSection_eq_some.2 ⟨hallowed, hadmitted, rfl⟩
    have hcalled : ∀ i kind called, ledger i = .claimed thread kind called → called = true := by
      intro i kind called hclaimed
      rw [h.holders, hcall] at hclaimed
      obtain ⟨-, j, id, hj, -, -, rfl⟩ := hclaimed
      have := (List.getElem?_eq_some_iff.1 hj).1
      have := List.getElem?_eq_none_iff.1 hend
      simp only [decide_eq_true_eq]
      omega
    rw [hclose]
    suffices act : Act s ledger thread
        (s.graph.updateTasks call.operation.tasks call.operation.closing) none
        (CallbackLedger.settle thread ledger) s.attemptCallbacks from ⟨_, act.tracks h⟩
    refine ⟨rfl, rfl, rfl, rfl, ?_, h.records.settle hcalled, ?_, by simp, by simp, by simp,
      by simp, by simp [hcall]⟩
    · intro i
      by_cases hnamed : ∃ id ∈ call.operation.tasks, id.index = i
      · obtain ⟨id, hid, rfl⟩ := hnamed
        obtain ⟨-, task, htask, hcloses⟩ := GpuTaskGraphLifecycle.admitted_iff.1 hadmitted id hid
        have hexplains := h.explains id.index task htask
        by_cases hmem : id ∈ moved
        · obtain ⟨j, hj⟩ := List.mem_iff_getElem?.1 hid
          have hheld : ledger id.index
              = .claimed thread call.operation.kind (decide (j < next)) := by
            rw [h.holders, hcall]
            exact ⟨rfl, j, id, hj, hmem, rfl, rfl⟩
          refine Or.inr ⟨task, call.operation.closing task, htask, ?_,
            call.lawful.closing_thunks task, Or.inr ⟨_, _, hheld⟩, ?_, ?_⟩
          · rw [GpuTaskGraphLifecycle.getElem?_updateTasks_of_mem hid, htask]
            rfl
          · rw [hheld] at hexplains
            simp only [CallbackLedger.settle, hheld, CellStatus.settle, if_true]
            exact call.lawful.closing_transit task hexplains
          · intro thread' _ kind called heq
            simp [CallbackLedger.settle, hheld, CellStatus.settle] at heq
        · -- a task that was done already stays so
          have hattempt := call.lawful.close_attempt _ hallowed
          obtain ⟨-, task', htask', hdone⟩ := hwindow.unmoved hattempt id hid hmem
          obtain rfl : task' = task := Option.some.inj (htask'.symm.trans htask)
          have hrereads : call.operation.rereads = true := by
            by_contra hnot
            exact hmem (hwindow.all_moved (by simpa using hnot) id hid)
          rw [hdone] at hexplains
          refine Or.inl ⟨?_, ?_⟩
          · simp [CallbackLedger.settle, hexplains.settled_of_done, CellStatus.settle]
          · rw [GpuTaskGraphLifecycle.getElem?_updateTasks_of_mem hid, htask]
            simp [call.lawful.closing_done hrereads task' hdone]
      · have hsame : (s.graph.updateTasks call.operation.tasks call.operation.closing).tasks[i]?
            = s.graph.tasks[i]? :=
          GpuTaskGraphLifecycle.getElem?_updateTasks_of_forall_ne
            fun id hid heq => hnamed ⟨id, hid, heq⟩
        refine Or.inl ⟨settle_eq_self fun kind called hheld => ?_, hsame⟩
        rw [h.holders, hcall] at hheld
        obtain ⟨-, j, id, hj, -, hindex, -⟩ := hheld
        exact hnamed ⟨id, List.mem_of_getElem? hj, hindex⟩
    · intro i kind called
      exact iff_of_false (settle_ne_claimed i kind called) id

end Closing

end NwbLot.PacketRuntime
