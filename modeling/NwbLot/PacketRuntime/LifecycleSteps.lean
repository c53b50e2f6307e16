import NwbLot.PacketRuntime.LifecycleLedger

/-!
# Steps that move tasks

One thread acts on tasks that are unclaimed or its own and moves its call on; `Act` collects what
such a step has to show, and every locked section and callback of an operation is an instance.
-/

namespace NwbLot.PacketRuntime

open TaskGraph CallbackLedger

/-! ## Acting on one's own cells -/

/-- A task that the thread may move, and where it leaves it. -/
structure ActedOn (thread : ℕ) (before after : CellStatus ℕ CallbackKind)
    (task task' : GpuTaskLifecycleNode) : Prop where
  thunks : SameThunks task task'
  free : before = .unclaimed ∨ ∃ kind called, before = .claimed thread kind called
  explains : Explains after task'.lifecycleState
  own : ∀ thread', thread' ≠ thread → ∀ kind called, after ≠ .claimed thread' kind called

/-- A callback acts on the cell it is made for, and moves no task. -/
lemma Tracks.actedOn_call {s : LifecycleSystem} {ledger : LifecycleLedger} {thread j : ℕ}
    {kind : CallbackKind} (h : Tracks s ledger) (hheld : ledger j = .claimed thread kind false)
    (i : ℕ) : (CallbackLedger.call j ledger i = ledger i ∧ s.graph.tasks[i]? = s.graph.tasks[i]?) ∨
      ∃ task task', s.graph.tasks[i]? = some task ∧ s.graph.tasks[i]? = some task' ∧
        ActedOn thread (ledger i) (CallbackLedger.call j ledger i) task task' := by
  by_cases hi : i = j
  · subst hi
    obtain ⟨task, htask, hstate⟩ := h.transit_of_claimed hheld
    refine Or.inr ⟨task, task, htask, htask, ⟨rfl, rfl, rfl⟩, Or.inr ⟨_, _, hheld⟩, ?_, ?_⟩
    · rw [CallbackLedger.call, Function.update_self, hheld]
      exact hstate
    · intro thread' hne kind called heq
      rw [CallbackLedger.call, Function.update_self, hheld] at heq
      injection heq with hsame
      exact hne hsame.symm
  · exact Or.inl ⟨Function.update_of_ne hi _ _, rfl⟩

/-- One thread's step: new graph, new position of its call, new ledger and new log. -/
structure Act (s : LifecycleSystem) (ledger : LifecycleLedger) (thread : ℕ)
    (graph' : GpuTaskGraphLifecycle) (pending : Option PendingCall) (ledger' : LifecycleLedger)
    (log' : List TaskCallback) : Prop where
  generation : graph'.generation = s.graph.generation
  plan : graph'.activeRecordingPlanGeneration = s.graph.activeRecordingPlanGeneration
  attempt : graph'.activeRecordingAttemptGeneration = s.graph.activeRecordingAttemptGeneration
  teardown : graph'.teardownInProgress = s.graph.teardownInProgress
  cells : ∀ i : ℕ, (ledger' i = ledger i ∧ graph'.tasks[i]? = s.graph.tasks[i]?) ∨
    ∃ task task', s.graph.tasks[i]? = some task ∧ graph'.tasks[i]? = some task' ∧
      ActedOn thread (ledger i) (ledger' i) task task'
  records : Records s.graph.emits ledger' log'
  holders : ∀ i kind called,
    ledger' i = .claimed thread kind called ↔ Holds graph' pending i kind called
  window : ∀ call next moved, pending = some (.calling call next moved) →
    Window graph' call.operation moved
  distinct : ∀ call, pending = some (.opening call) → call.operation.tasks.Nodup
  tearing : ∀ point, pending = some (.reset point) → point.tearing = true →
    s.graph.teardownInProgress = true ∧
      ∀ (i : ℕ) task, graph'.tasks[i]? = some task → point.allows task.lifecycleState = true
  alone : ∀ point, pending = some (.reset point) → point.tearing = true →
    ∀ thread' point', thread' ≠ thread → s.calls thread' = some (.reset point') →
      point'.tearing = false
  not_clearing : s.calls thread ≠ some (.reset .clearing)

lemma Holds.congr_graph {graph graph' : GpuTaskGraphLifecycle} {pending : Option PendingCall}
    {i : ℕ} {kind : CallbackKind} {called : Bool} (htasks : graph'.tasks[i]? = graph.tasks[i]?) :
    Holds graph' pending i kind called ↔ Holds graph pending i kind called := by
  unfold Holds
  rw [htasks]

namespace Act

variable {s : LifecycleSystem} {ledger ledger' : LifecycleLedger} {thread : ℕ}
  {graph' : GpuTaskGraphLifecycle} {pending : Option PendingCall} {log' : List TaskCallback}

variable {i : ℕ} {task : GpuTaskLifecycleNode}

/-- A task that was moved was idle or in transit. -/
lemma free_state (h : Tracks s ledger) (htask : s.graph.tasks[i]? = some task)
    (hfree : ledger i = .unclaimed ∨ ∃ kind called, ledger i = .claimed thread kind called) :
    task.lifecycleState.idle = true ∨ ∃ kind called, ledger i = .claimed thread kind called ∧
      task.lifecycleState = kind.transit := by
  have hexplains := h.explains i task htask
  rcases hfree with hnone | ⟨kind, called, hown⟩
  · rw [hnone] at hexplains
    exact Or.inl hexplains
  · rw [hown] at hexplains
    exact Or.inr ⟨kind, called, hown, hexplains⟩

/-- A reset of another thread that is past its first section leaves nothing to act on. -/
lemma not_free_of_tearing (h : Tracks s ledger) {thread' : ℕ} {point : ResetPoint}
    (hne : thread' ≠ thread) (hpoint : s.calls thread' = some (.reset point))
    (htearing : point.tearing = true) (htask : s.graph.tasks[i]? = some task)
    (hfree : ledger i = .unclaimed ∨ ∃ kind called, ledger i = .claimed thread kind called)
    (state' : GpuTaskLifecycleState) : point.allows state' = true := by
  have hallows := (h.tearing thread' point hpoint htearing).2 i task htask
  rcases free_state h htask hfree with hidle | ⟨kind, called, hown, hstate⟩
  · exact ResetPoint.allows_of_idle hidle hallows state'
  · rw [hstate] at hallows
    cases point with
    | entering | tearingDown | refusing => rfl
    | destroying | clearing => simp [ResetPoint.allows, finished_transit] at hallows
    | discarding next =>
      -- a task that is being discarded now belongs to the reset
      have hdiscarding : kind.transit = .discarding := by
        simpa [ResetPoint.allows, finished_transit] using hallows
      have hheld : ledger i = .claimed thread' .discard (decide (i < next)) := by
        rw [h.holders, hpoint]
        exact ⟨rfl, rfl, task, htask, by rw [hstate, hdiscarding]⟩
      rw [hown] at hheld
      injection hheld with hthread
      exact absurd hthread.symm hne

section Kept

variable (a : Act s ledger thread graph' pending ledger' log')
include a

lemma emits_eq : graph'.emits = s.graph.emits := by
  funext i kind
  unfold GpuTaskGraphLifecycle.emits
  rcases a.cells i with ⟨-, hsame⟩ | ⟨task, task', htask, htask', hacted⟩
  · rw [hsame]
  · rw [htask, htask']
    exact hacted.thunks.owesCallback kind

variable {id : GpuTaskId}

lemma validTask (hid : s.graph.validTask id = true) :
    graph'.validTask id = true := by
  simp only [GpuTaskGraphLifecycle.validTask, Bool.and_eq_true, beq_iff_eq, decide_eq_true_eq]
    at hid ⊢
  refine ⟨⟨hid.1.1, by rw [hid.1.2, a.generation]⟩, ?_⟩
  rcases a.cells id.index with ⟨-, hsame⟩ | ⟨-, task', -, htask', -⟩
  · rw [List.getElem?_eq_getElem hid.2] at hsame
    exact (List.getElem?_eq_some_iff.1 hsame).1
  · exact (List.getElem?_eq_some_iff.1 htask').1

variable (h : Tracks s ledger)
include h

variable {i : ℕ}

lemma absent (hnone : graph'.tasks[i]? = none) : ledger' i = .unclaimed := by
  rcases a.cells i with ⟨hledger, hsame⟩ | ⟨task, task', -, htask', -⟩
  · rw [hledger]
    exact h.absent i (hsame ▸ hnone)
  · exact absurd (hnone.symm.trans htask') (by simp)

variable {task : GpuTaskLifecycleNode}

lemma explains (hat : graph'.tasks[i]? = some task) :
    Explains (ledger' i) task.lifecycleState := by
  rcases a.cells i with ⟨hledger, hsame⟩ | ⟨old, task', -, htask', hacted⟩
  · rw [hledger]
    exact h.explains i task (hsame ▸ hat)
  · obtain rfl : task' = task := Option.some.inj (htask'.symm.trans hat)
    exact hacted.explains

variable {thread' : ℕ}

/-- The other threads hold what they held. -/
lemma holders_of_ne (hthread : thread' ≠ thread) (i : ℕ) (kind : CallbackKind) (called : Bool) :
    ledger' i = .claimed thread' kind called ↔
      Holds graph' (s.calls thread') i kind called := by
  rcases a.cells i with ⟨hledger, hsame⟩ | ⟨task, task', htask, htask', hacted⟩
  · rw [hledger, Holds.congr_graph hsame]
    exact h.holders thread' i kind called
  refine iff_of_false (hacted.own thread' hthread kind called) fun hholds => ?_
  have hother : ∀ kind called, ledger i ≠ .claimed thread' kind called := by
    intro kind called hclaimed
    rcases hacted.free with hnone | ⟨kind', called', hown⟩
    · rw [hnone] at hclaimed
      cases hclaimed
    · rw [hown] at hclaimed
      injection hclaimed with hsame
      exact hthread hsame.symm
  unfold Holds at hholds
  split at hholds
  · next call next moved hcall =>
      refine hother kind called ?_
      rw [h.holders, hcall]
      exact hholds
  · next next hpoint =>
      have hidle := not_free_of_tearing h hthread hpoint rfl htask hacted.free .declared
      cases hidle
  · exact hholds

/-- The tasks that another thread's loop rests on stay as they are. -/
lemma kept_of_window {next : ℕ} {call : CallbackCall} {moved : List GpuTaskId}
    (hthread : thread' ≠ thread) (hcall : s.calls thread' = some (.calling call next moved))
    (hid : id ∈ call.operation.tasks) (htask : s.graph.tasks[id.index]? = some task)
    (hkept : call.operation.closes task = true ∧ moved ≠ [] ∨
      id ∉ moved ∧ task.lifecycleState = call.operation.kind.done) :
    graph'.tasks[id.index]? = some task := by
  have hwindow := h.windows thread' call next moved hcall
  rcases a.cells id.index with ⟨-, hsame⟩ | ⟨old, task', hold, -, hacted⟩
  · rw [hsame, htask]
  obtain rfl : old = task := Option.some.inj (hold.symm.trans htask)
  exfalso
  rcases free_state h htask hacted.free with hidle | ⟨kind, called, hown, hstate⟩
  · rcases hkept with ⟨hcloses, -⟩ | ⟨-, hdone⟩
    · rw [hwindow.mem_not_idle hcloses] at hidle
      cases hidle
    · rw [hdone, idle_done] at hidle
      cases hidle
  · rcases hkept with ⟨-, hmoved⟩ | ⟨-, hdone⟩
    · by_cases hmem : id ∈ moved
      · -- the other call claims the task that this thread claims
        obtain ⟨j, hj⟩ := List.mem_iff_getElem?.1 hid
        have hheld : ledger id.index
            = .claimed thread' call.operation.kind (decide (j < next)) := by
          rw [h.holders, hcall]
          exact ⟨rfl, j, id, hj, hmem, rfl, rfl⟩
        rw [hown] at hheld
        injection hheld with hsame
        exact hthread hsame.symm
      · have hattempt := hwindow.lawful.close_attempt _ (hwindow.live hmoved).1
        obtain ⟨-, task'', htask'', hdone⟩ := hwindow.unmoved hattempt id hid hmem
        obtain rfl : task'' = old := Option.some.inj (htask''.symm.trans htask)
        exact transit_ne_done _ _ (hstate.symm.trans hdone)
    · exact transit_ne_done _ _ (hstate.symm.trans hdone)

lemma window_of_ne {next : ℕ} {call : CallbackCall} {moved : List GpuTaskId}
    (hthread : thread' ≠ thread) (hcall : s.calls thread' = some (.calling call next moved)) :
    Window graph' call.operation moved :=
  (h.windows thread' call next moved hcall).frame a.plan a.attempt a.teardown
    (fun _ => a.validTask) fun _ hid _ => a.kept_of_window h hthread hcall hid

lemma tearing_of_ne {point : ResetPoint} (hthread : thread' ≠ thread)
    (hpoint : s.calls thread' = some (.reset point)) (htearing : point.tearing = true) :
    graph'.teardownInProgress = true ∧
      ∀ (i : ℕ) task, graph'.tasks[i]? = some task → point.allows task.lifecycleState = true := by
  obtain ⟨hteardown, hallows⟩ := h.tearing thread' point hpoint htearing
  refine ⟨a.teardown.trans hteardown, fun i task hat => ?_⟩
  rcases a.cells i with ⟨-, hsame⟩ | ⟨old, task', hold, -, hacted⟩
  · exact hallows i task (hsame ▸ hat)
  · exact not_free_of_tearing h hthread hpoint htearing hold hacted.free _

lemma destroyed (hat : graph'.tasks[i]? = some task) (hpayload : task.payload = .destroyed) :
    ∃ clearing, clearing ≠ thread ∧ s.calls clearing = some (.reset .clearing) := by
  obtain ⟨old, hold, hslot⟩ : ∃ old, s.graph.tasks[i]? = some old ∧
      old.payload = .destroyed := by
    rcases a.cells i with ⟨-, hsame⟩ | ⟨old, task', hold, htask', hacted⟩
    · exact ⟨task, hsame ▸ hat, hpayload⟩
    · obtain rfl : task' = task := Option.some.inj (htask'.symm.trans hat)
      exact ⟨old, hold, by rw [← hacted.thunks.1]; exact hpayload⟩
  obtain ⟨clearing, hclearing⟩ := h.destroyed i old hold hslot
  exact ⟨clearing, fun heq => a.not_clearing (heq ▸ hclearing), hclearing⟩

end Kept

theorem tracks (a : Act s ledger thread graph' pending ledger' log') (h : Tracks s ledger) :
    Tracks { graph := graph', calls := Function.update s.calls thread pending,
             attemptCallbacks := log', earlierCallbacks := s.earlierCallbacks } ledger' where
  records := a.emits_eq ▸ a.records
  absent := fun _ => a.absent h
  explains := fun _ _ => a.explains h
  holders := by
    intro thread' i kind called
    rcases eq_or_ne thread' thread with rfl | hthread
    · simpa using a.holders i kind called
    · simpa only [Function.update_of_ne hthread] using a.holders_of_ne h hthread i kind called
  windows := by
    intro thread' call next moved hcall
    rcases eq_or_ne thread' thread with rfl | hthread
    · exact a.window call next moved (by simpa using hcall)
    · simp only [Function.update_of_ne hthread] at hcall
      exact a.window_of_ne h hthread hcall
  distinct := by
    intro thread' call hcall
    rcases eq_or_ne thread' thread with rfl | hthread
    · exact a.distinct call (by simpa using hcall)
    · simp only [Function.update_of_ne hthread] at hcall
      exact h.distinct thread' call hcall
  tearing := by
    intro thread' point hpoint htearing
    rcases eq_or_ne thread' thread with rfl | hthread
    · obtain ⟨hteardown, hallows⟩ := a.tearing point (by simpa using hpoint) htearing
      exact ⟨a.teardown.trans hteardown, hallows⟩
    · simp only [Function.update_of_ne hthread] at hpoint
      exact a.tearing_of_ne h hthread hpoint htearing
  oneTeardown := by
    intro t t' point point' hpoint hpoint' htearing htearing'
    rcases eq_or_ne t thread with rfl | hthread
    · by_contra hne
      have hother := a.alone point (by simpa using hpoint) htearing t' point' (Ne.symm hne)
        (by simpa [Function.update_of_ne (Ne.symm hne)] using hpoint')
      rw [htearing'] at hother
      cases hother
    simp only [Function.update_of_ne hthread] at hpoint
    rcases eq_or_ne t' thread with rfl | hthread'
    · have hother := a.alone point' (by simpa using hpoint') htearing' t point hthread hpoint
      rw [htearing] at hother
      cases hother
    · simp only [Function.update_of_ne hthread'] at hpoint'
      exact h.oneTeardown t t' point point' hpoint hpoint' htearing htearing'
  destroyed := by
    intro i task hat hpayload
    obtain ⟨clearing, hne, hclearing⟩ := a.destroyed h hat hpayload
    exact ⟨clearing, by simpa [Function.update_of_ne hne] using hclearing⟩
  earlier := h.earlier

end Act

namespace Tracks

variable {s : LifecycleSystem} {ledger : LifecycleLedger} {thread : ℕ}

variable {pending : Option PendingCall}

/-- A call that moves on without holding other tasks than before. -/
theorem resume (h : Tracks s ledger) (hholds : ∀ i kind called,
      Holds s.graph (s.calls thread) i kind called ↔ Holds s.graph pending i kind called)
    (hwindow : ∀ call next moved, pending = some (.calling call next moved) →
      Window s.graph call.operation moved)
    (hdistinct : ∀ call, pending = some (.opening call) → call.operation.tasks.Nodup)
    (htearing : ∀ point, pending = some (.reset point) → point.tearing = true →
      ∃ before, s.calls thread = some (.reset before) ∧ before.tearing = true ∧
        ∀ state, before.allows state = true → point.allows state = true)
    (hclearing : s.calls thread ≠ some (.reset .clearing)) :
    Tracks (s.resume thread pending) ledger := by
  refine Act.tracks ?_ h
  refine ⟨rfl, rfl, rfl, rfl, fun i => Or.inl ⟨rfl, rfl⟩, h.records, ?_, hwindow, hdistinct, ?_,
    ?_, hclearing⟩
  · intro i kind called
    rw [h.holders]
    exact hholds i kind called
  · intro point hpoint htear
    obtain ⟨before, hbefore, hbeforeTear, hallows⟩ := htearing point hpoint htear
    obtain ⟨hteardown, hstates⟩ := h.tearing thread before hbefore hbeforeTear
    exact ⟨hteardown, fun i task htask => hallows _ (hstates i task htask)⟩
  · intro point hpoint htear thread' point' hne hpoint'
    obtain ⟨before, hbefore, hbeforeTear, -⟩ := htearing point hpoint htear
    by_contra htear'
    exact hne (h.oneTeardown thread' thread point' before hpoint' hbefore (by simpa using htear')
      hbeforeTear)

/-- Between plain positions nothing is held. -/
theorem resume_plain (h : Tracks s ledger) (hbefore : Plain (s.calls thread))
    (hafter : Plain pending) :
    Tracks (s.resume thread pending) ledger := by
  apply h.resume
  · exact fun i kind called => iff_of_false hbefore.not_holds hafter.not_holds
  · rintro call next moved rfl
    exact hafter.elim
  · rintro call rfl
    exact hafter
  · rintro point rfl htear
    have : point.tearing = false := hafter
    rw [htear] at this
    cases this
  · intro hclearing
    rw [hclearing] at hbefore
    cases hbefore

end Tracks

end NwbLot.PacketRuntime
