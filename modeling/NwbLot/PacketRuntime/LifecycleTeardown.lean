import NwbLot.PacketRuntime.LifecycleWindows

/-!
# Recording attempts and teardown

Re-arming and the end of a reset start the ledger anew; between them a reset claims every task that
is not finished, calls and settles it.

There is a theorem for every phase of a reset: entering, discarding, calling, settling,
destroying, clearing and leaving.
-/

namespace NwbLot.PacketRuntime

open TaskGraph CallbackLedger

variable {s : LifecycleSystem} {ledger : LifecycleLedger} {thread : ℕ}

/-! ## A new attempt -/

variable {graph' : GpuTaskGraphLifecycle}

/-- A new attempt starts with idle tasks and an empty log. -/
theorem Tracks.startAttempt (h : Tracks s ledger)
    (hidle : ∀ (i : ℕ) task, graph'.tasks[i]? = some task → task.lifecycleState.idle = true)
    (hpayload : ∀ (i : ℕ) task, graph'.tasks[i]? = some task → task.payload ≠ .destroyed)
    (hnone : ∀ i owner kind called, ledger i ≠ .claimed owner kind called)
    (hfresh : ∀ thread' call next moved, s.calls thread' = some (.calling call next moved) →
      call.operation.attempt ≠ graph'.activeRecordingAttemptGeneration)
    (halone : ∀ thread' point, thread' ≠ thread → s.calls thread' = some (.reset point) →
      point.tearing = false) :
    Tracks ((s.startAttempt graph').finish thread) rearmed where
  records := Records.rearm
  absent := fun _ _ => rfl
  explains := hidle
  holders := by
    intro thread' i kind called
    refine iff_of_false (by simp [rearmed]) fun hholds => ?_
    by_cases hthread : thread' = thread
    · subst hthread
      simp [LifecycleSystem.finish, LifecycleSystem.resume, Holds] at hholds
    · simp only [LifecycleSystem.finish, LifecycleSystem.resume, LifecycleSystem.startAttempt,
        Function.update_of_ne hthread] at hholds
      unfold Holds at hholds
      split at hholds
      · next call next moved hcall =>
          obtain ⟨-, j, id, -, hid, -⟩ := hholds
          rw [h.moved_eq_nil hcall (fun i kind called => hnone i thread' kind called)] at hid
          exact absurd hid List.not_mem_nil
      · next next hpoint => cases halone thread' _ hthread hpoint
      · exact hholds
  windows := by
    intro thread' call next moved hcall
    by_cases hthread : thread' = thread
    · subst hthread
      simp [LifecycleSystem.finish, LifecycleSystem.resume] at hcall
    · simp only [LifecycleSystem.finish, LifecycleSystem.resume, LifecycleSystem.startAttempt,
        Function.update_of_ne hthread] at hcall
      have hwindow := h.windows thread' call next moved hcall
      have hmoved := h.moved_eq_nil hcall (fun i kind called => hnone i thread' kind called)
      exact ⟨hwindow.lawful, hwindow.distinct, hwindow.moved_subset, hwindow.all_moved,
        fun hne => absurd hmoved hne,
        fun hattempt => absurd hattempt (hfresh thread' call next moved hcall)⟩
  distinct := by
    intro thread' call hcall
    by_cases hthread : thread' = thread
    · subst hthread
      simp [LifecycleSystem.finish, LifecycleSystem.resume] at hcall
    · simp only [LifecycleSystem.finish, LifecycleSystem.resume, LifecycleSystem.startAttempt,
        Function.update_of_ne hthread] at hcall
      exact h.distinct thread' call hcall
  tearing := by
    intro thread' point hpoint htearing
    by_cases hthread : thread' = thread
    · subst hthread
      simp [LifecycleSystem.finish, LifecycleSystem.resume] at hpoint
    · simp only [LifecycleSystem.finish, LifecycleSystem.resume, LifecycleSystem.startAttempt,
        Function.update_of_ne hthread] at hpoint
      rw [halone thread' point hthread hpoint] at htearing
      cases htearing
  oneTeardown := by
    intro t t' point point' hpoint hpoint' htearing htearing'
    by_cases hthread : t = thread
    · subst hthread
      simp [LifecycleSystem.finish, LifecycleSystem.resume] at hpoint
    · simp only [LifecycleSystem.finish, LifecycleSystem.resume, LifecycleSystem.startAttempt,
        Function.update_of_ne hthread] at hpoint
      rw [halone t point hthread hpoint] at htearing
      cases htearing
  destroyed := fun i task htask hdestroyed => absurd hdestroyed (hpayload i task htask)
  earlier := by
    intro log hlog i
    rcases List.mem_cons.1 hlog with rfl | hold
    · exact h.records.length_le_one i
    · exact h.earlier log hold i

variable {graph : GpuTaskGraphLifecycle} {plan : PublishedPlan} {tasks : List GpuTaskId}

/-- What a re-arming section found. -/
lemma rearmed_cases (h : graph.beginRecordingAttempt plan tasks = .rearmed graph') :
    graph.teardownInProgress = false ∧ graph' = graph.rearm plan.planGeneration ∧
      ∀ (i : ℕ) task, graph.tasks[i]? = some task →
        task.lifecycleState = .declared ∨ task.lifecycleState = .discarded := by
  unfold GpuTaskGraphLifecycle.beginRecordingAttempt at h
  simp only at h
  split at h
  · cases h
  next hteardown =>
  split at h
  · cases h
  split at h
  · cases h
  split at h
  · next hrearmable =>
      injection h with h
      refine ⟨by simpa using hteardown, h.symm, fun i task htask => ?_⟩
      simp only [GpuTaskGraphLifecycle.rearmable, List.all_eq_true] at hrearmable
      have huse := hrearmable task (List.mem_of_getElem? htask)
      simp only [Bool.and_eq_true] at huse
      cases hstate : task.lifecycleState <;>
        simp [hstate, GpuTaskGraphLifecycle.attemptInUse] at huse ⊢
  · cases h

/-- The last section of `beginRecordingAttempt`, when it re-arms the graph. -/
theorem Tracks.rearm (h : Tracks s ledger)
    (hrearmed : s.graph.beginRecordingAttempt plan tasks = .rearmed graph')
    (hfresh : ∀ thread' call next moved, s.calls thread' = some (.calling call next moved) →
      call.operation.attempt ≠ (allocateGeneration s.graph.nextGeneration).1) :
    Tracks ((s.startAttempt graph').finish thread) rearmed := by
  obtain ⟨hteardown, rfl, hstates⟩ := rearmed_cases hrearmed
  have hat : ∀ (i : ℕ) task, (s.graph.rearm plan.planGeneration).tasks[i]? = some task →
      task.lifecycleState = .declared ∧ ∃ old, s.graph.tasks[i]? = some old ∧
        task.payload = old.payload := by
    intro i task htask
    simp only [GpuTaskGraphLifecycle.rearm, List.getElem?_map, Option.map_eq_some_iff] at htask
    obtain ⟨old, hold, rfl⟩ := htask
    exact ⟨rfl, old, hold, rfl⟩
  have hfree : ∀ thread' point, s.calls thread' = some (.reset point) →
      point.tearing = false := by
    intro thread' point hpoint
    by_contra htearing
    rw [(h.tearing thread' point hpoint (by simpa using htearing)).1] at hteardown
    cases hteardown
  refine h.startAttempt ?_ ?_ ?_ hfresh fun thread' point _ => hfree thread' point
  · intro i task htask
    rw [(hat i task htask).1]
    rfl
  · intro i task htask hdestroyed
    obtain ⟨-, old, hold, hpayload⟩ := hat i task htask
    obtain ⟨clearing, hclearing⟩ := h.destroyed i old hold (by rw [← hpayload, hdestroyed])
    cases hfree clearing .clearing hclearing
  · intro i owner kind called
    refine h.not_claimed (fun i task kind htask heq => ?_) i owner kind called
    rcases hstates i task htask with hdeclared | hdiscarded
    · rw [hdeclared] at heq
      cases kind <;> cases heq
    · rw [hdiscarded] at heq
      cases kind <;> cases heq

/-! ## Teardown -/

/-- No task is in transit while no task work is in flight. -/
lemma not_transit_of_workInFlight (h : graph.workInFlight = false) (i : ℕ)
    (task : GpuTaskLifecycleNode) (kind : CallbackKind) (htask : graph.tasks[i]? = some task) :
    task.lifecycleState ≠ kind.transit := by
  intro hstate
  simp only [GpuTaskGraphLifecycle.workInFlight, List.any_eq_false] at h
  have hfree := h task (List.mem_of_getElem? htask)
  rw [hstate] at hfree
  cases kind <;> simp [CallbackKind.transit] at hfree

variable {point : ResetPoint}

/-- A step of a teardown while nothing is claimed. -/
theorem Tracks.teardownStep (h : Tracks s ledger)
    (hnone : ∀ i owner kind called, ledger i ≠ .claimed owner kind called)
    (hgeneration : graph'.generation = s.graph.generation)
    (hattempt : graph'.activeRecordingAttemptGeneration
      = s.graph.activeRecordingAttemptGeneration)
    (hlength : graph'.tasks.length = s.graph.tasks.length)
    (hstates : ∀ (i : ℕ) task', graph'.tasks[i]? = some task' → ∃ task,
      s.graph.tasks[i]? = some task ∧ task'.lifecycleState = task.lifecycleState ∧
        (task'.payload = .destroyed → task.payload = .destroyed ∨ point = .clearing))
    (hemits : graph'.emits = s.graph.emits) (hteardown : graph'.teardownInProgress = true)
    (hpoint : ∀ next, point ≠ .discarding next)
    (hallows : ∀ (i : ℕ) task, graph'.tasks[i]? = some task →
      point.allows task.lifecycleState = true)
    (halone : ∀ thread' point', thread' ≠ thread → s.calls thread' = some (.reset point') →
      point'.tearing = false) (hnot : s.calls thread ≠ some (.reset .clearing)) :
    Tracks ((s.withGraph graph').resume thread (some (.reset point))) ledger where
  records := by
    simp only [LifecycleSystem.resume, LifecycleSystem.withGraph]
    rw [hemits]
    exact h.records
  absent := by
    intro i hat
    refine h.absent i ?_
    rw [List.getElem?_eq_none_iff] at hat ⊢
    rw [← hlength]
    exact hat
  explains := by
    intro i task' htask'
    obtain ⟨task, htask, hstate, -⟩ := hstates i task' htask'
    rw [hstate]
    exact h.explains i task htask
  holders := by
    intro thread' i kind called
    refine iff_of_false (hnone i thread' kind called) fun hholds => ?_
    by_cases hthread : thread' = thread
    · subst hthread
      simp only [LifecycleSystem.resume, LifecycleSystem.withGraph, Function.update_self] at hholds
      unfold Holds at hholds
      split at hholds
      · next heq =>
          injection heq with heq
          cases heq
      · next next heq =>
          injection heq with heq
          injection heq with heq
          exact hpoint next heq
      · exact hholds
    · simp only [LifecycleSystem.resume, LifecycleSystem.withGraph,
        Function.update_of_ne hthread] at hholds
      unfold Holds at hholds
      split at hholds
      · next call next moved hcall =>
          obtain ⟨-, j, id, -, hid, -⟩ := hholds
          rw [h.moved_eq_nil hcall (fun i kind called => hnone i thread' kind called)] at hid
          exact absurd hid List.not_mem_nil
      · next next hcall => cases halone thread' _ hthread hcall
      · exact hholds
  windows := by
    intro thread' call next moved hcall
    by_cases hthread : thread' = thread
    · subst hthread
      simp [LifecycleSystem.resume] at hcall
    · simp only [LifecycleSystem.resume, LifecycleSystem.withGraph,
        Function.update_of_ne hthread] at hcall
      have hwindow := h.windows thread' call next moved hcall
      have hmoved := h.moved_eq_nil hcall (fun i kind called => hnone i thread' kind called)
      refine ⟨hwindow.lawful, hwindow.distinct, hwindow.moved_subset, hwindow.all_moved,
        fun hne => absurd hmoved hne, fun hsame id hid hnot => ?_⟩
      obtain ⟨hok, task, htask, hdone⟩ := hwindow.unmoved (hsame.trans hattempt) id hid hnot
      have hlt : id.index < graph'.tasks.length := by
        rw [hlength]
        exact (List.getElem?_eq_some_iff.1 htask).1
      obtain ⟨old, hold, hstate, -⟩ := hstates id.index _ (List.getElem?_eq_getElem hlt)
      obtain rfl : old = task := Option.some.inj (hold.symm.trans htask)
      refine ⟨?_, _, List.getElem?_eq_getElem hlt, hstate.trans hdone⟩
      have hsame : graph'.validTask id = s.graph.validTask id := by
        simp only [GpuTaskGraphLifecycle.validTask, hgeneration, hlength]
      exact hsame.trans hok
  distinct := by
    intro thread' call hcall
    by_cases hthread : thread' = thread
    · subst hthread
      simp [LifecycleSystem.resume] at hcall
    · simp only [LifecycleSystem.resume, LifecycleSystem.withGraph,
        Function.update_of_ne hthread] at hcall
      exact h.distinct thread' call hcall
  tearing := by
    intro thread' point' hcall htearing
    by_cases hthread : thread' = thread
    · subst hthread
      simp only [LifecycleSystem.resume, LifecycleSystem.withGraph, Function.update_self,
        Option.some.injEq, PendingCall.reset.injEq] at hcall
      subst hcall
      exact ⟨hteardown, hallows⟩
    · simp only [LifecycleSystem.resume, LifecycleSystem.withGraph,
        Function.update_of_ne hthread] at hcall
      rw [halone thread' point' hthread hcall] at htearing
      cases htearing
  oneTeardown := by
    have hown : ∀ t p, ((s.withGraph graph').resume thread (some (.reset point))).calls t
        = some (.reset p) → p.tearing = true → t = thread := by
      intro t p hcall htearing
      by_contra hthread
      simp only [LifecycleSystem.resume, LifecycleSystem.withGraph,
        Function.update_of_ne hthread] at hcall
      rw [halone t p hthread hcall] at htearing
      cases htearing
    intro t t' p p' hcall hcall' htearing htearing'
    rw [hown t p hcall htearing, hown t' p' hcall' htearing']
  destroyed := by
    intro i task' htask' hdestroyed
    obtain ⟨task, htask, -, hslot⟩ := hstates i task' htask'
    rcases hslot hdestroyed with hold | rfl
    · obtain ⟨clearing, hclearing⟩ := h.destroyed i task htask hold
      by_cases hthread : clearing = thread
      · subst hthread
        exact absurd hclearing hnot
      · cases halone clearing .clearing hthread hclearing
    · exact ⟨thread, by simp [LifecycleSystem.resume]⟩
  earlier := h.earlier

/-- The first section of a reset. -/
theorem Tracks.enterTeardown (h : Tracks s ledger)
    (hpoint : s.calls thread = some (.reset .entering))
    (hteardown : s.graph.teardownInProgress = false) (hwork : s.graph.workInFlight = false) :
    Tracks ((s.withGraph { s.graph with teardownInProgress := true }).resume thread
      (some (.reset .tearingDown))) ledger := by
  refine h.teardownStep (h.not_claimed (not_transit_of_workInFlight hwork)) rfl rfl rfl ?_ rfl rfl
    (by simp) (fun _ _ _ => rfl) ?_ (by simp [hpoint])
  · exact fun i task htask => ⟨task, htask, rfl, Or.inl⟩
  · intro thread' point' _ hcall
    by_contra htearing
    rw [(h.tearing thread' point' hcall (by simpa using htearing)).1] at hteardown
    cases hteardown

/-- Another thread is not tearing down. -/
lemma Tracks.alone (h : Tracks s ledger) (hpoint : s.calls thread = some (.reset point))
    (htearing : point.tearing = true) (thread' : ℕ) (point' : ResetPoint) (hne : thread' ≠ thread)
    (hpoint' : s.calls thread' = some (.reset point')) : point'.tearing = false := by
  by_contra htearing'
  exact hne (h.oneTeardown thread' thread point' point hpoint' hpoint (by simpa using htearing')
    htearing)

/-- The loop that destroys the payloads. -/
theorem Tracks.destroyPayloads (h : Tracks s ledger)
    (hpoint : s.calls thread = some (.reset .destroying)) :
    Tracks ((s.withGraph s.graph.destroyPayloads).resume thread (some (.reset .clearing)))
      ledger := by
  obtain ⟨hteardown, hfinished⟩ := h.tearing thread .destroying hpoint rfl
  have hat : ∀ i : ℕ, s.graph.destroyPayloads.tasks[i]? = (s.graph.tasks[i]?).map fun task =>
      { task with payload := if task.payload = .live then .destroyed else task.payload } := by
    intro i
    simp [GpuTaskGraphLifecycle.destroyPayloads]
  have hnone : ∀ i owner kind called, ledger i ≠ .claimed owner kind called := by
    refine h.not_claimed fun i task kind htask hstate => ?_
    have := hfinished i task htask
    rw [hstate, ResetPoint.allows, finished_transit] at this
    cases this
  refine h.teardownStep hnone rfl rfl (by simp [GpuTaskGraphLifecycle.destroyPayloads]) ?_ ?_
    hteardown (by simp) ?_ (h.alone hpoint rfl) (by simp [hpoint])
  · intro i task' htask'
    rw [hat, Option.map_eq_some_iff] at htask'
    obtain ⟨task, htask, rfl⟩ := htask'
    exact ⟨task, htask, rfl, fun _ => Or.inr rfl⟩
  · funext i kind
    unfold GpuTaskGraphLifecycle.emits
    rw [hat, Option.any_map]
    congr 1
    funext task
    obtain ⟨payload⟩ := task
    cases payload <;> cases kind <;> rfl
  · intro i task' htask'
    rw [hat, Option.map_eq_some_iff] at htask'
    obtain ⟨task, htask, rfl⟩ := htask'
    exact hfinished i task htask

/-- The last section of a reset. -/
theorem Tracks.clear (h : Tracks s ledger) (hpoint : s.calls thread = some (.reset .clearing))
    (hfresh : ∀ thread' call next moved, s.calls thread' = some (.calling call next moved) →
      call.operation.attempt ≠ s.graph.clear.activeRecordingAttemptGeneration) :
    Tracks ((s.startAttempt s.graph.clear).finish thread) rearmed := by
  have hnil : ∀ i : ℕ, s.graph.clear.tasks[i]? = none := fun _ => rfl
  refine h.startAttempt ?_ ?_ ?_ hfresh (h.alone hpoint rfl)
  · intro i task htask
    rw [hnil] at htask
    cases htask
  · intro i task htask
    rw [hnil] at htask
    cases htask
  · refine h.not_claimed fun i task kind htask hstate => ?_
    have := (h.tearing thread .clearing hpoint rfl).2 i task htask
    rw [hstate, ResetPoint.allows, finished_transit] at this
    cases this

/-- A reset that found task work gives the flag back. -/
theorem Tracks.leaveTeardown (h : Tracks s ledger)
    (hpoint : s.calls thread = some (.reset .refusing)) :
    Tracks ((s.withGraph { s.graph with teardownInProgress := false }).finish thread) ledger where
  records := h.records
  absent := h.absent
  explains := h.explains
  holders := by
    intro thread' i kind called
    rw [h.holders]
    by_cases hthread : thread' = thread
    · subst hthread
      rw [hpoint]
      simp [LifecycleSystem.finish, LifecycleSystem.resume, Holds]
    · simp only [LifecycleSystem.finish, LifecycleSystem.resume, LifecycleSystem.withGraph,
        Function.update_of_ne hthread]
      exact (Holds.congr_graph rfl).symm
  windows := by
    intro thread' call next moved hcall
    by_cases hthread : thread' = thread
    · subst hthread
      simp [LifecycleSystem.finish, LifecycleSystem.resume] at hcall
    · simp only [LifecycleSystem.finish, LifecycleSystem.resume, LifecycleSystem.withGraph,
        Function.update_of_ne hthread] at hcall
      have hwindow := h.windows thread' call next moved hcall
      exact ⟨hwindow.lawful, hwindow.distinct, hwindow.moved_subset, hwindow.all_moved,
        fun hmoved => ⟨hwindow.lawful.close_release _ (hwindow.live hmoved).1,
          (hwindow.live hmoved).2⟩, hwindow.unmoved⟩
  distinct := by
    intro thread' call hcall
    by_cases hthread : thread' = thread
    · subst hthread
      simp [LifecycleSystem.finish, LifecycleSystem.resume] at hcall
    · simp only [LifecycleSystem.finish, LifecycleSystem.resume, LifecycleSystem.withGraph,
        Function.update_of_ne hthread] at hcall
      exact h.distinct thread' call hcall
  tearing := by
    intro thread' point hcall htearing
    by_cases hthread : thread' = thread
    · subst hthread
      simp [LifecycleSystem.finish, LifecycleSystem.resume] at hcall
    · simp only [LifecycleSystem.finish, LifecycleSystem.resume, LifecycleSystem.withGraph,
        Function.update_of_ne hthread] at hcall
      rw [h.alone hpoint rfl thread' point hthread hcall] at htearing
      cases htearing
  oneTeardown := by
    intro t t' p p' hcall hcall' htearing htearing'
    by_cases hthread : t = thread
    · subst hthread
      simp [LifecycleSystem.finish, LifecycleSystem.resume] at hcall
    · simp only [LifecycleSystem.finish, LifecycleSystem.resume, LifecycleSystem.withGraph,
        Function.update_of_ne hthread] at hcall
      rw [h.alone hpoint rfl t p hthread hcall] at htearing
      cases htearing
  destroyed := by
    intro i task htask hdestroyed
    obtain ⟨clearing, hclearing⟩ := h.destroyed i task htask hdestroyed
    have hthread := h.oneTeardown clearing thread _ _ hclearing hpoint rfl rfl
    subst hthread
    rw [hpoint] at hclearing
    cases hclearing
  earlier := h.earlier

/-! ## The callbacks of a teardown -/

/-- The first section of `destroyTaskPayloads` claims the tasks that are not finished. -/
theorem Tracks.discardUnresolved (h : Tracks s ledger)
    (hpoint : s.calls thread = some (.reset .tearingDown))
    (hwork : s.graph.workInFlight = false) :
    ∃ ledger', Tracks ((s.withGraph s.graph.discardUnresolved).resume thread
      (some (.reset (.discarding 0)))) ledger' := by
  obtain ⟨hteardown, -⟩ := h.tearing thread .tearingDown hpoint rfl
  have hstates : ∀ (i : ℕ) task, s.graph.tasks[i]? = some task →
      task.lifecycleState = .declared ∨ task.lifecycleState = .recorded ∨
        task.lifecycleState.finished = true := by
    intro i task htask
    simp only [GpuTaskGraphLifecycle.workInFlight, List.any_eq_false] at hwork
    have hfree := hwork task (List.mem_of_getElem? htask)
    cases hstate : task.lifecycleState <;> simp [hstate, GpuTaskLifecycleState.finished] at hfree ⊢
  have hat : ∀ i : ℕ, s.graph.discardUnresolved.tasks[i]? = (s.graph.tasks[i]?).map fun task =>
      if task.lifecycleState == .declared || task.lifecycleState == .recording
          || task.lifecycleState == .recorded then
        { task with lifecycleState := .discarding }
      else task := by
    intro i
    simp [GpuTaskGraphLifecycle.discardUnresolved]
  have hcells : ∀ i : ℕ, i ∈ (List.range s.graph.tasks.length).filter (fun i =>
        (s.graph.tasks[i]?).any (·.lifecycleState.idle)) ↔
      ∃ task, s.graph.tasks[i]? = some task ∧ task.lifecycleState.idle = true := by
    intro i
    simp only [List.mem_filter, List.mem_range, Option.any_eq_true]
    refine ⟨fun hi => hi.2, fun hi => ⟨?_, hi⟩⟩
    obtain ⟨task, htask, -⟩ := hi
    exact (List.getElem?_eq_some_iff.1 htask).1
  have hunclaimed : ∀ i ∈ (List.range s.graph.tasks.length).filter (fun i =>
      (s.graph.tasks[i]?).any (·.lifecycleState.idle)), ledger i = .unclaimed := by
    intro i hi
    obtain ⟨task, htask, hidle⟩ := (hcells i).1 hi
    exact (h.explains i task htask).unclaimed_of_idle hidle
  have hmoved : ∀ (i : ℕ) task, s.graph.tasks[i]? = some task → task.lifecycleState.idle = true →
      s.graph.discardUnresolved.tasks[i]? = some { task with lifecycleState := .discarding } := by
    intro i task htask hidle
    rw [hat, htask]
    rcases hstates i task htask with hstate | hstate | hfinished
    · simp [hstate]
    · simp [hstate]
    · rw [idle_not_finished hidle] at hfinished
      cases hfinished
  have hkept : ∀ (i : ℕ) task, s.graph.tasks[i]? = some task → task.lifecycleState.idle = false →
      s.graph.discardUnresolved.tasks[i]? = some task := by
    intro i task htask hidle
    rw [hat, htask]
    cases hstate : task.lifecycleState <;> simp [hstate, GpuTaskLifecycleState.idle] at hidle ⊢
  suffices act : Act s ledger thread s.graph.discardUnresolved (some (.reset (.discarding 0)))
      (claim thread .discard ((List.range s.graph.tasks.length).filter fun i =>
        (s.graph.tasks[i]?).any (·.lifecycleState.idle)) ledger)
      s.attemptCallbacks from ⟨_, act.tracks h⟩
  refine ⟨rfl, rfl, rfl, rfl, ?_, h.records.claim hunclaimed, ?_, by simp, by simp, ?_, ?_,
    by simp [hpoint]⟩
  · intro i
    by_cases hi : i ∈ (List.range s.graph.tasks.length).filter (fun i =>
        (s.graph.tasks[i]?).any (·.lifecycleState.idle))
    · obtain ⟨task, htask, hidle⟩ := (hcells i).1 hi
      refine Or.inr ⟨task, _, htask, hmoved i task htask hidle, ⟨rfl, rfl, rfl⟩,
        Or.inl (hunclaimed i hi), ?_, ?_⟩
      · simp only [claim, if_pos hi]
        rfl
      · intro thread' hne kind called heq
        simp only [claim, if_pos hi] at heq
        injection heq with hsame
        exact hne hsame.symm
    · refine Or.inl ⟨by simp only [claim, if_neg hi], ?_⟩
      cases htask : s.graph.tasks[i]? with
      | none => rw [hat, htask]; rfl
      | some task =>
        refine hkept i task htask ?_
        by_contra hidle
        exact hi ((hcells i).2 ⟨task, htask, by simpa using hidle⟩)
  · intro i kind called
    constructor
    · intro hclaimed
      by_cases hi : i ∈ (List.range s.graph.tasks.length).filter (fun i =>
          (s.graph.tasks[i]?).any (·.lifecycleState.idle))
      · simp only [claim, if_pos hi] at hclaimed
        injection hclaimed with _ hkind hcalled
        obtain ⟨task, htask, hidle⟩ := (hcells i).1 hi
        exact ⟨hkind.symm, by simp [← hcalled], _, hmoved i task htask hidle, rfl⟩
      · simp only [claim, if_neg hi] at hclaimed
        have hholds := (h.holders thread i kind called).1 hclaimed
        rw [hpoint] at hholds
        exact hholds.elim
    · rintro ⟨rfl, rfl, task', htask', hstate⟩
      have hi : i ∈ (List.range s.graph.tasks.length).filter (fun i =>
          (s.graph.tasks[i]?).any (·.lifecycleState.idle)) := by
        rw [hcells]
        cases htask : s.graph.tasks[i]? with
        | none =>
          rw [hat, htask] at htask'
          cases htask'
        | some task =>
          refine ⟨task, rfl, ?_⟩
          by_contra hidle
          rw [hkept i task htask (by simpa using hidle)] at htask'
          obtain rfl : task = task' := Option.some.inj htask'
          exact not_transit_of_workInFlight hwork i task .discard htask hstate
      simp only [claim, if_pos hi, Nat.not_lt_zero, decide_false]
  · intro point heq _
    injection heq with heq
    injection heq with heq
    subst heq
    refine ⟨hteardown, fun i task' htask' => ?_⟩
    cases htask : s.graph.tasks[i]? with
    | none =>
      rw [hat, htask] at htask'
      cases htask'
    | some task =>
      by_cases hidle : task.lifecycleState.idle = true
      · rw [hmoved i task htask hidle] at htask'
        obtain rfl := Option.some.inj htask'
        rfl
      · rw [hkept i task htask (by simpa using hidle)] at htask'
        obtain rfl : task = task' := Option.some.inj htask'
        rcases hstates i task htask with hstate | hstate | hfinished
        · rw [hstate] at hidle
          exact absurd rfl hidle
        · rw [hstate] at hidle
          exact absurd rfl hidle
        · simp [ResetPoint.allows, hfinished]
  · intro point heq _
    exact h.alone hpoint rfl

/-- One turn of the discard loop of `destroyTaskPayloads`. -/
theorem Tracks.discardTurn (h : Tracks s ledger) {next : ℕ}
    (hpoint : s.calls thread = some (.reset (.discarding next))) :
    ∃ ledger', Tracks ((if (s.graph.tasks[next]?).any (·.lifecycleState == .discarding) then
        s.runCallback next .discard
      else s).resume thread (some (.reset (.discarding (next + 1))))) ledger' := by
  obtain ⟨hteardown, hallows⟩ := h.tearing thread _ hpoint rfl
  by_cases hturn : (s.graph.tasks[next]?).any (·.lifecycleState == .discarding) = true
  · rw [if_pos hturn]
    simp only [Option.any_eq_true, beq_iff_eq] at hturn
    obtain ⟨task, htask, hstate⟩ := hturn
    have hheld : ledger next = .claimed thread .discard false := by
      rw [h.holders, hpoint]
      exact ⟨rfl, by simp, task, htask, hstate⟩
    rw [h.runCallback_eq hheld]
    suffices act : Act s ledger thread s.graph (some (.reset (.discarding (next + 1))))
        (CallbackLedger.call next ledger)
        (if s.graph.emits next .discard then (next, .discard) :: s.attemptCallbacks
          else s.attemptCallbacks) from ⟨_, act.tracks h⟩
    refine ⟨rfl, rfl, rfl, rfl, h.actedOn_call hheld, h.records.call hheld, ?_, by simp, by simp,
      ?_, ?_, by simp [hpoint]⟩
    · intro i kind called
      by_cases hi : i = next
      · subst hi
        rw [CallbackLedger.call, Function.update_self, hheld]
        constructor
        · intro heq
          injection heq with _ hkind hcalled
          exact ⟨hkind.symm, by simp [← hcalled], task, htask, hstate⟩
        · rintro ⟨rfl, rfl, -⟩
          simp [CellStatus.call]
      · rw [CallbackLedger.call, Function.update_of_ne hi, h.holders, hpoint]
        unfold Holds
        simp only
        rw [show decide (i < next + 1) = decide (i < next) from decide_eq_decide.2 (by omega)]
    · intro point heq _
      injection heq with heq
      injection heq with heq
      subst heq
      exact ⟨hteardown, hallows⟩
    · intro point heq _
      exact h.alone hpoint rfl
  · rw [if_neg hturn]
    refine ⟨ledger, h.resume ?_ (by simp) (by simp) ?_ (by simp [hpoint])⟩
    · intro i kind called
      rw [hpoint]
      unfold Holds
      simp only
      constructor
      · rintro ⟨hkind, hcalled, task, htask, hstate⟩
        have hne : i ≠ next := by
          rintro rfl
          exact hturn ((Option.any_eq_true _ _).2 ⟨task, htask, by simp [hstate]⟩)
        refine ⟨hkind, ?_, task, htask, hstate⟩
        rw [hcalled]
        exact decide_eq_decide.2 (by omega)
      · rintro ⟨hkind, hcalled, task, htask, hstate⟩
        have hne : i ≠ next := by
          rintro rfl
          exact hturn ((Option.any_eq_true _ _).2 ⟨task, htask, by simp [hstate]⟩)
        refine ⟨hkind, ?_, task, htask, hstate⟩
        rw [hcalled]
        exact decide_eq_decide.2 (by omega)
    · intro point heq _
      injection heq with heq
      injection heq with heq
      subst heq
      exact ⟨_, hpoint, rfl, fun _ hstate => hstate⟩

/-- The second section of `destroyTaskPayloads` settles what the reset holds. -/
theorem Tracks.settleDiscarded (h : Tracks s ledger) {next : ℕ}
    (hpoint : s.calls thread = some (.reset (.discarding next)))
    (hend : s.graph.tasks.length ≤ next) :
    ∃ ledger', Tracks ((s.withGraph s.graph.settleDiscarded).resume thread
      (some (.reset .destroying))) ledger' := by
  obtain ⟨hteardown, hallows⟩ := h.tearing thread _ hpoint rfl
  have hat : ∀ i : ℕ, s.graph.settleDiscarded.tasks[i]? = (s.graph.tasks[i]?).map fun task =>
      if task.lifecycleState != .discarding then task
      else { task.clearRecordThunk with
        lifecycleState := .discarded
        recordingClaimGeneration := 0
        submissionClaimGeneration := 0 } := by
    intro i
    simp [GpuTaskGraphLifecycle.settleDiscarded]
  have hcalled : ∀ i kind called, ledger i = .claimed thread kind called → called = true := by
    intro i kind called hclaimed
    rw [h.holders, hpoint] at hclaimed
    obtain ⟨-, rfl, task, htask, -⟩ := hclaimed
    have := (List.getElem?_eq_some_iff.1 htask).1
    simp only [decide_eq_true_eq]
    omega
  suffices act : Act s ledger thread s.graph.settleDiscarded (some (.reset .destroying))
      (CallbackLedger.settle thread ledger) s.attemptCallbacks from ⟨_, act.tracks h⟩
  refine ⟨rfl, rfl, rfl, rfl, ?_, h.records.settle hcalled, ?_, by simp, by simp, ?_, ?_,
    by simp [hpoint]⟩
  · intro i
    cases htask : s.graph.tasks[i]? with
    | none =>
      have hstatus := h.absent i htask
      refine Or.inl ⟨by simp [CallbackLedger.settle, hstatus, CellStatus.settle], ?_⟩
      rw [hat, htask]
      rfl
    | some task =>
      by_cases hstate : task.lifecycleState = .discarding
      · have hheld : ledger i = .claimed thread .discard (decide (i < next)) := by
          rw [h.holders, hpoint]
          exact ⟨rfl, rfl, task, htask, hstate⟩
        have hnode : s.graph.settleDiscarded.tasks[i]? = some { task.clearRecordThunk with
            lifecycleState := .discarded
            recordingClaimGeneration := 0
            submissionClaimGeneration := 0 } := by
          rw [hat, htask]
          simp [hstate]
        refine Or.inr ⟨task, _, rfl, hnode, ⟨rfl, rfl, rfl⟩, Or.inr ⟨_, _, hheld⟩, ?_, ?_⟩
        · simp only [CallbackLedger.settle, hheld, CellStatus.settle, if_true]
          rfl
        · intro thread' _ kind called heq
          simp [CallbackLedger.settle, hheld, CellStatus.settle] at heq
      · refine Or.inl ⟨settle_eq_self fun kind called hheld => ?_, by rw [hat, htask]; simp [hstate]⟩
        rw [h.holders, hpoint] at hheld
        obtain ⟨-, -, task', htask', hdiscarding⟩ := hheld
        obtain rfl : task = task' := Option.some.inj (htask.symm.trans htask')
        exact hstate hdiscarding
  · intro i kind called
    exact iff_of_false (settle_ne_claimed i kind called) id
  · intro point heq _
    injection heq with heq
    injection heq with heq
    subst heq
    refine ⟨hteardown, fun i task' htask' => ?_⟩
    rw [hat, Option.map_eq_some_iff] at htask'
    obtain ⟨task, htask, rfl⟩ := htask'
    have hold := hallows i task htask
    by_cases hstate : task.lifecycleState = .discarding
    · simp [hstate, ResetPoint.allows, GpuTaskLifecycleState.finished]
    · simpa [hstate, ResetPoint.allows] using hold
  · intro point heq _
    exact h.alone hpoint rfl

end NwbLot.PacketRuntime
