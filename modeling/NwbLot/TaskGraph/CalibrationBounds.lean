import NwbLot.Library.Tallies
import NwbLot.TaskGraph.RouteDamping
import Mathlib.Algebra.Order.BigOperators.Group.List
import Mathlib.Algebra.Order.Ring.Nat

/-!
# Bounds on calibration

Runs of compiles and samples in which every probe of `FindTimingFeedbackCalibrationQueue` is
answered by a sample.  A probe goes to a legal route with the fewest samples, and the samples of the
routes, counted up to the minimum that the policy asks for, pay for all the probes.  The histories
must be able to hold that many samples.
-/

namespace NwbLot.TaskGraph

open Runs
open F64 (lt)

variable {F : Type}

/-! ## Samples that a store holds -/

namespace GpuTaskTimingHistoryStore

variable {store : GpuTaskTimingHistoryStore F} {key : GpuTaskTimingKey}
  {queue : GpuPhysicalQueueId}

/-- The samples of a key on a queue that the records hold. -/
def heldSamples (key : GpuTaskTimingKey) (queue : GpuPhysicalQueueId)
    (records : List (HistoryRecord F)) : ℕ :=
  ((records.find? fun record =>
    record.entry.key == key && record.entry.physicalQueue == queue).map (·.samples.length)).getD 0

/-- A record counts its samples, and there are no more than the window takes. -/
def SoundRecord (window : ℕ) (record : HistoryRecord F) : Prop :=
  record.entry.history.sampleCount = record.samples.length ∧ record.samples.length ≤ window

lemma noteAcceptedAssignment_histories (store : GpuTaskTimingHistoryStore F)
    (key : GpuTaskTimingKey) (queue : GpuPhysicalQueueId) (frameIndex : ℕ) :
    (store.noteAcceptedAssignment key queue frameIndex).1.histories = store.histories ∧
      (store.noteAcceptedAssignment key queue frameIndex).1.maximumSamplesPerHistory
        = store.maximumSamplesPerHistory := by
  have hopen : (store.openFor queue).histories = store.histories ∧
      (store.openFor queue).maximumSamplesPerHistory = store.maximumSamplesPerHistory := by
    rw [openFor]
    split <;> exact ⟨rfl, rfl⟩
  rw [noteAcceptedAssignment]
  split
  · exact ⟨rfl, rfl⟩
  · split
    · exact hopen
    · rw [noteChecked]
      split
      · exact hopen
      · split
        · exact hopen
        · split
          · exact hopen
          · exact hopen

section Samples

variable [F64 F]

lemma rebuildHistory_sampleCount (first : F) (samples : List F) :
    (rebuildHistory first samples).sampleCount = samples.length := by
  suffices hfold : ∀ start : GpuTaskTimingHistory F, (samples.foldl
      (fun history sampleSeconds =>
        let sampleCount := history.sampleCount + 1
        { averageSeconds := F64.add history.averageSeconds
            (F64.div (F64.sub sampleSeconds history.averageSeconds) (F64.ofU32 sampleCount))
          minimumSeconds :=
            if lt sampleSeconds history.minimumSeconds then sampleSeconds
            else history.minimumSeconds
          maximumSeconds :=
            if lt history.maximumSeconds sampleSeconds then sampleSeconds
            else history.maximumSeconds
          sampleCount }) start).sampleCount = start.sampleCount + samples.length from
    (hfold _).trans (Nat.zero_add _)
  induction samples with
  | nil => exact fun start => rfl
  | cons sample samples ih =>
    intro start
    rw [List.foldl_cons, ih, List.length_cons]
    dsimp only
    omega

variable {window : ℕ}

/-- A full record makes room for the new sample. -/
lemma length_push {record : HistoryRecord F} (hwindow : 0 < window)
    (hlength : record.samples.length ≤ window) (durationSeconds : F) :
    (HistoryRecord.push record window durationSeconds).samples.length
      = min (record.samples.length + 1) window := by
  show ((if record.samples.length = window then record.samples.tail else record.samples)
    ++ [durationSeconds]).length = _
  rw [List.length_append, List.length_singleton]
  split
  · rw [List.length_tail]
    omega
  · omega

lemma SoundRecord.push {record : HistoryRecord F} (hwindow : 0 < window)
    (hlength : record.samples.length ≤ window) (durationSeconds : F) :
    SoundRecord window (HistoryRecord.push record window durationSeconds) := by
  refine ⟨rebuildHistory_sampleCount _ _, ?_⟩
  rw [length_push hwindow hlength]
  exact Nat.min_le_right _ _

omit [F64 F] in
lemma heldSamples_cons (key : GpuTaskTimingKey) (queue : GpuPhysicalQueueId)
    (record : HistoryRecord F) (records : List (HistoryRecord F)) :
    heldSamples key queue (record :: records) =
      if record.entry.key = key ∧ record.entry.physicalQueue = queue then record.samples.length
      else heldSamples key queue records := by
  rw [heldSamples, List.find?_cons]
  by_cases h : record.entry.key = key ∧ record.entry.physicalQueue = queue
  · have hfound : (record.entry.key == key && record.entry.physicalQueue == queue) = true := by
      rw [Bool.and_eq_true, beq_iff_eq, beq_iff_eq]
      exact h
    rw [hfound, if_pos h]
    rfl
  · have hskip : (record.entry.key == key && record.entry.physicalQueue == queue) = false := by
      rw [Bool.and_eq_false_iff, beq_eq_false_iff_ne, beq_eq_false_iff_ne]
      exact not_and_or.1 h
    rw [hskip, if_neg h]
    rfl

/-- A sample adds one to its history, as long as the window has room. -/
lemma pushSample_spec (key : GpuTaskTimingKey) (queue : GpuPhysicalQueueId) (durationSeconds : F)
    (hwindow : 0 < window) {records : List (HistoryRecord F)}
    (hsound : ∀ record ∈ records, SoundRecord window record) :
    (∀ record ∈ pushSample key queue durationSeconds window records, SoundRecord window record) ∧
      ∀ otherKey other,
        heldSamples otherKey other (pushSample key queue durationSeconds window records) =
          if key = otherKey ∧ queue = other then min (heldSamples key queue records + 1) window
          else heldSamples otherKey other records := by
  induction records with
  | nil =>
    have hlength : (⟨⟨key, queue, rebuildHistory F64.zero []⟩, []⟩ : HistoryRecord F).samples.length
        ≤ window := Nat.zero_le _
    rw [pushSample]
    refine ⟨fun record hrecord => ?_, fun otherKey other => ?_⟩
    · rw [List.mem_singleton.1 hrecord]
      exact SoundRecord.push hwindow hlength durationSeconds
    · rw [heldSamples_cons, length_push hwindow hlength]
      rfl
  | cons record rest ih =>
    obtain ⟨hrecord, hrest⟩ := List.forall_mem_cons.1 hsound
    obtain ⟨hsoundRest, hheldRest⟩ := ih hrest
    rw [pushSample]
    split
    · next hsame =>
        refine ⟨List.forall_mem_cons.2 ⟨SoundRecord.push hwindow hrecord.2 durationSeconds, hrest⟩,
          fun otherKey other => ?_⟩
        rw [heldSamples_cons, heldSamples_cons, heldSamples_cons, if_pos hsame,
          length_push hwindow hrecord.2]
        show (if record.entry.key = otherKey ∧ record.entry.physicalQueue = other then _ else _) = _
        rw [hsame.1, hsame.2]
        split
        · rfl
        · rfl
    · next hother =>
        refine ⟨List.forall_mem_cons.2 ⟨hrecord, hsoundRest⟩, fun otherKey other => ?_⟩
        rw [heldSamples_cons, heldSamples_cons, heldSamples_cons, if_neg hother, hheldRest]
        by_cases hhere : record.entry.key = otherKey ∧ record.entry.physicalQueue = other
        · rw [if_pos hhere, if_neg]
          · rw [if_pos hhere]
          · rintro ⟨rfl, rfl⟩
            exact hother hhere
        · rw [if_neg hhere, if_neg hhere]

lemma recordSample_cases (store : GpuTaskTimingHistoryStore F) (key : GpuTaskTimingKey)
    (queue : GpuPhysicalQueueId) (durationSeconds : F) (frameIndex : ℕ) :
    (store.recordSample key queue durationSeconds frameIndex).1.maximumSamplesPerHistory
        = store.maximumSamplesPerHistory ∧
      ((store.recordSample key queue durationSeconds frameIndex).2 = false ∧
          (store.recordSample key queue durationSeconds frameIndex).1.histories = store.histories ∨
        (store.recordSample key queue durationSeconds frameIndex).2 = true ∧ key.valid = true ∧
          (store.recordSample key queue durationSeconds frameIndex).1.histories =
            pushSample key queue durationSeconds store.maximumSamplesPerHistory
              store.histories) := by
  obtain ⟨hhistories, hmaximum⟩ := noteAcceptedAssignment_histories store key queue frameIndex
  rw [recordSample]
  split
  · exact ⟨rfl, Or.inl ⟨rfl, rfl⟩⟩
  · dsimp only
    split
    · exact ⟨hmaximum, Or.inl ⟨rfl, hhistories⟩⟩
    · next hnoted =>
        refine ⟨hmaximum, Or.inr ⟨rfl, ?_, by rw [hhistories, hmaximum]⟩⟩
        rw [noteAcceptedAssignment] at hnoted
        split at hnoted
        · exact absurd rfl hnoted
        · next hvalid =>
            simp only [Bool.or_eq_true, Bool.not_eq_true', not_or, Bool.not_eq_false] at hvalid
            exact hvalid.1

end Samples

end GpuTaskTimingHistoryStore

open GpuTaskTimingHistoryStore

/-! ## The runs -/

/-- A task for which a compile asks for a timing route, with its static queue. -/
structure CalibrationFrame where
  task : GpuTaskGraphTaskView
  selected : GpuPhysicalQueueInfo
  frameIndex : ℕ

/-- What happens to the store, and the compiles in between. -/
inductive CalibrationEvent (F : Type)
  | note (key : GpuTaskTimingKey) (queue : GpuPhysicalQueueId) (sourceFrameIndex : ℕ)
  | sample (measured : TimingSample F)
  | compile (frame : CalibrationFrame)

/-- A queue that `FindTimingFeedbackCalibrationQueue` returned, with the samples that each queue
had received by then. -/
structure CalibrationChoice where
  queue : GpuPhysicalQueueInfo
  received : GpuPhysicalQueueId → ℕ

/-- The store, the samples of the key that it has taken for each queue, the probe that still awaits
its sample, and the probes so far. -/
structure CalibrationRun (F : Type) where
  store : GpuTaskTimingHistoryStore F
  received : GpuPhysicalQueueId → ℕ := fun _ => 0
  awaited : Option GpuPhysicalQueueId := none
  choices : List CalibrationChoice := []

section Calibration

variable [F64 F] (setup : TimingSetup F)

/-- The probe of a compile, which an override or a missing history rules out. -/
def calibrationQueue (store : GpuTaskTimingHistoryStore F) (frame : CalibrationFrame) :
    Option GpuPhysicalQueueInfo :=
  let timingKey := timingKeyOf frame.task frame.selected.queueClass
  match findGpuTaskTimingQueueOverride setup.overrides timingKey with
  | some _ => none
  | none =>
      (hasUsableTimingFeedback (compileOptions setup store frame.frameIndex)
        (topologyGeneration setup.topology)).bind fun (history, policy) =>
          findTimingFeedbackCalibrationQueue setup.topology frame.task frame.selected timingKey
            history policy frame.frameIndex

/-- One event.  A compile waits for the sample of the last probe. -/
def calibrationStep (key : GpuTaskTimingKey) (run : CalibrationRun F) :
    CalibrationEvent F → Option (CalibrationRun F)
  | .note noted queue sourceFrameIndex =>
      some { run with store := (run.store.noteAcceptedAssignment noted queue sourceFrameIndex).1 }
  | .sample measured =>
      let recorded := run.store.recordSample measured.key measured.queue measured.durationSeconds
        measured.sourceFrameIndex
      if recorded.2 = true ∧ measured.key = key then
        some
          { run with
            store := recorded.1
            received := Function.update run.received measured.queue (run.received measured.queue + 1)
            awaited := if run.awaited = some measured.queue then none else run.awaited }
      else some { run with store := recorded.1 }
  | .compile frame =>
      if run.awaited.isSome then none
      else
        match calibrationQueue setup run.store frame with
        | none => some run
        | some queue =>
            some
              { run with
                awaited := some queue.id
                choices := run.choices ++ [{ queue, received := run.received }] }

/-- The legal routes of a task. -/
def legalRoutes (topology : GpuTaskGraphQueueTopology) (frame : CalibrationFrame) :
    List GpuPhysicalQueueInfo :=
  topology.filter (isLegalTimingFeedbackRoute frame.task frame.selected)

/-- The compiles in question are of the task of the key, with its static queue among the routes. -/
def OnRoutes (key : GpuTaskTimingKey) (routes : List GpuPhysicalQueueInfo) (_ : CalibrationRun F) :
    CalibrationEvent F → Prop
  | .compile frame =>
      timingKeyOf frame.task frame.selected.queueClass = key ∧ frame.selected ∈ routes ∧
        legalRoutes setup.topology frame = routes
  | _ => True

/-! ## The probe -/

variable {frame : CalibrationFrame} {history : GpuTaskTimingHistorySnapshot F}
  {policy : GpuTaskTimingFeedbackPolicy F} {queue : GpuPhysicalQueueInfo}

omit [F64 F] in
/-- A probe goes to a route with the fewest samples, and these are too few. -/
lemma findTimingFeedbackCalibrationQueue_least {topology : GpuTaskGraphQueueTopology}
    {key : GpuTaskTimingKey} (hselected : frame.selected ∈ legalRoutes topology frame)
    (h : findTimingFeedbackCalibrationQueue topology frame.task frame.selected key history policy
      frame.frameIndex = some queue) :
    queue ∈ legalRoutes topology frame ∧
      sampleCountFor key history queue < policy.minimumSampleCount ∧
      ∀ route ∈ legalRoutes topology frame,
        sampleCountFor key history queue ≤ sampleCountFor key history route := by
  simp only [findTimingFeedbackCalibrationQueue] at h
  split at h
  · cases h
  · generalize hneeded : topology.filter (fun candidate =>
      candidate.id != frame.selected.id
        && isLegalTimingFeedbackRoute frame.task frame.selected candidate
        && decide (sampleCountFor key history candidate < policy.minimumSampleCount)) = needed at h
    have hmemNeeded : ∀ candidate, candidate ∈ needed ↔ candidate ∈ topology ∧
        candidate.id ≠ frame.selected.id ∧
        isLegalTimingFeedbackRoute frame.task frame.selected candidate = true ∧
        sampleCountFor key history candidate < policy.minimumSampleCount := by
      intro candidate
      rw [← hneeded, List.mem_filter]
      simp only [Bool.and_eq_true, bne_iff_ne, decide_eq_true_eq, and_assoc]
    split at h
    · next hshort =>
        obtain ⟨hmem, hleast⟩ : queue ∈ frame.selected :: needed ∧
            ∀ route ∈ frame.selected :: needed,
              sampleCountFor key history queue ≤ sampleCountFor key history route := by
          rw [← Option.some.inj h]
          refine Tallies.foldl_least (sampleCountFor key history) (fun best route => ?_)
            (fun best route => ?_) needed frame.selected
          · split
            · exact Or.inr rfl
            · exact Or.inl rfl
          · split <;> constructor <;> omega
        have hfew : sampleCountFor key history queue < policy.minimumSampleCount := by
          rcases hshort with hselectedFew | hne
          · exact (hleast _ List.mem_cons_self).trans_lt hselectedFew
          · obtain ⟨candidate, others, hcons⟩ := List.exists_cons_of_ne_nil hne
            have hcandidate : candidate ∈ needed := hcons ▸ List.mem_cons_self
            exact (hleast _ (List.mem_cons_of_mem _ hcandidate)).trans_lt
              ((hmemNeeded candidate).1 hcandidate).2.2.2
        refine ⟨?_, hfew, fun route hroute => ?_⟩
        · rcases List.mem_cons.1 hmem with rfl | hmem
          · exact hselected
          · obtain ⟨htopology, -, hlegal, -⟩ := (hmemNeeded queue).1 hmem
            exact List.mem_filter.2 ⟨htopology, hlegal⟩
        · obtain ⟨htopology, hlegal⟩ := List.mem_filter.1 hroute
          by_cases hself : route.id = frame.selected.id
          · -- a count is of the id
            have hsame : sampleCountFor key history route
                = sampleCountFor key history frame.selected := by
              rw [sampleCountFor, sampleCountFor, hself]
            rw [hsame]
            exact hleast _ List.mem_cons_self
          · by_cases hrouteFew : sampleCountFor key history route < policy.minimumSampleCount
            · exact hleast _ (List.mem_cons_of_mem _
                ((hmemNeeded route).2 ⟨htopology, hself, hlegal, hrouteFew⟩))
            · exact hfew.le.trans (Nat.le_of_not_lt hrouteFew)
    · cases h

/-! ## What a compile reads -/

/-- A compile with a usable history counts the samples that the records of the store hold. -/
lemma sampleCountFor_eq {store : GpuTaskTimingHistoryStore F} {frameIndex : ℕ} {window : ℕ}
    {key : GpuTaskTimingKey} (htopology : isValidQueueTopology setup.topology = true)
    (hqueue : queue ∈ setup.topology)
    (hsound : ∀ record ∈ store.histories, SoundRecord window record) (hkey : key.valid = true)
    (husable : hasUsableTimingFeedback (compileOptions setup store frameIndex)
      (topologyGeneration setup.topology) = some (history, policy)) :
    sampleCountFor key history queue = heldSamples key queue.id store.histories := by
  obtain ⟨hhistory, -, hdevice⟩ := usable_cases husable
  have hopen : store.deviceGeneration ≠ 0 := by
    intro hclosed
    simp [hasUsableTimingFeedback, compileOptions, snapshot, hclosed] at husable
  obtain ⟨hvalid, hgeneration⟩ := valid_of_isValidQueueTopology htopology hqueue
  have hfind : history.find key queue.id =
      (store.histories.find? fun record =>
        record.entry.key == key && record.entry.physicalQueue == queue.id).map
          fun record => record.entry.history := by
    rw [hhistory, snapshot, if_neg hopen, GpuTaskTimingHistorySnapshot.find]
    dsimp only
    rw [hkey, hvalid, hgeneration, hdevice hopen, List.find?_map, Option.map_map]
    simp [Function.comp_def]
  rw [sampleCountFor, hfind, heldSamples]
  cases hrecord : store.histories.find? fun record =>
      record.entry.key == key && record.entry.physicalQueue == queue.id with
  | none => rfl
  | some record => exact (hsound record (List.mem_of_find?_eq_some hrecord)).1

/-- What a probe knows of its queue. -/
def LeastSampled (minimumSampleCount : ℕ) (routes : List GpuPhysicalQueueInfo)
    (choice : CalibrationChoice) : Prop :=
  choice.queue ∈ routes ∧ choice.received choice.queue.id < minimumSampleCount ∧
    ∀ route ∈ routes, choice.received choice.queue.id ≤ choice.received route.id

/-! ## The invariant -/

/-- The samples that count towards the minimum. -/
def usefulSamples (minimumSampleCount : ℕ) (routes : List GpuPhysicalQueueInfo)
    (received : GpuPhysicalQueueId → ℕ) : ℕ :=
  (routes.map fun route => min (received route.id) minimumSampleCount).sum

/-- What every run up to a frame satisfies. -/
structure CalibrationInv (key : GpuTaskTimingKey) (routes : List GpuPhysicalQueueInfo)
    (window : ℕ) (run : CalibrationRun F) : Prop where
  window_eq : run.store.maximumSamplesPerHistory = window
  sound : ∀ record ∈ run.store.histories, SoundRecord window record
  held : ∀ queue, heldSamples key queue run.store.histories = min (run.received queue) window
  unnamed : key.valid = false → ∀ queue, run.received queue = 0
  paid : run.choices.length ≤ usefulSamples setup.policy.minimumSampleCount routes run.received
    + if run.awaited.isSome then 1 else 0
  awaited : ∀ queue, run.awaited = some queue → ∃ route ∈ routes, route.id = queue ∧
    run.received queue < setup.policy.minimumSampleCount
  least : ∀ choice ∈ run.choices,
    LeastSampled setup.policy.minimumSampleCount routes choice

variable {setup} {key : GpuTaskTimingKey} {routes : List GpuPhysicalQueueInfo} {window : ℕ}
  {run next : CalibrationRun F}

omit [F64 F] in
lemma calibrationInv_start (maximumSamplesPerHistory : ℕ) :
    CalibrationInv setup key routes
      (GpuTaskTimingHistoryStore.create maximumSamplesPerHistory :
        GpuTaskTimingHistoryStore F).maximumSamplesPerHistory
      { store := GpuTaskTimingHistoryStore.create maximumSamplesPerHistory } where
  window_eq := rfl
  sound := fun _ hrecord => absurd hrecord List.not_mem_nil
  held := fun _ => (Nat.zero_min _).symm
  unnamed := fun _ _ => rfl
  paid := Nat.zero_le _
  awaited := fun _ hawaited => nomatch hawaited
  least := fun _ hchoice => absurd hchoice List.not_mem_nil

variable {minimumSampleCount : ℕ} {received' : GpuPhysicalQueueId → ℕ}

/-- More samples are not less useful. -/
lemma usefulSamples_mono {received : GpuPhysicalQueueId → ℕ}
    (h : ∀ queue, received queue ≤ received' queue) :
    usefulSamples minimumSampleCount routes received
      ≤ usefulSamples minimumSampleCount routes received' :=
  List.sum_le_sum fun route _ => min_le_min_right _ (h route.id)

/-- A sample of a route that has too few is useful. -/
lemma usefulSamples_lt {received : GpuPhysicalQueueId → ℕ}
    (h : ∀ queue, received queue ≤ received' queue) {route : GpuPhysicalQueueInfo}
    (hroute : route ∈ routes) (hfew : received route.id < minimumSampleCount)
    (hmore : received route.id < received' route.id) :
    usefulSamples minimumSampleCount routes received
      < usefulSamples minimumSampleCount routes received' := by
  have hgrows : min (received route.id) minimumSampleCount
      < min (received' route.id) minimumSampleCount := by omega
  exact List.sum_lt_sum _ _ (fun other _ => min_le_min_right _ (h other.id))
    ⟨route, hroute, hgrows⟩

lemma usefulSamples_le (minimumSampleCount : ℕ) (received : GpuPhysicalQueueId → ℕ) :
    usefulSamples minimumSampleCount routes received ≤ routes.length * minimumSampleCount := by
  have hle := List.sum_le_card_nsmul
    (routes.map fun route => min (received route.id) minimumSampleCount) minimumSampleCount
    fun count hcount => by
      obtain ⟨route, -, rfl⟩ := List.mem_map.1 hcount
      exact Nat.min_le_right _ _
  rwa [List.length_map, nsmul_eq_mul, Nat.cast_id] at hle

omit [F64 F] in
lemma sampleCountFor_of_invalid (h : key.valid = false) (history : GpuTaskTimingHistorySnapshot F)
    (queue : GpuPhysicalQueueInfo) : sampleCountFor key history queue = 0 := by
  rw [sampleCountFor, GpuTaskTimingHistorySnapshot.find, h]
  simp

/-- A probe goes to a route that has received the fewest samples so far. -/
lemma CalibrationInv.leastSampled (h : CalibrationInv setup key routes window run)
    (htopology : isValidQueueTopology setup.topology = true)
    (hwindow : setup.policy.minimumSampleCount ≤ window)
    (hadmitted : OnRoutes setup key routes run (.compile frame))
    (hprobe : calibrationQueue setup run.store frame = some queue) :
    LeastSampled setup.policy.minimumSampleCount routes
      { queue, received := run.received } := by
  obtain ⟨hkey, hselected, hroutes⟩ := hadmitted
  simp only [calibrationQueue, hkey] at hprobe
  split at hprobe
  · cases hprobe
  · obtain ⟨⟨history, policy⟩, husable, hprobe⟩ := Option.bind_eq_some_iff.1 hprobe
    obtain ⟨-, rfl, -⟩ := usable_cases husable
    dsimp only at hprobe
    have hcount : ∀ route ∈ routes,
        sampleCountFor key history route = min (run.received route.id) window := by
      intro route hroute
      cases hvalid : key.valid with
      | true =>
        have hmem : route ∈ setup.topology := List.mem_of_mem_filter (hroutes ▸ hroute)
        rw [sampleCountFor_eq setup htopology hmem h.sound hvalid husable, h.held]
      | false => rw [sampleCountFor_of_invalid hvalid, h.unnamed hvalid, Nat.zero_min]
    obtain ⟨hqueue, hfew, hleast⟩ := findTimingFeedbackCalibrationQueue_least
      (hroutes.symm ▸ hselected) hprobe
    rw [hroutes] at hqueue hleast
    have hqueueCount := hcount queue hqueue
    refine ⟨hqueue, ?_, fun route hroute => ?_⟩
    · show run.received queue.id < _
      omega
    · have hle := hleast route hroute
      have hrouteCount := hcount route hroute
      show run.received queue.id ≤ run.received route.id
      omega

lemma CalibrationInv.compile (h : CalibrationInv setup key routes window run)
    (htopology : isValidQueueTopology setup.topology = true)
    (hwindow : setup.policy.minimumSampleCount ≤ window)
    (hadmitted : OnRoutes setup key routes run (.compile frame))
    (hstep : calibrationStep setup key run (.compile frame) = some next) :
    CalibrationInv setup key routes window next := by
  simp only [calibrationStep] at hstep
  split at hstep
  · cases hstep
  · next hnone =>
      have hawaited : run.awaited = none := Option.not_isSome_iff_eq_none.1 hnone
      split at hstep
      · obtain rfl := Option.some.inj hstep
        exact h
      · next queue hprobe =>
          obtain rfl := Option.some.inj hstep
          have hleast := h.leastSampled htopology hwindow hadmitted hprobe
          refine
            { window_eq := h.window_eq
              sound := h.sound
              held := h.held
              unnamed := h.unnamed
              paid := ?_
              awaited := ?_
              least := ?_ }
          · have hpaid := h.paid
            rw [hawaited] at hpaid
            rw [List.length_append, List.length_singleton]
            exact Nat.succ_le_succ hpaid
          · intro other hother
            obtain rfl := Option.some.inj hother
            exact ⟨queue, hleast.1, rfl, hleast.2.1⟩
          · intro choice hchoice
            rcases List.mem_append.1 hchoice with hchoice | hchoice
            · exact h.least choice hchoice
            · rw [List.mem_singleton.1 hchoice]
              exact hleast

omit [F64 F] in
lemma CalibrationInv.note (h : CalibrationInv setup key routes window run)
    (noted : GpuTaskTimingKey) (queue : GpuPhysicalQueueId) (sourceFrameIndex : ℕ) :
    CalibrationInv setup key routes window
      { run with store := (run.store.noteAcceptedAssignment noted queue sourceFrameIndex).1 } := by
  obtain ⟨hhistories, hmaximum⟩ :=
    noteAcceptedAssignment_histories run.store noted queue sourceFrameIndex
  exact
    { window_eq := hmaximum.trans h.window_eq
      sound := by
        rw [hhistories]
        exact h.sound
      held := by
        rw [hhistories]
        exact h.held
      unnamed := h.unnamed
      paid := h.paid
      awaited := h.awaited
      least := h.least }

omit [F64 F] in
/-- A sample of the awaited queue pays for the probe. -/
lemma CalibrationInv.paid_sample (h : CalibrationInv setup key routes window run)
    (queue : GpuPhysicalQueueId) :
    run.choices.length ≤ usefulSamples setup.policy.minimumSampleCount routes
        (Function.update run.received queue (run.received queue + 1))
      + if (if run.awaited = some queue then none else run.awaited).isSome then 1 else 0 := by
  have hpaid := h.paid
  have hmore : ∀ other,
      run.received other ≤ Function.update run.received queue (run.received queue + 1) other := by
    intro other
    rw [Function.update_apply]
    split
    · next heq =>
        rw [heq]
        exact Nat.le_succ _
    · exact Nat.le_refl _
  by_cases hawaited : run.awaited = some queue
  · obtain ⟨route, hroute, hid, hfew⟩ := h.awaited queue hawaited
    have hself : run.received route.id
        < Function.update run.received queue (run.received queue + 1) route.id := by
      rw [hid, Function.update_self]
      exact Nat.lt_succ_self _
    have hlt := usefulSamples_lt hmore hroute (hid.symm ▸ hfew) hself
    rw [if_pos hawaited]
    rw [hawaited] at hpaid
    simp only [Option.isSome_some, if_true] at hpaid
    omega
  · rw [if_neg hawaited]
    exact hpaid.trans (Nat.add_le_add_right (usefulSamples_mono hmore) _)

lemma CalibrationInv.sample (h : CalibrationInv setup key routes window run) (hpos : 0 < window)
    {measured : TimingSample F}
    (hstep : calibrationStep setup key run (.sample measured) = some next) :
    CalibrationInv setup key routes window next := by
  obtain ⟨hmaximum, hrecorded⟩ := recordSample_cases run.store measured.key measured.queue
    measured.durationSeconds measured.sourceFrameIndex
  simp only [calibrationStep] at hstep
  rcases hrecorded with ⟨hrefused, hhistories⟩ | ⟨htaken, hvalid, hhistories⟩
  · rw [hrefused, if_neg (by simp)] at hstep
    obtain rfl := Option.some.inj hstep
    exact
      { window_eq := hmaximum.trans h.window_eq
        sound := by
          rw [hhistories]
          exact h.sound
        held := by
          rw [hhistories]
          exact h.held
        unnamed := h.unnamed
        paid := h.paid
        awaited := h.awaited
        least := h.least }
  · obtain ⟨hsound, hheld⟩ := pushSample_spec measured.key measured.queue measured.durationSeconds
      hpos h.sound
    rw [h.window_eq] at hhistories
    rw [htaken] at hstep
    by_cases hkey : measured.key = key
    · rw [if_pos ⟨rfl, hkey⟩] at hstep
      obtain rfl := Option.some.inj hstep
      subst hkey
      refine
        { window_eq := hmaximum.trans h.window_eq
          sound := by
            rw [hhistories]
            exact hsound
          held := ?_
          unnamed := fun hinvalid => absurd (hvalid.symm.trans hinvalid) (by decide)
          paid := h.paid_sample measured.queue
          awaited := ?_
          least := h.least }
      · intro queue
        rw [hhistories, hheld, h.held, h.held]
        show _ = min (Function.update run.received measured.queue
          (run.received measured.queue + 1) queue) window
        rw [Function.update_apply]
        by_cases hqueue : queue = measured.queue
        · subst hqueue
          rw [if_pos ⟨rfl, rfl⟩, if_pos rfl]
          omega
        · rw [if_neg fun hboth => hqueue hboth.2.symm, if_neg hqueue]
      · intro queue hawaited
        have hother : run.awaited ≠ some measured.queue := by
          intro heq
          rw [if_pos heq] at hawaited
          exact nomatch hawaited
        rw [if_neg hother] at hawaited
        obtain ⟨route, hroute, hid, hfew⟩ := h.awaited queue hawaited
        refine ⟨route, hroute, hid, ?_⟩
        show Function.update run.received measured.queue _ queue < _
        rw [Function.update_of_ne]
        · exact hfew
        · rintro rfl
          exact hother hawaited
    · rw [if_neg fun hboth => hkey hboth.2] at hstep
      obtain rfl := Option.some.inj hstep
      exact
        { window_eq := hmaximum.trans h.window_eq
          sound := by
            rw [hhistories]
            exact hsound
          held := by
            intro queue
            rw [hhistories, hheld, if_neg fun hboth => hkey hboth.1]
            exact h.held queue
          unnamed := h.unnamed
          paid := h.paid
          awaited := h.awaited
          least := h.least }

/-! ## The bound -/

/-- When the histories hold the samples that the policy asks for, every probe goes to a legal route
with too few samples and the fewest of all, there are no more probes than missing samples, and none
once nothing is missing. -/
theorem calibration_bounded {maximumSamplesPerHistory : ℕ}
    (htopology : isValidQueueTopology setup.topology = true)
    (hwindow : setup.policy.minimumSampleCount ≤
      (create maximumSamplesPerHistory : GpuTaskTimingHistoryStore F).maximumSamplesPerHistory)
    {events : List (CalibrationEvent F)}
    (hrun : Run (calibrationStep setup key) (OnRoutes setup key routes)
      { store := create maximumSamplesPerHistory } events run) :
    (∀ choice ∈ run.choices, LeastSampled setup.policy.minimumSampleCount routes choice) ∧
      run.choices.length ≤ routes.length * setup.policy.minimumSampleCount ∧
      ∀ frame, OnRoutes setup key routes run (.compile frame) →
        (∀ route ∈ routes, setup.policy.minimumSampleCount ≤ run.received route.id) →
          calibrationQueue setup run.store frame = none := by
  have hpos : 0 < (create maximumSamplesPerHistory :
      GpuTaskTimingHistoryStore F).maximumSamplesPerHistory := by
    rw [create]
    dsimp only
    split
    · exact Nat.one_pos
    · next hne => exact Nat.pos_of_ne_zero hne
  have hinv : CalibrationInv setup key routes _ run :=
    hrun.invariant (calibrationInv_start maximumSamplesPerHistory) fun t event u hadmitted hstep h => by
      cases event with
      | note noted queue sourceFrameIndex =>
        obtain rfl := Option.some.inj hstep
        exact h.note noted queue sourceFrameIndex
      | sample measured => exact h.sample hpos hstep
      | compile frame => exact h.compile htopology hwindow hadmitted hstep
  refine ⟨hinv.least, ?_, fun frame hframe henough => ?_⟩
  · have hpaid := hinv.paid
    cases hawaited : run.awaited with
    | none =>
      rw [hawaited] at hpaid
      exact hpaid.trans (usefulSamples_le _ _)
    | some queue =>
      -- the awaited sample is one of the missing ones
      rw [hawaited] at hpaid
      obtain ⟨route, hroute, hid, hfew⟩ := hinv.awaited queue hawaited
      have hlt : usefulSamples setup.policy.minimumSampleCount routes run.received
          < usefulSamples setup.policy.minimumSampleCount routes
            (fun other => run.received other + 1) :=
        usefulSamples_lt (fun _ => Nat.le_succ _) hroute (hid.symm ▸ hfew) (Nat.lt_succ_self _)
      exact hpaid.trans (hlt.trans_le (usefulSamples_le _ _))
  · cases hprobe : calibrationQueue setup run.store frame with
    | none => rfl
    | some queue =>
      obtain ⟨hmem, hfew, -⟩ := hinv.leastSampled htopology hwindow hframe hprobe
      have henoughQueue := henough queue hmem
      have hfew : run.received queue.id < setup.policy.minimumSampleCount := hfew
      omega

end Calibration

/-! ## A history that is too short -/

/-- Calibration in every frame until each route has two samples. -/
def twoSampleSetup : TimingSetup ℚ where
  topology := twoGraphicsQueues
  overrides := []
  policy :=
    { enabled := true
      minimumSampleCount := 2
      calibrationIntervalFrames := 1
      minimumAbsoluteBenefitSeconds := 0
      minimumRelativeBenefit := 0
      minimumFramesBetweenSwitches := 30 }

/-- A sample of the measured task. -/
def sampleOn (index sourceFrameIndex : ℕ) : CalibrationEvent ℚ :=
  .sample
    { key := { task := 1 }
      queue := ⟨index, 1⟩
      durationSeconds := 1
      sourceFrameIndex := sourceFrameIndex }

/-- A compile of the measured task. -/
def compileAt (frameIndex : ℕ) : CalibrationEvent ℚ :=
  .compile
    { task := measuredTaskGraph.taskAt 0
      selected := primaryGraphicsQueue
      frameIndex := frameIndex }

instance (routes : List GpuPhysicalQueueInfo) (run : CalibrationRun ℚ)
    (event : CalibrationEvent ℚ) :
    Decidable (OnRoutes twoSampleSetup { task := 1 } routes run event) :=
  match event with
  | .note _ _ _ => inferInstanceAs (Decidable True)
  | .sample _ => inferInstanceAs (Decidable True)
  | .compile _ => inferInstanceAs (Decidable (_ ∧ _ ∧ _))

/-- Runs of the measured task can be computed. -/
lemma calibrationRun (window : ℕ) (events : List (CalibrationEvent ℚ)) (choices : ℕ)
    (h : (after (calibrationStep twoSampleSetup { task := 1 })
      (fun run event => decide (OnRoutes twoSampleSetup { task := 1 } twoGraphicsQueues run event))
      { store := create window } events).map (·.choices.length) = some choices) :
    ∃ run, Run (calibrationStep twoSampleSetup { task := 1 })
        (OnRoutes twoSampleSetup { task := 1 } twoGraphicsQueues) { store := create window } events
        run ∧ run.choices.length = choices := by
  obtain ⟨run, hrun, hchoices⟩ := Option.map_eq_some_iff.1 h
  exact ⟨run, run_of_after (fun _ _ hchecked => of_decide_eq_true hchecked) hrun, hchoices⟩

theorem calibration_bounded_twoSamples :
    ∃ run, Run (calibrationStep twoSampleSetup { task := 1 })
        (OnRoutes twoSampleSetup { task := 1 } twoGraphicsQueues) { store := create 32 }
        [sampleOn 0 1, compileAt 2, sampleOn 1 2, compileAt 3, sampleOn 0 3] run ∧
      run.choices.length ≤ twoGraphicsQueues.length * 2 := by
  obtain ⟨run, hrun, -⟩ := calibrationRun 32
    [sampleOn 0 1, compileAt 2, sampleOn 1 2, compileAt 3, sampleOn 0 3] 2 (by decide +kernel)
  have hbounded := calibration_bounded (by decide) (by decide) hrun
  exact ⟨run, hrun, hbounded.2.1⟩

/-- A store that keeps one sample per history never has the two that the policy asks for: five
probes for two routes, and more to come. -/
theorem calibration_exceeds_shortHistory :
    twoSampleSetup.policy.valid = true ∧ isValidQueueTopology twoSampleSetup.topology = true ∧
      ∃ run, Run (calibrationStep twoSampleSetup { task := 1 })
          (OnRoutes twoSampleSetup { task := 1 } twoGraphicsQueues) { store := create 1 }
          [sampleOn 0 1, compileAt 2, sampleOn 1 2, compileAt 3, sampleOn 0 3, compileAt 4,
            sampleOn 0 4, compileAt 5, sampleOn 0 5, compileAt 6, sampleOn 0 6] run ∧
        ¬run.choices.length ≤
          twoGraphicsQueues.length * twoSampleSetup.policy.minimumSampleCount := by
  refine ⟨by decide +kernel, by decide, ?_⟩
  obtain ⟨run, hrun, hchoices⟩ := calibrationRun 1
    [sampleOn 0 1, compileAt 2, sampleOn 1 2, compileAt 3, sampleOn 0 3, compileAt 4,
      sampleOn 0 4, compileAt 5, sampleOn 0 5, compileAt 6, sampleOn 0 6] 5 (by decide +kernel)
  refine ⟨run, hrun, ?_⟩
  rw [hchoices]
  decide

end NwbLot.TaskGraph
