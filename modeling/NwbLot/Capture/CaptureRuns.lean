import NwbLot.Capture.WireFormat

/-!
# Runs of a capture

What the stream holds after any sequence of calls, and what capturing the records of a stream
again produces.

A history carries the accepted calls that were not rolled back; after every event the capture is
`Sound` and holds exactly their records.
-/

namespace NwbLot.Capture

/-! ## Sequences of calls -/

/-- A call on a capture; `allocated` says whether its allocations succeed. -/
inductive CaptureEvent
  | capture (allocated : Bool) (call : CaptureCall)
  | rollback (recordCount : ℕ)
  | reset
  | beginRecordingAttempt (recordingAttemptGeneration : UInt64)
  deriving DecidableEq, Repr

/-- A capture with the calls that it has accepted and not rolled back. -/
structure CaptureHistory where
  capture : GpuCommandIrCapture
  accepted : List CaptureCall
  deriving DecidableEq, Repr

namespace CaptureHistory

/-- Nothing is captured. -/
def initial : CaptureHistory := ⟨.initial, []⟩

/-- A call that is accepted joins the history, and a rollback takes calls back. -/
def step (history : CaptureHistory) : CaptureEvent → CaptureHistory
  | .capture allocated call =>
    { capture := (history.capture.capture allocated call).2
      accepted :=
        if (history.capture.capture allocated call).1 then history.accepted ++ [call]
        else history.accepted }
  | .rollback recordCount =>
    { capture := history.capture.rollback recordCount
      accepted :=
        if recordCount ≤ history.accepted.length then history.accepted.take recordCount
        else history.accepted }
  | .reset => { capture := history.capture.reset, accepted := [] }
  | .beginRecordingAttempt generation =>
    { history with capture := (history.capture.beginRecordingAttempt generation).2 }

/-- The history after a list of events. -/
def run (events : List CaptureEvent) : CaptureHistory := events.foldl step initial

/-- The capture holds the accepted calls. -/
structure Sound (history : CaptureHistory) : Prop where
  capture : history.capture.Sound
  records_eq : history.capture.records = history.accepted.map CaptureCall.record

lemma Sound.step {history : CaptureHistory} (h : history.Sound) (event : CaptureEvent) :
    (history.step event).Sound := by
  classical
  obtain ⟨hsound, hrecords⟩ := h
  cases event with
  | capture allocated call =>
    have happend := hsound.append_eq allocated call.record
    by_cases hadmits : GpuCommandIrCapture.Admits history.capture call.record ∧ allocated = true
    · rw [if_pos hadmits] at happend
      obtain ⟨hextended, hrecords'⟩ := hsound.extended hadmits.1
      have hstep : history.step (.capture allocated call) =
          ⟨history.capture.extended call.record, history.accepted ++ [call]⟩ := by
        simp only [CaptureHistory.step, GpuCommandIrCapture.capture, happend, if_true]
      rw [hstep]
      refine ⟨hextended, ?_⟩
      rw [hrecords', hrecords, List.map_append, List.map_singleton]
    · rw [if_neg hadmits] at happend
      have hstep : history.step (.capture allocated call) = history := by
        simp only [CaptureHistory.step, GpuCommandIrCapture.capture, happend, Bool.false_eq_true,
          if_false]
      rw [hstep]
      exact ⟨hsound, hrecords⟩
  | rollback recordCount =>
    have hlength : history.accepted.length = history.capture.records.length := by
      rw [hrecords, List.length_map]
    simp only [CaptureHistory.step]
    by_cases hcount : recordCount ≤ history.capture.records.length
    · obtain ⟨hrolled, hrecords'⟩ := hsound.rollback hcount
      rw [if_pos (hlength ▸ hcount)]
      refine ⟨hrolled, ?_⟩
      rw [hrecords', hrecords, List.map_take]
    · rw [if_neg (hlength ▸ hcount), GpuCommandIrCapture.rollback, if_pos (Nat.lt_of_not_le hcount)]
      exact ⟨hsound, hrecords⟩
  | reset =>
    obtain ⟨hreset, hrecords'⟩ := hsound.reset
    exact ⟨hreset, hrecords'⟩
  | beginRecordingAttempt generation =>
    refine ⟨hsound.beginRecordingAttempt generation, ?_⟩
    simp only [CaptureHistory.step, GpuCommandIrCapture.beginRecordingAttempt]
    split
    · exact hrecords
    · split <;> exact hrecords

lemma sound_run (events : List CaptureEvent) : (run events).Sound := by
  induction events using List.reverseRecOn with
  | nil => exact ⟨GpuCommandIrCapture.Sound.initial, rfl⟩
  | append_singleton events event ih =>
    rw [run, List.foldl_append]
    exact ih.step event

end CaptureHistory

/-- Capturing one call after another, with allocations that succeed. -/
def captureAll : GpuCommandIrCapture → List CaptureCall → Bool × GpuCommandIrCapture
  | capture, [] => (true, capture)
  | capture, call :: calls =>
    let next := capture.capture true call
    let rest := captureAll next.2 calls
    (next.1 && rest.1, rest.2)

/-- Valid calls of one graph and plan that fit the address space are all accepted. -/
lemma captureAll_eq {capture : GpuCommandIrCapture} {calls : List CaptureCall}
    {graphGeneration planGeneration : UInt64} (h : capture.Sound)
    (hcalls : ∀ call ∈ calls, validateBuiltinRecord call.record = true ∧
      call.record.task.generation = graphGeneration ∧
      call.record.packet.generation = planGeneration)
    (hgraph : capture.graphGeneration = 0 ∨ capture.graphGeneration = graphGeneration)
    (hplan : capture.planGeneration = 0 ∨ capture.planGeneration = planGeneration)
    (hfits : capture.commandBytes.length +
      (bodyBytes (calls.map CaptureCall.record)).length < 2 ^ 64) :
    ∃ capture', captureAll capture calls = (true, capture') ∧ capture'.Sound ∧
      capture'.records = capture.records ++ calls.map CaptureCall.record := by
  classical
  induction calls generalizing capture with
  | nil => exact ⟨capture, rfl, h, (List.append_nil _).symm⟩
  | cons call calls ih =>
    obtain ⟨hvalid, hgraph', hplan'⟩ := hcalls call List.mem_cons_self
    rw [List.map_cons, bodyBytes_cons, List.length_append] at hfits
    have hadmits : GpuCommandIrCapture.Admits capture call.record :=
      ⟨hvalid, hgraph'.symm ▸ hgraph, hplan'.symm ▸ hplan, by omega⟩
    obtain ⟨hsound, hrecords⟩ := h.extended hadmits
    have hnext : capture.capture true call = (true, capture.extended call.record) := by
      rw [GpuCommandIrCapture.capture, h.append_eq, if_pos ⟨hadmits, rfl⟩]
    have hlength : (capture.extended call.record).commandBytes.length =
        capture.commandBytes.length + (encodeRecord call.record).bytes.length := by
      rw [hsound.bytes_eq, hrecords, h.bytes_eq, length_streamBytes, length_streamBytes,
        bodyBytes_append, bodyBytes_singleton, List.length_append, Nat.add_assoc]
    have hmem : call.record ∈ (capture.extended call.record).records := by
      rw [hrecords]
      exact List.mem_append_right _ (List.mem_singleton_self _)
    obtain ⟨-, hgraphNext, hplanNext⟩ := hsound.validated _ hmem
    obtain ⟨capture', hrest, hsound', hrecords'⟩ := ih hsound
      (fun other hother => hcalls other (List.mem_cons_of_mem _ hother))
      (Or.inr (hgraphNext.symm.trans hgraph')) (Or.inr (hplanNext.symm.trans hplan'))
      (by rw [hlength]; omega)
    refine ⟨capture', ?_, hsound', ?_⟩
    · simp only [captureAll, hnext, hrest, Bool.and_true]
    · rw [hrecords', hrecords, List.append_assoc, List.map_cons]
      rfl

/-- Capturing into a new capture. -/
lemma captureAll_initial {calls : List CaptureCall} {graphGeneration planGeneration : UInt64}
    (hcalls : ∀ call ∈ calls, validateBuiltinRecord call.record = true ∧
      call.record.task.generation = graphGeneration ∧
      call.record.packet.generation = planGeneration)
    (hfits : (streamBytes (calls.map CaptureCall.record)).length < 2 ^ 64) :
    (captureAll .initial calls).1 = true ∧
      (captureAll .initial calls).2.commandBytes = streamBytes (calls.map CaptureCall.record) := by
  have hlength : GpuCommandIrCapture.initial.commandBytes.length = streamHeaderCodec.size := by
    decide
  rw [length_streamBytes] at hfits
  obtain ⟨capture, hcapture, hsound, hrecords⟩ := captureAll_eq GpuCommandIrCapture.Sound.initial
    hcalls (Or.inl rfl) (Or.inl rfl) (by rw [hlength]; exact hfits)
  rw [hcapture]
  exact ⟨rfl, hsound.bytes_eq.trans (congrArg streamBytes hrecords)⟩

/-- A call that is rejected leaves the capture as it was. -/
lemma append_of_rejected {capture : GpuCommandIrCapture} {allocated : Bool}
    {record : GpuCommandIrBuiltinTaskRecord} (h : (capture.append allocated record).1 = false) :
    (capture.append allocated record).2 = capture := by
  unfold GpuCommandIrCapture.append at h ⊢
  split
  · rfl
  next hvalid =>
  split
  · rfl
  next hgraph =>
  split
  · rfl
  next hplan =>
  split
  · rfl
  next hallocated =>
  rw [if_neg hvalid, if_neg hgraph, if_neg hplan, if_neg hallocated] at h
  split
  · rfl
  next commandBytes heq =>
  rw [heq] at h
  cases h

/-- Capturing decoded tasks again encodes the same stream. -/
lemma streamBytes_recapture (records : List GpuCommandIrBuiltinTaskRecord) :
    streamBytes ((records.map recapture).map CaptureCall.record) = streamBytes records := by
  have hbody : bodyBytes ((records.map recapture).map CaptureCall.record) = bodyBytes records := by
    rw [List.map_map, bodyBytes, List.flatMap_map]
    exact List.flatMap_congr fun record _ => congrArg WireRecord.bytes (encodeRecord_recapture record)
  have hgenerations :
      graphGenerationOf ((records.map recapture).map CaptureCall.record) = graphGenerationOf records ∧
      planGenerationOf ((records.map recapture).map CaptureCall.record) = planGenerationOf records := by
    cases records with
    | nil => exact ⟨rfl, rfl⟩
    | cons record records =>
      exact ⟨congrArg GpuTaskId.generation (task_recapture record).1,
        congrArg GpuSubmissionPacketId.generation (task_recapture record).2⟩
  rw [streamBytes, streamHeader, hbody, hgenerations.1, hgenerations.2, List.length_map,
    List.length_map]
  rfl

/-- The bytes of a capture are exact: reading them yields the accepted calls, a rejected call leaves
them unchanged, rolling back leaves the bytes of the first calls, and whatever the reader accepts
is what capturing its records produces. -/
theorem commandStream_exact :
    (∀ events : List CaptureEvent, ∃ view : BinaryByteView, view.hasData = true ∧
      view.bytes = (CaptureHistory.run events).capture.commandBytes ∧
      readStream view = some ((CaptureHistory.run events).accepted.map fun call =>
        call.record.encodedFields)) ∧
    (∀ (capture : GpuCommandIrCapture) (allocated : Bool) (call : CaptureCall),
      (capture.capture allocated call).1 = false →
        (capture.capture allocated call).2 = capture) ∧
    (∀ (events : List CaptureEvent) (recordCount : ℕ),
      recordCount ≤ (CaptureHistory.run events).accepted.length →
        (captureAll .initial
          ((CaptureHistory.run events).accepted.take recordCount)).1 = true ∧
        ((CaptureHistory.run events).capture.rollback recordCount).commandBytes =
          (captureAll .initial
            ((CaptureHistory.run events).accepted.take recordCount)).2.commandBytes) ∧
    ∀ (view : BinaryByteView) (records : List GpuCommandIrBuiltinTaskRecord),
      readStream view = some records →
        (captureAll .initial (records.map recapture)).1 = true ∧
        (captureAll .initial (records.map recapture)).2.commandBytes = view.bytes := by
  refine ⟨fun events => ?_, fun capture allocated call hrejected => ?_,
    fun events recordCount hcount => ?_, fun view records hread => ?_⟩
  · obtain ⟨hsound, hrecords⟩ := CaptureHistory.sound_run events
    refine ⟨⟨_, true, hsound.bounded⟩, rfl, rfl, ?_⟩
    rw [readStream_streamBytes rfl hsound.bytes_eq hsound.validated, hrecords, List.map_map]
    rfl
  · exact append_of_rejected hrejected
  · obtain ⟨hsound, hrecords⟩ := CaptureHistory.sound_run events
    have hcount' : recordCount ≤ (CaptureHistory.run events).capture.records.length := by
      rw [hrecords, List.length_map]
      exact hcount
    obtain ⟨hrolled, hrecords'⟩ := hsound.rollback hcount'
    have htake : ((CaptureHistory.run events).accepted.take recordCount).map CaptureCall.record =
        ((CaptureHistory.run events).capture.rollback recordCount).records := by
      rw [hrecords', hrecords, List.map_take]
    have hbounded := hrolled.bounded
    rw [hrolled.bytes_eq, ← htake] at hbounded
    obtain ⟨haccepted, hbytes⟩ := captureAll_initial (fun call hmem => hrolled.validated _ (by
      rw [← htake]
      exact List.mem_map_of_mem hmem)) hbounded
    rw [hbytes, htake]
    exact ⟨haccepted, hrolled.bytes_eq⟩
  · obtain ⟨hbytes, graphGeneration, planGeneration, hvalid⟩ := eq_of_readStream hread
    have hbounded := view.bounded
    rw [hbytes, ← streamBytes_recapture] at hbounded
    obtain ⟨haccepted, hcaptured⟩ := captureAll_initial (fun call hmem => by
      obtain ⟨record, hrecord, rfl⟩ := List.mem_map.1 hmem
      rw [validate_recapture, (task_recapture record).1, (task_recapture record).2]
      exact hvalid record hrecord) hbounded
    rw [hcaptured, streamBytes_recapture]
    exact ⟨haccepted, hbytes.symm⟩

end NwbLot.Capture
