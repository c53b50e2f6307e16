import NwbLot.Capture.WireRecords

/-!
# The stream of a capture

At every moment the bytes of a capture are the stream of its records: appending, failing to append
and rolling back keep it so.

`streamBytes` gives the bytes of a list of records, and `Sound` says that a capture holds them for
its own.  `Admits` is what appending asks of a record.
-/

namespace NwbLot.Capture

/-! ## The stream of a list of records -/

/-- The graph generation that the first record brings. -/
def graphGenerationOf : List GpuCommandIrBuiltinTaskRecord → UInt64
  | [] => 0
  | record :: _ => record.task.generation

/-- The plan generation that the first record fixes. -/
def planGenerationOf : List GpuCommandIrBuiltinTaskRecord → UInt64
  | [] => 0
  | record :: _ => record.packet.generation

/-- The records' bytes, one behind the other. -/
def bodyBytes (records : List GpuCommandIrBuiltinTaskRecord) : List UInt8 :=
  records.flatMap fun record => (encodeRecord record).bytes

/-- The header that belongs to the records. -/
def streamHeader (records : List GpuCommandIrBuiltinTaskRecord) : GpuCommandIrStreamHeader where
  graphGeneration := graphGenerationOf records
  planGeneration := planGenerationOf records
  recordCount := UInt64.ofNat records.length
  payloadBytes := UInt64.ofNat (bodyBytes records).length

/-- The whole stream of the records. -/
def streamBytes (records : List GpuCommandIrBuiltinTaskRecord) : List UInt8 :=
  streamHeaderCodec.encode (streamHeader records) ++ bodyBytes records

lemma bodyBytes_append (front back : List GpuCommandIrBuiltinTaskRecord) :
    bodyBytes (front ++ back) = bodyBytes front ++ bodyBytes back :=
  List.flatMap_append

lemma bodyBytes_cons (record : GpuCommandIrBuiltinTaskRecord)
    (records : List GpuCommandIrBuiltinTaskRecord) :
    bodyBytes (record :: records) = (encodeRecord record).bytes ++ bodyBytes records :=
  List.flatMap_cons

lemma length_streamBytes (records : List GpuCommandIrBuiltinTaskRecord) :
    (streamBytes records).length = streamHeaderCodec.size + (bodyBytes records).length := by
  rw [streamBytes, List.length_append, PodCodec.length_encode]

lemma bodyBytes_singleton (record : GpuCommandIrBuiltinTaskRecord) :
    bodyBytes [record] = (encodeRecord record).bytes :=
  List.flatMap_singleton _ _

/-- Every record takes some bytes. -/
lemma length_le_length_bodyBytes (records : List GpuCommandIrBuiltinTaskRecord) :
    records.length * headerCodec.size ≤ (bodyBytes records).length := by
  induction records with
  | nil => exact Nat.zero_le _
  | cons record records ih =>
    rw [bodyBytes_cons, List.length_cons, List.length_append, WireRecord.length_bytes]
    have hsize := (encodeRecord record).size_bounds.1
    rw [Nat.add_mul]
    omega

/-! ## Keeping the stream -/

namespace GpuCommandIrCapture

/-- The bytes are the stream of the records, which pass their checks and share the generations of
the capture. -/
structure Sound (capture : GpuCommandIrCapture) : Prop where
  bytes_eq : capture.commandBytes = streamBytes capture.records
  bounded : capture.commandBytes.length < 2 ^ 64
  graphGeneration_eq : capture.graphGeneration = graphGenerationOf capture.records
  planGeneration_eq : capture.planGeneration = planGenerationOf capture.records
  validated : ∀ record ∈ capture.records, validateBuiltinRecord record = true ∧
    record.task.generation = capture.graphGeneration ∧
    record.packet.generation = capture.planGeneration

variable {header : List UInt8}

/-- Writing the header of a capture whose body is up to date. -/
lemma commandBytes_writeStreamHeader {capture : GpuCommandIrCapture}
    (hheader : header.length = streamHeaderCodec.size)
    (hbytes : capture.commandBytes = header ++ bodyBytes capture.records)
    (hgraph : capture.graphGeneration = graphGenerationOf capture.records)
    (hplan : capture.planGeneration = planGenerationOf capture.records) :
    capture.writeStreamHeader.commandBytes = streamBytes capture.records := by
  have hlength : capture.commandBytes.length - streamHeaderCodec.size
      = (bodyBytes capture.records).length := by
    rw [hbytes, List.length_append, hheader, Nat.add_sub_cancel_left]
  rw [writeStreamHeader, streamBytes, streamHeader, hlength, hgraph, hplan]
  rw [hbytes, List.drop_left' hheader]

/-- A capture whose body is up to date is sound once its header is written. -/
lemma Sound.of_body {capture : GpuCommandIrCapture}
    (hheader : header.length = streamHeaderCodec.size)
    (hbytes : capture.commandBytes = header ++ bodyBytes capture.records)
    (hbounded : capture.commandBytes.length < 2 ^ 64)
    (hgraph : capture.graphGeneration = graphGenerationOf capture.records)
    (hplan : capture.planGeneration = planGenerationOf capture.records)
    (hvalidated : ∀ record ∈ capture.records, validateBuiltinRecord record = true ∧
      record.task.generation = capture.graphGeneration ∧
      record.packet.generation = capture.planGeneration) : Sound capture.writeStreamHeader where
  bytes_eq := commandBytes_writeStreamHeader hheader hbytes hgraph hplan
  bounded := by
    rw [commandBytes_writeStreamHeader hheader hbytes hgraph hplan, length_streamBytes, ← hheader,
      ← List.length_append, ← hbytes]
    exact hbounded
  graphGeneration_eq := hgraph
  planGeneration_eq := hplan
  validated := hvalidated

/-- The first 40 bytes of a stream and the rest. -/
lemma streamBytes_split (records : List GpuCommandIrBuiltinTaskRecord) :
    ∃ header, header.length = streamHeaderCodec.size ∧
      streamBytes records = header ++ bodyBytes records :=
  ⟨_, PodCodec.length_encode _ _, rfl⟩

lemma Sound.initial : Sound initial where
  bytes_eq := by rfl
  bounded := by decide
  graphGeneration_eq := rfl
  planGeneration_eq := rfl
  validated := fun record hmem => absurd hmem List.not_mem_nil

variable {capture : GpuCommandIrCapture}

lemma Sound.beginRecordingAttempt (h : Sound capture) (recordingAttemptGeneration : UInt64) :
    Sound (capture.beginRecordingAttempt recordingAttemptGeneration).2 := by
  unfold GpuCommandIrCapture.beginRecordingAttempt
  split
  · exact h
  · split
    · exact h
    · exact { h with }

variable {record : GpuCommandIrBuiltinTaskRecord}

lemma task_generation_ne_zero (h : validateBuiltinRecord record = true) :
    record.task.generation ≠ 0 := by
  simp only [validateBuiltinRecord, GpuTaskId.valid, Bool.and_eq_true, bne_iff_ne] at h
  exact h.1.1.1.1.1.2

lemma packet_generation_ne_zero (h : validateBuiltinRecord record = true) :
    record.packet.generation ≠ 0 := by
  simp only [validateBuiltinRecord, GpuSubmissionPacketId.valid, Bool.and_eq_true, bne_iff_ne] at h
  exact h.1.1.1.1.2.2

/-- The generations of a capture that has records. -/
lemma Sound.generations_ne_zero (h : Sound capture) (hrecords : capture.records ≠ []) :
    capture.graphGeneration ≠ 0 ∧ capture.planGeneration ≠ 0 := by
  obtain ⟨record, hmem⟩ := List.exists_mem_of_ne_nil _ hrecords
  obtain ⟨hvalid, hgraph, hplan⟩ := h.validated record hmem
  rw [← hgraph, ← hplan]
  exact ⟨task_generation_ne_zero hvalid, packet_generation_ne_zero hvalid⟩

/-- What a capture needs to take a record. -/
structure Admits (capture : GpuCommandIrCapture) (record : GpuCommandIrBuiltinTaskRecord) : Prop where
  validated : validateBuiltinRecord record = true
  graphGeneration : capture.graphGeneration = 0 ∨
    capture.graphGeneration = record.task.generation
  planGeneration : capture.planGeneration = 0 ∨ capture.planGeneration = record.packet.generation
  fits : capture.commandBytes.length + (encodeRecord record).bytes.length < 2 ^ 64

/-- A capture with one more record. -/
def extended (capture : GpuCommandIrCapture) (record : GpuCommandIrBuiltinTaskRecord) :
    GpuCommandIrCapture :=
  writeStreamHeader
    { capture with
      records := capture.records ++ [record]
      commandBytes := capture.commandBytes ++ (encodeRecord record).bytes
      graphGeneration :=
        if capture.graphGeneration = 0 then record.task.generation else capture.graphGeneration
      planGeneration :=
        if capture.planGeneration = 0 then record.packet.generation else capture.planGeneration }

lemma Sound.appendEncodedRecord (h : Sound capture) {bytes : List UInt8} :
    appendEncodedRecord capture.commandBytes bytes =
      if capture.commandBytes.length + bytes.length < 2 ^ 64 then some (capture.commandBytes ++ bytes)
      else none := by
  have hheader : streamHeaderCodec.size ≤ capture.commandBytes.length := by
    rw [h.bytes_eq, length_streamBytes]
    exact Nat.le_add_right _ _
  have hbounded := h.bounded
  have hmax : sizeMax = 2 ^ 64 - 1 := rfl
  have hsize : streamHeaderCodec.size = 40 := rfl
  rw [GpuCommandIrCapture.appendEncodedRecord]
  by_cases hfits : capture.commandBytes.length + bytes.length < 2 ^ 64
  · rw [if_pos hfits, if_neg (by omega)]
  · rw [if_neg hfits, if_pos (by omega)]

open Classical in
/-- `append` takes a record that the capture admits and leaves the capture alone otherwise. -/
lemma Sound.append_eq (h : Sound capture) (allocated : Bool)
    (record : GpuCommandIrBuiltinTaskRecord) : capture.append allocated record =
      if Admits capture record ∧ allocated = true then (true, capture.extended record)
      else (false, capture) := by
  unfold append
  by_cases hvalid : validateBuiltinRecord record = false
  · rw [if_pos hvalid, if_neg fun hboth => Bool.false_ne_true (hvalid.symm.trans hboth.1.validated)]
  rw [if_neg hvalid]
  by_cases hgraph : capture.graphGeneration ≠ 0 ∧ capture.graphGeneration ≠ record.task.generation
  · rw [if_pos hgraph, if_neg fun hboth => hboth.1.graphGeneration.elim hgraph.1 hgraph.2]
  rw [if_neg hgraph]
  by_cases hplan : capture.planGeneration ≠ 0 ∧ capture.planGeneration ≠ record.packet.generation
  · rw [if_pos hplan, if_neg fun hboth => hboth.1.planGeneration.elim hplan.1 hplan.2]
  rw [if_neg hplan]
  by_cases hallocated : allocated = false
  · rw [if_pos hallocated, if_neg fun hboth => Bool.false_ne_true (hallocated.symm.trans hboth.2)]
  rw [if_neg hallocated, h.appendEncodedRecord]
  by_cases hfits : capture.commandBytes.length + (encodeRecord record).bytes.length < 2 ^ 64
  · have hadmits : Admits capture record :=
      ⟨Bool.eq_true_of_not_eq_false hvalid, by tauto, by tauto, hfits⟩
    rw [if_pos hfits]
    exact (if_pos ⟨hadmits, Bool.eq_true_of_not_eq_false hallocated⟩).symm
  · rw [if_neg hfits]
    exact (if_neg fun hboth => hfits hboth.1.fits).symm

/-- A capture that takes a record keeps the stream of its records. -/
lemma Sound.extended (h : Sound capture) (hadmits : Admits capture record) :
    Sound (capture.extended record) ∧
      (capture.extended record).records = capture.records ++ [record] := by
  have hgraph : (if capture.graphGeneration = 0 then record.task.generation
      else capture.graphGeneration) = record.task.generation := by
    split
    · rfl
    · next hne => exact hadmits.graphGeneration.resolve_left hne
  have hplan : (if capture.planGeneration = 0 then record.packet.generation
      else capture.planGeneration) = record.packet.generation := by
    split
    · rfl
    · next hne => exact hadmits.planGeneration.resolve_left hne
  have hfirst : record.task.generation = graphGenerationOf (capture.records ++ [record]) ∧
      record.packet.generation = planGenerationOf (capture.records ++ [record]) := by
    have hgraphOf := h.graphGeneration_eq
    have hplanOf := h.planGeneration_eq
    cases hrecords : capture.records with
    | nil => exact ⟨rfl, rfl⟩
    | cons first rest =>
      obtain ⟨hgraphNe, hplanNe⟩ := h.generations_ne_zero (by rw [hrecords]; exact List.cons_ne_nil _ _)
      rw [hrecords] at hgraphOf hplanOf
      exact ⟨(hadmits.graphGeneration.resolve_left hgraphNe).symm.trans hgraphOf,
        (hadmits.planGeneration.resolve_left hplanNe).symm.trans hplanOf⟩
  obtain ⟨header, hheader, hsplit⟩ := streamBytes_split capture.records
  refine ⟨Sound.of_body hheader ?_ ?_ (hgraph.trans hfirst.1) (hplan.trans hfirst.2) ?_, rfl⟩
  · show capture.commandBytes ++ (encodeRecord record).bytes = header ++ bodyBytes (_ ++ [record])
    rw [h.bytes_eq, hsplit, bodyBytes_append, bodyBytes_singleton, List.append_assoc]
  · show (capture.commandBytes ++ _).length < _
    rw [List.length_append]
    exact hadmits.fits
  · intro other hmem
    rcases List.mem_append.1 hmem with hold | hnew
    · obtain ⟨hvalid, hgraph', hplan'⟩ := h.validated other hold
      obtain ⟨hgraphNe, hplanNe⟩ := h.generations_ne_zero (List.ne_nil_of_mem hold)
      exact ⟨hvalid, hgraph'.trans ((hadmits.graphGeneration.resolve_left hgraphNe).trans hgraph.symm),
        hplan'.trans ((hadmits.planGeneration.resolve_left hplanNe).trans hplan.symm)⟩
    · obtain rfl := List.mem_singleton.1 hnew
      exact ⟨hadmits.validated, hgraph.symm, hplan.symm⟩

/-! ## Rolling back -/

/-- The record boundaries of a stream. -/
lemma byteOffsetAfter_eq (before : List UInt8) (records rest : List GpuCommandIrBuiltinTaskRecord) :
    byteOffsetAfter (before ++ bodyBytes (records ++ rest)) records.length before.length =
      some (before.length + (bodyBytes records).length) := by
  induction records generalizing before with
  | nil => rfl
  | cons record records ih =>
    have hheaded := encodeRecord_headed record
    have hsize := hheaded.byteSize
    have hbounds := (encodeRecord record).size_bounds
    have hlength := (encodeRecord record).length_bytes
    have hread := (encodeRecord record).readAt_header before (bodyBytes (records ++ rest))
    rw [List.cons_append, bodyBytes_cons, List.length_cons, byteOffsetAfter, hread]
    have hroom : ¬((encodeRecord record).header.byteSize.toNat < headerCodec.size ∨
        (encodeRecord record).header.byteSize.toNat >
          (before ++ ((encodeRecord record).bytes ++ bodyBytes (records ++ rest))).length
            - before.length) := by
      rw [List.length_append, List.length_append, hlength, hsize]
      omega
    have hrest := ih (before ++ (encodeRecord record).bytes)
    rw [List.append_assoc, List.length_append, hlength, ← hsize] at hrest
    refine (if_neg hroom).trans ?_
    rw [hrest, bodyBytes_cons, List.length_append, hlength, hsize, Nat.add_assoc]

lemma Sound.byteOffsetAfterRecordCount (h : Sound capture) {recordCount : ℕ}
    (hcount : recordCount ≤ capture.records.length) :
    capture.byteOffsetAfterRecordCount recordCount =
      some (streamHeaderCodec.size + (bodyBytes (capture.records.take recordCount)).length) := by
  obtain ⟨header, hheader, hsplit⟩ := streamBytes_split capture.records
  have hlong : ¬(recordCount > capture.records.length ∨
      capture.commandBytes.length < streamHeaderCodec.size) := by
    rw [h.bytes_eq, length_streamBytes]
    omega
  have hboundary := byteOffsetAfter_eq header (capture.records.take recordCount)
    (capture.records.drop recordCount)
  rw [List.take_append_drop, List.length_take, Nat.min_eq_left hcount, hheader] at hboundary
  rw [GpuCommandIrCapture.byteOffsetAfterRecordCount, if_neg hlong, h.bytes_eq, hsplit]
  exact hboundary

/-- The bytes that remain when records are dropped from the end. -/
lemma resizeBytes_stream (records : List GpuCommandIrBuiltinTaskRecord) (recordCount : ℕ)
    (hheader : header.length = streamHeaderCodec.size) :
    resizeBytes (header ++ bodyBytes records)
        (streamHeaderCodec.size + (bodyBytes (records.take recordCount)).length) =
      header ++ bodyBytes (records.take recordCount) := by
  have hsplit : header ++ bodyBytes records = (header ++ bodyBytes (records.take recordCount)) ++
      bodyBytes (records.drop recordCount) := by
    rw [List.append_assoc, ← bodyBytes_append, List.take_append_drop]
  have hlength : (header ++ bodyBytes (records.take recordCount)).length =
      streamHeaderCodec.size + (bodyBytes (records.take recordCount)).length := by
    rw [List.length_append, hheader]
  have hshort : streamHeaderCodec.size + (bodyBytes (records.take recordCount)).length -
      (header ++ bodyBytes records).length = 0 := by
    rw [hsplit, List.length_append, hlength]
    omega
  rw [resizeBytes, hshort, hsplit, List.take_left' hlength]
  exact List.append_nil _

/-- The generations of records that share theirs. -/
lemma generationsOf_eq {records : List GpuCommandIrBuiltinTaskRecord} {graphGeneration
    planGeneration : UInt64} (hmem : record ∈ records)
    (hall : ∀ record ∈ records, record.task.generation = graphGeneration ∧
      record.packet.generation = planGeneration) :
    graphGenerationOf records = graphGeneration ∧ planGenerationOf records = planGeneration := by
  cases records with
  | nil => exact absurd hmem List.not_mem_nil
  | cons first rest => exact hall first List.mem_cons_self

/-- Rolling back leaves the stream of the first records. -/
lemma Sound.rollback (h : Sound capture) {recordCount : ℕ}
    (hcount : recordCount ≤ capture.records.length) :
    Sound (capture.rollback recordCount) ∧
      (capture.rollback recordCount).records = capture.records.take recordCount := by
  obtain ⟨header, hheader, hsplit⟩ := streamBytes_split capture.records
  have hbody : resizeBytes capture.commandBytes
      (streamHeaderCodec.size + (bodyBytes (capture.records.take recordCount)).length) =
        header ++ bodyBytes (capture.records.take recordCount) := by
    rw [h.bytes_eq, hsplit]
    exact resizeBytes_stream capture.records recordCount hheader
  rw [GpuCommandIrCapture.rollback, if_neg (Nat.not_lt.2 hcount), h.byteOffsetAfterRecordCount hcount]
  refine ⟨Sound.of_body hheader hbody ?_ ?_ ?_ ?_, rfl⟩
  · have hbounded := h.bounded
    show (resizeBytes _ _).length < _
    rw [h.bytes_eq, length_streamBytes, ← List.take_append_drop recordCount capture.records,
      bodyBytes_append, List.length_append] at hbounded
    rw [hbody, List.length_append, hheader]
    omega
  · rfl
  · rfl
  · intro record hmem
    obtain ⟨hvalid, hgraph, hplan⟩ := h.validated record (List.mem_of_mem_take hmem)
    obtain ⟨hgraphOf, hplanOf⟩ := generationsOf_eq hmem fun other hother =>
      (h.validated other (List.mem_of_mem_take hother)).2
    exact ⟨hvalid, hgraph.trans hgraphOf.symm, hplan.trans hplanOf.symm⟩

lemma Sound.reset (h : Sound capture) : Sound capture.reset ∧ capture.reset.records = [] := by
  obtain ⟨header, hheader, hsplit⟩ := streamBytes_split capture.records
  have hbody : resizeBytes capture.commandBytes streamHeaderCodec.size = header := by
    have htruncated := resizeBytes_stream capture.records 0 hheader
    rw [h.bytes_eq, hsplit]
    exact htruncated.trans (List.append_nil header)
  refine ⟨Sound.of_body hheader (hbody.trans (List.append_nil header).symm) ?_ rfl rfl ?_, rfl⟩
  · show (resizeBytes _ _).length < _
    rw [hbody, hheader]
    decide
  · exact fun record hmem => absurd hmem List.not_mem_nil

end GpuCommandIrCapture
end NwbLot.Capture
