import NwbLot.Capture.CaptureStream

/-!
# The command stream format

Reading the stream of a capture yields its records, and every stream that the reader accepts is the
stream that capturing its records produces.

The two directions make the format canonical: header, records and sizes of an accepted stream
leave no byte open.
-/

namespace NwbLot.Capture

/-! ## Reading what was written -/

/-- The stream header starts with its prefix. -/
lemma exists_encode_streamHeader (header : GpuCommandIrStreamHeader) :
    ∃ rest, streamHeaderCodec.encode header =
      headerPrefixCodec.encode ⟨header.magic, header.version, header.reserved⟩ ++ rest := by
  refine ⟨(PodCodec.u64.prod (PodCodec.u64.prod (PodCodec.u64.prod PodCodec.u64))).encode
    (header.graphGeneration, header.planGeneration, header.recordCount, header.payloadBytes), ?_⟩
  show _ ++ (_ ++ (_ ++ _)) = (_ ++ (_ ++ _)) ++ _
  rw [List.append_assoc, List.append_assoc]
  rfl

lemma readAt_headerPrefix (header : GpuCommandIrStreamHeader) (rest : List UInt8) :
    headerPrefixCodec.readAt (streamHeaderCodec.encode header ++ rest) 0 =
      some (⟨header.magic, header.version, header.reserved⟩, headerPrefixCodec.size) := by
  obtain ⟨tail, htail⟩ := exists_encode_streamHeader header
  have hread := headerPrefixCodec.readAt_append [] (tail ++ rest)
    ⟨header.magic, header.version, header.reserved⟩
  rw [htail, List.append_assoc]
  rw [List.nil_append, List.length_nil, Nat.zero_add] at hread
  exact hread

lemma readAt_streamHeader (header : GpuCommandIrStreamHeader) (rest : List UInt8) :
    streamHeaderCodec.readAt (streamHeaderCodec.encode header ++ rest) 0 =
      some (header, streamHeaderCodec.size) := by
  have hread := streamHeaderCodec.readAt_append [] rest header
  rw [List.nil_append, List.length_nil, Nat.zero_add] at hread
  exact hread

variable {records : List GpuCommandIrBuiltinTaskRecord}

/-- The counters of the header of a stream that fits the address space. -/
lemma streamHeader_counts (hbounded : (streamBytes records).length < 2 ^ 64) :
    (streamHeader records).recordCount.toNat = records.length ∧
      (streamHeader records).payloadBytes.toNat = (bodyBytes records).length := by
  have hcount := length_le_length_bodyBytes records
  have hsize : headerCodec.size = 4 := rfl
  rw [length_streamBytes] at hbounded
  rw [hsize] at hcount
  exact ⟨UInt64.toNat_ofNat_of_lt' (by show records.length < 2 ^ 64; omega),
    UInt64.toNat_ofNat_of_lt' (by show (bodyBytes records).length < 2 ^ 64; omega)⟩

variable {view : BinaryByteView}

/-- A generation is zero exactly in the header of an empty stream. -/
lemma readStreamHeader_streamBytes (hdata : view.hasData = true)
    (hbytes : view.bytes = streamBytes records)
    (hgenerations : records ≠ [] → graphGenerationOf records ≠ 0 ∧ planGenerationOf records ≠ 0) :
    readStreamHeader view = .ok (streamHeader records) := by
  obtain ⟨hcount, hpayload⟩ := streamHeader_counts (hbytes ▸ view.bounded)
  have hlength := length_streamBytes records
  have hcounts := length_le_length_bodyBytes records
  have hheaderSize : streamHeaderCodec.size = 40 := rfl
  have hprefixSize : headerPrefixCodec.size = 8 := rfl
  have hrecordSize : headerCodec.size = 4 := rfl
  rw [hrecordSize] at hcounts
  have hzero : (streamHeader records).recordCount = 0 ↔ records = [] := by
    rw [← UInt64.toNat_inj, hcount]
    exact List.length_eq_zero_iff
  have hempty : records = [] → graphGenerationOf records = 0 ∧ planGenerationOf records = 0 := by
    rintro rfl
    exact ⟨rfl, rfl⟩
  unfold readStreamHeader
  rw [if_neg (by rw [hdata]; exact fun h => Bool.noConfusion h.2),
    if_neg (by rw [hbytes, hlength]; omega)]
  rw [hbytes, hlength, streamBytes, readAt_headerPrefix, readAt_streamHeader]
  refine (if_neg fun hmagic => hmagic rfl).trans ((if_neg ?_).trans ((if_neg fun h => h rfl).trans ?_))
  · show ¬(streamVersion < streamFirstSupportedVersion ∨ streamVersion > streamVersion)
    decide
  refine (if_neg (by omega)).trans ((if_neg ?_).trans ((if_neg ?_).trans ((if_neg ?_).trans
    (if_neg ?_))))
  · rw [hpayload]
    omega
  · rintro (⟨hnone, hgraph⟩ | ⟨hsome, hgraph⟩)
    · exact hgraph (hempty (hzero.1 hnone)).1
    · exact (hgenerations fun hnil => hsome (hzero.2 hnil)).1 hgraph
  · rintro (⟨hnone, hplan⟩ | ⟨hsome, hplan⟩)
    · exact hplan (hempty (hzero.1 hnone)).2
    · exact (hgenerations fun hnil => hsome (hzero.2 hnil)).2 hplan
  · rw [hcount, hpayload, hrecordSize]
    omega

variable {record : GpuCommandIrBuiltinTaskRecord}

/-- Reading one record behind the bytes read so far. -/
lemma readRecord_append (before after : List UInt8) (hvalid : validateBuiltinRecord record = true) :
    readRecord (before ++ ((encodeRecord record).bytes ++ after))
        (before ++ ((encodeRecord record).bytes ++ after)).length streamVersion
        record.task.generation record.packet.generation before.length =
      .ok (record.encodedFields, before.length + (encodeRecord record).bytes.length) := by
  have hheaded := encodeRecord_headed record
  have hbounds := (encodeRecord record).size_bounds
  have hlength := (encodeRecord record).length_bytes
  have hroom : (before ++ ((encodeRecord record).bytes ++ after)).length =
      before.length + ((encodeRecord record).size + after.length) := by
    rw [List.length_append, List.length_append, hlength]
  have hopcode : (encodeRecord record).header.opcode = (encodeRecord record).opcode := by
    rw [hheaded]
    rfl
  unfold readRecord
  rw [hroom, if_neg (by omega), (encodeRecord record).readAt_header]
  simp only [hopcode, (encodeRecord record).expectedByteSize_opcode, hheaded.byteSize,
    (encodeRecord record).readWireRecord_append, decodeRecord_encodeRecord hvalid,
    validate_encodedFields hvalid, hlength]
  rw [if_neg (by omega), if_neg (by omega), if_neg (by omega), if_neg (by decide)]

variable {reader : GpuCommandIrStreamReader}

/-- The end of the records. -/
lemma next_of_end (herror : reader.validation.error = none)
    (hcount : reader.nextRecordIndex = reader.recordCount)
    (hend : reader.cursor = reader.payloadEnd) : reader.next.1 = .atEnd := by
  have hnone : ¬(reader.validation.error.isSome = true) := by
    rw [herror]
    decide
  rw [GpuCommandIrStreamReader.next, if_neg hnone, if_pos hcount, if_neg (not_not.2 hend)]

/-- One more record. -/
lemma next_of_record {cursor : ℕ} (herror : reader.validation.error = none)
    (hcount : reader.nextRecordIndex ≠ reader.recordCount)
    (hread : readRecord reader.bytes reader.payloadEnd reader.streamVersion reader.graphGeneration
      reader.planGeneration reader.cursor = .ok (record, cursor)) :
    reader.next = (.record record, reader.advanced cursor) := by
  have hnone : ¬(reader.validation.error.isSome = true) := by
    rw [herror]
    decide
  rw [GpuCommandIrStreamReader.next, if_neg hnone, if_neg hcount, hread]

/-- Reading the rest of a stream. -/
lemma readRecords_bodyBytes {before : List UInt8} {fuel : ℕ} (hfuel : records.length < fuel)
    (herror : reader.validation.error = none) (hversion : reader.streamVersion = streamVersion)
    (hbytes : reader.bytes = before ++ bodyBytes records) (hcursor : reader.cursor = before.length)
    (hend : reader.payloadEnd = reader.bytes.length)
    (hcount : reader.recordCount = reader.nextRecordIndex + records.length)
    (hvalid : ∀ record ∈ records, validateBuiltinRecord record = true ∧
      record.task.generation = reader.graphGeneration ∧
      record.packet.generation = reader.planGeneration) :
    reader.readRecords fuel =
      some (records.map GpuCommandIrBuiltinTaskRecord.encodedFields) := by
  induction records generalizing before reader fuel with
  | nil =>
    obtain ⟨fuel, rfl⟩ := Nat.exists_eq_succ_of_ne_zero (Nat.ne_of_gt hfuel)
    have hlength : reader.cursor = reader.payloadEnd := by
      rw [hend, hbytes, hcursor, List.length_append]
      rfl
    have hnext := next_of_end herror hcount.symm hlength
    rw [GpuCommandIrStreamReader.readRecords]
    split
    · rfl
    · next heq => rw [heq] at hnext; cases hnext
    · next heq => rw [heq] at hnext; cases hnext
  | cons record records ih =>
    obtain ⟨fuel, rfl⟩ := Nat.exists_eq_succ_of_ne_zero (Nat.ne_of_gt (Nat.zero_lt_of_lt hfuel))
    obtain ⟨hpasses, hgraph, hplan⟩ := hvalid record List.mem_cons_self
    rw [bodyBytes_cons] at hbytes
    rw [List.length_cons] at hfuel hcount
    have hread := readRecord_append before (bodyBytes records) hpasses
    rw [← hbytes, ← hend, ← hversion, hgraph, hplan, ← hcursor] at hread
    have hnext := next_of_record herror (by omega) hread
    have hbytes' : reader.bytes = (before ++ (encodeRecord record).bytes) ++ bodyBytes records := by
      rw [hbytes, List.append_assoc]
    have hcursor' : reader.cursor + (encodeRecord record).bytes.length =
        (before ++ (encodeRecord record).bytes).length := by
      rw [hcursor, List.length_append]
    have hcount' : reader.recordCount = reader.nextRecordIndex + 1 + records.length := by omega
    have hrest : (reader.advanced (reader.cursor + (encodeRecord record).bytes.length)).readRecords
        fuel = some (records.map GpuCommandIrBuiltinTaskRecord.encodedFields) :=
      ih (by omega) herror hversion hbytes' hcursor' hend hcount'
        fun other hmem => hvalid other (List.mem_cons_of_mem _ hmem)
    rw [GpuCommandIrStreamReader.readRecords, hnext]
    exact congrArg (Option.map _) hrest

/-- Reading the stream of a capture. -/
theorem readStream_streamBytes {graphGeneration planGeneration : UInt64}
    (hdata : view.hasData = true) (hbytes : view.bytes = streamBytes records)
    (hvalid : ∀ record ∈ records, validateBuiltinRecord record = true ∧
      record.task.generation = graphGeneration ∧ record.packet.generation = planGeneration) :
    readStream view = some (records.map GpuCommandIrBuiltinTaskRecord.encodedFields) := by
  have hgenerations : ∀ record ∈ records, graphGenerationOf records = graphGeneration ∧
      planGenerationOf records = planGeneration :=
    fun record hmem =>
      GpuCommandIrCapture.generationsOf_eq hmem fun other hother => (hvalid other hother).2
  have hheader := readStreamHeader_streamBytes hdata hbytes fun hne => by
    obtain ⟨record, hmem⟩ := List.exists_mem_of_ne_nil _ hne
    obtain ⟨hpasses, hgraph, hplan⟩ := hvalid record hmem
    obtain ⟨hgraphOf, hplanOf⟩ := hgenerations record hmem
    rw [hgraphOf, hplanOf, ← hgraph, ← hplan]
    exact ⟨GpuCommandIrCapture.task_generation_ne_zero hpasses,
      GpuCommandIrCapture.packet_generation_ne_zero hpasses⟩
  obtain ⟨hcount, -⟩ := streamHeader_counts (hbytes ▸ view.bounded)
  unfold readStream
  rw [GpuCommandIrStreamReader.ofView, hheader]
  refine readRecords_bodyBytes ?_ rfl rfl hbytes (PodCodec.length_encode _ _).symm rfl ?_ ?_
  · show records.length < (streamHeader records).recordCount.toNat + 1
    omega
  · show (streamHeader records).recordCount.toNat = 0 + records.length
    omega
  · intro record hmem
    obtain ⟨hpasses, hgraph, hplan⟩ := hvalid record hmem
    obtain ⟨hgraphOf, hplanOf⟩ := hgenerations record hmem
    exact ⟨hpasses, hgraph.trans hgraphOf.symm, hplan.trans hplanOf.symm⟩

/-! ## What the reader accepts -/

/-- A record that the reader accepts is the encoding of what it yields. -/
lemma eq_of_readRecord {bytes : List UInt8} {payloadEnd offset offset' : ℕ}
    {graphGeneration planGeneration : UInt64}
    (h : readRecord bytes payloadEnd streamVersion graphGeneration planGeneration offset =
      .ok (record, offset')) :
    offset' = offset + (encodeRecord record).bytes.length ∧ offset' ≤ bytes.length ∧
      (bytes.drop offset).take (encodeRecord record).bytes.length = (encodeRecord record).bytes ∧
      validateBuiltinRecord record = true ∧ record.task.generation = graphGeneration ∧
      record.packet.generation = planGeneration := by
  unfold readRecord at h
  split at h
  · cases h
  split at h
  · cases h
  next header cursor hheader =>
  split at h
  · cases h
  split at h
  · cases h
  next expected hexpected =>
  split at h
  · cases h
  next hsize =>
  split at h
  · cases h
  split at h
  · cases h
  next stored recordCursor hstored =>
  simp only at h
  split at h
  · cases h
  next hpasses =>
  obtain ⟨rfl, rfl⟩ := Prod.mk.inj (Except.ok.inj h)
  obtain ⟨hopcode, hcursor, hle, htake⟩ := eq_of_readWireRecord hstored
  obtain rfl : expected = stored.size := by
    rw [← hopcode, stored.expectedByteSize_opcode] at hexpected
    exact (Option.some.inj hexpected).symm
  have hheaderEq : stored.header = header := by
    obtain ⟨body, hbody⟩ := stored.exists_bytes_eq
    obtain ⟨-, -, htake'⟩ := PodCodec.eq_of_readAt hheader
    have hprefix : stored.bytes.take headerCodec.size = headerCodec.encode header := by
      rw [← htake, List.take_take, Nat.min_eq_left stored.size_bounds.1]
      exact htake'
    rw [hbody, List.take_left' (headerCodec.length_encode _)] at hprefix
    rw [← headerCodec.decode_encode stored.header, hprefix, headerCodec.decode_encode]
  have hheaded : stored.Headed := by
    obtain ⟨opcode, byteSize⟩ := header
    obtain rfl : stored.opcode = opcode := hopcode
    rw [WireRecord.Headed, hheaderEq, initializedHeader, ← not_not.1 hsize, UInt16.ofNat_toNat]
  obtain ⟨hdecoded, hvalidated⟩ := not_or.1 hpasses
  obtain ⟨hencode, hgraph, hplan⟩ := encodeRecord_decodeRecord hheaded
    (Prod.ext rfl (Bool.eq_true_of_not_eq_false hdecoded))
  rw [hencode, stored.length_bytes]
  exact ⟨hcursor, hle, htake, Bool.eq_true_of_not_eq_false hvalidated, hgraph, hplan⟩

/-- What `next` yields before the end. -/
lemma eq_of_next_record {reader' : GpuCommandIrStreamReader}
    (h : reader.next = (.record record, reader')) :
    reader.validation.error = none ∧ reader.nextRecordIndex ≠ reader.recordCount ∧
      ∃ cursor, reader' = reader.advanced cursor ∧
        readRecord reader.bytes reader.payloadEnd reader.streamVersion reader.graphGeneration
          reader.planGeneration reader.cursor = .ok (record, cursor) := by
  unfold GpuCommandIrStreamReader.next at h
  split at h
  · cases h
  next herror =>
  split at h
  · split at h <;> cases h
  next hcount =>
  split at h
  · cases h
  next record' cursor hread =>
  obtain ⟨hrecord, rfl⟩ := Prod.mk.inj h
  obtain rfl := GpuCommandIrStreamReadStatus.record.inj hrecord
  exact ⟨by simpa using herror, hcount, cursor, rfl, hread⟩

lemma eq_of_next_end {reader' : GpuCommandIrStreamReader} (h : reader.next = (.atEnd, reader')) :
    reader.nextRecordIndex = reader.recordCount ∧ reader.cursor = reader.payloadEnd := by
  unfold GpuCommandIrStreamReader.next at h
  split at h
  · cases h
  split at h
  · next hcount =>
    split at h
    · cases h
    · next hend => exact ⟨hcount, not_not.1 hend⟩
  · split at h <;> cases h

/-- The rest of a stream that the reader accepts. -/
lemma eq_of_readRecords {fuel : ℕ} (hversion : reader.streamVersion = streamVersion)
    (hend : reader.payloadEnd = reader.bytes.length) (h : reader.readRecords fuel = some records) :
    reader.bytes.drop reader.cursor = bodyBytes records ∧
      reader.recordCount = reader.nextRecordIndex + records.length ∧
      ∀ record ∈ records, validateBuiltinRecord record = true ∧
        record.task.generation = reader.graphGeneration ∧
        record.packet.generation = reader.planGeneration := by
  induction fuel generalizing reader records with
  | zero => cases h
  | succ fuel ih =>
    rw [GpuCommandIrStreamReader.readRecords] at h
    split at h
    · next hnext =>
      obtain rfl := Option.some.inj h
      obtain ⟨hcount, hcursor⟩ := eq_of_next_end hnext
      refine ⟨?_, hcount.symm, fun record hmem => absurd hmem List.not_mem_nil⟩
      rw [hcursor, hend, List.drop_length]
      rfl
    · cases h
    · next record reader' hnext =>
      obtain ⟨rest, hrest, rfl⟩ := Option.map_eq_some_iff.1 h
      obtain ⟨-, -, cursor, rfl, hread⟩ := eq_of_next_record hnext
      rw [hversion] at hread
      obtain ⟨hcursor, hle, htake, hvalid⟩ := eq_of_readRecord hread
      have hversion' : (reader.advanced cursor).streamVersion = streamVersion := hversion
      obtain ⟨hbody, hcount, hothers⟩ := ih hversion' hend hrest
      refine ⟨?_, ?_, ?_⟩
      · have hdrop : reader.bytes.drop cursor =
            (reader.bytes.drop reader.cursor).drop (encodeRecord record).bytes.length := by
          rw [List.drop_drop, hcursor]
        have hsplit := List.take_append_drop (encodeRecord record).bytes.length
          (reader.bytes.drop reader.cursor)
        rw [htake, ← hdrop] at hsplit
        calc reader.bytes.drop reader.cursor
            = (encodeRecord record).bytes ++ reader.bytes.drop cursor := hsplit.symm
          _ = bodyBytes (record :: rest) := by
              rw [bodyBytes_cons, ← hbody]
              rfl
      · rw [List.length_cons]
        show reader.recordCount = _
        have hcount' : reader.recordCount = reader.nextRecordIndex + 1 + rest.length := hcount
        omega
      · intro other hmem
        rcases List.mem_cons.1 hmem with rfl | hmem
        · exact hvalid
        · exact hothers other hmem

/-- The checks on the header of a stream that the reader accepts. -/
lemma eq_of_readStreamHeader {header : GpuCommandIrStreamHeader}
    (h : readStreamHeader view = .ok header) :
    (∃ body, view.bytes = streamHeaderCodec.encode header ++ body ∧
      body.length = header.payloadBytes.toNat) ∧
    header.magic = streamMagic ∧ header.version = streamVersion ∧ header.reserved = 0 ∧
    (header.recordCount = 0 → header.graphGeneration = 0 ∧ header.planGeneration = 0) := by
  unfold readStreamHeader at h
  split at h
  · cases h
  split at h
  · cases h
  split at h
  · cases h
  next headerPrefix cursor hprefix =>
  split at h
  · cases h
  next hmagic =>
  split at h
  · cases h
  next hversion =>
  split at h
  · cases h
  next hreserved =>
  split at h
  · cases h
  next hlong =>
  split at h
  · cases h
  next header' cursor' hheader =>
  split at h
  · cases h
  next hpayload =>
  split at h
  · cases h
  next hgraph =>
  split at h
  · cases h
  next hplan =>
  split at h
  · cases h
  obtain rfl := Except.ok.inj h
  obtain ⟨-, -, htake⟩ := PodCodec.eq_of_readAt hheader
  have hsplit : view.bytes
      = streamHeaderCodec.encode header' ++ view.bytes.drop streamHeaderCodec.size := by
    rw [← htake]
    exact (List.take_append_drop _ _).symm
  have hprefix' := readAt_headerPrefix header' (view.bytes.drop streamHeaderCodec.size)
  rw [← hsplit, hprefix] at hprefix'
  obtain ⟨rfl, -⟩ := Prod.mk.inj (Option.some.inj hprefix')
  refine ⟨⟨_, hsplit, ?_⟩, not_not.1 hmagic, ?_, not_not.1 hreserved, ?_⟩
  · rw [List.length_drop, not_not.1 hpayload]
  · obtain ⟨hlow, hhigh⟩ := not_or.1 hversion
    exact UInt16.le_antisymm (UInt16.not_lt.1 hhigh) (UInt16.not_lt.1 hlow)
  · intro hnone
    refine ⟨?_, ?_⟩
    · by_contra hne
      exact hgraph (Or.inl ⟨hnone, hne⟩)
    · by_contra hne
      exact hplan (Or.inl ⟨hnone, hne⟩)

/-- A stream that the reader accepts is the stream of the records it yields. -/
theorem eq_of_readStream (h : readStream view = some records) :
    view.bytes = streamBytes records ∧ ∃ graphGeneration planGeneration, ∀ record ∈ records,
      validateBuiltinRecord record = true ∧ record.task.generation = graphGeneration ∧
        record.packet.generation = planGeneration := by
  unfold readStream GpuCommandIrStreamReader.ofView at h
  cases hheader : readStreamHeader view with
  | error error =>
    rw [hheader] at h
    cases (show (none : Option (List GpuCommandIrBuiltinTaskRecord)) = some records from h)
  | ok header =>
    rw [hheader] at h
    obtain ⟨⟨body, hbytes, hpayload⟩, hmagic, hversion, hreserved, hzero⟩ :=
      eq_of_readStreamHeader hheader
    obtain ⟨hbody, hcount, hvalid⟩ := eq_of_readRecords hversion rfl h
    have hbody' : body = bodyBytes records := by
      rw [← hbody]
      show body = view.bytes.drop streamHeaderCodec.size
      rw [hbytes, List.drop_left' (PodCodec.length_encode _ _)]
    have hrecordCount : header.recordCount = UInt64.ofNat records.length := by
      rw [← UInt64.ofNat_toNat (x := header.recordCount)]
      exact congrArg UInt64.ofNat (hcount.trans (Nat.zero_add _))
    have hpayloadBytes : header.payloadBytes = UInt64.ofNat (bodyBytes records).length := by
      rw [← hbody', hpayload, UInt64.ofNat_toNat]
    have hgenerations : header.graphGeneration = graphGenerationOf records ∧
        header.planGeneration = planGenerationOf records := by
      cases records with
      | nil => exact hzero hrecordCount
      | cons record records =>
        obtain ⟨-, hgraph, hplan⟩ := hvalid record List.mem_cons_self
        exact ⟨hgraph.symm, hplan.symm⟩
    refine ⟨?_, header.graphGeneration, header.planGeneration, hvalid⟩
    rw [hbytes, hbody', streamBytes]
    refine congrArg (streamHeaderCodec.encode · ++ _) ?_
    obtain ⟨magic, version, reserved, graphGeneration, planGeneration, recordCount, payloadBytes⟩ :=
      header
    simp only [streamHeader, GpuCommandIrStreamHeader.mk.injEq]
    exact ⟨hmagic, hversion, hreserved, hgenerations.1, hgenerations.2, hrecordCount, hpayloadBytes⟩

end NwbLot.Capture
