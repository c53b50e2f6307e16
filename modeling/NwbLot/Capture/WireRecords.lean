import NwbLot.Capture.CommandIrStream

/-!
# One record on the wire

Encoding a captured task and decoding the stored record undo each other, opcode by opcode.

`encodedFields` is what an opcode stores of a task, and `Headed` what is stored in front of it.  A
decoded task can be captured again: `recapture` is the call that does.
-/

namespace NwbLot.Capture

/-! ## Stored records by opcode -/

namespace WireRecord

/-- The opcode that the stream names the record with. -/
def opcode : WireRecord → UInt16
  | .copyBuffer _ => GpuCommandIrWireOpcode.copyBuffer
  | .copyTexture _ => GpuCommandIrWireOpcode.copyTexture
  | .clearBuffer _ => GpuCommandIrWireOpcode.clearBuffer
  | .clearTexture _ => GpuCommandIrWireOpcode.clearTexture
  | .clearTextureRectUInt _ => GpuCommandIrWireOpcode.clearTextureRectUInt

/-- The size of the record's structure. -/
def size : WireRecord → ℕ
  | .copyBuffer _ => copyBufferCodec.size
  | .copyTexture _ => copyTextureCodec.size
  | .clearBuffer _ => clearBufferCodec.size
  | .clearTexture _ => clearTextureCodec.size
  | .clearTextureRectUInt _ => clearTextureRectUIntCodec.size

/-- The record carries the header of its type. -/
def Headed (record : WireRecord) : Prop :=
  record.header = initializedHeader record.opcode record.size

lemma length_bytes (record : WireRecord) : record.bytes.length = record.size := by
  cases record <;> exact PodCodec.length_encode _ _

lemma size_bounds (record : WireRecord) : headerCodec.size ≤ record.size ∧ record.size < 2 ^ 16 := by
  cases record with
  | copyBuffer => exact (by decide : headerCodec.size ≤ copyBufferCodec.size ∧
      copyBufferCodec.size < 2 ^ 16)
  | copyTexture => exact (by decide : headerCodec.size ≤ copyTextureCodec.size ∧
      copyTextureCodec.size < 2 ^ 16)
  | clearBuffer => exact (by decide : headerCodec.size ≤ clearBufferCodec.size ∧
      clearBufferCodec.size < 2 ^ 16)
  | clearTexture => exact (by decide : headerCodec.size ≤ clearTextureCodec.size ∧
      clearTextureCodec.size < 2 ^ 16)
  | clearTextureRectUInt => exact (by decide : headerCodec.size ≤ clearTextureRectUIntCodec.size ∧
      clearTextureRectUIntCodec.size < 2 ^ 16)

lemma Headed.byteSize {record : WireRecord} (h : record.Headed) :
    record.header.byteSize.toNat = record.size := by
  rw [h]
  exact UInt16.toNat_ofNat_of_lt' record.size_bounds.2

/-- Every record starts with its header. -/
lemma exists_bytes_eq (record : WireRecord) :
    ∃ body, record.bytes = headerCodec.encode record.header ++ body := by
  cases record <;> exact ⟨_, rfl⟩

lemma readAt_header (record : WireRecord) (before after : List UInt8) :
    headerCodec.readAt (before ++ (record.bytes ++ after)) before.length =
      some (record.header, before.length + headerCodec.size) := by
  obtain ⟨body, hbody⟩ := record.exists_bytes_eq
  rw [hbody, List.append_assoc]
  exact headerCodec.readAt_append before (body ++ after) record.header

lemma expectedByteSize_opcode (record : WireRecord) :
    expectedByteSize streamVersion record.opcode = some record.size := by
  cases record <;> rfl

lemma readWireRecord_append (record : WireRecord) (before after : List UInt8) :
    readWireRecord record.opcode (before ++ (record.bytes ++ after)) before.length =
      some (record, before.length + record.size) := by
  cases record with
  | copyBuffer record =>
    exact congrArg (Option.map _) (copyBufferCodec.readAt_append before after record)
  | copyTexture record =>
    exact congrArg (Option.map _) (copyTextureCodec.readAt_append before after record)
  | clearBuffer record =>
    exact congrArg (Option.map _) (clearBufferCodec.readAt_append before after record)
  | clearTexture record =>
    exact congrArg (Option.map _) (clearTextureCodec.readAt_append before after record)
  | clearTextureRectUInt record =>
    exact congrArg (Option.map _) (clearTextureRectUIntCodec.readAt_append before after record)

end WireRecord

/-- A record type's part of `readWireRecord`. -/
lemma eq_of_map_readAt {α : Type} {codec : PodCodec α} {wrap : α → WireRecord} {bytes : List UInt8}
    {offset offset' : ℕ} {record : WireRecord}
    (hsize : ∀ a, (wrap a).size = codec.size) (hbytes : ∀ a, (wrap a).bytes = codec.encode a)
    (h : (codec.readAt bytes offset).map (Prod.map wrap id) = some (record, offset')) :
    (∃ a, record = wrap a) ∧ offset' = offset + record.size ∧ offset' ≤ bytes.length ∧
      (bytes.drop offset).take record.size = record.bytes := by
  obtain ⟨⟨a, cursor⟩, hread, hpair⟩ := Option.map_eq_some_iff.1 h
  obtain ⟨rfl, rfl⟩ := Prod.mk.inj hpair
  obtain ⟨hoffset, hle, htake⟩ := PodCodec.eq_of_readAt hread
  refine ⟨⟨a, rfl⟩, ?_, hle, ?_⟩
  · rw [hsize]
    exact hoffset
  · rw [hsize, hbytes]
    exact htake

/-- What `readWireRecord` has read stands at the offset. -/
lemma eq_of_readWireRecord {opcode : UInt16} {bytes : List UInt8} {offset offset' : ℕ}
    {record : WireRecord} (h : readWireRecord opcode bytes offset = some (record, offset')) :
    record.opcode = opcode ∧ offset' = offset + record.size ∧ offset' ≤ bytes.length ∧
      (bytes.drop offset).take record.size = record.bytes := by
  unfold readWireRecord at h
  split_ifs at h with hopcode hopcode hopcode hopcode hopcode
  all_goals
    obtain ⟨⟨a, rfl⟩, hrest⟩ := eq_of_map_readAt (fun _ => rfl) (fun _ => rfl) h
    exact ⟨hopcode.symm, hrest⟩

/-! ## Encoding and decoding -/

/-- The task with the fields that its opcode encodes.  The aspects of a clear are encoded for a
depth/stencil clear only. -/
def GpuCommandIrBuiltinTaskRecord.encodedFields (record : GpuCommandIrBuiltinTaskRecord) :
    GpuCommandIrBuiltinTaskRecord :=
  let common : GpuCommandIrBuiltinTaskRecord :=
    { opcode := record.opcode
      task := record.task
      packet := record.packet
      queue := record.queue
      destination := record.destination }
  match record.opcode with
  | .copyBuffer =>
    { common with
      source := record.source
      sourceOffsetBytes := record.sourceOffsetBytes
      destinationOffsetBytes := record.destinationOffsetBytes
      dataSizeBytes := record.dataSizeBytes }
  | .copyTexture =>
    { common with
      source := record.source
      sourceSlice := record.sourceSlice
      destinationSlice := record.destinationSlice }
  | .clearBuffer => { common with uintClearValue := .splat record.uintClearValue.r }
  | .clearTexture =>
    { common with
      destinationSubresources := record.destinationSubresources
      clearTextureValueType := record.clearTextureValueType
      floatClearValue := record.floatClearValue
      uintClearValue := record.uintClearValue
      intClearValue := record.intClearValue
      depthClearValue := record.depthClearValue
      stencilClearValue := record.stencilClearValue
      clearDepth := record.clearTextureValueType == GpuClearTextureTaskValueType.depthStencil &&
        record.clearDepth
      clearStencil := record.clearTextureValueType == GpuClearTextureTaskValueType.depthStencil &&
        record.clearStencil }
  | .clearTextureRectUInt =>
    { common with
      destinationSubresources := record.destinationSubresources
      clearRect := record.clearRect
      uintClearValue := record.uintClearValue }

/-- The flags without a bit beside the two aspects. -/
lemma clearFlags_cases {flags : UInt8} (h : flags &&& ~~~(GpuCommandIrClearTextureFlag.clearDepth |||
    GpuCommandIrClearTextureFlag.clearStencil) = 0) :
    flags = 0 ∨ flags = 1 ∨ flags = 2 ∨ flags = 3 := by
  have hbits : ∀ b : BitVec 8, b &&& ~~~((1 : BitVec 8) ||| 2) = 0 →
      b = 0 ∨ b = 1 ∨ b = 2 ∨ b = 3 := by decide
  have hmask := congrArg UInt8.toBitVec h
  rcases hbits flags.toBitVec hmask with hflags | hflags | hflags | hflags
  · exact Or.inl (UInt8.toBitVec_inj.1 hflags)
  · exact Or.inr (Or.inl (UInt8.toBitVec_inj.1 hflags))
  · exact Or.inr (Or.inr (Or.inl (UInt8.toBitVec_inj.1 hflags)))
  · exact Or.inr (Or.inr (Or.inr (UInt8.toBitVec_inj.1 hflags)))

section Validation

variable {record : GpuCommandIrBuiltinTaskRecord}

lemma destination_generation (h : validateBuiltinRecord record = true) :
    record.destination.generation = record.task.generation := by
  simp only [validateBuiltinRecord, Bool.and_eq_true, beq_iff_eq] at h
  exact h.1.2

/-- The checks of a task that do not depend on its opcode. -/
lemma contextValid_of_validate (h : validateBuiltinRecord record = true) :
    contextValid record = true ∧ record.destination.valid = true := by
  simp only [validateBuiltinRecord, contextValid, Bool.and_eq_true, beq_iff_eq] at h ⊢
  exact ⟨h.1.1.1, h.1.1.2⟩

lemma encodeRecord_headed (record : GpuCommandIrBuiltinTaskRecord) :
    (encodeRecord record).Headed := by
  obtain ⟨opcode⟩ := record
  cases opcode <;> rfl

lemma encodeClearFlags_clearDepth (record : GpuCommandIrBuiltinTaskRecord) :
    (encodeClearFlags record &&& GpuCommandIrClearTextureFlag.clearDepth != 0) =
      (record.clearTextureValueType == GpuClearTextureTaskValueType.depthStencil &&
        record.clearDepth) := by
  unfold encodeClearFlags
  by_cases htype : record.clearTextureValueType = GpuClearTextureTaskValueType.depthStencil
  · rw [if_pos htype, beq_iff_eq.2 htype]
    cases record.clearDepth <;> cases record.clearStencil <;> rfl
  · rw [if_neg htype, beq_eq_false_iff_ne.2 htype]
    rfl

lemma encodeClearFlags_clearStencil (record : GpuCommandIrBuiltinTaskRecord) :
    (encodeClearFlags record &&& GpuCommandIrClearTextureFlag.clearStencil != 0) =
      (record.clearTextureValueType == GpuClearTextureTaskValueType.depthStencil &&
        record.clearStencil) := by
  unfold encodeClearFlags
  by_cases htype : record.clearTextureValueType = GpuClearTextureTaskValueType.depthStencil
  · rw [if_pos htype, beq_iff_eq.2 htype]
    cases record.clearDepth <;> cases record.clearStencil <;> rfl
  · rw [if_neg htype, beq_eq_false_iff_ne.2 htype]
    rfl

/-- The checks of a clear, apart from its context. -/
lemma validate_clearTexture (h : validateBuiltinRecord record = true)
    (hopcode : record.opcode = .clearTexture) :
    record.clearTextureValueType < GpuClearTextureTaskValueType.kCount ∧
      record.destinationSubresources.numMipLevels ≠ 0 ∧
      record.destinationSubresources.numArraySlices ≠ 0 ∧
      (record.clearTextureValueType = GpuClearTextureTaskValueType.depthStencil →
        record.clearDepth = true ∨ record.clearStencil = true) := by
  simp only [validateBuiltinRecord, hopcode, Bool.and_eq_true, Bool.or_eq_true, bne_iff_ne,
    decide_eq_true_eq] at h
  refine ⟨h.2.1.1.1, h.2.1.1.2, h.2.1.2, fun htype => ?_⟩
  rcases h.2.2 with (hother | hdepth) | hstencil
  · exact absurd htype hother
  · exact Or.inl hdepth
  · exact Or.inr hstencil

lemma validateClearTextureRecord_encode {stored : GpuCommandIrClearTextureRecord}
    (h : validateBuiltinRecord record = true) (hopcode : record.opcode = .clearTexture)
    (hstored : encodeRecord record = .clearTexture stored) :
    validateClearTextureRecord stored = true := by
  obtain ⟨htype, hmips, hslices, haspects⟩ := validate_clearTexture h hopcode
  have hflags : encodeClearFlags record &&& ~~~(GpuCommandIrClearTextureFlag.clearDepth |||
      GpuCommandIrClearTextureFlag.clearStencil) = 0 := by
    unfold encodeClearFlags
    split
    · cases record.clearDepth <;> cases record.clearStencil <;> rfl
    · rfl
  simp only [encodeRecord, hopcode, WireRecord.clearTexture.injEq] at hstored
  subst hstored
  have hpasses : ¬(record.destinationSubresources.numMipLevels = 0 ∨
      record.destinationSubresources.numArraySlices = 0 ∨
      record.clearTextureValueType ≥ GpuClearTextureTaskValueType.kCount ∨
      encodeClearFlags record &&& ~~~(GpuCommandIrClearTextureFlag.clearDepth |||
        GpuCommandIrClearTextureFlag.clearStencil) ≠ 0 ∨ (0 : UInt8) ≠ 0) := by
    rintro (hzero | hzero | hlarge | hother | hreserved)
    · exact hmips hzero
    · exact hslices hzero
    · exact absurd htype (UInt8.not_lt.2 hlarge)
    · exact hother hflags
    · exact hreserved rfl
  rw [validateClearTextureRecord, if_neg hpasses]
  split
  · next hdepthStencil =>
    have hsome := haspects hdepthStencil
    rw [encodeClearFlags, if_pos hdepthStencil]
    cases hdepth : record.clearDepth <;> cases hstencil : record.clearStencil <;>
      first
      | rfl
      | simp [hdepth, hstencil] at hsome
  · next hcolor =>
    rw [encodeClearFlags, if_neg hcolor]
    rfl

/-- Decoding what has been encoded. -/
theorem decodeRecord_encodeRecord (h : validateBuiltinRecord record = true) :
    decodeRecord record.task.generation record.packet.generation (encodeRecord record) =
      (record.encodedFields, true) := by
  obtain ⟨hcontext, hvalid⟩ := contextValid_of_validate h
  have hgeneration := destination_generation h
  have hclear : ∀ stored, record.opcode = .clearTexture →
      encodeRecord record = .clearTexture stored → validateClearTextureRecord stored = true :=
    fun _ => validateClearTextureRecord_encode h
  have hdepth := encodeClearFlags_clearDepth record
  have hstencil := encodeClearFlags_clearStencil record
  obtain ⟨opcode, task, packet, queue, source, ⟨index, generation⟩⟩ := record
  obtain rfl : generation = task.generation := hgeneration
  cases opcode with
  | copyBuffer =>
    simp only [validateBuiltinRecord, Bool.and_eq_true, beq_iff_eq] at h
    obtain ⟨index', generation'⟩ := source
    obtain rfl : generation' = task.generation := h.2.1.2
    refine Prod.ext rfl ?_
    show (_ && _ && _ && _) = true
    rw [Bool.and_eq_true, Bool.and_eq_true, Bool.and_eq_true]
    exact ⟨⟨⟨hcontext, h.2.1.1⟩, hvalid⟩, h.2.2⟩
  | copyTexture =>
    simp only [validateBuiltinRecord, Bool.and_eq_true, beq_iff_eq] at h
    obtain ⟨index', generation'⟩ := source
    obtain rfl : generation' = task.generation := h.2.2
    refine Prod.ext rfl ?_
    show (_ && _ && _) = true
    rw [Bool.and_eq_true, Bool.and_eq_true]
    exact ⟨⟨hcontext, h.2.1⟩, hvalid⟩
  | clearBuffer =>
    refine Prod.ext rfl ?_
    show (_ && _) = true
    rw [Bool.and_eq_true]
    exact ⟨hcontext, hvalid⟩
  | clearTexture =>
    refine Prod.ext ?_ ?_
    · simp only [decodeRecord, encodeRecord, hdepth, hstencil]
      rfl
    · show (_ && _ && _) = true
      rw [Bool.and_eq_true, Bool.and_eq_true]
      exact ⟨⟨hcontext, hvalid⟩, hclear _ rfl rfl⟩
  | clearTextureRectUInt =>
    refine Prod.ext rfl ?_
    show (_ && _ && _) = true
    rw [Bool.and_eq_true, Bool.and_eq_true]
    simp only [validateBuiltinRecord, Bool.and_eq_true] at h
    refine ⟨⟨hcontext, hvalid⟩, ?_⟩
    simpa only [validateClearTextureRectUIntRecord, Bool.and_eq_true] using h.2

/-- The encoded fields pass the checks of the task. -/
lemma validate_encodedFields (h : validateBuiltinRecord record = true) :
    validateBuiltinRecord record.encodedFields = true := by
  obtain ⟨opcode⟩ := record
  cases opcode with
  | clearTexture =>
    simp only [validateBuiltinRecord, GpuCommandIrBuiltinTaskRecord.encodedFields,
      Bool.and_eq_true, Bool.or_eq_true, bne_iff_ne, beq_iff_eq] at h ⊢
    refine ⟨h.1, h.2.1, ?_⟩
    rcases h.2.2 with (hother | hdepth) | hstencil
    · exact Or.inl (Or.inl hother)
    · exact Or.inl ((ne_or_eq _ _).imp_right fun htype => ⟨htype, hdepth⟩)
    · rcases ne_or_eq _ _ with hother | htype
      · exact Or.inl (Or.inl hother)
      · exact Or.inr ⟨htype, hstencil⟩
  | _ => exact h

/-- The flags of a stored clear are those of the task that it stands for. -/
lemma encodeClearFlags_of_validate (record : GpuCommandIrBuiltinTaskRecord)
    {stored : GpuCommandIrClearTextureRecord} (h : validateClearTextureRecord stored = true)
    (htype : record.clearTextureValueType = stored.clearTextureValueType)
    (hdepth : record.clearDepth =
      (stored.clearFlags &&& GpuCommandIrClearTextureFlag.clearDepth != 0))
    (hstencil : record.clearStencil =
      (stored.clearFlags &&& GpuCommandIrClearTextureFlag.clearStencil != 0)) :
    encodeClearFlags record = stored.clearFlags ∧ stored.reserved = 0 := by
  unfold validateClearTextureRecord at h
  split at h
  · cases h
  · next hpasses =>
    obtain ⟨-, -, -, hmask, hreserved⟩ : _ ∧ _ ∧ _ ∧ _ ∧ _ := by simpa only [not_or] using hpasses
    refine ⟨?_, not_not.1 hreserved⟩
    unfold encodeClearFlags
    rw [htype]
    split at h
    · next hdepthStencil =>
      rw [if_pos hdepthStencil, hdepth, hstencil]
      rcases clearFlags_cases (not_not.1 hmask) with hflags | hflags | hflags | hflags <;>
        rw [hflags] <;> rfl
    · next hcolor =>
      rw [if_neg hcolor]
      exact (beq_iff_eq.1 h).symm

/-- Encoding what has been decoded. -/
theorem encodeRecord_decodeRecord {stored : WireRecord} {graphGeneration planGeneration : UInt64}
    (hheaded : stored.Headed)
    (h : decodeRecord graphGeneration planGeneration stored = (record, true)) :
    encodeRecord record = stored ∧ record.task.generation = graphGeneration ∧
      record.packet.generation = planGeneration := by
  obtain ⟨rfl, hvalid⟩ := Prod.mk.inj h
  cases stored with
  | copyBuffer stored =>
    obtain ⟨header, context⟩ := stored
    obtain rfl : header = initializedHeader GpuCommandIrWireOpcode.copyBuffer
      copyBufferCodec.size := hheaded
    exact ⟨rfl, rfl, rfl⟩
  | copyTexture stored =>
    obtain ⟨header, context⟩ := stored
    obtain rfl : header = initializedHeader GpuCommandIrWireOpcode.copyTexture
      copyTextureCodec.size := hheaded
    exact ⟨rfl, rfl, rfl⟩
  | clearBuffer stored =>
    obtain ⟨header, context⟩ := stored
    obtain rfl : header = initializedHeader GpuCommandIrWireOpcode.clearBuffer
      clearBufferCodec.size := hheaded
    exact ⟨rfl, rfl, rfl⟩
  | clearTexture stored =>
    rw [Bool.and_eq_true] at hvalid
    obtain ⟨hflags, hreserved⟩ := encodeClearFlags_of_validate
      (decodeRecord graphGeneration planGeneration (.clearTexture stored)).1 hvalid.2 rfl rfl rfl
    obtain ⟨header, context, destination, subresources, float, uint, int, depth, stencil, valueType,
      flags, reserved⟩ := stored
    obtain rfl : header = initializedHeader GpuCommandIrWireOpcode.clearTexture
      clearTextureCodec.size := hheaded
    obtain rfl : reserved = 0 := hreserved
    refine ⟨?_, rfl, rfl⟩
    simp only [decodeRecord, decodeContext] at hflags
    simp only [decodeContext, encodeRecord, hflags]
    rfl
  | clearTextureRectUInt stored =>
    obtain ⟨header, context⟩ := stored
    obtain rfl : header = initializedHeader GpuCommandIrWireOpcode.clearTextureRectUInt
      clearTextureRectUIntCodec.size := hheaded
    exact ⟨rfl, rfl, rfl⟩

end Validation

/-! ## Capturing a decoded task again -/

/-- The call that captures a task. -/
def recapture (record : GpuCommandIrBuiltinTaskRecord) : CaptureCall where
  task := record.task
  packet := record.packet
  queue := record.queue
  destination := record.destination
  body := match record.opcode with
    | .copyBuffer => .captureCopyBuffer record.source record.sourceOffsetBytes
        record.destinationOffsetBytes record.dataSizeBytes
    | .copyTexture => .captureCopyTexture record.source record.sourceSlice record.destinationSlice
    | .clearBuffer => .captureClearBuffer record.uintClearValue.r
    | .clearTexture => .captureClearTexture
      { depthValue := record.depthClearValue
        subresources := record.destinationSubresources
        valueType := record.clearTextureValueType
        stencilValue := record.stencilClearValue
        clearDepth := record.clearDepth
        clearStencil := record.clearStencil
        floatValue := record.floatClearValue
        uintValue := record.uintClearValue
        intValue := record.intClearValue }
    | .clearTextureRectUInt => .captureClearTextureRectUInt
      { subresources := record.destinationSubresources
        rect := record.clearRect
        uintValue := record.uintClearValue }

lemma encodeRecord_recapture (record : GpuCommandIrBuiltinTaskRecord) :
    encodeRecord (recapture record).record = encodeRecord record := by
  obtain ⟨opcode⟩ := record
  cases opcode <;> rfl

lemma validate_recapture (record : GpuCommandIrBuiltinTaskRecord) :
    validateBuiltinRecord (recapture record).record = validateBuiltinRecord record := by
  obtain ⟨opcode⟩ := record
  cases opcode <;> rfl

lemma task_recapture (record : GpuCommandIrBuiltinTaskRecord) :
    (recapture record).record.task = record.task ∧
      (recapture record).record.packet = record.packet := by
  obtain ⟨opcode⟩ := record
  cases opcode <;> exact ⟨rfl, rfl⟩

end NwbLot.Capture
