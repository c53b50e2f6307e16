import NwbLot.Capture.CommandIrCapture

/-!
# Reading a command stream

`GpuCommandIrStreamReader`: the checks of the stream header, and one record after another.

A record is read at the size that its opcode has, checked, and decoded under the generations that
the header names; the first check that fails is the reader's result.
-/

namespace NwbLot.Capture

/-- A stream of bytes whose size is a `usize`. -/
structure BinaryByteView where
  bytes : List UInt8
  hasData : Bool := true
  bounded : bytes.length < 2 ^ 64

/-- Why a stream is refused. -/
inductive GpuCommandIrStreamValidationError
  | nullData | truncatedStreamHeader | invalidMagic | unsupportedVersion | invalidHeaderReserved
  | payloadSizeMismatch | invalidGraphGeneration | invalidPlanGeneration | invalidRecordCount
  | truncatedRecord | invalidRecordSize | unsupportedOpcode | invalidRecord | trailingPayload
  deriving DecidableEq, Repr

/-- The first error with its place, or how far the stream is read. -/
structure GpuCommandIrStreamValidationResult where
  error : Option GpuCommandIrStreamValidationError := none
  byteOffset : ℕ := 0
  recordIndex : ℕ := sizeMax
  complete : Bool := false
  deriving DecidableEq, Repr

/-- What `next` returns. -/
inductive GpuCommandIrStreamReadStatus
  | record (record : GpuCommandIrBuiltinTaskRecord)
  | atEnd
  | error
  deriving DecidableEq, Repr

/-- A reader with its cursor and what the header promises. -/
structure GpuCommandIrStreamReader where
  bytes : List UInt8
  validation : GpuCommandIrStreamValidationResult := {}
  cursor : ℕ := 0
  payloadEnd : ℕ := 0
  streamVersion : UInt16 := 0
  graphGeneration : UInt64 := 0
  planGeneration : UInt64 := 0
  recordCount : ℕ := 0
  nextRecordIndex : ℕ := 0
  deriving DecidableEq, Repr

/-! ## The stream header -/

open GpuCommandIrStreamValidationError in
/-- The checks of the constructor, in their order. -/
def readStreamHeader (view : BinaryByteView) :
    Except GpuCommandIrStreamValidationError GpuCommandIrStreamHeader :=
  if view.bytes.length ≠ 0 ∧ view.hasData = false then .error nullData
  else if view.bytes.length < headerPrefixCodec.size then .error truncatedStreamHeader
  else
    match headerPrefixCodec.readAt view.bytes 0 with
    | none => .error truncatedStreamHeader
    | some (headerPrefix, _) =>
      if headerPrefix.magic ≠ streamMagic then .error invalidMagic
      else if headerPrefix.version < streamFirstSupportedVersion ∨
          headerPrefix.version > streamVersion then .error unsupportedVersion
      else if headerPrefix.reserved ≠ 0 then .error invalidHeaderReserved
      else if view.bytes.length < streamHeaderCodec.size then .error truncatedStreamHeader
      else
        match streamHeaderCodec.readAt view.bytes 0 with
        | none => .error truncatedStreamHeader
        | some (header, _) =>
          if header.payloadBytes.toNat ≠ view.bytes.length - streamHeaderCodec.size then
            .error payloadSizeMismatch
          else if (header.recordCount = 0 ∧ header.graphGeneration ≠ 0) ∨
              (header.recordCount ≠ 0 ∧ header.graphGeneration = 0) then
            .error invalidGraphGeneration
          else if (header.recordCount = 0 ∧ header.planGeneration ≠ 0) ∨
              (header.recordCount ≠ 0 ∧ header.planGeneration = 0) then
            .error invalidPlanGeneration
          else if header.recordCount.toNat > header.payloadBytes.toNat / headerCodec.size then
            .error invalidRecordCount
          else .ok header

/-! ## Records -/

/-- `DecodeContext`. -/
def decodeContext (context : GpuCommandIrRecordContext) (graphGeneration planGeneration : UInt64)
    (record : GpuCommandIrBuiltinTaskRecord) : GpuCommandIrBuiltinTaskRecord :=
  { record with
    task := ⟨context.taskIndex, graphGeneration⟩
    packet := ⟨context.packetIndex, planGeneration⟩
    queue := ⟨context.queueIndex, context.queueDeviceGeneration⟩ }

/-- The handles of a record's context are valid. -/
def contextValid (record : GpuCommandIrBuiltinTaskRecord) : Bool :=
  record.task.valid && record.packet.valid && record.queue.valid

/-- `ValidateClearTextureRecord`. -/
def validateClearTextureRecord (record : GpuCommandIrClearTextureRecord) : Bool :=
  if record.destinationSubresources.numMipLevels = 0 ∨
      record.destinationSubresources.numArraySlices = 0 ∨
      record.clearTextureValueType ≥ GpuClearTextureTaskValueType.kCount ∨
      record.clearFlags &&& ~~~(GpuCommandIrClearTextureFlag.clearDepth |||
        GpuCommandIrClearTextureFlag.clearStencil) ≠ 0 ∨
      record.reserved ≠ 0 then false
  else if record.clearTextureValueType = GpuClearTextureTaskValueType.depthStencil then
    record.clearFlags != GpuCommandIrClearTextureFlag.none
  else record.clearFlags == GpuCommandIrClearTextureFlag.none

/-- `ValidateClearTextureRectUIntRecord`. -/
def validateClearTextureRectUIntRecord (record : GpuCommandIrClearTextureRectUIntRecord) : Bool :=
  record.destinationSubresources.numMipLevels != 0 &&
    record.destinationSubresources.numArraySlices != 0 &&
    decide (record.clearRect.minX < record.clearRect.maxX) &&
    decide (record.clearRect.minY < record.clearRect.maxY)

/-- The task that a stored record stands for, and whether its own checks pass. -/
def decodeRecord (graphGeneration planGeneration : UInt64) :
    WireRecord → GpuCommandIrBuiltinTaskRecord × Bool
  | .copyBuffer record =>
    let decoded := decodeContext record.context graphGeneration planGeneration
      { opcode := .copyBuffer
        source := ⟨record.sourceResourceIndex, graphGeneration⟩
        destination := ⟨record.destinationResourceIndex, graphGeneration⟩
        sourceOffsetBytes := record.sourceOffsetBytes
        destinationOffsetBytes := record.destinationOffsetBytes
        dataSizeBytes := record.dataSizeBytes }
    (decoded, contextValid decoded && decoded.source.valid && decoded.destination.valid &&
      record.dataSizeBytes != 0)
  | .copyTexture record =>
    let decoded := decodeContext record.context graphGeneration planGeneration
      { opcode := .copyTexture
        source := ⟨record.sourceResourceIndex, graphGeneration⟩
        destination := ⟨record.destinationResourceIndex, graphGeneration⟩
        sourceSlice := record.sourceSlice
        destinationSlice := record.destinationSlice }
    (decoded, contextValid decoded && decoded.source.valid && decoded.destination.valid)
  | .clearBuffer record =>
    let decoded := decodeContext record.context graphGeneration planGeneration
      { opcode := .clearBuffer
        destination := ⟨record.destinationResourceIndex, graphGeneration⟩
        uintClearValue := .splat record.clearValue }
    (decoded, contextValid decoded && decoded.destination.valid)
  | .clearTexture record =>
    let decoded := decodeContext record.context graphGeneration planGeneration
      { opcode := .clearTexture
        destination := ⟨record.destinationResourceIndex, graphGeneration⟩
        destinationSubresources := record.destinationSubresources
        clearTextureValueType := record.clearTextureValueType
        floatClearValue := record.floatClearValue
        uintClearValue := record.uintClearValue
        intClearValue := record.intClearValue
        depthClearValue := record.depthClearValue
        stencilClearValue := record.stencilClearValue
        clearDepth := record.clearFlags &&& GpuCommandIrClearTextureFlag.clearDepth != 0
        clearStencil := record.clearFlags &&& GpuCommandIrClearTextureFlag.clearStencil != 0 }
    (decoded, contextValid decoded && decoded.destination.valid &&
      validateClearTextureRecord record)
  | .clearTextureRectUInt record =>
    let decoded := decodeContext record.context graphGeneration planGeneration
      { opcode := .clearTextureRectUInt
        destination := ⟨record.destinationResourceIndex, graphGeneration⟩
        destinationSubresources := record.destinationSubresources
        clearRect := record.clearRect
        uintClearValue := record.uintClearValue }
    (decoded, contextValid decoded && decoded.destination.valid &&
      validateClearTextureRectUIntRecord record)

/-- The size of the records of an opcode that the reader knows in a version. -/
def expectedByteSize (version opcode : UInt16) : Option ℕ :=
  if opcode = GpuCommandIrWireOpcode.copyBuffer then some copyBufferCodec.size
  else if opcode = GpuCommandIrWireOpcode.copyTexture then some copyTextureCodec.size
  else if opcode = GpuCommandIrWireOpcode.clearBuffer then some clearBufferCodec.size
  else if opcode = GpuCommandIrWireOpcode.clearTexture then some clearTextureCodec.size
  else if opcode = GpuCommandIrWireOpcode.clearTextureRectUInt then
    if version < 2 then none else some clearTextureRectUIntCodec.size
  else none

/-- The stored record at an offset, by its opcode. -/
def readWireRecord (opcode : UInt16) (bytes : List UInt8) (offset : ℕ) : Option (WireRecord × ℕ) :=
  if opcode = GpuCommandIrWireOpcode.copyBuffer then
    (copyBufferCodec.readAt bytes offset).map (Prod.map .copyBuffer id)
  else if opcode = GpuCommandIrWireOpcode.copyTexture then
    (copyTextureCodec.readAt bytes offset).map (Prod.map .copyTexture id)
  else if opcode = GpuCommandIrWireOpcode.clearBuffer then
    (clearBufferCodec.readAt bytes offset).map (Prod.map .clearBuffer id)
  else if opcode = GpuCommandIrWireOpcode.clearTexture then
    (clearTextureCodec.readAt bytes offset).map (Prod.map .clearTexture id)
  else if opcode = GpuCommandIrWireOpcode.clearTextureRectUInt then
    (clearTextureRectUIntCodec.readAt bytes offset).map (Prod.map .clearTextureRectUInt id)
  else none

open GpuCommandIrStreamValidationError in
/-- The record at an offset, with all the checks of `next` on it, and the offset behind it. -/
def readRecord (bytes : List UInt8) (payloadEnd : ℕ) (version : UInt16)
    (graphGeneration planGeneration : UInt64) (recordOffset : ℕ) :
    Except GpuCommandIrStreamValidationError (GpuCommandIrBuiltinTaskRecord × ℕ) :=
  if payloadEnd - recordOffset < headerCodec.size then .error truncatedRecord
  else
    match headerCodec.readAt bytes recordOffset with
    | none => .error truncatedRecord
    | some (header, _) =>
      if header.byteSize.toNat < headerCodec.size then .error invalidRecordSize
      else
        match expectedByteSize version header.opcode with
        | none => .error unsupportedOpcode
        | some expected =>
          if header.byteSize.toNat ≠ expected then .error invalidRecordSize
          else if expected > payloadEnd - recordOffset then .error truncatedRecord
          else
            match readWireRecord header.opcode bytes recordOffset with
            | none => .error truncatedRecord
            | some (record, recordCursor) =>
              let decoded := decodeRecord graphGeneration planGeneration record
              if decoded.2 = false ∨ validateBuiltinRecord decoded.1 = false then
                .error invalidRecord
              else .ok (decoded.1, recordCursor)

namespace GpuCommandIrStreamReader

/-- The first error of a reader stays. -/
def fail (reader : GpuCommandIrStreamReader) (error : GpuCommandIrStreamValidationError)
    (byteOffset recordIndex : ℕ) : GpuCommandIrStreamReader :=
  if reader.validation.error.isSome then reader
  else
    { reader with
      validation :=
        { error := some error, byteOffset := byteOffset, recordIndex := recordIndex
          complete := true } }

/-- The constructor. -/
def ofView (view : BinaryByteView) : GpuCommandIrStreamReader :=
  match readStreamHeader view with
  | .error error => fail { bytes := view.bytes } error 0 sizeMax
  | .ok header =>
    { bytes := view.bytes
      cursor := streamHeaderCodec.size
      payloadEnd := view.bytes.length
      streamVersion := header.version
      graphGeneration := header.graphGeneration
      planGeneration := header.planGeneration
      recordCount := header.recordCount.toNat }

/-- The reader behind a record. -/
def advanced (reader : GpuCommandIrStreamReader) (recordCursor : ℕ) : GpuCommandIrStreamReader :=
  { reader with
    cursor := recordCursor
    nextRecordIndex := reader.nextRecordIndex + 1 }

/-- The next record, the end of the stream or the error. -/
def next (reader : GpuCommandIrStreamReader) :
    GpuCommandIrStreamReadStatus × GpuCommandIrStreamReader :=
  if reader.validation.error.isSome then (.error, reader)
  else if reader.nextRecordIndex = reader.recordCount then
    if reader.cursor ≠ reader.payloadEnd then
      (.error, reader.fail .trailingPayload reader.cursor reader.nextRecordIndex)
    else
      (.atEnd, { reader with
        validation :=
          { byteOffset := reader.payloadEnd, recordIndex := reader.nextRecordIndex
            complete := true } })
  else
    match readRecord reader.bytes reader.payloadEnd reader.streamVersion reader.graphGeneration
        reader.planGeneration reader.cursor with
    | .error error => (.error, reader.fail error reader.cursor reader.nextRecordIndex)
    | .ok (record, recordCursor) => (.record record, reader.advanced recordCursor)

/-- The records that `next` yields until `End`; `none` if it comes to an error. -/
def readRecords : ℕ → GpuCommandIrStreamReader → Option (List GpuCommandIrBuiltinTaskRecord)
  | 0, _ => none
  | fuel + 1, reader =>
    match reader.next with
    | (.atEnd, _) => some []
    | (.error, _) => none
    | (.record record, reader) => (readRecords fuel reader).map (record :: ·)

end GpuCommandIrStreamReader

/-- All records of a stream.  The reader calls `next` once for each record that the header
announces, and once for the end. -/
def readStream (view : BinaryByteView) : Option (List GpuCommandIrBuiltinTaskRecord) :=
  let reader := GpuCommandIrStreamReader.ofView view
  reader.readRecords (reader.recordCount + 1)

end NwbLot.Capture
