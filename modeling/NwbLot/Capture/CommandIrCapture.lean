import NwbLot.Capture.CommandIr

/-!
# Capturing command IR

`GpuCommandIrCapture`: the captured tasks and the byte stream that is kept beside them.

A task is encoded as the packed record of its opcode and appended behind a header that counts the
records; `rollback` cuts the stream behind a number of them, and a failed append leaves it as it
was.
-/

namespace NwbLot.Capture

/-! ## Encoding -/

/-- One stored record of any opcode. -/
inductive WireRecord
  | copyBuffer (record : GpuCommandIrCopyBufferRecord)
  | copyTexture (record : GpuCommandIrCopyTextureRecord)
  | clearBuffer (record : GpuCommandIrClearBufferRecord)
  | clearTexture (record : GpuCommandIrClearTextureRecord)
  | clearTextureRectUInt (record : GpuCommandIrClearTextureRectUIntRecord)
  deriving DecidableEq, Repr

namespace WireRecord

/-- The record's header. -/
def header : WireRecord → GpuCommandIrHeader
  | .copyBuffer record => record.header
  | .copyTexture record => record.header
  | .clearBuffer record => record.header
  | .clearTexture record => record.header
  | .clearTextureRectUInt record => record.header

/-- The record's bytes in the stream. -/
def bytes : WireRecord → List UInt8
  | .copyBuffer record => copyBufferCodec.encode record
  | .copyTexture record => copyTextureCodec.encode record
  | .clearBuffer record => clearBufferCodec.encode record
  | .clearTexture record => clearTextureCodec.encode record
  | .clearTextureRectUInt record => clearTextureRectUIntCodec.encode record

end WireRecord

/-- `InitializeRecord`: the header of a record of a type. -/
def initializedHeader (opcode : UInt16) (size : ℕ) : GpuCommandIrHeader :=
  ⟨opcode, UInt16.ofNat size⟩

/-- `EncodeContext`. -/
def encodeContext (record : GpuCommandIrBuiltinTaskRecord) : GpuCommandIrRecordContext where
  taskIndex := record.task.index
  packetIndex := record.packet.index
  queueIndex := record.queue.index
  queueDeviceGeneration := record.queue.deviceGeneration

/-- The aspects are stored for a depth/stencil clear only. -/
def encodeClearFlags (record : GpuCommandIrBuiltinTaskRecord) : UInt8 :=
  if record.clearTextureValueType = GpuClearTextureTaskValueType.depthStencil then
    (if record.clearDepth then GpuCommandIrClearTextureFlag.clearDepth else 0) |||
      (if record.clearStencil then GpuCommandIrClearTextureFlag.clearStencil else 0)
  else GpuCommandIrClearTextureFlag.none

/-- The record that `appendCommandBytes` stores. -/
def encodeRecord (record : GpuCommandIrBuiltinTaskRecord) : WireRecord :=
  match record.opcode with
  | .copyBuffer => .copyBuffer
    { header := initializedHeader GpuCommandIrWireOpcode.copyBuffer copyBufferCodec.size
      context := encodeContext record
      sourceResourceIndex := record.source.index
      destinationResourceIndex := record.destination.index
      sourceOffsetBytes := record.sourceOffsetBytes
      destinationOffsetBytes := record.destinationOffsetBytes
      dataSizeBytes := record.dataSizeBytes }
  | .copyTexture => .copyTexture
    { header := initializedHeader GpuCommandIrWireOpcode.copyTexture copyTextureCodec.size
      context := encodeContext record
      sourceResourceIndex := record.source.index
      destinationResourceIndex := record.destination.index
      sourceSlice := record.sourceSlice
      destinationSlice := record.destinationSlice }
  | .clearBuffer => .clearBuffer
    { header := initializedHeader GpuCommandIrWireOpcode.clearBuffer clearBufferCodec.size
      context := encodeContext record
      destinationResourceIndex := record.destination.index
      clearValue := record.uintClearValue.r }
  | .clearTexture => .clearTexture
    { header := initializedHeader GpuCommandIrWireOpcode.clearTexture clearTextureCodec.size
      context := encodeContext record
      destinationResourceIndex := record.destination.index
      destinationSubresources := record.destinationSubresources
      floatClearValue := record.floatClearValue
      uintClearValue := record.uintClearValue
      intClearValue := record.intClearValue
      depthClearValue := record.depthClearValue
      stencilClearValue := record.stencilClearValue
      clearTextureValueType := record.clearTextureValueType
      clearFlags := encodeClearFlags record
      reserved := 0 }
  | .clearTextureRectUInt => .clearTextureRectUInt
    { header := initializedHeader GpuCommandIrWireOpcode.clearTextureRectUInt
        clearTextureRectUIntCodec.size
      context := encodeContext record
      destinationResourceIndex := record.destination.index
      destinationSubresources := record.destinationSubresources
      clearRect := record.clearRect
      uintClearValue := record.uintClearValue }

/-! ## The capture -/

/-- The largest `usize`, and the largest `u64`. -/
def sizeMax : ℕ := 2 ^ 64 - 1

/-- A capture: its tasks, and the stream of their records behind the header. -/
structure GpuCommandIrCapture where
  records : List GpuCommandIrBuiltinTaskRecord
  commandBytes : List UInt8
  graphGeneration : UInt64
  planGeneration : UInt64
  recordingAttemptGeneration : UInt64
  deriving DecidableEq, Repr

namespace GpuCommandIrCapture

/-- `writeStreamHeader`: the header that belongs to the records. -/
def writeStreamHeader (capture : GpuCommandIrCapture) : GpuCommandIrCapture :=
  { capture with
    commandBytes := streamHeaderCodec.encode
        { graphGeneration := capture.graphGeneration
          planGeneration := capture.planGeneration
          recordCount := UInt64.ofNat capture.records.length
          payloadBytes := UInt64.ofNat (capture.commandBytes.length - streamHeaderCodec.size) } ++
      capture.commandBytes.drop streamHeaderCodec.size }

/-- A new capture. -/
def initial : GpuCommandIrCapture :=
  writeStreamHeader
    { records := []
      commandBytes := List.replicate streamHeaderCodec.size 0
      graphGeneration := 0
      planGeneration := 0
      recordingAttemptGeneration := 0 }

/-- The bytes that stay allocated, filled up with zeros. -/
def resizeBytes (bytes : List UInt8) (size : ℕ) : List UInt8 :=
  bytes.take size ++ List.replicate (size - bytes.length) 0

/-- A capture without records, in no attempt. -/
def reset (capture : GpuCommandIrCapture) : GpuCommandIrCapture :=
  writeStreamHeader
    { capture with
      records := []
      commandBytes := resizeBytes capture.commandBytes streamHeaderCodec.size
      graphGeneration := 0
      planGeneration := 0
      recordingAttemptGeneration := 0 }

/-- A capture with records of another attempt refuses. -/
def beginRecordingAttempt (capture : GpuCommandIrCapture) (recordingAttemptGeneration : UInt64) :
    Bool × GpuCommandIrCapture :=
  if recordingAttemptGeneration = 0 then (false, capture)
  else if capture.records ≠ [] ∧
      capture.recordingAttemptGeneration ≠ recordingAttemptGeneration then (false, capture)
  else (true, { capture with recordingAttemptGeneration := recordingAttemptGeneration })

/-- `AppendEncodedRecord` -/
def appendEncodedRecord (commandBytes record : List UInt8) : Option (List UInt8) :=
  if commandBytes.length < streamHeaderCodec.size ∨
      ¬commandBytes.length ≤ sizeMax - record.length ∨
      commandBytes.length - streamHeaderCodec.size > sizeMax - record.length then none
  else some (commandBytes ++ record)

/-- `append`; `allocated` says whether the two allocations succeed, else the exception handler
restores both arrays. -/
def append (capture : GpuCommandIrCapture) (allocated : Bool)
    (record : GpuCommandIrBuiltinTaskRecord) : Bool × GpuCommandIrCapture :=
  if validateBuiltinRecord record = false then (false, capture)
  else if capture.graphGeneration ≠ 0 ∧ capture.graphGeneration ≠ record.task.generation then
    (false, capture)
  else if capture.planGeneration ≠ 0 ∧ capture.planGeneration ≠ record.packet.generation then
    (false, capture)
  else if allocated = false then (false, capture)
  else
    match appendEncodedRecord capture.commandBytes (encodeRecord record).bytes with
    | none => (false, capture)
    | some commandBytes =>
      (true, writeStreamHeader
        { capture with
          records := capture.records ++ [record]
          commandBytes := commandBytes
          graphGeneration :=
            if capture.graphGeneration = 0 then record.task.generation
            else capture.graphGeneration
          planGeneration :=
            if capture.planGeneration = 0 then record.packet.generation
            else capture.planGeneration })

/-- `byteOffsetAfterRecordCount` from a record boundary on; `none` for a lost boundary. -/
def byteOffsetAfter (bytes : List UInt8) : ℕ → ℕ → Option ℕ
  | 0, cursor => some cursor
  | recordCount + 1, cursor =>
    match headerCodec.readAt bytes cursor with
    | none => none
    | some (header, _) =>
      if header.byteSize.toNat < headerCodec.size ∨
          header.byteSize.toNat > bytes.length - cursor then none
      else byteOffsetAfter bytes recordCount (cursor + header.byteSize.toNat)

/-- Where the bytes of the first records end. -/
def byteOffsetAfterRecordCount (capture : GpuCommandIrCapture) (recordCount : ℕ) : Option ℕ :=
  if recordCount > capture.records.length ∨
      capture.commandBytes.length < streamHeaderCodec.size then none
  else byteOffsetAfter capture.commandBytes recordCount streamHeaderCodec.size

/-- Only the first records stay, with a header that counts them. -/
def rollback (capture : GpuCommandIrCapture) (recordCount : ℕ) : GpuCommandIrCapture :=
  if recordCount > capture.records.length then capture
  else
    match capture.byteOffsetAfterRecordCount recordCount with
    | none => capture
    | some byteOffset =>
      let records := capture.records.take recordCount
      writeStreamHeader
        { capture with
          records := records
          commandBytes := resizeBytes capture.commandBytes byteOffset
          graphGeneration :=
            match records with
            | [] => 0
            | record :: _ => record.task.generation
          planGeneration :=
            match records with
            | [] => 0
            | record :: _ => record.packet.generation
          recordingAttemptGeneration :=
            match records with
            | [] => 0
            | _ :: _ => capture.recordingAttemptGeneration }

end GpuCommandIrCapture

/-! ## The capture calls -/

/-- The parameters of a clear that are captured. -/
structure GpuClearTextureTaskDesc where
  depthValue : UInt32 := 0x3F800000
  subresources : TextureSubresourceSet := allSubresources
  valueType : UInt8 := GpuClearTextureTaskValueType.uInt
  stencilValue : UInt8 := 0
  clearDepth : Bool := false
  clearStencil : Bool := false
  floatValue : Color := ⟨0, 0, 0, 0⟩
  uintValue : UIntColor := ⟨0, 0, 0, 0⟩
  intValue : IntColor := ⟨0, 0, 0, 0⟩
  deriving DecidableEq, Repr

/-- What a rectangle clear asks for. -/
structure GpuClearTextureRectUIntTaskDesc where
  subresources : TextureSubresourceSet := allSubresources
  rect : Rect := {}
  uintValue : UIntColor := ⟨0, 0, 0, 0⟩
  deriving DecidableEq, Repr

/-- What a call captures beside its task, packet, queue and destination. -/
inductive CaptureBody
  | captureCopyBuffer (source : GpuGraphResourceId)
      (sourceOffsetBytes destinationOffsetBytes dataSizeBytes : UInt64)
  | captureCopyTexture (source : GpuGraphResourceId) (sourceSlice destinationSlice : TextureSlice)
  | captureClearBuffer (clearValue : UInt32)
  | captureClearTexture (clearDesc : GpuClearTextureTaskDesc)
  | captureClearTextureRectUInt (clearDesc : GpuClearTextureRectUIntTaskDesc)
  deriving DecidableEq, Repr

/-- A call of one of the capture functions. -/
structure CaptureCall where
  task : GpuTaskId
  packet : GpuSubmissionPacketId
  queue : GpuPhysicalQueueId
  destination : GpuGraphResourceId
  body : CaptureBody
  deriving DecidableEq, Repr

/-- The record that a call appends. -/
def CaptureCall.record (call : CaptureCall) : GpuCommandIrBuiltinTaskRecord :=
  let record : GpuCommandIrBuiltinTaskRecord :=
    { task := call.task
      packet := call.packet
      queue := call.queue
      destination := call.destination }
  match call.body with
  | .captureCopyBuffer source sourceOffsetBytes destinationOffsetBytes dataSizeBytes =>
    { record with
      opcode := .copyBuffer
      source := source
      sourceOffsetBytes := sourceOffsetBytes
      destinationOffsetBytes := destinationOffsetBytes
      dataSizeBytes := dataSizeBytes }
  | .captureCopyTexture source sourceSlice destinationSlice =>
    { record with
      opcode := .copyTexture
      source := source
      sourceSlice := sourceSlice
      destinationSlice := destinationSlice }
  | .captureClearBuffer clearValue =>
    { record with
      opcode := .clearBuffer
      uintClearValue := .splat clearValue }
  | .captureClearTexture clearDesc =>
    { record with
      opcode := .clearTexture
      destinationSubresources := clearDesc.subresources
      clearTextureValueType := clearDesc.valueType
      floatClearValue := clearDesc.floatValue
      uintClearValue := clearDesc.uintValue
      intClearValue := clearDesc.intValue
      depthClearValue := clearDesc.depthValue
      stencilClearValue := clearDesc.stencilValue
      clearDepth := clearDesc.clearDepth
      clearStencil := clearDesc.clearStencil }
  | .captureClearTextureRectUInt clearDesc =>
    { record with
      opcode := .clearTextureRectUInt
      destinationSubresources := clearDesc.subresources
      clearRect := clearDesc.rect
      uintClearValue := clearDesc.uintValue }

/-- The capture after a call, and whether the call was accepted. -/
def GpuCommandIrCapture.capture (capture : GpuCommandIrCapture) (allocated : Bool)
    (call : CaptureCall) : Bool × GpuCommandIrCapture :=
  capture.append allocated call.record

end NwbLot.Capture
