import NwbLot.Library.PodCodec

/-!
# The command IR records

Captured built-in tasks and the packed records that a command stream stores for them.  Words are
stored in little-endian order; an `f32` is its 32 bits.

The records follow the source field by field, and each packed record has a codec that stores
its fields in the order of the source; the sizes of the codecs are those of the packed structures.
-/

namespace NwbLot.Capture

/-! ## Captured tasks -/

/-- A task of one graph generation. -/
structure GpuTaskId where
  index : UInt32 := 0xFFFFFFFF
  generation : UInt64 := 0
  deriving DecidableEq, Repr

/-- The handle names a task. -/
def GpuTaskId.valid (task : GpuTaskId) : Bool :=
  task.index != 0xFFFFFFFF && task.generation != 0

/-- A packet of one plan generation. -/
structure GpuSubmissionPacketId where
  index : UInt32 := 0xFFFFFFFF
  generation : UInt64 := 0
  deriving DecidableEq, Repr

/-- The handle names a packet. -/
def GpuSubmissionPacketId.valid (packet : GpuSubmissionPacketId) : Bool :=
  packet.index != 0xFFFFFFFF && packet.generation != 0

/-- A queue of one device generation. -/
structure GpuPhysicalQueueId where
  index : UInt16 := 0xFFFF
  deviceGeneration : UInt16 := 0
  deriving DecidableEq, Repr

/-- The handle names a queue. -/
def GpuPhysicalQueueId.valid (queue : GpuPhysicalQueueId) : Bool :=
  queue.index != 0xFFFF && queue.deviceGeneration != 0

/-- A resource of one graph generation. -/
structure GpuGraphResourceId where
  index : UInt32 := 0xFFFFFFFF
  generation : UInt64 := 0
  deriving DecidableEq, Repr

/-- The handle names a resource. -/
def GpuGraphResourceId.valid (resource : GpuGraphResourceId) : Bool :=
  resource.index != 0xFFFFFFFF && resource.generation != 0

/-- A box of texels in one subresource. -/
structure TextureSlice where
  x : UInt32 := 0
  y : UInt32 := 0
  z : UInt32 := 0
  width : UInt32 := 0xFFFFFFFF
  height : UInt32 := 0xFFFFFFFF
  depth : UInt32 := 0xFFFFFFFF
  mipLevel : UInt32 := 0
  arraySlice : UInt32 := 0
  deriving DecidableEq, Repr

/-- A range of mip levels and array slices. -/
structure TextureSubresourceSet where
  baseMipLevel : UInt32 := 0
  numMipLevels : UInt32 := 1
  baseArraySlice : UInt32 := 0
  numArraySlices : UInt32 := 1
  deriving DecidableEq, Repr

/-- `s_AllSubresources`. -/
def allSubresources : TextureSubresourceSet := ⟨0, 0xFFFFFFFF, 0, 0xFFFFFFFF⟩

/-- A rectangle of texels, its upper bounds excluded. -/
structure Rect where
  minX : Int32 := 0
  maxX : Int32 := 0
  minY : Int32 := 0
  maxY : Int32 := 0
  deriving DecidableEq, Repr

/-- `Color`, `UIntColor` and `IntColor`, by the type of their channels. -/
structure Channels (α : Type) where
  r : α
  g : α
  b : α
  a : α
  deriving DecidableEq, Repr

/-- A float color, as the bits of its channels. -/
abbrev Color := Channels UInt32
/-- A color of unsigned integers. -/
abbrev UIntColor := Channels UInt32
/-- A color of signed integers. -/
abbrev IntColor := Channels Int32

/-- `UIntColor(c)` -/
def UIntColor.splat (c : UInt32) : UIntColor := ⟨c, c, c, c⟩

/-- The built-in tasks. -/
inductive GpuCommandIrOpcode
  | copyBuffer | copyTexture | clearBuffer | clearTexture | clearTextureRectUInt
  deriving DecidableEq, Repr

namespace GpuClearTextureTaskValueType

/-- A clear with a float color. -/
def float : UInt8 := 0
/-- A clear with unsigned integers. -/
def uInt : UInt8 := 1
/-- A clear with signed integers. -/
def int : UInt8 := 2
/-- A clear of depth and stencil. -/
def depthStencil : UInt8 := 3
/-- The number of value types. -/
def kCount : UInt8 := 4
end GpuClearTextureTaskValueType

/-- A built-in task as the capture takes it and the reader returns it. -/
structure GpuCommandIrBuiltinTaskRecord where
  opcode : GpuCommandIrOpcode := .copyBuffer
  task : GpuTaskId := {}
  packet : GpuSubmissionPacketId := {}
  queue : GpuPhysicalQueueId := {}
  source : GpuGraphResourceId := {}
  destination : GpuGraphResourceId := {}
  sourceOffsetBytes : UInt64 := 0
  destinationOffsetBytes : UInt64 := 0
  dataSizeBytes : UInt64 := 0
  sourceSlice : TextureSlice := {}
  destinationSlice : TextureSlice := {}
  destinationSubresources : TextureSubresourceSet := allSubresources
  clearRect : Rect := {}
  clearTextureValueType : UInt8 := GpuClearTextureTaskValueType.uInt
  floatClearValue : Color := ⟨0, 0, 0, 0⟩
  uintClearValue : UIntColor := ⟨0, 0, 0, 0⟩
  intClearValue : IntColor := ⟨0, 0, 0, 0⟩
  depthClearValue : UInt32 := 0x3F800000
  stencilClearValue : UInt8 := 0
  clearDepth : Bool := false
  clearStencil : Bool := false
  deriving DecidableEq, Repr

/-- `ValidateBuiltinRecord`; an opcode outside the enumeration cannot be built. -/
def validateBuiltinRecord (record : GpuCommandIrBuiltinTaskRecord) : Bool :=
  record.task.valid && record.packet.valid && record.queue.valid && record.destination.valid &&
    record.destination.generation == record.task.generation &&
  match record.opcode with
  | .copyBuffer =>
    record.source.valid && record.source.generation == record.task.generation &&
      record.dataSizeBytes != 0
  | .copyTexture => record.source.valid && record.source.generation == record.task.generation
  | .clearBuffer => true
  | .clearTexture =>
    record.clearTextureValueType < GpuClearTextureTaskValueType.kCount &&
      record.destinationSubresources.numMipLevels != 0 &&
      record.destinationSubresources.numArraySlices != 0 &&
      (record.clearTextureValueType != GpuClearTextureTaskValueType.depthStencil ||
        record.clearDepth || record.clearStencil)
  | .clearTextureRectUInt =>
    record.destinationSubresources.numMipLevels != 0 &&
      record.destinationSubresources.numArraySlices != 0 &&
      decide (record.clearRect.minX < record.clearRect.maxX) &&
      decide (record.clearRect.minY < record.clearRect.maxY)

/-! ## Stored records -/

namespace GpuCommandIrWireOpcode

/-- A copy between buffers. -/
def copyBuffer : UInt16 := 9
/-- A copy between textures. -/
def copyTexture : UInt16 := 10
/-- A clear of a whole buffer. -/
def clearBuffer : UInt16 := 11
/-- A clear of subresources. -/
def clearTexture : UInt16 := 12
/-- A clear of a rectangle with unsigned integers. -/
def clearTextureRectUInt : UInt16 := 16
end GpuCommandIrWireOpcode

/-- The first word of a stream. -/
def streamMagic : UInt32 := 0x4E574349
/-- The oldest version that a reader accepts. -/
def streamFirstSupportedVersion : UInt16 := 3
/-- The version that is written. -/
def streamVersion : UInt16 := 3

/-- What every version of the header begins with. -/
structure GpuCommandIrStreamHeaderPrefix where
  magic : UInt32 := streamMagic
  version : UInt16 := streamVersion
  reserved : UInt16 := 0
  deriving DecidableEq, Repr

/-- The header of a stream. -/
structure GpuCommandIrStreamHeader where
  magic : UInt32 := streamMagic
  version : UInt16 := streamVersion
  reserved : UInt16 := 0
  graphGeneration : UInt64 := 0
  planGeneration : UInt64 := 0
  recordCount : UInt64 := 0
  payloadBytes : UInt64 := 0
  deriving DecidableEq, Repr

/-- What every record begins with. -/
structure GpuCommandIrHeader where
  opcode : UInt16 := GpuCommandIrWireOpcode.copyBuffer
  byteSize : UInt16 := 0
  deriving DecidableEq, Repr

/-- The task, packet and queue of a record. -/
structure GpuCommandIrRecordContext where
  taskIndex : UInt32
  packetIndex : UInt32
  queueIndex : UInt16
  queueDeviceGeneration : UInt16
  deriving DecidableEq, Repr

/-- A buffer copy on the wire. -/
structure GpuCommandIrCopyBufferRecord where
  header : GpuCommandIrHeader
  context : GpuCommandIrRecordContext
  sourceResourceIndex : UInt32
  destinationResourceIndex : UInt32
  sourceOffsetBytes : UInt64
  destinationOffsetBytes : UInt64
  dataSizeBytes : UInt64
  deriving DecidableEq, Repr

/-- A texture copy on the wire. -/
structure GpuCommandIrCopyTextureRecord where
  header : GpuCommandIrHeader
  context : GpuCommandIrRecordContext
  sourceResourceIndex : UInt32
  destinationResourceIndex : UInt32
  sourceSlice : TextureSlice
  destinationSlice : TextureSlice
  deriving DecidableEq, Repr

/-- A buffer clear on the wire. -/
structure GpuCommandIrClearBufferRecord where
  header : GpuCommandIrHeader
  context : GpuCommandIrRecordContext
  destinationResourceIndex : UInt32
  clearValue : UInt32
  deriving DecidableEq, Repr

namespace GpuCommandIrClearTextureFlag

/-- Neither aspect. -/
def none : UInt8 := 0
/-- The depth aspect. -/
def clearDepth : UInt8 := 1
/-- The stencil aspect. -/
def clearStencil : UInt8 := 2
end GpuCommandIrClearTextureFlag

/-- A texture clear on the wire. -/
structure GpuCommandIrClearTextureRecord where
  header : GpuCommandIrHeader
  context : GpuCommandIrRecordContext
  destinationResourceIndex : UInt32
  destinationSubresources : TextureSubresourceSet
  floatClearValue : Color
  uintClearValue : UIntColor
  intClearValue : IntColor
  depthClearValue : UInt32
  stencilClearValue : UInt8
  clearTextureValueType : UInt8
  clearFlags : UInt8
  reserved : UInt8
  deriving DecidableEq, Repr

/-- A rectangle clear on the wire. -/
structure GpuCommandIrClearTextureRectUIntRecord where
  header : GpuCommandIrHeader
  context : GpuCommandIrRecordContext
  destinationResourceIndex : UInt32
  destinationSubresources : TextureSubresourceSet
  clearRect : Rect
  uintClearValue : UIntColor
  deriving DecidableEq, Repr

/-! ## Layouts -/

section Layouts

open PodCodec

/-- The fields of the packed records, in their order. -/
def headerPrefixCodec : PodCodec GpuCommandIrStreamHeaderPrefix :=
  (u32.prod (u16.prod u16)).ofEquiv
    { toFun := fun h => (h.magic, h.version, h.reserved)
      invFun := fun (magic, version, reserved) => ⟨magic, version, reserved⟩
      left_inv := fun _ => rfl
      right_inv := fun _ => rfl }

/-- The bytes of a stream header. -/
def streamHeaderCodec : PodCodec GpuCommandIrStreamHeader :=
  (u32.prod (u16.prod (u16.prod (u64.prod (u64.prod (u64.prod u64)))))).ofEquiv
    { toFun := fun h => (h.magic, h.version, h.reserved, h.graphGeneration, h.planGeneration,
        h.recordCount, h.payloadBytes)
      invFun := fun (magic, version, reserved, graphGeneration, planGeneration, recordCount,
        payloadBytes) => ⟨magic, version, reserved, graphGeneration, planGeneration, recordCount,
          payloadBytes⟩
      left_inv := fun _ => rfl
      right_inv := fun _ => rfl }

/-- The bytes of a record header. -/
def headerCodec : PodCodec GpuCommandIrHeader :=
  (u16.prod u16).ofEquiv
    { toFun := fun h => (h.opcode, h.byteSize)
      invFun := fun (opcode, byteSize) => ⟨opcode, byteSize⟩
      left_inv := fun _ => rfl
      right_inv := fun _ => rfl }

/-- The bytes of a record context. -/
def contextCodec : PodCodec GpuCommandIrRecordContext :=
  (u32.prod (u32.prod (u16.prod u16))).ofEquiv
    { toFun := fun c => (c.taskIndex, c.packetIndex, c.queueIndex, c.queueDeviceGeneration)
      invFun := fun (taskIndex, packetIndex, queueIndex, queueDeviceGeneration) =>
        ⟨taskIndex, packetIndex, queueIndex, queueDeviceGeneration⟩
      left_inv := fun _ => rfl
      right_inv := fun _ => rfl }

/-- `GpuCommandIrTextureSlice` -/
def textureSliceCodec : PodCodec TextureSlice :=
  (u32.prod (u32.prod (u32.prod (u32.prod (u32.prod (u32.prod (u32.prod u32))))))).ofEquiv
    { toFun := fun s => (s.x, s.y, s.z, s.width, s.height, s.depth, s.mipLevel, s.arraySlice)
      invFun := fun (x, y, z, width, height, depth, mipLevel, arraySlice) =>
        ⟨x, y, z, width, height, depth, mipLevel, arraySlice⟩
      left_inv := fun _ => rfl
      right_inv := fun _ => rfl }

/-- `GpuCommandIrTextureSubresourceSet` -/
def subresourcesCodec : PodCodec TextureSubresourceSet :=
  (u32.prod (u32.prod (u32.prod u32))).ofEquiv
    { toFun := fun s => (s.baseMipLevel, s.numMipLevels, s.baseArraySlice, s.numArraySlices)
      invFun := fun (baseMipLevel, numMipLevels, baseArraySlice, numArraySlices) =>
        ⟨baseMipLevel, numMipLevels, baseArraySlice, numArraySlices⟩
      left_inv := fun _ => rfl
      right_inv := fun _ => rfl }

/-- `GpuCommandIrRect` -/
def rectCodec : PodCodec Rect :=
  (i32.prod (i32.prod (i32.prod i32))).ofEquiv
    { toFun := fun r => (r.minX, r.maxX, r.minY, r.maxY)
      invFun := fun (minX, maxX, minY, maxY) => ⟨minX, maxX, minY, maxY⟩
      left_inv := fun _ => rfl
      right_inv := fun _ => rfl }

/-- The bytes of a color, channel by channel. -/
def channelsCodec {α : Type} (channel : PodCodec α) : PodCodec (Channels α) :=
  (channel.prod (channel.prod (channel.prod channel))).ofEquiv
    { toFun := fun c => (c.r, c.g, c.b, c.a)
      invFun := fun (r, g, b, a) => ⟨r, g, b, a⟩
      left_inv := fun _ => rfl
      right_inv := fun _ => rfl }

/-- The bytes of a buffer copy. -/
def copyBufferCodec : PodCodec GpuCommandIrCopyBufferRecord :=
  (headerCodec.prod (contextCodec.prod (u32.prod (u32.prod (u64.prod (u64.prod u64)))))).ofEquiv
    { toFun := fun r => (r.header, r.context, r.sourceResourceIndex, r.destinationResourceIndex,
        r.sourceOffsetBytes, r.destinationOffsetBytes, r.dataSizeBytes)
      invFun := fun (header, context, sourceResourceIndex, destinationResourceIndex,
        sourceOffsetBytes, destinationOffsetBytes, dataSizeBytes) =>
          ⟨header, context, sourceResourceIndex, destinationResourceIndex, sourceOffsetBytes,
            destinationOffsetBytes, dataSizeBytes⟩
      left_inv := fun _ => rfl
      right_inv := fun _ => rfl }

/-- The bytes of a texture copy. -/
def copyTextureCodec : PodCodec GpuCommandIrCopyTextureRecord :=
  (headerCodec.prod (contextCodec.prod (u32.prod (u32.prod
      (textureSliceCodec.prod textureSliceCodec))))).ofEquiv
    { toFun := fun r => (r.header, r.context, r.sourceResourceIndex, r.destinationResourceIndex,
        r.sourceSlice, r.destinationSlice)
      invFun := fun (header, context, sourceResourceIndex, destinationResourceIndex, sourceSlice,
        destinationSlice) => ⟨header, context, sourceResourceIndex, destinationResourceIndex,
          sourceSlice, destinationSlice⟩
      left_inv := fun _ => rfl
      right_inv := fun _ => rfl }

/-- The bytes of a buffer clear. -/
def clearBufferCodec : PodCodec GpuCommandIrClearBufferRecord :=
  (headerCodec.prod (contextCodec.prod (u32.prod u32))).ofEquiv
    { toFun := fun r => (r.header, r.context, r.destinationResourceIndex, r.clearValue)
      invFun := fun (header, context, destinationResourceIndex, clearValue) =>
        ⟨header, context, destinationResourceIndex, clearValue⟩
      left_inv := fun _ => rfl
      right_inv := fun _ => rfl }

/-- The bytes of a texture clear. -/
def clearTextureCodec : PodCodec GpuCommandIrClearTextureRecord :=
  (headerCodec.prod (contextCodec.prod (u32.prod (subresourcesCodec.prod
    ((channelsCodec u32).prod ((channelsCodec u32).prod ((channelsCodec i32).prod
      (u32.prod (u8.prod (u8.prod (u8.prod u8))))))))))).ofEquiv
    { toFun := fun r => (r.header, r.context, r.destinationResourceIndex,
        r.destinationSubresources, r.floatClearValue, r.uintClearValue, r.intClearValue,
        r.depthClearValue, r.stencilClearValue, r.clearTextureValueType, r.clearFlags, r.reserved)
      invFun := fun (header, context, destinationResourceIndex, destinationSubresources,
        floatClearValue, uintClearValue, intClearValue, depthClearValue, stencilClearValue,
        clearTextureValueType, clearFlags, reserved) =>
          ⟨header, context, destinationResourceIndex, destinationSubresources, floatClearValue,
            uintClearValue, intClearValue, depthClearValue, stencilClearValue,
            clearTextureValueType, clearFlags, reserved⟩
      left_inv := fun _ => rfl
      right_inv := fun _ => rfl }

/-- The bytes of a rectangle clear. -/
def clearTextureRectUIntCodec : PodCodec GpuCommandIrClearTextureRectUIntRecord :=
  (headerCodec.prod (contextCodec.prod (u32.prod (subresourcesCodec.prod
    (rectCodec.prod (channelsCodec u32)))))).ofEquiv
    { toFun := fun r => (r.header, r.context, r.destinationResourceIndex,
        r.destinationSubresources, r.clearRect, r.uintClearValue)
      invFun := fun (header, context, destinationResourceIndex, destinationSubresources, clearRect,
        uintClearValue) => ⟨header, context, destinationResourceIndex, destinationSubresources,
          clearRect, uintClearValue⟩
      left_inv := fun _ => rfl
      right_inv := fun _ => rfl }

/-- The sizes that the packed layout promises. -/
example : headerPrefixCodec.size = 8 ∧ streamHeaderCodec.size = 40 ∧ headerCodec.size = 4 ∧
    contextCodec.size = 12 ∧ textureSliceCodec.size = 32 ∧ subresourcesCodec.size = 16 ∧
    rectCodec.size = 16 ∧ copyBufferCodec.size = 48 ∧ copyTextureCodec.size = 88 ∧
    clearBufferCodec.size = 24 ∧ clearTextureCodec.size = 92 ∧
    clearTextureRectUIntCodec.size = 68 := by decide

end Layouts

end NwbLot.Capture
