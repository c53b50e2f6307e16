import NwbLot.Telemetry.StreamCodec

/-!
# The payloads of telemetry events

Parsing the payload of a text log, a diagnostic, a timing or memory scope and a frame graph: a
packed header and the names and texts behind it.  An `f64` is its 64 bits.

Every parser has the same shape: the packed header is read and validated, the texts are taken one
behind another, and the sizes have to add up to the payload.  A text is kept with its place in the
payload, so that the contract can say where it lies.
-/

namespace NwbLot.Telemetry

open PodCodec

/-! ## Size sums -/

/-- `AddBinaryRepeatedReserveBytes`. -/
def addBinaryRepeatedReserveBytes (bytes count bytesPerItem : ℕ) : Guarded (Option ℕ) :=
  if bytesPerItem ≠ 0 ∧ count > usizeMax / bytesPerItem then .ok none
  else do
    let repeated ← Guarded.mul count bytesPerItem
    return addBinaryReserveBytes bytes repeated

/-! ## Text log -/

/-- The header of a log line. -/
structure EncodedTextLogPayloadHeader where
  magic : UInt32
  version : UInt16
  type : UInt8
  reserved : UInt8
  messageBytes : UInt64
  deriving DecidableEq, Repr

/-- The bytes of a log line's header. -/
def textLogHeaderCodec : PodCodec EncodedTextLogPayloadHeader :=
  (u32.prod (u16.prod (u8.prod (u8.prod u64)))).ofEquiv
    { toFun := fun h => (h.magic, h.version, h.type, h.reserved, h.messageBytes)
      invFun := fun p => ⟨p.1, p.2.1, p.2.2.1, p.2.2.2.1, p.2.2.2.2⟩
      left_inv := fun _ => rfl
      right_inv := fun _ => rfl }

/-- A log line, its text as a range of the encoded bytes. -/
structure TextLogPayload where
  type : UInt8
  messageUtf8 : CopiedRange
  deriving DecidableEq, Repr

/-- The ranges of the texts. -/
def TextLogPayload.texts (payload : TextLogPayload) : List CopiedRange := [payload.messageUtf8]

/-- `IsValidTextLogType`: the seven values of `LogType`. -/
def isValidTextLogType (type : UInt8) : Bool := decide (type.toNat < 7)

/-- The checks of a log line's header. -/
def validateTextLogHeader (header : EncodedTextLogPayloadHeader) : Bool :=
  header.magic == 0x4E574C47 && header.reserved == 0 && isValidTextLogType header.type

/-- `ParseTextLogPayload`. -/
def parseTextLogPayload (encoded : ByteView) : Guarded (Option TextLogPayload) :=
  if encoded.size < textLogHeaderCodec.size then .ok none
  else do
    match ← ByteView.readPod textLogHeaderCodec encoded 0 with
    | none => return none
    | some (header, cursor) =>
      if validateTextLogHeader header = false then return none
      else if header.messageBytes.toNat > usizeMax then return none
      else
        let remaining ← Guarded.sub encoded.size cursor
        if remaining ≠ header.messageBytes.toNat then return none
        else
          let messageUtf8 ← encoded.copyRange cursor header.messageBytes.toNat
          return some { type := header.type, messageUtf8 }

/-! ## Diagnostics -/

/-- The header of a diagnostic. -/
structure EncodedDiagnosticPayloadHeader where
  magic : UInt32
  version : UInt16
  flags : UInt16
  instructionPointer : UInt64
  line : UInt32
  eventBytes : UInt32
  categoryBytes : UInt32
  expressionBytes : UInt32
  messageBytes : UInt32
  fileBytes : UInt32
  deriving DecidableEq, Repr

/-- The bytes of a diagnostic's header. -/
def diagnosticHeaderCodec : PodCodec EncodedDiagnosticPayloadHeader :=
  (u32.prod (u16.prod (u16.prod (u64.prod (u32.prod (u32.prod (u32.prod (u32.prod
      (u32.prod u32))))))))).ofEquiv
    { toFun := fun h => (h.magic, h.version, h.flags, h.instructionPointer, h.line, h.eventBytes,
        h.categoryBytes, h.expressionBytes, h.messageBytes, h.fileBytes)
      invFun := fun p => ⟨p.1, p.2.1, p.2.2.1, p.2.2.2.1, p.2.2.2.2.1, p.2.2.2.2.2.1,
        p.2.2.2.2.2.2.1, p.2.2.2.2.2.2.2.1, p.2.2.2.2.2.2.2.2.1, p.2.2.2.2.2.2.2.2.2⟩
      left_inv := fun _ => rfl
      right_inv := fun _ => rfl }

/-- A diagnostic, its texts as ranges of the encoded bytes. -/
structure DiagnosticPayload where
  event : CopiedRange
  category : CopiedRange
  expression : CopiedRange
  message : CopiedRange
  file : CopiedRange
  instructionPointer : UInt64
  line : UInt32
  terminatesProcess : Bool
  deriving DecidableEq, Repr

/-- The ranges of the texts. -/
def DiagnosticPayload.texts (payload : DiagnosticPayload) : List CopiedRange :=
  [payload.event, payload.category, payload.expression, payload.message, payload.file]

/-- `DiagnosticPayloadFlag::TerminatesProcess`. -/
def diagnosticTerminatesProcess : UInt16 := 1

/-- The checks of a diagnostic's header. -/
def validateDiagnosticHeader (header : EncodedDiagnosticPayloadHeader) : Bool :=
  header.magic == 0x4E574447 && (header.flags &&& ~~~diagnosticTerminatesProcess) == 0

/-- `ReadText`: the text at the cursor, and the cursor behind it. -/
def readText (payload : ByteView) (cursor : ℕ) (byteCount : UInt32) :
    Guarded (Option (CopiedRange × ℕ)) := do
  if ← payload.canReadBytes cursor byteCount.toNat then
    let text ← payload.copyRange cursor byteCount.toNat
    let behind ← Guarded.add cursor byteCount.toNat
    return some (text, behind)
  else return none

/-- The texts at the cursor, one behind the other, and the cursor behind them. -/
def readTexts (payload : ByteView) : ℕ → List UInt32 → Guarded (Option (List CopiedRange × ℕ))
  | cursor, [] => .ok (some ([], cursor))
  | cursor, byteCount :: byteCounts => do
    match ← readText payload cursor byteCount with
    | none => return none
    | some (text, behind) =>
      match ← readTexts payload behind byteCounts with
      | none => return none
      | some (texts, after) => return some (text :: texts, after)

/-- `ParseDiagnosticPayload`. -/
def parseDiagnosticPayload (encoded : ByteView) : Guarded (Option DiagnosticPayload) :=
  if encoded.size < diagnosticHeaderCodec.size then .ok none
  else do
    match ← ByteView.readPod diagnosticHeaderCodec encoded 0 with
    | none => return none
    | some (header, cursor) =>
      if validateDiagnosticHeader header = false then return none
      else
        match ← readTexts encoded cursor [header.eventBytes, header.categoryBytes,
            header.expressionBytes, header.messageBytes, header.fileBytes] with
        | some ([event, category, expression, message, file], cursor) =>
          if cursor = encoded.size then
            return some
              { event, category, expression, message, file
                instructionPointer := header.instructionPointer
                line := header.line
                terminatesProcess := (header.flags &&& diagnosticTerminatesProcess) != 0 }
          else return none
        | _ => return none

/-! ## Timing and memory scopes -/

/-- `NameHash`, in its 64-bit lanes. -/
abbrev NameHash := Fin 8 → UInt64

/-- The bytes of a name hash. -/
def nameHashCodec : PodCodec NameHash := u64.array 8

/-- All lanes are zero. -/
def isZeroHash (hash : NameHash) : Bool := decide (∀ lane, hash lane = 0)

/-- The header of a timing. -/
structure EncodedPerfTimingPayloadHeader where
  magic : UInt32
  version : UInt16
  source : UInt8
  reserved : UInt8
  scopeHash : NameHash
  seconds : UInt64
  minSeconds : UInt64
  maxSeconds : UInt64
  lastSeconds : UInt64
  publishFrameIndex : UInt64
  firstSampleFrameIndex : UInt64
  lastSampleFrameIndex : UInt64
  sampleCount : UInt32
  scopeNameBytes : UInt32
  deriving DecidableEq

/-- The bytes of a timing's header. -/
def perfTimingHeaderCodec : PodCodec EncodedPerfTimingPayloadHeader :=
  (u32.prod (u16.prod (u8.prod (u8.prod (nameHashCodec.prod (u64.prod (u64.prod (u64.prod
      (u64.prod (u64.prod (u64.prod (u64.prod (u32.prod u32))))))))))))).ofEquiv
    { toFun := fun h => (h.magic, h.version, h.source, h.reserved, h.scopeHash, h.seconds,
        h.minSeconds, h.maxSeconds, h.lastSeconds, h.publishFrameIndex, h.firstSampleFrameIndex,
        h.lastSampleFrameIndex, h.sampleCount, h.scopeNameBytes)
      invFun := fun (magic, version, source, reserved, scopeHash, seconds, minSeconds, maxSeconds,
          lastSeconds, publishFrameIndex, firstSampleFrameIndex, lastSampleFrameIndex,
          sampleCount, scopeNameBytes) =>
        ⟨magic, version, source, reserved, scopeHash, seconds, minSeconds, maxSeconds, lastSeconds,
          publishFrameIndex, firstSampleFrameIndex, lastSampleFrameIndex, sampleCount,
          scopeNameBytes⟩
      left_inv := fun _ => rfl
      right_inv := fun _ => rfl }

/-- The header of a memory snapshot. -/
structure EncodedPerfMemoryPayloadHeader where
  magic : UInt32
  version : UInt16
  flags : UInt16
  scopeHash : NameHash
  frameIndex : UInt64
  reservedBytes : UInt64
  usedBytes : UInt64
  peakUsedBytes : UInt64
  allocationCount : UInt64
  reallocationCount : UInt64
  deallocationCount : UInt64
  previousFrameIndex : UInt64
  deltaReservedBytes : Int64
  deltaUsedBytes : Int64
  deltaPeakUsedBytes : Int64
  deltaAllocationCount : Int64
  deltaReallocationCount : Int64
  deltaDeallocationCount : Int64
  scopeNameBytes : UInt32
  reserved : UInt32
  deriving DecidableEq

/-- The bytes of a memory snapshot's header. -/
def perfMemoryHeaderCodec : PodCodec EncodedPerfMemoryPayloadHeader :=
  (u32.prod (u16.prod (u16.prod (nameHashCodec.prod (u64.prod (u64.prod (u64.prod (u64.prod
      (u64.prod (u64.prod (u64.prod (u64.prod (i64.prod (i64.prod (i64.prod (i64.prod (i64.prod
      (i64.prod (u32.prod u32))))))))))))))))))).ofEquiv
    { toFun := fun h => (h.magic, h.version, h.flags, h.scopeHash, h.frameIndex, h.reservedBytes,
        h.usedBytes, h.peakUsedBytes, h.allocationCount, h.reallocationCount, h.deallocationCount,
        h.previousFrameIndex, h.deltaReservedBytes, h.deltaUsedBytes, h.deltaPeakUsedBytes,
        h.deltaAllocationCount, h.deltaReallocationCount, h.deltaDeallocationCount,
        h.scopeNameBytes, h.reserved)
      invFun := fun (magic, version, flags, scopeHash, frameIndex, reservedBytes, usedBytes,
          peakUsedBytes, allocationCount, reallocationCount, deallocationCount, previousFrameIndex,
          deltaReservedBytes, deltaUsedBytes, deltaPeakUsedBytes, deltaAllocationCount,
          deltaReallocationCount, deltaDeallocationCount, scopeNameBytes, reserved) =>
        ⟨magic, version, flags, scopeHash, frameIndex, reservedBytes, usedBytes, peakUsedBytes,
          allocationCount, reallocationCount, deallocationCount, previousFrameIndex,
          deltaReservedBytes, deltaUsedBytes, deltaPeakUsedBytes, deltaAllocationCount,
          deltaReallocationCount, deltaDeallocationCount, scopeNameBytes, reserved⟩
      left_inv := fun _ => rfl
      right_inv := fun _ => rfl }

example : textLogHeaderCodec.size = 16 ∧ diagnosticHeaderCodec.size = 40 ∧
    perfTimingHeaderCodec.size = 136 ∧ perfMemoryHeaderCodec.size = 192 := by decide

/-- `IsValidPerfTimingSource`: the processor or the device. -/
def isValidPerfTimingSource (source : UInt8) : Bool := source == 1 || source == 2

/-- The checks of a timing's header. -/
def validatePerfTimingHeader (header : EncodedPerfTimingPayloadHeader) : Bool :=
  header.magic == 0x4E575046 && header.reserved == 0 && isValidPerfTimingSource header.source &&
    header.sampleCount != 0 && !isZeroHash header.scopeHash

/-- `PerfMemoryPayloadFlag::HasDelta`. -/
def perfMemoryHasDelta : UInt16 := 1

/-- The checks of a memory snapshot's header. -/
def validatePerfMemoryHeader (header : EncodedPerfMemoryPayloadHeader) : Bool :=
  header.magic == 0x4E57504D && (header.flags &&& ~~~perfMemoryHasDelta) == 0 &&
    header.reserved == 0 && !isZeroHash header.scopeHash

/-- `ParsePerfPayloadWithScopeText`: the header, and the text of the scope that fills the rest. -/
def parsePerfPayloadWithScopeText {α : Type} (codec : PodCodec α) (validate : α → Bool)
    (scopeNameBytes : α → UInt32) (encoded : ByteView) : Guarded (Option (α × CopiedRange)) :=
  if encoded.size < codec.size then .ok none
  else do
    match ← ByteView.readPod codec encoded 0 with
    | none => return none
    | some (header, cursor) =>
      if validate header = false then return none
      else if ← encoded.canReadBytes cursor (scopeNameBytes header).toNat then
        let remaining ← Guarded.sub encoded.size cursor
        if remaining ≠ (scopeNameBytes header).toNat then return none
        else
          let scopeText ← encoded.copyRange cursor (scopeNameBytes header).toNat
          return some (header, scopeText)
      else return none

/-- The times of a scope, as the bits of doubles. -/
structure TimingStats where
  seconds : UInt64
  minSeconds : UInt64
  maxSeconds : UInt64
  lastSeconds : UInt64
  sampleCount : UInt32
  publishFrameIndex : UInt64
  firstSampleFrameIndex : UInt64
  lastSampleFrameIndex : UInt64
  deriving DecidableEq, Repr

/-- A timing, its scope's text as a range of the encoded bytes. -/
structure PerfTimingPayload where
  source : UInt8
  scopeName : NameHash
  scopeText : CopiedRange
  stats : TimingStats
  deriving DecidableEq

/-- The ranges of the texts. -/
def PerfTimingPayload.texts (payload : PerfTimingPayload) : List CopiedRange := [payload.scopeText]

/-- `ParsePerfTimingPayload`. -/
def parsePerfTimingPayload (encoded : ByteView) : Guarded (Option PerfTimingPayload) := do
  let parsed ← parsePerfPayloadWithScopeText perfTimingHeaderCodec validatePerfTimingHeader
    EncodedPerfTimingPayloadHeader.scopeNameBytes encoded
  return parsed.map fun (header, scopeText) =>
    { source := header.source
      scopeName := header.scopeHash
      scopeText
      stats :=
        { seconds := header.seconds
          minSeconds := header.minSeconds
          maxSeconds := header.maxSeconds
          lastSeconds := header.lastSeconds
          sampleCount := header.sampleCount
          publishFrameIndex := header.publishFrameIndex
          firstSampleFrameIndex := header.firstSampleFrameIndex
          lastSampleFrameIndex := header.lastSampleFrameIndex } }

/-- The memory of a scope in a frame. -/
structure MemorySnapshot where
  scopeName : NameHash
  frameIndex : UInt64
  reservedBytes : UInt64
  usedBytes : UInt64
  peakUsedBytes : UInt64
  allocationCount : UInt64
  reallocationCount : UInt64
  deallocationCount : UInt64
  deriving DecidableEq

/-- The memory of a scope against an earlier frame. -/
structure MemoryDelta where
  previousFrameIndex : UInt64 := 0
  currentFrameIndex : UInt64 := 0
  reservedBytes : Int64 := 0
  usedBytes : Int64 := 0
  peakUsedBytes : Int64 := 0
  allocationCount : Int64 := 0
  reallocationCount : Int64 := 0
  deallocationCount : Int64 := 0
  hasSamples : Bool := false
  deriving DecidableEq

/-- A memory snapshot, its scope's text as a range of the encoded bytes. -/
structure PerfMemoryPayload where
  scopeName : NameHash
  scopeText : CopiedRange
  snapshot : MemorySnapshot
  delta : MemoryDelta
  deriving DecidableEq

/-- The ranges of the texts. -/
def PerfMemoryPayload.texts (payload : PerfMemoryPayload) : List CopiedRange := [payload.scopeText]

/-- `ParsePerfMemoryPayload`. -/
def parsePerfMemoryPayload (encoded : ByteView) : Guarded (Option PerfMemoryPayload) := do
  let parsed ← parsePerfPayloadWithScopeText perfMemoryHeaderCodec validatePerfMemoryHeader
    EncodedPerfMemoryPayloadHeader.scopeNameBytes encoded
  return parsed.map fun (header, scopeText) =>
    { scopeName := header.scopeHash
      scopeText
      snapshot :=
        { scopeName := header.scopeHash
          frameIndex := header.frameIndex
          reservedBytes := header.reservedBytes
          usedBytes := header.usedBytes
          peakUsedBytes := header.peakUsedBytes
          allocationCount := header.allocationCount
          reallocationCount := header.reallocationCount
          deallocationCount := header.deallocationCount }
      delta :=
        if (header.flags &&& perfMemoryHasDelta) != 0 then
          { previousFrameIndex := header.previousFrameIndex
            currentFrameIndex := header.frameIndex
            reservedBytes := header.deltaReservedBytes
            usedBytes := header.deltaUsedBytes
            peakUsedBytes := header.deltaPeakUsedBytes
            allocationCount := header.deltaAllocationCount
            reallocationCount := header.deltaReallocationCount
            deallocationCount := header.deltaDeallocationCount
            hasSamples := true }
        else {} }

/-! ## Frame graphs -/

/-- The header of a frame graph. -/
structure EncodedFrameGraphPayloadHeader where
  magic : UInt32
  version : UInt16
  reserved : UInt16
  frameIndex : UInt64
  nodeCount : UInt32
  edgeCount : UInt32
  stringTableBytes : UInt32
  deriving DecidableEq, Repr

/-- A node in the node table. -/
structure EncodedFrameGraphNode where
  nameHash : NameHash
  labelOffset : UInt32
  kind : UInt8
  flags : UInt8
  reserved : UInt16
  deriving DecidableEq

/-- An edge in the edge table. -/
structure EncodedFrameGraphEdge where
  fromNodeIndex : UInt32
  toNodeIndex : UInt32
  kind : UInt8
  flags : UInt8
  reserved : UInt16
  deriving DecidableEq, Repr

/-- The bytes of a frame graph's header. -/
def frameGraphHeaderCodec : PodCodec EncodedFrameGraphPayloadHeader :=
  (u32.prod (u16.prod (u16.prod (u64.prod (u32.prod (u32.prod u32)))))).ofEquiv
    { toFun := fun h => (h.magic, h.version, h.reserved, h.frameIndex, h.nodeCount, h.edgeCount,
        h.stringTableBytes)
      invFun := fun p => ⟨p.1, p.2.1, p.2.2.1, p.2.2.2.1, p.2.2.2.2.1, p.2.2.2.2.2.1,
        p.2.2.2.2.2.2⟩
      left_inv := fun _ => rfl
      right_inv := fun _ => rfl }

/-- The bytes of a node. -/
def frameGraphNodeCodec : PodCodec EncodedFrameGraphNode :=
  (nameHashCodec.prod (u32.prod (u8.prod (u8.prod u16)))).ofEquiv
    { toFun := fun n => (n.nameHash, n.labelOffset, n.kind, n.flags, n.reserved)
      invFun := fun p => ⟨p.1, p.2.1, p.2.2.1, p.2.2.2.1, p.2.2.2.2⟩
      left_inv := fun _ => rfl
      right_inv := fun _ => rfl }

/-- The bytes of an edge. -/
def frameGraphEdgeCodec : PodCodec EncodedFrameGraphEdge :=
  (u32.prod (u32.prod (u8.prod (u8.prod u16)))).ofEquiv
    { toFun := fun e => (e.fromNodeIndex, e.toNodeIndex, e.kind, e.flags, e.reserved)
      invFun := fun p => ⟨p.1, p.2.1, p.2.2.1, p.2.2.2.1, p.2.2.2.2⟩
      left_inv := fun _ => rfl
      right_inv := fun _ => rfl }

example : frameGraphHeaderCodec.size = 28 ∧ frameGraphNodeCodec.size = 72 ∧
    frameGraphEdgeCodec.size = 12 := by decide

/-- `IsValidFrameGraphNodeKind`: a pass, a resource or an external node. -/
def isValidFrameGraphNodeKind (kind : UInt8) : Bool := kind == 1 || kind == 2 || kind == 3

/-- `IsValidFrameGraphEdgeKind`: reads, writes or depends on. -/
def isValidFrameGraphEdgeKind (kind : UInt8) : Bool := kind == 1 || kind == 2 || kind == 3

/-- The checks of a frame graph's header. -/
def validateFrameGraphHeader (header : EncodedFrameGraphPayloadHeader) : Bool :=
  header.magic == 0x4E574647 && header.reserved == 0

/-- The checks of a node, apart from its label. -/
def validateEncodedNode (node : EncodedFrameGraphNode) : Bool :=
  node.reserved == 0 && !isZeroHash node.nameHash && isValidFrameGraphNodeKind node.kind

/-- The checks of an edge among its nodes. -/
def validateEncodedEdge (edge : EncodedFrameGraphEdge) (nodeCount : UInt32) : Bool :=
  edge.reserved == 0 && isValidFrameGraphEdgeKind edge.kind &&
    decide (edge.fromNodeIndex < nodeCount) && decide (edge.toNodeIndex < nodeCount)

/-- A node, its label as a range of the string table. -/
structure FrameGraphNodePayload where
  name : NameHash
  label : CopiedRange
  kind : UInt8
  flags : UInt8
  deriving DecidableEq

/-- An edge between two nodes. -/
structure FrameGraphEdgePayload where
  fromNodeIndex : UInt32
  toNodeIndex : UInt32
  kind : UInt8
  flags : UInt8
  deriving DecidableEq, Repr

/-- A frame graph as it is parsed. -/
structure FrameGraphPayload where
  frameIndex : UInt64
  nodes : List FrameGraphNodePayload
  edges : List FrameGraphEdgePayload
  deriving DecidableEq

/-- The ranges of the labels. -/
def FrameGraphPayload.texts (payload : FrameGraphPayload) : List CopiedRange :=
  payload.nodes.map FrameGraphNodePayload.label

/-- The bytes before a null byte, of at most so many. -/
def scanText (binary : ByteView) (absoluteOffset : ℕ) : ℕ → ℕ → Guarded ℕ
  | 0, textLength => .ok textLength
  | remaining + 1, textLength => do
    let byte ← binary.byteAt (absoluteOffset + textLength)
    if byte ≠ 0 then scanText binary absoluteOffset remaining (textLength + 1)
    else return textLength

/-- `ReadStringTableTextView`. -/
def readStringTableTextView (binary : ByteView) (stringTableOffset stringTableByteCount : ℕ)
    (textOffset : UInt32) : Guarded (Option CopiedRange) :=
  if textOffset = 0xFFFFFFFF ∨ textOffset.toNat ≥ stringTableByteCount then .ok none
  else do
    if ← binary.canReadBytes stringTableOffset stringTableByteCount then
      let absoluteOffset ← Guarded.add stringTableOffset textOffset.toNat
      let remainingBytes ← Guarded.sub stringTableByteCount textOffset.toNat
      let textLength ← scanText binary absoluteOffset remainingBytes 0
      if textLength = 0 ∨ textLength ≥ remainingBytes then return none
      else
        let text ← binary.copyRange absoluteOffset textLength
        return some text
    else return none

/-- The nodes at the cursor, and the cursor behind them. -/
def readNodes (encoded : ByteView) (stringTableOffset stringTableBytes : ℕ) :
    ℕ → ℕ → Guarded (Option (List FrameGraphNodePayload × ℕ))
  | 0, cursor => .ok (some ([], cursor))
  | count + 1, cursor => do
    match ← ByteView.readPod frameGraphNodeCodec encoded cursor with
    | none => return none
    | some (encodedNode, cursor) =>
      if validateEncodedNode encodedNode = false then return none
      else
        match ← readStringTableTextView encoded stringTableOffset stringTableBytes
            encodedNode.labelOffset with
        | none => return none
        | some label =>
          match ← readNodes encoded stringTableOffset stringTableBytes count cursor with
          | none => return none
          | some (nodes, cursor) =>
            return some ({ name := encodedNode.nameHash, label, kind := encodedNode.kind
                           flags := encodedNode.flags } :: nodes, cursor)

/-- The edges at the cursor, and the cursor behind them. -/
def readEdges (encoded : ByteView) (nodeCount : UInt32) :
    ℕ → ℕ → Guarded (Option (List FrameGraphEdgePayload × ℕ))
  | 0, cursor => .ok (some ([], cursor))
  | count + 1, cursor => do
    match ← ByteView.readPod frameGraphEdgeCodec encoded cursor with
    | none => return none
    | some (encodedEdge, cursor) =>
      if validateEncodedEdge encodedEdge nodeCount = false then return none
      else
        match ← readEdges encoded nodeCount count cursor with
        | none => return none
        | some (edges, cursor) =>
          return some ({ fromNodeIndex := encodedEdge.fromNodeIndex
                         toNodeIndex := encodedEdge.toNodeIndex
                         kind := encodedEdge.kind
                         flags := encodedEdge.flags } :: edges, cursor)

/-- The sums over the sizes that a frame graph header declares, which the source takes twice: the
offset of the string table, and the expected size of the payload. -/
def frameGraphOffsets (header : EncodedFrameGraphPayloadHeader) : Guarded (Option (ℕ × ℕ)) := do
  match ← addBinaryRepeatedReserveBytes frameGraphHeaderCodec.size header.nodeCount.toNat
      frameGraphNodeCodec.size with
  | none => return none
  | some edgeOffset =>
    match ← addBinaryRepeatedReserveBytes edgeOffset header.edgeCount.toNat
        frameGraphEdgeCodec.size with
    | none => return none
    | some stringTableOffset =>
      match addBinaryReserveBytes stringTableOffset header.stringTableBytes.toNat with
      | none => return none
      | some expectedBytes => return some (stringTableOffset, expectedBytes)

/-- `ParseFrameGraphPayload`. -/
def parseFrameGraphPayload (encoded : ByteView) : Guarded (Option FrameGraphPayload) :=
  if encoded.size < frameGraphHeaderCodec.size then .ok none
  else do
    match ← ByteView.readPod frameGraphHeaderCodec encoded 0 with
    | none => return none
    | some (header, cursor) =>
      if validateFrameGraphHeader header = false then return none
      else
        match ← frameGraphOffsets header with
        | none => return none
        | some (stringTableOffset, expectedBytes) =>
          if expectedBytes ≠ encoded.size then return none
          else
            match ← readNodes encoded stringTableOffset header.stringTableBytes.toNat
                header.nodeCount.toNat cursor with
            | none => return none
            | some (nodes, cursor) =>
              match ← readEdges encoded header.nodeCount header.edgeCount.toNat cursor with
              | none => return none
              | some (edges, cursor) =>
                if cursor = stringTableOffset then
                  return some { frameIndex := header.frameIndex, nodes, edges }
                else return none

end NwbLot.Telemetry
