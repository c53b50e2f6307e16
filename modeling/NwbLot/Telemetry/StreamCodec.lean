import Mathlib.Data.UInt
import Mathlib.Data.List.Forall2
import NwbLot.Library.PodCodec

/-!
# Telemetry events and their recorder

`EventHeader`, `EventRecord` and `Recorder`: what is recorded while the capture of its kind is
enabled, and what is appended as it is.  Storage for a record is taken to be granted.

A stream is a header and the events, each a packed header with its payload behind it.  Decoding
checks magic, version, kind and sizes before it takes anything.
-/

namespace NwbLot.Telemetry

/-- The version of the event format. -/
def telemetryFormatVersion : UInt16 := 1
/-- The first word of an event. -/
def eventMagic : UInt32 := 0x4E574254

/-- `EventKind`, stored in 16 bits: a header read from a stream holds any of their values. -/
abbrev EventKind := UInt16

namespace EventKind

/-- No event has this kind. -/
def unknown : EventKind := 0
/-- A line of the log. -/
def textLog : EventKind := 1
/-- A diagnostic of the program. -/
def diagnostic : EventKind := 2
/-- A timing of a frame. -/
def perfFrame : EventKind := 3
/-- The frame graph of a frame. -/
def frameGraphFrame : EventKind := 4
/-- The memory of a frame. -/
def memoryFrame : EventKind := 5

end EventKind

/-- `IsValidEventKind`. -/
def isValidEventKind (kind : EventKind) : Bool :=
  kind == .unknown || kind == .textLog || kind == .diagnostic || kind == .perfFrame ||
    kind == .frameGraphFrame || kind == .memoryFrame

/-! ## Capture options -/

/-- The kinds of events that a recorder takes. -/
abbrev CaptureFlags := UInt32

namespace CaptureFlags

/-- Nothing is captured. -/
def none : CaptureFlags := 0
/-- Log lines are captured. -/
def textLog : CaptureFlags := (1 : UInt32) <<< 0
/-- Diagnostics are captured. -/
def diagnostic : CaptureFlags := (1 : UInt32) <<< 1
/-- Timings and memory are captured. -/
def perf : CaptureFlags := (1 : UInt32) <<< 2
/-- Frame graphs are captured. -/
def frameGraph : CaptureFlags := (1 : UInt32) <<< 3

end CaptureFlags

/-- Some kind is captured. -/
def anyCapture (value : CaptureFlags) : Bool := value != 0

/-- A flag is set. -/
def hasCapture (value flag : CaptureFlags) : Bool := anyCapture (value &&& flag)

/-- The flags of a recorder. -/
structure CaptureOptions where
  flags : CaptureFlags := CaptureFlags.none
  deriving DecidableEq, Repr

/-- The recorder captures something. -/
def CaptureOptions.enabled (options : CaptureOptions) : Bool := anyCapture options.flags

/-- The flag that a kind of event asks for. -/
def captureFlagForEventKind (kind : EventKind) : CaptureFlags :=
  if kind = .textLog then .textLog
  else if kind = .diagnostic then .diagnostic
  else if kind = .perfFrame ∨ kind = .memoryFrame then .perf
  else if kind = .frameGraphFrame then .frameGraph
  else .none

/-- The options let events of the kind in. -/
def captureAllowsEventKind (capture : CaptureOptions) (kind : EventKind) : Bool :=
  hasCapture capture.flags (captureFlagForEventKind kind)

/-! ## Events -/

/-- What every event begins with. -/
structure EventHeader where
  magic : UInt32 := eventMagic
  version : UInt16 := telemetryFormatVersion
  kind : EventKind := .unknown
  reserved : UInt8 := 0
  streamId : UInt32 := 0
  frameIndex : UInt64 := 0
  timestampNanoseconds : UInt64 := 0
  payloadBytes : UInt64 := 0
  deriving DecidableEq, Repr

/-- The header belongs to an event of a known kind. -/
def EventHeader.valid (header : EventHeader) : Bool :=
  header.magic == eventMagic && header.kind != .unknown && isValidEventKind header.kind

/-- An event with its payload. -/
structure EventRecord where
  header : EventHeader := {}
  payload : List UInt8 := []
  deriving DecidableEq, Repr

/-- Bytes behind a pointer, which may be null. -/
structure RawBytes where
  bytes : List UInt8
  hasData : Bool := true
  deriving DecidableEq, Repr

/-! ## The recorder -/

/-- The events so far, and what is captured. -/
structure Recorder where
  events : List EventRecord := []
  capture : CaptureOptions := {}
  deriving DecidableEq, Repr

namespace Recorder

/-- Turning the capture off drops the events. -/
def setCaptureOptions (recorder : Recorder) (options : CaptureOptions) : Recorder :=
  if options.enabled then { recorder with capture := options }
  else { events := [], capture := options }

/-- The events are dropped. -/
def clear (recorder : Recorder) : Recorder := { recorder with events := [] }

/-- The recorder takes events of the kind. -/
def enabled (recorder : Recorder) (kind : EventKind) : Bool :=
  captureAllowsEventKind recorder.capture kind

/-- `appendUnlocked`: whether the event is accepted, and the recorder then. -/
def appendUnlocked (recorder : Recorder) (header : EventHeader) (payload : RawBytes) :
    Bool × Recorder :=
  if header.valid = false then (false, recorder)
  else if header.payloadBytes.toNat ≠ payload.bytes.length then (false, recorder)
  else if payload.bytes.length ≠ 0 ∧ payload.hasData = false then (false, recorder)
  else (true, { recorder with events := recorder.events ++ [⟨header, payload.bytes⟩] })

/-- `appendPayloadUnlocked`: a payload of another arena is appended as raw bytes. -/
def appendPayloadUnlocked (recorder : Recorder) (header : EventHeader) (payload : List UInt8)
    (sameArena : Bool) : Bool × Recorder :=
  if header.valid = false then (false, recorder)
  else if header.payloadBytes.toNat ≠ payload.length then (false, recorder)
  else if sameArena = false then recorder.appendUnlocked header ⟨payload, true⟩
  else (true, { recorder with events := recorder.events ++ [⟨header, payload⟩] })

/-- `MakeEventHeader`. -/
def makeEventHeader (kind : EventKind) (frameIndex timestampNanoseconds : UInt64)
    (payloadBytes : ℕ) (streamId : UInt32) : EventHeader where
  kind := kind
  streamId := streamId
  frameIndex := frameIndex
  timestampNanoseconds := timestampNanoseconds
  payloadBytes := UInt64.ofNat payloadBytes

/-- An event over a copy of raw bytes. -/
def recordBinary (recorder : Recorder) (kind : EventKind) (frameIndex timestamp : UInt64)
    (payload : RawBytes) (streamId : UInt32) : Bool × Recorder :=
  if recorder.enabled kind = false then (false, recorder)
  else
    recorder.appendUnlocked
      (makeEventHeader kind frameIndex timestamp payload.bytes.length streamId) payload

/-- An event over a payload that the caller has built. -/
def recordPayload (recorder : Recorder) (kind : EventKind) (frameIndex timestamp : UInt64)
    (payload : List UInt8) (streamId : UInt32) (sameArena : Bool) : Bool × Recorder :=
  if recorder.enabled kind = false then (false, recorder)
  else
    recorder.appendPayloadUnlocked
      (makeEventHeader kind frameIndex timestamp payload.length streamId) payload sameArena

end Recorder

/-! ## What a recorder holds -/

/-- A call of the recorder. -/
inductive RecorderCall
  | setCaptureOptions (options : CaptureOptions)
  | clear
  | recordBinary (kind : EventKind) (frameIndex timestamp : UInt64) (payload : RawBytes)
    (streamId : UInt32)
  | recordPayload (kind : EventKind) (frameIndex timestamp : UInt64) (payload : List UInt8)
    (streamId : UInt32) (sameArena : Bool)
  | append (header : EventHeader) (payload : RawBytes)
  | appendPayload (header : EventHeader) (payload : List UInt8) (sameArena : Bool)

/-- The recorder after a call. -/
def Recorder.after (recorder : Recorder) : RecorderCall → Recorder
  | .setCaptureOptions options => recorder.setCaptureOptions options
  | .clear => recorder.clear
  | .recordBinary kind frameIndex timestamp payload streamId =>
    (recorder.recordBinary kind frameIndex timestamp payload streamId).2
  | .recordPayload kind frameIndex timestamp payload streamId sameArena =>
    (recorder.recordPayload kind frameIndex timestamp payload streamId sameArena).2
  | .append header payload => (recorder.appendUnlocked header payload).2
  | .appendPayload header payload sameArena =>
    (recorder.appendPayloadUnlocked header payload sameArena).2

/-- The recorder after a sequence of calls. -/
def Recorder.afterAll (recorder : Recorder) (calls : List RecorderCall) : Recorder :=
  calls.foldl Recorder.after recorder

/-- An event that the recorder accepts: a valid header with the size of the payload. -/
def EventRecord.Accepted (event : EventRecord) : Prop :=
  event.header.valid = true ∧ event.header.payloadBytes.toNat = event.payload.length

lemma EventRecord.Accepted.length_lt {event : EventRecord} (h : event.Accepted) :
    event.payload.length < 2 ^ 64 :=
  h.2 ▸ event.header.payloadBytes.toNat_lt

namespace Recorder

/-- Every stored event is one that was accepted. -/
def Stored (recorder : Recorder) : Prop := ∀ event ∈ recorder.events, event.Accepted

lemma stored_append {recorder : Recorder} {event : EventRecord} (h : recorder.Stored)
    (hevent : event.Accepted) :
    ({ recorder with events := recorder.events ++ [event] } : Recorder).Stored := by
  intro other hother
  rcases List.mem_append.1 hother with hold | hnew
  · exact h other hold
  · rw [List.mem_singleton.1 hnew]
    exact hevent

lemma stored_appendUnlocked {recorder : Recorder} (header : EventHeader) (payload : RawBytes)
    (h : recorder.Stored) : (recorder.appendUnlocked header payload).2.Stored := by
  unfold appendUnlocked
  split_ifs with hvalid hsize
  · exact h
  · exact h
  · exact h
  · exact stored_append h ⟨Bool.not_eq_false _ ▸ hvalid, not_not.1 hsize⟩

lemma stored_appendPayloadUnlocked {recorder : Recorder} (header : EventHeader)
    (payload : List UInt8) (sameArena : Bool) (h : recorder.Stored) :
    (recorder.appendPayloadUnlocked header payload sameArena).2.Stored := by
  unfold appendPayloadUnlocked
  split_ifs with hvalid hsize
  · exact h
  · exact h
  · exact stored_appendUnlocked header _ h
  · exact stored_append h ⟨Bool.not_eq_false _ ▸ hvalid, not_not.1 hsize⟩

/-- One call keeps the stored events accepted. -/
lemma stored_after {recorder : Recorder} (call : RecorderCall) (h : recorder.Stored) :
    (recorder.after call).Stored := by
  have hnone : ∀ capture, ({ events := [], capture } : Recorder).Stored := by
    intro capture event hevent
    exact absurd hevent List.not_mem_nil
  cases call with
  | setCaptureOptions options =>
    show (recorder.setCaptureOptions options).Stored
    unfold setCaptureOptions
    split_ifs
    · exact h
    · exact hnone _
  | clear => exact hnone _
  | recordBinary kind frameIndex timestamp payload streamId =>
    show (recorder.recordBinary kind frameIndex timestamp payload streamId).2.Stored
    unfold recordBinary
    split_ifs
    · exact h
    · exact stored_appendUnlocked _ payload h
  | recordPayload kind frameIndex timestamp payload streamId sameArena =>
    show (recorder.recordPayload kind frameIndex timestamp payload streamId sameArena).2.Stored
    unfold recordPayload
    split_ifs
    · exact h
    · exact stored_appendPayloadUnlocked _ payload sameArena h
  | append header payload => exact stored_appendUnlocked header payload h
  | appendPayload header payload sameArena =>
    exact stored_appendPayloadUnlocked header payload sameArena h

/-- The events of a recorder after any calls. -/
lemma stored_afterAll (calls : List RecorderCall) {recorder : Recorder} (h : recorder.Stored) :
    (recorder.afterAll calls).Stored := by
  induction calls generalizing recorder with
  | nil => exact h
  | cons call calls ih => exact ih (stored_after call h)

/-- An accepted event is appended at the end. -/
lemma appendPayloadUnlocked_of_accepted {event : EventRecord} (h : event.Accepted)
    (recorder : Recorder) (sameArena : Bool) :
    recorder.appendPayloadUnlocked event.header event.payload sameArena =
      (true, { recorder with events := recorder.events ++ [event] }) := by
  have hvalid : ¬(event.header.valid = false) := by
    rw [h.1]
    decide
  unfold appendPayloadUnlocked
  rw [if_neg hvalid, if_neg (not_not.2 h.2)]
  cases sameArena with
  | false =>
    unfold appendUnlocked
    rw [if_pos rfl, if_neg hvalid, if_neg (not_not.2 h.2), if_neg (by simp)]
  | true => rw [if_neg (by decide)]

end Recorder

/-! ## The telemetry stream codec

`EncodeEventStream` and `DecodeEventStream`: a header with the number of events and their size,
and each event as a packed header with its payload behind it. -/

open PodCodec

/-- The first word of a stream. -/
def streamMagic : UInt32 := 0x4E574253

/-- What a stream begins with. -/
structure EncodedStreamHeader where
  magic : UInt32 := streamMagic
  version : UInt16 := telemetryFormatVersion
  reserved : UInt16 := 0
  eventCount : UInt64 := 0
  payloadBytes : UInt64 := 0
  deriving DecidableEq, Repr

/-- An event header on the wire. -/
structure EncodedEventHeader where
  magic : UInt32 := eventMagic
  version : UInt16 := telemetryFormatVersion
  kind : UInt16 := EventKind.unknown
  reserved : UInt8 := 0
  streamId : UInt32 := 0
  frameIndex : UInt64 := 0
  timestampNanoseconds : UInt64 := 0
  payloadBytes : UInt64 := 0
  deriving DecidableEq, Repr

/-- The bytes of a stream header. -/
def encodedStreamHeaderCodec : PodCodec EncodedStreamHeader :=
  (u32.prod (u16.prod (u16.prod (u64.prod u64)))).ofEquiv
    { toFun := fun h => (h.magic, h.version, h.reserved, h.eventCount, h.payloadBytes)
      invFun := fun p => ⟨p.1, p.2.1, p.2.2.1, p.2.2.2.1, p.2.2.2.2⟩
      left_inv := fun _ => rfl
      right_inv := fun _ => rfl }

/-- The bytes of an event header. -/
def encodedEventHeaderCodec : PodCodec EncodedEventHeader :=
  (u32.prod (u16.prod (u16.prod (u8.prod (u32.prod (u64.prod (u64.prod u64))))))).ofEquiv
    { toFun := fun h => (h.magic, h.version, h.kind, h.reserved, h.streamId, h.frameIndex,
        h.timestampNanoseconds, h.payloadBytes)
      invFun := fun p => ⟨p.1, p.2.1, p.2.2.1, p.2.2.2.1, p.2.2.2.2.1, p.2.2.2.2.2.1,
        p.2.2.2.2.2.2.1, p.2.2.2.2.2.2.2⟩
      left_inv := fun _ => rfl
      right_inv := fun _ => rfl }

lemma size_encodedStreamHeader : encodedStreamHeaderCodec.size = 24 := rfl
lemma size_encodedEventHeader : encodedEventHeaderCodec.size = 37 := rfl

/-- How decoding ended. -/
inductive DecodeStatus
  | ok | truncatedHeader | invalidHeader | payloadSizeOverflow | truncatedPayload
  deriving DecidableEq, Repr

/-- How decoding ended, and after how many bytes. -/
structure DecodeResult where
  status : DecodeStatus := .ok
  bytesRead : ℕ := 0
  deriving DecidableEq, Repr

/-- The stream was decoded as a whole. -/
def DecodeResult.ok (result : DecodeResult) : Bool := result.status == .ok

/-- `Limit<usize>::s_Max`. -/
def usizeMax : ℕ := 2 ^ 64 - 1

/-! ## Record layout -/

/-- The header counts the payload's bytes. -/
def validateEventPayload (event : EventRecord) : Bool :=
  event.header.payloadBytes.toNat == event.payload.length && event.header.valid

/-- The checks of a stream header, apart from its version. -/
def validateStreamHeader (header : EncodedStreamHeader) : Bool :=
  header.magic == streamMagic && header.reserved == 0

/-- An event header as the stream holds it. -/
def encodeHeader (header : EventHeader) : EncodedEventHeader where
  magic := header.magic
  version := header.version
  kind := header.kind
  reserved := header.reserved
  streamId := header.streamId
  frameIndex := header.frameIndex
  timestampNanoseconds := header.timestampNanoseconds
  payloadBytes := header.payloadBytes

/-- An event header as the stream held it. -/
def decodeHeader (encoded : EncodedEventHeader) : EventHeader where
  magic := encoded.magic
  version := encoded.version
  kind := encoded.kind
  reserved := encoded.reserved
  streamId := encoded.streamId
  frameIndex := encoded.frameIndex
  timestampNanoseconds := encoded.timestampNanoseconds
  payloadBytes := encoded.payloadBytes

@[simp] lemma decodeHeader_encodeHeader (header : EventHeader) :
    decodeHeader (encodeHeader header) = header := rfl

@[simp] lemma encodeHeader_decodeHeader (encoded : EncodedEventHeader) :
    encodeHeader (decodeHeader encoded) = encoded := rfl

/-! ## Encoding -/

/-- `AddBinaryReserveBytes`: nothing when the sum does not fit a `usize`. -/
def addBinaryReserveBytes (bytes additionalBytes : ℕ) : Option ℕ :=
  if additionalBytes > usizeMax - bytes then none else some (bytes + additionalBytes)

/-- `AppendEncodedEvent`. -/
def appendEncodedEvent (outBytes : List UInt8) (event : EventRecord) : Option (List UInt8) :=
  if validateEventPayload event = false then none
  else if event.payload.length > usizeMax - encodedEventHeaderCodec.size then none
  else
    some (outBytes ++ encodedEventHeaderCodec.encode (encodeHeader event.header) ++ event.payload)

/-- The size of the encoded events. -/
def encodedPayloadBytes (events : List EventRecord) : Option ℕ :=
  events.foldlM (fun payloadBytes event =>
    if validateEventPayload event = false then none
    else
      (addBinaryReserveBytes payloadBytes encodedEventHeaderCodec.size).bind fun withHeader =>
        addBinaryReserveBytes withHeader event.payload.length) 0

/-- `EncodeEventStream`: the bytes, unless an event is refused or the sizes do not fit. -/
def encodeEventStream (recorder : Recorder) : Option (List UInt8) :=
  (encodedPayloadBytes recorder.events).bind fun payloadBytes =>
    (addBinaryReserveBytes encodedStreamHeaderCodec.size payloadBytes).bind fun encodedBytes =>
      let streamHeader : EncodedStreamHeader :=
        { eventCount := UInt64.ofNat recorder.events.length
          payloadBytes := UInt64.ofNat payloadBytes }
      (recorder.events.foldlM appendEncodedEvent (encodedStreamHeaderCodec.encode streamHeader)).bind
        fun outBytes => if outBytes.length = encodedBytes then some outBytes else none

/-! ## Decoding -/

/-- `ReadHeader`. -/
def readHeader (encoded : ByteView) : Guarded (DecodeResult × EventHeader) := do
  match ← ByteView.readPod encodedEventHeaderCodec encoded 0 with
  | none => return ({ status := .truncatedHeader, bytesRead := 0 }, {})
  | some (encodedHeader, cursor) => return ({ bytesRead := cursor }, decodeHeader encodedHeader)

/-- `DecodeEvent`: the result and the event, which keeps what was read before a failure. -/
def decodeEvent (encoded : ByteView) : Guarded (DecodeResult × EventRecord) :=
  if encoded.size < encodedEventHeaderCodec.size then
    .ok ({ status := .truncatedHeader }, {})
  else do
    let (result, header) ← readHeader encoded
    if result.ok = false then return (result, { header })
    else if header.valid = false then
      return ({ result with status := .invalidHeader }, { header })
    else if header.payloadBytes.toNat > usizeMax then
      return ({ result with status := .payloadSizeOverflow }, { header })
    else
      let payloadBytes := header.payloadBytes.toNat
      let remaining ← Guarded.sub encoded.size result.bytesRead
      if remaining < payloadBytes then
        return ({ result with status := .truncatedPayload }, { header })
      else
        let payload ← encoded.slice result.bytesRead payloadBytes
        let bytesRead ← Guarded.add result.bytesRead payloadBytes
        return ({ result with bytesRead }, { header, payload })

/-- The loop of `DecodeEventStream` over the events that remain. -/
def decodeEvents (encoded : ByteView) (streamEnd : ℕ) (sameArena : Bool) :
    ℕ → ℕ → Recorder → Guarded (DecodeResult × Recorder)
  | 0, cursor, outRecorder =>
    if cursor ≠ streamEnd then .ok ({ status := .invalidHeader, bytesRead := cursor }, outRecorder)
    else .ok ({ bytesRead := cursor }, outRecorder)
  | count + 1, cursor, outRecorder => do
    let remaining ← Guarded.sub streamEnd cursor
    let eventView ← encoded.sub cursor remaining
    let (eventResult, event) ← decodeEvent eventView
    let bytesRead ← Guarded.add cursor eventResult.bytesRead
    if eventResult.ok = false then
      return ({ status := eventResult.status, bytesRead }, outRecorder)
    else
      match outRecorder.appendPayloadUnlocked event.header event.payload sameArena with
      | (false, outRecorder) => return ({ status := .invalidHeader, bytesRead }, outRecorder)
      | (true, outRecorder) =>
        decodeEvents encoded streamEnd sameArena count bytesRead outRecorder

/-- `DecodeEventStream`: the result and the recorder. -/
def decodeEventStream (encoded : ByteView) (recorder : Recorder) (sameArena : Bool) :
    Guarded (DecodeResult × Recorder) :=
  let outRecorder := recorder.clear
  if encoded.size < encodedStreamHeaderCodec.size then
    .ok ({ status := .truncatedHeader }, outRecorder)
  else do
    match ← ByteView.readPod encodedStreamHeaderCodec encoded 0 with
    | none => return ({ status := .truncatedHeader }, outRecorder)
    | some (streamHeader, cursor) =>
      if validateStreamHeader streamHeader = false then
        return ({ status := .invalidHeader, bytesRead := cursor }, outRecorder)
      else if streamHeader.payloadBytes.toNat > usizeMax then
        return ({ status := .payloadSizeOverflow, bytesRead := cursor }, outRecorder)
      else
        let streamPayloadBytes := streamHeader.payloadBytes.toNat
        let remaining ← Guarded.sub encoded.size cursor
        if remaining < streamPayloadBytes then
          return ({ status := .truncatedPayload, bytesRead := cursor }, outRecorder)
        else
          let streamEnd ← Guarded.add cursor streamPayloadBytes
          decodeEvents encoded streamEnd sameArena streamHeader.eventCount.toNat cursor outRecorder

end NwbLot.Telemetry
