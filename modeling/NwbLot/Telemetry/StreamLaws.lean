import NwbLot.Telemetry.StreamCodec

/-!
# Laws of the telemetry stream

The bytes of the events of a recorder, and what decoding does on them and on any other bytes.

An event is read back in front of any other bytes, so a stream is, event by event, and a cut
stream is refused.  On any bytes at all, no size wraps and no copy leaves its view.
-/

namespace NwbLot.Telemetry

open Guarded

/-- The bytes of one event. -/
def eventBytes (event : EventRecord) : List UInt8 :=
  encodedEventHeaderCodec.encode (encodeHeader event.header) ++ event.payload

/-- The bytes of the events, one behind the other. -/
def eventsBytes (events : List EventRecord) : List UInt8 := events.flatMap eventBytes

/-- The header of the stream of some events. -/
def streamHeaderOf (events : List EventRecord) : EncodedStreamHeader where
  eventCount := UInt64.ofNat events.length
  payloadBytes := UInt64.ofNat (eventsBytes events).length

/-- The stream of some events. -/
def eventStreamBytes (events : List EventRecord) : List UInt8 :=
  encodedStreamHeaderCodec.encode (streamHeaderOf events) ++ eventsBytes events

lemma length_eventBytes (event : EventRecord) :
    (eventBytes event).length = 37 + event.payload.length := by
  rw [eventBytes, List.length_append, PodCodec.length_encode, size_encodedEventHeader]

@[simp] lemma eventsBytes_nil : eventsBytes [] = [] := rfl

@[simp] lemma eventsBytes_cons (event : EventRecord) (events : List EventRecord) :
    eventsBytes (event :: events) = eventBytes event ++ eventsBytes events := rfl

lemma eventsBytes_append (events events' : List EventRecord) :
    eventsBytes (events ++ events') = eventsBytes events ++ eventsBytes events' :=
  List.flatMap_append

lemma length_eventStreamBytes (events : List EventRecord) :
    (eventStreamBytes events).length = 24 + (eventsBytes events).length := by
  rw [eventStreamBytes, List.length_append, PodCodec.length_encode, size_encodedStreamHeader]

lemma length_le_length_eventsBytes (events : List EventRecord) :
    events.length ≤ (eventsBytes events).length := by
  induction events with
  | nil => exact Nat.le_refl 0
  | cons event events ih =>
    rw [eventsBytes_cons, List.length_append, length_eventBytes, List.length_cons]
    omega

/-! ## Encoding -/

lemma validateEventPayload_of_accepted {event : EventRecord} (h : event.Accepted) :
    validateEventPayload event = true := by
  rw [validateEventPayload, h.1, Bool.and_true, beq_iff_eq]
  exact h.2

variable {events : List EventRecord}

/-- The sizes of accepted events are added up as long as they fit. -/
lemma encodedPayloadBytes_eq (h : ∀ event ∈ events, event.Accepted) :
    encodedPayloadBytes events =
      if (eventsBytes events).length ≤ usizeMax then some (eventsBytes events).length
      else none := by
  suffices hfold : ∀ payloadBytes ≤ usizeMax,
      events.foldlM (fun payloadBytes event =>
        if validateEventPayload event = false then none
        else
          (addBinaryReserveBytes payloadBytes encodedEventHeaderCodec.size).bind fun withHeader =>
            addBinaryReserveBytes withHeader event.payload.length) payloadBytes =
        if payloadBytes + (eventsBytes events).length ≤ usizeMax then
          some (payloadBytes + (eventsBytes events).length)
        else none by
    have hzero := hfold 0 (Nat.zero_le _)
    rwa [Nat.zero_add] at hzero
  induction events with
  | nil =>
    intro payloadBytes hfits
    exact (if_pos hfits).symm
  | cons event events ih =>
    intro payloadBytes hfits
    have hvalid := validateEventPayload_of_accepted (h event List.mem_cons_self)
    have hrest := ih fun other hother => h other (List.mem_cons_of_mem event hother)
    rw [size_encodedEventHeader] at hrest
    have hlength : (eventsBytes (event :: events)).length =
        37 + event.payload.length + (eventsBytes events).length := by
      rw [eventsBytes_cons, List.length_append, length_eventBytes]
    rw [List.foldlM_cons, if_neg (by rw [hvalid]; decide), hlength, size_encodedEventHeader]
    by_cases hheader : 37 > usizeMax - payloadBytes
    · rw [addBinaryReserveBytes, if_pos hheader, if_neg (by omega)]
      rfl
    · rw [addBinaryReserveBytes, if_neg hheader, Option.bind_some]
      by_cases hpayload : event.payload.length > usizeMax - (payloadBytes + 37)
      · rw [addBinaryReserveBytes, if_pos hpayload, if_neg (by omega)]
        rfl
      · rw [addBinaryReserveBytes, if_neg hpayload]
        show List.foldlM _ _ events = _
        rw [hrest _ (by omega)]
        have hsum : payloadBytes + 37 + event.payload.length + (eventsBytes events).length =
            payloadBytes + (37 + event.payload.length + (eventsBytes events).length) := by
          omega
        rw [hsum]

lemma foldlM_appendEncodedEvent (h : ∀ event ∈ events, event.Accepted)
    (hfits : (eventsBytes events).length ≤ usizeMax) (outBytes : List UInt8) :
    events.foldlM appendEncodedEvent outBytes = some (outBytes ++ eventsBytes events) := by
  induction events generalizing outBytes with
  | nil => exact congrArg some (List.append_nil outBytes).symm
  | cons event events ih =>
    have hvalid := validateEventPayload_of_accepted (h event List.mem_cons_self)
    rw [eventsBytes_cons, List.length_append, length_eventBytes] at hfits
    have hone : appendEncodedEvent outBytes event = some (outBytes ++ eventBytes event) := by
      rw [appendEncodedEvent, if_neg (by rw [hvalid]; decide), size_encodedEventHeader,
        if_neg (by omega), eventBytes, List.append_assoc]
    rw [List.foldlM_cons, hone, eventsBytes_cons, ← List.append_assoc]
    exact ih (fun other hother => h other (List.mem_cons_of_mem event hother)) (by omega) _

/-- The events of a recorder are encoded unless their size is not a `usize`. -/
theorem encodeEventStream_eq {recorder : Recorder} (h : recorder.Stored) :
    encodeEventStream recorder =
      if (eventStreamBytes recorder.events).length < 2 ^ 64 then
        some (eventStreamBytes recorder.events)
      else none := by
  have hlength := length_eventStreamBytes recorder.events
  have hmax : usizeMax = 2 ^ 64 - 1 := rfl
  rw [encodeEventStream, encodedPayloadBytes_eq h]
  by_cases hfits : (eventsBytes recorder.events).length ≤ usizeMax
  · rw [if_pos hfits, Option.bind_some, size_encodedStreamHeader, addBinaryReserveBytes]
    by_cases hstream : (eventsBytes recorder.events).length > usizeMax - 24
    · rw [if_pos hstream, if_neg (by omega)]
      rfl
    · rw [if_neg hstream, Option.bind_some, if_pos (by omega)]
      show (recorder.events.foldlM appendEncodedEvent
        (encodedStreamHeaderCodec.encode (streamHeaderOf recorder.events))).bind _ = _
      rw [foldlM_appendEncodedEvent h hfits, Option.bind_some]
      exact if_pos hlength
  · rw [if_neg hfits, if_neg (by omega)]
    rfl

/-! ## Decoding one event -/

lemma readHeader_eq (encoded : ByteView) :
    readHeader encoded =
      .ok (match encodedEventHeaderCodec.readAt encoded.bytes 0 with
        | none => ({ status := .truncatedHeader, bytesRead := 0 }, {})
        | some (encodedHeader, cursor) => ({ bytesRead := cursor }, decodeHeader encodedHeader)) := by
  rw [readHeader, ByteView.readPod_eq]
  show (match encodedEventHeaderCodec.readAt encoded.bytes 0 with
    | none => _
    | some (encodedHeader, cursor) => _) = _
  cases encodedEventHeaderCodec.readAt encoded.bytes 0 with
  | none => rfl
  | some read => rfl

variable {encoded : ByteView} {after : List UInt8}

/-- Decoding bytes that start with the bytes of an accepted event. -/
lemma decodeEvent_append {event : EventRecord} (h : event.Accepted)
    (hbytes : encoded.bytes = eventBytes event ++ after) :
    decodeEvent encoded = .ok ({ bytesRead := (eventBytes event).length }, event) := by
  have hlength := length_eventBytes event
  have hbound := h.length_lt
  have hsize : encoded.size = 37 + event.payload.length + after.length := by
    rw [ByteView.size, hbytes, List.length_append, hlength]
  have hread : encodedEventHeaderCodec.readAt encoded.bytes 0 =
      some (encodeHeader event.header, 37) := by
    have hfirst := encodedEventHeaderCodec.readAt_append [] (event.payload ++ after)
      (encodeHeader event.header)
    rw [List.nil_append, List.length_nil, Nat.zero_add] at hfirst
    rw [hbytes, eventBytes, List.append_assoc]
    exact hfirst
  have hslice : encoded.slice 37 event.payload.length = .ok event.payload := by
    rw [ByteView.slice_eq (by omega), hbytes, eventBytes, List.append_assoc,
      List.drop_left' (by rw [PodCodec.length_encode]; rfl), List.take_left]
  unfold decodeEvent
  have hmax : usizeMax = 2 ^ 64 - 1 := rfl
  have hword := encoded.size_lt
  rw [size_encodedEventHeader, if_neg (by omega), readHeader_eq, hread]
  simp only [bind, Except.bind, decodeHeader_encodeHeader, h.1, h.2, Bool.true_eq_false, if_false]
  rw [if_neg (by decide), if_neg (by omega), sub_eq (by omega)]
  dsimp only
  rw [if_neg (by omega), hslice]
  dsimp only
  rw [add_eq (by omega), hlength]
  rfl

/-- Decoding any bytes has no fault, and an event that is decoded is what they start with. -/
lemma decodeEvent_satisfies (encoded : ByteView) :
    Satisfies (decodeEvent encoded) fun decoded =>
      decoded.1.bytesRead ≤ encoded.size ∧
        (decoded.1.ok = true → decoded.2.Accepted ∧
          decoded.1.bytesRead = (eventBytes decoded.2).length ∧
          encoded.bytes.take decoded.1.bytesRead = eventBytes decoded.2) := by
  unfold decodeEvent
  rw [readHeader_eq]
  refine satisfies_ite (fun _ => satisfies_ok ⟨Nat.zero_le _, fun h => ?_⟩) fun hroom => ?_
  · exact absurd h (by decide)
  rw [size_encodedEventHeader] at hroom
  obtain ⟨encodedHeader, hread⟩ : ∃ header, encodedEventHeaderCodec.readAt encoded.bytes 0 =
      some (header, 0 + encodedEventHeaderCodec.size) :=
    PodCodec.readAt_isSome (by
      show 0 + 37 ≤ encoded.size
      omega)
  obtain ⟨-, -, htake⟩ := PodCodec.eq_of_readAt hread
  rw [hread]
  rw [size_encodedEventHeader, Nat.zero_add] at *
  rw [List.drop_zero] at htake
  have hrefused : ∀ status, status ≠ DecodeStatus.ok →
      (⟨status, 37⟩ : DecodeResult).bytesRead ≤ encoded.size ∧
        ((⟨status, 37⟩ : DecodeResult).ok = true →
          (⟨decodeHeader encodedHeader, []⟩ : EventRecord).Accepted ∧
          (⟨status, 37⟩ : DecodeResult).bytesRead =
            (eventBytes ⟨decodeHeader encodedHeader, []⟩).length ∧
          encoded.bytes.take (⟨status, 37⟩ : DecodeResult).bytesRead =
            eventBytes ⟨decodeHeader encodedHeader, []⟩) := by
    intro status hstatus
    exact ⟨Nat.le_of_not_lt hroom, fun hok => absurd (beq_iff_eq.1 hok) hstatus⟩
  refine satisfies_ite (fun _ => satisfies_ok (hrefused .invalidHeader (by decide)))
    fun hvalid => ?_
  refine satisfies_ite (fun _ => satisfies_ok (hrefused .payloadSizeOverflow (by decide)))
    fun _ => ?_
  dsimp only
  refine Satisfies.bind ⟨_, sub_eq (Nat.le_of_not_lt hroom), rfl⟩ fun remaining hremaining => ?_
  refine satisfies_ite (fun _ => satisfies_ok (hrefused .truncatedPayload (by decide)))
    fun hpayload => ?_
  subst hremaining
  have hinside : 37 + (decodeHeader encodedHeader).payloadBytes.toNat ≤ encoded.size := by
    omega
  refine Satisfies.bind ⟨_, ByteView.slice_eq hinside, rfl⟩ fun payload hslice => ?_
  refine Satisfies.bind ⟨_, add_eq (hinside.trans_lt encoded.size_lt), rfl⟩
    fun bytesRead hbytesRead => satisfies_ok ?_
  have hlength : payload.length = (decodeHeader encodedHeader).payloadBytes.toNat := by
    have hsize : encoded.size = encoded.bytes.length := rfl
    rw [← hslice, List.length_take, List.length_drop]
    omega
  refine ⟨hbytesRead.ge.trans hinside,
    fun _ => ⟨⟨Bool.not_eq_false _ ▸ hvalid, hlength.symm⟩, ?_, ?_⟩⟩
  · show bytesRead = _
    rw [length_eventBytes, ← hbytesRead, hlength]
  · show encoded.bytes.take bytesRead = _
    rw [← hbytesRead, List.take_add, htake, hslice]
    rfl

/-! ## Decoding a stream -/

/-- The loop over the bytes of accepted events. -/
lemma decodeEvents_append (sameArena : Bool) (h : ∀ event ∈ events, event.Accepted)
    {before : List UInt8} (hbytes : encoded.bytes = before ++ (eventsBytes events ++ after))
    (outRecorder : Recorder) :
    decodeEvents encoded (before.length + (eventsBytes events).length) sameArena events.length
        before.length outRecorder =
      .ok ({ bytesRead := before.length + (eventsBytes events).length },
        { outRecorder with events := outRecorder.events ++ events }) := by
  induction events generalizing before outRecorder with
  | nil =>
    show decodeEvents encoded before.length sameArena 0 before.length outRecorder = _
    rw [decodeEvents, if_neg (not_not.2 rfl), List.append_nil]
    rfl
  | cons event events ih =>
    have haccepted := h event List.mem_cons_self
    have hlength : (eventsBytes (event :: events)).length =
        (eventBytes event).length + (eventsBytes events).length := by
      rw [eventsBytes_cons, List.length_append]
    have hsize : encoded.size = before.length + ((eventBytes event).length +
        (eventsBytes events).length + after.length) := by
      rw [ByteView.size, hbytes, List.length_append, List.length_append, hlength]
    have hword := encoded.size_lt
    obtain ⟨eventView, hsub, heventView, -⟩ := ByteView.exists_sub encoded before.length
      (before.length + (eventsBytes (event :: events)).length - before.length) (by omega)
    have hview : eventView.bytes = eventBytes event ++ eventsBytes events := by
      rw [heventView, hbytes, List.drop_left, Nat.add_sub_cancel_left, List.take_left,
        eventsBytes_cons]
    have hrest : encoded.bytes =
        (before ++ eventBytes event) ++ (eventsBytes events ++ after) := by
      rw [hbytes, eventsBytes_cons, List.append_assoc, List.append_assoc]
    have hnext := ih (fun other hother => h other (List.mem_cons_of_mem event hother)) hrest
      { outRecorder with events := outRecorder.events ++ [event] }
    rw [List.length_cons, decodeEvents, sub_eq (by omega)]
    simp only [bind, Except.bind, hsub, decodeEvent_append haccepted hview]
    rw [add_eq (by omega)]
    simp only [Recorder.appendPayloadUnlocked_of_accepted haccepted]
    rw [List.length_append, List.append_assoc] at hnext
    rw [if_neg (by exact fun h => Bool.noConfusion h), hlength, ← Nat.add_assoc]
    exact hnext

/-- Decoding bytes that start with the stream of accepted events. -/
theorem decodeEventStream_append (recorder : Recorder) (sameArena : Bool)
    (h : ∀ event ∈ events, event.Accepted)
    (hbytes : encoded.bytes = eventStreamBytes events ++ after) :
    decodeEventStream encoded recorder sameArena =
      .ok ({ bytesRead := (eventStreamBytes events).length }, { recorder with events }) := by
  have hlength := length_eventStreamBytes events
  have hword := encoded.size_lt
  have hcount := length_le_length_eventsBytes events
  have hmax : usizeMax = 2 ^ 64 - 1 := rfl
  have hsize : encoded.size = 24 + (eventsBytes events).length + after.length := by
    rw [ByteView.size, hbytes, List.length_append, hlength]
  have hpayload : (streamHeaderOf events).payloadBytes.toNat = (eventsBytes events).length :=
    UInt64.toNat_ofNat_of_lt' (by show _ < 2 ^ 64; omega)
  have hevents : (streamHeaderOf events).eventCount.toNat = events.length :=
    UInt64.toNat_ofNat_of_lt' (by show _ < 2 ^ 64; omega)
  have hread : encodedStreamHeaderCodec.readAt encoded.bytes 0 =
      some (streamHeaderOf events, 24) := by
    have hfirst := encodedStreamHeaderCodec.readAt_append [] (eventsBytes events ++ after)
      (streamHeaderOf events)
    rw [List.nil_append, List.length_nil, Nat.zero_add] at hfirst
    rw [hbytes, eventStreamBytes, List.append_assoc]
    exact hfirst
  have hbefore : (encodedStreamHeaderCodec.encode (streamHeaderOf events)).length = 24 :=
    PodCodec.length_encode _ _
  have hsplit : encoded.bytes = encodedStreamHeaderCodec.encode (streamHeaderOf events) ++
      (eventsBytes events ++ after) := by
    rw [hbytes, eventStreamBytes, List.append_assoc]
  have hloop := decodeEvents_append sameArena h hsplit recorder.clear
  rw [hbefore] at hloop
  have hvalid : validateStreamHeader (streamHeaderOf events) = true := rfl
  unfold decodeEventStream
  rw [size_encodedStreamHeader, if_neg (by omega), ByteView.readPod_eq, hread]
  simp only [bind, Except.bind, hvalid, hpayload, hevents, Bool.true_eq_false, if_false]
  rw [if_neg (by omega), sub_eq (by omega)]
  dsimp only
  rw [if_neg (by omega), add_eq (by omega), hlength]
  exact hloop

/-- No strict prefix of the stream of some events is decoded. -/
theorem decodeEventStream_prefix (recorder : Recorder) (sameArena : Bool)
    (hfits : (eventStreamBytes events).length < 2 ^ 64)
    (hpre : encoded.bytes <+: eventStreamBytes events)
    (hstrict : encoded.size < (eventStreamBytes events).length) :
    Satisfies (decodeEventStream encoded recorder sameArena) fun decoded =>
      decoded.1.ok = false := by
  have hlength := length_eventStreamBytes events
  have hsize : encoded.size = encoded.bytes.length := rfl
  have hmax : usizeMax = 2 ^ 64 - 1 := rfl
  unfold decodeEventStream
  refine satisfies_ite (fun _ => satisfies_ok rfl) fun hroom => ?_
  rw [size_encodedStreamHeader] at hroom
  have htake : encoded.bytes.take 24 =
      encodedStreamHeaderCodec.encode (streamHeaderOf events) := by
    obtain ⟨rest, hrest⟩ := hpre
    have hboth := congrArg (List.take 24) hrest
    rw [List.take_append_of_le_length (by omega), eventStreamBytes,
      List.take_left' ((PodCodec.length_encode _ _).trans size_encodedStreamHeader)] at hboth
    exact hboth
  have hread : encodedStreamHeaderCodec.readAt encoded.bytes 0 =
      some (streamHeaderOf events, 24) := by
    rw [PodCodec.readAt, size_encodedStreamHeader, if_pos (by omega), List.drop_zero, htake,
      PodCodec.decode_encode]
  have hpayload : (streamHeaderOf events).payloadBytes.toNat = (eventsBytes events).length :=
    UInt64.toNat_ofNat_of_lt' (by show _ < 2 ^ 64; omega)
  have hvalid : validateStreamHeader (streamHeaderOf events) = true := rfl
  rw [ByteView.readPod_eq, hread]
  simp only [bind, Except.bind, hvalid, hpayload, Bool.true_eq_false, if_false]
  rw [if_neg (by omega), sub_eq (by omega)]
  dsimp only
  rw [if_pos (by omega)]
  exact satisfies_ok rfl

/-- The loop over any bytes: no fault, and what it accepts is the bytes of the events. -/
lemma decodeEvents_satisfies (encoded : ByteView) {streamEnd : ℕ} (hend : streamEnd ≤ encoded.size)
    (sameArena : Bool) (count : ℕ) {cursor : ℕ} (hcursor : cursor ≤ streamEnd)
    (outRecorder : Recorder) :
    Satisfies (decodeEvents encoded streamEnd sameArena count cursor outRecorder) fun decoded =>
      decoded.1.ok = true → ∃ events, decoded.2 = { outRecorder with
          events := outRecorder.events ++ events } ∧
        events.length = count ∧ (∀ event ∈ events, event.Accepted) ∧
        decoded.1.bytesRead = streamEnd ∧
        (encoded.bytes.drop cursor).take (streamEnd - cursor) = eventsBytes events := by
  induction count generalizing cursor outRecorder with
  | zero =>
    rw [decodeEvents]
    refine satisfies_ite (fun _ => satisfies_ok fun hok => absurd hok Bool.false_ne_true)
      fun hconsumed => satisfies_ok fun _ => ⟨[], ?_, rfl, ?_, not_not.1 hconsumed, ?_⟩
    · rw [List.append_nil]
    · exact fun event hevent => absurd hevent List.not_mem_nil
    · rw [not_not.1 hconsumed, Nat.sub_self]
      rfl
  | succ count ih =>
    rw [decodeEvents]
    refine Satisfies.bind ⟨_, sub_eq hcursor, rfl⟩ fun remaining hremaining => ?_
    obtain ⟨eventView, hsub, heventView, hviewSize⟩ :=
      ByteView.exists_sub encoded cursor remaining (by omega)
    refine Satisfies.bind ⟨eventView, hsub, rfl⟩ fun view hview => ?_
    subst hview
    refine Satisfies.bind (decodeEvent_satisfies eventView) fun decoded hdecoded => ?_
    obtain ⟨eventResult, event⟩ := decoded
    obtain ⟨hread, hevent⟩ := hdecoded
    dsimp only at hread hevent
    have hinside : cursor + eventResult.bytesRead ≤ streamEnd := by
      rw [hviewSize] at hread
      omega
    refine Satisfies.bind ⟨_, add_eq ((hinside.trans hend).trans_lt encoded.size_lt), rfl⟩
      fun bytesRead hbytesRead => ?_
    refine satisfies_ite (fun hfailed => satisfies_ok fun hok => ?_) fun hok => ?_
    · exact absurd (hok.symm.trans hfailed) (by decide)
    obtain ⟨haccepted, hlength, htake⟩ := hevent (Bool.not_eq_false _ ▸ hok)
    rw [Recorder.appendPayloadUnlocked_of_accepted haccepted]
    refine (ih (by omega) _).mono fun decoded hrest hdecoded => ?_
    obtain ⟨events, hrecorder, hcount, hall, hconsumed, hbytes⟩ := hrest hdecoded
    refine ⟨event :: events, ?_, by rw [List.length_cons, hcount], ?_, hconsumed, ?_⟩
    · rw [hrecorder, List.append_assoc]
      rfl
    · intro other hother
      rcases List.mem_cons.1 hother with rfl | hrest
      · exact haccepted
      · exact hall other hrest
    · have hsplit : streamEnd - cursor = eventResult.bytesRead + (streamEnd - bytesRead) := by
        omega
      have hfirst : (encoded.bytes.drop cursor).take eventResult.bytesRead = eventBytes event := by
        rw [← htake, heventView, List.take_take, Nat.min_eq_left (by omega)]
      rw [hsplit, List.take_add, hfirst, List.drop_drop, hbytesRead, hbytes, eventsBytes_cons]

/-- Decoding any bytes has no fault, and what it accepts is a header and, inside the bytes that
it declares, the bytes of the events. -/
theorem decodeEventStream_satisfies (encoded : ByteView) (recorder : Recorder)
    (sameArena : Bool) :
    Satisfies (decodeEventStream encoded recorder sameArena) fun decoded =>
      decoded.1.ok = true → ∃ header : EncodedStreamHeader,
        24 + header.payloadBytes.toNat ≤ encoded.size ∧
        encoded.bytes.take 24 = encodedStreamHeaderCodec.encode header ∧
        decoded.2.events.length = header.eventCount.toNat ∧
        (∀ event ∈ decoded.2.events, event.Accepted) ∧
        decoded.1.bytesRead = 24 + header.payloadBytes.toNat ∧
        (encoded.bytes.drop 24).take header.payloadBytes.toNat =
          eventsBytes decoded.2.events := by
  unfold decodeEventStream
  refine satisfies_ite (fun _ => satisfies_ok fun hok => absurd hok Bool.false_ne_true) fun hroom => ?_
  rw [size_encodedStreamHeader] at hroom
  obtain ⟨header, hread⟩ : ∃ header, encodedStreamHeaderCodec.readAt encoded.bytes 0 =
      some (header, 0 + encodedStreamHeaderCodec.size) :=
    PodCodec.readAt_isSome (by
      show 0 + 24 ≤ encoded.size
      omega)
  obtain ⟨-, -, htake⟩ := PodCodec.eq_of_readAt hread
  rw [ByteView.readPod_eq, hread]
  rw [size_encodedStreamHeader, Nat.zero_add] at *
  rw [List.drop_zero] at htake
  refine satisfies_ite (fun _ => satisfies_ok fun hok => absurd hok Bool.false_ne_true) fun _ => ?_
  refine satisfies_ite (fun _ => satisfies_ok fun hok => absurd hok Bool.false_ne_true) fun _ => ?_
  dsimp only
  refine Satisfies.bind ⟨_, sub_eq (Nat.le_of_not_lt hroom), rfl⟩ fun remaining hremaining => ?_
  refine satisfies_ite (fun _ => satisfies_ok fun hok => absurd hok Bool.false_ne_true)
    fun hpayload => ?_
  have hinside : 24 + header.payloadBytes.toNat ≤ encoded.size := by omega
  refine Satisfies.bind ⟨_, add_eq (hinside.trans_lt encoded.size_lt), rfl⟩
    fun streamEnd hstreamEnd => ?_
  subst hstreamEnd
  refine (decodeEvents_satisfies encoded hinside sameArena header.eventCount.toNat
    (Nat.le_add_right _ _) recorder.clear).mono fun decoded hdecoded hok => ?_
  obtain ⟨events, hrecorder, hcount, hall, hconsumed, hbytes⟩ := hdecoded hok
  have hevents : decoded.2.events = events := by
    rw [hrecorder]
    rfl
  rw [Nat.add_sub_cancel_left] at hbytes
  exact ⟨header, hinside, htake, hevents ▸ hcount, hevents ▸ hall, hconsumed, hevents ▸ hbytes⟩

end NwbLot.Telemetry
