import NwbLot.Telemetry.FrameGraphParsing
import NwbLot.Telemetry.StreamLaws

/-!
# The contract of the telemetry stream

Decoding what was encoded, decoding a part of it, and decoding bytes from anywhere.

The events of a recorder come back as they were recorded.  From other bytes, what is accepted has
its payloads and their texts inside the bytes that the headers declare.
-/

namespace NwbLot.Telemetry

open Guarded

/-! ## The texts of a payload -/

/-- Every text of a parsed payload is a copy of bytes of the payload. -/
def TextsInside {α : Type} (encoded : ByteView) (texts : α → List CopiedRange)
    (parsed : Option α) : Prop :=
  ∀ payload, parsed = some payload → ∀ text ∈ texts payload, text.Inside encoded

lemma textsInside_none {α : Type} (encoded : ByteView) (texts : α → List CopiedRange) :
    TextsInside encoded texts none :=
  fun _ hparsed => nomatch hparsed

lemma textsInside_some {α : Type} {encoded : ByteView} {texts : α → List CopiedRange}
    {payload : α} (h : ∀ text ∈ texts payload, text.Inside encoded) :
    TextsInside encoded texts (some payload) := by
  intro parsed hparsed
  rw [← Option.some.inj hparsed]
  exact h

variable (encoded : ByteView)

lemma parseTextLogPayload_satisfies :
    Satisfies (parseTextLogPayload encoded) (TextsInside encoded TextLogPayload.texts) := by
  have hrefused : Satisfies (.ok none) (TextsInside encoded TextLogPayload.texts) :=
    satisfies_ok (textsInside_none _ _)
  unfold parseTextLogPayload
  refine satisfies_ite (fun _ => hrefused) fun _ => ?_
  refine Satisfies.bind (ByteView.readPod_satisfies _ encoded 0) fun read hread => ?_
  rcases read with _ | ⟨header, cursor⟩
  · exact hrefused
  obtain ⟨-, hcursor⟩ := hread header cursor rfl
  refine satisfies_ite (fun _ => hrefused) fun _ => satisfies_ite (fun _ => hrefused) fun _ => ?_
  refine Satisfies.bind ⟨_, sub_eq hcursor, rfl⟩ fun remaining hremaining => ?_
  refine satisfies_ite (fun _ => hrefused) fun hsize => ?_
  refine Satisfies.bind (ByteView.copyRange_satisfies (by omega)) fun text htext => ?_
  refine satisfies_ok (textsInside_some fun other hother => ?_)
  rw [List.mem_singleton.1 hother]
  exact htext.1

lemma readText_satisfies (cursor : ℕ) (byteCount : UInt32) :
    Satisfies (readText encoded cursor byteCount) fun read =>
      ∀ text behind, read = some (text, behind) → text.Inside encoded := by
  unfold readText
  refine Satisfies.bind ⟨_, ByteView.canReadBytes_eq _ _ _, rfl⟩ fun inside hinside => ?_
  subst hinside
  refine satisfies_ite (fun hinside => ?_) fun _ => satisfies_ok fun _ _ hread => nomatch hread
  have hroom : cursor + byteCount.toNat ≤ encoded.size := of_decide_eq_true hinside
  refine Satisfies.bind (ByteView.copyRange_satisfies hroom) fun text htext => ?_
  refine Satisfies.bind ⟨_, add_eq (hroom.trans_lt encoded.size_lt), rfl⟩ fun behind _ => ?_
  refine satisfies_ok fun other after hread => ?_
  rw [← (Prod.mk.inj (Option.some.inj hread)).1]
  exact htext.1

/-- The induction over the texts that are declared. -/
lemma readTexts_satisfies (byteCounts : List UInt32) (cursor : ℕ) :
    Satisfies (readTexts encoded cursor byteCounts) fun read =>
      ∀ texts behind, read = some (texts, behind) → ∀ text ∈ texts, text.Inside encoded := by
  induction byteCounts generalizing cursor with
  | nil =>
    refine satisfies_ok fun texts behind hread text htext => ?_
    rw [← (Prod.mk.inj (Option.some.inj hread)).1] at htext
    exact absurd htext List.not_mem_nil
  | cons byteCount byteCounts ih =>
    rw [readTexts]
    refine Satisfies.bind (readText_satisfies encoded cursor byteCount) fun read hread => ?_
    rcases read with _ | ⟨text, behind⟩
    · exact satisfies_ok fun _ _ hread => nomatch hread
    refine Satisfies.bind (ih behind) fun rest hrest => ?_
    rcases rest with _ | ⟨texts, after⟩
    · exact satisfies_ok fun _ _ hread => nomatch hread
    refine satisfies_ok fun all cursor' hall other hother => ?_
    rw [← (Prod.mk.inj (Option.some.inj hall)).1] at hother
    rcases List.mem_cons.1 hother with rfl | hother
    · exact hread _ _ rfl
    · exact hrest _ _ rfl other hother

lemma parseDiagnosticPayload_satisfies :
    Satisfies (parseDiagnosticPayload encoded)
      (TextsInside encoded DiagnosticPayload.texts) := by
  have hrefused : Satisfies (.ok none) (TextsInside encoded DiagnosticPayload.texts) :=
    satisfies_ok (textsInside_none _ _)
  unfold parseDiagnosticPayload
  refine satisfies_ite (fun _ => hrefused) fun _ => ?_
  refine Satisfies.bind (ByteView.readPod_satisfies _ encoded 0) fun read _ => ?_
  rcases read with _ | ⟨header, cursor⟩
  · exact hrefused
  refine satisfies_ite (fun _ => hrefused) fun _ => ?_
  refine Satisfies.bind (readTexts_satisfies encoded _ cursor) fun read hread => ?_
  split
  · next event category expression message file after =>
    refine satisfies_ite (fun _ => satisfies_ok (textsInside_some ?_)) fun _ => hrefused
    exact hread _ _ rfl
  · exact hrefused

lemma parsePerfPayloadWithScopeText_satisfies {α : Type} (codec : PodCodec α)
    (validate : α → Bool) (scopeNameBytes : α → UInt32) :
    Satisfies (parsePerfPayloadWithScopeText codec validate scopeNameBytes encoded) fun parsed =>
      ∀ header scopeText, parsed = some (header, scopeText) → scopeText.Inside encoded := by
  have hrefused : Satisfies (.ok none : Guarded (Option (α × CopiedRange))) fun parsed =>
      ∀ header scopeText, parsed = some (header, scopeText) → scopeText.Inside encoded :=
    satisfies_ok fun _ _ hparsed => nomatch hparsed
  unfold parsePerfPayloadWithScopeText
  refine satisfies_ite (fun _ => hrefused) fun _ => ?_
  refine Satisfies.bind (ByteView.readPod_satisfies _ encoded 0) fun read hread => ?_
  rcases read with _ | ⟨header, cursor⟩
  · exact hrefused
  obtain ⟨-, hcursor⟩ := hread header cursor rfl
  refine satisfies_ite (fun _ => hrefused) fun _ => ?_
  refine Satisfies.bind ⟨_, ByteView.canReadBytes_eq _ _ _, rfl⟩ fun inside hinside => ?_
  subst hinside
  refine satisfies_ite (fun hinside => ?_) fun _ => hrefused
  refine Satisfies.bind ⟨_, sub_eq hcursor, rfl⟩ fun remaining _ => ?_
  refine satisfies_ite (fun _ => hrefused) fun _ => ?_
  refine Satisfies.bind (ByteView.copyRange_satisfies (of_decide_eq_true hinside))
    fun text htext => satisfies_ok fun other scopeText hparsed => ?_
  rw [← (Prod.mk.inj (Option.some.inj hparsed)).2]
  exact htext.1

lemma parsePerfTimingPayload_satisfies :
    Satisfies (parsePerfTimingPayload encoded)
      (TextsInside encoded PerfTimingPayload.texts) := by
  refine Satisfies.bind (parsePerfPayloadWithScopeText_satisfies encoded _ _ _)
    fun parsed hparsed => ?_
  rcases parsed with _ | ⟨header, scopeText⟩
  · exact satisfies_ok (textsInside_none _ _)
  refine satisfies_ok (textsInside_some fun text htext => ?_)
  rw [List.mem_singleton.1 htext]
  exact hparsed _ _ rfl

lemma parsePerfMemoryPayload_satisfies :
    Satisfies (parsePerfMemoryPayload encoded)
      (TextsInside encoded PerfMemoryPayload.texts) := by
  refine Satisfies.bind (parsePerfPayloadWithScopeText_satisfies encoded _ _ _)
    fun parsed hparsed => ?_
  rcases parsed with _ | ⟨header, scopeText⟩
  · exact satisfies_ok (textsInside_none _ _)
  refine satisfies_ok (textsInside_some fun text htext => ?_)
  rw [List.mem_singleton.1 htext]
  exact hparsed _ _ rfl

lemma parseFrameGraphPayload_satisfies :
    Satisfies (parseFrameGraphPayload encoded)
      (TextsInside encoded FrameGraphPayload.texts) := by
  refine (parseFrameGraphPayload_inside encoded).mono fun parsed hparsed payload hpayload => ?_
  intro text htext
  obtain ⟨header, hinside⟩ := hparsed payload hpayload
  obtain ⟨node, hnode, rfl⟩ := List.mem_map.1 htext
  exact (hinside.labels node hnode).inside

/-- Whatever the kind of an event, parsing its payload has no fault and copies its texts from
inside the payload. -/
structure PayloadTextsInside (payload : ByteView) : Prop where
  textLog : Satisfies (parseTextLogPayload payload) (TextsInside payload TextLogPayload.texts)
  diagnostic : Satisfies (parseDiagnosticPayload payload)
    (TextsInside payload DiagnosticPayload.texts)
  perfTiming : Satisfies (parsePerfTimingPayload payload)
    (TextsInside payload PerfTimingPayload.texts)
  perfMemory : Satisfies (parsePerfMemoryPayload payload)
    (TextsInside payload PerfMemoryPayload.texts)
  frameGraph : Satisfies (parseFrameGraphPayload payload)
    (TextsInside payload FrameGraphPayload.texts)

lemma payloadTextsInside (payload : ByteView) : PayloadTextsInside payload where
  textLog := parseTextLogPayload_satisfies payload
  diagnostic := parseDiagnosticPayload_satisfies payload
  perfTiming := parsePerfTimingPayload_satisfies payload
  perfMemory := parsePerfMemoryPayload_satisfies payload
  frameGraph := parseFrameGraphPayload_satisfies payload

/-! ## The contract -/

/-- The place of the payload of an event that is decoded behind others. -/
def payloadRange (before : List EventRecord) (event : EventRecord) : CopiedRange :=
  ⟨24 + (eventsBytes before).length + 37, event.payload⟩

/-- A decoded event lies inside the bytes that its stream and its header declare. -/
structure EventInside (encoded : ByteView) (streamEnd : ℕ) (before : List EventRecord)
    (event : EventRecord) : Prop where
  payload : (payloadRange before event).Inside encoded
  streamEnd : (payloadRange before event).offset + event.payload.length ≤ streamEnd
  size : event.payload.length = event.header.payloadBytes.toNat
  texts : ∀ payload : ByteView, payload.bytes = event.payload → PayloadTextsInside payload

lemma eventInside_of_eventsBytes {streamPayload : ℕ} (hend : 24 + streamPayload ≤ encoded.size)
    {before after : List EventRecord} {event : EventRecord} (haccepted : event.Accepted)
    (hbytes : (encoded.bytes.drop 24).take streamPayload =
      eventsBytes (before ++ event :: after)) :
    EventInside encoded (24 + streamPayload) before event := by
  have hsize : encoded.size = encoded.bytes.length := rfl
  have hsplit : eventsBytes (before ++ event :: after) = eventsBytes before ++
      (encodedEventHeaderCodec.encode (encodeHeader event.header) ++
        (event.payload ++ eventsBytes after)) := by
    rw [eventsBytes_append, eventsBytes_cons, eventBytes, List.append_assoc]
  have hheader : (encodedEventHeaderCodec.encode (encodeHeader event.header)).length = 37 :=
    (PodCodec.length_encode _ _).trans size_encodedEventHeader
  have hlength := congrArg List.length hbytes
  rw [hsplit] at hlength
  simp only [List.length_take, List.length_drop, List.length_append, hheader] at hlength
  have hinside : 24 + (eventsBytes before).length + 37 + event.payload.length ≤
      24 + streamPayload := by
    omega
  refine ⟨⟨hinside.trans hend, ?_⟩, hinside, haccepted.2.symm, fun payload _ =>
    payloadTextsInside payload⟩
  show event.payload =
    (encoded.bytes.drop (24 + (eventsBytes before).length + 37)).take event.payload.length
  have hdrop := congrArg (fun bytes : List UInt8 =>
    ((bytes.drop (eventsBytes before).length).drop 37).take event.payload.length) hbytes
  rw [hsplit, List.drop_left, List.drop_left' hheader, List.take_left, List.drop_take,
    List.drop_take, List.take_take, Nat.min_eq_left (by omega), List.drop_drop, List.drop_drop]
    at hdrop
  exact hdrop.symm

omit encoded in
/-- What a recorder holds after any calls is encoded unless its size does not fit a word; decoding
the encoding gives the events back and reads all of it, and decoding a strict prefix fails.
Decoding any bytes never wraps a size and never reads outside them, and the events that it accepts
lie, with their texts, inside the declared bounds. -/
theorem telemetryStream_contract (calls : List RecorderCall) (sink : Recorder)
    (sameArena : Bool) :
    (∀ bytes, encodeEventStream (({} : Recorder).afterAll calls) = some bytes →
      ∀ encoded : ByteView,
        (encoded.bytes = bytes → decodeEventStream encoded sink sameArena =
          .ok ({ status := .ok, bytesRead := bytes.length },
            { sink with events := (({} : Recorder).afterAll calls).events })) ∧
        (encoded.bytes <+: bytes → encoded.bytes ≠ bytes →
          Satisfies (decodeEventStream encoded sink sameArena) fun decoded =>
            decoded.1.ok = false)) ∧
    (encodeEventStream (({} : Recorder).afterAll calls) = none ↔
      2 ^ 64 ≤ (eventStreamBytes (({} : Recorder).afterAll calls).events).length) ∧
    ∀ encoded : ByteView,
      Satisfies (decodeEventStream encoded sink sameArena) fun decoded =>
        decoded.1.ok = true → ∃ header : EncodedStreamHeader,
          encoded.bytes.take 24 = encodedStreamHeaderCodec.encode header ∧
          24 + header.payloadBytes.toNat ≤ encoded.size ∧
          decoded.1.bytesRead = 24 + header.payloadBytes.toNat ∧
          decoded.2.events.length = header.eventCount.toNat ∧
          ∀ before event after, decoded.2.events = before ++ event :: after →
            EventInside encoded (24 + header.payloadBytes.toNat) before event := by
  have hempty : ({} : Recorder).Stored := fun event hevent => absurd hevent List.not_mem_nil
  have hstored := Recorder.stored_afterAll calls hempty
  have hencode := encodeEventStream_eq hstored
  refine ⟨fun bytes hbytes encoded => ?_, ?_, fun encoded => ?_⟩
  · rw [hencode, Option.ite_none_right_eq_some] at hbytes
    obtain ⟨hfits, hbytes⟩ := hbytes
    obtain rfl := Option.some.inj hbytes
    refine ⟨fun hall => ?_, fun hpre hstrict => ?_⟩
    · exact decodeEventStream_append sink sameArena hstored (hall.trans (List.append_nil _).symm)
    · refine decodeEventStream_prefix sink sameArena hfits hpre ?_
      exact lt_of_le_of_ne hpre.length_le fun hsame =>
        hstrict (hpre.eq_of_length hsame)
  · rw [hencode]
    constructor
    · intro hnone
      by_contra hfits
      rw [if_pos (not_le.1 hfits)] at hnone
      exact absurd hnone (Option.some_ne_none _)
    · exact fun hsize => if_neg (not_lt.2 hsize)
  · refine (decodeEventStream_satisfies encoded sink sameArena).mono fun decoded hdecoded hok => ?_
    obtain ⟨header, hend, hheader, hcount, hall, hread, hbytes⟩ := hdecoded hok
    refine ⟨header, hheader, hend, hread, hcount, fun before event after hevents => ?_⟩
    have haccepted : event.Accepted := hall event (by rw [hevents]; exact List.mem_append_cons_self)
    rw [hevents] at hbytes
    exact eventInside_of_eventsBytes encoded hend haccepted hbytes

/-- A recorded message goes through the stream. -/
theorem telemetryStream_contract_textLog :
    ∃ encoded : ByteView, encoded.size = 63 ∧
      decodeEventStream encoded {} true = .ok ({ status := .ok, bytesRead := 63 },
        { events := [{ header := { kind := .textLog, frameIndex := 7, payloadBytes := 2 }
                       payload := [104, 105] }] }) := by
  let calls : List RecorderCall := [.setCaptureOptions ⟨.textLog⟩,
    .recordBinary .textLog 7 0 ⟨[104, 105], true⟩ 0, .recordBinary .perfFrame 7 0 ⟨[1], true⟩ 0]
  let events : List EventRecord :=
    [{ header := { kind := .textLog, frameIndex := 7, payloadBytes := 2 }, payload := [104, 105] }]
  have hbytes : encodeEventStream (({} : Recorder).afterAll calls) =
      some (eventStreamBytes events) := by decide +kernel
  have hsize : (eventStreamBytes events).length = 63 := by decide +kernel
  have hevents : (({} : Recorder).afterAll calls).events = events := by decide +kernel
  have hbounded : (eventStreamBytes events).length < 2 ^ 64 := hsize.trans_lt (by decide)
  have hdecode := ((telemetryStream_contract calls {} true).1 _ hbytes
    ⟨eventStreamBytes events, hbounded⟩).1 rfl
  refine ⟨⟨eventStreamBytes events, hbounded⟩, hsize, hdecode.trans ?_⟩
  rw [hsize, hevents]

end NwbLot.Telemetry
