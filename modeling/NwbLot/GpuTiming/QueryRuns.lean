import NwbLot.GpuTiming.QuerySlots
import NwbLot.Library.Runs

/-!
# Runs of a timing accumulator

The calls of a `GpuTimingAccumulator` in any order, with any scopes and any answers of the device,
and the log of what they record, reserve and report.

`Effect` says once what any call can do to the slots; the invariants of the log are derived from
it.
-/

namespace NwbLot.GpuTiming

open Runs

/-- What a call leaves in the log. -/
inductive Event (Seconds : Type)
  | frameReset (slots : List ℕ)
  | frameResetConfirmed
  | frameResetDiscarded
  | began (scope : GpuTimingScope) (canReset : Bool) (frameIndex : ℕ) (attribution : Attribution)
  | reported (reservation : ℕ) (sample : GpuTimingSample Seconds)

/-- The sample that a listener got, if the event is one. -/
def Event.sample {Seconds : Type} : Event Seconds → Option (GpuTimingSample Seconds)
  | .reported _ sample => some sample
  | _ => none

/-- The calls of an accumulator, with what their caller and the device hand in. -/
inductive Call (Seconds : Type)
  | setEnabled (enabled : Bool)
  | requestQueries (queryCount : UInt32)
  | materializeRequestedQueries (createTimerQuery : ℕ → Option TimerQuery)
  | reserveQueries (createTimerQuery : ℕ → Option TimerQuery) (queryCount : UInt32)
  | beginQuery (canReset : Bool) (frameIndex epoch : ℕ) (attribution : Attribution)
  | recordQueryEnd (scope : GpuTimingScope)
  | confirmQuery (scope : GpuTimingScope) (publishSample : Bool)
  | endQuery (scope : GpuTimingScope)
  | discardQuery (scope : GpuTimingScope)
  | collect (device : Device Seconds) (epoch : ℕ)
  | retireAttributions
  | recordFrameReset
  | confirmFrameReset
  | discardFrameReset

/-- An accumulator and its log, the latest event first. -/
structure System (Seconds : Type) where
  accumulator : GpuTimingAccumulator
  log : List (Event Seconds)

section Step

variable {Seconds : Type} [Sub Seconds] [Zero Seconds]

/-- The samples that the records of an accumulator report, under their reservations. -/
def GpuTimingAccumulator.reports (accumulator : GpuTimingAccumulator)
    (sample : QueryRecord → Option (GpuTimingSample Seconds)) : List (Event Seconds) :=
  accumulator.queries.filterMap fun record => (sample record).map (.reported record.reservation)

/-- The scope that `beginQuery` hands out, if any. -/
def began (canReset : Bool) (frameIndex : ℕ) (attribution : Attribution)
    (scope : GpuTimingScope) : List (Event Seconds) :=
  if scope.valid then [.began scope canReset frameIndex attribution] else []

namespace System

variable (system : System Seconds)

/-- The accumulator after a call, with the events of the call in order. -/
def next (accumulator : GpuTimingAccumulator) (events : List (Event Seconds)) : System Seconds where
  accumulator
  log := events.reverse ++ system.log

/-- The system after a call. -/
def call : Call Seconds → System Seconds
  | .setEnabled enabled => system.next (system.accumulator.setEnabled enabled)
      (if enabled then [] else [.frameResetDiscarded])
  | .requestQueries queryCount => system.next (system.accumulator.requestQueries queryCount) []
  | .materializeRequestedQueries createTimerQuery =>
      system.next (system.accumulator.materializeRequestedQueries createTimerQuery).1 []
  | .reserveQueries createTimerQuery queryCount =>
      system.next (system.accumulator.reserveQueries createTimerQuery queryCount).1 []
  | .beginQuery canReset frameIndex epoch attribution =>
      let (accumulator, scope) :=
        system.accumulator.beginQuery canReset frameIndex epoch attribution
      system.next accumulator (began canReset frameIndex attribution scope)
  | .recordQueryEnd _ => system
  | .confirmQuery scope publishSample =>
      system.next (system.accumulator.confirmQuery scope publishSample).1 []
  | .endQuery scope => system.next (system.accumulator.endQuery scope).1 []
  | .discardQuery scope => system.next (system.accumulator.discardQuery scope) []
  | .collect device epoch => system.next (system.accumulator.collect device epoch).1
      (if system.accumulator.enabled = false then []
        else system.accumulator.reports (system.accumulator.collectedSample device epoch))
  | .retireAttributions =>
      system.next (system.accumulator.mapQueries QueryRecord.clearAttribution)
        (system.accumulator.reports fun record => system.accumulator.sampleOf record false 0)
  | .recordFrameReset => system.next system.accumulator.recordFrameReset.1
      (if system.accumulator.enabled = false then []
        else [.frameReset system.accumulator.recordFrameReset.2])
  | .confirmFrameReset => system.next system.accumulator.confirmFrameReset [.frameResetConfirmed]
  | .discardFrameReset => system.next system.accumulator.discardFrameReset [.frameResetDiscarded]

/-- Every call can be made. -/
def step (call : Call Seconds) : Option (System Seconds) := some (system.call call)

/-! ### The log against what the calls return -/

omit [Sub Seconds] [Zero Seconds] in
lemma samples_reports (accumulator : GpuTimingAccumulator)
    (sample : QueryRecord → Option (GpuTimingSample Seconds)) :
    (accumulator.reports sample).filterMap Event.sample
      = accumulator.queries.filterMap sample := by
  rw [GpuTimingAccumulator.reports, List.filterMap_filterMap]
  refine List.filterMap_congr fun record _ => ?_
  cases sample record <;> rfl

/-- What `collect` puts into the log are the samples it hands to the listener. -/
lemma call_collect (device : Device Seconds) (epoch : ℕ) :
    ∃ events : List (Event Seconds),
      events.filterMap Event.sample = (system.accumulator.collect device epoch).2.2 ∧
        system.call (.collect device epoch)
          = system.next (system.accumulator.collect device epoch).1 events := by
  refine ⟨_, ?_, rfl⟩
  rw [GpuTimingAccumulator.collect]
  split_ifs with henabled
  · rfl
  · exact samples_reports _ _

/-- What `retireAttributions` puts into the log are the samples it hands to the listener. -/
lemma call_retireAttributions :
    ∃ events : List (Event Seconds),
      events.filterMap Event.sample = system.accumulator.retireAttributions.2 ∧
        system.call .retireAttributions
          = system.next (system.accumulator.retireAttributions :
            GpuTimingAccumulator × List (GpuTimingSample Seconds)).1 events :=
  ⟨_, samples_reports _ _, rfl⟩

end System

end Step

/-! ## Slots -/

namespace GpuTimingAccumulator

/-- Every slot is a slot of before and `R` holds of its records, or it is new. -/
structure Slotwise (R : QueryRecord → QueryRecord → Prop)
    (accumulator accumulator' : GpuTimingAccumulator) : Prop where
  address_eq : accumulator'.address = accumulator.address
  lastReservation_eq : accumulator'.lastReservation = accumulator.lastReservation
  length_le : accumulator.queries.length ≤ accumulator'.queries.length
  record : ∀ slot record', accumulator'.queries[slot]? = some record' →
    (∃ record, accumulator.queries[slot]? = some record ∧ R record record') ∨
      accumulator.queries.length ≤ slot ∧ ∃ query, record' = { query := some query }

variable {R : QueryRecord → QueryRecord → Prop} {accumulator accumulator' : GpuTimingAccumulator}

lemma Slotwise.of_queries_eq (hrefl : ∀ record, R record record)
    (haddress : accumulator'.address = accumulator.address)
    (hlast : accumulator'.lastReservation = accumulator.lastReservation)
    (hqueries : accumulator'.queries = accumulator.queries) :
    Slotwise R accumulator accumulator' where
  address_eq := haddress
  lastReservation_eq := hlast
  length_le := hqueries ▸ le_refl _
  record := fun _ record hrecord => Or.inl ⟨record, hqueries ▸ hrecord, hrefl record⟩

lemma Slotwise.refl (hrefl : ∀ record, R record record) : Slotwise R accumulator accumulator :=
  .of_queries_eq hrefl rfl rfl rfl

lemma Slotwise.mono {R' : QueryRecord → QueryRecord → Prop}
    (hmono : ∀ record record', R record record' → R' record record')
    (h : Slotwise R accumulator accumulator') : Slotwise R' accumulator accumulator' where
  address_eq := h.address_eq
  lastReservation_eq := h.lastReservation_eq
  length_le := h.length_le
  record := fun slot record' hrecord => (h.record slot record' hrecord).imp
    (fun ⟨record, hold, hR⟩ => ⟨record, hold, hmono record record' hR⟩) id

lemma slotwise_mapQueries {body : QueryRecord → QueryRecord}
    (hbody : ∀ record, R record (body record)) :
    Slotwise R accumulator (accumulator.mapQueries body) where
  address_eq := rfl
  lastReservation_eq := rfl
  length_le := (List.length_map body).ge
  record := by
    intro slot record' hrecord
    rw [mapQueries, List.getElem?_map, Option.map_eq_some_iff] at hrecord
    obtain ⟨record, hold, rfl⟩ := hrecord
    exact Or.inl ⟨record, hold, hbody record⟩

variable {record : QueryRecord}

lemma slotwise_set {slot : ℕ} {record' : QueryRecord} (hrefl : ∀ record, R record record)
    (hold : accumulator.queries[slot]? = some record) (hR : R record record') :
    Slotwise R accumulator
      { accumulator with queries := accumulator.queries.set slot record' } where
  address_eq := rfl
  lastReservation_eq := rfl
  length_le := (List.length_set ..).ge
  record := by
    intro other found hfound
    dsimp only at hfound
    by_cases hslot : slot = other
    · rw [← hslot, List.getElem?_set_self (List.getElem?_eq_some_iff.1 hold).1] at hfound
      rw [← hslot, ← Option.some.inj hfound]
      exact Or.inl ⟨record, hold, hR⟩
    · rw [List.getElem?_set_ne hslot] at hfound
      exact Or.inl ⟨found, hfound, hrefl found⟩

/-- New slots stand behind the others. -/
lemma appendQueries_eq (createTimerQuery : ℕ → Option TimerQuery) (missing : ℕ)
    (accumulator : GpuTimingAccumulator) :
    ∃ queries : List QueryRecord, (∀ record ∈ queries, ∃ query, record = { query := some query }) ∧
      queries.length ≤ missing ∧ (appendQueries createTimerQuery missing accumulator).1
        = { accumulator with queries := accumulator.queries ++ queries } := by
  induction missing generalizing accumulator with
  | zero =>
    refine ⟨[], fun record hmem => absurd hmem List.not_mem_nil, le_refl _, ?_⟩
    rw [appendQueries, List.append_nil]
  | succ missing ih =>
    rw [appendQueries]
    cases hcreated : createTimerQuery accumulator.queries.length with
    | none =>
      refine ⟨[], fun record hmem => absurd hmem List.not_mem_nil, Nat.zero_le _, ?_⟩
      rw [List.append_nil]
      rfl
    | some query =>
      obtain ⟨queries, hnew, hlength, heq⟩ :=
        ih { accumulator with queries := accumulator.queries ++ [{ query := some query }] }
      refine ⟨{ query := some query } :: queries, List.forall_mem_cons.2 ⟨⟨query, rfl⟩, hnew⟩,
        Nat.succ_le_succ hlength, ?_⟩
      dsimp only at heq
      rw [List.append_assoc] at heq
      exact heq

lemma slotwise_append {queries : List QueryRecord} (hrefl : ∀ record, R record record)
    (hnew : ∀ record ∈ queries, ∃ query, record = { query := some query }) :
    Slotwise R accumulator { accumulator with queries := accumulator.queries ++ queries } where
  address_eq := rfl
  lastReservation_eq := rfl
  length_le := by
    rw [List.length_append]
    exact Nat.le_add_right _ _
  record := by
    intro slot record' hrecord
    dsimp only at hrecord
    by_cases hslot : slot < accumulator.queries.length
    · rw [List.getElem?_append_left hslot] at hrecord
      exact Or.inl ⟨record', hrecord, hrefl record'⟩
    · rw [not_lt] at hslot
      rw [List.getElem?_append_right hslot] at hrecord
      exact Or.inr ⟨hslot, hnew record' (List.mem_of_getElem? hrecord)⟩

/-! ## What the calls do -/

/-- A reservation stays as it is, but for its attribution, which may be taken away. -/
structure Kept (record record' : QueryRecord) : Prop where
  query_eq : record'.query = record.query
  frameIndex_eq : record'.frameIndex = record.frameIndex
  reservation_eq : record'.reservation = record.reservation
  attribution : record'.attribution = record.attribution ∨ record'.attribution = noAttribution

/-- A reset that is recorded or confirmed may be lost, too. -/
structure Quiet (record record' : QueryRecord) : Prop extends Kept record record' where
  frameResetRecorded : record'.frameResetRecorded = true → record.frameResetRecorded = true
  deviceReady : record'.deviceReady = true → record.deviceReady = true

lemma Kept.refl (record : QueryRecord) : Kept record record := ⟨rfl, rfl, rfl, Or.inl rfl⟩

lemma Quiet.refl (record : QueryRecord) : Quiet record record := ⟨Kept.refl record, id, id⟩

lemma quiet_confirm (record : QueryRecord) (publishSample : Bool) :
    Quiet record (record.confirm publishSample) :=
  ⟨⟨rfl, rfl, rfl, Or.inl rfl⟩, id, id⟩

lemma quiet_discard (record : QueryRecord) : Quiet record record.discard :=
  ⟨⟨rfl, rfl, rfl, Or.inr rfl⟩, id, fun h => nomatch h⟩

lemma quiet_retire (record : QueryRecord) : Quiet record record.retire :=
  ⟨⟨rfl, rfl, rfl, Or.inr rfl⟩, id, id⟩

lemma quiet_clearAttribution (record : QueryRecord) : Quiet record record.clearAttribution :=
  ⟨⟨rfl, rfl, rfl, Or.inr rfl⟩, id, id⟩

lemma quiet_discardFrameReset (record : QueryRecord) : Quiet record record.discardFrameReset :=
  ⟨⟨rfl, rfl, rfl, Or.inl rfl⟩, (fun h => nomatch h), fun h => nomatch h⟩

lemma kept_recordFrameReset (record : QueryRecord) : Kept record record.recordFrameReset :=
  ⟨rfl, rfl, rfl, Or.inl rfl⟩

lemma kept_confirmFrameReset (record : QueryRecord) (enabled : Bool) :
    Kept record (record.confirmFrameReset enabled) := by
  unfold QueryRecord.confirmFrameReset
  split
  · exact Kept.refl record
  · exact ⟨rfl, rfl, rfl, Or.inl rfl⟩

variable {scope : GpuTimingScope}

lemma reserved_some (h : accumulator.reserved scope = some record) :
    accumulator.queries[scope.index]? = some record ∧ record.reservation = scope.reservation := by
  unfold reserved at h
  split at h
  · cases h
  · obtain ⟨hfound, hsame⟩ := Option.filter_eq_some_iff.1 h
    rw [Bool.and_eq_true, beq_iff_eq, beq_iff_eq] at hsame
    exact ⟨hfound, hsame.2⟩

lemma recordingOf_some (h : accumulator.recordingOf scope = some record) :
    accumulator.reserved scope = some record ∧ record.recording = true :=
  Option.filter_eq_some_iff.1 h

/-- What a reservation of a slot changes. -/
structure Begins (accumulator accumulator' : GpuTimingAccumulator) (canReset : Bool)
    (frameIndex : ℕ) (attribution : Attribution) (scope : GpuTimingScope) (record : QueryRecord) :
    Prop where
  enabled : accumulator.enabled = true
  found : accumulator.findAvailableQuery = some scope.index
  record_eq : accumulator.queries[scope.index]? = some record
  ready : canReset = false → record.deviceReady = true
  reservation_eq : scope.reservation = nextReservation accumulator.lastReservation
  scope_eq : scope = ⟨some accumulator.address, record.query, scope.index, scope.reservation⟩
  next_eq : ∃ epoch, accumulator' = { accumulator with
    queries := accumulator.queries.set scope.index
      (record.reserve scope.reservation frameIndex epoch attribution)
    lastReservation := scope.reservation }

/-- `beginQuery` refuses or takes the first available slot. -/
lemma beginQuery_cases (accumulator : GpuTimingAccumulator) (canReset : Bool)
    (frameIndex epoch : ℕ) (attribution : Attribution) :
    accumulator.beginQuery canReset frameIndex epoch attribution = (accumulator, {}) ∨
      ∃ accumulator' scope record,
        accumulator.beginQuery canReset frameIndex epoch attribution = (accumulator', scope) ∧
        Begins accumulator accumulator' canReset frameIndex attribution scope record := by
  unfold beginQuery
  split
  · exact Or.inl rfl
  · next henabled =>
    split
    · exact Or.inl rfl
    · next index hfound =>
      split
      · exact Or.inl rfl
      · next record hrecord =>
        split
        · exact Or.inl rfl
        · next hready =>
          refine Or.inr ⟨_, _, record, rfl, {
            enabled := Bool.not_eq_false _ ▸ henabled
            found := hfound
            record_eq := hrecord
            ready := fun hreset => ?_
            reservation_eq := rfl
            scope_eq := rfl
            next_eq := ⟨epoch, rfl⟩ }⟩
          by_contra hnot
          exact hready ⟨Bool.not_eq_true _ ▸ hnot, hreset⟩

lemma Begins.available {canReset : Bool} {frameIndex : ℕ} {attribution : Attribution}
    (h : Begins accumulator accumulator' canReset frameIndex attribution scope record) :
    record.available = true := by
  obtain ⟨hlt, havailable, -⟩ := List.findIdx?_eq_some_iff_getElem.1 h.found
  have hrecord := h.record_eq
  rw [List.getElem?_eq_getElem hlt, Option.some.injEq] at hrecord
  exact hrecord ▸ havailable

end GpuTimingAccumulator

section Reports

variable {Seconds : Type} [Sub Seconds] [Zero Seconds]

open GpuTimingAccumulator

/-- The samples are those of attributed reservations, whose attributions are taken away. -/
structure Reporting (accumulator accumulator' : GpuTimingAccumulator)
    (sample : QueryRecord → Option (GpuTimingSample Seconds)) : Prop where
  attributed : ∀ record found, sample record = some found → record.attribution ≠ noAttribution ∧
    found.attribution = record.attribution ∧ found.sourceFrameIndex = record.frameIndex
  cleared : ∀ (slot : ℕ) (record record' : QueryRecord), accumulator.queries[slot]? = some record →
    (sample record).isSome = true → accumulator'.queries[slot]? = some record' →
      record'.attribution = noAttribution

variable {accumulator : GpuTimingAccumulator} {record : QueryRecord}

omit [Sub Seconds] [Zero Seconds] in
lemma sampleOf_some {published : Bool} {durationSeconds : Seconds} {found : GpuTimingSample Seconds}
    (h : accumulator.sampleOf record published durationSeconds = some found) :
    record.attribution ≠ noAttribution ∧ found.attribution = record.attribution ∧
      found.sourceFrameIndex = record.frameIndex := by
  unfold sampleOf at h
  split at h
  · cases h
  · next hattribution =>
    rw [← Option.some.inj h]
    exact ⟨hattribution, rfl, rfl⟩

/-- A call that neither reserves a slot nor touches a frame reset, but for losing one. -/
structure QuietCall (accumulator accumulator' : GpuTimingAccumulator)
    (sample : QueryRecord → Option (GpuTimingSample Seconds)) : Prop where
  slots : Slotwise Quiet accumulator accumulator'
  enabled : accumulator.enabled = true → accumulator'.enabled = true
  length_le : accumulator'.queries.length ≤ max accumulator.queries.length u32Max
  reporting : Reporting accumulator accumulator' sample

omit [Sub Seconds] [Zero Seconds] in
/-- Without a report. -/
lemma QuietCall.of_slots {accumulator' : GpuTimingAccumulator}
    (hslots : Slotwise Quiet accumulator accumulator')
    (henabled : accumulator.enabled = true → accumulator'.enabled = true)
    (hlength : accumulator'.queries.length ≤ max accumulator.queries.length u32Max) :
    QuietCall accumulator accumulator' fun _ => (none : Option (GpuTimingSample Seconds)) :=
  ⟨hslots, henabled, hlength, ⟨fun _ _ h => (nomatch h), fun _ _ _ _ h => (nomatch h)⟩⟩

lemma quietCall_collect (accumulator : GpuTimingAccumulator) (device : Device Seconds)
    (epoch : ℕ) (henabled : accumulator.enabled = true) :
    QuietCall accumulator (accumulator.collect device epoch).1
      (accumulator.collectedSample device epoch) := by
  have hcollect : (accumulator.collect device epoch).1 = accumulator.mapQueries fun record =>
      if (record.completed device).isSome then record.retire else record := by
    rw [collect, henabled]
    rfl
  rw [hcollect]
  refine ⟨slotwise_mapQueries fun record => ?_, id, ?_, fun record found hfound => ?_, ?_⟩
  · split
    · exact quiet_retire record
    · exact Quiet.refl record
  · exact (List.length_map _).le.trans (le_max_left _ _)
  · obtain ⟨result, -, hsample⟩ := Option.bind_eq_some_iff.1 hfound
    exact sampleOf_some hsample
  · intro slot record record' hrecord hsample hrecord'
    rw [mapQueries, List.getElem?_map, hrecord, Option.map_some, Option.some.injEq] at hrecord'
    obtain ⟨found, hfound⟩ := Option.isSome_iff_exists.1 hsample
    obtain ⟨result, hresult, -⟩ := Option.bind_eq_some_iff.1 hfound
    rw [hresult] at hrecord'
    rw [← hrecord']
    rfl

omit [Sub Seconds] in
lemma quietCall_retireAttributions (accumulator : GpuTimingAccumulator) :
    QuietCall accumulator (accumulator.mapQueries QueryRecord.clearAttribution)
      fun record => accumulator.sampleOf record false (0 : Seconds) where
  slots := slotwise_mapQueries quiet_clearAttribution
  enabled := id
  length_le := (List.length_map _).le.trans (le_max_left _ _)
  reporting := by
    refine ⟨fun record found hfound => sampleOf_some hfound, ?_⟩
    intro slot record record' hrecord _ hrecord'
    rw [mapQueries, List.getElem?_map, hrecord, Option.map_some, Option.some.injEq] at hrecord'
    rw [← hrecord']
    rfl

omit [Sub Seconds] [Zero Seconds] in
lemma reports_none (accumulator : GpuTimingAccumulator) :
    accumulator.reports (fun _ => (none : Option (GpuTimingSample Seconds))) = [] :=
  List.filterMap_eq_nil_iff.2 fun _ _ => rfl

/-- A frame reset that is recorded covers the slots that are available. -/
lemma mem_recordFrameReset {slot : ℕ} (henabled : accumulator.enabled = true)
    (hrecord : accumulator.queries[slot]? = some record)
    (hreset : record.recordFrameReset.frameResetRecorded = true) :
    slot ∈ accumulator.recordFrameReset.2 := by
  rw [recordFrameReset, if_neg (by rw [henabled]; decide),
    List.mem_filter, List.mem_range, hrecord]
  exact ⟨(List.getElem?_eq_some_iff.1 hrecord).1, hreset⟩

/-- What a call does: it is quiet, concerns the frame reset or reserves a slot. -/
inductive Effect (system : System Seconds) (call : Call Seconds) : System Seconds → Prop
  | quiet {accumulator : GpuTimingAccumulator}
      {sample : QueryRecord → Option (GpuTimingSample Seconds)}
      (h : QuietCall system.accumulator accumulator sample) :
      Effect system call (system.next accumulator (system.accumulator.reports sample))
  | frameReset (henabled : system.accumulator.enabled = true) :
      Effect system call (system.next (system.accumulator.mapQueries QueryRecord.recordFrameReset)
        [.frameReset system.accumulator.recordFrameReset.2])
  | frameResetConfirmed :
      Effect system call (system.next system.accumulator.confirmFrameReset [.frameResetConfirmed])
  | frameResetDiscarded (enabled : Bool) :
      Effect system call (system.next
        { system.accumulator with enabled }.discardFrameReset [.frameResetDiscarded])
  | began {accumulator : GpuTimingAccumulator} {canReset : Bool} {frameIndex epoch : ℕ}
      {attribution : Attribution} {scope : GpuTimingScope} {record : QueryRecord}
      (hcall : call = .beginQuery canReset frameIndex epoch attribution)
      (h : Begins system.accumulator accumulator canReset frameIndex attribution scope record) :
      Effect system call
        (system.next accumulator (GpuTiming.began canReset frameIndex attribution scope))

omit [Sub Seconds] [Zero Seconds] in
/-- A quiet call without reports. -/
lemma Effect.of_slots {system : System Seconds} {call : Call Seconds}
    (hslots : Slotwise Quiet system.accumulator accumulator)
    (henabled : system.accumulator.enabled = true → accumulator.enabled = true)
    (hlength : accumulator.queries.length ≤ max system.accumulator.queries.length u32Max) :
    Effect system call (system.next accumulator []) := by
  have hquiet : QuietCall system.accumulator accumulator
      fun _ => (none : Option (GpuTimingSample Seconds)) := .of_slots hslots henabled hlength
  have heffect := @Effect.quiet Seconds system call _ _ hquiet
  rwa [reports_none] at heffect

omit [Sub Seconds] [Zero Seconds] in
lemma Effect.unchanged (system : System Seconds) (call : Call Seconds) :
    Effect system call (system.next system.accumulator []) :=
  .of_slots (Slotwise.refl Quiet.refl) id (le_max_left _ _)

omit [Sub Seconds] [Zero Seconds] in
lemma Effect.of_set {system : System Seconds} {call : Call Seconds} {slot : ℕ}
    {record' : QueryRecord} (hold : system.accumulator.queries[slot]? = some record)
    (hquiet : Quiet record record') :
    Effect system call (system.next
      { system.accumulator with queries := system.accumulator.queries.set slot record' } []) :=
  .of_slots (slotwise_set Quiet.refl hold hquiet) id
    ((List.length_set ..).le.trans (le_max_left _ _))

omit [Sub Seconds] [Zero Seconds] in
lemma effect_confirmQuery (system : System Seconds) (call : Call Seconds) (scope : GpuTimingScope)
    (publishSample : Bool) :
    Effect system call
      (system.next (system.accumulator.confirmQuery scope publishSample).1 []) := by
  unfold confirmQuery
  split
  · exact .unchanged system _
  · next record hrecord =>
    exact .of_set (reserved_some (recordingOf_some hrecord).1).1
      (quiet_confirm record publishSample)

omit [Sub Seconds] [Zero Seconds] in
lemma effect_endQuery (system : System Seconds) (call : Call Seconds) (scope : GpuTimingScope) :
    Effect system call (system.next (system.accumulator.endQuery scope).1 []) := by
  unfold endQuery
  split
  · exact .unchanged system _
  · exact effect_confirmQuery system _ scope true

omit [Sub Seconds] [Zero Seconds] in
lemma effect_discardQuery (system : System Seconds) (call : Call Seconds) (scope : GpuTimingScope) :
    Effect system call (system.next (system.accumulator.discardQuery scope) []) := by
  unfold discardQuery
  split
  · exact .unchanged system _
  · next record hrecord => exact .of_set (reserved_some hrecord).1 (quiet_discard record)

omit [Sub Seconds] [Zero Seconds] in
lemma effect_reserveQueries (system : System Seconds) (call : Call Seconds)
    (createTimerQuery : ℕ → Option TimerQuery) (queryCount : UInt32) :
    Effect system call
      (system.next (system.accumulator.reserveQueries createTimerQuery queryCount).1 []) := by
  obtain ⟨queries, hnew, hlength, heq⟩ := appendQueries_eq createTimerQuery
    (queryCount.toNat - system.accumulator.queries.length) system.accumulator
  rw [reserveQueries, heq]
  refine .of_slots (slotwise_append Quiet.refl hnew) id ?_
  have hcount := queryCount.toNat_lt
  dsimp only
  rw [List.length_append, u32Max]
  omega

omit [Sub Seconds] [Zero Seconds] in
lemma effect_materializeRequestedQueries (system : System Seconds) (call : Call Seconds)
    (createTimerQuery : ℕ → Option TimerQuery) :
    Effect system call
      (system.next (system.accumulator.materializeRequestedQueries createTimerQuery).1 []) := by
  unfold materializeRequestedQueries
  split
  · exact .unchanged system _
  · exact effect_reserveQueries system _ createTimerQuery _

omit [Sub Seconds] [Zero Seconds] in
lemma effect_beginQuery (system : System Seconds) (canReset : Bool) (frameIndex epoch : ℕ)
    (attribution : Attribution) :
    Effect system (.beginQuery canReset frameIndex epoch attribution) (system.next
      (system.accumulator.beginQuery canReset frameIndex epoch attribution).1
      (GpuTiming.began canReset frameIndex attribution
        (system.accumulator.beginQuery canReset frameIndex epoch attribution).2)) := by
  rcases beginQuery_cases system.accumulator canReset frameIndex epoch attribution with
    hrefused | ⟨accumulator', scope, record, hbegun, hbegins⟩
  · rw [hrefused]
    exact .unchanged system _
  · rw [hbegun]
    exact .began rfl hbegins

theorem effect_call (system : System Seconds) (call : Call Seconds) :
    Effect system call (system.call call) := by
  cases call with
  | setEnabled enabled =>
    cases enabled with
    | true =>
      refine .of_slots (Slotwise.of_queries_eq Quiet.refl rfl rfl rfl) (fun _ => rfl) ?_
      exact le_max_left _ _
    | false => exact .frameResetDiscarded false
  | requestQueries queryCount =>
    exact .of_slots (Slotwise.of_queries_eq Quiet.refl rfl rfl rfl) id (le_max_left _ _)
  | materializeRequestedQueries createTimerQuery =>
    exact effect_materializeRequestedQueries system _ createTimerQuery
  | reserveQueries createTimerQuery queryCount =>
    exact effect_reserveQueries system _ createTimerQuery queryCount
  | beginQuery canReset frameIndex epoch attribution =>
    exact effect_beginQuery system canReset frameIndex epoch attribution
  | recordQueryEnd scope => exact .unchanged system _
  | confirmQuery scope publishSample => exact effect_confirmQuery system _ scope publishSample
  | endQuery scope => exact effect_endQuery system _ scope
  | discardQuery scope => exact effect_discardQuery system _ scope
  | collect device epoch =>
    rw [System.call]
    cases henabled : system.accumulator.enabled with
    | false =>
      rw [if_pos rfl, collect, if_pos henabled]
      exact .unchanged system _
    | true =>
      rw [if_neg (by decide)]
      exact .quiet (quietCall_collect system.accumulator device epoch henabled)
  | retireAttributions => exact .quiet (quietCall_retireAttributions system.accumulator)
  | recordFrameReset =>
    rw [System.call]
    cases henabled : system.accumulator.enabled with
    | false =>
      rw [if_pos rfl, recordFrameReset, if_pos henabled]
      exact .unchanged system _
    | true =>
      have hreset : system.accumulator.recordFrameReset.1
          = system.accumulator.mapQueries QueryRecord.recordFrameReset := by
        rw [recordFrameReset, henabled]
        rfl
      rw [if_neg (by decide), hreset]
      exact .frameReset henabled
  | confirmFrameReset => exact .frameResetConfirmed
  | discardFrameReset => exact .frameResetDiscarded system.accumulator.enabled

end Reports

end NwbLot.GpuTiming
