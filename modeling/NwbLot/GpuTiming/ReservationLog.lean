import NwbLot.GpuTiming.QueryRuns

/-!
# The log of reservations

With fewer than `2 ^ 64` reservations their numbers count them, so that a record knows the last
reservation of its slot, and the report of a sample names one reservation.
-/

namespace NwbLot.GpuTiming

variable {Seconds : Type}

/-! ## Reading the log -/

/-- The number of reservations. -/
def begins : List (Event Seconds) → ℕ
  | [] => 0
  | .began .. :: log => begins log + 1
  | _ :: log => begins log

/-- The number of the last reservation of a slot, 0 when there is none. -/
def lastOf (slot : ℕ) : List (Event Seconds) → ℕ
  | [] => 0
  | .began scope _ _ _ :: log => if scope.index = slot then scope.reservation else lastOf slot log
  | _ :: log => lastOf slot log

/-- Every reservation has the next number. -/
def Numbered : List (Event Seconds) → Prop
  | [] => True
  | .began scope _ _ _ :: log => scope.reservation = begins log + 1 ∧ Numbered log
  | _ :: log => Numbered log

/-- The reservations whose samples are reported. -/
def reportedReservations (log : List (Event Seconds)) : List ℕ :=
  log.filterMap fun event =>
    match event with
    | .reported reservation _ => some reservation
    | _ => none

/-- A later reservation has taken the slot of a scope that was handed out. -/
def Superseded (log : List (Event Seconds)) (scope : GpuTimingScope) : Prop :=
  ∃ later canReset frameIndex attribution earlier,
    log = later ++ .began scope canReset frameIndex attribution :: earlier ∧
    ∃ other canReset' frameIndex' attribution',
      .began other canReset' frameIndex' attribution' ∈ later ∧ other.index = scope.index

lemma begins_append_le (later earlier : List (Event Seconds)) :
    begins earlier ≤ begins (later ++ earlier) := by
  induction later with
  | nil => exact le_refl _
  | cons event later ih =>
    cases event with
    | began => exact ih.trans (Nat.le_succ _)
    | _ => exact ih

variable {log : List (Event Seconds)}

lemma lastOf_le (h : Numbered log) (slot : ℕ) :
    lastOf slot log ≤ begins log := by
  induction log with
  | nil => exact le_refl _
  | cons event log ih =>
    cases event with
    | began scope canReset frameIndex attribution =>
      rw [lastOf, begins]
      split
      · exact h.1.le
      · exact (ih h.2).trans (Nat.le_succ _)
    | _ => exact ih h

/-- Two slots share no reservation. -/
lemma lastOf_inj (h : Numbered log) {slot slot' : ℕ} (heq : lastOf slot log = lastOf slot' log)
    (hne : lastOf slot log ≠ 0) : slot = slot' := by
  induction log with
  | nil => exact absurd rfl hne
  | cons event log ih =>
    cases event with
    | began scope canReset frameIndex attribution =>
      rw [lastOf] at heq hne
      rw [lastOf] at heq
      have hbelow := lastOf_le h.2 slot
      have hbelow' := lastOf_le h.2 slot'
      have hreservation := h.1
      split at heq
      · split at heq
        · next hslot hslot' => exact hslot.symm.trans hslot'
        · omega
      · next hslot =>
        rw [if_neg hslot] at hne
        split at heq
        · omega
        · exact ih h.2 heq hne
    | _ => exact ih h heq hne

variable {later earlier : List (Event Seconds)}

/-- Behind a later reservation of the slot. -/
lemma begins_lt_lastOf (h : Numbered (later ++ earlier)) {slot : ℕ}
    (hlater : ∃ scope canReset frameIndex attribution,
      .began scope canReset frameIndex attribution ∈ later ∧ scope.index = slot) :
    begins earlier < lastOf slot (later ++ earlier) := by
  obtain ⟨scope, canReset, frameIndex, attribution, hmem, hslot⟩ := hlater
  induction later with
  | nil => exact absurd hmem List.not_mem_nil
  | cons event later ih =>
    cases event with
    | began other =>
      rw [List.cons_append, lastOf]
      split
      · rw [h.1]
        exact Nat.lt_succ_of_le (begins_append_le later earlier)
      · next hother =>
        refine ih h.2 ((List.mem_cons.1 hmem).resolve_left fun heq => hother ?_)
        rw [Event.began.injEq] at heq
        rw [← heq.1, hslot]
    | _ => exact ih h ((List.mem_cons.1 hmem).resolve_left nofun)

lemma Numbered.of_append (h : Numbered (later ++ earlier)) :
    Numbered earlier := by
  induction later with
  | nil => exact h
  | cons event later ih =>
    cases event with
    | began => exact ih h.2
    | _ => exact ih h

/-- A superseded scope has an older number than the record. -/
lemma Superseded.lt {scope : GpuTimingScope} (h : Superseded log scope) (hnumbered : Numbered log) :
    scope.reservation < lastOf scope.index log := by
  obtain ⟨later, canReset, frameIndex, attribution, earlier, rfl, hlater⟩ := h
  have hscope : scope.reservation = begins earlier + 1 := hnumbered.of_append.1
  rw [hscope]
  exact begins_lt_lastOf hnumbered hlater

/-! ## The invariant -/

/-- The reservation of a record is the last one of its slot, and while the record has its
attribution, no sample of it is reported. -/
structure Attributed (log : List (Event Seconds)) (slot : ℕ) (record : QueryRecord) : Prop where
  reservation_eq : record.reservation = lastOf slot log
  begun : record.attribution ≠ noAttribution → ∃ scope canReset,
    .began scope canReset record.frameIndex record.attribution ∈ log ∧
      scope.index = slot ∧ scope.reservation = record.reservation
  unreported : record.attribution ≠ noAttribution → record.reservation ∉ reportedReservations log

/-- A sample belongs to a reservation that asked for it. -/
def Owned (log : List (Event Seconds)) (reservation : ℕ) (sample : GpuTimingSample Seconds) :
    Prop :=
  sample.attribution ≠ noAttribution ∧ ∃ scope canReset,
    .began scope canReset sample.sourceFrameIndex sample.attribution ∈ log ∧
      scope.reservation = reservation

structure Ledger (system : System Seconds) : Prop where
  last_eq : system.accumulator.lastReservation = begins system.log
  numbered : Numbered system.log
  inside : ∀ scope canReset frameIndex attribution,
    .began scope canReset frameIndex attribution ∈ system.log →
      scope.index < system.accumulator.queries.length
  records : ∀ slot record, system.accumulator.queries[slot]? = some record →
    Attributed system.log slot record
  once : (reportedReservations system.log).Nodup
  owned : ∀ reservation sample, .reported reservation sample ∈ system.log →
    Owned system.log reservation sample

/-! ## Events that reserve nothing -/

/-- No slot is reserved. -/
def Silent (events : List (Event Seconds)) : Prop :=
  ∀ scope canReset frameIndex attribution, .began scope canReset frameIndex attribution ∉ events

section Silent

variable {events log : List (Event Seconds)}

lemma Silent.tail {event : Event Seconds} (h : Silent (event :: events)) : Silent events :=
  fun scope canReset frameIndex attribution hmem =>
    h scope canReset frameIndex attribution (List.mem_cons_of_mem _ hmem)

lemma Silent.begins_append (h : Silent events) : begins (events ++ log) = begins log := by
  induction events with
  | nil => rfl
  | cons event events ih =>
    cases event with
    | began => exact absurd List.mem_cons_self (h _ _ _ _)
    | _ => exact ih h.tail

lemma Silent.lastOf_append (h : Silent events) (slot : ℕ) :
    lastOf slot (events ++ log) = lastOf slot log := by
  induction events with
  | nil => rfl
  | cons event events ih =>
    cases event with
    | began => exact absurd List.mem_cons_self (h _ _ _ _)
    | _ => exact ih h.tail

lemma Silent.numbered_append (h : Silent events) (hlog : Numbered log) :
    Numbered (events ++ log) := by
  induction events with
  | nil => exact hlog
  | cons event events ih =>
    cases event with
    | began => exact absurd List.mem_cons_self (h _ _ _ _)
    | _ => exact ih h.tail

lemma lastOf_eq_zero {slot : ℕ} (h : ∀ scope canReset frameIndex attribution,
    .began scope canReset frameIndex attribution ∈ log → scope.index ≠ slot) :
    lastOf slot log = 0 := by
  induction log with
  | nil => rfl
  | cons event log ih =>
    have htail := ih fun scope canReset frameIndex attribution hmem =>
      h scope canReset frameIndex attribution (List.mem_cons_of_mem _ hmem)
    cases event with
    | began =>
      rw [lastOf, if_neg (h _ _ _ _ List.mem_cons_self)]
      exact htail
    | _ => exact htail

lemma Numbered.bounds (h : Numbered log) {scope : GpuTimingScope} {canReset : Bool}
    {frameIndex : ℕ} {attribution : Attribution}
    (hmem : .began scope canReset frameIndex attribution ∈ log) :
    0 < scope.reservation ∧ scope.reservation ≤ begins log := by
  induction log with
  | nil => exact absurd hmem List.not_mem_nil
  | cons event log ih =>
    cases event with
    | began other =>
      rcases List.mem_cons.1 hmem with heq | hmem
      · rw [Event.began.injEq] at heq
        rw [heq.1, h.1]
        exact ⟨Nat.succ_pos _, le_refl _⟩
      · exact (ih h.2 hmem).imp id fun hle => hle.trans (Nat.le_succ _)
    | _ => exact ih h ((List.mem_cons.1 hmem).resolve_left nofun)

end Silent

/-! ## Steps -/

open GpuTimingAccumulator

section Steps

variable {system : System Seconds} {accumulator : GpuTimingAccumulator}
  {sample : QueryRecord → Option (GpuTimingSample Seconds)}

variable {event : Event Seconds}

lemma mem_reports (h : event ∈ accumulator.reports sample) :
    ∃ (slot : ℕ) (record : QueryRecord) (found : GpuTimingSample Seconds),
      accumulator.queries[slot]? = some record ∧ sample record = some found ∧
        event = .reported record.reservation found := by
  obtain ⟨record, hrecord, hevent⟩ := List.mem_filterMap.1 h
  obtain ⟨found, hfound, rfl⟩ := Option.map_eq_some_iff.1 hevent
  obtain ⟨slot, hslot⟩ := List.getElem?_of_mem hrecord
  exact ⟨slot, record, found, hslot, hfound, rfl⟩

lemma silent_reports : Silent (accumulator.reports sample).reverse := by
  intro scope canReset frameIndex attribution hmem
  obtain ⟨_, _, _, _, _, heq⟩ := mem_reports (List.mem_reverse.1 hmem)
  cases heq

lemma reportedReservations_append (events log : List (Event Seconds)) :
    reportedReservations (events ++ log)
      = reportedReservations events ++ reportedReservations log :=
  List.filterMap_append

variable {reservation : ℕ}

lemma mem_reportedReservations {log : List (Event Seconds)} :
    reservation ∈ reportedReservations log ↔ ∃ found, .reported reservation found ∈ log := by
  rw [reportedReservations, List.mem_filterMap]
  constructor
  · rintro ⟨event, hmem, hevent⟩
    cases event with
    | reported other found =>
      obtain rfl := Option.some.inj hevent
      exact ⟨found, hmem⟩
    | _ => cases hevent
  · rintro ⟨found, hmem⟩
    exact ⟨_, hmem, rfl⟩

/-- Two records with attributions hold different reservations. -/
lemma Ledger.reservation_inj (h : Ledger system) {slot slot' : ℕ} {record record' : QueryRecord}
    (hrecord : system.accumulator.queries[slot]? = some record)
    (hrecord' : system.accumulator.queries[slot']? = some record')
    (hattribution : record.attribution ≠ noAttribution)
    (heq : record.reservation = record'.reservation) : slot = slot' := by
  have hfirst := h.records slot record hrecord
  have hsecond := h.records slot' record' hrecord'
  refine lastOf_inj h.numbered (hfirst.reservation_eq.symm.trans
    (heq.trans hsecond.reservation_eq)) ?_
  obtain ⟨scope, canReset, hmem, -, hreservation⟩ := hfirst.begun hattribution
  rw [← hfirst.reservation_eq, ← hreservation]
  exact (h.numbered.bounds hmem).1.ne'

/-- The record of a reported sample. -/
lemma Reporting.of_mem (hreporting : Reporting system.accumulator accumulator sample)
    (hmem : reservation ∈ reportedReservations (system.accumulator.reports sample)) :
    ∃ (slot : ℕ) (record : QueryRecord), system.accumulator.queries[slot]? = some record ∧
      (sample record).isSome = true ∧ record.attribution ≠ noAttribution ∧
        record.reservation = reservation := by
  obtain ⟨found, hfound⟩ := mem_reportedReservations.1 hmem
  obtain ⟨slot, record, other, hrecord, hsample, heq⟩ := mem_reports hfound
  rw [Event.reported.injEq] at heq
  exact ⟨slot, record, hrecord, Option.isSome_iff_exists.2 ⟨other, hsample⟩,
    (hreporting.attributed record other hsample).1, heq.1.symm⟩

lemma Ledger.nodup_reports (h : Ledger system)
    (hreporting : Reporting system.accumulator accumulator sample) :
    (reportedReservations (system.accumulator.reports sample)).Nodup := by
  have hreservations : reportedReservations (system.accumulator.reports sample)
      = system.accumulator.queries.filterMap fun record =>
          (sample record).map fun _ => record.reservation := by
    rw [reportedReservations, reports, List.filterMap_filterMap]
    refine List.filterMap_congr fun record _ => ?_
    cases sample record <;> rfl
  rw [hreservations]
  refine List.Pairwise.filterMap _ (R := fun record record' => (sample record).isSome = true →
      record.reservation ≠ record'.reservation) ?_ ?_
  · intro record record' hne reservation hfound reservation' hfound'
    obtain ⟨found, hsample, rfl⟩ := Option.map_eq_some_iff.1 hfound
    obtain ⟨found', -, rfl⟩ := Option.map_eq_some_iff.1 hfound'
    exact hne (Option.isSome_iff_exists.2 ⟨found, hsample⟩)
  · refine List.pairwise_iff_getElem.2 fun slot slot' hslot hslot' hlt hsample heq => ?_
    obtain ⟨found, hfound⟩ := Option.isSome_iff_exists.1 hsample
    exact hlt.ne (h.reservation_inj (List.getElem?_eq_getElem hslot)
      (List.getElem?_eq_getElem hslot') (hreporting.attributed _ found hfound).1 heq)

/-- A call that reserves nothing. -/
lemma Ledger.reports (h : Ledger system) (hslots : Slotwise Kept system.accumulator accumulator)
    (hreporting : Reporting system.accumulator accumulator sample) :
    Ledger (system.next accumulator (system.accumulator.reports sample)) where
  last_eq := by
    rw [System.next, silent_reports.begins_append]
    exact hslots.lastReservation_eq.trans h.last_eq
  numbered := silent_reports.numbered_append h.numbered
  inside := by
    intro scope canReset frameIndex attribution hmem
    have hold := (List.mem_append.1 hmem).resolve_left (silent_reports _ _ _ _)
    exact (h.inside scope canReset frameIndex attribution hold).trans_le hslots.length_le
  records := by
    intro slot record' hrecord'
    rcases hslots.record slot record' hrecord' with
      ⟨record, hrecord, hkept⟩ | ⟨hlength, query, rfl⟩
    · have hattributed := h.records slot record hrecord
      refine ⟨?_, fun hattribution => ?_, fun hattribution hmem => ?_⟩
      · rw [System.next, silent_reports.lastOf_append]
        exact hkept.reservation_eq.trans hattributed.reservation_eq
      · have heq := hkept.attribution.resolve_right hattribution
        obtain ⟨scope, canReset, hmem, hindex, hreservation⟩ :=
          hattributed.begun (heq ▸ hattribution)
        refine ⟨scope, canReset, List.mem_append_right _ ?_, hindex,
          hreservation.trans hkept.reservation_eq.symm⟩
        rw [hkept.frameIndex_eq, heq]
        exact hmem
      · have heq := hkept.attribution.resolve_right hattribution
        rw [System.next, reportedReservations_append, hkept.reservation_eq] at hmem
        rcases List.mem_append.1 hmem with hnew | hold
        · rw [reportedReservations, List.filterMap_reverse] at hnew
          obtain ⟨slot', other, hother, hsample, hown, hreservation⟩ :=
            hreporting.of_mem (List.mem_reverse.1 hnew)
          obtain rfl := h.reservation_inj hother hrecord hown hreservation
          rw [hrecord, Option.some.injEq] at hother
          exact hattribution (hreporting.cleared slot' record record' hrecord
            (hother ▸ hsample) hrecord')
        · exact hattributed.unreported (heq ▸ hattribution) hold
    · refine ⟨?_, fun hattribution => absurd rfl hattribution,
        fun hattribution => absurd rfl hattribution⟩
      rw [System.next, silent_reports.lastOf_append, lastOf_eq_zero]
      intro scope canReset frameIndex attribution hmem
      exact ((h.inside scope canReset frameIndex attribution hmem).trans_le hlength).ne
  once := by
    rw [System.next, reportedReservations_append, reportedReservations, List.filterMap_reverse]
    refine List.nodup_append.2 ⟨List.nodup_reverse.2 (h.nodup_reports hreporting), h.once, ?_⟩
    rintro reservation hnew _ hold rfl
    obtain ⟨slot, record, hrecord, -, hown, rfl⟩ :=
      hreporting.of_mem (List.mem_reverse.1 hnew)
    exact (h.records slot record hrecord).unreported hown hold
  owned := by
    intro reservation found hmem
    rcases List.mem_append.1 hmem with hnew | hold
    · obtain ⟨slot, record, other, hrecord, hsample, heq⟩ := mem_reports (List.mem_reverse.1 hnew)
      rw [Event.reported.injEq] at heq
      obtain ⟨rfl, rfl⟩ := heq
      obtain ⟨hown, hattribution, hframe⟩ := hreporting.attributed record found hsample
      obtain ⟨scope, canReset, hbegan, -, hreservation⟩ :=
        (h.records slot record hrecord).begun hown
      refine ⟨hattribution ▸ hown, scope, canReset, List.mem_append_right _ ?_, hreservation⟩
      rw [hattribution, hframe]
      exact hbegan
    · obtain ⟨hown, scope, canReset, hbegan, hreservation⟩ := h.owned reservation found hold
      exact ⟨hown, scope, canReset, List.mem_append_right _ hbegan, hreservation⟩

lemma Ledger.slots (h : Ledger system) (hslots : Slotwise Kept system.accumulator accumulator) :
    Ledger (system.next accumulator []) := by
  have hreporting : Reporting system.accumulator accumulator
      fun _ => (none : Option (GpuTimingSample Seconds)) :=
    ⟨fun _ _ hsample => (nomatch hsample), fun _ _ _ _ hsample => (nomatch hsample)⟩
  have hkept := h.reports hslots hreporting
  rwa [reports_none] at hkept

/-- What is written about a frame reset concerns no reservation. -/
lemma Ledger.frame (h : Ledger system) (hsilent : Silent [event])
    (hunreported : reportedReservations [event] = []) :
    Ledger (system.next system.accumulator [event]) := by
  have hreported : reportedReservations (event :: system.log) = reportedReservations system.log :=
    (reportedReservations_append [event] system.log).trans (by rw [hunreported, List.nil_append])
  have hbegan : ∀ {scope canReset frameIndex attribution},
      .began scope canReset frameIndex attribution ∈ event :: system.log →
        .began scope canReset frameIndex attribution ∈ system.log := fun hmem =>
    (List.mem_append.1 (show _ ∈ [event] ++ system.log from hmem)).resolve_left
      (hsilent _ _ _ _)
  exact {
    last_eq := h.last_eq.trans (@Silent.begins_append _ _ system.log hsilent).symm
    numbered := hsilent.numbered_append h.numbered
    inside := fun scope canReset frameIndex attribution hmem =>
      h.inside scope canReset frameIndex attribution (hbegan hmem)
    records := fun slot record hrecord => by
      obtain ⟨hreservation, hbegun, hunreported⟩ := h.records slot record hrecord
      refine ⟨hreservation.trans (hsilent.lastOf_append slot).symm, fun hattribution => ?_,
        fun hattribution => hreported ▸ hunreported hattribution⟩
      obtain ⟨scope, canReset, hmem, hscope⟩ := hbegun hattribution
      exact ⟨scope, canReset, List.mem_cons_of_mem _ hmem, hscope⟩
    once := by
      show (reportedReservations (event :: system.log)).Nodup
      rw [hreported]
      exact h.once
    owned := fun reservation found hmem => by
      rcases List.mem_cons.1 hmem with heq | hold
      · rw [← heq] at hunreported
        cases hunreported
      · obtain ⟨hown, scope, canReset, hbegun, hreservation⟩ := h.owned reservation found hold
        exact ⟨hown, scope, canReset, List.mem_cons_of_mem _ hbegun, hreservation⟩ }

/-! ## Reservations -/

/-- Every slot has a query pool, and every index is one of 32 bits. -/
structure Shaped (accumulator : GpuTimingAccumulator) : Prop where
  query_isSome : ∀ (slot : ℕ) (record : QueryRecord),
    accumulator.queries[slot]? = some record → record.query.isSome = true
  length_le : accumulator.queries.length ≤ u32Max

variable {accumulator' : GpuTimingAccumulator}

lemma Shaped.slots (h : Shaped accumulator) (hslots : Slotwise Kept accumulator accumulator')
    (hlength : accumulator'.queries.length ≤ max accumulator.queries.length u32Max) :
    Shaped accumulator' where
  query_isSome := by
    intro slot record' hrecord'
    rcases hslots.record slot record' hrecord' with ⟨record, hrecord, hkept⟩ | ⟨-, query, rfl⟩
    · rw [hkept.query_eq]
      exact h.query_isSome slot record hrecord
    · rfl
  length_le := hlength.trans (max_le h.length_le (le_refl _))

section Begins

variable {canReset : Bool} {frameIndex : ℕ} {attribution : Attribution} {scope : GpuTimingScope}
  {record : QueryRecord}

lemma nextReservation_pos (reservation : ℕ) : 0 < nextReservation reservation := by
  unfold nextReservation
  split
  · exact Nat.one_pos
  · next hne => exact Nat.pos_of_ne_zero hne

lemma nextReservation_eq {reservation : ℕ} (h : reservation + 1 < 2 ^ 64) :
    nextReservation reservation = reservation + 1 := by
  unfold nextReservation
  rw [Nat.mod_eq_of_lt h, if_neg (Nat.succ_ne_zero _)]

lemma scope_valid {accumulator' : GpuTimingAccumulator} (hshaped : Shaped accumulator)
    (h : Begins accumulator accumulator' canReset frameIndex attribution scope record) :
    scope.valid = true := by
  have hindex := (List.getElem?_eq_some_iff.1 h.record_eq).1.trans_le hshaped.length_le
  have hreservation : scope.reservation ≠ 0 :=
    h.reservation_eq ▸ (nextReservation_pos accumulator.lastReservation).ne'
  rw [GpuTimingScope.valid, h.scope_eq]
  simp only [Bool.and_eq_true, bne_iff_ne, Option.isSome_some, true_and]
  exact ⟨⟨hshaped.query_isSome _ _ h.record_eq, hindex.ne⟩, hreservation⟩

lemma Shaped.began {accumulator' : GpuTimingAccumulator} (hshaped : Shaped accumulator)
    (h : Begins accumulator accumulator' canReset frameIndex attribution scope record) :
    Shaped accumulator' := by
  obtain ⟨epoch, rfl⟩ := h.next_eq
  refine ⟨fun slot found hfound => ?_, ?_⟩
  · dsimp only at hfound
    rw [List.getElem?_set] at hfound
    split at hfound
    · next hslot =>
      rw [if_pos (hslot ▸ (List.getElem?_eq_some_iff.1 h.record_eq).1), Option.some.injEq] at hfound
      rw [← hfound]
      show record.query.isSome = true
      exact hshaped.query_isSome _ _ h.record_eq
    · exact hshaped.query_isSome slot found hfound
  · dsimp only
    rw [List.length_set]
    exact hshaped.length_le

/-- A new reservation has a number of its own. -/
lemma Ledger.began {accumulator' : GpuTimingAccumulator} (hledger : Ledger system)
    (hshaped : Shaped system.accumulator)
    (h : Begins system.accumulator accumulator' canReset frameIndex attribution scope record)
    (hbound : begins system.log + 1 < 2 ^ 64) :
    Ledger (system.next accumulator' (GpuTiming.began canReset frameIndex attribution scope)) := by
  have hnumber : scope.reservation = begins system.log + 1 := by
    rw [h.reservation_eq, hledger.last_eq, nextReservation_eq hbound]
  have hlog : (GpuTiming.began canReset frameIndex attribution scope).reverse ++ system.log
      = .began scope canReset frameIndex attribution :: system.log := by
    rw [GpuTiming.began, if_pos (scope_valid hshaped h)]
    rfl
  obtain ⟨epoch, rfl⟩ := h.next_eq
  have hlt := (List.getElem?_eq_some_iff.1 h.record_eq).1
  rw [System.next, hlog]
  exact {
    last_eq := hnumber
    numbered := ⟨hnumber, hledger.numbered⟩
    inside := by
      intro other canReset' frameIndex' attribution' hmem
      show other.index < (system.accumulator.queries.set _ _).length
      rw [List.length_set]
      rcases List.mem_cons.1 hmem with heq | hold
      · rw [Event.began.injEq] at heq
        exact heq.1 ▸ hlt
      · exact hledger.inside other canReset' frameIndex' attribution' hold
    records := by
      intro slot found hfound
      dsimp only at hfound
      by_cases hslot : scope.index = slot
      · rw [← hslot, List.getElem?_set_self hlt, Option.some.injEq] at hfound
        refine ⟨?_, fun _ => ⟨scope, canReset, ?_, hslot, ?_⟩, fun _ hmem => ?_⟩
        · rw [lastOf, if_pos hslot, ← hfound]
          rfl
        · rw [← hfound]
          exact List.mem_cons_self
        · rw [← hfound]
          rfl
        · rw [← hfound] at hmem
          obtain ⟨sample, hsample⟩ := mem_reportedReservations.1 hmem
          obtain ⟨-, other, canReset', hbegun, hreservation⟩ :=
            hledger.owned _ sample ((List.mem_cons.1 hsample).resolve_left nofun)
          have hle := (hledger.numbered.bounds hbegun).2
          rw [hreservation] at hle
          exact absurd (hnumber ▸ hle : begins system.log + 1 ≤ _) (Nat.not_succ_le_self _)
      · rw [List.getElem?_set_ne hslot] at hfound
        obtain ⟨hreservation, hbegun, hunreported⟩ := hledger.records slot found hfound
        refine ⟨?_, fun hattribution => ?_, hunreported⟩
        · rw [lastOf, if_neg hslot]
          exact hreservation
        · obtain ⟨other, canReset', hmem, hother⟩ := hbegun hattribution
          exact ⟨other, canReset', List.mem_cons_of_mem _ hmem, hother⟩
    once := hledger.once
    owned := by
      intro reservation sample hmem
      obtain ⟨hown, other, canReset', hbegun, hreservation⟩ :=
        hledger.owned reservation sample ((List.mem_cons.1 hmem).resolve_left nofun)
      exact ⟨hown, other, canReset', List.mem_cons_of_mem _ hbegun, hreservation⟩ }

end Begins

/-! ## Runs -/

/-- A call that turns the collection off loses every frame reset. -/
lemma slotwise_discardFrameReset (accumulator : GpuTimingAccumulator) (enabled : Bool) :
    Slotwise Quiet accumulator { accumulator with enabled }.discardFrameReset := by
  have h := @slotwise_mapQueries Quiet { accumulator with enabled } _
    quiet_discardFrameReset
  exact ⟨h.address_eq, h.lastReservation_eq, h.length_le, h.record⟩

lemma length_mapQueries (body : QueryRecord → QueryRecord) :
    (accumulator.mapQueries body).queries.length ≤ max accumulator.queries.length u32Max :=
  (List.length_map body).le.trans (le_max_left _ _)

lemma GpuTimingAccumulator.Slotwise.kept (h : Slotwise Quiet accumulator accumulator') :
    Slotwise Kept accumulator accumulator' :=
  h.mono fun _ _ hquiet => hquiet.toKept

variable {system' : System Seconds}

lemma Effect.log_append {call : Call Seconds} (h : Effect system call system') :
    ∃ events, system'.log = events ++ system.log := by
  cases h <;> exact ⟨_, rfl⟩

lemma Shaped.effect {call : Call Seconds} (h : Shaped system.accumulator)
    (heffect : Effect system call system') : Shaped system'.accumulator := by
  cases heffect with
  | quiet hquiet => exact h.slots hquiet.slots.kept hquiet.length_le
  | frameReset =>
    exact h.slots (slotwise_mapQueries kept_recordFrameReset) (length_mapQueries _)
  | frameResetConfirmed =>
    exact h.slots (slotwise_mapQueries fun record => kept_confirmFrameReset record _)
      (length_mapQueries _)
  | frameResetDiscarded enabled =>
    refine h.slots (slotwise_discardFrameReset system.accumulator enabled).kept ?_
    exact @length_mapQueries { system.accumulator with enabled } _
  | began hcall hbegins => exact h.began hbegins

lemma Ledger.effect {call : Call Seconds} (h : Ledger system) (hshaped : Shaped system.accumulator)
    (heffect : Effect system call system') (hbound : begins system'.log < 2 ^ 64) :
    Ledger system' := by
  cases heffect with
  | quiet hquiet => exact h.reports hquiet.slots.kept hquiet.reporting
  | frameReset =>
    exact (h.slots (slotwise_mapQueries kept_recordFrameReset)).frame
      (fun _ _ _ _ hmem => nomatch List.mem_singleton.1 hmem) rfl
  | frameResetConfirmed =>
    exact (h.slots (slotwise_mapQueries fun record => kept_confirmFrameReset record _)).frame
      (fun _ _ _ _ hmem => nomatch List.mem_singleton.1 hmem) rfl
  | frameResetDiscarded enabled =>
    exact (h.slots (slotwise_discardFrameReset system.accumulator enabled).kept).frame
      (fun _ _ _ _ hmem => nomatch List.mem_singleton.1 hmem) rfl
  | began hcall hbegins =>
    refine h.began hshaped hbegins ?_
    rw [System.next, GpuTiming.began, if_pos (scope_valid hshaped hbegins)] at hbound
    exact hbound

end Steps

section Run

variable {address timingScope : ℕ} {scopeName : Volume.NameHash}

/-- A new accumulator. -/
def System.start (address timingScope : ℕ) (scopeName : Volume.NameHash) : System Seconds where
  accumulator := { address, scopeName, timingScope }
  log := []

lemma shaped_start :
    Shaped (System.start address timingScope scopeName : System Seconds).accumulator :=
  ⟨fun _ _ hrecord => (nomatch hrecord), Nat.zero_le _⟩

lemma ledger_start : Ledger (System.start address timingScope scopeName : System Seconds) where
  last_eq := rfl
  numbered := trivial
  inside := fun _ _ _ _ hmem => nomatch hmem
  records := fun _ _ hrecord => nomatch hrecord
  once := List.nodup_nil
  owned := fun _ _ hmem => nomatch hmem

/-- Every run keeps the shape, and the ledger while there are numbers left. -/
theorem ledger_of_run [Sub Seconds] [Zero Seconds] {ok : System Seconds → Call Seconds → Prop}
    {calls : List (Call Seconds)} {system : System Seconds}
    (hrun : Runs.Run System.step ok (System.start address timingScope scopeName) calls system) :
    Shaped system.accumulator ∧ (begins system.log < 2 ^ 64 → Ledger system) := by
  refine hrun.invariant (P := fun system =>
    Shaped system.accumulator ∧ (begins system.log < 2 ^ 64 → Ledger system))
    ⟨shaped_start, fun _ => ledger_start⟩ ?_
  rintro system call system' - hstep ⟨hshaped, hledger⟩
  obtain rfl := Option.some.inj hstep
  have heffect := effect_call system call
  refine ⟨hshaped.effect heffect, fun hbound => ?_⟩
  obtain ⟨events, hlog⟩ := heffect.log_append
  have hbefore : begins system.log < 2 ^ 64 := by
    rw [hlog] at hbound
    exact (begins_append_le events system.log).trans_lt hbound
  exact (hledger hbefore).effect hshaped heffect hbound

end Run

end NwbLot.GpuTiming
