import NwbLot.GpuTiming.ReservationLog

/-!
# What the query slots promise

A slot in use is not handed out again, a superseded scope changes nothing, and a sample is reported
once.  A timestamp pair inside a render pass has a reset of its own when no slot is reserved between
the recording and the confirmation of its frame reset.
-/

namespace NwbLot.GpuTiming

open Runs GpuTimingAccumulator

variable {Seconds : Type}

/-! ## Confirmed resets -/

def Event.beginsSlot (slot : ℕ) : Event Seconds → Bool
  | .began scope _ _ _ => scope.index == slot
  | _ => false

/-- The event settles what became of an earlier frame reset. -/
def Event.isFrame : Event Seconds → Bool
  | .frameReset _ | .frameResetConfirmed | .frameResetDiscarded => true
  | _ => false

/-- The events behind the last reservation of a slot. -/
def sinceBegan (slot : ℕ) (log : List (Event Seconds)) : List (Event Seconds) :=
  log.takeWhile fun event => !event.beginsSlot slot

/-- A reset of the slot has been recorded behind its last reservation, and nothing has come of it
yet. -/
def ResetRecorded (slot : ℕ) (log : List (Event Seconds)) : Prop :=
  ∃ between slots earlier, sinceBegan slot log = between ++ .frameReset slots :: earlier ∧
    slot ∈ slots ∧ ∀ event ∈ between, event.isFrame = false

/-- A reset of the slot has been recorded behind its last reservation and then confirmed. -/
def ResetConfirmed (slot : ℕ) (log : List (Event Seconds)) : Prop :=
  ∃ later between slots earlier, sinceBegan slot log
      = later ++ .frameResetConfirmed :: (between ++ .frameReset slots :: earlier) ∧
    slot ∈ slots ∧ ∀ event ∈ between, event.isFrame = false

/-- Every reservation inside a render pass finds a confirmed reset of its slot. -/
def PassResets (log : List (Event Seconds)) : Prop :=
  ∀ later scope frameIndex attribution earlier,
    log = later ++ .began scope false frameIndex attribution :: earlier →
      ResetConfirmed scope.index earlier

/-- The call reserves no slot that a frame reset which nothing has come of yet has been recorded
for. -/
def Unshadowed (system : System Seconds) : Call Seconds → Prop
  | .beginQuery true _ _ _ => ∀ slot record,
      system.accumulator.findAvailableQuery = some slot →
        system.accumulator.queries[slot]? = some record → record.frameResetRecorded = false
  | _ => True

/-- What the flags of the records say about the log. -/
structure ResetFlags (system : System Seconds) : Prop where
  recorded : ∀ slot record, system.accumulator.queries[slot]? = some record →
    record.frameResetRecorded = true → ResetRecorded slot system.log
  ready : ∀ slot record, system.accumulator.queries[slot]? = some record →
    record.deviceReady = true → ResetConfirmed slot system.log
  passes : PassResets system.log

section Logs

variable {slot : ℕ} {event : Event Seconds} {events log : List (Event Seconds)}

lemma sinceBegan_append (h : ∀ event ∈ events, event.beginsSlot slot = false) :
    sinceBegan slot (events ++ log) = events ++ sinceBegan slot log := by
  unfold sinceBegan
  rw [List.takeWhile_append_of_pos]
  intro event hmem
  rw [h event hmem]
  rfl

lemma ResetRecorded.append (h : ResetRecorded slot log)
    (hevents : ∀ event ∈ events, event.beginsSlot slot = false ∧ event.isFrame = false) :
    ResetRecorded slot (events ++ log) := by
  obtain ⟨between, slots, earlier, hsince, hslot, hquiet⟩ := h
  refine ⟨events ++ between, slots, earlier, ?_, hslot, fun event hmem => ?_⟩
  · rw [sinceBegan_append fun event hmem => (hevents event hmem).1, hsince, List.append_assoc]
  · exact (List.mem_append.1 hmem).elim (fun hnew => (hevents event hnew).2) (hquiet event)

lemma ResetConfirmed.append (h : ResetConfirmed slot log)
    (hevents : ∀ event ∈ events, event.beginsSlot slot = false) :
    ResetConfirmed slot (events ++ log) := by
  obtain ⟨later, between, slots, earlier, hsince, hslot, hquiet⟩ := h
  refine ⟨events ++ later, between, slots, earlier, ?_, hslot, hquiet⟩
  rw [sinceBegan_append hevents, hsince, List.append_assoc]

lemma ResetRecorded.confirm (h : ResetRecorded slot log) :
    ResetConfirmed slot (.frameResetConfirmed :: log) := by
  obtain ⟨between, slots, earlier, hsince, hslot, hquiet⟩ := h
  refine ⟨[], between, slots, earlier, ?_, hslot, hquiet⟩
  rw [← hsince]
  rfl

lemma resetRecorded_frameReset {slots : List ℕ} (hslot : slot ∈ slots) :
    ResetRecorded slot (.frameReset slots :: log) :=
  ⟨[], slots, sinceBegan slot log, rfl, hslot, fun _ hmem => absurd hmem List.not_mem_nil⟩

lemma PassResets.append (h : PassResets log)
    (hevents : ∀ scope frameIndex attribution, .began scope false frameIndex attribution ∉ events) :
    PassResets (events ++ log) := by
  intro later scope frameIndex attribution earlier heq
  induction events generalizing later with
  | nil => exact h later scope frameIndex attribution earlier heq
  | cons event events ih =>
    cases later with
    | nil =>
      obtain ⟨rfl, -⟩ := List.cons_eq_cons.1 heq
      exact absurd List.mem_cons_self (hevents _ _ _)
    | cons first later =>
      exact ih (fun scope frameIndex attribution hmem =>
        hevents scope frameIndex attribution (List.mem_cons_of_mem _ hmem)) later
        (List.cons_eq_cons.1 heq).2

end Logs

/-! ## The flags of the records -/

section Flags

variable {system system' : System Seconds} {call : Call Seconds}

/-- A reset that is recorded leaves the slot not ready, and a new reservation of it is refused
inside a render pass. -/
def Exclusive (accumulator : GpuTimingAccumulator) : Prop :=
  ∀ (slot : ℕ) (record : QueryRecord), accumulator.queries[slot]? = some record →
    record.frameResetRecorded = true → accumulator.enabled = true ∧ record.deviceReady = false

lemma getElem?_mapQueries {accumulator : GpuTimingAccumulator} {body : QueryRecord → QueryRecord}
    {slot : ℕ} {record' : QueryRecord}
    (h : (accumulator.mapQueries body).queries[slot]? = some record') :
    ∃ record, accumulator.queries[slot]? = some record ∧ body record = record' := by
  rwa [mapQueries, List.getElem?_map, Option.map_eq_some_iff] at h

lemma confirmFrameReset_frameResetRecorded (record : QueryRecord) (enabled : Bool) :
    (record.confirmFrameReset enabled).frameResetRecorded = false := by
  unfold QueryRecord.confirmFrameReset
  split
  · assumption
  · rfl

lemma of_confirmFrameReset_deviceReady {record : QueryRecord} {enabled : Bool}
    (h : (record.confirmFrameReset enabled).deviceReady = true) :
    record.frameResetRecorded = true ∨ record.deviceReady = true := by
  unfold QueryRecord.confirmFrameReset at h
  split at h
  · exact Or.inr h
  · next hrecorded => exact Or.inl (Bool.not_eq_false _ ▸ hrecorded)

/-- The record of a slot behind a reservation. -/
lemma GpuTimingAccumulator.Begins.record_cases
    {accumulator accumulator' : GpuTimingAccumulator} {canReset : Bool} {frameIndex : ℕ}
    {attribution : Attribution} {scope : GpuTimingScope} {record : QueryRecord}
    (h : Begins accumulator accumulator' canReset frameIndex attribution scope record) {slot : ℕ}
    {found : QueryRecord} (hfound : accumulator'.queries[slot]? = some found) :
    scope.index = slot ∧ (∃ epoch,
        found = record.reserve scope.reservation frameIndex epoch attribution) ∨
      scope.index ≠ slot ∧ accumulator.queries[slot]? = some found := by
  obtain ⟨epoch, rfl⟩ := h.next_eq
  dsimp only at hfound
  by_cases hslot : scope.index = slot
  · rw [← hslot, List.getElem?_set_self (List.getElem?_eq_some_iff.1 h.record_eq).1,
      Option.some.injEq] at hfound
    exact Or.inl ⟨hslot, epoch, hfound.symm⟩
  · rw [List.getElem?_set_ne hslot] at hfound
    exact Or.inr ⟨hslot, hfound⟩

lemma Exclusive.effect (h : Exclusive system.accumulator) (heffect : Effect system call system') :
    Exclusive system'.accumulator := by
  intro slot record' hrecord' hrecorded
  cases heffect with
  | quiet hquiet =>
    rcases hquiet.slots.record slot record' hrecord' with ⟨record, hrecord, hkept⟩ | ⟨-, query, rfl⟩
    · obtain ⟨henabled, hready⟩ := h slot record hrecord (hkept.frameResetRecorded hrecorded)
      refine ⟨hquiet.enabled henabled, Bool.eq_false_iff.2 fun hready' => ?_⟩
      rw [hkept.deviceReady hready'] at hready
      cases hready
    · cases hrecorded
  | frameReset henabled =>
    obtain ⟨record, -, rfl⟩ := getElem?_mapQueries hrecord'
    exact ⟨henabled, rfl⟩
  | frameResetConfirmed =>
    obtain ⟨record, -, rfl⟩ := getElem?_mapQueries hrecord'
    rw [confirmFrameReset_frameResetRecorded] at hrecorded
    cases hrecorded
  | frameResetDiscarded =>
    obtain ⟨record, -, rfl⟩ := getElem?_mapQueries hrecord'
    cases hrecorded
  | @began accumulator' _ _ _ _ _ _ hcall hbegins =>
    have henabled : accumulator'.enabled = true := by
      obtain ⟨_, rfl⟩ := hbegins.next_eq
      exact hbegins.enabled
    refine ⟨henabled, ?_⟩
    rcases hbegins.record_cases hrecord' with ⟨-, epoch, rfl⟩ | ⟨-, hrecord⟩
    · rfl
    · exact (h slot record' hrecord hrecorded).2

lemma not_beginsSlot_reports {accumulator : GpuTimingAccumulator}
    {sample : QueryRecord → Option (GpuTimingSample Seconds)} {event : Event Seconds}
    (hmem : event ∈ (accumulator.reports sample).reverse) :
    (∀ slot, event.beginsSlot slot = false) ∧ event.isFrame = false := by
  obtain ⟨_, _, _, _, _, rfl⟩ := mem_reports (List.mem_reverse.1 hmem)
  exact ⟨fun _ => rfl, rfl⟩

lemma ResetFlags.effect (h : ResetFlags system) (hexclusive : Exclusive system.accumulator)
    (hshaped : Shaped system.accumulator) (hcall : Unshadowed system call)
    (heffect : Effect system call system') : ResetFlags system' := by
  cases heffect with
  | quiet hquiet =>
    refine ⟨fun slot record' hrecord' hflag => ?_, fun slot record' hrecord' hflag => ?_, ?_⟩
    · rcases hquiet.slots.record slot record' hrecord' with ⟨record, hrecord, hkept⟩ | ⟨-, _, rfl⟩
      · exact (h.recorded slot record hrecord (hkept.frameResetRecorded hflag)).append
          fun event hmem => (not_beginsSlot_reports hmem).imp (fun hall => hall slot) id
      · cases hflag
    · rcases hquiet.slots.record slot record' hrecord' with ⟨record, hrecord, hkept⟩ | ⟨-, _, rfl⟩
      · exact (h.ready slot record hrecord (hkept.deviceReady hflag)).append
          fun event hmem => (not_beginsSlot_reports hmem).1 slot
      · cases hflag
    · exact h.passes.append fun scope frameIndex attribution => silent_reports _ _ _ _
  | frameReset henabled =>
    refine ⟨fun slot record' hrecord' hflag => ?_, fun slot record' hrecord' hflag => ?_, ?_⟩
    · obtain ⟨record, hrecord, rfl⟩ := getElem?_mapQueries hrecord'
      exact resetRecorded_frameReset (mem_recordFrameReset henabled hrecord hflag)
    · obtain ⟨record, hrecord, rfl⟩ := getElem?_mapQueries hrecord'
      cases hflag
    · exact h.passes.append fun scope frameIndex attribution hmem =>
        nomatch List.mem_singleton.1 hmem
  | frameResetConfirmed =>
    refine ⟨fun slot record' hrecord' hflag => ?_, fun slot record' hrecord' hflag => ?_, ?_⟩
    · obtain ⟨record, hrecord, rfl⟩ := getElem?_mapQueries hrecord'
      rw [confirmFrameReset_frameResetRecorded] at hflag
      cases hflag
    · obtain ⟨record, hrecord, rfl⟩ := getElem?_mapQueries hrecord'
      rcases of_confirmFrameReset_deviceReady hflag with hrecorded | hready
      · exact (h.recorded slot record hrecord hrecorded).confirm
      · exact @ResetConfirmed.append _ _ [.frameResetConfirmed] _
          (h.ready slot record hrecord hready) fun event hmem => List.mem_singleton.1 hmem ▸ rfl
    · exact h.passes.append fun scope frameIndex attribution hmem =>
        nomatch List.mem_singleton.1 hmem
  | frameResetDiscarded =>
    refine ⟨fun slot record' hrecord' hflag => ?_, fun slot record' hrecord' hflag => ?_, ?_⟩
    · obtain ⟨record, hrecord, rfl⟩ := getElem?_mapQueries hrecord'
      cases hflag
    · obtain ⟨record, hrecord, rfl⟩ := getElem?_mapQueries hrecord'
      cases hflag
    · exact h.passes.append fun scope frameIndex attribution hmem =>
        nomatch List.mem_singleton.1 hmem
  | @began accumulator' canReset frameIndex epoch attribution scope record heq hbegins =>
    have hlog : (GpuTiming.began canReset frameIndex attribution scope).reverse ++ system.log
        = .began scope canReset frameIndex attribution :: system.log := by
      rw [GpuTiming.began, if_pos (scope_valid hshaped hbegins)]
      rfl
    have hother : ∀ slot, scope.index ≠ slot → ∀ event ∈
        ([.began scope canReset frameIndex attribution] : List (Event Seconds)),
          event.beginsSlot slot = false ∧ event.isFrame = false := by
      intro slot hslot event hmem
      rw [List.mem_singleton.1 hmem]
      exact ⟨beq_false_of_ne hslot, rfl⟩
    -- a slot whose reset is recorded is refused inside a render pass and excluded outside
    have hfree : record.frameResetRecorded = false := by
      cases canReset with
      | true =>
        subst heq
        exact hcall scope.index record hbegins.found hbegins.record_eq
      | false =>
        by_contra hrecorded
        have hready := (hexclusive _ record hbegins.record_eq (Bool.not_eq_false _ ▸ hrecorded)).2
        rw [hbegins.ready rfl] at hready
        cases hready
    rw [System.next, hlog]
    refine ⟨fun slot record' hrecord' hflag => ?_, fun slot record' hrecord' hflag => ?_, ?_⟩
    · rcases hbegins.record_cases hrecord' with ⟨-, _, rfl⟩ | ⟨hslot, hrecord⟩
      · have hsame : record.frameResetRecorded = true := hflag
        rw [hfree] at hsame
        cases hsame
      · exact (h.recorded slot record' hrecord hflag).append (hother slot hslot)
    · rcases hbegins.record_cases hrecord' with ⟨-, _, rfl⟩ | ⟨hslot, hrecord⟩
      · cases hflag
      · exact (h.ready slot record' hrecord hflag).append fun event hmem =>
          (hother slot hslot event hmem).1
    · intro later other frameIndex' attribution' earlier hsplit
      cases later with
      | nil =>
        obtain ⟨hevent, rfl⟩ := List.cons_eq_cons.1 hsplit
        rw [Event.began.injEq] at hevent
        obtain ⟨rfl, rfl, -, -⟩ := hevent
        exact h.ready _ record hbegins.record_eq (hbegins.ready rfl)
      | cons first later =>
        exact h.passes later other frameIndex' attribution' earlier (List.cons_eq_cons.1 hsplit).2

end Flags

/-! ## Past the condition -/

section Shadowed

variable {system : System Seconds} {accumulator : GpuTimingAccumulator} {slot : ℕ}
  {record : QueryRecord} {canReset : Bool} {frameIndex epoch : ℕ} {attribution : Attribution}

lemma findAvailableQuery_eq_some_iff : accumulator.findAvailableQuery = some slot ↔
    (∃ record, accumulator.queries[slot]? = some record ∧ record.available = true) ∧
      ∀ earlier < slot, ∀ record, accumulator.queries[earlier]? = some record →
        record.available = false := by
  rw [findAvailableQuery, List.findIdx?_eq_some_iff_getElem]
  constructor
  · rintro ⟨hlt, havailable, hearlier⟩
    refine ⟨⟨_, List.getElem?_eq_getElem hlt, havailable⟩, fun earlier hless found hfound => ?_⟩
    rw [List.getElem?_eq_getElem (hless.trans hlt), Option.some.injEq] at hfound
    exact hfound ▸ Bool.eq_false_iff.2 (hearlier earlier hless)
  · rintro ⟨⟨record, hrecord, havailable⟩, hearlier⟩
    obtain ⟨hlt, rfl⟩ := List.getElem?_eq_some_iff.1 hrecord
    refine ⟨hlt, havailable, fun earlier hless => ?_⟩
    rw [hearlier earlier hless _ (List.getElem?_eq_getElem (hless.trans hlt))]
    exact Bool.false_ne_true

/-- The first available slot is reserved when its pool can be reset or has been. -/
lemma begins_of_available (henabled : accumulator.enabled = true)
    (hfound : accumulator.findAvailableQuery = some slot)
    (hrecord : accumulator.queries[slot]? = some record)
    (hready : record.deviceReady = true ∨ canReset = true) :
    ∃ accumulator' scope, accumulator.beginQuery canReset frameIndex epoch attribution
        = (accumulator', scope) ∧ scope.index = slot ∧
      Begins accumulator accumulator' canReset frameIndex attribution scope record := by
  unfold beginQuery
  rw [if_neg (by rw [henabled]; decide), hfound]
  dsimp only
  rw [hrecord]
  dsimp only
  rw [if_neg]
  · refine ⟨_, _, rfl, rfl, ⟨henabled, hfound, hrecord, fun hpass => ?_, rfl, rfl, ⟨epoch, rfl⟩⟩⟩
    exact hready.resolve_right (by rw [hpass]; decide)
  · rintro ⟨hnotReady, hpass⟩
    rw [hnotReady, hpass] at hready
    exact hready.elim Bool.false_ne_true Bool.false_ne_true

/-- A reservation that is discarded leaves its slot available, and the reset recorded. -/
lemma discardQuery_of_begins {accumulator' : GpuTimingAccumulator} {scope : GpuTimingScope}
    (hshaped : Shaped accumulator)
    (h : Begins accumulator accumulator' canReset frameIndex attribution scope record) :
    (accumulator'.discardQuery scope).enabled = true ∧
      (accumulator'.discardQuery scope).findAvailableQuery = some scope.index ∧
      ∃ found, (accumulator'.discardQuery scope).queries[scope.index]? = some found ∧
        found.frameResetRecorded = record.frameResetRecorded := by
  have hvalid := scope_valid hshaped h
  have hlt := (List.getElem?_eq_some_iff.1 h.record_eq).1
  obtain ⟨-, hearlier⟩ := findAvailableQuery_eq_some_iff.1 h.found
  have haddress : scope.accumulator = some accumulator.address := by rw [h.scope_eq]
  have hquery : record.query = scope.query := by rw [h.scope_eq]
  obtain ⟨epoch, rfl⟩ := h.next_eq
  set reserved := record.reserve scope.reservation frameIndex epoch attribution with hreserved
  have hfound : ({ accumulator with
      queries := accumulator.queries.set scope.index reserved
      lastReservation := scope.reservation } : GpuTimingAccumulator).reserved scope
        = some reserved := by
    rw [GpuTimingAccumulator.reserved, if_neg]
    · dsimp only
      rw [List.getElem?_set_self hlt, Option.filter_some, if_pos]
      rw [hreserved, Bool.and_eq_true, beq_iff_eq, beq_iff_eq]
      exact ⟨hquery, rfl⟩
    · rw [hvalid, not_or, not_not]
      exact ⟨by decide, haddress⟩
  rw [discardQuery, hfound]
  dsimp only
  rw [List.set_set]
  refine ⟨h.enabled, findAvailableQuery_eq_some_iff.2 ⟨⟨reserved.discard, ?_, rfl⟩, ?_⟩,
    reserved.discard, ?_, rfl⟩
  · exact List.getElem?_set_self hlt
  · intro earlier hless found hearlierFound
    dsimp only at hearlierFound
    rw [List.getElem?_set_ne hless.ne'] at hearlierFound
    exact hearlier earlier hless found hearlierFound
  · exact List.getElem?_set_self hlt

lemma findAvailableQuery_confirmFrameReset :
    accumulator.confirmFrameReset.findAvailableQuery = accumulator.findAvailableQuery := by
  rw [findAvailableQuery, confirmFrameReset, mapQueries, List.findIdx?_map, findAvailableQuery]
  congr 1
  funext record
  show (record.confirmFrameReset _).available = record.available
  unfold QueryRecord.confirmFrameReset
  split <;> rfl

variable [Sub Seconds] [Zero Seconds]

lemma call_beginQuery {accumulator' : GpuTimingAccumulator} {scope : GpuTimingScope}
    (hshaped : Shaped system.accumulator)
    (hbegun : system.accumulator.beginQuery canReset frameIndex epoch attribution
      = (accumulator', scope))
    (h : Begins system.accumulator accumulator' canReset frameIndex attribution scope record) :
    system.call (.beginQuery canReset frameIndex epoch attribution)
      = ⟨accumulator', .began scope canReset frameIndex attribution :: system.log⟩ := by
  show system.next (system.accumulator.beginQuery canReset frameIndex epoch attribution).1
    (GpuTiming.began canReset frameIndex attribution
      (system.accumulator.beginQuery canReset frameIndex epoch attribution).2) = _
  rw [hbegun, GpuTiming.began, if_pos (scope_valid hshaped h)]
  rfl

/-- A reservation over a recorded reset can be discarded and the reset confirmed, and the next
reservation inside a render pass has no reset of its own. -/
lemma pass_without_reset (hshaped : Shaped system.accumulator)
    (hexclusive : Exclusive system.accumulator)
    (hfound : system.accumulator.findAvailableQuery = some slot)
    (hrecord : system.accumulator.queries[slot]? = some record)
    (hrecorded : record.frameResetRecorded = true) :
    ∃ more system', FreeRun System.step
        (system.call (.beginQuery true frameIndex epoch attribution)) more system' ∧
      ¬PassResets system'.log := by
  obtain ⟨first, scope, hbegun, hindex, hbegins⟩ :=
    @begins_of_available _ _ _ true frameIndex epoch attribution
      (hexclusive slot record hrecord hrecorded).1 hfound hrecord (Or.inr rfl)
  have hcall := call_beginQuery hshaped hbegun hbegins
  obtain ⟨henabled, hdiscarded, found, hfoundRecord, hflag⟩ :=
    discardQuery_of_begins hshaped hbegins
  have hconfirmed : (first.discardQuery scope).confirmFrameReset.queries[scope.index]?
      = some (found.confirmFrameReset true) := by
    rw [confirmFrameReset, mapQueries, henabled, List.getElem?_map, hfoundRecord]
    rfl
  have hready : (found.confirmFrameReset true).deviceReady = true := by
    rw [QueryRecord.confirmFrameReset, if_neg]
    · rfl
    · rw [hflag, hrecorded]
      decide
  obtain ⟨last, scope', hbegun', hindex', hbegins'⟩ :=
    @begins_of_available _ _ _ false frameIndex epoch attribution
      (show (first.discardQuery scope).confirmFrameReset.enabled = true from henabled)
      (findAvailableQuery_confirmFrameReset.trans hdiscarded) hconfirmed (Or.inl hready)
  set third : System Seconds := ((system.call (.beginQuery true frameIndex epoch attribution)).call
    (.discardQuery scope)).call .confirmFrameReset with hthird
  have hthirdEq : third = ⟨(first.discardQuery scope).confirmFrameReset,
      .frameResetConfirmed :: .began scope true frameIndex attribution :: system.log⟩ := by
    rw [hthird, hcall]
    rfl
  have hshapedThird : Shaped third.accumulator :=
    ((hshaped.effect (effect_call _ _)).effect (effect_call _ _)).effect (effect_call _ _)
  have hlast : third.call (.beginQuery false frameIndex epoch attribution)
      = ⟨last, .began scope' false frameIndex attribution :: third.log⟩ :=
    call_beginQuery hshapedThird (by rw [hthirdEq]; exact hbegun')
      (by rw [hthirdEq]; exact hbegins')
  refine ⟨_, third.call (.beginQuery false frameIndex epoch attribution),
    Run.cons trivial rfl (Run.cons trivial rfl (Run.cons trivial rfl .refl)), fun hpasses => ?_⟩
  rw [hlast, hthirdEq] at hpasses
  obtain ⟨later, between, slots, earlier, hsince, -, -⟩ :=
    hpasses [] scope' frameIndex attribution _ rfl
  have hsame : scope'.index = scope.index := hindex'
  have honly : sinceBegan scope'.index (.frameResetConfirmed ::
      .began scope true frameIndex attribution :: system.log) = [.frameResetConfirmed] := by
    rw [hsame]
    simp [sinceBegan, Event.beginsSlot]
  rw [honly] at hsince
  have hlength := congrArg List.length hsince
  simp only [List.length_append, List.length_cons, List.length_nil] at hlength
  omega

end Shadowed

/-! ## The contract -/

section Contract

variable [Sub Seconds] [Zero Seconds]

omit [Sub Seconds] [Zero Seconds] in
/-- A scope whose slot has been reserved again is nobody's. -/
lemma Superseded.reserved {system : System Seconds} {scope : GpuTimingScope}
    (h : Superseded system.log scope) (hledger : Ledger system) :
    system.accumulator.reserved scope = none := by
  by_contra hne
  obtain ⟨record, hrecord⟩ := Option.ne_none_iff_exists'.1 hne
  obtain ⟨hfound, hreservation⟩ := reserved_some hrecord
  have hlt := h.lt hledger.numbered
  rw [← (hledger.records _ record hfound).reservation_eq, hreservation] at hlt
  exact lt_irrefl _ hlt

variable {address timingScope : ℕ} {scopeName : Volume.NameHash} {calls : List (Call Seconds)}
  {system : System Seconds}

lemma exclusive_of_run {ok : System Seconds → Call Seconds → Prop}
    (hrun : Run System.step ok (System.start address timingScope scopeName) calls system) :
    Exclusive system.accumulator := by
  refine hrun.invariant (P := fun system => Exclusive system.accumulator)
    (fun _ _ hrecord => (nomatch hrecord)) ?_
  rintro system call system' - hstep hexclusive
  obtain rfl := Option.some.inj hstep
  exact hexclusive.effect (effect_call system call)

lemma resetFlags_of_run
    (hrun : Run System.step Unshadowed (System.start address timingScope scopeName) calls system) :
    ResetFlags system := by
  induction hrun with
  | refl =>
    refine ⟨fun _ _ hrecord => (nomatch hrecord), fun _ _ hrecord => (nomatch hrecord), ?_⟩
    intro later scope frameIndex attribution earlier hlog
    cases later <;> cases hlog
  | snoc run admitted next ih =>
    obtain rfl := Option.some.inj next
    exact ih.effect (exclusive_of_run run) (ledger_of_run run).1 admitted (effect_call _ _)

/-- The state after any calls of a new accumulator, with its log.  A slot that is recording or
pending is not reserved; with fewer than `2 ^ 64` reservations a superseded scope changes nothing
and a sample is reported once, for a reservation that asked for it; reservations inside a render
pass have their resets when all calls are unshadowed, and from every state another call leads to a
run where one has not. -/
theorem querySlots_contract
    (hrun : FreeRun System.step (System.start address timingScope scopeName) calls system) :
    (∀ canReset frameIndex epoch attribution record,
      (system.accumulator.beginQuery canReset frameIndex epoch attribution).2.valid = true →
      system.accumulator.queries[(system.accumulator.beginQuery canReset frameIndex epoch
        attribution).2.index]? = some record →
      record.recording = false ∧ record.pending = false) ∧
    (begins system.log < 2 ^ 64 →
      (∀ scope, Superseded system.log scope →
        system.accumulator.recordQueryEnd scope = false ∧
        (∀ publishSample,
          system.accumulator.confirmQuery scope publishSample = (system.accumulator, false)) ∧
        system.accumulator.endQuery scope = (system.accumulator, false) ∧
        system.accumulator.discardQuery scope = system.accumulator) ∧
      (reportedReservations system.log).Nodup ∧
      ∀ reservation sample, .reported reservation sample ∈ system.log →
        Owned system.log reservation sample) ∧
    (Run System.step Unshadowed (System.start address timingScope scopeName) calls system →
      PassResets system.log) ∧
    ∀ call, ¬Unshadowed system call → ∃ more system',
      FreeRun System.step (system.call call) more system' ∧ ¬PassResets system'.log := by
  obtain ⟨hshaped, hledgerBelow⟩ := ledger_of_run hrun
  refine ⟨fun canReset frameIndex epoch attribution record hvalid hrecord => ?_, fun hbound => ?_,
    fun hunshadowed => (resetFlags_of_run hunshadowed).passes, fun call hcall => ?_⟩
  · rcases beginQuery_cases system.accumulator canReset frameIndex epoch attribution with
      hrefused | ⟨accumulator', scope, found, hbegun, hbegins⟩
    · rw [hrefused] at hvalid
      cases hvalid
    · rw [hbegun, hbegins.record_eq, Option.some.injEq] at hrecord
      have havailable := hbegins.available
      rwa [hrecord, QueryRecord.available, Bool.and_eq_true, Bool.not_eq_true',
        Bool.not_eq_true'] at havailable
  · have hledger := hledgerBelow hbound
    refine ⟨fun scope hsuperseded => ?_, hledger.once, hledger.owned⟩
    have hnone := hsuperseded.reserved hledger
    have hrecording : system.accumulator.recordingOf scope = none := by
      rw [recordingOf, hnone]
      rfl
    have hend : system.accumulator.recordQueryEnd scope = false := by
      rw [recordQueryEnd, hrecording]
      rfl
    refine ⟨hend, fun publishSample => ?_, ?_, ?_⟩
    · rw [confirmQuery, hrecording]
    · rw [endQuery, if_pos hend]
    · rw [discardQuery, hnone]
  · cases call with
    | beginQuery canReset frameIndex epoch attribution =>
      cases canReset with
      | false => exact absurd trivial hcall
      | true =>
        rw [Unshadowed] at hcall
        simp only [not_forall, exists_prop] at hcall
        obtain ⟨slot, record, hfound, hrecord, hrecorded⟩ := hcall
        exact pass_without_reset hshaped (exclusive_of_run hrun) hfound hrecord
          (Bool.not_eq_false _ ▸ hrecorded)
    | _ => exact absurd trivial hcall

/-- A slot that has been reset in the frame and is then reserved inside a render pass. -/
def resetCalls : List (Call ℤ) :=
  [.setEnabled true, .reserveQueries some 1, .recordFrameReset, .confirmFrameReset,
    .beginQuery false 0 0 7]

theorem querySlots_contract_resetCalls : ∃ system : System ℤ,
    FreeRun System.step (System.start 0 0 fun _ => 0) resetCalls system ∧
      begins system.log = 1 ∧ PassResets system.log := by
  have hrun : Run System.step Unshadowed (System.start 0 0 fun _ => 0) resetCalls _ :=
    Run.cons trivial rfl (Run.cons trivial rfl (Run.cons trivial rfl (Run.cons trivial rfl
      (Run.cons trivial rfl .refl))))
  have hfree : FreeRun System.step (System.start 0 0 fun _ => 0) resetCalls _ :=
    Run.cons trivial rfl (Run.cons trivial rfl (Run.cons trivial rfl (Run.cons trivial rfl
      (Run.cons trivial rfl .refl))))
  exact ⟨_, hfree, rfl, (querySlots_contract hfree).2.2.1 hrun⟩

/-- A reset is recorded, the slot is reserved outside a render pass and discarded, the reset is
confirmed, and the slot is reserved inside a render pass. -/
def shadowedCalls : List (Call ℤ) :=
  [.setEnabled true, .reserveQueries some 1, .recordFrameReset, .beginQuery true 0 0 0,
    .discardQuery ⟨some 0, some 0, 0, 1⟩, .confirmFrameReset, .beginQuery false 0 0 0]

theorem shadowedReset_reused : ∃ system : System ℤ,
    FreeRun System.step (System.start 0 0 fun _ => 0) shadowedCalls system ∧
      ¬PassResets system.log := by
  refine ⟨_, Run.cons trivial rfl (Run.cons trivial rfl (Run.cons trivial rfl (Run.cons trivial rfl
    (Run.cons trivial rfl (Run.cons trivial rfl (Run.cons trivial rfl .refl)))))),
    fun hpasses => ?_⟩
  obtain ⟨later, between, slots, earlier, hsince, -, -⟩ :=
    hpasses [] ⟨some 0, some 0, 0, 2⟩ 0 0
      [.frameResetConfirmed, .began ⟨some 0, some 0, 0, 1⟩ true 0 0, .frameReset [0]] rfl
  have honly : sinceBegan 0 ([.frameResetConfirmed, .began ⟨some 0, some 0, 0, 1⟩ true 0 0,
      .frameReset [0]] : List (Event ℤ)) = [.frameResetConfirmed] := rfl
  rw [honly] at hsince
  have hlength := congrArg List.length hsince
  simp only [List.length_append, List.length_cons, List.length_nil] at hlength
  omega

end Contract

end NwbLot.GpuTiming
