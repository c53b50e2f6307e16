import NwbLot.Library.Spans
import NwbLot.Vulkan.HeapSystem

/-!
# The table of heap uses

Every use of the heap that is not over yet has its entry in the table, and the entry says how far
the use has come.

`UseTable` is kept by every call of a command buffer: a use begins, is submitted under a token, is
discarded, or is over when its queue has passed the token.
-/

namespace NwbLot.Vulkan

open TaskGraph

variable {CommandBuffer : Type}

/-- The entry of a use that has come as far as its record says. -/
def HeapUse.Describes (heapUse : HeapUse CommandBuffer) (record : UseRecord CommandBuffer) : Prop :=
  match record.progress with
  | .recording =>
    heapUse.commandBuffer = some record.commandBuffer ∧ heapUse.submissionToken.valid = false
  | .submitted token => heapUse.submissionToken = token ∧ token.valid = true
  | .discarded => heapUse.commandBuffer = none ∧ heapUse.submissionToken.valid = false

/-- The table of heap uses against the record of all uses. -/
structure UseTable (heapUses : List (HeapUse CommandBuffer)) (referenced : CommandBuffer → Bool)
    (completed : GpuPhysicalQueueId → ℕ) (uses : List (UseRecord CommandBuffer)) : Prop where
  ids_nodup : (heapUses.map fun heapUse => heapUse.id).Nodup
  describes : ∀ heapUse ∈ heapUses, ∃ index record, heapUse.id = index + 1 ∧
    uses[index]? = some record ∧ heapUse.Describes record
  listed : ∀ index record, uses[index]? = some record → record.progress.Finished completed ∨
    ∃ heapUse ∈ heapUses, heapUse.id = index + 1
  referenced_of_recording : ∀ (index : ℕ) (record : UseRecord CommandBuffer),
    uses[index]? = some record → record.progress = .recording →
      referenced record.commandBuffer = true
  recording_unique : ∀ (index index' : ℕ) (record : UseRecord CommandBuffer),
    uses[index]? = some record →
    uses[index']? = some record → record.progress = .recording → index = index'

/-- No queue has gone back. -/
def CompletionsGrow (completed completed' : GpuPhysicalQueueId → ℕ) : Prop :=
  ∀ queue, completed queue ≤ completed' queue

lemma UseProgress.Finished.mono {completed completed' : GpuPhysicalQueueId → ℕ}
    (hmono : CompletionsGrow completed completed') :
    {progress : UseProgress} → progress.Finished completed → progress.Finished completed'
  | .submitted token, h => le_trans h (hmono (physicalQueue token))
  | .discarded, _ => trivial

namespace UseTable

variable {heapUses : List (HeapUse CommandBuffer)} {referenced : CommandBuffer → Bool}
  {completed : GpuPhysicalQueueId → ℕ} {uses : List (UseRecord CommandBuffer)}

/-- A table that follows a change of the records. -/
lemma map (h : UseTable heapUses referenced completed uses)
    (advanceUse : UseRecord CommandBuffer → UseRecord CommandBuffer)
    (advanceEntry : HeapUse CommandBuffer → HeapUse CommandBuffer)
    (referenced' : CommandBuffer → Bool)
    (hid : ∀ heapUse, (advanceEntry heapUse).id = heapUse.id)
    (hdescribes : ∀ heapUse record, heapUse.Describes record →
      (advanceEntry heapUse).Describes (advanceUse record))
    (hfinished : ∀ record, record.progress.Finished completed →
      (advanceUse record).progress.Finished completed)
    (hrecording : ∀ record, (advanceUse record).progress = .recording →
      advanceUse record = record)
    (hreferenced : ∀ record, (advanceUse record).progress = .recording →
      referenced record.commandBuffer = true → referenced' record.commandBuffer = true) :
    UseTable (heapUses.map advanceEntry) referenced' completed (uses.map advanceUse) where
  ids_nodup := by
    have hsame : (heapUses.map advanceEntry).map (fun heapUse => heapUse.id)
        = heapUses.map fun heapUse => heapUse.id := by
      rw [List.map_map]
      exact List.map_congr_left fun heapUse _ => hid heapUse
    rw [hsame]
    exact h.ids_nodup
  describes := by
    intro heapUse' hmem
    obtain ⟨heapUse, hmem', rfl⟩ := List.mem_map.1 hmem
    obtain ⟨index, record, hindex, hget, hrecord⟩ := h.describes heapUse hmem'
    refine ⟨index, advanceUse record, (hid heapUse).trans hindex, ?_, hdescribes _ _ hrecord⟩
    rw [List.getElem?_map, hget, Option.map_some]
  listed := by
    intro index record' hget'
    rw [List.getElem?_map, Option.map_eq_some_iff] at hget'
    obtain ⟨record, hget, rfl⟩ := hget'
    rcases h.listed index record hget with hover | ⟨heapUse, hmem, hindex⟩
    · exact Or.inl (hfinished record hover)
    · exact Or.inr ⟨advanceEntry heapUse, List.mem_map_of_mem hmem, (hid heapUse).trans hindex⟩
  referenced_of_recording := by
    intro index record' hget' hprogress
    rw [List.getElem?_map, Option.map_eq_some_iff] at hget'
    obtain ⟨record, hget, rfl⟩ := hget'
    have hsame := hrecording record hprogress
    have hrecord : record.progress = .recording := by
      rw [← hsame]
      exact hprogress
    rw [hsame]
    exact hreferenced record hprogress (h.referenced_of_recording index record hget hrecord)
  recording_unique := by
    intro index index' record' hget hget' hprogress
    rw [List.getElem?_map, Option.map_eq_some_iff] at hget hget'
    obtain ⟨record, hget, rfl⟩ := hget
    obtain ⟨other, hget', hother⟩ := hget'
    have hsame := hrecording record hprogress
    have hsame' := hrecording other (hother ▸ hprogress)
    rw [hsame', hsame] at hother
    subst hother
    rw [hsame] at hprogress
    exact h.recording_unique index index' _ hget hget' hprogress

/-- A new use of a command buffer that does not reference the heap. -/
lemma track [DecidableEq CommandBuffer] (h : UseTable heapUses referenced completed uses)
    {commandBuffer : CommandBuffer} (hnew : referenced commandBuffer = false) :
    UseTable (heapUses ++ [{ commandBuffer := some commandBuffer, id := uses.length + 1 }])
      (Function.update referenced commandBuffer true) completed
      (uses ++ [⟨commandBuffer, .recording⟩]) where
  ids_nodup := by
    rw [List.map_append, List.nodup_append]
    refine ⟨h.ids_nodup, List.nodup_singleton _, ?_⟩
    intro id hid id' hid'
    obtain ⟨heapUse, hmem, rfl⟩ := List.mem_map.1 hid
    obtain ⟨index, record, hindex, hget, -⟩ := h.describes heapUse hmem
    have hlt := (List.getElem?_eq_some_iff.1 hget).1
    rw [List.map_singleton, List.mem_singleton] at hid'
    show heapUse.id ≠ id'
    rw [hindex, hid']
    show index + 1 ≠ uses.length + 1
    omega
  describes := by
    intro heapUse hmem
    rcases List.mem_append.1 hmem with hold | hnew'
    · obtain ⟨index, record, hindex, hget, hrecord⟩ := h.describes heapUse hold
      exact ⟨index, record, hindex, by
        rw [List.getElem?_append_left (List.getElem?_eq_some_iff.1 hget).1]; exact hget, hrecord⟩
    · rw [List.mem_singleton] at hnew'
      subst hnew'
      exact ⟨uses.length, ⟨commandBuffer, .recording⟩, rfl, List.getElem?_concat_length, rfl, rfl⟩
  listed := by
    intro index record hget
    rcases Spans.getElem?_snoc_cases hget with ⟨-, hold⟩ | ⟨rfl, rfl⟩
    · exact (h.listed index record hold).imp_right fun ⟨heapUse, hmem, hindex⟩ =>
        ⟨heapUse, List.mem_append_left _ hmem, hindex⟩
    · exact Or.inr ⟨_, List.mem_append_right _ (List.mem_singleton_self _), rfl⟩
  referenced_of_recording := by
    intro index record hget hprogress
    by_cases hsame : record.commandBuffer = commandBuffer
    · rw [hsame, Function.update_self]
    · rw [Function.update_of_ne hsame]
      rcases Spans.getElem?_snoc_cases hget with ⟨-, hold⟩ | ⟨-, rfl⟩
      · exact h.referenced_of_recording index record hold hprogress
      · exact absurd rfl hsame
  recording_unique := by
    have hfresh : ∀ index : ℕ, uses[index]? ≠ some ⟨commandBuffer, .recording⟩ := fun index hget => by
      have htrue := h.referenced_of_recording index _ hget rfl
      exact Bool.false_ne_true (hnew.symm.trans htrue)
    intro index index' record hget hget' hprogress
    rcases Spans.getElem?_snoc_cases hget with ⟨-, hold⟩ | ⟨hlast, rfl⟩
    · rcases Spans.getElem?_snoc_cases hget' with ⟨-, hold'⟩ | ⟨-, rfl⟩
      · exact h.recording_unique index index' record hold hold' hprogress
      · exact absurd hold (hfresh index)
    · rcases Spans.getElem?_snoc_cases hget' with ⟨-, hold'⟩ | ⟨hlast', -⟩
      · exact absurd hold' (hfresh index')
      · rw [hlast, hlast']

/-- Entries that are over may go. -/
lemma filter (h : UseTable heapUses referenced completed uses) {kept : HeapUse CommandBuffer → Bool}
    (hover : ∀ heapUse ∈ heapUses, kept heapUse = false → ∀ record, heapUse.Describes record →
      record.progress.Finished completed) :
    UseTable (heapUses.filter kept) referenced completed uses where
  ids_nodup := h.ids_nodup.sublist (List.filter_sublist.map _)
  describes heapUse hmem := h.describes heapUse (List.mem_filter.1 hmem).1
  listed := by
    intro index record hget
    rcases h.listed index record hget with hdone | ⟨heapUse, hmem, hindex⟩
    · exact Or.inl hdone
    · cases hkept : kept heapUse with
      | true => exact Or.inr ⟨heapUse, List.mem_filter.2 ⟨hmem, hkept⟩, hindex⟩
      | false =>
        obtain ⟨index', record', hindex', hget', hrecord⟩ := h.describes heapUse hmem
        obtain rfl : index' = index := Nat.succ.inj (hindex'.symm.trans hindex)
        obtain rfl : record' = record := Option.some.inj (hget'.symm.trans hget)
        exact Or.inl (hover heapUse hmem hkept record' hrecord)
  referenced_of_recording := h.referenced_of_recording
  recording_unique := h.recording_unique

lemma mono {completed' : GpuPhysicalQueueId → ℕ} (h : UseTable heapUses referenced completed uses)
    (hmono : CompletionsGrow completed completed') : UseTable heapUses referenced completed' uses where
  ids_nodup := h.ids_nodup
  describes := h.describes
  listed index record hget := (h.listed index record hget).imp_left fun hdone => hdone.mono hmono
  referenced_of_recording := h.referenced_of_recording
  recording_unique := h.recording_unique

end UseTable

/-! ## The calls of a command buffer -/

section Calls

variable [DecidableEq CommandBuffer]

/-- The entry that a submission of the command buffer marks. -/
def HeapUse.Awaits (heapUse : HeapUse CommandBuffer) (commandBuffer : CommandBuffer) : Prop :=
  ¬(heapUse.commandBuffer ≠ some commandBuffer ∨ heapUse.submissionToken.valid = true)

instance (heapUse : HeapUse CommandBuffer) (commandBuffer : CommandBuffer) :
    Decidable (heapUse.Awaits commandBuffer) := inferInstanceAs (Decidable (¬_))

/-- An entry as a submission leaves it. -/
def HeapUse.markedBy (commandBuffer : CommandBuffer) (token : QueueSubmissionToken)
    (heapUse : HeapUse CommandBuffer) : HeapUse CommandBuffer :=
  if heapUse.Awaits commandBuffer then { heapUse with submissionToken := token } else heapUse

/-- An entry as its command buffer leaves it when it lets go of the heap. -/
def HeapUse.releasedBy (commandBuffer : CommandBuffer) (heapUse : HeapUse CommandBuffer) :
    HeapUse CommandBuffer :=
  if heapUse.commandBuffer = some commandBuffer then { heapUse with commandBuffer := none }
  else heapUse

/-- A record as progress of the command buffer leaves it. -/
def UseRecord.advancedBy (commandBuffer : CommandBuffer) (progress : UseProgress)
    (use : UseRecord CommandBuffer) : UseRecord CommandBuffer :=
  if use.commandBuffer = commandBuffer ∧ use.progress = .recording then
    { use with progress := progress }
  else use

omit [DecidableEq CommandBuffer] in
lemma HeapUse.Describes.recording_of_awaits {heapUse : HeapUse CommandBuffer}
    {record : UseRecord CommandBuffer} {commandBuffer : CommandBuffer}
    (h : heapUse.Describes record) (hawaits : heapUse.Awaits commandBuffer) :
    record = ⟨commandBuffer, .recording⟩ := by
  obtain ⟨hcommandBuffer, hinvalid⟩ := not_or.1 hawaits
  have hsome := not_not.1 hcommandBuffer
  obtain ⟨owner, progress⟩ := record
  cases progress with
  | recording =>
    obtain rfl : owner = commandBuffer := Option.some.inj (h.1.symm.trans hsome)
    rfl
  | submitted token => exact absurd (h.1 ▸ h.2) hinvalid
  | discarded =>
    rw [h.1] at hsome
    cases hsome

omit [DecidableEq CommandBuffer] in
lemma HeapUse.Describes.awaits {heapUse : HeapUse CommandBuffer} {commandBuffer : CommandBuffer}
    (h : heapUse.Describes ⟨commandBuffer, .recording⟩) : heapUse.Awaits commandBuffer := by
  rintro (hother | hvalid)
  · exact hother h.1
  · exact Bool.false_ne_true (h.2.symm.trans hvalid)

/-- Where no two entries wait for the submission, marking the first is marking all. -/
lemma markSubmitted_eq_map {heapUses : List (HeapUse CommandBuffer)} {commandBuffer : CommandBuffer}
    {token : QueueSubmissionToken}
    (hpairwise : heapUses.Pairwise fun first second =>
      first.Awaits commandBuffer → ¬second.Awaits commandBuffer) :
    GpuDescriptorHeap.markSubmitted commandBuffer token heapUses =
      heapUses.map (HeapUse.markedBy commandBuffer token) := by
  induction heapUses with
  | nil => rfl
  | cons heapUse heapUses ih =>
    rw [List.pairwise_cons] at hpairwise
    rw [GpuDescriptorHeap.markSubmitted, List.map_cons]
    by_cases hawaits : heapUse.Awaits commandBuffer
    · have hrest : heapUses.map (HeapUse.markedBy commandBuffer token) = heapUses := by
        refine (List.map_congr_left fun other hmem => ?_).trans (List.map_id heapUses)
        exact if_neg (hpairwise.1 other hmem hawaits)
      rw [if_neg hawaits, hrest, HeapUse.markedBy, if_pos hawaits]
    · rw [if_pos (not_not.1 hawaits), ih hpairwise.2, HeapUse.markedBy, if_neg hawaits]

namespace UseTable

variable {heapUses : List (HeapUse CommandBuffer)} {referenced : CommandBuffer → Bool}
  {completed : GpuPhysicalQueueId → ℕ} {uses : List (UseRecord CommandBuffer)}

omit [DecidableEq CommandBuffer] in
/-- A command buffer has at most one use that waits for its submission. -/
lemma pairwise_awaits (h : UseTable heapUses referenced completed uses)
    (commandBuffer : CommandBuffer) : heapUses.Pairwise fun first second =>
      first.Awaits commandBuffer → ¬second.Awaits commandBuffer := by
  have hids : heapUses.Pairwise fun first second => first.id ≠ second.id :=
    List.pairwise_map.1 h.ids_nodup
  refine hids.imp_of_mem fun hfirst hsecond hne hawaits hawaits' => ?_
  obtain ⟨index, record, hindex, hget, hrecord⟩ := h.describes _ hfirst
  obtain ⟨index', record', hindex', hget', hrecord'⟩ := h.describes _ hsecond
  obtain rfl := hrecord.recording_of_awaits hawaits
  obtain rfl := hrecord'.recording_of_awaits hawaits'
  have hsame := h.recording_unique index index' _ hget hget' rfl
  rw [hindex, hindex', hsame] at hne
  exact hne rfl

/-- A table that follows the progress of one command buffer's recording. -/
lemma advance (h : UseTable heapUses referenced completed uses) {commandBuffer : CommandBuffer}
    {progress : UseProgress} {advanceEntry : HeapUse CommandBuffer → HeapUse CommandBuffer}
    {referenced' : CommandBuffer → Bool}
    (hreferenced : ∀ other, other ≠ commandBuffer → referenced other = true →
      referenced' other = true)
    (hid : ∀ heapUse, (advanceEntry heapUse).id = heapUse.id)
    (hdescribes : ∀ heapUse record, heapUse.Describes record →
      (advanceEntry heapUse).Describes (record.advancedBy commandBuffer progress))
    (hprogress : progress ≠ .recording) :
    UseTable (heapUses.map advanceEntry) referenced' completed
      (HeapSystem.setProgress commandBuffer progress uses) := by
  refine h.map (UseRecord.advancedBy commandBuffer progress) advanceEntry referenced' hid hdescribes
    (fun record hdone => ?_) (fun record hrecording => ?_) fun record hrecording htrue => ?_
  · rw [UseRecord.advancedBy, if_neg]
    · exact hdone
    · rintro ⟨-, hrecording⟩
      rw [hrecording] at hdone
      exact hdone
  · unfold UseRecord.advancedBy at hrecording ⊢
    split at hrecording
    · exact absurd hrecording hprogress
    · next hother => rw [if_neg hother]
  · unfold UseRecord.advancedBy at hrecording
    split at hrecording
    · exact absurd hrecording hprogress
    · next hother => exact hreferenced _ (fun heq => hother ⟨heq, hrecording⟩) htrue

lemma submit (h : UseTable heapUses referenced completed uses) {commandBuffer : CommandBuffer}
    {token : QueueSubmissionToken} (hvalid : token.valid = true) :
    UseTable (GpuDescriptorHeap.markSubmitted commandBuffer token heapUses) referenced completed
      (HeapSystem.setProgress commandBuffer (.submitted token) uses) := by
  rw [markSubmitted_eq_map (h.pairwise_awaits commandBuffer)]
  refine h.advance (fun other _ htrue => htrue) (fun heapUse => ?_) ?_ UseProgress.noConfusion
  · unfold HeapUse.markedBy
    split <;> rfl
  · intro heapUse record hrecord
    by_cases hawaits : heapUse.Awaits commandBuffer
    · obtain rfl := hrecord.recording_of_awaits hawaits
      rw [HeapUse.markedBy, if_pos hawaits, UseRecord.advancedBy, if_pos ⟨rfl, rfl⟩]
      exact ⟨rfl, hvalid⟩
    · have hother : ¬(record.commandBuffer = commandBuffer ∧ record.progress = .recording) := by
        rintro ⟨rfl, hprogress⟩
        obtain ⟨owner, progress⟩ := record
        obtain rfl : progress = .recording := hprogress
        exact hawaits hrecord.awaits
      rw [HeapUse.markedBy, if_neg hawaits, UseRecord.advancedBy, if_neg hother]
      exact hrecord

/-- A command buffer that lets go of the heap: what it recorded is discarded, what it submitted
stays listed. -/
lemma discard (h : UseTable heapUses referenced completed uses) (commandBuffer : CommandBuffer) :
    UseTable (heapUses.map (HeapUse.releasedBy commandBuffer))
      (Function.update referenced commandBuffer false) completed
      (HeapSystem.setProgress commandBuffer .discarded uses) := by
  refine h.advance (fun other hne htrue => ?_) (fun heapUse => ?_) ?_ UseProgress.noConfusion
  · rw [Function.update_of_ne hne]
    exact htrue
  · unfold HeapUse.releasedBy
    split <;> rfl
  · intro heapUse record hrecord
    obtain ⟨owner, progress⟩ := record
    by_cases howner : heapUse.commandBuffer = some commandBuffer
    · rw [HeapUse.releasedBy, if_pos howner]
      cases progress with
      | recording =>
        obtain rfl : owner = commandBuffer := Option.some.inj (hrecord.1.symm.trans howner)
        rw [UseRecord.advancedBy, if_pos ⟨rfl, rfl⟩]
        exact ⟨rfl, hrecord.2⟩
      | submitted token =>
        rw [UseRecord.advancedBy, if_neg fun hboth => UseProgress.noConfusion hboth.2]
        exact hrecord
      | discarded =>
        rw [hrecord.1] at howner
        cases howner
    · rw [HeapUse.releasedBy, if_neg howner, UseRecord.advancedBy, if_neg]
      · exact hrecord
      · rintro ⟨rfl, rfl⟩
        exact howner hrecord.1

end UseTable
end Calls
end NwbLot.Vulkan
