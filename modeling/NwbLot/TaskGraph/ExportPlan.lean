import NwbLot.TaskGraph.OwnershipProtocol

/-!
# The export plan in closed form

What export planning appends, resource by resource: the barriers of the terminal states of every
resource with an external final state, and their sources where the resource leaves for another
queue.
-/

namespace NwbLot.TaskGraph

/-! ## One terminal state -/

section Terminal

variable (resource : GpuTaskGraphResourceView)
  (terminal : TrackedCompiledResourceState × GpuTaskResourceRange)

/-- The export marker of a terminal state. -/
def terminalExport : PendingCompiledEpilogueBarrier where
  task := terminal.1.task
  barrier := { resource := terminal.1.resource, range := terminal.2,
               before := terminal.1.state, after := resource.externalFinalState,
               sourceQueue := terminal.1.queue, destinationQueue := terminal.1.queue,
               type := (stateExportBarrierType resource.type).getD .textureStateExport }

/-- The barriers of a terminal state: its export, and the release of a resource that leaves for
another queue. -/
def terminalBarriers : List PendingCompiledEpilogueBarrier :=
  terminalExport resource terminal ::
    (externalFinalRelease resource terminal.1 terminal.2).getD []

/-- The export source of a terminal range. -/
def terminalSource : GpuCompiledExternalResourceExportSource where
  producerTask := terminal.1.task
  sourceQueue := terminal.1.queue
  range := terminal.2

end Terminal

/-! ## One resource -/

section Resource

variable (tracked : List TrackedCompiledResourceState) (resource : GpuTaskGraphResourceView)

/-- The terminal states that are exported. -/
def exportedStates : List (TrackedCompiledResourceState × GpuTaskResourceRange) :=
  if resource.externalFinalState = ResourceStates.unknown then []
  else (terminalStates resource tracked).getD []

/-- The barriers behind the last uses of the resource. -/
def resourceBarriers : List PendingCompiledEpilogueBarrier :=
  (exportedStates tracked resource).flatMap (terminalBarriers resource)

/-- The sources of the resource's export. -/
def resourceSources : List GpuCompiledExternalResourceExportSource :=
  if resource.externalFinalReleaseDestinationQueue.valid then
    (exportedStates tracked resource).map terminalSource
  else []

/-- The resource is exported on a record of its own. -/
def isRecorded : Bool :=
  resource.externalFinalState != ResourceStates.unknown
    && resource.externalFinalReleaseDestinationQueue.valid

variable {terminal : TrackedCompiledResourceState × GpuTaskResourceRange}

variable {tracked resource} in
/-- An exported state is a tracked one. -/
lemma mem_of_exported (h : terminal ∈ exportedStates tracked resource) : terminal.1 ∈ tracked := by
  unfold exportedStates at h
  split at h
  · exact absurd h List.not_mem_nil
  cases hterminals : terminalStates resource tracked with
  | none =>
    rw [hterminals] at h
    exact absurd h List.not_mem_nil
  | some terminals =>
    rw [hterminals, Option.getD_some] at h
    unfold terminalStates at hterminals
    split at hterminals
    · simp only [Option.bind_eq_bind, Option.bind_eq_some_iff] at hterminals
      obtain ⟨fragments, hfragments, hmapped⟩ := hterminals
      obtain ⟨fragment, hfragment, hstate⟩ := OptionList.exists_of_mem_mapM hmapped h
      obtain ⟨state, hfragmentState, rfl⟩ := Option.map_eq_some_iff.1 hstate
      exact ((cutFrom_of_terminal hfragments fragment hfragment).state_tracked hfragmentState).1
    · next hwhole =>
      simp only [beq_iff_eq] at hwhole
      cases hterminals
      obtain ⟨-, -, hfind⟩ := mem_terminalWholeResourceStates hwhole h
      exact List.mem_reverse.1 (List.mem_of_find?_eq_some hfind)

/-- The record of an exported resource, over these sources. -/
structure ExportRecord (sources : List GpuCompiledExternalResourceExportSource)
    (record : GpuCompiledExternalResourceExport) : Prop where
  resource_eq : record.resource = resource.id
  destination_eq : record.destinationQueue = resource.externalFinalReleaseDestinationQueue
  finalState_eq : record.finalState = resource.externalFinalState
  inside : record.sourceOffset + record.sourceCount ≤ sources.length
  sources_eq : Spans.part sources record.sourceOffset record.sourceCount
    = resourceSources tracked resource
  single : ∀ terminal, exportedStates tracked resource = [terminal] →
    record.producerTask = terminal.1.task ∧ record.sourceQueue = terminal.1.queue

/-- What planning an exported resource has checked. -/
structure ExportChecked : Prop where
  typed : (stateExportBarrierType resource.type).isSome = true
  terminals : terminalStates resource tracked = some (exportedStates tracked resource)
  nonempty : exportedStates tracked resource ≠ []

variable {tracked resource} {plan : GpuCompiledGraph}

variable {exportType : GpuCompiledBarrierType}

lemma appendTerminalState_eq (htype : stateExportBarrierType resource.type = some exportType)
    {acc acc' : ExternalExportState}
    (h : appendTerminalState plan resource exportType acc terminal = some acc') :
    acc'.pendingEpilogueBarriers
        = acc.pendingEpilogueBarriers ++ terminalBarriers resource terminal ∧
      acc'.sources = acc.sources ++
        (if resource.externalFinalReleaseDestinationQueue.valid then [terminalSource terminal]
          else []) ∧
      acc'.hasTerminalDeclaredRange = true := by
  simp only [appendTerminalState, Option.bind_eq_bind, Option.bind_eq_some_iff,
    Option.some.injEq] at h
  obtain ⟨sourced, hsourced, released, hreleased, rfl⟩ := h
  refine ⟨?_, ?_, rfl⟩
  · rw [recordExportSource_pending hsourced, terminalBarriers, hreleased, terminalExport, htype]
    rfl
  · unfold recordExportSource at hsourced
    split at hsourced
    · next hvalid =>
      rw [if_pos hvalid]
      simp only [appendExportSource] at hsourced
      split_ifs at hsourced <;> cases hsourced <;> rfl
    · next hinvalid =>
      cases hsourced
      rw [if_neg hinvalid, List.append_nil]

/-- The source a first terminal state gives the record. -/
lemma appendTerminalState_first {acc : ExternalExportState}
    (hvalid : resource.externalFinalReleaseDestinationQueue.valid = true)
    (h : appendTerminalState plan resource exportType {} terminal = some acc) :
    acc.usesOnePacket = true ∧ acc.exportTask = terminal.1.task ∧
      acc.exportSourceQueue = terminal.1.queue := by
  simp only [appendTerminalState, Option.bind_eq_bind, Option.bind_eq_some_iff,
    Option.some.injEq] at h
  obtain ⟨sourced, hsourced, released, hreleased, rfl⟩ := h
  rw [recordExportSource, if_pos hvalid] at hsourced
  simp only [appendExportSource] at hsourced
  have hfirst : (!({} : ExternalExportState).exportTask.valid) = true := by decide
  rw [if_pos hfirst] at hsourced
  split_ifs at hsourced
  cases hsourced
  exact ⟨rfl, rfl, rfl⟩

/-- What the loop over the terminal states of a resource appends. -/
lemma foldlM_appendTerminalState (htype : stateExportBarrierType resource.type = some exportType)
    {terminals : List (TrackedCompiledResourceState × GpuTaskResourceRange)}
    {state : ExternalExportState}
    (h : terminals.foldlM (appendTerminalState plan resource exportType) {} = some state) :
    state.pendingEpilogueBarriers = terminals.flatMap (terminalBarriers resource) ∧
      state.sources = (if resource.externalFinalReleaseDestinationQueue.valid then
        terminals.map terminalSource else []) ∧
      (state.hasTerminalDeclaredRange = true → terminals ≠ []) := by
  rw [← List.nil_append terminals]
  refine OptionList.foldlM_processed
    (fun done (acc : ExternalExportState) =>
      acc.pendingEpilogueBarriers = done.flatMap (terminalBarriers resource) ∧
      acc.sources = (if resource.externalFinalReleaseDestinationQueue.valid then
        done.map terminalSource else []) ∧
      (acc.hasTerminalDeclaredRange = true → done ≠ [])) ?_ h
    ⟨rfl, by split <;> rfl, fun hnone => Bool.noConfusion hnone⟩
  rintro done acc terminal acc' hstep ⟨hpending, hsources, -⟩
  obtain ⟨hpending', hsources', -⟩ := appendTerminalState_eq htype hstep
  refine ⟨?_, ?_, fun _ => List.concat_ne_nil _ _⟩
  · rw [hpending', hpending, List.flatMap_append, List.flatMap_singleton]
  · rw [hsources', hsources]
    split
    · rw [List.map_append, List.map_singleton]
    · rfl

/-- What planning one resource appends. -/
structure ResourceAppended (tracked : List TrackedCompiledResourceState)
    (resource : GpuTaskGraphResourceView) (before after : ExternalExportPlan) : Prop where
  pending : after.pendingEpilogueBarriers
    = before.pendingEpilogueBarriers ++ resourceBarriers tracked resource
  sources : after.sources = before.sources ++ resourceSources tracked resource
  checked : resource.externalFinalState ≠ ResourceStates.unknown → ExportChecked tracked resource
  records : ∃ records, after.exports = before.exports ++ records ∧
    records.map (·.resource) = (if isRecorded resource then [resource.id] else []) ∧
    ∀ record ∈ records, ExportRecord tracked resource after.sources record

lemma planExternalResourceExport_appended {before after : ExternalExportPlan}
    (h : planExternalResourceExport plan tracked before resource = some after) :
    ResourceAppended tracked resource before after := by
  unfold planExternalResourceExport at h
  split at h
  · next hunknown =>
    simp only [beq_iff_eq] at hunknown
    cases h
    have hnone : exportedStates tracked resource = [] := if_pos hunknown
    refine ⟨?_, ?_, fun hknown => absurd hunknown hknown, [], ?_, ?_, ?_⟩
    · rw [resourceBarriers, hnone, List.flatMap_nil, List.append_nil]
    · rw [resourceSources, hnone, List.map_nil, ite_self, List.append_nil]
    · rw [List.append_nil]
    · simp [isRecorded, hunknown]
    · exact fun record hmem => absurd hmem List.not_mem_nil
  next hknown =>
  simp only [beq_iff_eq] at hknown
  simp only [Option.bind_eq_bind, Option.bind_eq_some_iff] at h
  obtain ⟨exportType, htype, terminals, hterminals, state, hstate, h⟩ := h
  have hexported : exportedStates tracked resource = terminals := by
    rw [exportedStates, if_neg hknown, hterminals]
    rfl
  obtain ⟨hpending, hsources, hnonempty⟩ := foldlM_appendTerminalState htype hstate
  rw [← hexported] at hpending hsources hnonempty
  split at h
  · cases h
  next hterminal =>
  simp only [Bool.not_eq_true', Bool.not_eq_false] at hterminal
  split at h
  · cases h
  cases h
  have hresources : state.sources = resourceSources tracked resource := hsources
  refine ⟨congrArg _ hpending, congrArg _ hresources,
    fun _ => ⟨?_, ?_, hnonempty hterminal⟩, _, rfl, ?_, ?_⟩
  · rw [htype]
    rfl
  · rw [hexported, hterminals]
  · split
    · next hvalid => simp [isRecorded, hknown, hvalid]
    · next hinvalid => simp [isRecorded, hinvalid]
  · intro record hmem
    split at hmem
    · next hvalid =>
      obtain rfl := List.mem_singleton.1 hmem
      refine ⟨rfl, rfl, rfl, ?_, ?_, fun terminal hsingle => ?_⟩
      · rw [List.length_append]
      · rw [hresources, ← List.append_nil (before.sources ++ _)]
        exact Spans.part_append_middle _ _ _
      · rw [hexported] at hsingle
        rw [hsingle, List.foldlM_cons] at hstate
        obtain ⟨acc, hfirst, hlast⟩ := Option.bind_eq_some_iff.1 hstate
        cases hlast
        obtain ⟨hone, htask, hqueue⟩ := appendTerminalState_first hvalid hfirst
        exact ⟨by rw [← htask]; exact if_pos hone, by rw [← hqueue]; exact if_pos hone⟩
    · exact absurd hmem List.not_mem_nil

end Resource

/-! ## All resources -/

section Graph

variable (graph : GpuTaskGraph) (tracked : List TrackedCompiledResourceState)

/-- The export plan of the resources at these places. -/
structure ExportsOf (indices : List ℕ) (exports : ExternalExportPlan) : Prop where
  pending : exports.pendingEpilogueBarriers
    = indices.flatMap fun index => resourceBarriers tracked (graph.resourceAt index)
  checked : ∀ index ∈ indices,
    (graph.resourceAt index).externalFinalState ≠ ResourceStates.unknown →
      ExportChecked tracked (graph.resourceAt index)
  recorded : exports.exports.map (·.resource)
    = (indices.filter fun index => isRecorded (graph.resourceAt index)).map
      fun index => (graph.resourceAt index).id
  records : ∀ record ∈ exports.exports, ∃ index ∈ indices,
    ExportRecord tracked (graph.resourceAt index) exports.sources record

variable {graph tracked}

lemma ExportRecord.append {resource : GpuTaskGraphResourceView}
    {sources more : List GpuCompiledExternalResourceExportSource}
    {record : GpuCompiledExternalResourceExport}
    (h : ExportRecord tracked resource sources record) :
    ExportRecord tracked resource (sources ++ more) record where
  resource_eq := h.resource_eq
  destination_eq := h.destination_eq
  finalState_eq := h.finalState_eq
  inside := by
    rw [List.length_append]
    exact h.inside.trans (Nat.le_add_right _ _)
  sources_eq := by rw [Spans.part_append_right h.inside, h.sources_eq]
  single := h.single

theorem exportsOf_planExternalResourceExports {plan : GpuCompiledGraph}
    {exports : ExternalExportPlan}
    (h : planExternalResourceExports graph plan tracked = some exports) :
    ExportsOf graph tracked (List.range graph.resourceCount) exports := by
  refine OptionList.foldlM_processed (ExportsOf graph tracked) ?_ h
    ⟨rfl, fun index hmem => absurd hmem List.not_mem_nil, rfl,
      fun record hmem => absurd hmem List.not_mem_nil⟩
  intro done before index after hstep hdone
  have happended := planExternalResourceExport_appended hstep
  obtain ⟨records, hexports, hresources, hrecords⟩ := happended.records
  refine ⟨?_, fun other hmem => ?_, ?_, fun record hmem => ?_⟩
  · rw [happended.pending, hdone.pending, List.flatMap_append, List.flatMap_singleton]
  · rcases List.mem_append.1 hmem with hold | hnew
    · exact hdone.checked other hold
    · obtain rfl := List.mem_singleton.1 hnew
      exact happended.checked
  · rw [hexports, List.map_append, hdone.recorded, hresources, List.filter_append, List.map_append]
    cases hrecorded : isRecorded (graph.resourceAt index) <;> simp [hrecorded]
  · rw [hexports] at hmem
    rcases List.mem_append.1 hmem with hold | hnew
    · obtain ⟨other, hother, hrecord⟩ := hdone.records record hold
      rw [happended.sources]
      exact ⟨other, List.mem_append_left _ hother, hrecord.append⟩
    · exact ⟨index, List.mem_append_right _ (List.mem_singleton.2 rfl), hrecords record hnew⟩

end Graph

end NwbLot.TaskGraph
