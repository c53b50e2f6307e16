import NwbLot.PacketRuntime.Submission

/-!
# Waiting for initial owners

A submitted packet waits, for every handoff from an external owner, for a token of exactly the queue
that releases, no older than the minimum declared for that owner: the compiler lists the owner's
completion among the packet's waits, submission finds the same owner again and checks the token
bound to that completion, and the device keeps the queue and a value as large when it merges waits.
-/

namespace NwbLot.PacketRuntime

open TaskGraph Vulkan

/-! ## Declared minimums -/

/-- The minimum tokens declared for the owners a handoff barrier may come from. -/
def declaredMinimumTokens (resource : GpuTaskGraphResourceView) (barrier : GpuCompiledBarrier) :
    List QueueSubmissionToken :=
  if resource.initialOwnerHandoffSources.isEmpty then
    if resource.initialOwnerQueue == barrier.sourceQueue then
      [resource.initialOwnerMinimumCompletionToken]
    else []
  else (resource.initialOwnerHandoffSources.filter (·.coversBarrier barrier)).map
    (·.minimumCompletionToken)

/-- A token of the barrier's source queue that is no older than the minimum declared for it. -/
structure ReachesOwner (resource : GpuTaskGraphResourceView) (barrier : GpuCompiledBarrier)
    (token : QueueSubmissionToken) : Prop where
  queue : token.matchesPhysicalQueue barrier.sourceQueue.index
    barrier.sourceQueue.deviceGeneration = true
  minimum : ∃ minimum, declaredMinimumTokens resource barrier = [minimum] ∧
    minimum.value ≤ token.value

section Validate

variable {graph : GpuTaskGraph} {plan : PublishedPlan} {completion : GpuExternalCompletionId}
  {token : QueueSubmissionToken} {barrier : GpuCompiledBarrier}

lemma textureRangeContains_eq (outer inner : GpuTaskResourceRange) :
    textureRangeContains outer.textureSubresources inner.textureSubresources
      = rangeContains .texture outer inner := by
  simp [textureRangeContains, rangeContains]

/-- Submission finds the only listed source that covers the barrier. -/
lemma findInitialOwnerHandoffSource_eq_some {resource : GpuTaskGraphResourceView}
    {source : GpuTaskGraphInitialOwnerHandoffSourceView}
    (h : GpuTaskGraphSubmitter.findInitialOwnerHandoffSource resource barrier = some source) :
    resource.initialOwnerHandoffSources.filter (·.coversBarrier barrier) = [source] := by
  simp only [GpuTaskGraphSubmitter.findInitialOwnerHandoffSource] at h
  split at h
  · cases h
  · simp only [textureRangeContains_eq] at h
    split at h
    · next found hfilter =>
        obtain rfl := Option.some.inj h
        exact hfilter
    · cases h

/-- A token accepted for the completion of a barrier's owner reaches that owner. -/
lemma reachesOwner_of_accepted (hhandoff : barrier.isInitialOwnerHandoff = true)
    (howner : DeclaredOwner (graph.resourceAt barrier.resource.index) barrier completion)
    (haccepted : GpuTaskGraphSubmitter.acceptsHandoffBarrier graph plan completion token barrier
      = true) :
    ReachesOwner (graph.resourceAt barrier.resource.index) barrier token := by
  simp only [GpuTaskGraphSubmitter.acceptsHandoffBarrier, hhandoff, Bool.not_true,
    Bool.false_eq_true, if_false] at haccepted
  split at haccepted
  · cases haccepted
  split at haccepted
  · next found hfound =>
      have hfilter := findInitialOwnerHandoffSource_eq_some hfound
      have hmem := List.mem_filter.1 (hfilter ▸ List.mem_singleton_self found)
      cases howner with
      | own hunlisted =>
        rw [hunlisted] at hmem
        cases hmem.1
      | listed source hlisted hcompletion honly =>
        obtain rfl := honly found hmem.1 hmem.2
        simp only [hcompletion, bne_self_eq_false, Bool.false_or,
          GpuTaskGraphSubmitter.acceptsListedSource, Option.any_eq_true, Bool.and_eq_true,
          decide_eq_true_eq, GpuTaskGraphSubmitter.fromSourceQueue] at haccepted
        obtain ⟨sourceQueue, -, hchecks⟩ := haccepted
        refine ⟨hchecks.2.2, found.minimumCompletionToken, ?_, hchecks.1.1.2⟩
        have hsome : (graph.resourceAt
            barrier.resource.index).initialOwnerHandoffSources.isEmpty = false := by
          rw [List.isEmpty_eq_false_iff_exists_mem]
          exact ⟨found, hlisted⟩
        rw [declaredMinimumTokens, hsome, hfilter]
        exact List.map_singleton
  · rw [Bool.and_eq_true] at haccepted
    cases howner with
    | listed source hlisted =>
      rw [List.isEmpty_iff.1 haccepted.1] at hlisted
      cases hlisted
    | own hunlisted hqueue hcompletion =>
      have hchecks := haccepted.2
      simp only [hcompletion, bne_self_eq_false, Bool.false_or,
        GpuTaskGraphSubmitter.acceptsInitialOwner, Option.any_eq_true, Bool.and_eq_true,
        decide_eq_true_eq, GpuTaskGraphSubmitter.fromSourceQueue] at hchecks
      obtain ⟨sourceQueue, -, hchecks⟩ := hchecks
      refine ⟨hchecks.2.2, _, ?_, hchecks.1.2⟩
      simp [declaredMinimumTokens, hunlisted, hqueue]

end Validate

/-! ## The tokens of a packet -/

section Tokens

variable {graph : GpuTaskGraph} {plan : PublishedPlan}
  {transaction : GpuGraphSubmissionTransaction} {packetID : GpuSubmissionPacketId}
  {bindings : List GpuTaskGraphExternalCompletionToken} {tokens : List QueueSubmissionToken}

/-- The token of a listed completion is a bound one, and the owner checks accept it. -/
lemma externalToken_eq_some {completion : GpuExternalCompletionId} {token : QueueSubmissionToken}
    (h : GpuTaskGraphSubmitter.externalToken graph plan packetID bindings completion
      = some token) :
    (∃ binding ∈ bindings, binding.completion = completion ∧ binding.token = token) ∧
      GpuTaskGraphSubmitter.validateInitialOwnershipCompletion graph plan completion token packetID
        = true := by
  simp only [GpuTaskGraphSubmitter.externalToken, Option.bind_eq_bind,
    Option.bind_eq_some_iff] at h
  obtain ⟨binding, hfind, h⟩ := h
  split at h
  · next hchecks =>
      obtain rfl := Option.some.inj h
      simp only [Bool.and_eq_true] at hchecks
      have hcompletion := List.find?_some hfind
      exact ⟨⟨binding, List.mem_of_find?_eq_some hfind, by simpa using hcompletion, rfl⟩,
        hchecks.1.2⟩
  · cases h

/-- Every listed completion has its token among the waits. -/
lemma mem_waitTokens_of_external
    (h : GpuTaskGraphSubmitter.waitTokens graph plan transaction packetID bindings = some tokens)
    {completion : GpuExternalCompletionId}
    (hlisted : completion ∈ plan.compiled.packetExternalDependenciesOf (plan.packet packetID)) :
    ∃ token ∈ tokens, GpuTaskGraphSubmitter.externalToken graph plan packetID bindings completion
      = some token := by
  simp only [GpuTaskGraphSubmitter.waitTokens, Option.bind_eq_bind, Option.bind_eq_some_iff,
    Option.some.injEq] at h
  obtain ⟨dependencies, -, external, hexternal, frontier, -, rfl⟩ := h
  have hmap := OptionList.mapM_eq_some_iff.1 hexternal
  have hmem := List.mem_map_of_mem (f :=
    GpuTaskGraphSubmitter.externalToken graph plan packetID bindings) hlisted
  rw [hmap] at hmem
  obtain ⟨token, htoken, heq⟩ := List.mem_map.1 hmem
  exact ⟨token, by simp [htoken], heq.symm⟩

end Tokens

/-! ## Submitted packets -/

section Submit

variable {s s' : SubmissionSystem} {graph : GpuTaskGraph} {plan : PublishedPlan}
  {call : SubmitPacketCall} {submitted : SubmittedPacket} {answer : Bool}

/-- What a native submission of `submitPacket` went through. -/
structure SubmittedBy (s : SubmissionSystem) (graph : GpuTaskGraph) (plan : PublishedPlan)
    (call : SubmitPacketCall) (submitted : SubmittedPacket) : Prop where
  packet : plan.validPacket call.packetID = true
  tokens : GpuTaskGraphSubmitter.waitTokens graph plan s.transaction call.packetID
    call.externalCompletionTokens = some submitted.waitTokens
  executed : ∃ (recordedPacket : GpuRecordedPacket) (device : Device),
    s.device.executeCommandLists recordedPacket.commandLists (plan.packet call.packetID).queue
      submitted.waitTokens (call.preSubmitHook.bind (·.invoke)) call.nativeAccepted
    = (device, some (submitted.token, submitted.submission))

lemma submittedBy_of_submitReserved {recordedPacket : GpuRecordedPacket}
    {waitTokens : List QueueSubmissionToken}
    (h : s.submitReserved plan call recordedPacket waitTokens = (s', some submitted, answer)) :
    submitted.waitTokens = waitTokens ∧ ∃ device,
      s.device.executeCommandLists recordedPacket.commandLists (plan.packet call.packetID).queue
        waitTokens (call.preSubmitHook.bind (·.invoke)) call.nativeAccepted
      = (device, some (submitted.token, submitted.submission)) := by
  have hexecute : ∀ {device token submission},
      s.executeSubmission plan call recordedPacket waitTokens = (device, some (token, submission)) →
      s.device.executeCommandLists recordedPacket.commandLists (plan.packet call.packetID).queue
        waitTokens (call.preSubmitHook.bind (·.invoke)) call.nativeAccepted
      = (device, some (token, submission)) := by
    intro device token submission hrun
    rw [SubmissionSystem.executeSubmission] at hrun
    split at hrun
    · cases hrun
    · exact hrun
  simp only [SubmissionSystem.submitReserved] at h
  split at h
  · cases h
  split at h
  · cases h
  next device token submission hrun =>
  split at h
  · simp only [Prod.mk.injEq, Option.some.injEq] at h
    obtain ⟨-, rfl, -⟩ := h
    exact ⟨rfl, device, hexecute hrun⟩
  · simp only [Prod.mk.injEq, Option.some.injEq] at h
    obtain ⟨-, rfl, -⟩ := h
    exact ⟨rfl, device, hexecute hrun⟩

lemma submittedBy_of_submitPacket
    (h : s.submitPacket graph plan call = (s', some submitted, answer)) :
    SubmittedBy s graph plan call submitted := by
  simp only [SubmissionSystem.submitPacket] at h
  split at h
  · cases h
  next harguments =>
  split at h
  · cases h
  next recordedPacket hrecorded =>
  split at h
  · cases h
  next waitTokens htokens =>
  obtain ⟨heq, device, hexecuted⟩ := submittedBy_of_submitReserved h
  simp only [SubmissionSystem.acceptsArguments, Bool.not_eq_true', Bool.not_eq_false,
    Bool.and_eq_true] at harguments
  exact ⟨harguments.1.1.1.2, heq ▸ htokens, recordedPacket, device, heq ▸ hexecuted⟩

end Submit

/-! ## The law -/

section Law

variable {assignQueues : QueueAssigner} {options : GpuTaskGraphCompileOptions}
  {planGeneration : CompiledPlanGeneration} {graph : GpuTaskGraph}
  {topology : GpuTaskGraphQueueTopology} {out : GpuTaskGraphCompilation} {plan : PublishedPlan}

lemma packet_mem_of_valid {packetID : GpuSubmissionPacketId}
    (h : plan.validPacket packetID = true) : plan.packet packetID ∈ plan.compiled.packets := by
  simp only [PublishedPlan.validPacket, Bool.and_eq_true, decide_eq_true_eq] at h
  rw [PublishedPlan.packet, List.getElem?_eq_getElem h.2]
  exact List.getElem_mem h.2

/-- Whenever a packet's waits resolve, a token bound by the caller reaches the owner of each handoff
to one of its tasks. -/
lemma reachesOwner_of_waitTokens
    (hcompile : compile assignQueues options planGeneration graph topology = some out)
    (hcreated : TexturesCreated graph) (hplan : plan.compiled = out.compiledGraph)
    {transaction : GpuGraphSubmissionTransaction} {packetID : GpuSubmissionPacketId}
    {bindings : List GpuTaskGraphExternalCompletionToken} {tokens : List QueueSubmissionToken}
    (hpacket : plan.validPacket packetID = true)
    (htokens : GpuTaskGraphSubmitter.waitTokens graph plan transaction packetID bindings
      = some tokens)
    {id : GpuTaskId} (hid : id ∈ plan.packetTasks packetID) :
    ∃ task, plan.compiled.findCompiledTask id = some task ∧
      ∀ barrier ∈ plan.compiled.prologueBarriersOf task, barrier.isInitialOwnerHandoff = true →
        ∃ token ∈ tokens, (∃ binding ∈ bindings, binding.token = token) ∧
          ReachesOwner (graph.resourceAt barrier.resource.index) barrier token := by
  have hmem := packet_mem_of_valid hpacket
  have hlisted : id ∈ plan.compiled.packetTasksOf (plan.packet packetID) := hid
  rw [hplan] at hmem hlisted
  obtain ⟨task, htask, howners⟩ := declaredOwner_of_compile hcompile hcreated hmem hlisted
  rw [← hplan] at htask howners
  refine ⟨task, htask, fun barrier hbarrier hhandoff => ?_⟩
  obtain ⟨completion, hlisted, howner⟩ := howners barrier hbarrier hhandoff
  obtain ⟨token, hmem, htoken⟩ := mem_waitTokens_of_external htokens hlisted
  obtain ⟨⟨binding, hbinding, -, hbound⟩, hvalidated⟩ := externalToken_eq_some htoken
  refine ⟨token, hmem, ⟨binding, hbinding, hbound⟩, ?_⟩
  rw [GpuTaskGraphSubmitter.validateInitialOwnershipCompletion, List.all_eq_true] at hvalidated
  have hchecked := hvalidated id hid
  rw [htask, Option.any_some, Bool.and_eq_true, List.all_eq_true] at hchecked
  exact reachesOwner_of_accepted hhandoff howner (hchecked.2 barrier hbarrier)

/-- A packet that `submitPacket` submits waits, for every handoff from an initial owner to one of its
tasks, for a token of exactly the releasing queue that is no older than the minimum declared for it,
and so does the native submission; where the caller binds no such token, nothing happens. -/
theorem submitPacket_awaits_initialOwners
    (hcompile : compile assignQueues options planGeneration graph topology = some out)
    (hcreated : TexturesCreated graph) (plan : PublishedPlan)
    (hplan : plan.compiled = out.compiledGraph) (s : SubmissionSystem) (call : SubmitPacketCall) :
    (∀ s' submitted answer, s.submitPacket graph plan call = (s', some submitted, answer) →
      ∀ id ∈ plan.packetTasks call.packetID, ∃ task,
        plan.compiled.findCompiledTask id = some task ∧
        ∀ barrier ∈ plan.compiled.prologueBarriersOf task, barrier.isInitialOwnerHandoff = true →
          ∃ token ∈ submitted.waitTokens,
            ReachesOwner (graph.resourceAt barrier.resource.index) barrier token ∧
            s.device.Covers (plan.packet call.packetID).queue submitted.submission.waits token) ∧
    (∀ id ∈ plan.packetTasks call.packetID, ∀ task,
      plan.compiled.findCompiledTask id = some task →
      ∀ barrier ∈ plan.compiled.prologueBarriersOf task, barrier.isInitialOwnerHandoff = true →
        (∀ binding ∈ call.externalCompletionTokens,
          ¬ ReachesOwner (graph.resourceAt barrier.resource.index) barrier binding.token) →
        s.submitPacket graph plan call = (s, none, false)) := by
  constructor
  · intro s' submitted answer hsubmit id hid
    have hby := submittedBy_of_submitPacket hsubmit
    obtain ⟨recordedPacket, device, hexecuted⟩ := hby.executed
    obtain ⟨task, htask, hreaches⟩ :=
      reachesOwner_of_waitTokens hcompile hcreated hplan hby.packet hby.tokens hid
    refine ⟨task, htask, fun barrier hbarrier hhandoff => ?_⟩
    obtain ⟨token, hmem, -, hreach⟩ := hreaches barrier hbarrier hhandoff
    exact ⟨token, hmem, hreach, Device.executeCommandLists_covers hexecuted token hmem⟩
  · intro id hid task htask barrier hbarrier hhandoff hunbound
    simp only [SubmissionSystem.submitPacket]
    split
    · rfl
    next harguments =>
    split
    · rfl
    split
    · rfl
    next tokens htokens =>
    simp only [SubmissionSystem.acceptsArguments, Bool.not_eq_true', Bool.not_eq_false,
      Bool.and_eq_true] at harguments
    obtain ⟨task', htask', hreaches⟩ := reachesOwner_of_waitTokens hcompile hcreated hplan
      harguments.1.1.1.2 htokens hid
    obtain rfl := Option.some.inj (htask.symm.trans htask')
    obtain ⟨token, -, ⟨binding, hbinding, rfl⟩, hreach⟩ := hreaches barrier hbarrier hhandoff
    exact absurd hreach (hunbound binding hbinding)

end Law

/-! ## A buffer from the Compute queue -/

/-- A Graphics task reads a buffer that an earlier Compute submission released to it. -/
def importedBufferGraph : GpuTaskGraph where
  generation := 1
  tasks :=
    [recordedTask 1 .graphics
      [{ resource := ⟨0, 1⟩, requiredState := ResourceStates.shaderResource }]]
  resources :=
    [{ bufferNode 2 ResourceStates.shaderResource with
        initialOwnerQueue := ⟨1, 1⟩
        initialOwnerReleaseDestinationQueue := ⟨0, 1⟩
        initialOwnerCompletion := ⟨0, 1⟩
        initialOwnerMinimumCompletionToken := ⟨.compute, 5, 1, 1⟩
        initialOwnerStateSource := some { deviceGeneration := 1 } }]
  externalCompletions := [9]
  generation_ne_zero := Nat.one_ne_zero
  tasks_length_le := by decide
  resources_length_le := by decide
  resources_declared := by decide

/-- The compiled example. -/
def importedBufferCompilation : Option GpuTaskGraphCompilation :=
  compile assignPreferredQueues {} ⟨1, Nat.one_ne_zero⟩ importedBufferGraph twoFamilyTopology

/-- Its published plan. -/
def importedBufferPlan : PublishedPlan where
  compiled := (importedBufferCompilation.map (·.compiledGraph)).getD {}
  published := true
  graphTaskCount := 1

/-- The task is recorded; the Compute queue has submitted eight times. -/
def importedBufferSystem : SubmissionSystem where
  graph :=
    { tasks := [{ payload := .live, lifecycleState := .recorded, lifecycleAttemptGeneration := 3 }]
      generation := 1
      activeRecordingAttemptGeneration := 3
      activeRecordingPlanGeneration := 1
      nextGeneration := 4 }
  transaction := GpuGraphSubmissionTransaction.reset {} importedBufferPlan
  device :=
    { deviceGeneration := 1
      physicalQueueInfos := twoFamilyTopology
      physicalQueues :=
        [some { physicalQueue := ⟨0, 1⟩, queueID := .graphics, trackingSemaphore := 10
                lastSubmittedID := 3 },
         some { physicalQueue := ⟨1, 1⟩, queueID := .compute, trackingSemaphore := 11
                lastSubmittedID := 8 }] }

/-- The buffer's completion is bound to the sixth Compute submission. -/
def importedBufferCall : SubmitPacketCall where
  recordedGraph :=
    { packets :=
        [{ packet := ⟨0, 1⟩
           commandLists := [some { queueType := .graphics, physicalQueue := ⟨0, 1⟩ }] }]
      generation := 1
      planGeneration := 1
      recordingAttemptGeneration := 3
      deviceGeneration := 1
      isValid := true }
  packetID := ⟨0, 1⟩
  externalCompletionTokens := [{ completion := ⟨0, 1⟩, token := ⟨.compute, 6, 1, 1⟩ }]

/-- The submission waits for value 6 of the Compute queue's semaphore; without the binding there is
none. -/
theorem submitPacket_awaits_initialOwners_importedBuffer :
    (∃ s' submitted, importedBufferSystem.submitPacket importedBufferGraph importedBufferPlan
        importedBufferCall = (s', some submitted, true) ∧
      ∃ task, importedBufferPlan.compiled.findCompiledTask ⟨0, 1⟩ = some task ∧
        ∃ barrier ∈ importedBufferPlan.compiled.prologueBarriersOf task,
          ∃ token ∈ submitted.waitTokens,
            ReachesOwner (importedBufferGraph.resourceAt 0) barrier token ∧
            importedBufferSystem.device.Covers ⟨0, 1⟩ submitted.submission.waits token) ∧
    importedBufferSystem.submitPacket importedBufferGraph importedBufferPlan
      { importedBufferCall with externalCompletionTokens := [] }
        = (importedBufferSystem, none, false) := by
  obtain ⟨out, hout⟩ : ∃ out, importedBufferCompilation = some out := ⟨_, rfl⟩
  have hplan : importedBufferPlan.compiled = out.compiledGraph := by
    show (importedBufferCompilation.map (·.compiledGraph)).getD {} = out.compiledGraph
    rw [hout]
    rfl
  have hcreated : TexturesCreated importedBufferGraph := by
    intro resource hmem desc htexture
    obtain rfl := List.mem_singleton.1 hmem
    cases htexture
  have hlaw := submitPacket_awaits_initialOwners hout hcreated importedBufferPlan hplan
    importedBufferSystem
  have htask : (⟨0, 1⟩ : GpuTaskId) ∈ importedBufferPlan.packetTasks ⟨0, 1⟩ := by decide +kernel
  obtain ⟨barrier, hbarriers⟩ : ∃ barrier, ∃ task,
      importedBufferPlan.compiled.findCompiledTask ⟨0, 1⟩ = some task ∧
      importedBufferPlan.compiled.prologueBarriersOf task = [barrier] ∧
      barrier.isInitialOwnerHandoff = true ∧ barrier.resource.index = 0 :=
    ⟨_, _, rfl, rfl, rfl, rfl⟩
  obtain ⟨task, hfind, hbarrier, hhandoff, hresource⟩ := hbarriers
  have hmem : barrier ∈ importedBufferPlan.compiled.prologueBarriersOf task := by
    rw [hbarrier]
    exact List.mem_singleton_self barrier
  have hunbound := (hlaw { importedBufferCall with externalCompletionTokens := [] }).2 ⟨0, 1⟩ htask
    task hfind barrier hmem hhandoff fun binding hbinding => absurd hbinding List.not_mem_nil
  obtain ⟨submitted, hsubmitted⟩ : ∃ submitted, (importedBufferSystem.submitPacket
      importedBufferGraph importedBufferPlan importedBufferCall).2 = (some submitted, true) :=
    ⟨_, rfl⟩
  have hsubmit : importedBufferSystem.submitPacket importedBufferGraph importedBufferPlan
      importedBufferCall = (_, some submitted, true) := Prod.ext rfl hsubmitted
  obtain ⟨task', hfind', hreaches⟩ := (hlaw importedBufferCall).1 _ _ _ hsubmit ⟨0, 1⟩ htask
  obtain rfl := Option.some.inj (hfind.symm.trans hfind')
  obtain ⟨token, htoken, hreach, hcovers⟩ := hreaches barrier hmem hhandoff
  rw [hresource] at hreach
  exact ⟨⟨_, submitted, hsubmit, task, hfind, barrier, hmem, token, htoken, hreach, hcovers⟩,
    hunbound⟩

end NwbLot.PacketRuntime
