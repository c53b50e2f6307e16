import NwbLot.Library.FallibleLists
import NwbLot.TaskGraph.AssignQueues

/-!
# Assigned queues are legal

The request selects the lowest-indexed compatible queue of some class.  Every later move, by load,
by dependency, by override, by calibration or by timing history, goes to a compatible queue of the
same class, and to another family only with the cross-family opt-in.
-/

namespace NwbLot.TaskGraph

variable {F : Type} [F64 F] {options : GpuTaskGraphQueueAssignmentOptions F}
  {graph : GpuTaskGraph} {analysis : GpuTaskGraphAnalysis} {topology : GpuTaskGraphQueueTopology}
  {assignments : List GpuTaskQueueAssignment} {task : GpuTaskGraphTaskView}

/-! ## The requested queue -/

/-- The queue is registered and offers the capabilities. -/
def IsCompatible (topology : GpuTaskGraphQueueTopology) (requiredCapabilities : GpuQueueCapability)
    (queue : GpuPhysicalQueueInfo) : Prop :=
  queue ∈ topology ∧ hasCapabilities queue.capabilities requiredCapabilities = true

/-- `kCount` asks for any class. -/
def OfClass (requiredClass : CommandQueue) (queue : GpuPhysicalQueueInfo) : Prop :=
  requiredClass = .kCount ∨ queue.queueClass = requiredClass

variable {candidate : GpuPhysicalQueueInfo}

variable {current : GpuPhysicalQueueInfo}

lemma index_le_of_not_better (h : isBetterQueue candidate (some current) = false) :
    current.id.index ≤ candidate.id.index := by
  simp only [isBetterQueue] at h
  split_ifs at h with hindex
  · simpa using h
  · exact (not_not.1 hindex).ge

lemma index_le_of_better (h : isBetterQueue candidate (some current) = true) :
    candidate.id.index ≤ current.id.index := by
  simp only [isBetterQueue] at h
  split_ifs at h with hindex
  · exact le_of_lt (by simpa using h)
  · exact (not_not.1 hindex).le

/-- A found queue is compatible, of the class, and of least index among those. -/
structure IsBest (topology : GpuTaskGraphQueueTopology) (requiredCapabilities : GpuQueueCapability)
    (requiredClass : CommandQueue) (queue : GpuPhysicalQueueInfo) : Prop where
  compatible : IsCompatible topology requiredCapabilities queue
  ofClass : OfClass requiredClass queue
  least : ∀ other, IsCompatible topology requiredCapabilities other → OfClass requiredClass other →
    queue.id.index ≤ other.id.index

variable {requiredCapabilities : GpuQueueCapability} {queue other : GpuPhysicalQueueInfo}

lemma isCompatible_snoc :
    IsCompatible (topology ++ [queue]) requiredCapabilities other ↔
      IsCompatible topology requiredCapabilities other ∨
        (other = queue ∧ hasCapabilities other.capabilities requiredCapabilities = true) := by
  simp only [IsCompatible, List.mem_append, List.mem_singleton]
  tauto

/-- What the search has found. -/
def BestOf (topology : GpuTaskGraphQueueTopology) (requiredCapabilities : GpuQueueCapability)
    (requiredClass : CommandQueue) : Option GpuPhysicalQueueInfo → Prop
  | none => ∀ other, IsCompatible topology requiredCapabilities other →
      ¬OfClass requiredClass other
  | some queue => IsBest topology requiredCapabilities requiredClass queue

variable {requiredClass : CommandQueue} {found : Option GpuPhysicalQueueInfo}

/-- The queue does not qualify. -/
lemma BestOf.skip (h : BestOf topology requiredCapabilities requiredClass found)
    (hskip : ¬(OfClass requiredClass queue ∧
      hasCapabilities queue.capabilities requiredCapabilities = true)) :
    BestOf (topology ++ [queue]) requiredCapabilities requiredClass found := by
  have hold : ∀ other, IsCompatible (topology ++ [queue]) requiredCapabilities other →
      OfClass requiredClass other → IsCompatible topology requiredCapabilities other := by
    intro other hother hclass
    rcases isCompatible_snoc.1 hother with hfront | ⟨rfl, hcapable⟩
    · exact hfront
    · exact absurd ⟨hclass, hcapable⟩ hskip
  cases found with
  | none => exact fun other hother hclass => h other (hold other hother hclass) hclass
  | some best =>
    exact ⟨isCompatible_snoc.2 (Or.inl h.compatible), h.ofClass,
      fun other hother hclass => h.least other (hold other hother hclass) hclass⟩

/-- The queue qualifies and is compared. -/
lemma BestOf.compare (h : BestOf topology requiredCapabilities requiredClass found)
    (hclass : OfClass requiredClass queue)
    (hcapable : hasCapabilities queue.capabilities requiredCapabilities = true) :
    BestOf (topology ++ [queue]) requiredCapabilities requiredClass
      (if !isBetterQueue queue found then found else some queue) := by
  have hself : IsCompatible (topology ++ [queue]) requiredCapabilities queue :=
    isCompatible_snoc.2 (Or.inr ⟨rfl, hcapable⟩)
  cases found with
  | none =>
    refine ⟨hself, hclass, fun other hother hother' => ?_⟩
    rcases isCompatible_snoc.1 hother with hfront | ⟨rfl, -⟩
    · exact absurd hother' (h other hfront)
    · exact le_rfl
  | some best =>
    cases hbetter : isBetterQueue queue (some best) with
    | false =>
      refine ⟨isCompatible_snoc.2 (Or.inl h.compatible), h.ofClass, fun other hother hother' => ?_⟩
      rcases isCompatible_snoc.1 hother with hfront | ⟨rfl, -⟩
      · exact h.least other hfront hother'
      · exact index_le_of_not_better hbetter
    | true =>
      refine ⟨hself, hclass, fun other hother hother' => ?_⟩
      rcases isCompatible_snoc.1 hother with hfront | ⟨rfl, -⟩
      · exact (index_le_of_better hbetter).trans (h.least other hfront hother')
      · exact le_rfl

lemma findBestCompatibleQueue_spec (topology : GpuTaskGraphQueueTopology)
    (requiredCapabilities : GpuQueueCapability) (requiredClass : CommandQueue) :
    BestOf topology requiredCapabilities requiredClass
      (findBestCompatibleQueue topology requiredCapabilities requiredClass) := by
  induction topology using List.reverseRecOn with
  | nil =>
    intro other hother
    exact absurd hother.1 (by simp)
  | append_singleton front queue ih =>
    rw [findBestCompatibleQueue, List.foldl_append, List.foldl_cons, List.foldl_nil]
    rw [findBestCompatibleQueue] at ih
    by_cases hclass : OfClass requiredClass queue
    · by_cases hcapable : hasCapabilities queue.capabilities requiredCapabilities = true
      · have hasked : (requiredClass != .kCount && queue.queueClass != requiredClass) = false := by
          rcases hclass with rfl | rfl <;> simp
        rw [hasked, hcapable, Bool.false_or, Bool.not_true, Bool.false_or]
        exact ih.compare hclass hcapable
      · rw [if_pos (by simp [hcapable])]
        exact ih.skip fun h => hcapable h.2
    · rw [if_pos]
      · exact ih.skip fun h => hclass h.1
      · simp only [OfClass, not_or] at hclass
        simp [hclass.1, hclass.2]

lemma isBest_of_find
    (h : findBestCompatibleQueue topology requiredCapabilities requiredClass = some queue) :
    IsBest topology requiredCapabilities requiredClass queue := by
  have hspec := findBestCompatibleQueue_spec topology requiredCapabilities requiredClass
  rwa [h] at hspec

/-- A class with a compatible queue has a best one. -/
lemma find_isSome (hother : IsCompatible topology requiredCapabilities other)
    (hclass : other.queueClass = requiredClass) :
    ∃ queue, findBestCompatibleQueue topology requiredCapabilities requiredClass = some queue := by
  have hspec := findBestCompatibleQueue_spec topology requiredCapabilities requiredClass
  cases hfound : findBestCompatibleQueue topology requiredCapabilities requiredClass with
  | none =>
    rw [hfound] at hspec
    exact absurd (Or.inr hclass) (hspec other hother)
  | some queue => exact ⟨queue, rfl⟩

/-- The class a concrete preference names. -/
def preferredClass : GpuQueuePreference → Option CommandQueue
  | .graphics => some .graphics
  | .compute => some .compute
  | .transfer => some .transfer
  | .any => none

lemma class_of_find (hknown : requiredClass ≠ .kCount)
    (h : findBestCompatibleQueue topology requiredCapabilities requiredClass = some queue) :
    queue.queueClass = requiredClass :=
  (isBest_of_find h).ofClass.resolve_left hknown

/-- A search found the base queue; it is not the preferred class's search only if fallback is
allowed and, for a task that keeps its preference, the preferred class has no compatible queue. -/
def SelectedBy (topology : GpuTaskGraphQueueTopology) (task : GpuTaskGraphTaskView)
    (requiredClass : CommandQueue) : Prop :=
  ∀ queueClass, preferredClass task.queue.preferredQueue = some queueClass →
    requiredClass ≠ queueClass →
    task.queue.allowFallback = true ∧ (task.queue.compilerMayOverridePreference = false →
      findBestCompatibleQueue topology task.queue.requiredCapabilities queueClass = none)

variable {queueClass : CommandQueue}

lemma selectedBy_own (h : preferredClass task.queue.preferredQueue = some queueClass) :
    SelectedBy topology task queueClass :=
  fun _ hother hne => absurd (Option.some.inj (h.symm.trans hother)) hne

lemma selectedBy_fallback (h : preferredClass task.queue.preferredQueue = some queueClass)
    (hfallback : task.queue.allowFallback = true)
    (hkeeps : task.queue.compilerMayOverridePreference = false →
      findBestCompatibleQueue topology task.queue.requiredCapabilities queueClass = none) :
    SelectedBy topology task requiredClass := by
  intro other hother _
  obtain rfl := Option.some.inj (h.symm.trans hother)
  exact ⟨hfallback, hkeeps⟩

/-- A task that keeps its preference is refused its class only if that has no compatible queue. -/
lemma none_of_refused {mayOverride : Bool} {dedicated : GpuPhysicalQueueInfo → Bool}
    (h : ∀ queue, found = some queue → ¬(!mayOverride || dedicated queue) = true)
    (hkeeps : mayOverride = false) : found = none := by
  cases found with
  | none => rfl
  | some queue => exact absurd (by simp [hkeeps]) (h queue rfl)

variable {base : GpuPhysicalQueueInfo}

variable {reason : GpuTaskQueueAssignmentReason}

/-- Without a Graphics requirement. -/
lemma selectQueue_cases (hgraphics : requiresGraphics task.queue.requiredCapabilities = false)
    (h : selectQueue topology task = some (base, reason)) :
    ∃ requiredClass, SelectedBy topology task requiredClass ∧
      findBestCompatibleQueue topology task.queue.requiredCapabilities requiredClass
        = some base := by
  simp only [selectQueue, Option.orElse_eq_orElse, Option.orElse_eq_or, hgraphics,
    Bool.false_eq_true, if_false] at h
  cases hpreferred : task.queue.preferredQueue with
  | graphics =>
    have hclass : preferredClass task.queue.preferredQueue = some .graphics := by rw [hpreferred]; rfl
    simp only [hpreferred, Option.or_eq_some_iff, Option.map_eq_some_iff, Option.map_eq_none_iff,
      Option.ite_none_right_eq_some, Prod.mk.injEq] at h
    rcases h with ⟨_, hfound, rfl, -⟩ | ⟨hnone, hfallback, _, hfound, rfl, -⟩
    · exact ⟨.graphics, selectedBy_own hclass, hfound⟩
    · exact ⟨.kCount, selectedBy_fallback hclass hfallback fun _ => hnone, hfound⟩
  | compute =>
    have hclass : preferredClass task.queue.preferredQueue = some .compute := by rw [hpreferred]; rfl
    simp only [hpreferred, Option.or_eq_some_iff, Option.map_eq_some_iff, Option.map_eq_none_iff,
      Option.ite_none_right_eq_some, Option.filter_eq_some_iff, Option.filter_eq_none_iff,
      Prod.mk.injEq] at h
    rcases h with ⟨_, ⟨hfound, -⟩, rfl, -⟩ | ⟨hrefused, h⟩
    · exact ⟨.compute, selectedBy_own hclass, hfound⟩
    · have hkeeps := none_of_refused hrefused
      rcases h with ⟨hfallback, _, hfound, rfl, -⟩ | ⟨-, ⟨_, hfound, rfl, -⟩ |
        ⟨-, hfallback, _, hfound, rfl, -⟩⟩
      · exact ⟨.graphics, selectedBy_fallback hclass hfallback hkeeps, hfound⟩
      · exact ⟨.compute, selectedBy_own hclass, hfound⟩
      · exact ⟨.kCount, selectedBy_fallback hclass hfallback hkeeps, hfound⟩
  | transfer =>
    have hclass : preferredClass task.queue.preferredQueue = some .transfer := by rw [hpreferred]; rfl
    simp only [hpreferred, Option.or_eq_some_iff, Option.map_eq_some_iff, Option.map_eq_none_iff,
      Option.ite_none_right_eq_some, Option.filter_eq_some_iff, Option.filter_eq_none_iff,
      Prod.mk.injEq] at h
    rcases h with ⟨_, ⟨hfound, -⟩, rfl, -⟩ | ⟨hrefused, h⟩
    · exact ⟨.transfer, selectedBy_own hclass, hfound⟩
    · have hkeeps := none_of_refused hrefused
      rcases h with ⟨hfallback, _, ⟨hfound, -⟩, rfl, -⟩ | ⟨-, ⟨hfallback, _, hfound, rfl, -⟩ |
        ⟨-, ⟨_, hfound, rfl, -⟩ | ⟨-, ⟨hfallback, _, hfound, rfl, -⟩ |
          ⟨-, hfallback, _, hfound, rfl, -⟩⟩⟩⟩
      · exact ⟨.compute, selectedBy_fallback hclass hfallback hkeeps, hfound⟩
      · exact ⟨.graphics, selectedBy_fallback hclass hfallback hkeeps, hfound⟩
      · exact ⟨.transfer, selectedBy_own hclass, hfound⟩
      · exact ⟨.compute, selectedBy_fallback hclass hfallback hkeeps, hfound⟩
      · exact ⟨.kCount, selectedBy_fallback hclass hfallback hkeeps, hfound⟩
  | any =>
    have hclass : preferredClass task.queue.preferredQueue = none := by rw [hpreferred]; rfl
    have hselected : ∀ requiredClass, SelectedBy topology task requiredClass :=
      fun _ other hother => absurd (hclass.symm.trans hother) (by simp)
    simp only [hpreferred, Option.map_eq_some_iff, Option.or_eq_some_iff, Prod.mk.injEq] at h
    obtain ⟨_, hfound | ⟨-, hfound⟩, rfl, -⟩ := h
    · exact ⟨.graphics, hselected _, hfound⟩
    · exact ⟨.kCount, hselected _, hfound⟩

/-- What the request of a task decides about its base queue. -/
structure RequestedQueue (topology : GpuTaskGraphQueueTopology) (task : GpuTaskGraphTaskView)
    (base : GpuPhysicalQueueInfo) : Prop where
  best : ∃ requiredClass, IsBest topology task.queue.requiredCapabilities requiredClass base
  graphics : requiresGraphics task.queue.requiredCapabilities = true → base.queueClass = .graphics
  noFallback : requiresGraphics task.queue.requiredCapabilities = false →
    task.queue.allowFallback = false → ∀ queueClass,
    preferredClass task.queue.preferredQueue = some queueClass → base.queueClass = queueClass
  noOverride : requiresGraphics task.queue.requiredCapabilities = false →
    task.queue.compilerMayOverridePreference = false → ∀ queueClass,
    preferredClass task.queue.preferredQueue = some queueClass →
    ∀ other, IsCompatible topology task.queue.requiredCapabilities other →
    other.queueClass = queueClass → base.queueClass = queueClass

lemma ne_kCount_of_preferredClass {preference : GpuQueuePreference}
    (h : preferredClass preference = some queueClass) : queueClass ≠ .kCount := by
  rintro rfl
  cases preference <;> simp [preferredClass] at h

lemma requestedQueue_of_select (h : selectQueue topology task = some (base, reason)) :
    RequestedQueue topology task base := by
  cases hgraphics : requiresGraphics task.queue.requiredCapabilities with
  | true =>
    simp only [selectQueue, hgraphics, if_true, Option.map_eq_some_iff, Prod.mk.injEq] at h
    obtain ⟨_, hfound, rfl, -⟩ := h
    exact ⟨⟨_, isBest_of_find hfound⟩, fun _ => class_of_find (by decide) hfound,
      by simp [hgraphics], by simp [hgraphics]⟩
  | false =>
    obtain ⟨requiredClass, hselected, hfound⟩ := selectQueue_cases hgraphics h
    refine ⟨⟨_, isBest_of_find hfound⟩, by simp [hgraphics], ?_, ?_⟩
    · intro _ hfallback queueClass hclass
      have hsame : requiredClass = queueClass := by
        by_contra hne
        have hallowed := (hselected queueClass hclass hne).1
        rw [hfallback] at hallowed
        cases hallowed
      exact class_of_find (ne_kCount_of_preferredClass hclass) (hsame ▸ hfound)
    · intro _ hkeeps queueClass hclass other hother hotherClass
      have hsame : requiredClass = queueClass := by
        by_contra hne
        obtain ⟨queue, hqueue⟩ := find_isSome hother hotherClass
        rw [(hselected queueClass hclass hne).2 hkeeps] at hqueue
        cases hqueue
      exact class_of_find (ne_kCount_of_preferredClass hclass) (hsame ▸ hfound)

/-! ## Moves within a class -/

/-- A queue that may stand in for the base queue of a task. -/
structure SameClassRoute (topology : GpuTaskGraphQueueTopology) (task : GpuTaskGraphTaskView)
    (base queue : GpuPhysicalQueueInfo) : Prop where
  compatible : IsCompatible topology task.queue.requiredCapabilities queue
  sameClass : queue.queueClass = base.queueClass
  sameFamily : task.scheduling.allowCrossFamilySameClassQueueRouting = false →
    queue.familyIndex = base.familyIndex
  noRouting : task.scheduling.allowSameClassQueueRouting = false → queue = base

lemma SameClassRoute.refl (h : IsCompatible topology task.queue.requiredCapabilities base) :
    SameClassRoute topology task base base :=
  ⟨h, rfl, fun _ => rfl, fun _ => rfl⟩

lemma SameClassRoute.trans {middle : GpuPhysicalQueueInfo}
    (h : SameClassRoute topology task base middle)
    (h' : SameClassRoute topology task middle queue) :
    SameClassRoute topology task base queue where
  compatible := h'.compatible
  sameClass := h'.sameClass.trans h.sameClass
  sameFamily hfamily := (h'.sameFamily hfamily).trans (h.sameFamily hfamily)
  noRouting hrouting := (h'.noRouting hrouting).trans (h.noRouting hrouting)

/-- Same-class candidates of an opted-in task. -/
lemma sameClassRoute_of_candidate (hrouting : task.scheduling.allowSameClassQueueRouting = true)
    (hmem : candidate ∈ topology)
    (h : isSameClassCandidate base candidate task.queue.requiredCapabilities
      task.scheduling.allowCrossFamilySameClassQueueRouting = true) :
    SameClassRoute topology task base candidate := by
  simp only [isSameClassCandidate, Bool.and_eq_true, Bool.or_eq_true, beq_iff_eq] at h
  obtain ⟨⟨hclass, hfamily⟩, hcapable⟩ := h
  refine ⟨⟨hmem, hcapable⟩, hclass, fun hcross => ?_, fun hno => ?_⟩
  · exact hfamily.resolve_left (by simp [hcross])
  · simp [hno] at hrouting

variable {allowCrossFamilyRouting : Bool}

lemma findLeastLoadedSameClassQueue_candidate {preferNonPrimary : Bool}
    (h : findLeastLoadedSameClassQueue graph analysis assignments topology base
      requiredCapabilities allowCrossFamilyRouting preferNonPrimary = some queue) :
    queue ∈ topology ∧
      isSameClassCandidate base queue requiredCapabilities allowCrossFamilyRouting = true := by
  obtain ⟨⟨found, load⟩, hfold, rfl⟩ := Option.map_eq_some_iff.1 h
  refine OptionList.foldl_best (P := fun best => best.1 ∈ topology ∧ isSameClassCandidate base best.1
    requiredCapabilities allowCrossFamilyRouting = true) ?_ hfold
  intro best candidate hmem kept hkept
  split at hkept
  · exact Or.inl hkept
  · next hcandidate =>
      dsimp only at hkept
      split at hkept
      · cases hkept
        exact Or.inr ⟨hmem, by simpa using hcandidate⟩
      · exact Or.inl hkept

lemma findDirectDependencySameClassQueue_candidate
    (h : findDirectDependencySameClassQueue assignments topology task base requiredCapabilities
      allowCrossFamilyRouting = some queue) :
    queue ∈ topology ∧
      isSameClassCandidate base queue requiredCapabilities allowCrossFamilyRouting = true := by
  obtain ⟨dependency, -, hfound⟩ := List.exists_of_findSome?_eq_some h
  obtain ⟨assignment, -, hqueue⟩ := Option.bind_eq_some_iff.1 hfound
  have haccepted := List.find?_some hqueue
  simp only [Bool.and_eq_true] at haccepted
  exact ⟨List.mem_of_find?_eq_some hqueue, haccepted.2⟩

/-- Spreading over the class. -/
lemma routeSameClass_route (h : IsCompatible topology task.queue.requiredCapabilities base) :
    SameClassRoute topology task base
      (routeSameClass graph analysis assignments topology task base) := by
  simp only [routeSameClass, Option.orElse_eq_orElse, Option.orElse_eq_or]
  split
  · next hopted =>
      simp only [Bool.and_eq_true] at hopted
      have hrouting := hopted.1.1
      generalize hdependency : (if task.scheduling.preserveSameClassQueueWithDirectDependency = true
        then findDirectDependencySameClassQueue assignments topology task base
          task.queue.requiredCapabilities task.scheduling.allowCrossFamilySameClassQueueRouting
        else none) = dependencyQueue
      cases dependencyQueue with
      | some queue =>
        split at hdependency
        · obtain ⟨hmem, hcandidate⟩ := findDirectDependencySameClassQueue_candidate hdependency
          exact sameClassRoute_of_candidate hrouting hmem hcandidate
        · cases hdependency
      | none =>
        rw [Option.none_or]
        cases hbalanced : findLeastLoadedSameClassQueue graph analysis assignments topology base
            task.queue.requiredCapabilities task.scheduling.allowCrossFamilySameClassQueueRouting
            task.scheduling.preferNonPrimarySameClassQueue with
        | none => exact SameClassRoute.refl h
        | some queue =>
          obtain ⟨hmem, hcandidate⟩ := findLeastLoadedSameClassQueue_candidate hbalanced
          exact sameClassRoute_of_candidate hrouting hmem hcandidate
  · exact SameClassRoute.refl h

/-! ## Timing routes -/

variable {incumbent : GpuPhysicalQueueInfo}

lemma sameClassRoute_of_legal (hmem : candidate ∈ topology)
    (h : isLegalTimingFeedbackRoute task incumbent candidate = true) :
    SameClassRoute topology task incumbent candidate := by
  simp only [isLegalTimingFeedbackRoute, allowsTimingFeedbackRouting, Bool.and_eq_true,
    Bool.or_eq_true, beq_iff_eq] at h
  obtain ⟨⟨⟨hallowed, hclass⟩, hfamily⟩, hcapable⟩ := h
  refine ⟨⟨hmem, hcapable⟩, hclass, fun hcross => ?_, fun hno => ?_⟩
  · exact hfamily.resolve_right (by simp [hcross])
  · rw [hno] at hallowed
    exact absurd hallowed.1.1.2 (by simp)

variable {history : GpuTaskTimingHistorySnapshot F} {policy : GpuTaskTimingFeedbackPolicy F}
  {frameIndex : ℕ}

lemma findTimingFeedbackQueue_legal {key : GpuTaskTimingKey}
    (h : findTimingFeedbackQueue graph analysis assignments topology task incumbent key history
      policy frameIndex = some queue) :
    queue ∈ topology ∧ isLegalTimingFeedbackRoute task incumbent queue = true := by
  simp only [findTimingFeedbackQueue, Option.bind_eq_bind, Option.bind_eq_some_iff,
    Option.map_eq_some_iff] at h
  obtain ⟨incumbentHistory, -, assignmentState, -, route, hfold, rfl⟩ := h
  refine OptionList.foldl_best (P := fun route => route.queue ∈ topology ∧
    isLegalTimingFeedbackRoute task incumbent route.queue = true) ?_ hfold
  intro best candidate hmem kept hkept
  split at hkept
  · exact Or.inl hkept
  · next route hroute =>
      split at hkept
      · cases hkept
        refine Or.inr ?_
        simp only [timingCandidate] at hroute
        split at hroute
        · cases hroute
        · next hlegal =>
            obtain ⟨found, -, hfound⟩ := Option.bind_eq_some_iff.1 hroute
            split at hfound
            · cases hfound
            · cases hfound
              simp only [Bool.or_eq_true, not_or, Bool.not_eq_true, Bool.not_eq_false'] at hlegal
              exact ⟨hmem, hlegal.2⟩
      · exact Or.inl hkept

omit [F64 F] in
/-- A probe goes to the incumbent or to a legal route. -/
lemma findTimingFeedbackCalibrationQueue_route {key : GpuTaskTimingKey}
    (h : findTimingFeedbackCalibrationQueue topology task incumbent key history policy frameIndex
      = some queue) (hincumbent : IsCompatible topology task.queue.requiredCapabilities incumbent) :
    SameClassRoute topology task incumbent queue := by
  simp only [findTimingFeedbackCalibrationQueue] at h
  split at h
  · cases h
  · split at h
    · cases h
      refine List.foldlRecOn (motive := SameClassRoute topology task incumbent) _ _
        (SameClassRoute.refl hincumbent) ?_
      intro result hresult candidate hneeded
      obtain ⟨hmem, hlegal⟩ := List.mem_filter.1 hneeded
      simp only [Bool.and_eq_true] at hlegal
      split
      · exact sameClassRoute_of_legal hmem hlegal.1.2
      · exact hresult
    · cases h

lemma routeByTiming_route {selected : GpuPhysicalQueueInfo}
    (h : routeByTiming options graph analysis topology assignments task selected = some queue)
    (hselected : IsCompatible topology task.queue.requiredCapabilities selected) :
    SameClassRoute topology task selected queue := by
  simp only [routeByTiming] at h
  split at h
  · obtain ⟨hfound, hlegal⟩ := Option.filter_eq_some_iff.1 h
    exact sameClassRoute_of_legal (List.mem_of_find?_eq_some hfound) hlegal
  · split at h
    · cases h
      exact SameClassRoute.refl hselected
    · next history policy _ =>
        split at h
        · next hprobe =>
            cases h
            exact findTimingFeedbackCalibrationQueue_route hprobe hselected
        · cases h
          cases hfaster : findTimingFeedbackQueue graph analysis assignments topology task selected
              (timingKeyOf task selected.queueClass) history policy options.timingFrameIndex with
          | none => exact SameClassRoute.refl hselected
          | some queue =>
            obtain ⟨hmem, hlegal⟩ := findTimingFeedbackQueue_legal hfaster
            exact sameClassRoute_of_legal hmem hlegal

/-! ## The assignment -/

/-- What an assigned queue keeps of the request of its task. -/
structure LegalAssignment (topology : GpuTaskGraphQueueTopology) (task : GpuTaskGraphTaskView)
    (base queue : GpuPhysicalQueueInfo) : Prop where
  registered : queue ∈ topology
  capable : hasCapabilities queue.capabilities task.queue.requiredCapabilities = true
  graphics : requiresGraphics task.queue.requiredCapabilities = true → queue.queueClass = .graphics
  noFallback : requiresGraphics task.queue.requiredCapabilities = false →
    task.queue.allowFallback = false → ∀ queueClass,
    preferredClass task.queue.preferredQueue = some queueClass → queue.queueClass = queueClass
  noOverride : requiresGraphics task.queue.requiredCapabilities = false →
    task.queue.compilerMayOverridePreference = false → ∀ queueClass,
    preferredClass task.queue.preferredQueue = some queueClass →
    (∃ other ∈ topology, other.queueClass = queueClass ∧
      hasCapabilities other.capabilities task.queue.requiredCapabilities = true) →
    queue.queueClass = queueClass
  lowestIndex : task.scheduling.allowSameClassQueueRouting = false → ∀ other ∈ topology,
    other.queueClass = queue.queueClass →
    hasCapabilities other.capabilities task.queue.requiredCapabilities = true →
    queue.id.index ≤ other.id.index
  sameFamily : task.scheduling.allowCrossFamilySameClassQueueRouting = false →
    queue.familyIndex = base.familyIndex
  sameClass : queue.queueClass = base.queueClass

/-- A least-indexed queue of any class is least-indexed in its own class too. -/
lemma least_of_isBest (h : IsBest topology requiredCapabilities requiredClass queue)
    (hother : IsCompatible topology requiredCapabilities other)
    (hclass : other.queueClass = queue.queueClass) : queue.id.index ≤ other.id.index := by
  refine h.least other hother ?_
  rcases h.ofClass with hany | hown
  · exact Or.inl hany
  · exact Or.inr (hclass.trans hown)

lemma legalAssignment_of_route (hbase : RequestedQueue topology task base)
    (hroute : SameClassRoute topology task base queue) :
    LegalAssignment topology task base queue where
  registered := hroute.compatible.1
  capable := hroute.compatible.2
  graphics hgraphics := hroute.sameClass.trans (hbase.graphics hgraphics)
  noFallback hgraphics hfallback queueClass hclass :=
    hroute.sameClass.trans (hbase.noFallback hgraphics hfallback queueClass hclass)
  noOverride hgraphics hkeeps queueClass hclass := by
    rintro ⟨other, hmem, hother, hcapable⟩
    exact hroute.sameClass.trans
      (hbase.noOverride hgraphics hkeeps queueClass hclass other ⟨hmem, hcapable⟩ hother)
  lowestIndex hno other hmem hclass hcapable := by
    obtain ⟨requiredClass, hbest⟩ := hbase.best
    obtain rfl := hroute.noRouting hno
    exact least_of_isBest hbest ⟨hmem, hcapable⟩ hclass
  sameFamily := hroute.sameFamily
  sameClass := hroute.sameClass

/-- The assignment of one task, with its base and its final queue. -/
def LegallyAssigned (graph : GpuTaskGraph) (topology : GpuTaskGraphQueueTopology)
    (assignment : GpuTaskQueueAssignment) : Prop :=
  ∃ base reason queue,
    selectQueue topology (graph.taskAt assignment.task.index) = some (base, reason) ∧
    assignment.queue = queue.id ∧ assignment.queueClass = queue.queueClass ∧
    LegalAssignment topology (graph.taskAt assignment.task.index) base queue

lemma legallyAssigned_of_assignTask {taskID : GpuTaskId} {assignment : GpuTaskQueueAssignment}
    (h : assignTask options graph analysis topology assignments taskID = .ok assignment) :
    assignment.task = graph.taskIdAt taskID.index ∧ LegallyAssigned graph topology assignment := by
  simp only [assignTask] at h
  split at h
  · cases h
  · next selected reason hstatic =>
      split at h
      · cases h
      · next queue hqueue =>
          cases h
          refine ⟨rfl, ?_⟩
          obtain ⟨⟨base, baseReason⟩, hselect, heq⟩ := Option.map_eq_some_iff.1 hstatic
          obtain ⟨rfl, -⟩ := Prod.mk.inj heq
          have hbase := requestedQueue_of_select hselect
          obtain ⟨requiredClass, hbest⟩ := hbase.best
          have hclass : SameClassRoute topology (graph.taskAt taskID.index) base
              (routeSameClass graph analysis assignments topology (graph.taskAt taskID.index) base) :=
            routeSameClass_route hbest.compatible
          have hroute := hclass.trans (routeByTiming_route hqueue hclass.compatible)
          exact ⟨base, baseReason, queue, hselect, rfl, rfl, legalAssignment_of_route hbase hroute⟩

/-- The assignment loop assigns every task it passes, in order. -/
lemma assignTasks_legal {order : List GpuTaskId} {result : List GpuTaskQueueAssignment}
    (h : assignTasks options graph analysis topology assignments order = .ok result) :
    ∃ made, result = assignments ++ made ∧
      made.map (·.task) = order.map (fun id => graph.taskIdAt id.index) ∧
      ∀ assignment ∈ made, LegallyAssigned graph topology assignment := by
  induction order generalizing assignments with
  | nil =>
    cases h
    exact ⟨[], by simp, rfl, by simp⟩
  | cons taskID rest ih =>
    rw [assignTasks] at h
    split at h
    · cases h
    · next assignment hassigned =>
        obtain ⟨made, rfl, hmade, hlegal⟩ := ih h
        obtain ⟨htask, hself⟩ := legallyAssigned_of_assignTask hassigned
        refine ⟨assignment :: made, by simp, by simp [htask, hmade], ?_⟩
        intro other hother
        rcases List.mem_cons.1 hother with rfl | hrest
        · exact hself
        · exact hlegal other hrest

/-- Every successful queue assignment assigns the tasks of the order, each legally. -/
theorem assignQueues_legal {result : GpuTaskGraphQueueAssignments}
    (h : assignQueues options graph analysis topology = .ok result) :
    result.assignments.map (·.task) =
      analysis.topologicalOrder.map (fun id => graph.taskIdAt id.index) ∧
    ∀ assignment ∈ result.assignments, LegallyAssigned graph topology assignment := by
  rw [assignQueues] at h
  split at h
  · cases h
  · split at h
    · cases h
    · next assignments hassigned =>
        cases h
        obtain ⟨made, rfl, hmade, hlegal⟩ := assignTasks_legal hassigned
        exact ⟨by simpa using hmade, by simpa using hlegal⟩

/-! ## Examples -/

/-- Two Graphics queues of one family. -/
def twoGraphicsQueues : GpuTaskGraphQueueTopology :=
  [{ id := ⟨0, 1⟩, queueClass := .graphics, capabilities := 7, familyIndex := 0 },
   { id := ⟨1, 1⟩, queueClass := .graphics, capabilities := 7, familyIndex := 0, queueIndex := 1 }]

/-- A task that opts into timing feedback. -/
def measuredTaskGraph : GpuTaskGraph where
  generation := 1
  tasks :=
    [{ identity := 1
       queue := { requiredCapabilities := GpuQueueCapability.graphics, preferredQueue := .graphics }
       scheduling := { allowSameClassQueueRouting := true, allowTimingFeedbackRouting := true } }]
  resources := []
  externalCompletions := []
  generation_ne_zero := Nat.one_ne_zero
  tasks_length_le := by decide
  resources_length_le := by decide
  resources_declared := by decide

/-- One sample decides, and two frames lie between switches. -/
def twoFramePolicy : GpuTaskTimingFeedbackPolicy ℚ where
  enabled := true
  minimumSampleCount := 1
  calibrationIntervalFrames := 0
  minimumAbsoluteBenefitSeconds := 0
  minimumRelativeBenefit := 0
  minimumFramesBetweenSwitches := 2

/-- A probe measured the second queue twice as fast as the first. -/
def fasterSecondQueue : GpuTaskTimingHistoryStore ℚ :=
  let key : GpuTaskTimingKey := { task := 1 }
  let probed := ((GpuTaskTimingHistoryStore.create 32).recordSample key ⟨1, 1⟩ 1 1).1
  (probed.recordSample key ⟨0, 1⟩ 2 2).1

def fasterSecondQueueOptions : GpuTaskGraphQueueAssignmentOptions ℚ where
  timingHistory := some fasterSecondQueue.snapshot
  timingFeedbackPolicy := some twoFramePolicy
  timingFrameIndex := 4

lemma exists_of_isOk {α ε : Type*} {result : Except ε α} (h : result.isOk = true) :
    ∃ value, result = .ok value := by
  cases result with
  | error _ => cases h
  | ok value => exact ⟨value, rfl⟩

theorem assignQueues_legal_fasterSecondQueue :
    ∃ result, assignQueues fasterSecondQueueOptions measuredTaskGraph (analyze measuredTaskGraph)
        twoGraphicsQueues = .ok result ∧
      result.assignments.map (·.task) = (analyze measuredTaskGraph).topologicalOrder.map
        (fun id => measuredTaskGraph.taskIdAt id.index) ∧
      ∀ assignment ∈ result.assignments,
        LegallyAssigned measuredTaskGraph twoGraphicsQueues assignment := by
  have hok : (assignQueues fasterSecondQueueOptions measuredTaskGraph (analyze measuredTaskGraph)
      twoGraphicsQueues).isOk = true := by decide +kernel
  obtain ⟨result, hresult⟩ := exists_of_isOk hok
  exact ⟨result, hresult, assignQueues_legal hresult⟩

/-- A Graphics queue, and a Compute queue that can do Graphics work. -/
def graphicsCapableCompute : GpuTaskGraphQueueTopology :=
  [{ id := ⟨0, 1⟩, queueClass := .graphics, capabilities := 7, familyIndex := 0 },
   { id := ⟨1, 1⟩, queueClass := .compute, capabilities := 7, familyIndex := 0, queueIndex := 1 }]

/-- A task that requires Graphics and keeps its preference for Compute. -/
def graphicsOnComputeGraph : GpuTaskGraph where
  generation := 1
  tasks :=
    [{ identity := 1
       queue := { requiredCapabilities := GpuQueueCapability.graphics, preferredQueue := .compute,
                  compilerMayOverridePreference := false } }]
  resources := []
  externalCompletions := []
  generation_ne_zero := Nat.one_ne_zero
  tasks_length_le := by decide
  resources_length_le := by decide
  resources_declared := by decide

/-- The Graphics requirement outranks a preference that the compiler may not override. -/
theorem requiredGraphics_outranks_preference :
    ∃ result, assignQueues ({} : GpuTaskGraphQueueAssignmentOptions ℚ) graphicsOnComputeGraph
        (analyze graphicsOnComputeGraph) graphicsCapableCompute = .ok result ∧
      ∃ assignment ∈ result.assignments,
        let request := (graphicsOnComputeGraph.taskAt assignment.task.index).queue
        request.compilerMayOverridePreference = false ∧
        preferredClass request.preferredQueue = some .compute ∧
        (∃ other ∈ graphicsCapableCompute, other.queueClass = .compute ∧
          hasCapabilities other.capabilities request.requiredCapabilities = true) ∧
        assignment.queueClass ≠ .compute := by
  refine ⟨{ assignments := [_], generation := 1 }, rfl, _, List.mem_singleton_self _, ?_⟩
  decide

end NwbLot.TaskGraph
