import NwbLot.Library.ClosedPaths
import NwbLot.TaskGraph.OrderStability

/-!
# Cycle diagnostics

When source removal gets stuck, `BuildTopologicalOrder` searches depth first for a cycle and
reports the stack from the first repeated task on.  The search follows edges only, so what it
reports is a cycle, and it starts from every task, so it reports one whenever there is one.
-/

namespace NwbLot.TaskGraph

open Relation ClosedPaths

variable {graph : GpuTaskGraph}

/-! ## The depth-first search -/

section Search

variable {follows : ℕ → ℕ → Prop} {included : List GpuTaskDependencyEdge} {n fuel taskIndex : ℕ}
  {search before after : CycleSearch}

/-- Between two visits: the stack is a simple path of its marked tasks, and no finished task lies
on a cycle. -/
structure SearchInv (follows : ℕ → ℕ → Prop) (n : ℕ) (search : CycleSearch) : Prop where
  nodup : search.visitStack.Nodup
  lt : ∀ v ∈ search.visitStack, v < n
  onStack_iff : ∀ v, search.visitState v = .onStack ↔ v ∈ search.visitStack
  chain : search.visitStack.IsChain follows
  acyclic : ∀ v, search.visitState v = .done → ¬TransGen follows v v
  pending : search.found = none

/-- A visit that closes no cycle leaves the stack and the marks it found. -/
structure Backtracked (follows : ℕ → ℕ → Prop) (n : ℕ) (before after : CycleSearch) : Prop where
  inv : SearchInv follows n after
  stack : after.visitStack = before.visitStack
  keeps : ∀ v, before.visitState v ≠ .unvisited → after.visitState v = before.visitState v

/-- The search is over and what it found is a cycle. -/
def FoundCycle (follows : ℕ → ℕ → Prop) (search : CycleSearch) : Prop :=
  ∃ path, search.found = some path ∧ ClosedPath follows path

/-- What `visit` may be called on: a new task behind the end of the stack, with fuel for the rest
of the tasks. -/
structure Visitable (follows : ℕ → ℕ → Prop) (n fuel taskIndex : ℕ) (search : CycleSearch) :
    Prop where
  inv : SearchInv follows n search
  unvisited : search.visitState taskIndex = .unvisited
  lt : taskIndex < n
  behind : ∀ last ∈ search.visitStack.getLast?, follows last taskIndex
  fuel : n ≤ fuel + search.visitStack.length

/-- What `visit` does. -/
def VisitSpec (follows : ℕ → ℕ → Prop) (n fuel : ℕ) (visit : ℕ → CycleSearch → CycleSearch) :
    Prop :=
  ∀ taskIndex search, Visitable follows n fuel taskIndex search →
    FoundCycle follows (visit taskIndex search) ∨
      (Backtracked follows n search (visit taskIndex search) ∧
        (visit taskIndex search).visitState taskIndex = .done)

lemma Backtracked.refl (h : SearchInv follows n search) : Backtracked follows n search search :=
  ⟨h, rfl, fun _ _ => rfl⟩

lemma Backtracked.trans {middle : CycleSearch} (h : Backtracked follows n before middle)
    (hnext : Backtracked follows n middle after) : Backtracked follows n before after where
  inv := hnext.inv
  stack := hnext.stack.trans h.stack
  keeps v hv := by
    have hmiddle := h.keeps v hv
    rw [hnext.keeps v (by rwa [hmiddle]), hmiddle]

lemma Visitable.fresh (h : Visitable follows n fuel taskIndex search) :
    taskIndex ∉ search.visitStack := by
  intro hmem
  have honStack := (h.inv.onStack_iff taskIndex).2 hmem
  rw [h.unvisited] at honStack
  cases honStack

/-- A stack without a repeated task is not longer than the number of tasks. -/
lemma Visitable.fuel_pos (h : Visitable follows n fuel taskIndex search) : 0 < fuel := by
  have hsubset : taskIndex :: search.visitStack ⊆ List.range n := by
    intro v hv
    rcases List.mem_cons.1 hv with rfl | hv
    · exact List.mem_range.2 h.lt
    · exact List.mem_range.2 (h.inv.lt v hv)
  have hle := (List.subperm_of_subset (List.nodup_cons.2 ⟨h.fresh, h.inv.nodup⟩) hsubset).length_le
  have hfuel := h.fuel
  rw [List.length_cons, List.length_range] at hle
  omega

/-- The edge loop of a task on top of the stack. -/
lemma visitEdges_spec {visit : ℕ → CycleSearch → CycleSearch}
    (hvisit : VisitSpec follows n fuel visit) (edges : List GpuTaskDependencyEdge)
    (hedges : ∀ edge ∈ edges, follows taskIndex edge.consumer.index ∧ edge.consumer.index < n)
    (hinv : SearchInv follows n search) (htop : search.visitStack.getLast? = some taskIndex)
    (hfuel : n ≤ fuel + search.visitStack.length) :
    FoundCycle follows (visitEdges visit edges search) ∨
      (Backtracked follows n search (visitEdges visit edges search) ∧
        ∀ edge ∈ edges,
          (visitEdges visit edges search).visitState edge.consumer.index = .done) := by
  induction edges generalizing search with
  | nil => exact Or.inr ⟨.refl hinv, by simp⟩
  | cons edge rest ih =>
    have hrest := fun other hmem => hedges other (List.mem_cons_of_mem edge hmem)
    obtain ⟨hfollows, hlt⟩ := hedges edge List.mem_cons_self
    have hbehind : ∀ last ∈ search.visitStack.getLast?, follows last edge.consumer.index := by
      intro last hlast
      obtain rfl : taskIndex = last := by simpa [htop] using hlast
      exact hfollows
    -- the loop over the rest, once the consumer is done
    have hcontinue : ∀ next : CycleSearch, Backtracked follows n search next →
        next.visitState edge.consumer.index = .done →
        FoundCycle follows (visitEdges visit rest next) ∨
          (Backtracked follows n search (visitEdges visit rest next) ∧
            ∀ other ∈ edge :: rest,
              (visitEdges visit rest next).visitState other.consumer.index = .done) := by
      intro next hnext hdone
      refine (ih hrest hnext.inv (hnext.stack ▸ htop) (hnext.stack ▸ hfuel)).imp_right ?_
      rintro ⟨hleft, hdoneRest⟩
      refine ⟨hnext.trans hleft, fun other hmem => ?_⟩
      rcases List.mem_cons.1 hmem with rfl | hmem
      · rw [hleft.keeps _ (by simp [hdone]), hdone]
      · exact hdoneRest other hmem
    rw [visitEdges]
    cases hstate : search.visitState edge.consumer.index with
    | onStack =>
      have honStack := (hinv.onStack_iff _).1 hstate
      exact Or.inl ⟨_, rfl, closedPath_of_step hinv.nodup hinv.chain hbehind honStack⟩
    | unvisited =>
      rcases hvisit _ _ ⟨hinv, hstate, hlt, hbehind, hfuel⟩ with hfound | ⟨hleft, hdone⟩
      · obtain ⟨path, hpath, -⟩ := id hfound
        simp only [hpath, Option.isSome_some, if_true]
        exact Or.inl hfound
      · simp only [hleft.inv.pending, Option.isSome_none, Bool.false_eq_true, if_false]
        exact hcontinue _ hleft hdone
    | done => exact hcontinue search (.refl hinv) hstate

/-- A task all of whose successors are finished lies on no cycle. -/
lemma not_cycle_of_successors {v : ℕ} (h : ∀ w, follows v w → ¬TransGen follows w w) :
    ¬TransGen follows v v := by
  intro hcycle
  obtain ⟨w, hstep, hback⟩ := TransGen.head'_iff.1 hcycle
  exact h w hstep (TransGen.tail' hback hstep)

/-- Pushing a new task. -/
lemma Visitable.entered (h : Visitable follows n fuel taskIndex search) :
    SearchInv follows n
      ⟨Function.update search.visitState taskIndex .onStack, search.visitStack ++ [taskIndex],
        search.found⟩ where
  nodup := by
    refine List.nodup_append.2 ⟨h.inv.nodup, List.nodup_singleton _, ?_⟩
    intro a ha b hb hab
    rw [List.mem_singleton] at hb
    exact h.fresh (hb ▸ hab ▸ ha)
  lt v hv := by
    rcases List.mem_append.1 hv with hold | hnew
    · exact h.inv.lt v hold
    · exact List.mem_singleton.1 hnew ▸ h.lt
  onStack_iff v := by
    by_cases hv : v = taskIndex
    · simp [hv]
    · simp [hv, h.inv.onStack_iff v]
  chain := by
    refine h.inv.chain.append (List.isChain_singleton taskIndex) ?_
    intro last hlast next hnext
    obtain rfl : taskIndex = next := by simpa using hnext
    exact h.behind last hlast
  acyclic v hdone := by
    by_cases hv : v = taskIndex
    · simp [hv] at hdone
    · exact h.inv.acyclic v (by simpa [hv] using hdone)
  pending := h.inv.pending

/-- Popping a task whose successors are finished. -/
lemma Visitable.popped (h : Visitable follows n fuel taskIndex search)
    (hleft : Backtracked follows n
      ⟨Function.update search.visitState taskIndex .onStack, search.visitStack ++ [taskIndex],
        search.found⟩ after)
    (hdone : ∀ w, follows taskIndex w → after.visitState w = .done) :
    Backtracked follows n search
      ⟨Function.update after.visitState taskIndex .done, after.visitStack.dropLast, none⟩ := by
  have hstack : after.visitStack.dropLast = search.visitStack := by
    rw [hleft.stack]
    exact List.dropLast_concat
  refine ⟨⟨?_, ?_, ?_, ?_, ?_, rfl⟩, hstack, ?_⟩
  · rw [hstack]
    exact h.inv.nodup
  · rw [hstack]
    exact h.inv.lt
  · intro v
    rw [hstack]
    by_cases hv : v = taskIndex
    · simp [hv, h.fresh]
    · simp [hv, hleft.inv.onStack_iff v, hleft.stack]
  · rw [hstack]
    exact h.inv.chain
  · intro v hv
    by_cases htask : v = taskIndex
    · rw [htask]
      exact not_cycle_of_successors fun w hw => hleft.inv.acyclic w (hdone w hw)
    · exact hleft.inv.acyclic v (by simpa [htask] using hv)
  · intro v hv
    have hother : v ≠ taskIndex := fun heq => hv (heq ▸ h.unvisited)
    have hkeeps := hleft.keeps v (by simpa [hother] using hv)
    simpa [hother] using hkeeps

/-- `visit` closes a cycle or finishes the task. -/
lemma visit_spec
    (hincluded : ∀ edge ∈ included,
      follows edge.producer.index edge.consumer.index ∧ edge.consumer.index < n)
    (hfollows : ∀ v w, follows v w →
      ∃ edge ∈ included, edge.producer.index = v ∧ edge.consumer.index = w) :
    VisitSpec follows n fuel (visit included fuel) := by
  induction fuel with
  | zero => exact fun taskIndex search h => absurd h.fuel_pos (lt_irrefl 0)
  | succ fuel ih =>
    intro taskIndex search h
    have hout : ∀ edge ∈ included.filter fun edge => edge.producer.index == taskIndex,
        follows taskIndex edge.consumer.index ∧ edge.consumer.index < n := by
      intro edge hmem
      obtain ⟨hmem, hproducer⟩ := List.mem_filter.1 hmem
      have hedge := hincluded edge hmem
      rwa [beq_iff_eq.1 hproducer] at hedge
    have hroom : n ≤ fuel + (search.visitStack ++ [taskIndex]).length := by
      have := h.fuel
      rw [List.length_append, List.length_singleton]
      omega
    rw [visit]
    rcases visitEdges_spec ih _ hout h.entered (by simp) hroom with hfound | ⟨hleft, hdone⟩
    · obtain ⟨path, hpath, -⟩ := id hfound
      simp only [hpath, Option.isSome_some, if_true]
      exact Or.inl hfound
    · simp only [hleft.inv.pending, Option.isSome_none, Bool.false_eq_true, if_false]
      refine Or.inr ⟨h.popped hleft fun w hw => ?_, by simp⟩
      obtain ⟨edge, hmem, hproducer, rfl⟩ := hfollows taskIndex w hw
      exact hdone edge (List.mem_filter.2 ⟨hmem, beq_iff_eq.2 hproducer⟩)

/-- One turn of the loop over the start tasks. -/
def visitFrom (visit : ℕ → CycleSearch → CycleSearch) (search : CycleSearch) (index : ℕ) :
    CycleSearch :=
  if search.found.isNone && search.visitState index == .unvisited then visit index search
  else search

lemma visitFrom_of_found {visit : ℕ → CycleSearch → CycleSearch} (h : FoundCycle follows search)
    (index : ℕ) : visitFrom visit search index = search := by
  obtain ⟨path, hpath, -⟩ := h
  simp [visitFrom, hpath]

lemma visitFrom_spec {visit : ℕ → CycleSearch → CycleSearch} (hvisit : VisitSpec follows n n visit)
    {index : ℕ} (hindex : index < n) (hinv : SearchInv follows n search)
    (hempty : search.visitStack = []) :
    FoundCycle follows (visitFrom visit search index) ∨
      (Backtracked follows n search (visitFrom visit search index) ∧
        (visitFrom visit search index).visitState index = .done) := by
  cases hstate : search.visitState index with
  | unvisited =>
    have hturn : visitFrom visit search index = visit index search := by
      simp [visitFrom, hinv.pending, hstate]
    rw [hturn]
    exact hvisit index search ⟨hinv, hstate, hindex, by simp [hempty], by simp⟩
  | onStack =>
    have hmem := (hinv.onStack_iff index).1 hstate
    rw [hempty] at hmem
    cases hmem
  | done =>
    have hturn : visitFrom visit search index = search := by simp [visitFrom, hstate]
    rw [hturn]
    exact Or.inr ⟨.refl hinv, hstate⟩

/-- The loop over the start tasks ends with a cycle or with every task finished. -/
lemma visitAll_spec {visit : ℕ → CycleSearch → CycleSearch} (hvisit : VisitSpec follows n n visit)
    (indices : List ℕ) (hindices : ∀ index ∈ indices, index < n) (hinv : SearchInv follows n search)
    (hempty : search.visitStack = []) :
    FoundCycle follows (indices.foldl (visitFrom visit) search) ∨
      (Backtracked follows n search (indices.foldl (visitFrom visit) search) ∧
        ∀ index ∈ indices,
          (indices.foldl (visitFrom visit) search).visitState index = .done) := by
  induction indices generalizing search with
  | nil => exact Or.inr ⟨.refl hinv, by simp⟩
  | cons index rest ih =>
    rw [List.foldl_cons]
    rcases visitFrom_spec hvisit (hindices index List.mem_cons_self) hinv hempty with
      hfound | ⟨hnext, hdone⟩
    · have hstays : rest.foldl (visitFrom visit) (visitFrom visit search index)
          = visitFrom visit search index :=
        List.foldl_fixed' (visitFrom_of_found hfound) rest
      rw [hstays]
      exact Or.inl hfound
    · refine (ih (fun other hmem => hindices other (List.mem_cons_of_mem index hmem)) hnext.inv
        (hnext.stack.trans hempty)).imp_right ?_
      rintro ⟨hleft, hdoneRest⟩
      refine ⟨hnext.trans hleft, fun other hmem => ?_⟩
      rcases List.mem_cons.1 hmem with rfl | hmem
      · rw [hleft.keeps _ (by simp [hdone]), hdone]
      · exact hdoneRest other hmem

end Search

/-! ## The reported cycle -/

section Reported

variable {edges : List GpuTaskDependencyEdge}

/-- Every edge the ordering may follow joins tasks of the graph. -/
def IndicesInside (graph : GpuTaskGraph) (edges : List GpuTaskDependencyEdge) : Prop :=
  ∀ edge ∈ edges, edge.producer.index < graph.taskCount ∧ edge.consumer.index < graph.taskCount

/-- The index pairs, as a relation. -/
def FollowsPair (edges : List GpuTaskDependencyEdge) (explicitOnly : Bool) (v w : ℕ) : Prop :=
  (v, w) ∈ indexPairs edges explicitOnly

lemma followsPair_iff {explicitOnly : Bool} {v w : ℕ} :
    FollowsPair edges explicitOnly v w ↔
      ∃ edge ∈ edges.filter (includesEdge · explicitOnly),
        edge.producer.index = v ∧ edge.consumer.index = w := by
  simp [FollowsPair, indexPairs]

/-- Each consecutive pair of the path has its first included edge. -/
lemma cycleEdgesOf_spec {explicitOnly : Bool} {path : List ℕ}
    (hpath : path.IsChain (FollowsPair edges explicitOnly)) :
    (cycleEdgesOf (edges.filter (includesEdge · explicitOnly)) path).map
        (fun edge => (edge.producer.index, edge.consumer.index)) = path.zip path.tail ∧
      cycleEdgesOf (edges.filter (includesEdge · explicitOnly)) path
        ⊆ edges.filter (includesEdge · explicitOnly) := by
  have hpairs : ∀ pair ∈ path.zip path.tail, ∃ edge,
      (edges.filter (includesEdge · explicitOnly)).find? (fun edge =>
        edge.producer.index == pair.1 && edge.consumer.index == pair.2) = some edge := by
    intro pair hpair
    obtain ⟨edge, hmem, hproducer, hconsumer⟩ :=
      followsPair_iff.1 (rel_of_mem_zip_tail hpath hpair)
    refine Option.isSome_iff_exists.1 (List.find?_isSome.2 ⟨edge, hmem, ?_⟩)
    simp [hproducer, hconsumer]
  rw [cycleEdgesOf]
  generalize path.zip path.tail = pairs at hpairs
  induction pairs with
  | nil => simp
  | cons pair rest ih =>
    obtain ⟨edge, hedge⟩ := hpairs pair List.mem_cons_self
    obtain ⟨hmap, hsubset⟩ := ih fun other hmem => hpairs other (List.mem_cons_of_mem pair hmem)
    have hends := List.find?_some hedge
    simp only [Bool.and_eq_true, beq_iff_eq] at hends
    simp only [List.filterMap_cons, hedge, List.map_cons, hmap, hends]
    exact ⟨trivial, List.cons_subset.2 ⟨List.mem_of_find?_eq_some hedge, hsubset⟩⟩

/-- What `findCycle` reports of edges with a cycle. -/
lemma findCycle_spec {explicitOnly : Bool} (hinside : IndicesInside graph edges)
    (hcycle : ¬KahnOrder.Acyclic (indexPairs edges explicitOnly)) :
    ∃ path, ClosedPath (FollowsPair edges explicitOnly) path ∧
      findCycle graph edges explicitOnly =
        { path := path.map graph.taskIdAt
          edges := cycleEdgesOf (edges.filter (includesEdge · explicitOnly)) path } := by
  have hincluded : ∀ edge ∈ edges.filter (includesEdge · explicitOnly),
      FollowsPair edges explicitOnly edge.producer.index edge.consumer.index
        ∧ edge.consumer.index < graph.taskCount :=
    fun edge hmem => ⟨followsPair_iff.2 ⟨edge, hmem, rfl, rfl⟩,
      (hinside edge (List.mem_filter.1 hmem).1).2⟩
  have hinitial : SearchInv (FollowsPair edges explicitOnly) graph.taskCount
      { visitState := fun _ => .unvisited, visitStack := [], found := none } :=
    ⟨List.nodup_nil, by simp, by simp, List.isChain_nil, by simp, rfl⟩
  have hvisit : VisitSpec (FollowsPair edges explicitOnly) graph.taskCount graph.taskCount
      (visit (edges.filter (includesEdge · explicitOnly)) graph.taskCount) :=
    visit_spec hincluded fun v w h => followsPair_iff.1 h
  rcases visitAll_spec hvisit (List.range graph.taskCount) (fun _ => List.mem_range.1) hinitial rfl
    with ⟨path, hpath, hclosed⟩ | ⟨hleft, hdone⟩
  · refine ⟨path, hclosed, ?_⟩
    simp only [findCycle]
    split
    · next hnone => exact absurd (hpath.symm.trans hnone) (Option.some_ne_none path)
    · next other hother =>
        obtain rfl := Option.some.inj (hother.symm.trans hpath)
        rfl
  · -- every task is finished, so none lies on a cycle
    refine absurd (fun v hv => ?_) hcycle
    obtain ⟨w, hstep, -⟩ := TransGen.head'_iff.1 hv
    obtain ⟨edge, hmem, rfl, -⟩ := followsPair_iff.1 hstep
    have hlt := (hinside edge (List.mem_filter.1 hmem).1).1
    exact hleft.inv.acyclic _ (hdone _ (List.mem_range.2 hlt)) hv

/-- What a failed ordering reports of edges between tasks of the graph: a closed simple path along
included edges, and those edges. -/
lemma buildTopologicalOrder_error {explicitOnly : Bool} {cycle : GpuTaskGraphCycle}
    (hvalid : EdgesValid graph edges)
    (h : buildTopologicalOrder graph edges explicitOnly = .error cycle) :
    ClosedPath (EdgeRel (edges.filter (includesEdge · explicitOnly))) cycle.path ∧
      cycle.edges.map (fun edge => (edge.producer, edge.consumer))
        = cycle.path.zip cycle.path.tail ∧
      cycle.edges ⊆ edges.filter (includesEdge · explicitOnly) := by
  have hends : ∀ edge ∈ edges, graph.taskIdAt edge.producer.index = edge.producer
      ∧ graph.taskIdAt edge.consumer.index = edge.consumer := by
    intro edge hmem
    obtain ⟨hproducer, hconsumer⟩ := hvalid _ _ ⟨edge, hmem, rfl, rfl⟩
    exact ⟨(graph.eq_taskIdAt_of_validTask hproducer).symm,
      (graph.eq_taskIdAt_of_validTask hconsumer).symm⟩
  have hinside : IndicesInside graph edges := by
    intro edge hmem
    obtain ⟨hproducer, hconsumer⟩ := hvalid _ _ ⟨edge, hmem, rfl, rfl⟩
    exact ⟨(graph.validTask_iff.1 hproducer).2.2, (graph.validTask_iff.1 hconsumer).2.2⟩
  have hstuck : ¬KahnOrder.Acyclic (indexPairs edges explicitOnly) := by
    intro hacyclic
    have hsource : ∀ pair ∈ indexPairs edges explicitOnly, pair.1 < graph.taskCount := by
      intro pair hpair
      obtain ⟨edge, hedge, rfl⟩ := List.mem_map.1 hpair
      exact (hinside edge (List.mem_filter.1 hedge).1).1
    obtain ⟨indices, hindices⟩ := KahnOrder.exists_stableOrder hacyclic hsource
    rw [buildTopologicalOrder, hindices] at h
    cases h
  obtain ⟨path, hclosed, hreport⟩ := findCycle_spec hinside hstuck
  have hcycle : cycle = findCycle graph edges explicitOnly := by
    rw [buildTopologicalOrder] at h
    split at h
    · cases h
    · exact (Except.error.inj h).symm
  obtain ⟨-, -, -, -, hchain⟩ := id hclosed
  obtain ⟨hmap, hsubset⟩ := cycleEdgesOf_spec hchain
  rw [hcycle, hreport]
  refine ⟨?_, ?_, hsubset⟩
  · refine hclosed.map graph.taskIdAt_injective fun v w hstep => ?_
    obtain ⟨edge, hmem, rfl, rfl⟩ := followsPair_iff.1 hstep
    obtain ⟨hproducer, hconsumer⟩ := hends edge (List.mem_filter.1 hmem).1
    exact ⟨edge, hmem, hproducer.symm, hconsumer.symm⟩
  · have htasks : (cycleEdgesOf (edges.filter (includesEdge · explicitOnly)) path).map
        (fun edge => (edge.producer, edge.consumer))
          = ((cycleEdgesOf (edges.filter (includesEdge · explicitOnly)) path).map
            fun edge => (edge.producer.index, edge.consumer.index)).map
              (Prod.map graph.taskIdAt graph.taskIdAt) := by
      rw [List.map_map]
      refine List.map_congr_left fun edge hmem => ?_
      obtain ⟨hproducer, hconsumer⟩ := hends edge (List.mem_filter.1 (hsubset hmem)).1
      simp [hproducer, hconsumer]
    rw [htasks, hmap, ← List.zip_map, List.map_tail]

end Reported

/-! ## Explicit edges -/

/-- An explicit edge of the analysis leads from the producer to the consumer. -/
def ExplicitEdge (analysis : GpuTaskGraphAnalysis) (producer consumer : GpuTaskId) : Prop :=
  ∃ edge ∈ analysis.edges,
    edge.hazard = .explicit ∧ edge.producer = producer ∧ edge.consumer = consumer

/-- Merging an inferred edge leaves the explicit edges as they are. -/
lemma mem_mergeSchedulingEdge_explicit {edge other : GpuTaskDependencyEdge}
    (hinferred : edge.hazard ≠ .explicit) (hother : other.hazard = .explicit)
    {edges : List GpuTaskDependencyEdge} :
    other ∈ mergeSchedulingEdge edge edges ↔ other ∈ edges := by
  have hne : other ≠ edge := fun heq => hinferred (heq ▸ hother)
  induction edges with
  | nil => simp [mergeSchedulingEdge, hne]
  | cons existing rest ih =>
    rw [mergeSchedulingEdge]
    split
    · rw [List.mem_cons, List.mem_cons]
      exact or_congr Iff.rfl ih
    · simp [hinferred]

/-- Both tables have the same explicit edges. -/
def SameExplicit (before after : EdgeTable) : Prop :=
  ∀ edge : GpuTaskDependencyEdge, edge.hazard = .explicit →
    (edge ∈ after.edges ↔ edge ∈ before.edges)

lemma SameExplicit.trans {before middle after : EdgeTable} (h : SameExplicit before middle)
    (hnext : SameExplicit middle after) : SameExplicit before after :=
  fun edge hexplicit => (hnext edge hexplicit).trans (h edge hexplicit)

lemma sameExplicit_appendInferredEdge {edge : GpuTaskDependencyEdge}
    (hinferred : edge.hazard ≠ .explicit) (table : EdgeTable) :
    SameExplicit table (table.appendInferredEdge edge) := by
  intro other hother
  rw [EdgeTable.appendInferredEdge]
  split
  · exact Iff.rfl
  · exact mem_mergeSchedulingEdge_explicit hinferred hother

lemma sameExplicit_appendHazardEdges (type : GpuGraphResourceType) (task : GpuTaskId)
    (use : GpuTaskResourceUse) {hazard : GpuTaskHazardType} (hinferred : hazard ≠ .explicit)
    (accesses : List TrackedResourceAccess) (table : EdgeTable) :
    SameExplicit table (appendHazardEdges type task use hazard accesses table) := by
  rw [appendHazardEdges]
  induction accesses.filter (·.overlaps type task use) generalizing table with
  | nil => exact fun _ _ => Iff.rfl
  | cons access rest ih => exact (sameExplicit_appendInferredEdge hinferred table).trans (ih _)

lemma sameExplicit_inferUseHazards (type : GpuGraphResourceType) (task : GpuTaskId)
    (use : GpuTaskResourceUse) (state : HazardState) :
    SameExplicit state.table (inferUseHazards type task use state).table := by
  have hread : SameExplicit state.table
      (if isReadAccess use.access then
        appendHazardEdges type task use .readAfterWrite state.writers state.table
      else state.table) := by
    split
    · exact sameExplicit_appendHazardEdges type task use (by decide) _ _
    · exact fun _ _ => Iff.rfl
  simp only [inferUseHazards]
  split
  · exact (hread.trans (sameExplicit_appendHazardEdges type task use (by decide) _ _)).trans
      (sameExplicit_appendHazardEdges type task use (by decide) _ _)
  · split
    · exact hread
    · exact hread

/-- The hazard loop adds no explicit edge and removes none. -/
lemma sameExplicit_inferHazards (order : List GpuTaskId) (table : EdgeTable) :
    SameExplicit table (inferHazards graph order table).table := by
  rw [inferHazards_eq_foldl]
  suffices h : ∀ (accesses : List DeclaredAccess) (state : HazardState),
      SameExplicit state.table (accesses.foldl (inferAccess graph) state).table from
    h _ { table }
  intro accesses
  induction accesses with
  | nil => exact fun _ _ _ => Iff.rfl
  | cons access rest ih =>
    exact fun state => (sameExplicit_inferUseHazards _ _ _ state).trans (ih _)

lemma edgeRel_declareTaskDependencies (dependencies : List GpuTaskId) (consumer : GpuTaskId)
    (table : EdgeTable) (p c : GpuTaskId) :
    EdgeRel (dependencies.foldl (fun table dependency => table.appendSchedulingEdge
      { producer := dependency, consumer, hazard := .explicit }) table).edges p c ↔
        EdgeRel table.edges p c ∨ (c = consumer ∧ p ∈ dependencies) := by
  induction dependencies generalizing table with
  | nil => simp
  | cons dependency rest ih =>
    rw [List.foldl_cons, ih, EdgeTable.appendSchedulingEdge, edgeRel_mergeSchedulingEdge,
      List.mem_cons]
    constructor
    · rintro ((hold | ⟨rfl, rfl⟩) | ⟨rfl, hrest⟩)
      · exact Or.inl hold
      · exact Or.inr ⟨rfl, Or.inl rfl⟩
      · exact Or.inr ⟨rfl, Or.inr hrest⟩
    · rintro (hold | ⟨rfl, rfl | hrest⟩)
      · exact Or.inl (Or.inl hold)
      · exact Or.inl (Or.inr ⟨rfl, rfl⟩)
      · exact Or.inr ⟨rfl, hrest⟩

/-- The declared dependencies are the edges the analysis starts from. -/
lemma edgeRel_declareDependencies (p c : GpuTaskId) :
    EdgeRel (declareDependencies graph).edges p c ↔ DeclaresDependency graph p c := by
  have hrun : ∀ (indices : List ℕ) (table : EdgeTable),
      EdgeRel (indices.foldl
        (fun table index => declareTaskDependencies table (graph.taskAt index)) table).edges p c ↔
          EdgeRel table.edges p c ∨
            ∃ index ∈ indices,
              c = graph.taskIdAt index ∧ p ∈ (graph.taskAt index).dependencies := by
    intro indices
    induction indices with
    | nil => simp
    | cons index rest ih =>
      intro table
      rw [List.foldl_cons, ih, declareTaskDependencies, edgeRel_declareTaskDependencies, or_assoc]
      simp
  rw [declareDependencies, hrun]
  constructor
  · rintro (⟨edge, hmem, -⟩ | ⟨index, hindex, rfl, hmem⟩)
    · cases hmem
    · exact ⟨graph.validTask_taskIdAt (List.mem_range.1 hindex), hmem⟩
  · rintro ⟨hconsumer, hmem⟩
    exact Or.inr ⟨c.index, List.mem_range.2 (graph.validTask_iff.1 hconsumer).2.2,
      graph.eq_taskIdAt_of_validTask hconsumer, hmem⟩

/-- The explicit edges of any table with the declared explicit edges. -/
lemma explicitEdge_iff {analysis : GpuTaskGraphAnalysis} {table : EdgeTable}
    (hedges : analysis.edges = table.edges) (hsame : SameExplicit (declareDependencies graph) table)
    (p c : GpuTaskId) : ExplicitEdge analysis p c ↔ DeclaresDependency graph p c := by
  rw [← edgeRel_declareDependencies, ExplicitEdge, hedges]
  constructor
  · rintro ⟨edge, hmem, hexplicit, hends⟩
    exact ⟨edge, (hsame edge hexplicit).1 hmem, hends⟩
  · rintro ⟨edge, hmem, hends⟩
    have hexplicit := (declaresEdges_declareDependencies graph edge hmem).1
    exact ⟨edge, (hsame edge hexplicit).2 hmem, hexplicit, hends⟩

/-- Declared dependencies with a stable order are acyclic. -/
lemma acyclicDependencies_of_order (hdeclared : validateDeclarations graph = none)
    {order : List GpuTaskId}
    (h : buildTopologicalOrder graph (declareDependencies graph).edges true = .ok order) :
    AcyclicDependencies graph := by
  obtain ⟨indices, hindices, -⟩ := buildTopologicalOrder_eq_ok h
  have hvalid := edgesValid_declareDependencies hdeclared
  have htarget : ∀ pair ∈ indexPairs (declareDependencies graph).edges true,
      pair.2 < graph.taskCount := by
    intro pair hpair
    obtain ⟨edge, hedge, rfl⟩ := List.mem_map.1 hpair
    obtain ⟨-, hconsumer⟩ := hvalid _ _ ⟨edge, (List.mem_filter.1 hedge).1, rfl, rfl⟩
    exact (graph.validTask_iff.1 hconsumer).2.2
  intro task hcycle
  refine KahnOrder.acyclic_of_stableOrder hindices htarget task.index
    (hcycle.lift (fun id : GpuTaskId => id.index) fun p c hdeclares => ?_)
  exact mem_indexPairs_declared ((edgeRel_declareDependencies p c).2 hdeclares)

/-! ## The diagnostic -/

lemma status_cycleDiagnostic (cycle : GpuTaskGraphCycle) :
    (cycleDiagnostic cycle).status = .cycle := by
  rw [cycleDiagnostic]
  split
  · rfl
  · rfl

/-- The check reports no cycle. -/
def ReportsNoCycle (check : Option GpuTaskGraphAnalysisDiagnostic) : Prop :=
  ∀ diagnostic, check = some diagnostic → diagnostic.status ≠ .cycle

lemma ReportsNoCycle.orElse {first second : Option GpuTaskGraphAnalysisDiagnostic}
    (hfirst : ReportsNoCycle first) (hsecond : ReportsNoCycle second) :
    ReportsNoCycle (first <|> second) := by
  intro diagnostic h
  simp only [Option.orElse_eq_orElse, Option.orElse_eq_or, Option.or_eq_some_iff] at h
  rcases h with h | ⟨-, h⟩
  · exact hfirst diagnostic h
  · exact hsecond diagnostic h

lemma ReportsNoCycle.findSome {α : Type} {check : α → Option GpuTaskGraphAnalysisDiagnostic}
    (h : ∀ item, ReportsNoCycle (check item)) (items : List α) :
    ReportsNoCycle (items.findSome? check) := by
  intro diagnostic hfound
  obtain ⟨item, -, hitem⟩ := List.exists_of_findSome?_eq_some hfound
  exact h item diagnostic hitem

lemma ReportsNoCycle.ite {c : Prop} [Decidable c]
    {first second : Option GpuTaskGraphAnalysisDiagnostic}
    (hfirst : ReportsNoCycle first) (hsecond : ReportsNoCycle second) :
    ReportsNoCycle (if c then first else second) := by
  split
  · exact hfirst
  · exact hsecond

lemma reportsNoCycle_none : ReportsNoCycle none := fun _ h => nomatch h

lemma reportsNoCycle_some {diagnostic : GpuTaskGraphAnalysisDiagnostic}
    (h : diagnostic.status ≠ .cycle) : ReportsNoCycle (some diagnostic) := by
  rintro _ ⟨⟩
  exact h

lemma reportsNoCycle_validateTask (task : GpuTaskGraphTaskView) :
    ReportsNoCycle (validateTask graph task) := by
  have huse : ∀ use, ReportsNoCycle (validateResourceUse graph task.id use) := fun use =>
    .ite (reportsNoCycle_some nofun) (.ite (reportsNoCycle_some nofun) reportsNoCycle_none)
  refine .ite (reportsNoCycle_some nofun) (.orElse (.findSome (fun dependency => ?_) _)
    (.orElse (.findSome (fun completion => ?_) _)
      (.orElse (.findSome (fun states => ?_) _) (.findSome huse _))))
  · exact .ite reportsNoCycle_none (reportsNoCycle_some nofun)
  · exact .ite reportsNoCycle_none (reportsNoCycle_some nofun)
  · exact .ite reportsNoCycle_none (reportsNoCycle_some nofun)

lemma reportsNoCycle_validateDeclarations : ReportsNoCycle (validateDeclarations graph) := by
  refine .orElse (.findSome (fun index => ?_) _) (.orElse (.findSome (fun identity => ?_) _)
    (.findSome (fun index => reportsNoCycle_validateTask _) _))
  · exact .ite (reportsNoCycle_some nofun) reportsNoCycle_none
  · exact .ite (reportsNoCycle_some nofun) reportsNoCycle_none

/-- `analyze` refuses the declarations, stops at a cycle of the explicit edges, or gets past both
orders. -/
lemma analyze_cases (graph : GpuTaskGraph) :
    (∃ diagnostic, validateDeclarations graph = some diagnostic ∧
      analyze graph = { diagnostic }) ∨
    (validateDeclarations graph = none ∧ ∃ cycle,
      buildTopologicalOrder graph (declareDependencies graph).edges true = .error cycle ∧
      analyze graph = { (declareDependencies graph).analysis graph with
        cyclePath := cycle.path, cycleEdges := cycle.edges, diagnostic := cycleDiagnostic cycle }) ∨
    (validateDeclarations graph = none ∧ ∃ order,
      buildTopologicalOrder graph (declareDependencies graph).edges true = .ok order ∧
      (analyze graph).edges
        = (inferHazards graph order (declareDependencies graph)).table.edges ∧
      (analyze graph).diagnostic.status ≠ .cycle) := by
  cases hdeclared : validateDeclarations graph with
  | some diagnostic => exact Or.inl ⟨diagnostic, rfl, by simp [analyze, hdeclared]⟩
  | none =>
    cases hexplicit : buildTopologicalOrder graph (declareDependencies graph).edges true with
    | error cycle =>
      exact Or.inr (Or.inl ⟨rfl, cycle, rfl, by simp [analyze, hdeclared, hexplicit]⟩)
    | ok order =>
      have hall := buildTopologicalOrder_all hexplicit
      refine Or.inr (Or.inr ⟨rfl, order, rfl, ?_⟩)
      cases hpresent : graph.presentEndpoint.bind (validatePresentEndpoint graph
          (inferHazards graph order (declareDependencies graph)).table.edges order) with
      | none => simp [analyze, hdeclared, hexplicit, hall, hpresent, EdgeTable.analysis]
      | some diagnostic =>
        obtain ⟨endpoint, -, hrefused⟩ := Option.bind_eq_some_iff.1 hpresent
        simp [analyze, hdeclared, hexplicit, hall, hpresent, EdgeTable.analysis,
          status_validatePresentEndpoint hrefused]

/-- The analysis of every graph reports a cycle exactly when its explicit edges, which are the
declared dependencies once the declarations are accepted, contain one; the reported path is then
closed, simple but for its ends and along explicit edges, and the reported edges are the explicit
edges between its consecutive tasks. -/
theorem cycleDiagnostics_exact (graph : GpuTaskGraph) :
    ((analyze graph).diagnostic.status = .cycle ↔
      ∃ task, TransGen (ExplicitEdge (analyze graph)) task task) ∧
    (validateDeclarations graph = none →
      ∀ p c, ExplicitEdge (analyze graph) p c ↔ DeclaresDependency graph p c) ∧
    ((analyze graph).diagnostic.status = .cycle →
      ClosedPath (ExplicitEdge (analyze graph)) (analyze graph).cyclePath ∧
      (analyze graph).cycleEdges ≠ [] ∧
      (analyze graph).cycleEdges.map (fun edge => (edge.producer, edge.consumer))
        = (analyze graph).cyclePath.zip (analyze graph).cyclePath.tail ∧
      ∀ edge ∈ (analyze graph).cycleEdges,
        edge ∈ (analyze graph).edges ∧ edge.hazard = .explicit) := by
  rcases analyze_cases graph with ⟨diagnostic, hrefused, heq⟩ | ⟨hdeclared, cycle, hstuck, heq⟩ |
    ⟨hdeclared, order, hexplicit, hedges, hstatus⟩
  · have hstatus : (analyze graph).diagnostic.status ≠ .cycle := by
      rw [heq]
      exact reportsNoCycle_validateDeclarations diagnostic hrefused
    have hnone : ∀ p c, ¬ExplicitEdge (analyze graph) p c := by
      rintro p c ⟨edge, hmem, -⟩
      rw [heq] at hmem
      cases hmem
    refine ⟨iff_of_false hstatus ?_, fun hnone => ?_, fun h => absurd h hstatus⟩
    · rintro ⟨task, hcycle⟩
      obtain ⟨next, hstep, -⟩ := TransGen.head'_iff.1 hcycle
      exact hnone _ _ hstep
    · rw [hrefused] at hnone
      cases hnone
  · have hsame : ∀ p c, ExplicitEdge (analyze graph) p c ↔ DeclaresDependency graph p c :=
      explicitEdge_iff (by rw [heq]; rfl) fun _ _ => Iff.rfl
    obtain ⟨hclosed, hpairs, hsubset⟩ :=
      buildTopologicalOrder_error (edgesValid_declareDependencies hdeclared) hstuck
    have hexplicit : ∀ edge ∈ cycle.edges,
        edge ∈ (declareDependencies graph).edges ∧ edge.hazard = .explicit := by
      intro edge hmem
      obtain ⟨hedge, hincluded⟩ := List.mem_filter.1 (hsubset hmem)
      exact ⟨hedge, by simpa [includesEdge] using hincluded⟩
    have hpath : ClosedPath (ExplicitEdge (analyze graph)) cycle.path := by
      refine hclosed.mono fun p c => ?_
      rintro ⟨edge, hmem, hends⟩
      obtain ⟨hedge, hincluded⟩ := List.mem_filter.1 hmem
      exact ⟨edge, by rw [heq]; exact hedge, by simpa [includesEdge] using hincluded, hends⟩
    have hstatus : (analyze graph).diagnostic.status = .cycle := by
      rw [heq]
      exact status_cycleDiagnostic cycle
    refine ⟨iff_of_true hstatus hpath.exists_cycle, fun _ => hsame, fun _ => ?_⟩
    rw [heq] at hpath ⊢
    refine ⟨hpath, fun hnil => ?_, hpairs, hexplicit⟩
    have hlength := congrArg List.length hpairs
    rw [show cycle.edges = [] from hnil] at hlength
    exact hclosed.zip_tail_ne_nil (List.eq_nil_of_length_eq_zero hlength.symm)
  · have hsame : ∀ p c, ExplicitEdge (analyze graph) p c ↔ DeclaresDependency graph p c :=
      explicitEdge_iff hedges (sameExplicit_inferHazards order _)
    refine ⟨iff_of_false hstatus ?_, fun _ => hsame, fun h => absurd h hstatus⟩
    rintro ⟨task, hcycle⟩
    exact acyclicDependencies_of_order hdeclared hexplicit task
      (TransGen.mono (fun p c => (hsame p c).1) task task hcycle)

end NwbLot.TaskGraph
