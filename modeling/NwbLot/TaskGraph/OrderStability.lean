import NwbLot.TaskGraph.PlanLayout

/-!
# The planning order is the hazard order

`analyze` orders the tasks twice: along the explicit edges, to infer hazards in that order, and
along all edges.  An inferred edge leads from a task the hazard loop passed earlier to the one it is
at, so it goes forwards in the first order and the second order is the same.
-/

namespace NwbLot.TaskGraph

open Relation

variable {graph : GpuTaskGraph}

/-- The consumer is a task of the graph that declares the producer as a dependency. -/
def DeclaresDependency (graph : GpuTaskGraph) (producer consumer : GpuTaskId) : Prop :=
  graph.validTask consumer = true ∧ producer ∈ (graph.taskAt consumer.index).dependencies

/-- No task depends on itself through declared dependencies. -/
def AcyclicDependencies (graph : GpuTaskGraph) : Prop :=
  ∀ task, ¬TransGen (DeclaresDependency graph) task task

/-! ## Declared edges -/

/-- Explicit edges of declared dependencies only. -/
def DeclaresEdges (graph : GpuTaskGraph) (edges : List GpuTaskDependencyEdge) : Prop :=
  ∀ edge ∈ edges, edge.hazard = .explicit ∧ DeclaresDependency graph edge.producer edge.consumer

variable {edges : List GpuTaskDependencyEdge}

lemma mem_mergeSchedulingEdge {edge other : GpuTaskDependencyEdge}
    (h : other ∈ mergeSchedulingEdge edge edges) :
    other = edge ∨ other ∈ edges := by
  induction edges with
  | nil => exact Or.inl (List.mem_singleton.1 h)
  | cons existing rest ih =>
    rw [mergeSchedulingEdge] at h
    split at h
    · rcases List.mem_cons.1 h with rfl | hrest
      · exact Or.inr List.mem_cons_self
      · exact (ih hrest).imp_right (List.mem_cons_of_mem _)
    · split at h
      · exact (List.mem_cons.1 h).imp_right (List.mem_cons_of_mem _)
      · exact Or.inr h

variable {table : EdgeTable}

lemma declaresEdges_declareTaskDependencies {index : ℕ} (hindex : index < graph.taskCount)
    (h : DeclaresEdges graph table.edges) :
    DeclaresEdges graph (declareTaskDependencies table (graph.taskAt index)).edges := by
  have hstep : ∀ (dependencies : List GpuTaskId) (table : EdgeTable),
      dependencies ⊆ (graph.taskAt index).dependencies → DeclaresEdges graph table.edges →
      DeclaresEdges graph (dependencies.foldl (fun table dependency => table.appendSchedulingEdge
        { producer := dependency, consumer := (graph.taskAt index).id, hazard := .explicit })
        table).edges := by
    intro dependencies
    induction dependencies with
    | nil => exact fun _ _ h => h
    | cons dependency rest ih =>
      intro table hsubset h
      refine ih _ (fun d hd => hsubset (List.mem_cons_of_mem _ hd)) fun edge hedge => ?_
      rcases mem_mergeSchedulingEdge hedge with rfl | hold
      · exact ⟨rfl, graph.validTask_taskIdAt hindex, hsubset List.mem_cons_self⟩
      · exact h edge hold
  exact hstep _ table (fun _ => id) h

lemma declaresEdges_declareDependencies (graph : GpuTaskGraph) :
    DeclaresEdges graph (declareDependencies graph).edges := by
  rw [declareDependencies]
  suffices h : ∀ (indices : List ℕ) (table : EdgeTable),
      (∀ index ∈ indices, index < graph.taskCount) → DeclaresEdges graph table.edges →
      DeclaresEdges graph (indices.foldl
        (fun table index => declareTaskDependencies table (graph.taskAt index)) table).edges from
    h _ _ (fun index hmem => List.mem_range.1 hmem) fun edge hmem => absurd hmem (by simp)
  intro indices
  induction indices with
  | nil => exact fun _ _ h => h
  | cons index rest ih =>
    intro table hindices h
    refine ih _ (fun i hi => hindices i (List.mem_cons_of_mem _ hi)) ?_
    exact declaresEdges_declareTaskDependencies (hindices index List.mem_cons_self) h

/-- Acyclic declarations are acyclic as index pairs. -/
lemma acyclic_indexPairs (hdeclared : validateDeclarations graph = none)
    (hacyclic : AcyclicDependencies graph) :
    KahnOrder.Acyclic (indexPairs (declareDependencies graph).edges true) := by
  intro index hcycle
  refine hacyclic (graph.taskIdAt index) (TransGen.lift graph.taskIdAt ?_ index index hcycle)
  intro a b hpair
  obtain ⟨edge, hedge, heq⟩ := List.mem_map.1 hpair
  have hmem := (List.mem_filter.1 hedge).1
  obtain ⟨hproducer, hconsumer⟩ :=
    edgesValid_declareDependencies hdeclared _ _ ⟨edge, hmem, rfl, rfl⟩
  obtain ⟨-, hdepends⟩ := declaresEdges_declareDependencies graph edge hmem
  rw [graph.eq_taskIdAt_of_validTask hproducer, graph.eq_taskIdAt_of_validTask hconsumer]
    at hdepends
  rw [Prod.mk.injEq] at heq
  rw [heq.1, heq.2] at hdepends
  exact hdepends

/-! ## Inferred edges go forwards -/

/-- The consumer is listed in the order and the producer before it. -/
def GoesForwards (order : List GpuTaskId) (producer consumer : GpuTaskId) : Prop :=
  ∃ before after, order = before ++ consumer :: after ∧ producer ∈ before

lemma GoesForwards.append {order : List GpuTaskId} {p c : GpuTaskId} (h : GoesForwards order p c)
    (rest : List GpuTaskId) : GoesForwards (order ++ rest) p c := by
  obtain ⟨before, after, rfl, hp⟩ := h
  exact ⟨before, after ++ rest, by simp, hp⟩

/-- The hazard loop after the tasks `passed`: the table has the declared edges and edges that go
forwards, and every listed access is one of a passed task. -/
structure HazardsForward (declared : List GpuTaskDependencyEdge) (passed : List GpuTaskId)
    (state : HazardState) : Prop where
  consistent : state.table.Consistent
  keeps : ∀ p c, EdgeRel declared p c → EdgeRel state.table.edges p c
  edges : ∀ p c, EdgeRel state.table.edges p c → EdgeRel declared p c ∨ GoesForwards passed p c
  writers : ∀ access ∈ state.writers, access.task ∈ passed
  readers : ∀ access ∈ state.readers, access.task ∈ passed

variable {declared : List GpuTaskDependencyEdge} {passed : List GpuTaskId}

/-- The table part of the invariant. -/
def TableForward (declared : List GpuTaskDependencyEdge) (passed : List GpuTaskId)
    (table : EdgeTable) : Prop :=
  table.Consistent ∧ (∀ p c, EdgeRel declared p c → EdgeRel table.edges p c) ∧
    ∀ p c, EdgeRel table.edges p c → EdgeRel declared p c ∨ GoesForwards passed p c

variable {accesses : List TrackedResourceAccess}

/-- At the task last passed, an overlapping access is of another passed task, so of an earlier
one. -/
lemma tableForward_appendHazardEdges (type : GpuGraphResourceType) {task : GpuTaskId}
    (use : GpuTaskResourceUse) (hazard : GpuTaskHazardType)
    (h : TableForward declared (passed ++ [task]) table)
    (haccesses : ∀ access ∈ accesses, access.task ∈ passed ++ [task]) :
    TableForward declared (passed ++ [task])
      (appendHazardEdges type task use hazard accesses table) := by
  obtain ⟨hconsistent, hkeeps, hedges⟩ := h
  obtain ⟨hconsistent', hspec⟩ :=
    appendHazardEdges_spec type task use hazard accesses hconsistent
  refine ⟨hconsistent', fun p c hedge => (hspec p c).2 (Or.inl (hkeeps p c hedge)), ?_⟩
  intro p c hedge
  rcases (hspec p c).1 hedge with hold | ⟨rfl, access, hmem, hoverlaps, rfl⟩
  · exact hedges p c hold
  · have hother : access.task ≠ c := by
      simp only [TrackedResourceAccess.overlaps, Bool.and_eq_true, bne_iff_ne] at hoverlaps
      exact hoverlaps.1.1.2
    have hpassed : access.task ∈ passed :=
      (List.mem_append.1 (haccesses access hmem)).resolve_right
        fun hself => hother (List.mem_singleton.1 hself)
    exact Or.inr ⟨passed, [], rfl, hpassed⟩

lemma task_mem_deactivateContained {type : GpuGraphResourceType} {use : GpuTaskResourceUse}
    (h : ∀ access ∈ accesses, access.task ∈ passed) :
    ∀ access ∈ deactivateContained type use accesses, access.task ∈ passed := by
  intro access hmem
  obtain ⟨before, hbefore, rfl⟩ := List.mem_map.1 hmem
  split
  · exact h before hbefore
  · exact h before hbefore

lemma task_mem_snoc {access : TrackedResourceAccess} (h : ∀ access ∈ accesses, access.task ∈ passed)
    (haccess : access.task ∈ passed) :
    ∀ other ∈ accesses ++ [access], other.task ∈ passed := by
  intro other hmem
  rcases List.mem_append.1 hmem with hold | hnew
  · exact h other hold
  · exact List.mem_singleton.1 hnew ▸ haccess

lemma hazardsForward_step {state : HazardState} {type : GpuGraphResourceType} {task : GpuTaskId}
    {use : GpuTaskResourceUse} (h : HazardsForward declared (passed ++ [task]) state) :
    HazardsForward declared (passed ++ [task]) (inferUseHazards type task use state) := by
  have htask : task ∈ passed ++ [task] := List.mem_append_right _ (List.mem_singleton_self _)
  have hread : ∀ table, table = (if isReadAccess use.access then
        appendHazardEdges type task use .readAfterWrite state.writers state.table
      else state.table) → TableForward declared (passed ++ [task]) table := by
    rintro table rfl
    split
    · exact tableForward_appendHazardEdges type use _ ⟨h.consistent, h.keeps, h.edges⟩ h.writers
    · exact ⟨h.consistent, h.keeps, h.edges⟩
  have hreadTable := hread _ rfl
  simp only [inferUseHazards]
  split
  · have hwriteTable := tableForward_appendHazardEdges type use .writeAfterWrite hreadTable h.writers
    obtain ⟨hconsistent, hkeeps, hedges⟩ :=
      tableForward_appendHazardEdges type use .writeAfterRead hwriteTable h.readers
    exact ⟨hconsistent, hkeeps, hedges, task_mem_snoc (task_mem_deactivateContained h.writers) htask,
      task_mem_deactivateContained h.readers⟩
  · obtain ⟨hconsistent, hkeeps, hedges⟩ := hreadTable
    split
    · exact ⟨hconsistent, hkeeps, hedges, h.writers, h.readers⟩
    · exact ⟨hconsistent, hkeeps, hedges, h.writers, task_mem_snoc h.readers htask⟩

/-- Passing a task. -/
lemma HazardsForward.snoc {state : HazardState} (h : HazardsForward declared passed state)
    (task : GpuTaskId) : HazardsForward declared (passed ++ [task]) state where
  consistent := h.consistent
  keeps := h.keeps
  edges p c hedge := (h.edges p c hedge).imp_right fun hforward => hforward.append [task]
  writers access hmem := List.mem_append_left _ (h.writers access hmem)
  readers access hmem := List.mem_append_left _ (h.readers access hmem)

lemma hazardsForward_run {state : HazardState} (order : List GpuTaskId)
    (h : HazardsForward declared passed state) :
    HazardsForward declared (passed ++ order) (order.foldl (inferTaskHazards graph) state) := by
  induction order generalizing passed state with
  | nil => simpa using h
  | cons task rest ih =>
    have htask : HazardsForward declared (passed ++ [task])
        (inferTaskHazards graph state task) := by
      rw [inferTaskHazards]
      have hentered := h.snoc task
      generalize state = current at hentered
      induction (graph.taskAt task.index).resourceUses generalizing current with
      | nil => exact hentered
      | cons use uses ihUses => exact ihUses _ (hazardsForward_step hentered)
    have hrest := ih htask
    rwa [List.append_assoc] at hrest

/-- After the hazard loop along an order every edge is declared or goes forwards in it. -/
lemma hazardsForward_inferHazards (order : List GpuTaskId) (hconsistent : table.Consistent) :
    HazardsForward table.edges order (inferHazards graph order table) := by
  have hinitial : HazardsForward table.edges [] { table } :=
    ⟨hconsistent, fun _ _ => id, fun _ _ => Or.inl, by simp, by simp⟩
  exact hazardsForward_run order hinitial

/-! ## The second order -/

lemma mem_indexPairs_all {pair : ℕ × ℕ} :
    pair ∈ indexPairs edges false ↔ ∃ p c, EdgeRel edges p c ∧ (p.index, c.index) = pair := by
  constructor
  · intro hpair
    obtain ⟨edge, hedge, rfl⟩ := List.mem_map.1 hpair
    exact ⟨_, _, ⟨edge, (List.mem_filter.1 hedge).1, rfl, rfl⟩, rfl⟩
  · rintro ⟨p, c, ⟨edge, hedge, rfl, rfl⟩, rfl⟩
    exact List.mem_map.2 ⟨edge, List.mem_filter.2 ⟨hedge, rfl⟩, rfl⟩

lemma mem_indexPairs_declared {p c : GpuTaskId}
    (h : EdgeRel (declareDependencies graph).edges p c) :
    (p.index, c.index) ∈ indexPairs (declareDependencies graph).edges true := by
  obtain ⟨edge, hedge, rfl, rfl⟩ := h
  obtain ⟨hexplicit, -⟩ := declaresEdges_declareDependencies graph edge hedge
  exact List.mem_map.2 ⟨edge, List.mem_filter.2 ⟨hedge, by simp [includesEdge, hexplicit]⟩, rfl⟩

/-- Of an order of distinct tasks, going forwards as tasks is going forwards as indices. -/
lemma index_mem_before {indices before after : List ℕ} (hnodup : indices.Nodup) {p c : GpuTaskId}
    (hsplit : indices = before ++ c.index :: after)
    (h : GoesForwards (indices.map graph.taskIdAt) p c) : p.index ∈ before := by
  obtain ⟨front, back, hmapped, hp⟩ := h
  obtain ⟨front', tail, hindices, rfl, htail⟩ := List.map_eq_append_iff.1 hmapped
  obtain ⟨index, back', rfl, rfl, rfl⟩ := List.map_eq_cons_iff.1 htail
  have hfresh : index ∉ front' ∧ index ∉ back' := by
    rw [hindices, List.nodup_append] at hnodup
    refine ⟨fun hmem => hnodup.2.2 index hmem index List.mem_cons_self rfl, ?_⟩
    exact (List.nodup_cons.1 hnodup.2.1).1
  have heq : front' ++ index :: back' = before ++ index :: after := hindices.symm.trans hsplit
  obtain ⟨rfl, -, -⟩ := (List.append_cons_inj_of_notMem hfresh.1 hfresh.2).1 heq
  obtain ⟨k, hk, rfl⟩ := List.mem_map.1 hp
  exact hk

/-- The order along all edges is the order along the explicit edges. -/
lemma buildTopologicalOrder_all {order : List GpuTaskId}
    (h : buildTopologicalOrder graph (declareDependencies graph).edges true = .ok order) :
    buildTopologicalOrder graph
      (inferHazards graph order (declareDependencies graph)).table.edges false = .ok order := by
  obtain ⟨indices, hindices, rfl⟩ := buildTopologicalOrder_eq_ok h
  have hforward : HazardsForward (declareDependencies graph).edges (indices.map graph.taskIdAt)
      (inferHazards graph (indices.map graph.taskIdAt) (declareDependencies graph)) :=
    hazardsForward_inferHazards _ (declareDependencies_consistent graph)
  have hnodup : indices.Nodup :=
    (KahnOrder.stableOrder_perm _ _ hindices).nodup_iff.2 List.nodup_range
  rw [buildTopologicalOrder, KahnOrder.stableOrder_extend ?_ hindices ?_]
  · -- declared edges stay
    intro pair hpair
    obtain ⟨edge, hedge, rfl⟩ := List.mem_map.1 hpair
    exact mem_indexPairs_all.2
      ⟨_, _, hforward.keeps _ _ ⟨edge, (List.mem_filter.1 hedge).1, rfl, rfl⟩, rfl⟩
  · intro before index after hsplit pair hpair htarget
    obtain ⟨p, c, hedge, rfl⟩ := mem_indexPairs_all.1 hpair
    obtain rfl : c.index = index := htarget
    rcases hforward.edges p c hedge with hexplicit | hinferred
    · exact KahnOrder.stableOrder_closed _ _ hindices hsplit (mem_indexPairs_declared hexplicit) rfl
    · exact index_mem_before hnodup hsplit hinferred

lemma exists_explicitOrder (hdeclared : validateDeclarations graph = none)
    (hacyclic : AcyclicDependencies graph) :
    ∃ order, buildTopologicalOrder graph (declareDependencies graph).edges true = .ok order := by
  have hsource : ∀ pair ∈ indexPairs (declareDependencies graph).edges true,
      pair.1 < graph.taskCount := by
    intro pair hpair
    obtain ⟨edge, hedge, rfl⟩ := List.mem_map.1 hpair
    obtain ⟨hproducer, -⟩ := edgesValid_declareDependencies hdeclared _ _
      ⟨edge, (List.mem_filter.1 hedge).1, rfl, rfl⟩
    exact (graph.validTask_iff.1 hproducer).2.2
  obtain ⟨indices, hindices⟩ :=
    KahnOrder.exists_stableOrder (acyclic_indexPairs hdeclared hacyclic) hsource
  exact ⟨indices.map graph.taskIdAt, by rw [buildTopologicalOrder, hindices]⟩

lemma status_validatePresentEndpoint {order : List GpuTaskId} {endpoint : GpuPresentEndpoint}
    {diagnostic : GpuTaskGraphAnalysisDiagnostic}
    (h : validatePresentEndpoint graph edges order endpoint = some diagnostic) :
    diagnostic.status = .invalidPresentationEndpoint := by
  simp only [validatePresentEndpoint] at h
  split_ifs at h
  · cases h
    rfl
  · cases h
    rfl
  all_goals
    split at h
    all_goals
      cases h
      try rfl

/-- If the explicit edges are acyclic, ordering the tasks along the explicit and inferred edges
gives the order along the explicit edges, and that is the order of the analysis. -/
theorem topologicalOrder_stable (hdeclared : validateDeclarations graph = none)
    (hacyclic : AcyclicDependencies graph) :
    ∃ order,
      buildTopologicalOrder graph (declareDependencies graph).edges true = .ok order ∧
      buildTopologicalOrder graph
        (inferHazards graph order (declareDependencies graph)).table.edges false = .ok order ∧
      (analyze graph).topologicalOrder = order ∧
      (analyze graph).diagnostic.status ≠ .cycle := by
  obtain ⟨order, hexplicit⟩ := exists_explicitOrder hdeclared hacyclic
  have hall := buildTopologicalOrder_all hexplicit
  refine ⟨order, hexplicit, hall, ?_⟩
  cases hpresent : graph.presentEndpoint.bind (validatePresentEndpoint graph
      (inferHazards graph order (declareDependencies graph)).table.edges order) with
  | none => simp [analyze, hdeclared, hexplicit, hall, hpresent]
  | some diagnostic =>
    obtain ⟨endpoint, -, hrefused⟩ := Option.bind_eq_some_iff.1 hpresent
    simp [analyze, hdeclared, hexplicit, hall, hpresent, status_validatePresentEndpoint hrefused]

/-- Declared dependencies that raise a rank are acyclic. -/
lemma acyclicDependencies_of_rank (rank : ℕ → ℕ)
    (h : ∀ index < graph.taskCount, ∀ dependency ∈ (graph.taskAt index).dependencies,
      rank dependency.index < rank index) : AcyclicDependencies graph := by
  intro task hcycle
  have hraises : ∀ p c, DeclaresDependency graph p c → rank p.index < rank c.index := by
    rintro p c ⟨hconsumer, hmem⟩
    exact h c.index (graph.validTask_iff.1 hconsumer).2.2 p hmem
  have hlt : TransGen (· < ·) (rank task.index) (rank task.index) :=
    hcycle.lift (fun id => rank id.index) hraises
  rw [transGen_eq_self] at hlt
  exact lt_irrefl _ hlt

/-- The first task reads what the second writes and depends on it; the third overwrites it. -/
def dependencyAgainstDeclarationGraph : GpuTaskGraph where
  generation := 1
  tasks :=
    [{ identity := 1, dependencies := [⟨1, 1⟩]
       resourceUses := [{ resource := ⟨0, 1⟩, requiredState := 32 }] },
     { identity := 2
       resourceUses := [{ resource := ⟨0, 1⟩, access := .write, requiredState := 64 }] },
     { identity := 3
       resourceUses := [{ resource := ⟨0, 1⟩, access := .write, requiredState := 64 }] }]
  resources := [{ identity := 4, type := .texture }]
  externalCompletions := []
  generation_ne_zero := Nat.one_ne_zero
  tasks_length_le := by decide
  resources_length_le := length_oneTexture
  resources_declared := oneTexture_declared

theorem topologicalOrder_stable_dependencyAgainstDeclaration :
    ∃ order,
      buildTopologicalOrder dependencyAgainstDeclarationGraph
        (declareDependencies dependencyAgainstDeclarationGraph).edges true = .ok order ∧
      buildTopologicalOrder dependencyAgainstDeclarationGraph
        (inferHazards dependencyAgainstDeclarationGraph order
          (declareDependencies dependencyAgainstDeclarationGraph)).table.edges false = .ok order ∧
      (analyze dependencyAgainstDeclarationGraph).topologicalOrder = order ∧
      (analyze dependencyAgainstDeclarationGraph).diagnostic.status ≠ .cycle :=
  topologicalOrder_stable (by decide) (acyclicDependencies_of_rank (2 - ·) (by decide))

end NwbLot.TaskGraph
