import NwbLot.TaskGraph.Analysis
import Mathlib.Data.List.Nodup
import Mathlib.Logic.Relation

/-!
# What a successful analysis says

Inversion of `analyze`, the declarations it accepted, the two orders it computed, and which edges
an edge table holds.

`AnalysisSuccess` lists what every pass has returned, so that later proofs never unfold `analyze`.
-/

namespace NwbLot.TaskGraph

open Relation

/-! ## Inversion -/

/-- The stages of an analysis that succeeded. -/
structure AnalysisSuccess (graph : GpuTaskGraph) : Prop where
  declared : validateDeclarations graph = none
  explicit : buildTopologicalOrder graph (declareDependencies graph).edges true
    = .ok (explicitOrder graph)
  edges_eq : (analyze graph).edges
    = (inferHazards graph (explicitOrder graph) (declareDependencies graph)).table.edges
  ordered : buildTopologicalOrder graph (analyze graph).edges false
    = .ok (analyze graph).topologicalOrder

variable {graph : GpuTaskGraph}

theorem analyze_success (h : (analyze graph).valid = true) :
    AnalysisSuccess graph := by
  cases hdeclared : validateDeclarations graph with
  | some diagnostic => simp [analyze, hdeclared] at h
  | none =>
    cases hexplicit : buildTopologicalOrder graph (declareDependencies graph).edges true with
    | error cycle => simp [analyze, hdeclared, hexplicit, EdgeTable.analysis] at h
    | ok order =>
      have horder : explicitOrder graph = order := by simp [explicitOrder, hexplicit]
      cases hfinal : buildTopologicalOrder graph
          (inferHazards graph order (declareDependencies graph)).table.edges false with
      | error cycle => simp [analyze, hdeclared, hexplicit, hfinal, EdgeTable.analysis] at h
      | ok final =>
        cases hpresent : graph.presentEndpoint.bind (validatePresentEndpoint graph
            (inferHazards graph order (declareDependencies graph)).table.edges final) with
        | some diagnostic =>
          simp [analyze, hdeclared, hexplicit, hfinal, hpresent, EdgeTable.analysis] at h
        | none =>
          refine ⟨hdeclared, ?_, ?_, ?_⟩
          · rw [horder, hexplicit]
          · simp [analyze, hdeclared, hexplicit, hfinal, hpresent, EdgeTable.analysis, horder]
          · simp [analyze, hdeclared, hexplicit, hfinal, hpresent, EdgeTable.analysis]

/-! ## Accepted declarations -/

variable {α : Type*}

lemma findSome?_eq_none {β : Type*} {f : α → Option β} {xs : List α} (h : xs.findSome? f = none)
    {x : α} (hx : x ∈ xs) : f x = none :=
  List.findSome?_eq_none_iff.1 h x hx

/-- What `validateTask` accepted about one task. -/
structure AcceptedTask (graph : GpuTaskGraph) (task : GpuTaskGraphTaskView) : Prop where
  dependencies : ∀ dependency ∈ task.dependencies, graph.validTask dependency = true
  resources : ∀ use ∈ task.resourceUses, graph.validResource use.resource = true
  states : ∀ use ∈ task.resourceUses, use.requiredState ≠ ResourceStates.unknown
  ranges : ∀ use ∈ task.resourceUses,
    isValidUseRange (graph.resourceAt use.resource.index).type use.range = true

lemma acceptedTask_of_validate {task : GpuTaskGraphTaskView} (h : validateTask graph task = none) :
    AcceptedTask graph task := by
  simp only [validateTask] at h
  split at h
  · cases h
  · simp only [Option.orElse_eq_orElse, Option.orElse_eq_or, Option.or_eq_none_iff] at h
    obtain ⟨hdependencies, -, -, huses⟩ := h
    have huse : ∀ use ∈ task.resourceUses, validateResourceUse graph task.id use = none :=
      fun use hmem => findSome?_eq_none huses hmem
    refine ⟨?_, ?_, ?_, ?_⟩
    · intro dependency hmem
      have := findSome?_eq_none hdependencies hmem
      by_contra hinvalid
      simp [hinvalid] at this
    all_goals
      intro use hmem
      have haccepted := huse use hmem
      simp only [validateResourceUse] at haccepted
      split at haccepted
      · cases haccepted
      · next hfirst =>
          split at haccepted
          · cases haccepted
          · next hsecond => simp_all

lemma acceptedTask_of_declared (h : validateDeclarations graph = none) {index : ℕ}
    (hindex : index < graph.taskCount) : AcceptedTask graph (graph.taskAt index) := by
  simp only [validateDeclarations, Option.orElse_eq_orElse, Option.orElse_eq_or,
    Option.or_eq_none_iff] at h
  exact acceptedTask_of_validate (findSome?_eq_none h.2.2 (List.mem_range.2 hindex))

namespace AnalysisSuccess

variable {graph : GpuTaskGraph} (success : AnalysisSuccess graph)
include success

lemma accepted {index : ℕ} (hindex : index < graph.taskCount) :
    AcceptedTask graph (graph.taskAt index) :=
  acceptedTask_of_declared success.declared hindex

end AnalysisSuccess

/-! ## Orders -/

/-- `a` is listed before `b`. -/
def ListedBefore {α : Type*} (order : List α) (a b : α) : Prop := [a, b].Sublist order

/-- Of two different listed elements, one is listed first. -/
lemma listedBefore_total {order : List α} {a b : α} (ha : a ∈ order) (hb : b ∈ order)
    (hne : a ≠ b) : ListedBefore order a b ∨ ListedBefore order b a := by
  obtain ⟨front, back, rfl⟩ := List.append_of_mem ha
  rcases List.mem_append.1 hb with hfront | hback
  · refine Or.inr ?_
    exact (List.singleton_sublist.2 hfront).append (List.singleton_sublist.2 List.mem_cons_self)
  · refine Or.inl ?_
    have hrest : b ∈ back := (List.mem_cons.1 hback).resolve_left (Ne.symm hne)
    exact ((List.singleton_sublist.2 hrest).cons_cons a).trans (List.sublist_append_right _ _)

lemma listedBefore_of_lt {order : List α} {i j : ℕ} {a b : α} (hij : i < j)
    (ha : order[i]? = some a) (hb : order[j]? = some b) : ListedBefore order a b := by
  obtain ⟨hi, rfl⟩ := List.getElem?_eq_some_iff.1 ha
  obtain ⟨hj, rfl⟩ := List.getElem?_eq_some_iff.1 hb
  have hpairs : order.Pairwise (ListedBefore order) :=
    List.pairwise_iff_forall_sublist.2 fun hsub => hsub
  exact List.pairwise_iff_getElem.1 hpairs i j hi hj hij

variable {edges : List GpuTaskDependencyEdge} {explicitOnly : Bool} {order : List GpuTaskId}

lemma buildTopologicalOrder_eq_ok (h : buildTopologicalOrder graph edges explicitOnly = .ok order) :
    ∃ indices, KahnOrder.stableOrder graph.taskCount (indexPairs edges explicitOnly) = some indices ∧
      order = indices.map graph.taskIdAt := by
  simp only [buildTopologicalOrder] at h
  split at h
  · next indices hindices => exact ⟨indices, hindices, by cases h; rfl⟩
  · cases h

/-- An order lists every task of the graph once. -/
lemma buildTopologicalOrder_perm (h : buildTopologicalOrder graph edges explicitOnly = .ok order) :
    order.Perm ((List.range graph.taskCount).map graph.taskIdAt) := by
  obtain ⟨indices, hindices, rfl⟩ := buildTopologicalOrder_eq_ok h
  exact (KahnOrder.stableOrder_perm _ _ hindices).map _

lemma mem_order_iff (h : buildTopologicalOrder graph edges explicitOnly = .ok order)
    {id : GpuTaskId} :
    id ∈ order ↔ graph.validTask id = true := by
  rw [(buildTopologicalOrder_perm h).mem_iff]
  constructor
  · intro hmem
    obtain ⟨index, hindex, rfl⟩ := List.mem_map.1 hmem
    exact graph.validTask_taskIdAt (List.mem_range.1 hindex)
  · intro hvalid
    rw [graph.eq_taskIdAt_of_validTask hvalid]
    exact List.mem_map_of_mem (List.mem_range.2 (graph.validTask_iff.1 hvalid).2.2)

lemma order_nodup (h : buildTopologicalOrder graph edges explicitOnly = .ok order) : order.Nodup :=
  (buildTopologicalOrder_perm h).nodup_iff.2 (List.Nodup.map graph.taskIdAt_injective List.nodup_range)

variable {edge : GpuTaskDependencyEdge}

/-- Every included edge between valid tasks goes forwards in the order. -/
lemma producer_mem_before {before after : List GpuTaskId} {consumer : GpuTaskId}
    (h : buildTopologicalOrder graph edges explicitOnly = .ok order)
    (hsplit : order = before ++ consumer :: after) (hedge : edge ∈ edges)
    (hincluded : includesEdge edge explicitOnly = true) (hconsumer : edge.consumer = consumer)
    (hproducer : graph.validTask edge.producer = true) :
    edge.producer ∈ before := by
  obtain ⟨indices, hindices, rfl⟩ := buildTopologicalOrder_eq_ok h
  obtain ⟨front, tail, hindexSplit, rfl, htail⟩ := List.map_eq_append_iff.1 hsplit
  obtain ⟨index, back, rfl, hindex, rfl⟩ := List.map_eq_cons_iff.1 htail
  have hpair : (edge.producer.index, edge.consumer.index) ∈ indexPairs edges explicitOnly :=
    List.mem_map.2 ⟨edge, List.mem_filter.2 ⟨hedge, hincluded⟩, rfl⟩
  have hfront := KahnOrder.stableOrder_closed _ _ hindices hindexSplit hpair
    (by rw [hconsumer, ← hindex]; rfl)
  rw [graph.eq_taskIdAt_of_validTask hproducer]
  exact List.mem_map_of_mem hfront

/-! ## Edge tables -/

/-- Some edge leads from the producer to the consumer. -/
def EdgeRel (edges : List GpuTaskDependencyEdge) (producer consumer : GpuTaskId) : Prop :=
  ∃ edge ∈ edges, edge.producer = producer ∧ edge.consumer = consumer

lemma samePair_iff {lhs rhs : GpuTaskDependencyEdge} :
    lhs.samePair rhs = true ↔ lhs.producer = rhs.producer ∧ lhs.consumer = rhs.consumer := by
  simp [GpuTaskDependencyEdge.samePair]

variable {p c : GpuTaskId}

lemma edgeRel_cons {rest : List GpuTaskDependencyEdge} :
    EdgeRel (edge :: rest) p c ↔ (edge.producer = p ∧ edge.consumer = c) ∨ EdgeRel rest p c := by
  simp [EdgeRel]

/-- Merging an edge adds exactly its pair. -/
lemma edgeRel_mergeSchedulingEdge :
    EdgeRel (mergeSchedulingEdge edge edges) p c ↔
      EdgeRel edges p c ∨ (edge.producer = p ∧ edge.consumer = c) := by
  induction edges with
  | nil => simp [mergeSchedulingEdge, EdgeRel]
  | cons existing rest ih =>
    rw [mergeSchedulingEdge]
    split
    · rw [edgeRel_cons, edgeRel_cons, ih, or_assoc]
    · next hsame =>
        have hpair := samePair_iff.1 (by simpa using hsame)
        split
        · rw [edgeRel_cons, edgeRel_cons, hpair.1, hpair.2]
          tauto
        · rw [edgeRel_cons, hpair.1, hpair.2]
          tauto

/-- Every inferred reason has a scheduling edge. -/
def EdgeTable.Consistent (table : EdgeTable) : Prop :=
  ∀ edge ∈ table.inferredEdges, EdgeRel table.edges edge.producer edge.consumer

variable {table : EdgeTable}

lemma EdgeTable.Consistent.appendSchedulingEdge (h : table.Consistent)
    (edge : GpuTaskDependencyEdge) : (table.appendSchedulingEdge edge).Consistent :=
  fun inferred hmem => edgeRel_mergeSchedulingEdge.2 (Or.inl (h inferred hmem))

lemma EdgeTable.Consistent.appendInferredEdge (h : table.Consistent)
    (edge : GpuTaskDependencyEdge) : (table.appendInferredEdge edge).Consistent := by
  rw [EdgeTable.appendInferredEdge]
  split
  · exact h
  · intro inferred hmem
    rcases List.mem_append.1 hmem with hold | hnew
    · exact edgeRel_mergeSchedulingEdge.2 (Or.inl (h inferred hold))
    · rw [List.mem_singleton.1 hnew]
      exact edgeRel_mergeSchedulingEdge.2 (Or.inr ⟨rfl, rfl⟩)

/-- An inferred edge adds exactly its pair, also when its reason is already recorded. -/
lemma edgeRel_appendInferredEdge (h : table.Consistent) :
    EdgeRel (table.appendInferredEdge edge).edges p c ↔
      EdgeRel table.edges p c ∨ (edge.producer = p ∧ edge.consumer = c) := by
  rw [EdgeTable.appendInferredEdge]
  split
  · next hrecorded =>
      obtain ⟨existing, hmem, hsame⟩ := List.any_eq_true.1 hrecorded
      simp only [Bool.and_eq_true] at hsame
      have hpair := samePair_iff.1 hsame.1.1
      refine ⟨Or.inl, fun hedge => hedge.elim id fun heq => ?_⟩
      have := h existing hmem
      rwa [hpair.1, hpair.2, heq.1, heq.2] at this
  · exact edgeRel_mergeSchedulingEdge

lemma appendHazardEdges_spec (type : GpuGraphResourceType) (task : GpuTaskId)
    (use : GpuTaskResourceUse) (hazard : GpuTaskHazardType) (accesses : List TrackedResourceAccess)
    (h : table.Consistent) :
    (appendHazardEdges type task use hazard accesses table).Consistent ∧
      ∀ p c, EdgeRel (appendHazardEdges type task use hazard accesses table).edges p c ↔
        EdgeRel table.edges p c ∨
          (c = task ∧ ∃ access ∈ accesses, access.overlaps type task use = true
            ∧ access.task = p) := by
  rw [appendHazardEdges]
  induction accesses generalizing table with
  | nil => exact ⟨h, by simp⟩
  | cons access rest ih =>
    rw [List.filter_cons]
    split
    · next hoverlaps =>
        rw [List.foldl_cons]
        obtain ⟨hconsistent, hedges⟩ := ih (h.appendInferredEdge
          { producer := access.task, consumer := task, resource := use.resource, hazard })
        refine ⟨hconsistent, fun p c => ?_⟩
        rw [hedges, edgeRel_appendInferredEdge h, or_assoc]
        refine or_congr Iff.rfl ?_
        simp only [List.mem_cons, exists_eq_or_imp]
        constructor
        · rintro (⟨hp, hc⟩ | ⟨hc, hrest⟩)
          · exact ⟨hc.symm, Or.inl ⟨hoverlaps, hp⟩⟩
          · exact ⟨hc, Or.inr hrest⟩
        · rintro ⟨hc, ⟨-, hp⟩ | hrest⟩
          · exact Or.inl ⟨hp, hc.symm⟩
          · exact Or.inr ⟨hc, hrest⟩
    · next hdisjoint =>
        obtain ⟨hconsistent, hedges⟩ := ih h
        refine ⟨hconsistent, fun p c => ?_⟩
        rw [hedges]
        simp [hdisjoint]

end NwbLot.TaskGraph
