import NwbLot.TaskGraph.ValidAnalysis
import Mathlib.Data.List.Flatten

/-!
# Hazard analysis is sound

The reader and writer lists are pruned whenever a write covers an older range.  The invariant is
kept per cell: over every cell a processed task wrote there is an active writer reachable from
that task, and over every cell it only read there is an active reader entry of that task or an
active writer reachable from it.  A later access to the cell finds that entry, so the pruned
accesses keep their order through the writer that replaced them.
-/

namespace NwbLot.TaskGraph

open Relation

variable (graph : GpuTaskGraph)

/-! ## Processed accesses -/

/-- The type of the resource a use names. -/
def GpuTaskResourceUse.type (use : GpuTaskResourceUse) : GpuGraphResourceType :=
  (graph.resourceAt use.resource.index).type

/-- A declared use together with its task. -/
structure DeclaredAccess where
  task : GpuTaskId
  use : GpuTaskResourceUse

/-- The declared range covers the cell. -/
def DeclaredAccess.Touches (access : DeclaredAccess) (c : Cell) : Prop :=
  rangeCovers (access.use.type graph) access.use.range c = true

/-- Accesses of two tasks to a common cell, one of them writing. -/
def DeclaredAccess.Conflicts (x y : DeclaredAccess) : Prop :=
  x.task ≠ y.task ∧ x.use.resource = y.use.resource ∧
    (∃ c, x.Touches graph c ∧ y.Touches graph c) ∧
    (isWriteAccess x.use.access = true ∨ isWriteAccess y.use.access = true)

/-- An active list entry of the resource over the cell. -/
def TrackedResourceAccess.Holds (entry : TrackedResourceAccess) (use : GpuTaskResourceUse)
    (c : Cell) : Prop :=
  entry.active = true ∧ entry.resource = use.resource ∧
    rangeCovers (use.type graph) entry.range c = true

/-- A path of edges, possibly empty. -/
def Reaches (edges : List GpuTaskDependencyEdge) : GpuTaskId → GpuTaskId → Prop :=
  ReflTransGen (EdgeRel edges)

/-- A nonempty path of edges. -/
def Orders (edges : List GpuTaskDependencyEdge) : GpuTaskId → GpuTaskId → Prop :=
  TransGen (EdgeRel edges)

/-- Some active writer over the cell is reachable from the task. -/
def WriterAfter (state : HazardState) (access : DeclaredAccess) (c : Cell) : Prop :=
  ∃ writer ∈ state.writers, writer.Holds graph access.use c ∧
    Reaches state.table.edges access.task writer.task

/-- The task's own read is still listed over the cell. -/
def ReaderListed (state : HazardState) (access : DeclaredAccess) (c : Cell) : Prop :=
  ∃ reader ∈ state.readers, reader.Holds graph access.use c ∧ reader.task = access.task

/-- What the lists remember about one processed access. -/
def Remembered (state : HazardState) (access : DeclaredAccess) : Prop :=
  ∀ c, access.Touches graph c → WriterAfter graph state access c ∨
    (isWriteAccess access.use.access = false ∧ ReaderListed graph state access c)

/-- The loop invariant over the accesses processed so far. -/
structure HazardInv (processed : List DeclaredAccess) (state : HazardState) : Prop where
  consistent : state.table.Consistent
  remembered : ∀ access ∈ processed, Remembered graph state access
  ordered : processed.Pairwise fun x y =>
    x.Conflicts graph y → Orders state.table.edges x.task y.task

/-! ## One access -/

/-- The loop body at one declared access. -/
def inferAccess (state : HazardState) (access : DeclaredAccess) : HazardState :=
  inferUseHazards (access.use.type graph) access.task access.use state

variable {state : HazardState}

/-- One access keeps every edge and adds one from each active overlapping writer, and from each
active overlapping reader if it writes. -/
lemma edgeRel_inferAccess (h : state.table.Consistent) (access : DeclaredAccess) :
    (inferAccess graph state access).table.Consistent ∧
    (∀ p c, EdgeRel state.table.edges p c →
      EdgeRel (inferAccess graph state access).table.edges p c) ∧
    (∀ writer ∈ state.writers, writer.overlaps (access.use.type graph) access.task access.use = true →
      EdgeRel (inferAccess graph state access).table.edges writer.task access.task) ∧
    (isWriteAccess access.use.access = true →
      ∀ reader ∈ state.readers,
        reader.overlaps (access.use.type graph) access.task access.use = true →
        EdgeRel (inferAccess graph state access).table.edges reader.task access.task) := by
  rw [inferAccess, inferUseHazards]
  -- reading adds the RAW edges, or nothing
  obtain ⟨readTable, hreadTable⟩ : ∃ t, t =
      if isReadAccess access.use.access = true then
        appendHazardEdges (access.use.type graph) access.task access.use .readAfterWrite
          state.writers state.table
      else state.table := ⟨_, rfl⟩
  simp only [← hreadTable]
  have hread : readTable.Consistent ∧
      (∀ p c, EdgeRel state.table.edges p c → EdgeRel readTable.edges p c) ∧
      (isReadAccess access.use.access = true → ∀ writer ∈ state.writers,
        writer.overlaps (access.use.type graph) access.task access.use = true →
        EdgeRel readTable.edges writer.task access.task) := by
    rw [hreadTable]
    split
    · next hreads =>
        obtain ⟨hconsistent, hedges⟩ := appendHazardEdges_spec
          (access.use.type graph) access.task access.use .readAfterWrite state.writers h
        refine ⟨hconsistent, fun p c hold => (hedges p c).2 (Or.inl hold), ?_⟩
        exact fun _ writer hmem hoverlaps =>
          (hedges _ _).2 (Or.inr ⟨rfl, writer, hmem, hoverlaps, rfl⟩)
    · next hwrites => exact ⟨h, fun _ _ => id, fun hreads => absurd hreads hwrites⟩
  obtain ⟨hreadConsistent, hreadKeeps, hreadLinks⟩ := hread
  split
  · -- writing adds the WAW and WAR edges
    obtain ⟨hwawConsistent, hwaw⟩ := appendHazardEdges_spec
      (access.use.type graph) access.task access.use .writeAfterWrite state.writers hreadConsistent
    obtain ⟨hwarConsistent, hwar⟩ := appendHazardEdges_spec
      (access.use.type graph) access.task access.use .writeAfterRead state.readers hwawConsistent
    refine ⟨hwarConsistent, ?_, ?_, ?_⟩
    · exact fun p c hold => (hwar p c).2 (Or.inl ((hwaw p c).2 (Or.inl (hreadKeeps p c hold))))
    · exact fun writer hmem hoverlaps =>
        (hwar _ _).2 (Or.inl ((hwaw _ _).2 (Or.inr ⟨rfl, writer, hmem, hoverlaps, rfl⟩)))
    · exact fun _ reader hmem hoverlaps =>
        (hwar _ _).2 (Or.inr ⟨rfl, reader, hmem, hoverlaps, rfl⟩)
  · next hnotWrite =>
      have hreads : isReadAccess access.use.access = true :=
        (isReadAccess_or_isWriteAccess _).resolve_right hnotWrite
      split
      all_goals
        exact ⟨hreadConsistent, hreadKeeps, hreadLinks hreads,
          fun hwrite => absurd hwrite hnotWrite⟩

variable {graph}

lemma Reaches.mono {before after : List GpuTaskDependencyEdge}
    (h : ∀ p c, EdgeRel before p c → EdgeRel after p c) {p c : GpuTaskId}
    (hreach : Reaches before p c) : Reaches after p c :=
  ReflTransGen.mono h _ _ hreach

lemma Orders.mono {before after : List GpuTaskDependencyEdge}
    (h : ∀ p c, EdgeRel before p c → EdgeRel after p c) {p c : GpuTaskId}
    (horders : Orders before p c) : Orders after p c :=
  TransGen.mono h _ _ horders

variable {c : Cell} {entry : TrackedResourceAccess}

/-- An entry over a touched cell overlaps the access unless it belongs to the same task. -/
lemma TrackedResourceAccess.Holds.overlaps {access : DeclaredAccess}
    (h : entry.Holds graph access.use c) (htouch : access.Touches graph c)
    (hne : entry.task ≠ access.task) :
    entry.overlaps (access.use.type graph) access.task access.use = true := by
  obtain ⟨hactive, hresource, hcovers⟩ := h
  simp [TrackedResourceAccess.overlaps, hactive, hne, hresource,
    rangesOverlap_of_common_cell hcovers htouch]

/-- Two uses of one resource look at the same cells of an entry. -/
lemma TrackedResourceAccess.Holds.congr {use use' : GpuTaskResourceUse}
    (h : entry.Holds graph use c) (hresource : use.resource = use'.resource) :
    entry.Holds graph use' c := by
  simpa [TrackedResourceAccess.Holds, GpuTaskResourceUse.type, hresource] using h

/-- Retiring contained entries either keeps an entry or shows it inside the write. -/
lemma deactivateContained_cases (type : GpuGraphResourceType) (use : GpuTaskResourceUse)
    {accesses : List TrackedResourceAccess} (hmem : entry ∈ accesses) :
    entry ∈ deactivateContained type use accesses ∨
      (entry.resource = use.resource ∧ rangeContains type use.range entry.range = true) := by
  by_cases hretired : (entry.active && entry.resource == use.resource
      && rangeContains type use.range entry.range) = true
  · simp only [Bool.and_eq_true, beq_iff_eq] at hretired
    exact Or.inr ⟨hretired.1.2, hretired.2⟩
  · refine Or.inl (List.mem_map.2 ⟨entry, hmem, ?_⟩)
    rw [if_neg hretired]

/-! ## The step -/

variable {x y : DeclaredAccess}

/-- The entry that remembers a processed access orders it before a conflicting later one. -/
lemma orders_of_remembered (hconsistent : state.table.Consistent) (hx : Remembered graph state x)
    (hconflict : x.Conflicts graph y) :
    Orders (inferAccess graph state y).table.edges x.task y.task := by
  obtain ⟨hne, hresource, ⟨c, hxc, hyc⟩, hwrites⟩ := hconflict
  obtain ⟨-, hkeeps, hwriters, hreaders⟩ := edgeRel_inferAccess graph hconsistent y
  rcases hx c hxc with ⟨writer, hmem, hholds, hreach⟩ | ⟨hread, reader, hmem, hholds, htask⟩
  · have hreach' := hreach.mono hkeeps
    by_cases hown : writer.task = y.task
    · -- the writer is an earlier access of the same task
      rw [hown] at hreach'
      exact (reflTransGen_iff_eq_or_transGen.1 hreach').resolve_left (Ne.symm hne)
    · have hedge := hwriters writer hmem ((hholds.congr hresource).overlaps hyc hown)
      exact TransGen.tail' hreach' hedge
  · have hwrite : isWriteAccess y.use.access = true := by
      rcases hwrites with hwrite | hwrite
      · rw [hread] at hwrite
        cases hwrite
      · exact hwrite
    have hedge := hreaders hwrite reader hmem
      ((hholds.congr hresource).overlaps hyc (by rw [htask]; exact hne))
    rw [htask] at hedge
    exact TransGen.single hedge

/-- A write leaves its own entry over all its cells. -/
lemma writer_of_inferAccess_write (state : HazardState) (hwrite : isWriteAccess y.use.access = true)
    (hyc : y.Touches graph c) :
    ∃ writer ∈ (inferAccess graph state y).writers,
      writer.Holds graph y.use c ∧ writer.task = y.task := by
  refine ⟨{ task := y.task, resource := y.use.resource, range := y.use.range }, ?_, ?_, rfl⟩
  · simp [inferAccess, inferUseHazards, hwrite]
  · exact ⟨rfl, rfl, hyc⟩

/-- What was remembered before an access is remembered after it: an entry the access retired lies
inside the access, whose own entry replaces it. -/
lemma remembered_step (hconsistent : state.table.Consistent) (hx : Remembered graph state x) :
    Remembered graph (inferAccess graph state y) x := by
  obtain ⟨-, hkeeps, hwriters, hreaders⟩ := edgeRel_inferAccess graph hconsistent y
  intro c hxc
  by_cases hwrite : isWriteAccess y.use.access = true
  · have hwritersEq : (inferAccess graph state y).writers
        = deactivateContained (y.use.type graph) y.use state.writers
          ++ [{ task := y.task, resource := y.use.resource, range := y.use.range }] := by
      simp [inferAccess, inferUseHazards, hwrite]
    have hreadersEq : (inferAccess graph state y).readers
        = deactivateContained (y.use.type graph) y.use state.readers := by
      simp [inferAccess, inferUseHazards, hwrite]
    -- a retired entry hands over to the write's own entry
    have hhandover : ∀ entry : TrackedResourceAccess, entry.Holds graph x.use c →
        entry.resource = y.use.resource →
        rangeContains (y.use.type graph) y.use.range entry.range = true →
        (entry.task ≠ y.task → EdgeRel (inferAccess graph state y).table.edges
          entry.task y.task) →
        Reaches (inferAccess graph state y).table.edges x.task entry.task →
        WriterAfter graph (inferAccess graph state y) x c := by
      intro entry hholds hresource hcontains hlink hreach
      have hsame : x.use.resource = y.use.resource := hholds.2.1.symm.trans hresource
      have hyc : y.Touches graph c :=
        rangeCovers_of_rangeContains hcontains (hholds.congr hsame).2.2
      obtain ⟨writer, hmem, hwriterHolds, htask⟩ :=
        writer_of_inferAccess_write state hwrite hyc
      refine ⟨writer, hmem, hwriterHolds.congr hsame.symm, ?_⟩
      rw [htask]
      by_cases hown : entry.task = y.task
      · rwa [← hown]
      · exact ReflTransGen.tail hreach (hlink hown)
    have htouch : ∀ entry : TrackedResourceAccess, entry.Holds graph x.use c →
        entry.resource = y.use.resource →
        rangeContains (y.use.type graph) y.use.range entry.range = true →
        entry.task ≠ y.task →
        entry.overlaps (y.use.type graph) y.task y.use = true := by
      intro entry hholds hresource hcontains hne
      have hsame : x.use.resource = y.use.resource := hholds.2.1.symm.trans hresource
      have hyHolds := hholds.congr hsame
      exact hyHolds.overlaps (rangeCovers_of_rangeContains hcontains hyHolds.2.2) hne
    rcases hx c hxc with ⟨writer, hmem, hholds, hreach⟩ | ⟨hread, reader, hmem, hholds, htask⟩
    · have hreach' := hreach.mono hkeeps
      rcases deactivateContained_cases (y.use.type graph) y.use hmem with
        hkept | ⟨hresource, hcontains⟩
      · refine Or.inl ⟨writer, ?_, hholds, hreach'⟩
        rw [hwritersEq]
        exact List.mem_append_left _ hkept
      · exact Or.inl (hhandover writer hholds hresource hcontains
          (fun hne => hwriters writer hmem (htouch writer hholds hresource hcontains hne)) hreach')
    · rcases deactivateContained_cases (y.use.type graph) y.use hmem with
        hkept | ⟨hresource, hcontains⟩
      · exact Or.inr ⟨hread, reader, by rw [hreadersEq]; exact hkept, hholds, htask⟩
      · refine Or.inl (hhandover reader hholds hresource hcontains
          (fun hne => hreaders hwrite reader hmem
            (htouch reader hholds hresource hcontains hne)) ?_)
        rw [htask]
        exact ReflTransGen.refl
  · have hread : isWriteAccess y.use.access = false := by simpa using hwrite
    have hwritersEq : (inferAccess graph state y).writers = state.writers := by
      by_cases hwritten : alreadyWrittenByTask (y.use.type graph) y.task y.use state.writers = true
        <;> simp [inferAccess, inferUseHazards, hread, hwritten]
    have hreadersSub : ∀ reader ∈ state.readers,
        reader ∈ (inferAccess graph state y).readers := by
      intro reader hmem
      by_cases hwritten : alreadyWrittenByTask (y.use.type graph) y.task y.use state.writers = true
        <;> simp [inferAccess, inferUseHazards, hread, hwritten, hmem]
    rcases hx c hxc with ⟨writer, hmem, hholds, hreach⟩ | ⟨hread, reader, hmem, hholds, htask⟩
    · exact Or.inl ⟨writer, hwritersEq ▸ hmem, hholds, hreach.mono hkeeps⟩
    · exact Or.inr ⟨hread, reader, hreadersSub reader hmem, hholds, htask⟩

/-- The access just processed is remembered. -/
lemma remembered_self (state : HazardState) (y : DeclaredAccess) :
    Remembered graph (inferAccess graph state y) y := by
  intro c hyc
  by_cases hwrite : isWriteAccess y.use.access = true
  · obtain ⟨writer, hmem, hholds, htask⟩ := writer_of_inferAccess_write state hwrite hyc
    refine Or.inl ⟨writer, hmem, hholds, ?_⟩
    rw [htask]
    exact ReflTransGen.refl
  · have hread : isWriteAccess y.use.access = false := by simpa using hwrite
    by_cases hwritten : alreadyWrittenByTask (y.use.type graph) y.task y.use state.writers = true
    · -- the task's earlier write contains the read
      obtain ⟨writer, hmem, hown⟩ := List.any_eq_true.1 hwritten
      simp only [Bool.and_eq_true, beq_iff_eq] at hown
      obtain ⟨⟨⟨hactive, htask⟩, hresource⟩, hcontains⟩ := hown
      refine Or.inl ⟨writer, ?_, ⟨hactive, hresource, ?_⟩, ?_⟩
      · simpa [inferAccess, inferUseHazards, hread, hwritten] using hmem
      · exact rangeCovers_of_rangeContains hcontains hyc
      · rw [htask]
        exact ReflTransGen.refl
    · refine Or.inr ⟨hread, { task := y.task, resource := y.use.resource, range := y.use.range },
        ?_, ⟨rfl, rfl, hyc⟩, rfl⟩
      simp [inferAccess, inferUseHazards, hread, hwritten]

/-- One access preserves the invariant. -/
theorem hazardInv_step {processed : List DeclaredAccess} (h : HazardInv graph processed state)
    (y : DeclaredAccess) :
    HazardInv graph (processed ++ [y]) (inferAccess graph state y) where
  consistent := (edgeRel_inferAccess graph h.consistent y).1
  remembered := by
    intro access hmem
    rcases List.mem_append.1 hmem with hold | hnew
    · exact remembered_step h.consistent (h.remembered access hold)
    · rw [List.mem_singleton.1 hnew]
      exact remembered_self state y
  ordered := by
    have hkeeps := (edgeRel_inferAccess graph h.consistent y).2.1
    refine List.pairwise_append.2 ⟨?_, List.pairwise_singleton _ _, ?_⟩
    · exact h.ordered.imp fun horders hconflict => (horders hconflict).mono hkeeps
    · intro x hx z hz hconflict
      rw [List.mem_singleton.1 hz] at hconflict ⊢
      exact orders_of_remembered h.consistent (h.remembered x hx) hconflict

/-! ## The run -/

/-- Processing a list of accesses. -/
lemma hazardInv_run {processed : List DeclaredAccess} (h : HazardInv graph processed state)
    (accesses : List DeclaredAccess) :
    HazardInv graph (processed ++ accesses) (accesses.foldl (inferAccess graph) state) := by
  induction accesses generalizing processed state with
  | nil => simpa using h
  | cons y rest ih =>
    have := ih (hazardInv_step h y)
    simpa using this

variable (graph)

/-- The declared accesses of a task, in declaration order. -/
def declaredAccesses (task : GpuTaskId) : List DeclaredAccess :=
  (graph.taskAt task.index).resourceUses.map fun use => { task, use }

lemma inferTaskHazards_eq_foldl (state : HazardState) (task : GpuTaskId) :
    inferTaskHazards graph state task
      = (declaredAccesses graph task).foldl (inferAccess graph) state := by
  simp [inferTaskHazards, declaredAccesses, List.foldl_map, inferAccess, GpuTaskResourceUse.type]

lemma inferHazards_eq_foldl (order : List GpuTaskId) (table : EdgeTable) :
    inferHazards graph order table
      = (order.flatMap (declaredAccesses graph)).foldl (inferAccess graph) { table } := by
  rw [List.foldl_flatMap, inferHazards]
  congr
  funext state task
  exact inferTaskHazards_eq_foldl graph state task

lemma declareDependencies_consistent : (declareDependencies graph).Consistent := by
  have htask : ∀ (table : EdgeTable) (task : GpuTaskGraphTaskView), table.Consistent →
      (declareTaskDependencies table task).Consistent := by
    intro table task h
    rw [declareTaskDependencies]
    induction task.dependencies generalizing table with
    | nil => exact h
    | cons dependency rest ih => exact ih _ (h.appendSchedulingEdge _)
  rw [declareDependencies]
  suffices h : ∀ (indices : List ℕ) (table : EdgeTable), table.Consistent →
      (indices.foldl (fun table index => declareTaskDependencies table (graph.taskAt index))
        table).Consistent from h _ _ (by simp [EdgeTable.Consistent])
  intro indices
  induction indices with
  | nil => exact fun _ h => h
  | cons index rest ih => exact fun table h => ih _ (htask table _ h)

/-- The invariant after the whole hazard loop. -/
theorem hazardInv_inferHazards (order : List GpuTaskId) :
    HazardInv graph (order.flatMap (declaredAccesses graph))
      (inferHazards graph order (declareDependencies graph)) := by
  have hinit : HazardInv graph [] { table := declareDependencies graph } :=
    ⟨declareDependencies_consistent graph, by simp, List.Pairwise.nil⟩
  rw [inferHazards_eq_foldl]
  simpa using hazardInv_run hinit (order.flatMap (declaredAccesses graph))

/-! ## Soundness -/

/-- Accesses of tasks listed in this order appear in this order. -/
lemma listedBefore_flatMap {order : List GpuTaskId} {a b : GpuTaskId} (h : ListedBefore order a b)
    (hx : x ∈ declaredAccesses graph a) (hy : y ∈ declaredAccesses graph b) :
    ListedBefore (order.flatMap (declaredAccesses graph)) x y := by
  have hpair : [x, y].Sublist ([a, b].flatMap (declaredAccesses graph)) := by
    simpa using (List.singleton_sublist.2 hx).append (List.singleton_sublist.2 hy)
  exact hpair.trans (List.Sublist.flatMap h _)

/-- Two tasks with conflicting accesses are joined by a path of analysis edges, oriented by the
explicit order. -/
lemma orders_of_conflict (success : AnalysisSuccess graph) {a b : GpuTaskId}
    (ha : graph.validTask a = true) (hb : graph.validTask b = true)
    {useA useB : GpuTaskResourceUse} (huseA : useA ∈ (graph.taskAt a.index).resourceUses)
    (huseB : useB ∈ (graph.taskAt b.index).resourceUses)
    (hconflict : DeclaredAccess.Conflicts graph ⟨a, useA⟩ ⟨b, useB⟩) :
    (ListedBefore (explicitOrder graph) a b ∧ Orders (analyze graph).edges a b) ∨
      (ListedBefore (explicitOrder graph) b a ∧ Orders (analyze graph).edges b a) := by
  have hinv := hazardInv_inferHazards graph (explicitOrder graph)
  have hmemA : (⟨a, useA⟩ : DeclaredAccess) ∈ declaredAccesses graph a :=
    List.mem_map_of_mem huseA
  have hmemB : (⟨b, useB⟩ : DeclaredAccess) ∈ declaredAccesses graph b :=
    List.mem_map_of_mem huseB
  obtain ⟨hne, hresource, ⟨c, hca, hcb⟩, hwrites⟩ := hconflict
  rw [success.edges_eq]
  rcases listedBefore_total ((mem_order_iff success.explicit).2 ha)
    ((mem_order_iff success.explicit).2 hb) hne with hbefore | hbefore
  · refine Or.inl ⟨hbefore, List.pairwise_iff_forall_sublist.1 hinv.ordered
      (listedBefore_flatMap graph hbefore hmemA hmemB) ?_⟩
    exact ⟨hne, hresource, ⟨c, hca, hcb⟩, hwrites⟩
  · refine Or.inr ⟨hbefore, List.pairwise_iff_forall_sublist.1 hinv.ordered
      (listedBefore_flatMap graph hbefore hmemB hmemA) ?_⟩
    exact ⟨Ne.symm hne, hresource.symm, ⟨c, hcb, hca⟩, hwrites.symm⟩

/-- If analysis succeeds, two tasks with overlapping uses of one resource, one of them writing,
are joined by a path of analysis edges, oriented by the explicit order. -/
theorem analyze_orders_conflicting_uses (h : (analyze graph).valid = true)
    {a b : GpuTaskId} (ha : graph.validTask a = true) (hb : graph.validTask b = true)
    (hne : a ≠ b) {useA useB : GpuTaskResourceUse}
    (huseA : useA ∈ (graph.taskAt a.index).resourceUses)
    (huseB : useB ∈ (graph.taskAt b.index).resourceUses)
    (hresource : useA.resource = useB.resource)
    (hoverlap : rangesOverlap (graph.resourceAt useA.resource.index).type useA.range useB.range
      = true)
    (hwrites : isWriteAccess useA.access = true ∨ isWriteAccess useB.access = true) :
    (ListedBefore (explicitOrder graph) a b ∧ Orders (analyze graph).edges a b) ∨
      (ListedBefore (explicitOrder graph) b a ∧ Orders (analyze graph).edges b a) := by
  have success := analyze_success h
  have hvalidRange : ∀ {id : GpuTaskId} {use : GpuTaskResourceUse}, graph.validTask id = true →
      use ∈ (graph.taskAt id.index).resourceUses →
      use.type graph = .texture → isValidTextureRange use.range.textureSubresources = true := by
    intro id use hid huse htype
    have := (success.accepted (graph.validTask_iff.1 hid).2.2).ranges use huse
    rw [GpuTaskResourceUse.type] at htype
    simpa [isValidUseRange, htype] using this
  have htypes : useA.type graph = useB.type graph := by
    simp [GpuTaskResourceUse.type, hresource]
  obtain ⟨c, hca, hcb⟩ := exists_common_cell (hvalidRange ha huseA)
    (fun htype => hvalidRange hb huseB (htypes ▸ htype)) hoverlap
  have hcb' : (⟨b, useB⟩ : DeclaredAccess).Touches graph c := by
    show rangeCovers (useB.type graph) _ _ = true
    rw [← htypes]
    exact hcb
  exact orders_of_conflict graph success ha hb huseA huseB
    ⟨hne, hresource, ⟨c, hca, hcb'⟩, hwrites⟩

lemma length_oneTexture :
    [({ identity := 4, type := .texture } : GpuGraphResourceNode)].length ≤ u32Max := by decide

lemma oneTexture_declared :
    ∀ resource ∈ [({ identity := 4, type := .texture } : GpuGraphResourceNode)],
      validResourceDeclaration (validHandle 1 0) resource = true := by decide

/-- Two writers of one mip range and a reader across it. -/
def overlappingWritersGraph : GpuTaskGraph where
  generation := 1
  tasks :=
    [{ identity := 1
       resourceUses := [{ resource := ⟨0, 1⟩, access := .write, requiredState := 64
                          range := { textureSubresources := ⟨0, 2, 0, allArraySlices⟩ } }] },
     { identity := 2
       resourceUses := [{ resource := ⟨0, 1⟩, access := .write, requiredState := 64 }] },
     { identity := 3
       resourceUses := [{ resource := ⟨0, 1⟩, requiredState := 32
                          range := { textureSubresources := ⟨1, 2, 0, 1⟩ } }] }]
  resources := [{ identity := 4, type := .texture }]
  externalCompletions := []
  generation_ne_zero := Nat.one_ne_zero
  tasks_length_le := by decide
  resources_length_le := length_oneTexture
  resources_declared := oneTexture_declared

theorem analyze_orders_overlappingWriters :
    (ListedBefore (explicitOrder overlappingWritersGraph) ⟨0, 1⟩ ⟨2, 1⟩ ∧
      Orders (analyze overlappingWritersGraph).edges ⟨0, 1⟩ ⟨2, 1⟩) ∨
    (ListedBefore (explicitOrder overlappingWritersGraph) ⟨2, 1⟩ ⟨0, 1⟩ ∧
      Orders (analyze overlappingWritersGraph).edges ⟨2, 1⟩ ⟨0, 1⟩) :=
  analyze_orders_conflicting_uses overlappingWritersGraph (by decide) (by decide) (by decide)
    (by decide) List.mem_cons_self List.mem_cons_self (by decide) (by decide) (by decide)

end NwbLot.TaskGraph
