import NwbLot.Alloc.JobNodes

/-!
# Resolved handles and awaited jobs

What a change of one node does to the handles that resolve, and to the number of entries that wait
for a job.

A handle resolves as long as its node has its generation and is not completed.  `awaited` counts
the entries that wait for a job.
-/

namespace NwbLot.Alloc

open TaskGraph

/-! ## Handles that resolve -/

variable {nodes : List JobNode} {handle : JobHandle} {node : JobNode}

lemma tryResolveNode_eq_some :
    tryResolveNode nodes handle = some node ↔ handle.valid = true ∧
      nodes[handle.index]? = some node ∧ node.generation = handle.generation ∧
        node.completed = false := by
  unfold tryResolveNode
  by_cases hvalid : handle.valid = true
  · rw [if_pos hvalid]
    cases hnode : nodes[handle.index]? with
    | none => simp
    | some found =>
      by_cases hstale : found.generation ≠ handle.generation ∨ found.completed = true
      · simp only [if_pos hstale, reduceCtorEq, Option.some.injEq, false_iff, not_and]
        rintro - rfl hgeneration hlive
        rcases hstale with hne | hcompleted
        · exact hne hgeneration
        · rw [hcompleted] at hlive
          cases hlive
      · simp only [if_neg hstale, Option.some.injEq]
        rw [not_or, not_not, Bool.not_eq_true] at hstale
        constructor
        · rintro rfl
          exact ⟨hvalid, rfl, hstale.1, hstale.2⟩
        · rintro ⟨-, rfl, -⟩
          rfl
  · rw [if_neg hvalid]
    simp [hvalid]

variable {node' : JobNode}

/-- Two handles that resolve on one node are one handle. -/
lemma handle_eq_of_index_eq {other : JobHandle} (h : tryResolveNode nodes handle = some node)
    (h' : tryResolveNode nodes other = some node') (hindex : handle.index = other.index) :
    handle = other := by
  obtain ⟨-, hget, hgeneration, -⟩ := tryResolveNode_eq_some.1 h
  obtain ⟨-, hget', hgeneration', -⟩ := tryResolveNode_eq_some.1 h'
  rw [hindex, hget', Option.some.injEq] at hget
  subst hget
  cases handle
  cases other
  simp_all

variable {index : ℕ}

/-- A new node in place of a node with the same generation, as live as that. -/
lemma tryResolveNode_set (hnode : nodes[index]? = some node)
    (hgeneration : node'.generation = node.generation)
    (hcompleted : node'.completed = node.completed) (handle : JobHandle) :
    tryResolveNode (nodes.set index node') handle =
      if handle.index = index then (tryResolveNode nodes handle).map fun _ => node'
      else tryResolveNode nodes handle := by
  have hlt : index < nodes.length := (List.getElem?_eq_some_iff.1 hnode).1
  unfold tryResolveNode
  split_ifs with hvalid hindex hindex
  · rw [hindex, List.getElem?_set_self hlt, hnode]
    simp only [hgeneration, hcompleted]
    split_ifs <;> rfl
  · rw [List.getElem?_set_ne (Ne.symm hindex)]
  · rfl
  · rfl

lemma tryResolveNode_set_self (h : tryResolveNode nodes handle = some node)
    (hgeneration : node'.generation = node.generation)
    (hcompleted : node'.completed = node.completed) :
    tryResolveNode (nodes.set handle.index node') handle = some node' := by
  rw [tryResolveNode_set (tryResolveNode_eq_some.1 h).2.1 hgeneration hcompleted, if_pos rfl, h]
  rfl

lemma tryResolveNode_set_of_ne (hne : handle.index ≠ index) :
    tryResolveNode (nodes.set index node') handle = tryResolveNode nodes handle := by
  unfold tryResolveNode
  rw [List.getElem?_set_ne (Ne.symm hne)]

lemma isComplete_eq (nodes : List JobNode) (handle : JobHandle) :
    isComplete nodes handle = (tryResolveNode nodes handle).isNone := by
  unfold isComplete isPending tryResolveNode
  by_cases hvalid : handle.valid = true
  · rw [if_pos hvalid, if_pos hvalid]
    cases nodes[handle.index]? with
    | none => rfl
    | some node =>
      by_cases hgeneration : node.generation = handle.generation
      · cases hcompleted : node.completed <;> simp [hgeneration, hcompleted]
      · simp [hgeneration]
  · rw [if_neg hvalid, if_neg hvalid]
    rfl

/-! ## Awaited jobs -/

/-- The entries of all nodes that wait to release a job. -/
def awaited (nodes : List JobNode) (handle : JobHandle) : ℕ :=
  (nodes.flatMap fun node => node.dependents).count handle

lemma awaited_append (nodes nodes' : List JobNode) (handle : JobHandle) :
    awaited (nodes ++ nodes') handle = awaited nodes handle + awaited nodes' handle := by
  simp [awaited]

lemma awaited_cons (node : JobNode) (nodes : List JobNode) (handle : JobHandle) :
    awaited (node :: nodes) handle = node.dependents.count handle + awaited nodes handle := by
  simp [awaited]

lemma awaited_set (hnode : nodes[index]? = some node) (node' : JobNode) (handle : JobHandle) :
    awaited (nodes.set index node') handle + node.dependents.count handle
      = awaited nodes handle + node'.dependents.count handle := by
  induction nodes generalizing index with
  | nil => cases hnode
  | cons head rest ih =>
    cases index with
    | zero =>
      obtain rfl : head = node := by simpa using hnode
      rw [List.set_cons_zero, awaited_cons, awaited_cons]
      omega
    | succ index =>
      have hrest := ih (by simpa using hnode)
      rw [List.set_cons_succ, awaited_cons, awaited_cons]
      omega

lemma awaited_set_of_eq (hnode : nodes[index]? = some node)
    (hsame : node'.dependents = node.dependents) (handle : JobHandle) :
    awaited (nodes.set index node') handle = awaited nodes handle := by
  have hcount := awaited_set hnode node' handle
  rw [hsame] at hcount
  omega

lemma awaited_congr {nodes' : List JobNode}
    (h : nodes.map (fun node => node.dependents) = nodes'.map fun node => node.dependents)
    (handle : JobHandle) : awaited nodes handle = awaited nodes' handle := by
  rw [awaited, awaited, List.flatMap_def, List.flatMap_def, h]

lemma awaited_pos_iff :
    0 < awaited nodes handle ↔ ∃ node ∈ nodes, handle ∈ node.dependents := by
  rw [awaited, List.count_pos_iff, List.mem_flatMap]

end NwbLot.Alloc
