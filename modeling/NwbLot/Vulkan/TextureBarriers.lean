import Mathlib.Data.List.Induction
import Mathlib.Data.List.Nodup
import NwbLot.Vulkan.StateTracker

/-!
# The barriers of a texture transition

The scan of `setTextureState` starts out for one barrier over the whole range and falls back to one
barrier for each subresource in the middle.  Either way it emits, cell by cell, what the rule for a
single subresource asks for.
-/

namespace NwbLot.Vulkan
namespace StateTracking

open TaskGraph

/-! ## The order of the loops -/

section Cells

variable {subresources : TextureSubresourceSet} {cell : Cell}

lemma mem_cells : cell ∈ cells subresources ↔
    (subresources.baseMipLevel.toNat ≤ cell.1
        ∧ cell.1 < (subresources.baseMipLevel + subresources.numMipLevels).toNat)
      ∧ subresources.baseArraySlice.toNat ≤ cell.2
        ∧ cell.2 < (subresources.baseArraySlice + subresources.numArraySlices).toNat := by
  obtain ⟨mipLevel, arraySlice⟩ := cell
  simp only [cells, List.mem_flatMap, List.mem_map, List.mem_range'_1, Prod.mk.injEq]
  constructor
  · rintro ⟨slice, hslice, mip, hmip, rfl, rfl⟩
    omega
  · rintro ⟨hmip, hslice⟩
    exact ⟨arraySlice, by omega, mipLevel, by omega, rfl, rfl⟩

lemma nodup_cells (subresources : TextureSubresourceSet) : (cells subresources).Nodup := by
  refine List.nodup_flatMap.2 ⟨fun slice _ => ?_, ?_⟩
  · exact List.Nodup.map (fun _ _ h => (Prod.mk.inj h).1) List.nodup_range'
  · refine List.Pairwise.imp ?_ List.nodup_range'
    intro slice slice' hne cell hcell hcell'
    obtain ⟨_, -, rfl⟩ := List.mem_map.1 hcell
    obtain ⟨_, -, heq⟩ := List.mem_map.1 hcell'
    exact hne (Prod.mk.inj heq).2.symm

lemma range'_split {start length k : ℕ} (hstart : start ≤ k) (hk : k < start + length) :
    List.range' start length
      = List.range' start (k - start) ++ k :: List.range' (k + 1) (start + length - (k + 1)) := by
  have hlength : length = (k - start) + (1 + (start + length - (k + 1))) := by omega
  have hmiddle : start + (k - start) = k := by omega
  conv_lhs => rw [hlength]
  rw [← List.range'_append_1, hmiddle, Nat.add_comm 1, List.range'_succ]

/-- The cells before one of the range, as the appending loop visits them, are those before it in the
order of the scan. -/
lemma cells_eq_cellsBefore (hcell : cell ∈ cells subresources) :
    ∃ later, cells subresources = cellsBefore subresources cell ++ cell :: later := by
  obtain ⟨mipLevel, arraySlice⟩ := cell
  obtain ⟨hmip, hslice⟩ := mem_cells.1 hcell
  dsimp only at hmip hslice
  unfold cells cellsBefore
  dsimp only
  generalize (subresources.baseMipLevel + subresources.numMipLevels).toNat = mipEnd at hmip ⊢
  generalize (subresources.baseArraySlice + subresources.numArraySlices).toNat = arrayEnd
    at hslice ⊢
  generalize subresources.baseMipLevel.toNat = mipBegin at hmip ⊢
  generalize subresources.baseArraySlice.toNat = arrayBegin at hslice ⊢
  have hsuffix : arraySlice + 1 - arrayBegin = arraySlice - arrayBegin + 1 := by omega
  have hlast : arrayBegin + (arraySlice - arrayBegin) = arraySlice := by omega
  have hearlier : ((List.range' arrayBegin (arraySlice - arrayBegin)).flatMap fun slice =>
        (List.range' mipBegin ((if slice = arraySlice then mipLevel else mipEnd) - mipBegin)).map
          fun mip => (mip, slice))
      = (List.range' arrayBegin (arraySlice - arrayBegin)).flatMap fun slice =>
        (List.range' mipBegin (mipEnd - mipBegin)).map fun mip => (mip, slice) := by
    refine List.flatMap_congr fun slice hmem => ?_
    rw [List.mem_range'_1] at hmem
    rw [if_neg (by omega)]
  have hrow : (List.range' mipBegin (mipEnd - mipBegin)).map (fun mip => (mip, arraySlice))
      = (List.range' mipBegin (mipLevel - mipBegin)).map (fun mip => (mip, arraySlice))
        ++ (mipLevel, arraySlice)
          :: (List.range' (mipLevel + 1) (mipBegin + (mipEnd - mipBegin) - (mipLevel + 1))).map
            (fun mip => (mip, arraySlice)) := by
    rw [range'_split hmip.1 (show mipLevel < mipBegin + (mipEnd - mipBegin) by omega),
      List.map_append, List.map_cons]
  rw [range'_split hslice.1 (show arraySlice < arrayBegin + (arrayEnd - arrayBegin) by omega),
    hsuffix, List.range'_1_concat, List.flatMap_append, List.flatMap_append, hearlier, hlast,
    List.flatMap_cons, List.flatMap_singleton, if_pos rfl, hrow]
  simp only [List.append_assoc, List.cons_append]
  exact ⟨_, rfl⟩

lemma cellsBefore_eq {before after : List Cell} (h : cells subresources = before ++ cell :: after) :
    cellsBefore subresources cell = before := by
  have hmem : cell ∈ cells subresources := by simp [h]
  obtain ⟨later, hlater⟩ := cells_eq_cellsBefore hmem
  have hfresh : ∀ {front back : List Cell}, cells subresources = front ++ cell :: back →
      cell ∉ front ∧ cell ∉ back := by
    intro front back heq
    have hnodup := nodup_cells subresources
    rw [heq] at hnodup
    have := List.nodup_middle.1 hnodup
    rw [List.nodup_cons, List.mem_append, not_or] at this
    exact this.1
  have heq := hlater.symm.trans h
  exact ((List.append_cons_inj_of_notMem (hfresh hlater).1 (hfresh hlater).2).1 heq).1

/-- The subresources of a range. -/
def Covers (subresources : TextureSubresourceSet) (cell : Cell) : Prop :=
  (subresources.baseMipLevel.toNat ≤ cell.1
      ∧ cell.1 < subresources.baseMipLevel.toNat + subresources.numMipLevels.toNat)
    ∧ subresources.baseArraySlice.toNat ≤ cell.2
      ∧ cell.2 < subresources.baseArraySlice.toNat + subresources.numArraySlices.toNat

instance (subresources : TextureSubresourceSet) (cell : Cell) :
    Decidable (Covers subresources cell) :=
  inferInstanceAs (Decidable (_ ∧ _))

/-- A resolved axis ends within the texture or is empty. -/
lemma resolveCount_cases (base count all available : UInt32) :
    resolveCount base count all available = 0
      ∨ base.toNat + (resolveCount base count all available).toNat ≤ available.toNat := by
  have hcount := toNat_resolveCount base count all available
  by_cases hlt : base.toNat < available.toNat
  · right
    split at hcount <;> omega
  · left
    refine UInt32.toNat_inj.1 (hcount.trans ?_)
    rw [Nat.sub_eq_zero_of_le (by omega), Nat.min_zero, ite_self]
    rfl

/-- Resolved ranges end at 2^32 - 1 at the latest, so the loops visit all their subresources. -/
lemma mem_cells_resolve {desc : TextureDesc} :
    cell ∈ cells (subresources.resolve desc) ↔ Covers (subresources.resolve desc) cell := by
  have haxis : ∀ base count : UInt32, count = 0 ∨ base.toNat + count.toNat < 2 ^ 32 →
      ∀ x : ℕ, base.toNat ≤ x ∧ x < (base + count).toNat
        ↔ base.toNat ≤ x ∧ x < base.toNat + count.toNat := by
    rintro base count (rfl | hlt) x
    · simp
    · rw [UInt32.toNat_add, Nat.mod_eq_of_lt hlt]
  have hmips : (subresources.resolve desc).numMipLevels = 0
      ∨ (subresources.resolve desc).baseMipLevel.toNat
        + (subresources.resolve desc).numMipLevels.toNat < 2 ^ 32 := by
    refine (resolveCount_cases _ _ _ _).imp_right fun hle => ?_
    exact lt_of_le_of_lt hle desc.mipLevels.toNat_lt
  have hslices : (subresources.resolve desc).numArraySlices = 0
      ∨ (subresources.resolve desc).baseArraySlice.toNat
        + (subresources.resolve desc).numArraySlices.toNat < 2 ^ 32 := by
    simp only [TextureSubresourceSet.resolve]
    split
    · refine (resolveCount_cases _ _ _ _).imp_right fun hle => ?_
      exact lt_of_le_of_lt hle desc.arraySize.toNat_lt
    · exact Or.inr (by decide)
  rw [mem_cells, Covers, haxis _ _ hmips, haxis _ _ hslices]

end Cells

/-! ## Tracking -/

section Tracking

variable {TextureId : Type} [DecidableEq TextureId]

/-- Tracking a range sets the entries of its subresources and no others. -/
lemma textureStates_beginTracking (tracker : StateTracker TextureId) (texture : TextureId)
    (resolvedSubresources : TextureSubresourceSet) (state : ResourceStates)
    (key : TextureSubresourceStateKey TextureId) :
    (tracker.beginTrackingResolvedTransientTexture texture resolvedSubresources
        state).textureStates key
      = if key.texture = texture ∧ key.cell ∈ cells resolvedSubresources then some state
        else tracker.textureStates key := by
  rw [StateTracker.beginTrackingResolvedTransientTexture]
  induction cells resolvedSubresources using List.reverseRecOn with
  | nil => simp
  | append_singleton before cell ih =>
    rw [List.foldl_append, List.foldl_cons, List.foldl_nil]
    dsimp only
    rw [Function.update_apply, ih]
    obtain ⟨other, otherCell⟩ := key
    simp only [TextureSubresourceStateKey.mk.injEq, List.mem_append, List.mem_singleton]
    split_ifs <;> first | rfl | grind

lemma permanentTextureStates_beginTracking (tracker : StateTracker TextureId) (texture : TextureId)
    (resolvedSubresources : TextureSubresourceSet) (state : ResourceStates) :
    (tracker.beginTrackingResolvedTransientTexture texture resolvedSubresources
        state).permanentTextureStates = tracker.permanentTextureStates := by
  rw [StateTracker.beginTrackingResolvedTransientTexture]
  induction cells resolvedSubresources generalizing tracker with
  | nil => rfl
  | cons cell rest ih => exact ih _

end Tracking

/-! ## The scan -/

section Scans

variable {TextureId : Type} {texture : TextureId} {stateBits : ResourceStates}
  {resolvedSubresources : TextureSubresourceSet} {uavBarrierEnabled : Bool}
  {stateOf : Cell → ResourceStates} {pending : List (TextureStateBarrier TextureId)}
  {scan : Scan TextureId} {before : List Cell}

/-- The barriers of the subresources that need one, each on its own. -/
def cellBarriers (texture : TextureId) (stateBits : ResourceStates) (uavBarrierEnabled : Bool)
    (stateOf : Cell → ResourceStates) (visited : List Cell) :
    List (TextureStateBarrier TextureId) :=
  (visited.filter fun cell =>
      needsTextureStateBarrier (stateOf cell) stateBits uavBarrierEnabled).map
    fun cell => cellBarrier texture stateBits cell (stateOf cell)

/-- What the scan holds after some subresources: either all of them are in one state and nothing has
been appended, or the barriers of each have been. -/
structure Visited (texture : TextureId) (stateBits : ResourceStates) (uavBarrierEnabled : Bool)
    (stateOf : Cell → ResourceStates) (pending : List (TextureStateBarrier TextureId))
    (visited : List Cell) (scan : Scan TextureId) : Prop where
  first : scan.firstSubresource = visited.isEmpty
  needs : scan.needsBarrier = visited.any fun cell =>
    needsTextureStateBarrier (stateOf cell) stateBits uavBarrierEnabled
  index : scan.firstBarrierIndex = pending.length
  uniform : scan.usePerSubresourceBarriers = false →
    scan.pendingImageBarriers = pending ∧ ∀ cell ∈ visited, stateOf cell = scan.oldState
  single : scan.usePerSubresourceBarriers = true →
    visited ≠ [] ∧ scan.pendingImageBarriers
      = pending ++ cellBarriers texture stateBits uavBarrierEnabled stateOf visited

lemma Visited.start : Visited texture stateBits uavBarrierEnabled stateOf pending []
    { firstBarrierIndex := pending.length, pendingImageBarriers := pending } where
  first := rfl
  needs := rfl
  index := rfl
  uniform := by simp
  single := by simp

/-- The barriers of subresources that are all in one state. -/
lemma cellBarriers_uniform {oldState : ResourceStates}
    (h : ∀ cell ∈ before, stateOf cell = oldState) :
    cellBarriers texture stateBits uavBarrierEnabled stateOf before
      = if needsTextureStateBarrier oldState stateBits uavBarrierEnabled then
          before.map fun cell => cellBarrier texture stateBits cell oldState
        else [] := by
  rw [cellBarriers]
  have hfilter : (before.filter fun cell =>
        needsTextureStateBarrier (stateOf cell) stateBits uavBarrierEnabled)
      = before.filter fun _ => needsTextureStateBarrier oldState stateBits uavBarrierEnabled :=
    List.filter_congr fun cell hmem => by rw [h cell hmem]
  rw [hfilter]
  split
  · next hneeds =>
      rw [List.filter_eq_self.2 fun _ _ => hneeds]
      exact List.map_congr_left fun cell hmem => by rw [h cell hmem]
  · next hneeds =>
      rw [List.filter_eq_nil_iff.2 fun _ _ => hneeds, List.map_nil]

/-- The part of the step before the subresource's own barrier: the barriers of the ones before it
are there when it is the first in another state. -/
lemma Visited.compare {cell : Cell} {after : List Cell}
    (h : Visited texture stateBits uavBarrierEnabled stateOf pending before scan)
    (hcells : cells resolvedSubresources = before ++ cell :: after) :
    let compared :=
      scan.compare texture stateBits resolvedSubresources uavBarrierEnabled stateOf cell
    compared.firstSubresource = false ∧ compared.needsBarrier = scan.needsBarrier
      ∧ compared.firstBarrierIndex = pending.length
      ∧ (compared.usePerSubresourceBarriers = false →
          compared.pendingImageBarriers = pending
            ∧ ∀ visited ∈ before ++ [cell], stateOf visited = compared.oldState)
      ∧ (compared.usePerSubresourceBarriers = true →
          compared.pendingImageBarriers
            = pending ++ cellBarriers texture stateBits uavBarrierEnabled stateOf before) := by
  intro compared
  obtain ⟨hfirst, hneeds, hindex, huniform, hsingle⟩ := h
  by_cases hnil : scan.firstSubresource = true
  · have hcompared : compared
        = { scan with oldState := stateOf cell, firstSubresource := false } := if_pos hnil
    have hempty : before = [] := by simpa [hfirst] using hnil
    have huse : scan.usePerSubresourceBarriers = false := by
      by_contra huse
      exact (hsingle (by simpa using huse)).1 hempty
    rw [hcompared, hempty]
    refine ⟨rfl, rfl, hindex, fun _ => ⟨(huniform huse).1, by simp⟩, fun hcontra => ?_⟩
    exact absurd hcontra (by simp [huse])
  · by_cases hmismatch : (stateOf cell != scan.oldState && !scan.usePerSubresourceBarriers) = true
    · have hcompared : compared = _ := (if_neg hnil).trans (if_pos hmismatch)
      obtain ⟨-, huse⟩ := Bool.and_eq_true_iff.1 hmismatch
      obtain ⟨hpending, hsame⟩ := huniform (by simpa using huse)
      rw [hcompared, cellsBefore_eq hcells, cellBarriers_uniform hsame, hpending]
      refine ⟨by simpa using hnil, rfl, rfl, fun hcontra => by simp at hcontra, fun _ => ?_⟩
      dsimp only
      split
      · rfl
      · rw [List.append_nil]
    · have hcompared : compared = scan := (if_neg hnil).trans (if_neg hmismatch)
      rw [hcompared]
      refine ⟨by simpa using hnil, rfl, hindex, fun huse => ?_, fun huse => (hsingle huse).2⟩
      obtain ⟨hpending, hsame⟩ := huniform huse
      have hcell : stateOf cell = scan.oldState := by simpa [huse] using hmismatch
      refine ⟨hpending, fun visited hmem => ?_⟩
      rcases List.mem_append.1 hmem with hbefore | hthis
      · exact hsame visited hbefore
      · rw [List.mem_singleton.1 hthis, hcell]

lemma Visited.visit {cell : Cell} {after : List Cell}
    (h : Visited texture stateBits uavBarrierEnabled stateOf pending before scan)
    (hcells : cells resolvedSubresources = before ++ cell :: after) :
    Visited texture stateBits uavBarrierEnabled stateOf pending (before ++ [cell])
      (scan.visit texture stateBits resolvedSubresources uavBarrierEnabled stateOf cell) := by
  obtain ⟨hfirst, hneeds, hindex, huniform, hsingle⟩ := h.compare hcells
  have hany := h.needs
  rw [Scan.visit]
  generalize scan.compare texture stateBits resolvedSubresources uavBarrierEnabled stateOf cell
    = compared at hfirst hneeds hindex huniform hsingle ⊢
  rw [Scan.append]
  have hbarriers : cellBarriers texture stateBits uavBarrierEnabled stateOf (before ++ [cell])
      = cellBarriers texture stateBits uavBarrierEnabled stateOf before
        ++ if needsTextureStateBarrier (stateOf cell) stateBits uavBarrierEnabled then
            [cellBarrier texture stateBits cell (stateOf cell)] else [] := by
    rw [cellBarriers, List.filter_append, List.map_append, List.filter_singleton]
    cases needsTextureStateBarrier (stateOf cell) stateBits uavBarrierEnabled <;> rfl
  by_cases hcell : needsTextureStateBarrier (stateOf cell) stateBits uavBarrierEnabled = true
  · rw [if_pos hcell]
    rw [if_pos hcell] at hbarriers
    refine ⟨by simp [hfirst], by simp [hcell], hindex, fun huse => ?_, fun huse => ⟨by simp, ?_⟩⟩
    · dsimp only at huse ⊢
      rw [if_neg (by simp [huse])]
      exact huniform huse
    · dsimp only at huse ⊢
      rw [if_pos huse, hsingle huse, hbarriers, List.append_assoc]
  · rw [if_neg hcell]
    rw [if_neg hcell, List.append_nil] at hbarriers
    refine ⟨by simp [hfirst], by simp [hneeds, hany, hcell], hindex, huniform, fun huse => ?_⟩
    refine ⟨by simp, ?_⟩
    rw [hbarriers]
    exact hsingle huse

/-- The scan of the whole range. -/
lemma visited_foldl (texture : TextureId) (stateBits : ResourceStates)
    (resolvedSubresources : TextureSubresourceSet) (uavBarrierEnabled : Bool)
    (stateOf : Cell → ResourceStates) (pending : List (TextureStateBarrier TextureId)) :
    Visited texture stateBits uavBarrierEnabled stateOf pending (cells resolvedSubresources)
      ((cells resolvedSubresources).foldl
        (Scan.visit texture stateBits resolvedSubresources uavBarrierEnabled stateOf)
        { firstBarrierIndex := pending.length, pendingImageBarriers := pending }) := by
  have hprefix : ∀ before after, cells resolvedSubresources = before ++ after →
      Visited texture stateBits uavBarrierEnabled stateOf pending before
        (before.foldl (Scan.visit texture stateBits resolvedSubresources uavBarrierEnabled stateOf)
          { firstBarrierIndex := pending.length, pendingImageBarriers := pending }) := by
    intro before
    induction before using List.reverseRecOn with
    | nil => exact fun _ _ => .start
    | append_singleton before cell ih =>
      intro after hcells
      rw [List.append_assoc, List.singleton_append] at hcells
      rw [List.foldl_append]
      exact (ih _ hcells).visit hcells
  exact hprefix _ [] (by simp)

end Scans

/-! ## The transition -/

namespace CommandList

variable {TextureId : Type} [DecidableEq TextureId] {list : CommandList TextureId}
  {texture : TextureId} {resolvedSubresources : TextureSubresourceSet} {stateBits : ResourceStates}

/-- The state a subresource is tracked in; a permanent one hides the others. -/
def trackedState (list : CommandList TextureId) (texture : TextureId) (cell : Cell) :
    ResourceStates :=
  (list.stateTracker.permanentTextureStates texture).getD (list.stateOf texture cell)

/-- The rule for one subresource. -/
def NeedsBarrier (list : CommandList TextureId) (texture : TextureId)
    (stateBits oldState : ResourceStates) : Prop :=
  oldState ≠ stateBits ∨ ResourceStates.hasUnorderedAccess stateBits = true
    ∧ list.stateTracker.isUavBarrierEnabledForTexture texture = true

omit [DecidableEq TextureId] in
lemma needsTextureStateBarrier_iff {oldState : ResourceStates} :
    needsTextureStateBarrier oldState stateBits (list.uavBarrierEnabled texture stateBits) = true
      ↔ list.NeedsBarrier texture stateBits oldState := by
  simp only [needsTextureStateBarrier, uavBarrierEnabled, NeedsBarrier, Bool.or_eq_true, bne_iff_ne,
    Bool.and_eq_true, beq_iff_eq]
  tauto

/-- The barriers are recorded in one command, or wait for the next commit. -/
def Delivered (list after : CommandList TextureId)
    (emitted : List (TextureStateBarrier TextureId)) : Prop :=
  if list.enableAutomaticBarriers then
    after.pendingImageBarriers = list.pendingImageBarriers
      ∧ after.pipelineBarriers = list.pipelineBarriers ++ if emitted = [] then [] else [emitted]
  else
    after.pendingImageBarriers = list.pendingImageBarriers ++ emitted
      ∧ after.pipelineBarriers = list.pipelineBarriers

/-- What a transition of a range does, with the barriers it emits. -/
structure Transition (list after : CommandList TextureId) (texture : TextureId)
    (resolvedSubresources : TextureSubresourceSet) (stateBits : ResourceStates)
    (emitted : List (TextureStateBarrier TextureId)) : Prop where
  delivered : Delivered list after emitted
  named : ∀ barrier ∈ emitted, barrier.texture = texture ∧ barrier.stateBits = stateBits
  exact : ∀ cell oldState,
    (∃ barrier ∈ emitted, Covers barrier.subresources cell ∧ barrier.oldState = oldState)
      ↔ Covers resolvedSubresources cell ∧ oldState = list.trackedState texture cell
        ∧ list.NeedsBarrier texture stateBits oldState
  once : ∀ cell, (emitted.countP fun barrier => decide (Covers barrier.subresources cell)) ≤ 1
  tracked : ∀ cell, Covers resolvedSubresources cell → after.trackedState texture cell = stateBits
  kept : ∀ other cell, ¬ (other = texture ∧ Covers resolvedSubresources cell) →
    after.trackedState other cell = list.trackedState other cell

omit [DecidableEq TextureId] in
lemma covers_cellBarrier {cell other : Cell} (hmip : cell.1 < 2 ^ 32) (hslice : cell.2 < 2 ^ 32)
    (oldState : ResourceStates) :
    Covers (cellBarrier texture stateBits cell oldState).subresources other ↔ other = cell := by
  obtain ⟨mipLevel, arraySlice⟩ := cell
  obtain ⟨otherMip, otherSlice⟩ := other
  have hmipLevel : (UInt32.ofNat mipLevel).toNat = mipLevel := UInt32.toNat_ofNat_of_lt' hmip
  have harraySlice : (UInt32.ofNat arraySlice).toNat = arraySlice :=
    UInt32.toNat_ofNat_of_lt' hslice
  simp only [Covers, cellBarrier, hmipLevel, harraySlice, UInt32.toNat_one, Prod.mk.injEq]
  omega

omit [DecidableEq TextureId] in
/-- The barriers of single subresources cover each of them that needs one. -/
lemma exists_cellBarriers_iff {visited : List Cell} {uavBarrierEnabled : Bool}
    {stateOf : Cell → ResourceStates}
    (hbound : ∀ cell ∈ visited, cell.1 < 2 ^ 32 ∧ cell.2 < 2 ^ 32) (cell : Cell)
    (oldState : ResourceStates) :
    (∃ barrier ∈ cellBarriers texture stateBits uavBarrierEnabled stateOf visited,
        Covers barrier.subresources cell ∧ barrier.oldState = oldState)
      ↔ cell ∈ visited ∧ oldState = stateOf cell
        ∧ needsTextureStateBarrier oldState stateBits uavBarrierEnabled = true := by
  simp only [cellBarriers, List.mem_map, List.mem_filter]
  constructor
  · rintro ⟨_, ⟨visitedCell, ⟨hmem, hneeds⟩, rfl⟩, hcovers, rfl⟩
    obtain ⟨hmip, hslice⟩ := hbound visitedCell hmem
    obtain rfl := (covers_cellBarrier hmip hslice _).1 hcovers
    exact ⟨hmem, rfl, hneeds⟩
  · rintro ⟨hmem, rfl, hneeds⟩
    obtain ⟨hmip, hslice⟩ := hbound cell hmem
    exact ⟨_, ⟨cell, ⟨hmem, hneeds⟩, rfl⟩, (covers_cellBarrier hmip hslice _).2 rfl, rfl⟩

omit [DecidableEq TextureId] in
lemma countP_cellBarriers_le {visited : List Cell} {uavBarrierEnabled : Bool}
    {stateOf : Cell → ResourceStates} (hnodup : visited.Nodup)
    (hbound : ∀ cell ∈ visited, cell.1 < 2 ^ 32 ∧ cell.2 < 2 ^ 32) (cell : Cell) :
    ((cellBarriers texture stateBits uavBarrierEnabled stateOf visited).countP fun barrier =>
      decide (Covers barrier.subresources cell)) ≤ 1 := by
  rw [cellBarriers, List.countP_map]
  refine le_trans (List.countP_mono_left fun other hmem hcovers => ?_)
    (List.nodup_iff_count_le_one.1 (hnodup.filter fun cell =>
      needsTextureStateBarrier (stateOf cell) stateBits uavBarrierEnabled) cell)
  obtain ⟨hmip, hslice⟩ := hbound other (List.mem_filter.1 hmem).1
  rw [beq_iff_eq]
  exact ((covers_cellBarrier hmip hslice _).1 (of_decide_eq_true hcovers)).symm

/-- The tracked states after a range has been tracked. -/
lemma trackedState_track (hpermanent : list.stateTracker.isPermanentTexture texture = false)
    (other : TextureId) (cell : Cell) :
    (list.track texture resolvedSubresources stateBits).trackedState other cell
      = if other = texture ∧ cell ∈ cells resolvedSubresources then stateBits
        else list.trackedState other cell := by
  have hstate : (list.track texture resolvedSubresources stateBits).stateOf other cell
      = if other = texture ∧ cell ∈ cells resolvedSubresources then stateBits
        else list.stateOf other cell := by
    rw [stateOf, StateTracker.getResolvedTransientTextureState, track, textureStates_beginTracking]
    by_cases hin : other = texture ∧ cell ∈ cells resolvedSubresources
    · rw [if_pos hin, if_pos hin]
    · rw [if_neg hin, if_neg hin]
      rfl
  have hpermanents : (list.track texture resolvedSubresources
      stateBits).stateTracker.permanentTextureStates = list.stateTracker.permanentTextureStates :=
    permanentTextureStates_beginTracking _ _ _ _
  rw [trackedState, trackedState, hpermanents, hstate]
  split
  · next hin =>
      have hnone : list.stateTracker.permanentTextureStates other = none := by
        rw [hin.1]
        simpa [StateTracker.isPermanentTexture] using hpermanent
      rw [hnone, Option.getD_none]
  · rfl

section Finish

variable (hpermanent : list.stateTracker.isPermanentTexture texture = false)
  (hcells : ∀ cell, cell ∈ cells resolvedSubresources ↔ Covers resolvedSubresources cell)

omit [DecidableEq TextureId] in
include hpermanent in
lemma trackedState_eq_stateOf (cell : Cell) :
    list.trackedState texture cell = list.stateOf texture cell := by
  have hnone : list.stateTracker.permanentTextureStates texture = none := by
    simpa [StateTracker.isPermanentTexture] using hpermanent
  rw [trackedState, hnone, Option.getD_none]

include hpermanent hcells

/-- What a transition leaves tracked, whatever it emits. -/
lemma tracked_and_kept :
    (∀ cell, Covers resolvedSubresources cell →
        (list.track texture resolvedSubresources stateBits).trackedState texture cell = stateBits)
      ∧ ∀ other cell, ¬ (other = texture ∧ Covers resolvedSubresources cell) →
        (list.track texture resolvedSubresources stateBits).trackedState other cell
          = list.trackedState other cell := by
  constructor
  · intro cell hcovers
    rw [trackedState_track hpermanent, if_pos ⟨rfl, (hcells cell).2 hcovers⟩]
  · intro other cell hout
    rw [trackedState_track hpermanent, if_neg fun hin => hout ⟨hin.1, (hcells cell).1 hin.2⟩]

omit [DecidableEq TextureId] in
/-- No subresource needs a barrier. -/
lemma transition_idle (hidle : ∀ cell ∈ cells resolvedSubresources,
      ¬ list.NeedsBarrier texture stateBits (list.stateOf texture cell)) :
    Transition list list texture resolvedSubresources stateBits [] where
  delivered := by simp [Delivered]
  named := by simp
  exact cell oldState := by
    rw [trackedState_eq_stateOf hpermanent]
    constructor
    · rintro ⟨_, hmem, -⟩
      simp at hmem
    · rintro ⟨hcovers, rfl, hneeds⟩
      exact absurd hneeds (hidle cell ((hcells cell).2 hcovers))
  once := by simp
  tracked cell hcovers := by
    rw [trackedState_eq_stateOf hpermanent]
    by_contra hne
    exact hidle cell ((hcells cell).2 hcovers) (Or.inl hne)
  kept _ _ _ := rfl

/-- All subresources are in one state that needs a barrier. -/
lemma transition_whole {oldState : ResourceStates} {after : CommandList TextureId}
    (hsame : ∀ cell ∈ cells resolvedSubresources, list.stateOf texture cell = oldState)
    (hneeds : list.NeedsBarrier texture stateBits oldState)
    (hafter : after.trackedState
      = (list.track texture resolvedSubresources stateBits).trackedState)
    (hdelivered : Delivered list after
      [{ texture, subresources := resolvedSubresources, oldState, stateBits }]) :
    Transition list after texture resolvedSubresources stateBits
      [{ texture, subresources := resolvedSubresources, oldState, stateBits }] where
  delivered := hdelivered
  named := by simp
  exact cell state := by
    rw [trackedState_eq_stateOf hpermanent]
    constructor
    · rintro ⟨_, hmem, hcovers, rfl⟩
      obtain rfl := List.mem_singleton.1 hmem
      exact ⟨hcovers, (hsame cell ((hcells cell).2 hcovers)).symm, hneeds⟩
    · rintro ⟨hcovers, rfl, -⟩
      exact ⟨_, List.mem_singleton_self _, hcovers, (hsame cell ((hcells cell).2 hcovers)).symm⟩
  once cell := List.countP_le_length
  tracked := by
    rw [hafter]
    exact (tracked_and_kept hpermanent hcells).1
  kept := by
    rw [hafter]
    exact (tracked_and_kept hpermanent hcells).2

/-- The subresources are in several states. -/
lemma transition_single {after : CommandList TextureId}
    (hafter : after.trackedState
      = (list.track texture resolvedSubresources stateBits).trackedState)
    (hdelivered : Delivered list after (cellBarriers texture stateBits
      (list.uavBarrierEnabled texture stateBits) (list.stateOf texture)
      (cells resolvedSubresources))) :
    Transition list after texture resolvedSubresources stateBits
      (cellBarriers texture stateBits (list.uavBarrierEnabled texture stateBits)
        (list.stateOf texture) (cells resolvedSubresources)) := by
  have hbound : ∀ cell ∈ cells resolvedSubresources, cell.1 < 2 ^ 32 ∧ cell.2 < 2 ^ 32 := by
    intro cell hmem
    obtain ⟨⟨-, hmip⟩, -, hslice⟩ := mem_cells.1 hmem
    exact ⟨lt_trans hmip (UInt32.toNat_lt _), lt_trans hslice (UInt32.toNat_lt _)⟩
  refine ⟨hdelivered, ?_, ?_, countP_cellBarriers_le (nodup_cells _) hbound, ?_, ?_⟩
  · intro barrier hmem
    obtain ⟨cell, -, rfl⟩ := List.mem_map.1 hmem
    exact ⟨rfl, rfl⟩
  · intro cell oldState
    rw [exists_cellBarriers_iff hbound, hcells, needsTextureStateBarrier_iff,
      trackedState_eq_stateOf hpermanent]
  · rw [hafter]
    exact (tracked_and_kept hpermanent hcells).1
  · rw [hafter]
    exact (tracked_and_kept hpermanent hcells).2

/-- Whatever the scan has found, what follows completes the transition. -/
lemma transition_finishScan {scan : Scan TextureId}
    (hscan : Visited texture stateBits (list.uavBarrierEnabled texture stateBits)
      (list.stateOf texture) list.pendingImageBarriers (cells resolvedSubresources) scan) :
    ∃ emitted, Transition list (list.finishScan texture resolvedSubresources stateBits scan) texture
      resolvedSubresources stateBits emitted := by
  obtain ⟨-, hneeds, hindex, huniform, hsingle⟩ := hscan
  unfold finishScan
  dsimp only
  cases hneedsBarrier : scan.needsBarrier with
  | false =>
    rw [hneedsBarrier, eq_comm, List.any_eq_false] at hneeds
    have hidle : ∀ cell ∈ cells resolvedSubresources,
        ¬ list.NeedsBarrier texture stateBits (list.stateOf texture cell) := fun cell hmem =>
      needsTextureStateBarrier_iff.not.1 (hneeds cell hmem)
    have hpending : scan.pendingImageBarriers = list.pendingImageBarriers := by
      cases huse : scan.usePerSubresourceBarriers with
      | false => exact (huniform huse).1
      | true =>
        rw [(hsingle huse).2, cellBarriers, List.filter_eq_nil_iff.2 hneeds, List.map_nil,
          List.append_nil]
    rw [hpending]
    exact ⟨[], transition_idle hpermanent hcells hidle⟩
  | true =>
    rw [hneedsBarrier, eq_comm, List.any_eq_true] at hneeds
    obtain ⟨cell, hmem, hcell⟩ := hneeds
    cases huse : scan.usePerSubresourceBarriers with
    | false =>
      obtain ⟨hpending, hsame⟩ := huniform huse
      rw [hsame cell hmem, needsTextureStateBarrier_iff] at hcell
      rw [hpending]
      refine ⟨_, transition_whole hpermanent hcells hsame hcell ?_ ?_⟩
      · cases list.enableAutomaticBarriers <;> rfl
      · unfold Delivered
        cases hautomatic : list.enableAutomaticBarriers <;> exact ⟨rfl, rfl⟩
    | true =>
      have hpending := (hsingle huse).2
      have hnonempty : cellBarriers texture stateBits (list.uavBarrierEnabled texture stateBits)
          (list.stateOf texture) (cells resolvedSubresources) ≠ [] := by
        rw [cellBarriers, Ne, List.map_eq_nil_iff, List.filter_eq_nil_iff]
        exact fun hnone => hnone cell hmem hcell
      rw [hpending, hindex]
      refine ⟨_, transition_single hpermanent hcells ?_ ?_⟩
      · cases list.enableAutomaticBarriers with
        | false => rfl
        | true =>
          simp only [Bool.not_true, Bool.false_eq_true, if_false]
          split <;> rfl
      · generalize cellBarriers texture stateBits (list.uavBarrierEnabled texture stateBits)
          (list.stateOf texture) (cells resolvedSubresources) = emitted at hnonempty ⊢
        unfold Delivered
        cases hautomatic : list.enableAutomaticBarriers with
        | false => exact ⟨rfl, rfl⟩
        | true =>
          have hlength : emitted.length ≠ 0 := List.length_eq_zero_iff.not.2 hnonempty
          simp [track, executePipelineBarrier, hnonempty]

end Finish

/-- `setTextureState` does what the rule for a single subresource asks for, and nothing to a texture
with a permanent state. -/
theorem setTextureState_transition (debug : Bool) (list : CommandList TextureId)
    (texture : TextureId) (subresources : TextureSubresourceSet) (stateBits : ResourceStates) :
    (list.stateTracker.isPermanentTexture texture = true →
        list.setTextureState debug texture subresources stateBits = list)
      ∧ (list.stateTracker.isPermanentTexture texture = false →
        ∃ emitted, Transition list (list.setTextureState debug texture subresources stateBits)
          texture (subresources.resolve (list.textures texture).desc) stateBits emitted) := by
  unfold setTextureState
  constructor
  · intro hpermanent
    rw [if_pos hpermanent]
  · intro hpermanent
    rw [if_neg (by simp [hpermanent])]
    have hcells : ∀ cell, cell ∈ cells (subresources.resolve (list.textures texture).desc)
        ↔ Covers (subresources.resolve (list.textures texture).desc) cell := fun _ =>
      mem_cells_resolve
    dsimp only
    generalize subresources.resolve (list.textures texture).desc = resolvedSubresources
      at hcells ⊢
    split
    · next hinvalid =>
        refine ⟨[], transition_idle hpermanent hcells fun cell hmem => ?_⟩
        have hcovers := (hcells cell).1 hmem
        simp only [Bool.and_eq_true, Bool.or_eq_true, beq_iff_eq] at hinvalid
        obtain ⟨-, hzero | hzero⟩ := hinvalid
        · simp only [Covers, hzero, UInt32.toNat_zero] at hcovers
          omega
        · simp only [Covers, hzero, UInt32.toNat_zero] at hcovers
          omega
    · exact transition_finishScan hpermanent hcells (visited_foldl _ _ _ _ _ _)

/-- A texture of one subresource with a permanent state. -/
def permanentTexture : CommandList ℕ :=
  { textures := fun _ => {}
    stateTracker :=
      StateTracker.setPermanentTextureState {} 0 ResourceStates.shaderResource }

/-- A permanent state stays, whatever is asked for. -/
theorem permanentTexture_not_transition : ¬ ∃ emitted, Transition permanentTexture
    (permanentTexture.setTextureState false 0 {} ResourceStates.copyDest) 0
    (TextureSubresourceSet.resolve {} (permanentTexture.textures 0).desc) ResourceStates.copyDest
    emitted := by
  rintro ⟨emitted, htransition⟩
  have htracked := htransition.tracked (0, 0) (by decide)
  have hsame : permanentTexture.setTextureState false 0 {} ResourceStates.copyDest
      = permanentTexture := if_pos (by decide)
  rw [hsame] at htracked
  exact absurd htracked (by decide)

end CommandList

end StateTracking
end NwbLot.Vulkan
