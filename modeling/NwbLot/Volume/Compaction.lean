import NwbLot.Volume.FileWrites
import NwbLot.Volume.MoveBytes

/-!
# Compaction

The plan of a compaction, its moves and the records it sets.

A plan is `PackedFrom` the end of the metadata.  Its moves either pack the bytes so, or stop with
only some of them where they go; `Movable` says when they cannot stop.
-/

namespace NwbLot.Volume

open MemoryMoves

namespace VolumeState

variable {before after volume : VolumeState} {layouts planned : List FileLayout}

/-! ## The plan -/

/-- The range of a layout and where it goes. -/
def FileLayout.extent (layout : FileLayout) : Extent where
  source := layout.sourceOffset
  destination := layout.destinationOffset
  size := layout.size

/-- What of a layout a plan does not change. -/
def FileLayout.origin (layout : FileLayout) : NameHash × ℕ × ℕ :=
  (layout.path, layout.sourceOffset, layout.size)

/-- A plan packs the layouts in their order. -/
lemma planLayouts_spec {compactedWriteOffset previousSourceEnd stop : ℕ}
    (hsizes : ∀ layout ∈ layouts, layout.size ≤ u64Max)
    (h : planLayouts layouts compactedWriteOffset previousSourceEnd = some (planned, stop)) :
    PackedFrom compactedWriteOffset previousSourceEnd (planned.map FileLayout.extent) stop ∧
      planned.map FileLayout.origin = layouts.map FileLayout.origin := by
  induction layouts generalizing compactedWriteOffset previousSourceEnd planned with
  | nil =>
    cases h
    exact ⟨.nil _ _, rfl⟩
  | cons layout layouts ih =>
    rw [planLayouts] at h
    split at h
    · cases h
    · next hbehind =>
        have hsize := hsizes layout List.mem_cons_self
        cases hsource : addNoOverflow layout.sourceOffset layout.size with
        | none =>
          rw [hsource] at h
          cases h
        | some sourceEnd =>
          cases hwrite : addNoOverflow compactedWriteOffset layout.size with
          | none =>
            rw [hsource, hwrite] at h
            cases h
          | some writeEnd =>
            rw [hsource, hwrite] at h
            obtain ⟨rest, hrest, heq⟩ := Option.map_eq_some_iff.1 h
            cases heq
            obtain ⟨hpacked, horigin⟩ := ih
              (fun other hother => hsizes other (List.mem_cons_of_mem _ hother)) hrest
            rw [addNoOverflow_value hsource, addNoOverflow_value hwrite] at hpacked
            refine ⟨?_, ?_⟩
            · have hbegin : previousSourceEnd ≤ (Extent.mk layout.sourceOffset
                  compactedWriteOffset layout.size).source := Nat.le_of_not_lt hbehind
              exact .cons hbegin hpacked
            · rw [List.map_cons, List.map_cons, horigin]
              rfl

/-! ## The moves -/

/-- What the moves need besides the files: every byte below the bound, in a capacity that fits. -/
structure Movable (volume : VolumeState) (bound : ℕ) : Prop where
  noIoError : volume.NoIoError
  segment : volume.fs.segmentSize ≤ streamMax + 1
  laid : volume.Laid
  capacity : volume.fs.segmentCount ≤ u64Max / volume.fs.segmentSize
  inside : bound ≤ volume.fs.segmentCount * volume.fs.segmentSize
  present : volume.Present 0 bound

lemma Movable.readable {bound sourceOffset byteCount : ℕ} (h : Movable volume bound)
    (hsize : byteCount ≤ streamMax) (hend : sourceOffset + byteCount ≤ bound)
    (hmax : bound ≤ u64Max) (hpos : 0 < volume.fs.segmentSize) :
    Readable volume sourceOffset byteCount where
  noIoError := h.noIoError
  stream := Or.inr ⟨h.segment, hsize⟩
  laid := h.laid
  capacity := ⟨hpos, h.capacity, hend.trans hmax, hend.trans h.inside⟩
  present i hi := by
    have hbyte := h.present (sourceOffset + i) (by omega)
    rwa [Nat.zero_add] at hbyte

lemma Movable.grown {bound : ℕ} (h : Movable before bound) (hgrown : Grown before after)
    (hfs : after.fs = before.fs) : Movable after bound :=
  ⟨hgrown.noIoError h.noIoError, hfs ▸ h.segment, hgrown.laid h.laid, hfs ▸ h.capacity,
    hfs ▸ h.inside, h.present.grown hgrown⟩

lemma RangeMoved.partly {destinationOffset sourceOffset byteCount : ℕ}
    (h : RangeMoved destinationOffset sourceOffset byteCount before after) :
    Partly (movedFrom before.logicalByte destinationOffset sourceOffset) destinationOffset
      (destinationOffset + byteCount) before after := by
  refine ⟨⟨h.toGrown, h.bytes.kept⟩, fun o hlo hhi => Or.inr ?_⟩
  have hmoved := h.bytes.moved (o - destinationOffset) (Nat.zero_le _) (by omega)
  rwa [Nat.add_sub_cancel' hlo] at hmoved

/-- The moves of a plan: the memory is packed, or only some of its bytes are where they go. -/
lemma moveLayouts_ends_of_covers {lo previous stop bound : ℕ}
    (h : PackedFrom lo previous (planned.map FileLayout.extent) stop) (hlo : lo ≤ previous)
    (hcovers : Covers volume.fs bound)
    (hbound : ∀ layout ∈ planned, layout.sourceOffset + layout.size ≤ bound)
    (hmax : bound ≤ u64Max) :
    Ends (moveLayouts planned volume)
      (fun state => Grown volume state ∧ state.fs = volume.fs ∧
        state.logicalByte = packed volume.logicalByte (planned.map FileLayout.extent))
      (fun state => Partly (packed volume.logicalByte (planned.map FileLayout.extent)) lo stop
          volume state ∧
        ((∀ layout ∈ planned, layout.size ≤ streamMax) → ¬Movable volume bound)) := by
  induction planned generalizing lo previous volume with
  | nil => exact Or.inl ⟨rfl, .refl volume, rfl, rfl⟩
  | cons layout planned ih =>
    have hlayout : layout.sourceOffset + layout.size ≤ bound := hbound layout List.mem_cons_self
    have hmem : layout.extent ∈ (layout :: planned).map FileLayout.extent := List.mem_cons_self
    obtain ⟨hdestination, hstop, hsource, hle⟩ := h.of_mem hlo hmem
    have hrest : ∀ other ∈ planned, other.sourceOffset + other.size ≤ bound :=
      fun other hother => hbound other (List.mem_cons_of_mem _ hother)
    have hpacked : ∀ {memory : ℕ → UInt8}, Moved layout.extent.destination layout.extent.source 0
        layout.extent.size volume.logicalByte memory →
          packed memory (planned.map FileLayout.extent)
            = packed volume.logicalByte ((layout :: planned).map FileLayout.extent) :=
      fun hmoved => h.packed_cons hlo hmoved
    have hinside : ∀ a, layout.destinationOffset ≤ a →
        a < layout.destinationOffset + layout.size →
          movedFrom volume.logicalByte layout.destinationOffset layout.sourceOffset a
            = packed volume.logicalByte ((layout :: planned).map FileLayout.extent) a :=
      fun a hle hlt => (if_pos ⟨hle, hlt⟩).symm
    have hdestinationEnd : layout.destinationOffset + layout.size ≤ bound :=
      (Nat.add_le_add_right hle _).trans hlayout
    cases h with
    | cons behind rest =>
      have hnext : layout.extent.destination + layout.extent.size
          ≤ layout.extent.source + layout.extent.size := Nat.add_le_add_right hle _
      rw [moveLayouts]
      split
      · next hskipped =>
          have hmoved : Moved layout.extent.destination layout.extent.source 0 layout.extent.size
              volume.logicalByte volume.logicalByte := by
            refine ⟨fun i _ hi => ?_, fun _ _ => rfl⟩
            rcases hskipped with hzero | heq
            · exact absurd hi (by rw [show layout.extent.size = 0 from hzero]; omega)
            · rw [show layout.extent.destination = layout.extent.source from heq]
          rw [← hpacked hmoved]
          rcases ih rest hnext hcovers hrest with hok | ⟨hfailed, hpartly, hreason⟩
          · exact Or.inl hok
          · refine Or.inr ⟨hfailed, hpartly.mono (Nat.le_add_right _ _) le_rfl, fun hsizes => ?_⟩
            exact hreason fun other hother => hsizes other (List.mem_cons_of_mem _ hother)
      · dsimp only
        have hdestinationCovers : Covers volume.fs (layout.destinationOffset + layout.size) :=
          ⟨hcovers.1, hcovers.2.1, hdestinationEnd.trans hcovers.2.2⟩
        rcases moveBytesLockedBy_ends volumeMoveChunkBytes layout.destinationOffset
            layout.sourceOffset (by omega : layout.size ≤ u64Max) volume with
          ⟨hok, hmoved⟩ | ⟨hfailed, hstopped⟩
        · rw [if_pos (show (moveBytesLocked layout.destinationOffset layout.sourceOffset layout.size
            volume).1 = true from hok)]
          have hmiddle : RangeMoved layout.destinationOffset layout.sourceOffset layout.size volume
              (moveBytesLocked layout.destinationOffset layout.sourceOffset layout.size volume).2 :=
            hmoved
          generalize (moveBytesLocked layout.destinationOffset layout.sourceOffset layout.size
            volume).2 = middle at hmiddle ⊢
          have hfs := hmiddle.sameFs hdestinationCovers
          have hmemory := hpacked hmiddle.bytes
          rcases ih rest hnext (hfs ▸ hcovers) hrest with
            ⟨hok, hgrown, hsame, hbytes⟩ | ⟨hfailed, hpartly, hreason⟩
          · exact Or.inl ⟨hok, hmiddle.toGrown.trans hgrown, hsame.trans hfs, hbytes.trans hmemory⟩
          · rw [hmemory] at hpartly
            refine Or.inr ⟨hfailed, ?_, fun hsizes hmovable => ?_⟩
            · exact (hmiddle.partly.congr hinside |>.mono le_rfl hstop).trans
                (hpartly.mono (Nat.le_add_right _ _) le_rfl)
            · exact hreason (fun other hother => hsizes other (List.mem_cons_of_mem _ hother))
                (hmovable.grown hmiddle.toGrown hfs)
        · rw [if_neg (by rw [show (moveBytesLocked layout.destinationOffset layout.sourceOffset
            layout.size volume).1 = false from hfailed]; decide)]
          refine Or.inr ⟨rfl, (hstopped.partly.congr hinside).mono le_rfl hstop, ?_⟩
          intro hsizes hmovable
          refine hstopped.reason (by decide) (hdestinationEnd.trans hmax) ?_
            (hmovable.readable (hsizes layout List.mem_cons_self) hlayout hmax hcovers.1)
          rw [ensureCapacityLocked_of_covers hdestinationCovers]

/-- Without a capacity that fits every move is refused. -/
lemma moveLayouts_refused (hrefused : u64Max / volume.fs.segmentSize < volume.fs.segmentCount)
    (planned : List FileLayout) :
    (moveLayouts planned volume).2 = volume ∧ ((moveLayouts planned volume).1 = true →
      ∀ layout ∈ planned, layout.size = 0 ∨ layout.destinationOffset = layout.sourceOffset) := by
  induction planned with
  | nil => exact ⟨rfl, fun _ _ h => absurd h List.not_mem_nil⟩
  | cons layout planned ih =>
    rw [moveLayouts]
    split
    · next hskipped =>
        refine ⟨ih.1, fun hok other hother => ?_⟩
        rcases List.mem_cons.1 hother with rfl | hother
        · exact hskipped
        · exact ih.2 hok other hother
    · next hmove =>
        have hnone : computeLogicalCapacityLocked volume.fs = none := by
          rw [computeLogicalCapacityLocked, if_pos hrefused, ite_self]
        have hresult : moveBytesLocked layout.destinationOffset layout.sourceOffset layout.size
            volume = (false, volume) := by
          rw [moveBytesLocked, moveBytesLockedBy, if_neg hmove, hnone]
          split
          · rfl
          · split
            · rfl
            · rfl
        rw [hresult]
        exact ⟨rfl, fun h => absurd h Bool.false_ne_true⟩

/-- Extents that stay where they are. -/
lemma packed_of_trivial {memory : ℕ → UInt8}
    (h : ∀ layout ∈ planned, layout.size = 0 ∨ layout.destinationOffset = layout.sourceOffset) :
    packed memory (planned.map FileLayout.extent) = memory := by
  induction planned with
  | nil => rfl
  | cons layout planned ih =>
    funext a
    rw [List.map_cons, packed, ih fun other hother => h other (List.mem_cons_of_mem _ hother)]
    split
    · next hinside =>
        rcases h layout List.mem_cons_self with hzero | heq
        · rw [show layout.extent.size = 0 from hzero] at hinside
          omega
        · rw [show layout.extent.source = layout.extent.destination from heq.symm,
            Nat.add_sub_cancel' hinside.1]
    · rfl

/-- What the moves of a plan do, whether the capacity fits or not. -/
lemma moveLayouts_ends {lo previous stop bound : ℕ}
    (h : PackedFrom lo previous (planned.map FileLayout.extent) stop) (hlo : lo ≤ previous)
    (hpos : 0 < volume.fs.segmentSize)
    (hinside : bound ≤ volume.fs.segmentCount * volume.fs.segmentSize)
    (hbound : ∀ layout ∈ planned, layout.sourceOffset + layout.size ≤ u64Max ∧
      layout.sourceOffset + layout.size ≤ bound) :
    Ends (moveLayouts planned volume)
      (fun state => Grown volume state ∧ state.fs = volume.fs ∧
        state.logicalByte = packed volume.logicalByte (planned.map FileLayout.extent))
      (fun state => Partly (packed volume.logicalByte (planned.map FileLayout.extent)) lo stop
          volume state ∧
        ((∀ layout ∈ planned, layout.size ≤ streamMax) → ¬Movable volume bound)) := by
  by_cases hcapacity : volume.fs.segmentCount ≤ u64Max / volume.fs.segmentSize
  · have hmax := (Nat.mul_le_mul_right volume.fs.segmentSize hcapacity).trans
      (Nat.div_mul_le_self _ _)
    exact moveLayouts_ends_of_covers h hlo ⟨hpos, hcapacity, hinside⟩
      (fun layout hlayout => (hbound layout hlayout).2) (hinside.trans hmax)
  · obtain ⟨hsame, htrivial⟩ := moveLayouts_refused (not_le.1 hcapacity) planned
    cases hresult : (moveLayouts planned volume).1 with
    | true =>
      refine Or.inl ⟨hresult, ?_⟩
      rw [hsame, packed_of_trivial (htrivial hresult)]
      exact ⟨.refl volume, rfl, rfl⟩
    | false =>
      refine Or.inr ⟨hresult, ?_⟩
      rw [hsame]
      exact ⟨(SameBytes.refl volume).partly _ _ _, fun _ hmovable => hcapacity hmovable.capacity⟩

/-! ## The records -/

/-- The record of a file at its destination. -/
def FileLayout.record (layout : FileLayout) : FileRecord where
  offset := .ofNat layout.destinationOffset
  size := .ofNat layout.size

lemma recordLayouts_spec {files : FileMap} (hunique : files.Unique)
    (hnodup : (planned.map FileLayout.path).Nodup) :
    (recordLayouts files planned).Unique ∧
      (∀ layout ∈ planned,
        (recordLayouts files planned).find layout.path = some layout.record) ∧
      ∀ path ∉ planned.map FileLayout.path,
        (recordLayouts files planned).find path = files.find path := by
  induction planned generalizing files with
  | nil => exact ⟨hunique, fun _ h => absurd h List.not_mem_nil, fun _ _ => rfl⟩
  | cons layout planned ih =>
    rw [List.map_cons, List.nodup_cons] at hnodup
    obtain ⟨hunique', hset, hkept⟩ :=
      ih (hunique.insertOrAssign layout.path layout.record) hnodup.2
    refine ⟨hunique', fun other hother => ?_, fun path hpath => ?_⟩
    · rcases List.mem_cons.1 hother with rfl | hother
      · exact (hkept _ hnodup.1).trans (FileMap.find_insertOrAssign_self hunique _ _)
      · exact hset other hother
    · rw [List.map_cons, List.mem_cons, not_or] at hpath
      exact (hkept path hpath.2).trans (FileMap.find_insertOrAssign_of_ne hunique hpath.1)

/-- When every file is planned, the records are those of the plan. -/
lemma mem_recordLayouts {files : FileMap} (hunique : files.Unique)
    (hnodup : (planned.map FileLayout.path).Nodup)
    (hall : ∀ path, path ∈ planned.map FileLayout.path ↔ path ∈ List.map Prod.fst files)
    {entry : NameHash × FileRecord} :
    entry ∈ recordLayouts files planned ↔
      ∃ layout ∈ planned, entry = (layout.path, layout.record) := by
  obtain ⟨hunique', hset, hkept⟩ := recordLayouts_spec hunique hnodup
  constructor
  · intro hentry
    have hfound := hunique'.find hentry
    by_cases hpath : entry.1 ∈ planned.map FileLayout.path
    · obtain ⟨layout, hlayout, heq⟩ := List.mem_map.1 hpath
      refine ⟨layout, hlayout, Prod.ext heq.symm ?_⟩
      rw [← heq, hset layout hlayout] at hfound
      exact (Option.some.inj hfound).symm
    · rw [hkept _ hpath] at hfound
      exact absurd ((hall entry.1).2 (List.mem_map_of_mem (FileMap.mem_of_find hfound))) hpath
  · rintro ⟨layout, hlayout, rfl⟩
    exact FileMap.mem_of_find (hset layout hlayout)

lemma length_recordLayouts {files : FileMap} (hunique : files.Unique)
    (hnodup : (planned.map FileLayout.path).Nodup)
    (hall : ∀ path, path ∈ planned.map FileLayout.path ↔ path ∈ List.map Prod.fst files) :
    List.length (recordLayouts files planned) = List.length files := by
  have hunique' := (recordLayouts_spec hunique hnodup).1
  have hnames : (List.map Prod.fst (recordLayouts files planned)).Perm
      (planned.map FileLayout.path) := by
    refine (List.perm_ext_iff_of_nodup hunique' hnodup).2 fun path => ?_
    constructor
    · intro hpath
      obtain ⟨entry, hentry, rfl⟩ := List.mem_map.1 hpath
      obtain ⟨layout, hlayout, rfl⟩ := (mem_recordLayouts hunique hnodup hall).1 hentry
      exact List.mem_map_of_mem hlayout
    · intro hpath
      obtain ⟨layout, hlayout, rfl⟩ := List.mem_map.1 hpath
      have hmem := (mem_recordLayouts hunique hnodup hall).2 ⟨layout, hlayout, rfl⟩
      exact List.mem_map.2 ⟨_, hmem, rfl⟩
  have hplanned : (planned.map FileLayout.path).Perm (List.map Prod.fst files) :=
    (List.perm_ext_iff_of_nodup hnodup hunique).2 hall
  have hlength := (hnames.trans hplanned).length_eq
  rwa [List.length_map, List.length_map] at hlength

end VolumeState
end NwbLot.Volume
