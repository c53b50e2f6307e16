import NwbLot.Volume.Compaction

/-!
# Packed files

Compaction of a sound volume up to its flush: where it goes wrong, and what it makes of the records
and the bytes of the files.

`PackPlan` is what planning finds in a sound volume, `Packed` what a packing that ends makes of
it, and `PackingStopped` what one that stops leaves behind.
-/

namespace NwbLot.Volume

open MemoryMoves

namespace VolumeState

variable {before after volume : VolumeState} {planned : List FileLayout} {stop : ℕ}

/-! ## The plan of a sound volume -/

/-- The layout of an entry. -/
def layoutOf (entry : NameHash × FileRecord) : FileLayout where
  path := entry.1
  sourceOffset := entry.2.offset.toNat
  size := entry.2.size.toNat

lemma fileLayouts_eq {fs : VolumeFileSystem} (h : MetadataSound fs) :
    fileLayouts fs = some (List.map layoutOf fs.files) := by
  rw [fileLayouts]
  have hall : ∀ entry ∈ fs.files, RecordInside fs.metadataBytes fs.nextFreeOffset entry.2 :=
    h.records
  generalize fs.files = files at hall
  induction files with
  | nil => rfl
  | cons entry files ih =>
    obtain ⟨hbegin, hmax, hend⟩ := hall entry List.mem_cons_self
    rw [List.mapM_cons, ih fun other hother => hall other (List.mem_cons_of_mem _ hother)]
    simp only [addNoOverflow_eq hmax, not_lt.2 hbegin, not_lt.2 hend, if_false]
    rfl

/-- The files of a volume packed from the metadata area on. -/
structure PackPlan (fs : VolumeFileSystem) (planned : List FileLayout) (stop : ℕ) : Prop where
  packed : PackedFrom fs.metadataBytes fs.metadataBytes (planned.map FileLayout.extent) stop
  origin : (planned.map FileLayout.origin).Perm
    (List.map (fun entry => (layoutOf entry).origin) fs.files)

lemma planFiles_spec {fs : VolumeFileSystem} (h : MetadataSound fs)
    (hplan : planFiles fs = some (planned, stop)) : PackPlan fs planned stop := by
  rw [planFiles, fileLayouts_eq h, Option.bind_some] at hplan
  have hperm : (sortLayouts (List.map layoutOf fs.files)).Perm (List.map layoutOf fs.files) :=
    List.perm_insertionSort _ _
  have hsizes : ∀ layout ∈ sortLayouts (List.map layoutOf fs.files), layout.size ≤ u64Max := by
    intro layout hlayout
    obtain ⟨entry, -, rfl⟩ := List.mem_map.1 (hperm.mem_iff.1 hlayout)
    exact toNat_le_u64Max _
  obtain ⟨hpacked, horigin⟩ := planLayouts_spec hsizes hplan
  refine ⟨hpacked, ?_⟩
  rw [horigin]
  exact (hperm.map _).trans (by rw [List.map_map]; exact .refl _)

variable {fs : VolumeFileSystem}

/-- Every planned layout is that of a file. -/
lemma PackPlan.entry (h : PackPlan fs planned stop) {layout : FileLayout}
    (hlayout : layout ∈ planned) :
    ∃ entry ∈ fs.files, layout.path = entry.1 ∧ layout.sourceOffset = entry.2.offset.toNat ∧
      layout.size = entry.2.size.toNat := by
  obtain ⟨entry, hentry, heq⟩ := List.mem_map.1 (h.origin.mem_iff.1 (List.mem_map_of_mem hlayout))
  cases layout
  cases heq
  exact ⟨entry, hentry, rfl, rfl, rfl⟩

lemma PackPlan.paths (h : PackPlan fs planned stop) :
    (planned.map FileLayout.path).Perm (List.map Prod.fst fs.files) := by
  have hperm := h.origin.map Prod.fst
  rw [List.map_map, List.map_map] at hperm
  exact hperm

lemma PackPlan.nodup (h : PackPlan fs planned stop) (hunique : fs.files.Unique) :
    (planned.map FileLayout.path).Nodup :=
  h.paths.nodup_iff.2 hunique

lemma PackPlan.bound (h : PackPlan fs planned stop) (hsound : MetadataSound fs) :
    ∀ layout ∈ planned, layout.sourceOffset + layout.size ≤ u64Max ∧
      layout.sourceOffset + layout.size ≤ fs.nextFreeOffset := by
  intro layout hlayout
  obtain ⟨entry, hentry, -, hsource, hsize⟩ := h.entry hlayout
  rw [hsource, hsize]
  exact (hsound.records entry hentry).2

lemma PackPlan.stop_le (h : PackPlan fs planned stop) (hsound : MetadataSound fs) :
    stop ≤ fs.nextFreeOffset := by
  refine h.packed.stop_le le_rfl hsound.payload fun extent hextent => ?_
  obtain ⟨layout, hlayout, rfl⟩ := List.mem_map.1 hextent
  exact (h.bound hsound layout hlayout).2

/-- Where a layout goes. -/
lemma PackPlan.destination (h : PackPlan fs planned stop) {layout : FileLayout}
    (hlayout : layout ∈ planned) : fs.metadataBytes ≤ layout.destinationOffset ∧
      layout.destinationOffset + layout.size ≤ stop ∧
      layout.destinationOffset ≤ layout.sourceOffset := by
  obtain ⟨hbegin, hend, -, hle⟩ := h.packed.of_mem le_rfl
    (List.mem_map_of_mem (f := FileLayout.extent) hlayout)
  exact ⟨hbegin, hend, hle⟩

/-- The words of a record are the numbers of its layout. -/
lemma PackPlan.record (h : PackPlan fs planned stop) (hsound : MetadataSound fs)
    {layout : FileLayout} (hlayout : layout ∈ planned) :
    layout.record.offset.toNat = layout.destinationOffset ∧
      layout.record.size.toNat = layout.size := by
  obtain ⟨hmax, -⟩ := h.bound hsound layout hlayout
  obtain ⟨-, -, hle⟩ := h.destination hlayout
  exact ⟨toNat_ofNat_of_le (by omega), toNat_ofNat_of_le (by omega)⟩

/-- The metadata of the packed volume. -/
lemma PackPlan.metadata (h : PackPlan fs planned stop) (hsound : MetadataSound fs) :
    MetadataSound { fs with files := recordLayouts fs.files planned, nextFreeOffset := stop } where
  header := hsound.header
  segment := hsound.segment
  payload := h.packed.lo_le
  index := by
    have hlength := length_recordLayouts hsound.unique (h.nodup hsound.unique) fun path =>
      h.paths.mem_iff
    rw [hlength]
    exact hsound.index
  records entry hentry := by
    obtain ⟨layout, hlayout, rfl⟩ := (mem_recordLayouts hsound.unique (h.nodup hsound.unique)
      fun path => h.paths.mem_iff).1 hentry
    obtain ⟨hoffset, hsize⟩ := h.record hsound hlayout
    obtain ⟨hbegin, hend, hle⟩ := h.destination hlayout
    obtain ⟨hmax, -⟩ := h.bound hsound layout hlayout
    rw [RecordInside, hoffset, hsize]
    exact ⟨hbegin, by omega, hend⟩
  unique := (recordLayouts_spec hsound.unique (h.nodup hsound.unique)).1

/-! ## Packing -/

/-- The files are moved as planned and their records set. -/
structure Packed (before after : VolumeState) : Prop where
  mounted : before.fs.mounted = true
  writable : before.fs.writable = true
  moved : ∃ planned stop moved, planFiles before.fs = some (planned, stop) ∧
    PackPlan before.fs planned stop ∧ Grown before moved ∧ moved.fs = before.fs ∧
    moved.logicalByte = packed before.logicalByte (planned.map FileLayout.extent) ∧
    after = moved.withRecords (recordLayouts before.fs.files planned) stop

/-- Packing has stopped: it was refused, or some bytes are where they go and no record is
changed. -/
inductive PackingStopped (before after : VolumeState) : Prop
  | refused (same : after = before)
      (reason : before.fs.mounted = true → before.fs.writable = true → planFiles before.fs = none)
  | moving (planned : List FileLayout) (stop : ℕ)
      (planFiles : planFiles before.fs = some (planned, stop))
      (plan : PackPlan before.fs planned stop)
      (partly : Partly (packed before.logicalByte (planned.map FileLayout.extent))
        before.fs.metadataBytes stop before after)
      (reason : (∀ layout ∈ planned, layout.size ≤ streamMax) →
        ¬Movable before before.fs.nextFreeOffset)

lemma packFilesLocked_ends (hsound : VolumeSound before) :
    Ends (packFilesLocked before) (Packed before) (PackingStopped before) := by
  rw [packFilesLocked]
  split
  · next hmode =>
      refine Or.inr ⟨rfl, .refused rfl fun hmounted hwritable => ?_⟩
      rw [hmounted, hwritable] at hmode
      cases hmode
  · next hmode =>
      have hmodes : before.fs.mounted = true ∧ before.fs.writable = true := by simpa using hmode
      cases hplan : planFiles before.fs with
      | none => exact Or.inr ⟨rfl, .refused rfl fun _ _ => hplan⟩
      | some result =>
        obtain ⟨planned, stop⟩ := result
        have hpack := planFiles_spec hsound.metadata hplan
        dsimp only
        rcases moveLayouts_ends hpack.packed le_rfl hsound.segment_pos hsound.nextFree_le
            (hpack.bound hsound.metadata) with
          ⟨hok, hgrown, hfs, hbytes⟩ | ⟨hfailed, hpartly, hreason⟩
        · rw [hok]
          refine Or.inl ⟨rfl, hmodes.1, hmodes.2, planned, stop, _, hplan, hpack, hgrown, hfs,
            hbytes, ?_⟩
          simp only [Bool.not_true, Bool.false_eq_true, if_false]
          rw [hfs, withRecords, hfs]
        · rw [hfailed]
          exact Or.inr ⟨rfl, .moving planned stop hplan hpack hpartly hreason⟩

lemma PackingStopped.touched (h : PackingStopped before after) (hsound : VolumeSound before) :
    Touched before.fs.metadataBytes before.fs.nextFreeOffset before after := by
  cases h with
  | refused same =>
    rw [same]
    exact (SameBytes.refl before).touched _ _
  | moving planned stop _ plan partly =>
    exact partly.toTouched.mono le_rfl (plan.stop_le hsound.metadata)

/-- The state that is flushed after the files have been packed. -/
lemma Packed.sound (h : Packed before after) (hsound : VolumeSound before) : VolumeSound after := by
  obtain ⟨planned, stop, moved, -, hplan, hgrown, hfs, -, rfl⟩ := h.moved
  exact (hsound.grown hgrown).withMetadata (by rw [hfs]; exact hplan.metadata hsound.metadata)
    (by rw [hfs]; exact hplan.stop_le hsound.metadata)

/-- Under the records of before, the volume has only been rewritten. -/
lemma Packed.grown (h : Packed before after) :
    Grown before (after.withRecords before.fs.files before.fs.nextFreeOffset) := by
  obtain ⟨planned, stop, moved, -, -, hgrown, -, -, rfl⟩ := h.moved
  rw [withRecords_withRecords, hgrown.withRecords_eq]
  exact hgrown

end VolumeState
end NwbLot.Volume
