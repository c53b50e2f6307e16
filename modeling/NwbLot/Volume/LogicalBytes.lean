import NwbLot.Library.MemoryMoves
import NwbLot.Volume.VolumeIo

/-!
# The logical volume

The segment files, one behind the other, as one memory.  A byte that a short file does not reach is
zero in it: that is what a write behind the end of the file leaves there, and what a new segment is
filled with.  So growing a volume does not change the memory, a reading that succeeds returns its
values, and a write changes the values of its range.
-/

namespace NwbLot.Volume

open SegmentFiles MemoryMoves

variable {file bytes : List UInt8} {offset : ℕ}

lemma length_overwrite (hne : bytes ≠ []) :
    (overwrite file offset bytes).length = max file.length (offset + bytes.length) := by
  rw [overwrite, if_neg hne]
  simp only [List.length_append, List.length_take, List.length_replicate, List.length_drop]
  omega

/-- A write leaves the bytes before and behind its range; those that were missing become zero. -/
lemma getElem?_overwrite_outside {i : ℕ} (hne : bytes ≠ [])
    (hi : i < offset ∨ offset + bytes.length ≤ i) :
    (overwrite file offset bytes)[i]?.getD 0 = file[i]?.getD 0 := by
  have hlead : (file.take offset ++ List.replicate (offset - file.length) 0).length = offset := by
    simp only [List.length_append, List.length_take, List.length_replicate]
    omega
  rw [overwrite, if_neg hne, List.append_assoc, List.getElem?_append, hlead]
  split_ifs with hbefore
  · rw [List.getElem?_append, List.length_take, List.getElem?_take, List.getElem?_replicate]
    split_ifs with hlt hlt'
    · rfl
    · rw [List.getElem?_eq_none (by omega)]
      rfl
    · omega
  · rw [List.getElem?_append_right (by omega), List.getElem?_drop]
    congr 2
    omega

lemma getElem?_overwrite_inside {i : ℕ} (hi : i < bytes.length) :
    (overwrite file offset bytes)[offset + i]? = bytes[i]? := by
  have hne : bytes ≠ [] := by
    rintro rfl
    exact absurd hi (Nat.not_lt_zero i)
  have hlead : (file.take offset ++ List.replicate (offset - file.length) 0).length = offset := by
    simp only [List.length_append, List.length_take, List.length_replicate]
    omega
  rw [overwrite, if_neg hne, List.append_assoc, List.getElem?_append_right (by omega), hlead,
    Nat.add_sub_cancel_left, List.getElem?_append_left hi]

namespace VolumeState

/-- The byte that the segment files hold at an offset. -/
def byteAt (volume : VolumeState) (offset : ℕ) : Option UInt8 :=
  if offset / volume.fs.segmentSize < volume.fs.segmentCount then
    (volume.disk.fileAt (offset / volume.fs.segmentSize)).bind
      fun file => file[offset % volume.fs.segmentSize]?
  else none

/-- The logical volume. -/
def logicalByte (volume : VolumeState) (offset : ℕ) : UInt8 := (volume.byteAt offset).getD 0

variable {offset : ℕ}

lemma logicalByte_eq {volume : VolumeState} {byte : UInt8} (h : volume.byteAt offset = some byte) :
    volume.logicalByte offset = byte := by
  rw [logicalByte, h, Option.getD_some]

/-- The mounted segments are files of at least one byte that do not exceed the segment size. -/
def Laid (volume : VolumeState) : Prop :=
  ∀ index < volume.fs.segmentCount, ∃ file, volume.disk.fileAt index = some file ∧
    0 < file.length ∧ file.length ≤ volume.fs.segmentSize

/-- A segment is a file of the whole segment size. -/
def FullSegment (volume : VolumeState) (index : ℕ) : Prop :=
  ∃ file, volume.disk.fileAt index = some file ∧ file.length = volume.fs.segmentSize

/-- What transfers of bytes leave alone: segments are only added, as full ones, and files only
extended. -/
structure Grown (before after : VolumeState) : Prop where
  fs : after.fs = { before.fs with segmentCount := after.fs.segmentCount }
  count : before.fs.segmentCount ≤ after.fs.segmentCount
  laid : before.Laid → after.Laid
  present : ∀ offset, (before.byteAt offset).isSome → (after.byteAt offset).isSome
  full : ∀ index < before.fs.segmentCount, before.FullSegment index → after.FullSegment index
  created : ∀ index, before.fs.segmentCount ≤ index → index < after.fs.segmentCount →
    after.FullSegment index
  noIoError : before.NoIoError → after.NoIoError

/-- No logical byte changes. -/
structure SameBytes (before after : VolumeState) : Prop extends Grown before after where
  bytes : ∀ offset, after.logicalByte offset = before.logicalByte offset

/-- No logical byte outside the range changes. -/
structure Touched (lo hi : ℕ) (before after : VolumeState) : Prop extends Grown before after where
  kept : ∀ offset, offset < lo ∨ hi ≤ offset →
    after.logicalByte offset = before.logicalByte offset

/-- Some logical bytes of the range have got their values in a target memory, and no other logical
byte changes. -/
structure Partly (target : ℕ → UInt8) (lo hi : ℕ) (before after : VolumeState) : Prop
    extends Touched lo hi before after where
  mixed : ∀ offset, lo ≤ offset → offset < hi →
    after.logicalByte offset = before.logicalByte offset ∨ after.logicalByte offset = target offset

/-- The memory that holds the bytes at an offset. -/
def bytesFrom (offset : ℕ) (bytes : List UInt8) (o : ℕ) : UInt8 := bytes[o - offset]?.getD 0

/-- The bytes are written at the offset, and no other logical byte changes. -/
structure Wrote (offset : ℕ) (bytes : List UInt8) (before after : VolumeState) : Prop
    extends Touched offset (offset + bytes.length) before after where
  written : ∀ i < bytes.length, after.byteAt (offset + i) = bytes[i]?

variable {volume before middle after : VolumeState} {lo hi : ℕ}

lemma Grown.segmentSize (h : Grown before after) :
    after.fs.segmentSize = before.fs.segmentSize := by
  rw [h.fs]

lemma Grown.refl (volume : VolumeState) : Grown volume volume :=
  ⟨rfl, le_rfl, id, fun _ => id, fun _ _ => id,
    fun _ hle hlt => absurd (hle.trans_lt hlt) (lt_irrefl _), id⟩

lemma Grown.trans (h : Grown before middle) (hnext : Grown middle after) : Grown before after where
  fs := by
    rw [hnext.fs, h.fs]
  count := h.count.trans hnext.count
  laid hlaid := hnext.laid (h.laid hlaid)
  present offset hpresent := hnext.present offset (h.present offset hpresent)
  full index hindex hfull := hnext.full index (hindex.trans_le h.count) (h.full index hindex hfull)
  created index hle hlt := by
    by_cases hmiddle : index < middle.fs.segmentCount
    · exact hnext.full index hmiddle (h.created index hle hmiddle)
    · exact hnext.created index (Nat.le_of_not_lt hmiddle) hlt
  noIoError hio := hnext.noIoError (h.noIoError hio)

lemma SameBytes.refl (volume : VolumeState) : SameBytes volume volume :=
  ⟨.refl volume, fun _ => rfl⟩

lemma SameBytes.trans (h : SameBytes before middle) (hnext : SameBytes middle after) :
    SameBytes before after :=
  ⟨h.toGrown.trans hnext.toGrown, fun offset => (hnext.bytes offset).trans (h.bytes offset)⟩

lemma SameBytes.touched (h : SameBytes before after) (lo hi : ℕ) : Touched lo hi before after :=
  ⟨h.toGrown, fun offset _ => h.bytes offset⟩

lemma Touched.trans (h : Touched lo hi before middle) (hnext : Touched lo hi middle after) :
    Touched lo hi before after :=
  ⟨h.toGrown.trans hnext.toGrown, fun offset hout =>
    (hnext.kept offset hout).trans (h.kept offset hout)⟩

lemma Touched.mono {lo' hi' : ℕ} (h : Touched lo hi before after) (hlo : lo' ≤ lo)
    (hhi : hi ≤ hi') : Touched lo' hi' before after :=
  ⟨h.toGrown, fun offset hout =>
    h.kept offset (hout.imp (fun hlt => hlt.trans_le hlo) fun hle => hhi.trans hle)⟩

lemma SameBytes.partly (h : SameBytes before after) (target : ℕ → UInt8) (lo hi : ℕ) :
    Partly target lo hi before after :=
  ⟨h.touched lo hi, fun offset _ _ => Or.inl (h.bytes offset)⟩

variable {target : ℕ → UInt8}

lemma Partly.mono {lo' hi' : ℕ} (h : Partly target lo hi before after) (hlo : lo' ≤ lo)
    (hhi : hi ≤ hi') : Partly target lo' hi' before after := by
  refine ⟨h.toTouched.mono hlo hhi, fun offset _ _ => ?_⟩
  by_cases hin : lo ≤ offset ∧ offset < hi
  · exact h.mixed offset hin.1 hin.2
  · exact Or.inl (h.kept offset (by omega))

lemma Partly.congr {target' : ℕ → UInt8} (h : Partly target lo hi before after)
    (heq : ∀ offset, lo ≤ offset → offset < hi → target offset = target' offset) :
    Partly target' lo hi before after :=
  ⟨h.toTouched, fun offset hlo hhi => heq offset hlo hhi ▸ h.mixed offset hlo hhi⟩

lemma Partly.trans (h : Partly target lo hi before middle)
    (hnext : Partly target lo hi middle after) : Partly target lo hi before after := by
  refine ⟨h.toTouched.trans hnext.toTouched, fun offset hlo hhi => ?_⟩
  rcases hnext.mixed offset hlo hhi with hkept | htarget
  · rw [hkept]
    exact h.mixed offset hlo hhi
  · exact Or.inr htarget

lemma Wrote.nil (h : SameBytes before after) (offset : ℕ) : Wrote offset [] before after :=
  ⟨h.touched _ _, fun i hi => absurd hi (Nat.not_lt_zero i)⟩

variable {bytes : List UInt8}

lemma Wrote.of_sameBytes (h : SameBytes before middle) (hnext : Wrote offset bytes middle after) :
    Wrote offset bytes before after :=
  ⟨(h.touched _ _).trans hnext.toTouched, hnext.written⟩

lemma Wrote.logicalByte (h : Wrote offset bytes before after) {i : ℕ} (hi : i < bytes.length) :
    bytes[i]? = some (after.logicalByte (offset + i)) := by
  have hwritten := h.written i hi
  rw [List.getElem?_eq_getElem hi] at hwritten ⊢
  rw [logicalByte_eq hwritten]

lemma Wrote.partly (h : Wrote offset bytes before after) :
    Partly (bytesFrom offset bytes) offset (offset + bytes.length) before after := by
  refine ⟨h.toTouched, fun o hlo hhi => Or.inr ?_⟩
  have hbyte := h.logicalByte (i := o - offset) (by omega)
  rw [Nat.add_sub_cancel' hlo] at hbyte
  rw [bytesFrom, hbyte, Option.getD_some]

/-- A write behind a write. -/
lemma Wrote.append {offset behind : ℕ} {first second : List UInt8}
    (h : Wrote offset first before middle) (hbehind : behind = offset + first.length)
    (hnext : Wrote behind second middle after) :
    Wrote offset (first ++ second) before after where
  toGrown := h.toGrown.trans hnext.toGrown
  kept o hout := by
    rw [List.length_append] at hout
    rw [hnext.kept o (by omega), h.kept o (by omega)]
  written i hi := by
    rw [List.length_append] at hi
    by_cases hfirst : i < first.length
    · have hbyte := h.written i hfirst
      rw [List.getElem?_append_left hfirst, ← hbyte]
      have hpresent := hnext.present (offset + i) (by
        rw [hbyte, List.getElem?_eq_getElem hfirst]
        rfl)
      obtain ⟨byte, hafter⟩ := Option.isSome_iff_exists.1 hpresent
      have hkept := hnext.kept (offset + i) (Or.inl (by omega))
      rw [logicalByte_eq hafter] at hkept
      rw [List.getElem?_eq_getElem hfirst] at hbyte
      rw [logicalByte_eq hbyte] at hkept
      rw [hafter, hbyte, hkept]
    · have hbyte := hnext.written (i - first.length) (by omega)
      rw [List.getElem?_append_right (Nat.le_of_not_lt hfirst), ← hbyte]
      congr 1
      omega

/-! ## Outcomes -/

@[simp] lemma fs_afterIo (volume : VolumeState) : volume.afterIo.fs = volume.fs := rfl

lemma NoIoError.outcome (h : volume.NoIoError) : volume.outcome = .done := by
  cases houtcomes : volume.outcomes with
  | nil => rw [VolumeState.outcome, houtcomes, List.headD_nil]
  | cons first rest =>
    rw [VolumeState.outcome, houtcomes, List.headD_cons]
    exact h first (by rw [houtcomes]; exact List.mem_cons_self)

lemma NoIoError.afterIo (h : volume.NoIoError) : volume.afterIo.NoIoError :=
  fun outcome hmem => h outcome (List.mem_of_mem_tail hmem)

lemma sameBytes_afterIo (volume : VolumeState) : SameBytes volume volume.afterIo :=
  ⟨⟨rfl, le_rfl, id, fun _ => id, fun _ _ => id,
    fun _ hle hlt => absurd (hle.trans_lt hlt) (lt_irrefl _), NoIoError.afterIo⟩, fun _ => rfl⟩

/-- The state after an operation that puts a file in its place. -/
def withFile (volume : VolumeState) (index : ℕ) (file : List UInt8) : VolumeState :=
  { volume.afterIo with disk := volume.disk.setFile index (some file) }

@[simp] lemma fs_withFile (volume : VolumeState) (index : ℕ) (file : List UInt8) :
    (volume.withFile index file).fs = volume.fs := rfl

lemma fileAt_withFile (volume : VolumeState) (index other : ℕ) (file : List UInt8) :
    (volume.withFile index file).disk.fileAt other
      = if other = index then some file else volume.disk.fileAt other :=
  fileAt_setFile volume.disk index other (some file)

variable {index : ℕ} {file : List UInt8}

lemma byteAt_withFile_self (hindex : offset / volume.fs.segmentSize = index)
    (hcount : index < volume.fs.segmentCount) :
    (volume.withFile index file).byteAt offset = file[offset % volume.fs.segmentSize]? := by
  rw [byteAt, fs_withFile, hindex, if_pos hcount, fileAt_withFile, if_pos rfl]
  rfl

lemma byteAt_withFile_of_ne (hindex : offset / volume.fs.segmentSize ≠ index) :
    (volume.withFile index file).byteAt offset = volume.byteAt offset := by
  rw [byteAt, fs_withFile, fileAt_withFile, if_neg hindex]
  rfl

/-- A mounted file is extended and changed inside a range. -/
lemma touched_withFile {count : ℕ} {file' : List UInt8} (hcount : index < volume.fs.segmentCount)
    (hfile : volume.disk.fileAt index = some file) (hlength : file.length ≤ file'.length)
    (hsize : file'.length ≤ max file.length volume.fs.segmentSize)
    (hkept : ∀ i, i < offset ∨ offset + count ≤ i → file'[i]?.getD 0 = file[i]?.getD 0) :
    Touched (index * volume.fs.segmentSize + offset)
      (index * volume.fs.segmentSize + offset + count) volume (volume.withFile index file') := by
  have hbefore : ∀ o, o / volume.fs.segmentSize = index →
      volume.byteAt o = file[o % volume.fs.segmentSize]? := by
    intro o ho
    rw [byteAt, ho, if_pos hcount, hfile]
    rfl
  refine ⟨⟨rfl, le_rfl, ?_, ?_, ?_, ?_, NoIoError.afterIo⟩, ?_⟩
  · intro hlaid other hother
    by_cases hindex : other = index
    · obtain ⟨file₀, hfile₀, hpos, hle⟩ := hlaid index hcount
      obtain rfl : file = file₀ := Option.some.inj (hfile.symm.trans hfile₀)
      refine ⟨file', by rw [fileAt_withFile, if_pos hindex], by omega, ?_⟩
      have hmax : file'.length ≤ volume.fs.segmentSize := by omega
      exact hmax
    · obtain ⟨file₀, hfile₀, hbounds⟩ := hlaid other hother
      exact ⟨file₀, by rw [fileAt_withFile, if_neg hindex, hfile₀], hbounds⟩
  · intro o hpresent
    by_cases hindex : o / volume.fs.segmentSize = index
    · rw [hbefore o hindex, Option.isSome_iff_exists] at hpresent
      obtain ⟨byte, hbyte⟩ := hpresent
      have hlt := (List.getElem?_eq_some_iff.1 hbyte).1
      rw [byteAt_withFile_self hindex hcount, List.getElem?_eq_getElem (hlt.trans_le hlength)]
      rfl
    · rwa [byteAt_withFile_of_ne hindex]
  · rintro other hother ⟨file₀, hfile₀, hfull⟩
    by_cases hindex : other = index
    · rw [hindex, hfile] at hfile₀
      obtain rfl := Option.some.inj hfile₀
      refine ⟨file', by rw [fileAt_withFile, if_pos hindex], ?_⟩
      have hmax : file'.length = volume.fs.segmentSize := by omega
      exact hmax
    · exact ⟨file₀, by rw [fileAt_withFile, if_neg hindex, hfile₀], hfull⟩
  · exact fun other hle hlt => absurd (hle.trans_lt hlt) (lt_irrefl _)
  · intro o hout
    by_cases hindex : o / volume.fs.segmentSize = index
    · have hdiv : index * volume.fs.segmentSize + o % volume.fs.segmentSize = o := by
        rw [← hindex, Nat.mul_comm]
        exact Nat.div_add_mod o _
      rw [logicalByte, logicalByte, byteAt_withFile_self hindex hcount, hbefore o hindex]
      exact hkept _ (by omega)
    · rw [logicalByte, logicalByte, byteAt_withFile_of_ne hindex]

end VolumeState
end NwbLot.Volume
