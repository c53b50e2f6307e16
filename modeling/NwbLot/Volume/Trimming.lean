import NwbLot.Volume.PackedFiles

/-!
# Trimming

`trimSegmentsForNextFreeOffsetLocked` removes the segments behind the payload area and cuts the last
one at its end.

`Trimmed` says that the bytes in front of the cursor are kept; with it the flush that ends
`compact` leaves a sound volume.
-/

namespace NwbLot.Volume

open SegmentFiles

namespace VolumeState

variable {before middle after volume : VolumeState}

/-! ## The sizes -/

/-- The bytes of the last of the segments that hold `requiredBytes`. -/
def lastSegmentBytes (requiredBytes segmentSize : ℕ) : ℕ :=
  if requiredBytes % segmentSize = 0 then segmentSize else requiredBytes % segmentSize

lemma divideUp_pos {requiredBytes segmentSize : ℕ} (hrequired : 0 < requiredBytes)
    (hsegment : 0 < segmentSize) : 0 < divideUp requiredBytes segmentSize := by
  rw [divideUp, if_neg (by omega)]
  exact Nat.lt_add_right _ Nat.one_pos

/-- The segments before the last one are full. -/
lemma divideUp_spec {requiredBytes segmentSize : ℕ} (hrequired : 0 < requiredBytes)
    (hsegment : 0 < segmentSize) :
    (divideUp requiredBytes segmentSize - 1) * segmentSize
        + lastSegmentBytes requiredBytes segmentSize = requiredBytes ∧
      0 < lastSegmentBytes requiredBytes segmentSize ∧
      lastSegmentBytes requiredBytes segmentSize ≤ segmentSize := by
  rw [divideUp, if_neg (by omega), Nat.add_sub_cancel_left, lastSegmentBytes]
  have hdiv := Nat.div_add_mod (requiredBytes - 1) segmentSize
  have hmod := Nat.mod_lt (requiredBytes - 1) hsegment
  have hdiv' := Nat.div_add_mod requiredBytes segmentSize
  have hmod' := Nat.mod_lt requiredBytes hsegment
  rw [Nat.mul_comm] at hdiv hdiv'
  split
  · next hzero =>
      have hnext : (requiredBytes - 1) / segmentSize + 1 = requiredBytes / segmentSize := by
        refine Nat.le_antisymm (Nat.lt_of_mul_lt_mul_right (a := segmentSize) (by omega))
          (Nat.le_of_lt_succ (Nat.lt_of_mul_lt_mul_right (a := segmentSize) ?_))
        rw [Nat.succ_mul, Nat.succ_mul]
        omega
      have hmul := congrArg (· * segmentSize) hnext
      rw [Nat.succ_mul] at hmul
      omega
  · next hrest =>
      have hsame : (requiredBytes - 1) / segmentSize = requiredBytes / segmentSize := by
        refine Nat.le_antisymm (Nat.le_of_lt_succ ?_) (Nat.le_of_lt_succ ?_)
        · refine Nat.lt_of_mul_lt_mul_right (a := segmentSize) ?_
          rw [Nat.succ_mul]
          omega
        · refine Nat.lt_of_mul_lt_mul_right (a := segmentSize) ?_
          rw [Nat.succ_mul]
          omega
      rw [hsame]
      omega

/-! ## Removing segments -/

/-- Segments are removed from the back. -/
structure Removed (before after : VolumeState) : Prop where
  fs : after.fs = { before.fs with segmentCount := after.fs.segmentCount }
  count : after.fs.segmentCount ≤ before.fs.segmentCount
  files : ∀ index, after.disk.fileAt index =
    if after.fs.segmentCount ≤ index ∧ index < before.fs.segmentCount then none
    else before.disk.fileAt index
  noIoError : before.NoIoError → after.NoIoError

lemma Removed.refl (volume : VolumeState) : Removed volume volume :=
  ⟨rfl, le_rfl, fun index => by rw [if_neg (by omega)], id⟩

lemma Removed.trans (h : Removed before middle) (hnext : Removed middle after) :
    Removed before after where
  fs := by
    rw [hnext.fs, h.fs]
  count := hnext.count.trans h.count
  files index := by
    have hcount := h.count
    have hcount' := hnext.count
    rw [hnext.files, h.files]
    split_ifs <;> first | rfl | omega
  noIoError hio := hnext.noIoError (h.noIoError hio)

lemma removeSegments_ends (surplus : ℕ) (volume : VolumeState)
    (hsurplus : surplus ≤ volume.fs.segmentCount) :
    Ends (removeSegments surplus volume)
      (fun state => Removed volume state ∧
        state.fs.segmentCount = volume.fs.segmentCount - surplus)
      (fun state => Removed volume state ∧
        volume.fs.segmentCount - surplus < state.fs.segmentCount ∧
        (volume.NoIoError → ¬volume.Laid)) := by
  induction surplus generalizing volume with
  | zero => exact Or.inl ⟨rfl, .refl volume, rfl⟩
  | succ surplus ih =>
    rw [removeSegments]
    have hio : Removed volume volume.afterIo :=
      ⟨rfl, le_rfl, fun index => by rw [if_neg (by simp)]; rfl, NoIoError.afterIo⟩
    split
    · next file houtcome hfile =>
        generalize hremoved : ({ volume.afterIo with
          fs := { volume.fs with segmentCount := volume.fs.segmentCount - 1 }
          disk := volume.disk.setFile (volume.fs.segmentCount - 1) none } : VolumeState) = removed
        have hfirst : Removed volume removed := by
          subst hremoved
          refine ⟨rfl, Nat.sub_le _ _, fun index => ?_, NoIoError.afterIo⟩
          dsimp only
          rw [fileAt_setFile]
          split_ifs <;> first | rfl | omega
        have hcount : removed.fs.segmentCount = volume.fs.segmentCount - 1 := by rw [← hremoved]
        rcases ih removed (by omega) with ⟨hok, hrest, heq⟩ | ⟨hfailed, hrest, hlt, hreason⟩
        · exact Or.inl ⟨hok, hfirst.trans hrest, by omega⟩
        · refine Or.inr ⟨hfailed, hfirst.trans hrest, by omega, fun hclean hlaid => ?_⟩
          refine hreason (hfirst.noIoError hclean) fun index hindex => ?_
          obtain ⟨file, hfile, hlength⟩ := hlaid index (by omega)
          refine ⟨file, ?_, ?_⟩
          · rw [hfirst.files, if_neg (by omega), hfile]
          · rw [hfirst.fs]
            exact hlength
    · next hfailed =>
        refine Or.inr ⟨rfl, hio, ?_, fun hclean hlaid => ?_⟩
        · rw [fs_afterIo]
          omega
        · obtain ⟨file, hfile, -⟩ := hlaid (volume.fs.segmentCount - 1) (by omega)
          exact hfailed file hclean.outcome hfile

/-! ## Resizing the last segment -/

/-- A file of another size; new bytes are zeros. -/
def resized (file : List UInt8) (byteCount : ℕ) : List UInt8 :=
  file.take byteCount ++ List.replicate (byteCount - file.length) 0

lemma length_resized (file : List UInt8) (byteCount : ℕ) :
    (resized file byteCount).length = byteCount := by
  rw [resized, List.length_append, List.length_take, List.length_replicate]
  omega

lemma getElem?_resized {file : List UInt8} {byteCount i : ℕ} (hi : i < byteCount)
    (hfile : i < file.length) : (resized file byteCount)[i]? = file[i]? := by
  rw [resized, List.getElem?_append_left (by rw [List.length_take]; omega), List.getElem?_take,
    if_pos hi]

lemma resizeFile_ends (index byteCount : ℕ) (volume : VolumeState) :
    Ends (resizeFile index byteCount volume)
      (fun state => ∃ file, volume.disk.fileAt index = some file ∧
        state = volume.withFile index (resized file byteCount))
      (fun state => OnlyIo volume state ∧
        (volume.NoIoError → byteCount ≤ streamMax → volume.disk.fileAt index = none)) := by
  rw [resizeFile]
  split
  · next hlong => exact Or.inr ⟨rfl, .refl volume, fun _ hle => absurd hle (not_le.2 hlong)⟩
  · split
    · next file _ hfile => exact Or.inl ⟨rfl, file, hfile, rfl⟩
    · next hfailed =>
        refine Or.inr ⟨rfl, onlyIo_afterIo volume, fun hio _ => ?_⟩
        cases hfile : volume.disk.fileAt index with
        | none => rfl
        | some file => exact absurd hfile (hfailed file hio.outcome)

/-! ## The trimmed volume -/

/-- Only segments behind the payload area are removed, and the last one is cut behind it. -/
structure Trimmed (before after : VolumeState) : Prop where
  fs : after.fs = { before.fs with segmentCount := after.fs.segmentCount }
  count : after.fs.segmentCount ≤ before.fs.segmentCount
  laid : before.Laid → after.Laid
  kept : ∀ offset < before.fs.nextFreeOffset, (before.byteAt offset).isSome →
    after.byteAt offset = before.byteAt offset
  removed : ∀ index, after.fs.segmentCount ≤ index → index < before.fs.segmentCount →
    after.disk.fileAt index = none
  files : ∀ index, index + 1 < after.fs.segmentCount ∨ before.fs.segmentCount ≤ index →
    after.disk.fileAt index = before.disk.fileAt index
  noIoError : before.NoIoError → after.NoIoError

lemma Trimmed.segmentSize (h : Trimmed before after) :
    after.fs.segmentSize = before.fs.segmentSize := by
  rw [h.fs]

/-- The segments of the payload area are left. -/
lemma Removed.trimmed (h : Removed before after)
    (hcount : ∀ offset < before.fs.nextFreeOffset,
      offset / before.fs.segmentSize < after.fs.segmentCount) : Trimmed before after where
  fs := h.fs
  count := h.count
  laid hlaid index hindex := by
    have hle := h.count
    obtain ⟨file, hfile, hlength⟩ := hlaid index (by omega)
    refine ⟨file, ?_, ?_⟩
    · rw [h.files, if_neg (by omega), hfile]
    · rw [h.fs]
      exact hlength
  kept offset hoffset _ := by
    have hleft := hcount offset hoffset
    have hsize : after.fs.segmentSize = before.fs.segmentSize := by rw [h.fs]
    rw [VolumeState.byteAt, VolumeState.byteAt, hsize, if_pos hleft,
      if_pos (hleft.trans_le h.count), h.files, if_neg (by omega)]
  removed index hle hlt := by rw [h.files, if_pos ⟨hle, hlt⟩]
  files index hindex := by
    have hle := h.count
    rw [h.files, if_neg (by omega)]
  noIoError := h.noIoError

lemma Trimmed.onlyIo (h : Trimmed before middle) (hio : OnlyIo middle after) :
    Trimmed before after where
  fs := by
    rw [hio.fs]
    exact h.fs
  count := by
    rw [hio.fs]
    exact h.count
  laid hlaid := hio.sameBytes.laid (h.laid hlaid)
  kept offset hoffset hthere := (hio.byteAt offset).trans (h.kept offset hoffset hthere)
  removed index hle hlt := by
    rw [hio.fs] at hle
    rw [hio.disk]
    exact h.removed index hle hlt
  files index hindex := by
    rw [hio.fs] at hindex
    rw [hio.disk]
    exact h.files index hindex
  noIoError hclean := hio.noIoError (h.noIoError hclean)

/-- The last segment is cut at the end of the payload area. -/
lemma Trimmed.resized {file : List UInt8} {byteCount : ℕ} (h : Trimmed before middle)
    (hcount : 0 < middle.fs.segmentCount)
    (hfile : middle.disk.fileAt (middle.fs.segmentCount - 1) = some file)
    (hpos : 0 < byteCount) (hle : byteCount ≤ before.fs.segmentSize)
    (hend : before.fs.nextFreeOffset
      ≤ (middle.fs.segmentCount - 1) * before.fs.segmentSize + byteCount) :
    Trimmed before (middle.withFile (middle.fs.segmentCount - 1) (resized file byteCount)) where
  fs := h.fs
  count := h.count
  laid hlaid index hindex := by
    by_cases hlast : index = middle.fs.segmentCount - 1
    · refine ⟨VolumeState.resized file byteCount, ?_, ?_, ?_⟩
      · rw [fileAt_withFile, if_pos hlast]
      · rwa [length_resized]
      · rw [length_resized, fs_withFile, h.segmentSize]
        exact hle
    · rw [fileAt_withFile, if_neg hlast]
      exact h.laid hlaid index hindex
  kept offset hoffset hthere := by
    have hbefore := h.kept offset hoffset hthere
    rw [← hbefore]
    by_cases hlast : offset / middle.fs.segmentSize = middle.fs.segmentCount - 1
    · rw [← hbefore, VolumeState.byteAt, hlast, if_pos (by omega), hfile] at hthere
      have hlength : offset % middle.fs.segmentSize < file.length := by
        by_contra hnot
        rw [Option.bind_some, List.getElem?_eq_none (by omega)] at hthere
        cases hthere
      have hdiv := Nat.div_add_mod offset middle.fs.segmentSize
      rw [hlast, Nat.mul_comm, h.segmentSize] at hdiv
      rw [byteAt_withFile_self hlast (by omega), VolumeState.byteAt, hlast, if_pos (by omega),
        hfile, Option.bind_some, getElem?_resized (by rw [h.segmentSize]; omega) hlength]
    · exact byteAt_withFile_of_ne hlast
  removed index hindex hlt := by
    rw [fs_withFile] at hindex
    rw [fileAt_withFile, if_neg (by omega)]
    exact h.removed index hindex hlt
  files index hindex := by
    have hle' := h.count
    rw [fs_withFile] at hindex
    rw [fileAt_withFile, if_neg (by omega)]
    exact h.files index hindex
  noIoError hclean := (h.noIoError hclean).afterIo

/-- Trimming a sound volume. -/
lemma trimSegmentsForNextFreeOffsetLocked_ends (hsound : VolumeSound volume) :
    Ends (trimSegmentsForNextFreeOffsetLocked volume) (Trimmed volume)
      (fun state => Trimmed volume state ∧ (volume.NoIoError → volume.fs.writable = true →
        ¬volume.fs.segmentSize ≤ streamMax + 1)) := by
  have hpos := hsound.segment_pos
  have hnextPos := hsound.nextFree_pos
  have hnextLe := hsound.nextFree_le
  have hcountPos := hsound.count_pos
  obtain ⟨hend, hlastPos, hlastLe⟩ := divideUp_spec hnextPos hpos
  have hrequiredPos := divideUp_pos hnextPos hpos
  have hrequired : max volume.fs.nextFreeOffset volume.fs.metadataBytes
      = volume.fs.nextFreeOffset := max_eq_left hsound.metadata.payload
  have hinside : divideUp volume.fs.nextFreeOffset volume.fs.segmentSize
      ≤ volume.fs.segmentCount := by
    by_contra hnot
    have hle := Nat.mul_le_mul_right volume.fs.segmentSize
      (show volume.fs.segmentCount ≤ divideUp volume.fs.nextFreeOffset volume.fs.segmentSize - 1 by
        omega)
    omega
  -- Every byte of the payload area is in a segment that is left.
  have hleft : ∀ offset < volume.fs.nextFreeOffset, offset / volume.fs.segmentSize
      < divideUp volume.fs.nextFreeOffset volume.fs.segmentSize := by
    intro offset hoffset
    rw [Nat.div_lt_iff_lt_mul hpos]
    have hsplit := Nat.succ_mul (divideUp volume.fs.nextFreeOffset volume.fs.segmentSize - 1)
      volume.fs.segmentSize
    rw [Nat.succ_eq_add_one, Nat.sub_add_cancel hrequiredPos] at hsplit
    omega
  rw [trimSegmentsForNextFreeOffsetLocked]
  split
  · next hrefused =>
      refine Or.inr ⟨rfl, (Removed.refl volume).trimmed fun offset hoffset =>
        (hleft offset hoffset).trans_le hinside, fun _ hwritable => ?_⟩
      rw [hwritable] at hrefused
      simp only [Bool.not_true, Bool.false_eq_true, false_or] at hrefused
      omega
  · rw [if_neg (by omega)]
    dsimp only
    rw [hrequired, if_neg hrequiredPos.ne', if_neg (by omega)]
    generalize divideUp volume.fs.nextFreeOffset volume.fs.segmentSize = requiredSegments
      at hend hrequiredPos hinside hleft ⊢
    rcases removeSegments_ends (volume.fs.segmentCount - requiredSegments) volume
        (Nat.sub_le _ _) with ⟨hok, hremoved, hcount⟩ | ⟨hfailed, hremoved, hlt, hreason⟩
    · rw [hok]
      generalize (removeSegments (volume.fs.segmentCount - requiredSegments) volume).2 = removed
        at hremoved hcount ⊢
      rw [Nat.sub_sub_self hinside] at hcount
      have htrimmed : Trimmed volume removed :=
        hremoved.trimmed fun offset hoffset => hcount ▸ hleft offset hoffset
      have hsized := fileSize_onlyIo (removed.fs.segmentCount - 1) removed
      simp only [Bool.not_true, Bool.false_eq_true, if_false]
      obtain ⟨lastFile, hlastFile, hlastFilePos, hlastFileLe⟩ :=
        htrimmed.laid hsound.laid (removed.fs.segmentCount - 1) (by omega)
      cases hcurrent : (fileSize (removed.fs.segmentCount - 1) removed).1 with
      | none =>
        refine Or.inr ⟨rfl, htrimmed.onlyIo hsized, fun hclean => ?_⟩
        rw [fileSize_eq (htrimmed.noIoError hclean) hlastFile] at hcurrent
        cases hcurrent
      | some currentLastSegmentBytes =>
        obtain ⟨file, hfile, hlength⟩ := fileSize_eq_some hcurrent
        have hfs := hsized.fs
        have hdisk := hsized.disk
        have hkept := htrimmed.onlyIo hsized
        generalize (fileSize (removed.fs.segmentCount - 1) removed).2 = sized
          at hfs hdisk hkept ⊢
        dsimp only
        rw [← hfs] at hcount hfile ⊢
        rw [← hdisk] at hfile
        change Ends (if currentLastSegmentBytes
              = lastSegmentBytes volume.fs.nextFreeOffset volume.fs.segmentSize then (true, sized)
            else resizeFile (sized.fs.segmentCount - 1)
              (lastSegmentBytes volume.fs.nextFreeOffset volume.fs.segmentSize) sized) _ _
        split
        · exact Or.inl ⟨rfl, hkept⟩
        · next hother =>
            rcases resizeFile_ends (sized.fs.segmentCount - 1)
                (lastSegmentBytes volume.fs.nextFreeOffset volume.fs.segmentSize) sized with
              ⟨hok, file', hfile', heq⟩ | ⟨hfailed, hio, hreason⟩
            · refine Or.inl ⟨hok, ?_⟩
              rw [heq]
              exact hkept.resized (by omega) hfile' hlastPos hlastLe (by rw [hcount]; omega)
            · refine Or.inr ⟨hfailed, hkept.onlyIo hio, fun hclean _ hsize => hother ?_⟩
              have hsized := hkept.segmentSize
              have hlong : streamMax
                  < lastSegmentBytes volume.fs.nextFreeOffset volume.fs.segmentSize := by
                by_contra hshort
                rw [hreason (hkept.noIoError hclean) (Nat.le_of_not_lt hshort)] at hfile
                cases hfile
              -- The last segment would be cut at the whole size, which it has.
              have hthere := hsound.last
              rw [← hkept.kept _ (Nat.sub_lt hnextPos Nat.one_pos) hsound.last] at hthere
              have hlastOffset : volume.fs.nextFreeOffset - 1
                  = (sized.fs.segmentCount - 1) * sized.fs.segmentSize
                    + (sized.fs.segmentSize - 1) := by
                rw [hcount, hsized]
                omega
              have hbyte := byteAt_chunk sized
                (by omega : sized.fs.segmentSize - 1 + 0 < sized.fs.segmentSize)
                (by omega : sized.fs.segmentCount - 1 < sized.fs.segmentCount)
              rw [Nat.add_zero, ← hlastOffset, hfile, Option.bind_some] at hbyte
              rw [hbyte] at hthere
              have hfull : sized.fs.segmentSize - 1 < file.length := by
                by_contra hnot
                rw [List.getElem?_eq_none (by omega)] at hthere
                cases hthere
              obtain ⟨file₀, hfile₀, -, hle⟩ := hkept.laid hsound.laid
                (sized.fs.segmentCount - 1) (by omega)
              obtain rfl : file = file₀ := Option.some.inj (hfile.symm.trans hfile₀)
              omega
    · rw [hfailed]
      refine Or.inr ⟨rfl, hremoved.trimmed fun offset hoffset =>
        (hleft offset hoffset).trans (by omega), fun hclean => ?_⟩
      exact absurd hsound.laid (hreason hclean)

lemma Trimmed.present (h : Trimmed before after) {bound : ℕ}
    (hbound : bound ≤ before.fs.nextFreeOffset) (hpresent : before.Present 0 bound) :
    after.Present 0 bound := by
  intro i hi
  have hthere := hpresent i hi
  rw [Nat.zero_add] at hthere ⊢
  rwa [h.kept i (hi.trans_le hbound) hthere]

lemma Trimmed.sound (h : Trimmed before after) (hsound : VolumeSound before) :
    VolumeSound after := by
  have hfs := h.fs
  refine ⟨h.segmentSize.trans_le hsound.represented, ?_, h.laid hsound.laid, ?_⟩
  · have hmetadata := hsound.metadata
    rw [hfs]
    exact ⟨hmetadata.header, hmetadata.segment, hmetadata.payload, hmetadata.index,
      hmetadata.records, hmetadata.unique⟩
  · rw [hfs]
    exact h.present le_rfl hsound.present

/-! ## Compaction -/

/-- How a compaction ends: before its flush, rolled back after it, flushed, or flushed and
trimmed. -/
lemma compact_cases (shrinkSegments : Bool) (hsound : VolumeSound before) :
    (PackingStopped before (packFilesLocked before).2 ∧ (packFilesLocked before).1 = false ∧
      compact shrinkSegments before = (false, (packFilesLocked before).2)) ∨
    ∃ packed, packFilesLocked before = (true, packed) ∧ Packed before packed ∧
      (((flushMetadataLocked packed).1 = false ∧ compact shrinkSegments before
          = (false, rolledBack packed before.fs.files before.fs.nextFreeOffset)) ∨
        ((flushMetadataLocked packed).1 = true ∧ shrinkSegments = false ∧
          compact shrinkSegments before = (true, (flushMetadataLocked packed).2)) ∨
        ((flushMetadataLocked packed).1 = true ∧ shrinkSegments = true ∧
          compact shrinkSegments before
            = trimSegmentsForNextFreeOffsetLocked (flushMetadataLocked packed).2)) := by
  rw [compact]
  dsimp only
  rcases packFilesLocked_ends hsound with ⟨hok, hpacked⟩ | ⟨hfailed, hstopped⟩
  · refine Or.inr ⟨(packFilesLocked before).2, Prod.ext hok rfl, hpacked, ?_⟩
    rw [hok]
    generalize (packFilesLocked before).2 = packed
    cases hflush : (flushMetadataLocked packed).1 with
    | false => exact Or.inl ⟨rfl, rfl⟩
    | true =>
      cases shrinkSegments with
      | false => exact Or.inr (Or.inl ⟨rfl, rfl, rfl⟩)
      | true => exact Or.inr (Or.inr ⟨rfl, rfl, rfl⟩)
  · rw [hfailed]
    exact Or.inl ⟨hstopped, rfl, rfl⟩

/-- What trimming does, whether it succeeds or not. -/
lemma trimSegmentsForNextFreeOffsetLocked_trimmed (hsound : VolumeSound volume) :
    Trimmed volume (trimSegmentsForNextFreeOffsetLocked volume).2 := by
  rcases trimSegmentsForNextFreeOffsetLocked_ends hsound with ⟨-, h⟩ | ⟨-, h, -⟩
  · exact h
  · exact h

lemma compact_sound (shrinkSegments : Bool) (hsound : VolumeSound before) :
    VolumeSound (compact shrinkSegments before).2 := by
  rcases compact_cases shrinkSegments hsound with
    ⟨hstopped, -, heq⟩ | ⟨packed, -, hpacked, ⟨-, heq⟩ | ⟨-, -, heq⟩ | ⟨-, -, heq⟩⟩
  · rw [heq]
    exact hsound.grown (hstopped.touched hsound).toGrown
  · rw [heq]
    exact hsound.grown (grown_rolledBack hpacked.grown (hpacked.sound hsound).metadata)
  · have hsound' := hpacked.sound hsound
    rw [heq]
    exact hsound'.grown (flushMetadataLocked_touched hsound'.metadata).toGrown
  · have hsound' := hpacked.sound hsound
    rw [heq]
    have hflushed := hsound'.grown (flushMetadataLocked_touched hsound'.metadata).toGrown
    exact (trimSegmentsForNextFreeOffsetLocked_trimmed hflushed).sound hflushed

end VolumeState
end NwbLot.Volume
