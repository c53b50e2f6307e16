import NwbLot.Volume.LogicalBytes

/-!
# Transfers of logical bytes

What the chunk loop, readings, writes and the growth of a volume do to the logical volume, whatever
operations on the segment files fail.
-/

namespace NwbLot.Volume

open SegmentFiles MemoryMoves

lemma addNoOverflow_eq {lhs rhs : ℕ} (h : lhs + rhs ≤ u64Max) :
    addNoOverflow lhs rhs = some (lhs + rhs) := by
  rw [addNoOverflow, if_neg (by omega)]

namespace VolumeState

variable {volume : VolumeState} {segmentSize segmentCount offset byteCount : ℕ}

/-! ## The chunk loop -/

section Chunks

variable {σ : Type} {chunkFunc : ℕ → ℕ → ℕ → σ → Bool × σ} {P : ℕ → σ → Prop} {Q : σ → Prop}

/-- An operation succeeds with one property of the state it leaves or fails with another. -/
def Ends (result : Bool × σ) (P Q : σ → Prop) : Prop :=
  (result.1 = true ∧ P result.2) ∨ (result.1 = false ∧ Q result.2)

/-- Every offset and size of the chunks of a range can be represented. -/
def Streams (segmentSize byteCount endOffset : ℕ) : Prop :=
  segmentSize ≤ streamMax ∨ endOffset ≤ streamMax ∨
    (segmentSize ≤ streamMax + 1 ∧ byteCount ≤ streamMax)

/-- The rule of the loop: a chunk that succeeds moves the property on. -/
lemma forEachChunk_ends (hpos : 0 < segmentSize) (byteCount endOffset : ℕ)
    (hlong : ∀ current state, ¬Streams segmentSize byteCount endOffset → P current state →
      Q state)
    (hchunk : ∀ current count state, P current state → 0 < count →
      current % segmentSize + count ≤ segmentSize → current + count ≤ endOffset →
      Ends (chunkFunc (current / segmentSize) (current % segmentSize) count state)
        (P (current + count)) Q)
    (turns current remaining : ℕ) (state : σ) (hturns : remaining ≤ turns)
    (hbytes : remaining ≤ byteCount) (hend : current + remaining = endOffset)
    (hstate : P current state) :
    Ends (forEachChunk segmentSize chunkFunc turns current remaining state) (P endOffset) Q := by
  induction turns generalizing current remaining state with
  | zero =>
    obtain rfl : remaining = 0 := Nat.le_zero.1 hturns
    exact Or.inl ⟨rfl, hend ▸ hstate⟩
  | succ turns ih =>
    rw [forEachChunk]
    split
    · next hdone =>
        subst hdone
        exact Or.inl ⟨rfl, hend ▸ hstate⟩
    · next hmore =>
        have hmod := Nat.mod_lt current hpos
        have hmodLe := Nat.mod_le current segmentSize
        dsimp only
        split
        · next hunrepresented =>
            simp only [Bool.or_eq_true, decide_eq_true_eq] at hunrepresented
            refine Or.inr ⟨rfl, hlong current state ?_ hstate⟩
            rintro (hsegment | hrange | hboth)
            · omega
            · omega
            · omega
        · generalize hcount : min remaining (segmentSize - current % segmentSize) = count
          rcases hchunk current count state hstate (by omega) (by omega) (by omega) with
            ⟨hsucceeded, hnext⟩ | ⟨hfailed, hnext⟩
          · rw [if_pos hsucceeded]
            exact ih (current + count) (remaining - count) _ (by omega) (by omega) (by omega) hnext
          · rw [if_neg (by rw [hfailed]; decide)]
            exact Or.inr ⟨rfl, hnext⟩

/-- The range lies inside the capacity of the segments. -/
def InCapacity (segmentSize segmentCount offset byteCount : ℕ) : Prop :=
  0 < segmentSize ∧ segmentCount ≤ u64Max / segmentSize ∧ offset + byteCount ≤ u64Max ∧
    offset + byteCount ≤ segmentCount * segmentSize

lemma forEachSegmentChunk_refused {state : σ} (hbytes : byteCount ≤ u64Max)
    (h : ¬InCapacity segmentSize segmentCount offset byteCount) :
    forEachSegmentChunk segmentSize segmentCount offset byteCount chunkFunc state
      = (false, state) := by
  rw [forEachSegmentChunk]
  split
  · rfl
  · next hpos =>
      cases hend : addNoOverflow offset byteCount with
      | none => rfl
      | some endOffset =>
        obtain ⟨rfl, hle⟩ := addNoOverflow_eq_some hbytes hend
        simp only
        split
        · rfl
        · split
          · rfl
          · exact absurd ⟨Nat.pos_of_ne_zero hpos, by omega, hle, by omega⟩ h

/-- The rule of the whole transfer. -/
lemma forEachSegmentChunk_ends {state : σ} (hbytes : byteCount ≤ u64Max)
    (hrefused : ¬InCapacity segmentSize segmentCount offset byteCount → Q state)
    (hlong : ∀ current state, ¬Streams segmentSize byteCount (offset + byteCount) →
      P current state → Q state)
    (hchunk : ∀ current count state, P current state → 0 < count →
      current % segmentSize + count ≤ segmentSize → current + count ≤ offset + byteCount →
      current / segmentSize < segmentCount →
      Ends (chunkFunc (current / segmentSize) (current % segmentSize) count state)
        (P (current + count)) Q)
    (hstate : P offset state) :
    Ends (forEachSegmentChunk segmentSize segmentCount offset byteCount chunkFunc state)
      (P (offset + byteCount)) Q := by
  by_cases hcapacity : InCapacity segmentSize segmentCount offset byteCount
  · obtain ⟨hpos, hcount, hend, hinside⟩ := hcapacity
    have hresult : forEachSegmentChunk segmentSize segmentCount offset byteCount chunkFunc state
        = forEachChunk segmentSize chunkFunc byteCount offset byteCount state := by
      rw [forEachSegmentChunk, if_neg (by omega), addNoOverflow_eq hend]
      simp only
      rw [if_neg (by omega), if_neg (by omega)]
    rw [hresult]
    refine forEachChunk_ends hpos byteCount (offset + byteCount) hlong ?_ byteCount offset byteCount
      state le_rfl le_rfl rfl hstate
    intro current count state hP hcountPos hchunkEnd hendChunk
    refine hchunk current count state hP hcountPos hchunkEnd hendChunk ?_
    rw [Nat.div_lt_iff_lt_mul hpos]
    omega
  · rw [forEachSegmentChunk_refused hbytes hcapacity]
    exact Or.inr ⟨rfl, hrefused hcapacity⟩

end Chunks

/-! ## Readings -/

/-- Only outcomes are taken. -/
structure OnlyIo (before after : VolumeState) : Prop where
  eq : after = { before with outcomes := after.outcomes }
  noIoError : before.NoIoError → after.NoIoError

variable {before middle after : VolumeState}

lemma OnlyIo.refl (volume : VolumeState) : OnlyIo volume volume := ⟨rfl, id⟩

lemma OnlyIo.trans (h : OnlyIo before middle) (hnext : OnlyIo middle after) :
    OnlyIo before after where
  eq := by
    rw [hnext.eq, h.eq]
  noIoError hio := hnext.noIoError (h.noIoError hio)

lemma onlyIo_afterIo (volume : VolumeState) : OnlyIo volume volume.afterIo :=
  ⟨rfl, NoIoError.afterIo⟩

lemma OnlyIo.fs (h : OnlyIo before after) : after.fs = before.fs := by rw [h.eq]

lemma OnlyIo.disk (h : OnlyIo before after) : after.disk = before.disk := by rw [h.eq]

lemma OnlyIo.byteAt (h : OnlyIo before after) (offset : ℕ) :
    after.byteAt offset = before.byteAt offset := by
  rw [VolumeState.byteAt, VolumeState.byteAt, h.fs, h.disk]

lemma OnlyIo.sameBytes (h : OnlyIo before after) : SameBytes before after := by
  refine ⟨⟨by rw [h.fs], by rw [h.fs], ?_, ?_, ?_, ?_, h.noIoError⟩, ?_⟩
  · intro hlaid
    rw [Laid, h.fs, h.disk]
    exact hlaid
  · intro offset hpresent
    rwa [h.byteAt]
  · intro index _ hfull
    rw [FullSegment, h.fs, h.disk]
    exact hfull
  · intro index hle hlt
    rw [h.fs] at hlt
    exact absurd (hle.trans_lt hlt) (lt_irrefl _)
  · intro offset
    rw [logicalByte, h.byteAt, logicalByte]

/-- The bytes of a range are in the segment files. -/
def Present (volume : VolumeState) (offset byteCount : ℕ) : Prop :=
  ∀ i < byteCount, (volume.byteAt (offset + i)).isSome

variable {index start : ℕ}

lemma byteAt_chunk (volume : VolumeState) {i : ℕ} (hpos : start + i < volume.fs.segmentSize)
    (hcount : index < volume.fs.segmentCount) :
    volume.byteAt (index * volume.fs.segmentSize + start + i)
      = (volume.disk.fileAt index).bind fun file => file[start + i]? := by
  have hdiv : (index * volume.fs.segmentSize + start + i) / volume.fs.segmentSize = index := by
    rw [Nat.add_assoc, Nat.mul_comm, Nat.mul_add_div (by omega), Nat.div_eq_of_lt hpos,
      Nat.add_zero]
  have hmod : (index * volume.fs.segmentSize + start + i) % volume.fs.segmentSize = start + i := by
    rw [Nat.add_assoc, Nat.mul_comm, Nat.mul_add_mod, Nat.mod_eq_of_lt hpos]
  rw [byteAt, hdiv, hmod, if_pos hcount]

variable {count : ℕ} {file : List UInt8}

lemma take_drop_of_present (hend : start + count ≤ volume.fs.segmentSize)
    (hcount : index < volume.fs.segmentCount) (hfile : volume.disk.fileAt index = some file)
    (hlength : ((file.drop start).take count).length = count) :
    (file.drop start).take count
        = valuesAt volume.logicalByte (index * volume.fs.segmentSize + start) count ∧
      volume.Present (index * volume.fs.segmentSize + start) count := by
  have hbyte : ∀ i < count, ∃ byte, file[start + i]? = some byte ∧
      volume.byteAt (index * volume.fs.segmentSize + start + i) = some byte := by
    intro i hi
    have hlt : start + i < file.length := by
      rw [List.length_take, List.length_drop] at hlength
      omega
    refine ⟨_, List.getElem?_eq_getElem hlt, ?_⟩
    rw [byteAt_chunk _ (by omega) hcount, hfile, Option.bind_some, List.getElem?_eq_getElem hlt]
  refine ⟨List.ext_getElem? fun i => ?_, fun i hi => ?_⟩
  · by_cases hi : i < count
    · obtain ⟨byte, hread, hvolume⟩ := hbyte i hi
      rw [List.getElem?_take_of_lt hi, List.getElem?_drop, getElem?_valuesAt hi, hread,
        logicalByte_eq hvolume]
    · rw [List.getElem?_eq_none (by omega), List.getElem?_eq_none (by rw [length_valuesAt]; omega)]
  · obtain ⟨byte, -, hvolume⟩ := hbyte i hi
    rw [hvolume]
    rfl

/-- A chunk that is read is that of the logical volume, and without an I/O error a chunk that is
there is read. -/
lemma readSegmentBytes_ends (volume : VolumeState) (hpos : 0 < count)
    (hend : start + count ≤ volume.fs.segmentSize) (hcount : index < volume.fs.segmentCount)
    (bytes : List UInt8) :
    Ends (readSegmentBytes index start count (bytes, volume))
      (fun state => state = (bytes ++ valuesAt volume.logicalByte
          (index * volume.fs.segmentSize + start) count, volume.afterIo) ∧
        volume.Present (index * volume.fs.segmentSize + start) count)
      (fun state => state = (bytes, volume.afterIo) ∧ (volume.NoIoError →
        ¬volume.Present (index * volume.fs.segmentSize + start) count)) := by
  rw [readSegmentBytes]
  split
  · next file houtcome hfile =>
      dsimp only at houtcome hfile ⊢
      split
      · next hlength =>
          obtain ⟨hvalues, hpresent⟩ := take_drop_of_present hend hcount hfile hlength
          exact Or.inl ⟨rfl, by rw [hvalues], hpresent⟩
      · next hshort =>
          refine Or.inr ⟨rfl, rfl, fun _ hpresent => hshort ?_⟩
          have hlast := hpresent (count - 1) (by omega)
          rw [byteAt_chunk _ (by omega) hcount, hfile, Option.bind_some, Option.isSome_iff_exists]
            at hlast
          obtain ⟨byte, hbyte⟩ := hlast
          have hlt := (List.getElem?_eq_some_iff.1 hbyte).1
          rw [List.length_take, List.length_drop]
          omega
  · next hneither =>
      refine Or.inr ⟨rfl, rfl, fun hio hpresent => ?_⟩
      have hfirst := hpresent 0 hpos
      rw [byteAt_chunk _ (by omega) hcount] at hfirst
      obtain ⟨file, hfile⟩ := Option.isSome_iff_exists.1 (Option.isSome_of_isSome_bind hfirst)
      exact hneither file hio.outcome hfile

lemma valuesAt_snoc {memory : ℕ → UInt8} {current : ℕ} (hle : offset ≤ current) :
    valuesAt memory offset (current + count - offset)
      = valuesAt memory offset (current - offset) ++ valuesAt memory current count := by
  obtain ⟨done, rfl⟩ := Nat.exists_eq_add_of_le hle
  rw [Nat.add_assoc, Nat.add_sub_cancel_left, Nat.add_sub_cancel_left, valuesAt_add]

/-- `readBytesLocked` returns the values of the logical volume, and without an I/O error it fails
only for a range that is not there. -/
lemma readBytesLocked_ends (volume : VolumeState) (offset : ℕ) (hbytes : byteCount ≤ u64Max) :
    OnlyIo volume (readBytesLocked offset byteCount volume).2 ∧
      (((readBytesLocked offset byteCount volume).1
            = some (valuesAt volume.logicalByte offset byteCount) ∧
          volume.Present offset byteCount) ∨
        ((readBytesLocked offset byteCount volume).1 = none ∧
          (volume.NoIoError → Streams volume.fs.segmentSize byteCount (offset + byteCount) →
            InCapacity volume.fs.segmentSize volume.fs.segmentCount offset byteCount →
            ¬volume.Present offset byteCount))) := by
  by_cases hzero : byteCount = 0
  · subst hzero
    rw [readBytesLocked, if_pos rfl]
    exact ⟨.refl volume, Or.inl ⟨rfl, fun i hi => absurd hi (Nat.not_lt_zero i)⟩⟩
  let P (current : ℕ) (state : List UInt8 × VolumeState) : Prop :=
    OnlyIo volume state.2 ∧ offset ≤ current ∧
      state.1 = valuesAt volume.logicalByte offset (current - offset) ∧
      volume.Present offset (current - offset)
  let Q (state : List UInt8 × VolumeState) : Prop :=
    OnlyIo volume state.2 ∧ (volume.NoIoError →
      Streams volume.fs.segmentSize byteCount (offset + byteCount) →
      InCapacity volume.fs.segmentSize volume.fs.segmentCount offset byteCount →
      ¬volume.Present offset byteCount)
  have hstart : P offset ([], volume) := by
    refine ⟨.refl volume, le_rfl, ?_, ?_⟩
    · rw [Nat.sub_self]
      rfl
    · rw [Nat.sub_self]
      exact fun i hi => absurd hi (Nat.not_lt_zero i)
  have hends : Ends (forEachSegmentChunk volume.fs.segmentSize volume.fs.segmentCount offset
      byteCount readSegmentBytes ([], volume)) (P (offset + byteCount)) Q := by
    refine forEachSegmentChunk_ends hbytes ?_ ?_ ?_ hstart
    · exact fun hrefused => ⟨.refl volume, fun _ _ hcapacity => absurd hcapacity hrefused⟩
    · rintro current state hlong ⟨hio, -⟩
      exact ⟨hio, fun _ hstream => absurd hstream hlong⟩
    · rintro current count ⟨bytes, state⟩ ⟨hio, hle, rfl, hpresent⟩ hpos hchunk hend hindex
      have hplace : current / volume.fs.segmentSize * volume.fs.segmentSize
          + current % volume.fs.segmentSize = current := by
        rw [Nat.mul_comm]
        exact Nat.div_add_mod current _
      have hread := readSegmentBytes_ends state hpos
        (by rw [hio.fs]; exact hchunk) (by rw [hio.fs]; exact hindex)
        (valuesAt volume.logicalByte offset (current - offset))
      have hsame : ∀ o, state.byteAt o = volume.byteAt o := hio.byteAt
      have hlogical : state.logicalByte = volume.logicalByte := funext hio.sameBytes.bytes
      rw [hio.fs, hplace, hlogical] at hread
      rcases hread with ⟨hok, heq, hthere⟩ | ⟨hfailed, heq, hmissing⟩
      · refine Or.inl ⟨hok, ?_⟩
        rw [heq]
        refine ⟨hio.trans (onlyIo_afterIo state), by omega, (valuesAt_snoc hle).symm, ?_⟩
        intro i hi
        by_cases hold : i < current - offset
        · exact hpresent i hold
        · have hnew := hthere (i - (current - offset)) (by omega)
          rw [hsame] at hnew
          rwa [show offset + i = current + (i - (current - offset)) by omega]
      · refine Or.inr ⟨hfailed, ?_⟩
        rw [heq]
        refine ⟨hio.trans (onlyIo_afterIo state), fun hclean _ _ hall => ?_⟩
        refine hmissing (hio.noIoError hclean) fun i hi => ?_
        have hbyte := hall (current - offset + i) (by omega)
        rw [hsame]
        rwa [show offset + (current - offset + i) = current + i by omega] at hbyte
  rw [readBytesLocked, if_neg hzero]
  rcases hends with ⟨hok, hio, -, hvalues, hpresent⟩ | ⟨hfailed, hio, hmissing⟩
  · rw [Nat.add_sub_cancel_left] at hvalues hpresent
    refine ⟨hio, Or.inl ⟨?_, hpresent⟩⟩
    simp only [hok, if_true, hvalues]
  · refine ⟨hio, Or.inr ⟨?_, hmissing⟩⟩
    simp only [hfailed, Bool.false_eq_true, if_false]

/-! ## Writes -/

/-- A chunk that is written. -/
lemma wrote_withFile {chunk : List UInt8} (hne : chunk ≠ [])
    (hend : start + chunk.length ≤ volume.fs.segmentSize) (hcount : index < volume.fs.segmentCount)
    (hfile : volume.disk.fileAt index = some file) :
    Wrote (index * volume.fs.segmentSize + start) chunk volume
      (volume.withFile index (overwrite file start chunk)) := by
  refine ⟨touched_withFile hcount hfile ?_ ?_ ?_, ?_⟩
  · rw [length_overwrite hne]
    exact le_max_left _ _
  · rw [length_overwrite hne]
    omega
  · exact fun i hi => getElem?_overwrite_outside hne hi
  · intro i hi
    have hlt : start + i < volume.fs.segmentSize := by omega
    have hbyte := byteAt_chunk (volume.withFile index (overwrite file start chunk)) hlt hcount
    rw [fs_withFile, fileAt_withFile, if_pos rfl, Option.bind_some,
      getElem?_overwrite_inside hi] at hbyte
    exact hbyte

variable {bytes : List UInt8}

/-- A chunk that is written in part. -/
lemma partly_withFile_overwrite (hchunk : byteCount ≤ count)
    (hend : start + count ≤ volume.fs.segmentSize) (hcount : index < volume.fs.segmentCount)
    (hfile : volume.disk.fileAt index = some file) :
    Partly (bytesFrom (index * volume.fs.segmentSize + start) bytes)
      (index * volume.fs.segmentSize + start)
      (index * volume.fs.segmentSize + start + count) volume
      (volume.withFile index (overwrite file start (bytes.take byteCount))) := by
  have hlength : (bytes.take byteCount).length ≤ byteCount := by
    rw [List.length_take]
    exact Nat.min_le_left _ _
  by_cases hne : bytes.take byteCount = []
  · rw [hne, overwrite, if_pos rfl]
    have htouched : Touched (index * volume.fs.segmentSize + start)
        (index * volume.fs.segmentSize + start + 0) volume (volume.withFile index file) :=
      touched_withFile hcount hfile le_rfl (le_max_left _ _) fun _ _ => rfl
    refine ⟨htouched.mono le_rfl (Nat.add_le_add_left (Nat.zero_le count) _), fun offset _ _ => ?_⟩
    exact Or.inl (htouched.kept offset (by omega))
  · have hwrote : Wrote (index * volume.fs.segmentSize + start) (bytes.take byteCount) volume
        (volume.withFile index (overwrite file start (bytes.take byteCount))) :=
      wrote_withFile hne (by omega) hcount hfile
    refine (hwrote.partly.congr fun offset hlo hhi => ?_).mono le_rfl (by omega)
    rw [bytesFrom, bytesFrom, List.getElem?_take, if_pos (by omega)]

lemma writeSegmentBytes_ends (volume : VolumeState) (hpos : 0 < count)
    (hbytes : count ≤ bytes.length) (hend : start + count ≤ volume.fs.segmentSize)
    (hcount : index < volume.fs.segmentCount) :
    Ends (writeSegmentBytes index start count (bytes, volume))
      (fun state => state.1 = bytes.drop count ∧ state.2.fs = volume.fs ∧
        Wrote (index * volume.fs.segmentSize + start) (bytes.take count) volume state.2)
      (fun state => Partly (bytesFrom (index * volume.fs.segmentSize + start) bytes)
          (index * volume.fs.segmentSize + start)
          (index * volume.fs.segmentSize + start + count) volume state.2 ∧
        (volume.NoIoError → ¬volume.Laid)) := by
  rw [writeSegmentBytes]
  split
  · next hmissing =>
      refine Or.inr ⟨rfl, (sameBytes_afterIo volume).partly _ _ _, fun _ hlaid => ?_⟩
      obtain ⟨file, hfile, -⟩ := hlaid index hcount
      dsimp only at hmissing
      rw [hmissing] at hfile
      cases hfile
  · next file hfile =>
      dsimp only at hfile ⊢
      split
      · have hne : bytes.take count ≠ [] := by
          intro hnil
          have hlength := congrArg List.length hnil
          rw [List.length_take, List.length_nil] at hlength
          omega
        have hlength : (bytes.take count).length = count := by
          rw [List.length_take]
          omega
        exact Or.inl ⟨rfl, rfl, rfl, wrote_withFile hne (by omega) hcount hfile⟩
      · next houtcome =>
          refine Or.inr ⟨rfl, (sameBytes_afterIo volume).partly _ _ _, fun hio => ?_⟩
          exact absurd (hio.outcome.symm.trans houtcome) nofun
      · next byteCount houtcome =>
          refine Or.inr ⟨rfl, partly_withFile_overwrite (Nat.min_le_right _ _) hend hcount hfile,
            fun hio => ?_⟩
          exact absurd (hio.outcome.symm.trans houtcome) nofun

/-- The write transfer inside the capacity. -/
lemma writeSegments_ends (volume : VolumeState) (offset : ℕ) (hbytes : bytes.length ≤ u64Max) :
    Ends (forEachSegmentChunk volume.fs.segmentSize volume.fs.segmentCount offset bytes.length
        writeSegmentBytes (bytes, volume))
      (fun state => state.2.fs = volume.fs ∧ Wrote offset bytes volume state.2)
      (fun state => Partly (bytesFrom offset bytes) offset (offset + bytes.length) volume state.2 ∧
        (volume.NoIoError →
          Streams volume.fs.segmentSize bytes.length (offset + bytes.length) →
          InCapacity volume.fs.segmentSize volume.fs.segmentCount offset bytes.length →
          ¬volume.Laid)) := by
  let P (current : ℕ) (state : List UInt8 × VolumeState) : Prop :=
    offset ≤ current ∧ state.1 = bytes.drop (current - offset) ∧
      state.2.fs = volume.fs ∧ Wrote offset (bytes.take (current - offset)) volume state.2
  let Q (state : List UInt8 × VolumeState) : Prop :=
    Partly (bytesFrom offset bytes) offset (offset + bytes.length) volume state.2 ∧
      (volume.NoIoError →
          Streams volume.fs.segmentSize bytes.length (offset + bytes.length) →
        InCapacity volume.fs.segmentSize volume.fs.segmentCount offset bytes.length →
        ¬volume.Laid)
  have hpartly : ∀ current (state : List UInt8 × VolumeState), P current state →
      Partly (bytesFrom offset bytes) offset (offset + bytes.length) volume state.2 := by
    rintro current state ⟨-, -, -, hwrote⟩
    refine (hwrote.partly.congr fun o hlo hhi => ?_).mono le_rfl ?_
    · rw [List.length_take] at hhi
      rw [bytesFrom, bytesFrom, List.getElem?_take, if_pos (by omega)]
    · rw [List.length_take]
      omega
  have hstart : P offset (bytes, volume) := by
    refine ⟨le_rfl, ?_, rfl, ?_⟩
    · rw [Nat.sub_self, List.drop_zero]
    · rw [Nat.sub_self, List.take_zero]
      exact .nil (.refl volume) offset
  have hends : Ends (forEachSegmentChunk volume.fs.segmentSize volume.fs.segmentCount offset
      bytes.length writeSegmentBytes (bytes, volume)) (P (offset + bytes.length)) Q := by
    refine forEachSegmentChunk_ends hbytes ?_ ?_ ?_ hstart
    · exact fun hrefused => ⟨hpartly _ _ hstart, fun _ _ hcapacity => absurd hcapacity hrefused⟩
    · exact fun current state hlong hP =>
        ⟨hpartly current state hP, fun _ hstream => absurd hstream hlong⟩
    · rintro current count ⟨rest, state⟩ ⟨hle, rfl, hfs, hwrote⟩ hpos hchunk hend hindex
      have hplace : current / volume.fs.segmentSize * volume.fs.segmentSize
          + current % volume.fs.segmentSize = current := by
        rw [Nat.mul_comm]
        exact Nat.div_add_mod current _
      have hwrite := writeSegmentBytes_ends state hpos
        (by rw [List.length_drop]; omega : count ≤ (bytes.drop (current - offset)).length)
        (by rw [hfs]; exact hchunk) (by rw [hfs]; exact hindex)
      rw [hfs, hplace] at hwrite
      have hdone : offset + (bytes.take (current - offset)).length = current := by
        rw [List.length_take]
        omega
      rcases hwrite with ⟨hok, hrest, hsame, hnext⟩ | ⟨hfailed, htorn, hreason⟩
      · refine Or.inl ⟨hok, by omega, ?_, ?_, ?_⟩
        · rw [hrest, List.drop_drop, Nat.sub_add_comm hle]
        · exact hsame
        · have happend := hwrote.append hdone.symm hnext
          rwa [← List.take_add, ← Nat.sub_add_comm hle] at happend
      · refine Or.inr ⟨hfailed, ?_, fun hio _ _ hlaid => ?_⟩
        · refine (hpartly current _ ⟨hle, rfl, hfs, hwrote⟩).trans
            ((htorn.congr fun o hlo _ => ?_).mono hle (by omega))
          rw [bytesFrom, bytesFrom, List.getElem?_drop]
          congr 2
          omega
        · exact hreason (hwrote.noIoError hio) (hwrote.laid hlaid)
  rcases hends with ⟨hok, -, -, hfs, hwrote⟩ | ⟨hfailed, hQ⟩
  · rw [Nat.add_sub_cancel_left, List.take_length] at hwrote
    exact Or.inl ⟨hok, hfs, hwrote⟩
  · exact Or.inr ⟨hfailed, hQ⟩

/-! ## Growth -/

/-- A file behind the mounted segments is not part of the logical volume. -/
lemma sameBytes_withFile_beyond (hindex : volume.fs.segmentCount ≤ index) (file : List UInt8) :
    SameBytes volume (volume.withFile index file) := by
  have hother : ∀ other < volume.fs.segmentCount,
      (volume.withFile index file).disk.fileAt other = volume.disk.fileAt other := by
    intro other hlt
    rw [fileAt_withFile, if_neg (by omega)]
  have hbyte : ∀ offset, (volume.withFile index file).byteAt offset = volume.byteAt offset := by
    intro offset
    rw [byteAt, byteAt, fs_withFile]
    split
    · next hlt => rw [hother _ hlt]
    · rfl
  refine ⟨⟨rfl, le_rfl, ?_, ?_, ?_, ?_, NoIoError.afterIo⟩, ?_⟩
  · intro hlaid other hlt
    rw [hother other hlt]
    exact hlaid other hlt
  · intro offset hpresent
    rwa [hbyte]
  · rintro other hlt ⟨file₀, hfile₀, hfull⟩
    exact ⟨file₀, by rw [hother other hlt, hfile₀], hfull⟩
  · exact fun other hle hlt => absurd (hle.trans_lt hlt) (lt_irrefl _)
  · intro offset
    rw [logicalByte, logicalByte, hbyte]

/-- The state after a segment has been added. -/
def withSegment (volume : VolumeState) : VolumeState :=
  { volume.withFile volume.fs.segmentCount (List.replicate volume.fs.segmentSize 0) with
    fs := { volume.fs with segmentCount := volume.fs.segmentCount + 1 } }

lemma fileAt_withSegment (volume : VolumeState) (index : ℕ) :
    volume.withSegment.disk.fileAt index = if index = volume.fs.segmentCount then
      some (List.replicate volume.fs.segmentSize 0) else volume.disk.fileAt index :=
  fileAt_withFile volume _ index _

/-- A new segment is zeros, as the logical volume was there before. -/
lemma sameBytes_withSegment (hpos : 0 < volume.fs.segmentSize) :
    SameBytes volume volume.withSegment := by
  have hother : ∀ index < volume.fs.segmentCount,
      volume.withSegment.disk.fileAt index = volume.disk.fileAt index := by
    intro index hlt
    rw [fileAt_withSegment, if_neg (by omega)]
  have hnew : volume.withSegment.disk.fileAt volume.fs.segmentCount
      = some (List.replicate volume.fs.segmentSize 0) := by
    rw [fileAt_withSegment, if_pos rfl]
  have hold : ∀ offset, offset / volume.fs.segmentSize < volume.fs.segmentCount →
      volume.withSegment.byteAt offset = volume.byteAt offset := by
    intro offset hlt
    have hinside : offset / volume.withSegment.fs.segmentSize
        < volume.withSegment.fs.segmentCount := hlt.trans (Nat.lt_succ_self _)
    rw [byteAt, byteAt, if_pos hlt, if_pos hinside]
    exact congrArg (Option.bind · _) (hother _ hlt)
  refine ⟨⟨rfl, Nat.le_succ _, ?_, ?_, ?_, ?_, NoIoError.afterIo⟩, ?_⟩
  · intro hlaid index hlt
    by_cases hlast : index = volume.fs.segmentCount
    · refine ⟨_, by rw [hlast, hnew], ?_, ?_⟩
      · rw [List.length_replicate]
        exact hpos
      · rw [List.length_replicate]
        exact le_rfl
    · have hlt' : index < volume.fs.segmentCount + 1 := hlt
      rw [hother index (by omega)]
      exact hlaid index (by omega)
  · intro offset hpresent
    by_cases hlt : offset / volume.fs.segmentSize < volume.fs.segmentCount
    · rwa [hold offset hlt]
    · rw [byteAt, if_neg hlt] at hpresent
      cases hpresent
  · rintro index hlt ⟨file, hfile, hfull⟩
    exact ⟨file, by rw [hother index hlt, hfile], hfull⟩
  · intro index hle hlt
    have hlt' : index < volume.fs.segmentCount + 1 := hlt
    obtain rfl : index = volume.fs.segmentCount := by omega
    exact ⟨_, hnew, List.length_replicate⟩
  · intro offset
    by_cases hlt : offset / volume.fs.segmentSize < volume.fs.segmentCount
    · rw [logicalByte, logicalByte, hold offset hlt]
    · have hbefore : volume.logicalByte offset = 0 := by
        rw [logicalByte, byteAt, if_neg hlt]
        rfl
      rw [hbefore, logicalByte, byteAt]
      split
      · next hinside =>
          have hinside' : offset / volume.fs.segmentSize < volume.fs.segmentCount + 1 := hinside
          have hindex : offset / volume.withSegment.fs.segmentSize = volume.fs.segmentCount := by
            show offset / volume.fs.segmentSize = volume.fs.segmentCount
            omega
          rw [hindex, hnew, Option.bind_some, List.getElem?_replicate]
          split
          · rfl
          · rfl
      · rfl

/-- What stops `createSegmentLocked` without an I/O error. -/
def SegmentRefused (fs : VolumeFileSystem) : Prop :=
  (fs.maxSegments ≠ 0 ∧ fs.maxSegments ≤ fs.segmentCount) ∨ fs.segmentSize = 0 ∨
    streamMax < fs.segmentSize - 1

lemma createSegmentLocked_ends (volume : VolumeState) :
    Ends (createSegmentLocked volume.fs.segmentCount volume)
      (fun state => state = volume.withSegment ∧ ¬SegmentRefused volume.fs)
      (fun state => SameBytes volume state ∧ state.fs = volume.fs ∧
        (volume.NoIoError → SegmentRefused volume.fs)) := by
  rw [createSegmentLocked]
  split
  · next hlimit => exact Or.inr ⟨rfl, .refl volume, rfl, fun _ => Or.inl hlimit⟩
  · next hlimit =>
      split
      · next hzero => exact Or.inr ⟨rfl, .refl volume, rfl, fun _ => Or.inr (Or.inl hzero)⟩
      · next hpos =>
          dsimp only
          split
          · next houtcome =>
              refine Or.inr ⟨rfl, sameBytes_afterIo volume, rfl, fun hio => ?_⟩
              exact absurd (hio.outcome.symm.trans houtcome) nofun
          · split
            · next hlong =>
                exact Or.inr ⟨rfl, sameBytes_withFile_beyond le_rfl _, rfl,
                  fun _ => Or.inr (Or.inr hlong)⟩
            · next hlong =>
                split
                · rw [if_pos rfl]
                  refine Or.inl ⟨rfl, rfl, ?_⟩
                  rintro (hmax | hsize | hstream)
                  · exact hlimit hmax
                  · exact hpos hsize
                  · exact hlong hstream
                · exact Or.inr ⟨rfl, sameBytes_afterIo volume, rfl, fun hio =>
                    absurd hio.outcome (by simp_all)⟩
                · next byteCount houtcome =>
                    refine Or.inr ⟨rfl, sameBytes_withFile_beyond le_rfl _, rfl, fun hio => ?_⟩
                    exact absurd (hio.outcome.symm.trans houtcome) nofun

lemma computeLogicalCapacityLocked_eq_some {fs : VolumeFileSystem} {capacity : ℕ}
    (h : computeLogicalCapacityLocked fs = some capacity) :
    0 < fs.segmentSize ∧ fs.segmentCount ≤ u64Max / fs.segmentSize ∧
      capacity = fs.segmentCount * fs.segmentSize := by
  rw [computeLogicalCapacityLocked] at h
  split_ifs at h with hzero hlarge
  cases h
  exact ⟨Nat.pos_of_ne_zero hzero, by omega, rfl⟩

lemma computeLogicalCapacityLocked_eq {fs : VolumeFileSystem} (hpos : 0 < fs.segmentSize)
    (hcount : fs.segmentCount ≤ u64Max / fs.segmentSize) :
    computeLogicalCapacityLocked fs = some (fs.segmentCount * fs.segmentSize) := by
  rw [computeLogicalCapacityLocked, if_neg (by omega), if_neg (by omega)]

/-- The required bytes are inside the capacity. -/
def Covers (fs : VolumeFileSystem) (requiredBytes : ℕ) : Prop :=
  0 < fs.segmentSize ∧ fs.segmentCount ≤ u64Max / fs.segmentSize ∧
    requiredBytes ≤ fs.segmentCount * fs.segmentSize

lemma growSegments_ends (requiredBytes turns : ℕ) (volume : VolumeState) :
    Ends (growSegments requiredBytes turns volume)
      (fun state => SameBytes volume state ∧ Covers state.fs requiredBytes)
      (SameBytes volume) := by
  induction turns generalizing volume with
  | zero => exact Or.inr ⟨rfl, .refl volume⟩
  | succ turns ih =>
    rw [growSegments]
    cases hcapacity : computeLogicalCapacityLocked volume.fs with
    | none => exact Or.inr ⟨rfl, .refl volume⟩
    | some capacity =>
      obtain ⟨hpos, hcount, rfl⟩ := computeLogicalCapacityLocked_eq_some hcapacity
      dsimp only
      split
      · next hle => exact Or.inl ⟨rfl, .refl volume, hpos, hcount, hle⟩
      · split
        · exact Or.inr ⟨rfl, .refl volume⟩
        · rcases createSegmentLocked_ends volume with ⟨hok, heq, -⟩ | ⟨hfailed, hsame, -⟩
          · rw [if_pos hok, heq]
            have hadded := sameBytes_withSegment hpos
            rcases ih volume.withSegment with ⟨hok', hsame, hcovers⟩ | ⟨hfailed, hsame⟩
            · exact Or.inl ⟨hok', hadded.trans hsame, hcovers⟩
            · exact Or.inr ⟨hfailed, hadded.trans hsame⟩
          · rw [if_neg (by rw [hfailed]; decide)]
            exact Or.inr ⟨rfl, hsame⟩

/-- `ensureCapacityLocked` leaves the logical volume as it is. -/
lemma ensureCapacityLocked_ends (requiredBytes : ℕ) (volume : VolumeState) :
    Ends (ensureCapacityLocked requiredBytes volume)
      (fun state => SameBytes volume state ∧ Covers state.fs requiredBytes)
      (SameBytes volume) := by
  rw [ensureCapacityLocked]
  split
  · exact Or.inr ⟨rfl, .refl volume⟩
  · exact growSegments_ends requiredBytes _ volume

lemma ensureCapacityLocked_of_covers {requiredBytes : ℕ} (h : Covers volume.fs requiredBytes) :
    ensureCapacityLocked requiredBytes volume = (true, volume) := by
  obtain ⟨hpos, hcount, hle⟩ := h
  rw [ensureCapacityLocked, if_neg (by omega), growSegments,
    computeLogicalCapacityLocked_eq hpos hcount]
  exact if_pos hle

/-! ## Logical writes -/

/-- `writeBytesLocked` changes no byte outside its range, and without an I/O error it fails only
outside the capacity. -/
lemma writeBytesLocked_ends (volume : VolumeState) (offset : ℕ) (hbytes : bytes.length ≤ u64Max) :
    Ends (writeBytesLocked offset bytes volume)
      (fun state => Wrote offset bytes volume state ∧
        (Covers volume.fs (offset + bytes.length) → state.fs = volume.fs))
      (fun state => Partly (bytesFrom offset bytes) offset (offset + bytes.length) volume state ∧
        (volume.NoIoError →
          Streams volume.fs.segmentSize bytes.length (offset + bytes.length) →
          Covers volume.fs (offset + bytes.length) → offset + bytes.length ≤ u64Max →
          ¬volume.Laid)) := by
  rw [writeBytesLocked]
  split
  · next hempty =>
      obtain rfl := List.length_eq_zero_iff.1 hempty
      exact Or.inl ⟨rfl, .nil (.refl volume) offset, fun _ => rfl⟩
  · cases hend : addNoOverflow offset bytes.length with
    | none =>
      refine Or.inr ⟨rfl, (SameBytes.refl volume).partly _ _ _, fun _ _ _ hle => ?_⟩
      rw [addNoOverflow_eq hle] at hend
      cases hend
    | some endOffset =>
      obtain ⟨rfl, hle⟩ := addNoOverflow_eq_some hbytes hend
      dsimp only
      rcases ensureCapacityLocked_ends (offset + bytes.length) volume with
        ⟨hok, hsame, hcovers⟩ | ⟨hfailed, hsame⟩
      · rw [if_pos hok]
        rcases writeSegments_ends (ensureCapacityLocked (offset + bytes.length) volume).2 offset
          hbytes with ⟨hwritten, hfs, hwrote⟩ | ⟨hstopped, htouched, hreason⟩
        · refine Or.inl ⟨hwritten, hwrote.of_sameBytes hsame, fun hcovers => hfs.trans ?_⟩
          rw [ensureCapacityLocked_of_covers hcovers]
        · refine Or.inr ⟨hstopped, (hsame.partly _ _ _).trans htouched, ?_⟩
          intro hio hstream hcovers hle hlaid
          rw [ensureCapacityLocked_of_covers hcovers] at hreason
          exact hreason hio hstream ⟨hcovers.1, hcovers.2.1, hle, hcovers.2.2⟩ hlaid
      · rw [if_neg (by rw [hfailed]; decide)]
        refine Or.inr ⟨rfl, hsame.partly _ _ _, fun _ _ hcovers _ => ?_⟩
        rw [ensureCapacityLocked_of_covers hcovers] at hfailed
        cases hfailed

end VolumeState
end NwbLot.Volume
