import NwbLot.Volume.SegmentTransfers

/-!
# Moving bytes

`moveBytesLocked` copies chunk by chunk through a buffer, away from the source, and every chunk is
split at segment boundaries once more when it is read and when it is written.  On the logical
volume it is one move.
-/

namespace NwbLot.Volume

open SegmentFiles MemoryMoves

namespace VolumeState

variable {volume before middle after : VolumeState}
  {moveChunkBytes destinationOffset sourceOffset byteCount lo hi mid : ℕ}

/-- The indices from `lo` to `hi` of the source have been moved to the destination. -/
structure MovedBytes (destinationOffset sourceOffset lo hi : ℕ) (before after : VolumeState) : Prop
    extends Grown before after where
  sameFs : after.fs = before.fs
  bytes : Moved destinationOffset sourceOffset lo hi before.logicalByte after.logicalByte
  there : after.Present (destinationOffset + lo) (hi - lo)

lemma MovedBytes.refl (destinationOffset sourceOffset lo : ℕ) (volume : VolumeState) :
    MovedBytes destinationOffset sourceOffset lo lo volume volume :=
  ⟨.refl volume, rfl, .refl _ _ _ _, fun i hi => by omega⟩

/-- The memory that a move to the destination is to leave there. -/
def movedFrom (memory : ℕ → UInt8) (destinationOffset sourceOffset o : ℕ) : UInt8 :=
  memory (sourceOffset + (o - destinationOffset))

lemma MovedBytes.partly (h : MovedBytes destinationOffset sourceOffset lo hi before after) :
    Partly (movedFrom before.logicalByte destinationOffset sourceOffset) (destinationOffset + lo)
      (destinationOffset + hi) before after := by
  refine ⟨⟨h.toGrown, h.bytes.kept⟩, fun o hlo hhi => Or.inr ?_⟩
  have hmoved := h.bytes.moved (o - destinationOffset) (by omega) (by omega)
  rwa [Nat.add_sub_cancel' (by omega)] at hmoved

/-- The two halves of a destination are there when both are. -/
lemma present_append (hlo : lo ≤ mid) (hhi : mid ≤ hi)
    (hfirst : volume.Present (destinationOffset + lo) (mid - lo))
    (hsecond : volume.Present (destinationOffset + mid) (hi - mid)) :
    volume.Present (destinationOffset + lo) (hi - lo) := by
  intro i hi'
  by_cases hlt : i < mid - lo
  · exact hfirst i hlt
  · have hbyte := hsecond (i - (mid - lo)) (by omega)
    rwa [show destinationOffset + mid + (i - (mid - lo)) = destinationOffset + lo + i by omega]
      at hbyte

lemma Present.grown {offset : ℕ} (h : before.Present offset byteCount)
    (hgrown : Grown before after) : after.Present offset byteCount :=
  fun i hi => hgrown.present _ (h i hi)

lemma MovedBytes.forward (hdst : destinationOffset ≤ sourceOffset) (hlo : lo ≤ mid) (hhi : mid ≤ hi)
    (h : MovedBytes destinationOffset sourceOffset lo mid before middle)
    (hnext : MovedBytes destinationOffset sourceOffset mid hi middle after) :
    MovedBytes destinationOffset sourceOffset lo hi before after :=
  ⟨h.toGrown.trans hnext.toGrown, hnext.sameFs.trans h.sameFs,
    h.bytes.forward hdst hlo hhi hnext.bytes,
    present_append hlo hhi (h.there.grown hnext.toGrown) hnext.there⟩

lemma MovedBytes.backward (hsrc : sourceOffset ≤ destinationOffset) (hlo : lo ≤ mid)
    (hhi : mid ≤ hi) (h : MovedBytes destinationOffset sourceOffset mid hi before middle)
    (hnext : MovedBytes destinationOffset sourceOffset lo mid middle after) :
    MovedBytes destinationOffset sourceOffset lo hi before after :=
  ⟨h.toGrown.trans hnext.toGrown, hnext.sameFs.trans h.sameFs,
    h.bytes.backward hsrc hlo hhi hnext.bytes,
    present_append hlo hhi hnext.there (h.there.grown hnext.toGrown)⟩

/-! ## The chunks -/

/-- The destination is inside the capacity, and its end can be represented. -/
structure Destined (volume : VolumeState) (destinationOffset byteCount : ℕ) : Prop where
  covers : Covers volume.fs (destinationOffset + byteCount)
  represented : destinationOffset + byteCount ≤ u64Max

/-- Without an I/O error the bytes of the source can be read and the files be written. -/
structure Readable (volume : VolumeState) (sourceOffset byteCount : ℕ) : Prop where
  noIoError : volume.NoIoError
  stream : volume.fs.segmentSize ≤ streamMax ∨
    (volume.fs.segmentSize ≤ streamMax + 1 ∧ byteCount ≤ streamMax)
  laid : volume.Laid
  capacity : InCapacity volume.fs.segmentSize volume.fs.segmentCount sourceOffset byteCount
  present : volume.Present sourceOffset byteCount

lemma Readable.streams (h : Readable volume sourceOffset byteCount) {endOffset : ℕ} :
    Streams volume.fs.segmentSize byteCount endOffset :=
  h.stream.imp_right Or.inr

lemma Readable.grown (h : Readable before sourceOffset byteCount) (hgrown : Grown before after)
    (hfs : after.fs = before.fs) : Readable after sourceOffset byteCount :=
  ⟨hgrown.noIoError h.noIoError, hfs ▸ h.stream, hgrown.laid h.laid, hfs ▸ h.capacity,
    h.present.grown hgrown⟩

lemma Readable.part (h : Readable volume sourceOffset byteCount) (lo hi : ℕ)
    (hle : hi ≤ byteCount) (hlo : lo ≤ hi) : Readable volume (sourceOffset + lo) (hi - lo) := by
  obtain ⟨hpos, hcount, hend, hinside⟩ := h.capacity
  have hstream := h.stream
  refine ⟨h.noIoError, by omega, h.laid, ⟨hpos, hcount, by omega, by omega⟩, fun i hi' => ?_⟩
  have hbyte := h.present (lo + i) (by omega)
  rwa [← Nat.add_assoc] at hbyte

lemma Destined.part (h : Destined volume destinationOffset byteCount) (hle : hi ≤ byteCount) :
    Destined volume destinationOffset hi := by
  obtain ⟨⟨hpos, hcount, hcovers⟩, hend⟩ := h
  exact ⟨⟨hpos, hcount, by omega⟩, by omega⟩

/-- One chunk. -/
lemma moveChunk_ends (sourceOffset : ℕ) (hlo : lo ≤ hi) (h : Destined volume destinationOffset hi) :
    Ends (moveChunk (sourceOffset + lo) (destinationOffset + lo) (hi - lo) volume)
      (MovedBytes destinationOffset sourceOffset lo hi volume)
      (fun state => Partly (movedFrom volume.logicalByte destinationOffset sourceOffset)
          (destinationOffset + lo) (destinationOffset + hi) volume state ∧
        ¬Readable volume (sourceOffset + lo) (hi - lo)) := by
  have hbytes : hi - lo ≤ u64Max := by
    have := h.represented
    omega
  obtain ⟨hio, hread⟩ := readBytesLocked_ends volume (sourceOffset + lo) hbytes
  have hend : destinationOffset + lo + (hi - lo) = destinationOffset + hi := by omega
  rw [moveChunk]
  rcases hread with ⟨hvalues, hpresent⟩ | ⟨hnone, hmissing⟩
  · rw [hvalues]
    dsimp only
    generalize hbuffer : valuesAt volume.logicalByte (sourceOffset + lo) (hi - lo) = moveBuffer
    have hlength : moveBuffer.length = hi - lo := by rw [← hbuffer, length_valuesAt]
    have hwrite := writeBytesLocked_ends
      (readBytesLocked (sourceOffset + lo) (hi - lo) volume).2 (destinationOffset + lo)
      (by rw [hlength]; exact hbytes : moveBuffer.length ≤ u64Max)
    rw [hio.fs, hlength, hend] at hwrite
    rcases hwrite with ⟨hok, hwrote, hfs⟩ | ⟨hfailed, hpartly, hreason⟩
    · refine Or.inl ⟨hok, hio.sameBytes.toGrown.trans hwrote.toGrown, hfs h.covers, ?_, ?_⟩
      · refine moved_of_valuesAt (Nat.add_sub_cancel' hlo) (fun i hi' => ?_) fun a ha => ?_
        · rw [hbuffer]
          exact hwrote.logicalByte (by rw [hlength]; exact hi')
        · rw [← hio.sameBytes.bytes a]
          exact hwrote.kept a (by rw [hlength]; exact ha)
      · intro i hi'
        rw [hwrote.written i (by rw [hlength]; exact hi'),
          List.getElem?_eq_getElem (by rw [hlength]; exact hi')]
        rfl
    · have htarget : ∀ o, destinationOffset + lo ≤ o → o < destinationOffset + hi →
          bytesFrom (destinationOffset + lo) moveBuffer o
            = movedFrom volume.logicalByte destinationOffset sourceOffset o := by
        intro o hle hlt
        rw [bytesFrom, ← hbuffer, getElem?_valuesAt (by omega), Option.getD_some, movedFrom]
        congr 1
        omega
      refine Or.inr ⟨hfailed, (hio.sameBytes.partly _ _ _).trans (hpartly.congr htarget),
        fun hreadable => ?_⟩
      exact hreason (hio.noIoError hreadable.noIoError) hreadable.streams h.covers
        h.represented (hio.sameBytes.laid hreadable.laid)
  · rw [hnone]
    refine Or.inr ⟨rfl, hio.sameBytes.partly _ _ _, fun hreadable => ?_⟩
    exact hmissing hreadable.noIoError hreadable.streams hreadable.capacity
      hreadable.present

/-- The loop towards the end of the range. -/
lemma moveForward_ends (hchunk : 0 < moveChunkBytes) (hdst : destinationOffset ≤ sourceOffset)
    (turns movedBytes : ℕ) (volume : VolumeState) (hturns : byteCount - movedBytes ≤ turns)
    (hmoved : movedBytes ≤ byteCount) (h : Destined volume destinationOffset byteCount) :
    Ends (moveForward moveChunkBytes destinationOffset sourceOffset byteCount turns movedBytes
        volume)
      (MovedBytes destinationOffset sourceOffset movedBytes byteCount volume)
      (fun state => Partly (movedFrom volume.logicalByte destinationOffset sourceOffset)
          (destinationOffset + movedBytes) (destinationOffset + byteCount) volume state ∧
        ¬Readable volume (sourceOffset + movedBytes) (byteCount - movedBytes)) := by
  induction turns generalizing movedBytes volume with
  | zero =>
    obtain rfl : movedBytes = byteCount := by omega
    exact Or.inl ⟨rfl, .refl _ _ _ volume⟩
  | succ turns ih =>
    rw [moveForward]
    split
    · next hlt =>
        dsimp only
        generalize hcopy : min (byteCount - movedBytes) moveChunkBytes = copyBytes
        have hnext : movedBytes ≤ movedBytes + copyBytes := Nat.le_add_right _ _
        have hle : movedBytes + copyBytes ≤ byteCount := by omega
        have hstep := moveChunk_ends sourceOffset hnext (h.part hle)
        rw [Nat.add_sub_cancel_left] at hstep
        rcases hstep with ⟨hok, hfirst⟩ | ⟨hfailed, hpartly, hreason⟩
        · rw [if_pos hok]
          have hdestined : Destined (moveChunk (sourceOffset + movedBytes)
              (destinationOffset + movedBytes) copyBytes volume).2 destinationOffset byteCount :=
            ⟨by rw [hfirst.sameFs]; exact h.covers, h.represented⟩
          rcases ih (movedBytes + copyBytes) _ (by omega) hle hdestined with
            ⟨hok', hrest⟩ | ⟨hfailed, hpartly, hreason⟩
          · exact Or.inl ⟨hok', hfirst.forward hdst hnext hle hrest⟩
          · refine Or.inr ⟨hfailed, (hfirst.partly.mono le_rfl (by omega)).trans
              ((hpartly.congr fun o hle _ => ?_).mono (by omega) le_rfl),
              fun hreadable => hreason ?_⟩
            -- What is still to be moved lies behind what has been written.
            · exact hfirst.bytes.kept _ (Or.inr (by omega))
            have hpart := hreadable.part copyBytes _ le_rfl (by omega)
            rw [Nat.add_assoc, Nat.sub_sub] at hpart
            exact hpart.grown hfirst.toGrown hfirst.sameFs
        · rw [if_neg (by rw [hfailed]; decide)]
          refine Or.inr ⟨rfl, hpartly.mono le_rfl (by omega), fun hreadable => hreason ?_⟩
          have hpart := hreadable.part 0 copyBytes (by omega) (Nat.zero_le _)
          rwa [Nat.add_zero, Nat.sub_zero] at hpart
    · obtain rfl : movedBytes = byteCount := by omega
      exact Or.inl ⟨rfl, .refl _ _ _ volume⟩

/-- The loop towards the beginning of the range. -/
lemma moveBackward_ends (hchunk : 0 < moveChunkBytes) (hsrc : sourceOffset ≤ destinationOffset)
    (turns remainingBytes : ℕ) (volume : VolumeState) (hturns : remainingBytes ≤ turns)
    (h : Destined volume destinationOffset remainingBytes) :
    Ends (moveBackward moveChunkBytes destinationOffset sourceOffset turns remainingBytes volume)
      (MovedBytes destinationOffset sourceOffset 0 remainingBytes volume)
      (fun state => Partly (movedFrom volume.logicalByte destinationOffset sourceOffset)
          destinationOffset (destinationOffset + remainingBytes) volume state ∧
        ¬Readable volume sourceOffset remainingBytes) := by
  induction turns generalizing remainingBytes volume with
  | zero =>
    obtain rfl : remainingBytes = 0 := Nat.le_zero.1 hturns
    exact Or.inl ⟨rfl, .refl _ _ _ volume⟩
  | succ turns ih =>
    rw [moveBackward]
    split
    · next hlt =>
        dsimp only
        generalize hcopy : min remainingBytes moveChunkBytes = copyBytes
        have hbegin : remainingBytes - copyBytes ≤ remainingBytes := Nat.sub_le _ _
        have hstep := moveChunk_ends sourceOffset hbegin h
        rw [Nat.sub_sub_self (by omega : copyBytes ≤ remainingBytes)] at hstep
        rcases hstep with ⟨hok, hlast⟩ | ⟨hfailed, hpartly, hreason⟩
        · rw [if_pos hok]
          have hdestined : Destined (moveChunk (sourceOffset + (remainingBytes - copyBytes))
              (destinationOffset + (remainingBytes - copyBytes)) copyBytes volume).2
              destinationOffset (remainingBytes - copyBytes) :=
            Destined.part ⟨by rw [hlast.sameFs]; exact h.covers, h.represented⟩ hbegin
          rcases ih (remainingBytes - copyBytes) _ (by omega) hdestined with
            ⟨hok', hrest⟩ | ⟨hfailed, hpartly, hreason⟩
          · exact Or.inl ⟨hok', hlast.backward hsrc (Nat.zero_le _) hbegin hrest⟩
          · refine Or.inr ⟨hfailed, (hlast.partly.mono (by omega) le_rfl).trans
              ((hpartly.congr fun o hle hlt => ?_).mono le_rfl (by omega)),
              fun hreadable => hreason ?_⟩
            -- What is still to be moved lies before what has been written.
            · exact hlast.bytes.kept _ (Or.inl (by omega))
            have hpart := hreadable.part 0 _ hbegin (Nat.zero_le _)
            rw [Nat.add_zero, Nat.sub_zero] at hpart
            exact hpart.grown hlast.toGrown hlast.sameFs
        · rw [if_neg (by rw [hfailed]; decide)]
          refine Or.inr ⟨rfl, hpartly.mono (by omega) le_rfl, fun hreadable => hreason ?_⟩
          have hpart := hreadable.part _ _ le_rfl hbegin
          rwa [Nat.sub_sub_self (by omega : copyBytes ≤ remainingBytes)] at hpart
    · obtain rfl : remainingBytes = 0 := by omega
      exact Or.inl ⟨rfl, .refl _ _ _ volume⟩

/-! ## The whole move -/

/-- More capacity keeps a readable source readable. -/
lemma Readable.covered (h : Readable before sourceOffset byteCount) (hsame : SameBytes before after)
    {requiredBytes : ℕ} (hcovers : Covers after.fs requiredBytes) :
    Readable after sourceOffset byteCount := by
  obtain ⟨hpos, -, hend, hinside⟩ := h.capacity
  have hsize := hsame.segmentSize
  have hcapacity : before.fs.segmentCount * before.fs.segmentSize
      ≤ after.fs.segmentCount * after.fs.segmentSize := by
    rw [hsize]
    exact Nat.mul_le_mul_right _ hsame.count
  exact ⟨hsame.noIoError h.noIoError, hsize ▸ h.stream, hsame.laid h.laid,
    ⟨hcovers.1, hcovers.2.1, hend, by omega⟩, h.present.grown hsame.toGrown⟩

/-- The whole range has been moved. -/
structure RangeMoved (destinationOffset sourceOffset byteCount : ℕ) (before after : VolumeState) :
    Prop extends Grown before after where
  bytes : Moved destinationOffset sourceOffset 0 byteCount before.logicalByte after.logicalByte
  there : destinationOffset ≠ sourceOffset → after.Present destinationOffset byteCount
  sameFs : Covers before.fs (destinationOffset + byteCount) → after.fs = before.fs

/-- The move has failed: only bytes of the destination may have been moved, and either an operation
on a file has failed or the destination cannot be had. -/
structure MoveStopped (volumeMoveChunkBytes destinationOffset sourceOffset byteCount : ℕ)
    (before after : VolumeState) : Prop where
  partly : Partly (movedFrom before.logicalByte destinationOffset sourceOffset) destinationOffset
    (destinationOffset + byteCount) before after
  reason : 0 < volumeMoveChunkBytes → destinationOffset + byteCount ≤ u64Max →
    (ensureCapacityLocked (destinationOffset + byteCount) before).1 = true →
    ¬Readable before sourceOffset byteCount

/-- What `moveBytesLocked` does once the destination is inside the capacity. -/
lemma moveEnsured_ends (hsame : SameBytes before after)
    (hkept : Covers before.fs (destinationOffset + byteCount) → after.fs = before.fs)
    (hcovers : Covers after.fs (destinationOffset + byteCount))
    (hend : destinationOffset + byteCount ≤ u64Max) (volumeMoveChunkBytes sourceOffset : ℕ) :
    Ends
      (if min volumeMoveChunkBytes before.fs.segmentSize = 0
          ∨ min volumeMoveChunkBytes before.fs.segmentSize > u64Max then (false, after)
        else if destinationOffset < sourceOffset then
          moveForward (min volumeMoveChunkBytes before.fs.segmentSize) destinationOffset
            sourceOffset byteCount byteCount 0 after
        else
          moveBackward (min volumeMoveChunkBytes before.fs.segmentSize) destinationOffset
            sourceOffset byteCount byteCount after)
      (RangeMoved destinationOffset sourceOffset byteCount before)
      (MoveStopped volumeMoveChunkBytes destinationOffset sourceOffset byteCount before) := by
  have hlogical : after.logicalByte = before.logicalByte := funext hsame.bytes
  have hmoves : ∀ result, 0 < min volumeMoveChunkBytes before.fs.segmentSize →
      Ends result (MovedBytes destinationOffset sourceOffset 0 byteCount after)
        (fun state => Partly (movedFrom after.logicalByte destinationOffset sourceOffset)
            destinationOffset (destinationOffset + byteCount) after state ∧
          ¬Readable after sourceOffset byteCount) →
      Ends result (RangeMoved destinationOffset sourceOffset byteCount before)
        (MoveStopped volumeMoveChunkBytes destinationOffset sourceOffset byteCount before) := by
    rintro result hchunk (⟨hok, hmoved⟩ | ⟨hfailed, hpartly, hreason⟩)
    · refine Or.inl ⟨hok, hsame.toGrown.trans hmoved.toGrown, hlogical ▸ hmoved.bytes,
        fun _ => ?_, fun hcovered => hmoved.sameFs.trans (hkept hcovered)⟩
      exact hmoved.there
    · exact Or.inr ⟨hfailed, (hsame.partly _ _ _).trans (hlogical ▸ hpartly),
        fun _ _ _ hreadable => hreason (hreadable.covered hsame hcovers)⟩
  split
  · next hinvalid =>
      refine Or.inr ⟨rfl, hsame.partly _ _ _, fun hchunk _ _ hreadable => ?_⟩
      have hpos := hreadable.capacity.1
      have hstream := hreadable.stream
      have hmax : streamMax + 1 ≤ u64Max := by decide
      omega
  · next hvalid =>
      have hchunk : 0 < min volumeMoveChunkBytes before.fs.segmentSize := by omega
      split
      · next hforward =>
          exact hmoves _ hchunk (moveForward_ends hchunk hforward.le byteCount 0 after
            (Nat.sub_le _ _) (Nat.zero_le _) ⟨hcovers, hend⟩)
      · next hbackward =>
          exact hmoves _ hchunk (moveBackward_ends hchunk (by omega) byteCount byteCount after
            le_rfl ⟨hcovers, hend⟩)

/-- `moveBytesLocked` moves the range or changes bytes of the destination only, and without an I/O
error it fails only when the destination does not fit. -/
lemma moveBytesLockedBy_ends (volumeMoveChunkBytes destinationOffset sourceOffset : ℕ)
    (hbytes : byteCount ≤ u64Max) (volume : VolumeState) :
    Ends (moveBytesLockedBy volumeMoveChunkBytes destinationOffset sourceOffset byteCount volume)
      (RangeMoved destinationOffset sourceOffset byteCount volume)
      (MoveStopped volumeMoveChunkBytes destinationOffset sourceOffset byteCount volume) := by
  have hrefl : Partly (movedFrom volume.logicalByte destinationOffset sourceOffset)
      destinationOffset (destinationOffset + byteCount) volume volume :=
    (SameBytes.refl volume).partly _ _ _
  rw [moveBytesLockedBy]
  split
  · next htrivial =>
      refine Or.inl ⟨rfl, .refl volume, ⟨fun i _ hi => ?_, fun _ _ => rfl⟩, fun hne i hi => ?_,
        fun _ => rfl⟩
      · rcases htrivial with hzero | rfl
        · omega
        · rfl
      · rcases htrivial with hzero | heq
        · omega
        · exact absurd heq hne
  · next hmove =>
      split
      · next hzero =>
          exact Or.inr ⟨rfl, hrefl, fun _ _ _ hreadable => hreadable.capacity.1.ne' hzero⟩
      · next hpos =>
          cases hsource : addNoOverflow sourceOffset byteCount with
          | none =>
            refine Or.inr ⟨rfl, hrefl, fun _ _ _ hreadable => ?_⟩
            rw [addNoOverflow_eq hreadable.capacity.2.2.1] at hsource
            cases hsource
          | some sourceEndOffset =>
            obtain ⟨rfl, hsourceEnd⟩ := addNoOverflow_eq_some hbytes hsource
            dsimp only
            cases hcapacity : computeLogicalCapacityLocked volume.fs with
            | none =>
              refine Or.inr ⟨rfl, hrefl, fun _ _ _ hreadable => ?_⟩
              rw [computeLogicalCapacityLocked_eq hreadable.capacity.1 hreadable.capacity.2.1]
                at hcapacity
              cases hcapacity
            | some capacityBytes =>
              obtain ⟨hsize, hcount, rfl⟩ := computeLogicalCapacityLocked_eq_some hcapacity
              dsimp only
              split
              · next hbeyond =>
                  refine Or.inr ⟨rfl, hrefl, fun _ _ _ hreadable => ?_⟩
                  have hinside := hreadable.capacity.2.2.2
                  omega
              · cases hdestination : addNoOverflow destinationOffset byteCount with
                | none =>
                  refine Or.inr ⟨rfl, hrefl, fun _ hle => ?_⟩
                  rw [addNoOverflow_eq hle] at hdestination
                  cases hdestination
                | some destinationEndOffset =>
                  obtain ⟨rfl, hdestinationEnd⟩ := addNoOverflow_eq_some hbytes hdestination
                  dsimp only
                  rcases ensureCapacityLocked_ends (destinationOffset + byteCount) volume with
                    ⟨hok, hsame, hcovers⟩ | ⟨hfailed, hsame⟩
                  · rw [hok]
                    simp only [Bool.not_true, Bool.false_eq_true, if_false]
                    refine moveEnsured_ends hsame (fun hcovered => ?_) hcovers hdestinationEnd _ _
                    rw [ensureCapacityLocked_of_covers hcovered]
                  · rw [hfailed]
                    exact Or.inr ⟨rfl, hsame.partly _ _ _, fun _ _ hok =>
                      absurd (hok.symm.trans hfailed) nofun⟩

/-- `moveBytesLocked` is a move of the logical volume, whatever the offsets, the size, the segment
size and the size of a chunk: when it succeeds, the destination holds what the source held, every
other byte is as it was, and the bytes of the destination are in the segment files.  Without an I/O
error it succeeds when the source is there and the destination can be had. -/
theorem moveBytes_memmove (volumeMoveChunkBytes : ℕ)
    (destinationOffset sourceOffset byteCount : UInt64) (volume : VolumeState) :
    let result := moveBytesLockedBy volumeMoveChunkBytes destinationOffset.toNat sourceOffset.toNat
      byteCount.toNat volume
    (result.1 = true →
      (∀ i < byteCount.toNat, result.2.logicalByte (destinationOffset.toNat + i)
        = volume.logicalByte (sourceOffset.toNat + i)) ∧
      (∀ offset, offset < destinationOffset.toNat ∨
          destinationOffset.toNat + byteCount.toNat ≤ offset →
        result.2.logicalByte offset = volume.logicalByte offset) ∧
      (∀ offset, (volume.byteAt offset).isSome → (result.2.byteAt offset).isSome) ∧
      (destinationOffset ≠ sourceOffset →
        result.2.Present destinationOffset.toNat byteCount.toNat)) ∧
    (0 < volumeMoveChunkBytes → destinationOffset.toNat + byteCount.toNat ≤ u64Max →
      (ensureCapacityLocked (destinationOffset.toNat + byteCount.toNat) volume).1 = true →
      Readable volume sourceOffset.toNat byteCount.toNat → result.1 = true) := by
  intro result
  have hbytes : byteCount.toNat ≤ u64Max := by
    have := byteCount.toNat_lt
    rw [u64Max]
    omega
  have hends := moveBytesLockedBy_ends volumeMoveChunkBytes destinationOffset.toNat
    sourceOffset.toNat hbytes volume
  rcases hends with ⟨hok, hmoved⟩ | ⟨hfailed, hstopped⟩
  · refine ⟨fun _ => ⟨fun i hi => hmoved.bytes.moved i (Nat.zero_le _) hi, fun offset hout => ?_,
      hmoved.present, fun hne => hmoved.there fun heq => hne (UInt64.toNat_inj.1 heq)⟩,
      fun _ _ _ _ => hok⟩
    exact hmoved.bytes.kept offset hout
  · refine ⟨fun hok => ?_, fun hchunk hend hensured hreadable => ?_⟩
    · exact absurd (hok.symm.trans hfailed) nofun
    · exact absurd hreadable (hstopped.reason hchunk hend hensured)

/-- Two full segments of four bytes. -/
def twoSegments : VolumeState where
  fs := { mounted := true, writable := true, segmentSize := 4, maxSegments := 3, segmentCount := 2 }
  disk := [some [1, 2, 3, 4], some [5, 6, 7, 8]]

lemma readable_twoSegments : Readable twoSegments 0 6 where
  noIoError := fun _ houtcome => absurd houtcome List.not_mem_nil
  stream := Or.inl (by decide)
  laid := by
    intro index hindex
    have hcases : index = 0 ∨ index = 1 := by
      have hlt : index < 2 := hindex
      omega
    rcases hcases with rfl | rfl
    · exact ⟨[1, 2, 3, 4], rfl, by decide, by decide⟩
    · exact ⟨[5, 6, 7, 8], rfl, by decide, by decide⟩
  capacity := ⟨by decide, by decide, by decide, by decide⟩
  present := by
    rw [Present]
    decide

/-- Six bytes are moved over themselves by chunks of four, into a segment that is new. -/
theorem moveBytes_memmove_overlapping :
    let result := moveBytesLockedBy 4 3 0 6 twoSegments
    result.1 = true ∧
      (∀ i < 6, result.2.logicalByte (3 + i) = twoSegments.logicalByte i) ∧
      ∀ offset, offset < 3 ∨ 9 ≤ offset →
        result.2.logicalByte offset = twoSegments.logicalByte offset := by
  obtain ⟨hbytes, htotal⟩ := moveBytes_memmove 4 3 0 6 twoSegments
  have hok := htotal (by decide) (by decide) (by decide) readable_twoSegments
  obtain ⟨hmoved, hkept, -⟩ := hbytes hok
  refine ⟨hok, fun i hi => ?_, hkept⟩
  have hbyte := hmoved i hi
  rwa [show (0 : UInt64).toNat + i = i from Nat.zero_add i] at hbyte

end VolumeState
end NwbLot.Volume
