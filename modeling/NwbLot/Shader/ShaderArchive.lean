import Mathlib.Algebra.GroupWithZero.Nat
import Mathlib.Data.List.Sort
import Mathlib.Data.Prod.Lex
import NwbLot.Library.ListSearches
import NwbLot.Volume.VolumeTypes

/-!
# The shader archive index

The index of `shader_archive.cpp`: records of shader, variant and stage with the path of their
bytecode, the bytes they are written as, and the lookup in what has been read back.

`serializeIndex` checks the records, sorts them and writes headers with texts behind them;
`deserializeIndex` accepts only increasing keys, which the binary search of the lookup relies on.
-/

namespace NwbLot.ShaderArchive

open Volume (NameHash nameHashCodec)

/-- The largest 32-bit value. -/
def u32Max : ℕ := 2 ^ 32 - 1

/-- `ShaderArchive::Record`; a text is its bytes. -/
structure Record where
  shaderName : NameHash
  variantName : List UInt8
  stage : NameHash
  sourceChecksum : UInt64
  bytecodeChecksum : UInt64
  virtualPathHash : NameHash
  deriving DecidableEq

/-! ## Order -/

/-- `LessRecord`. -/
def lessRecord (lhs rhs : Record) : Bool :=
  if lhs.shaderName ≠ rhs.shaderName then lhs.shaderName < rhs.shaderName
  else if lhs.variantName ≠ rhs.variantName then lhs.variantName < rhs.variantName
  else if lhs.stage ≠ rhs.stage then lhs.stage < rhs.stage
  else lhs.virtualPathHash < rhs.virtualPathHash

/-- `SameShaderVariantStage`. -/
def sameShaderVariantStage (lhs rhs : Record) : Bool :=
  lhs.shaderName = rhs.shaderName && lhs.variantName = rhs.variantName && lhs.stage = rhs.stage

/-- What `Sort` makes of the records; where it leaves records with one key and one path is of no
account, since two of them are refused. -/
def sortRecords (records : List Record) : List Record :=
  records.insertionSort fun lhs rhs => lessRecord rhs lhs = false

/-! ## Bytes -/

/-- What the index begins with. -/
structure IndexHeaderDisk where
  magic : Fin 8 → UInt8
  recordCount : UInt32
  deriving DecidableEq

/-- What a record begins with. -/
structure RecordHeaderDisk where
  shaderName : NameHash
  stage : NameHash
  virtualPathHash : NameHash
  sourceChecksum : UInt64
  bytecodeChecksum : UInt64
  deriving DecidableEq

/-- "NWBSDX1" and its terminator. -/
def indexMagic : Fin 8 → UInt8 := ![78, 87, 66, 83, 68, 88, 49, 0]

/-- The bytes of the index header. -/
def indexHeaderCodec : PodCodec IndexHeaderDisk :=
  ((PodCodec.u8.array 8).prod PodCodec.u32).ofEquiv
    { toFun := fun header => (header.magic, header.recordCount)
      invFun := fun ⟨magic, recordCount⟩ => ⟨magic, recordCount⟩
      left_inv := fun _ => rfl
      right_inv := fun _ => rfl }

/-- The bytes of a record header. -/
def recordHeaderCodec : PodCodec RecordHeaderDisk :=
  (nameHashCodec.prod (nameHashCodec.prod (nameHashCodec.prod
    (PodCodec.u64.prod PodCodec.u64)))).ofEquiv
    { toFun := fun header => (header.shaderName, header.stage, header.virtualPathHash,
        header.sourceChecksum, header.bytecodeChecksum)
      invFun := fun ⟨shaderName, stage, virtualPathHash, sourceChecksum, bytecodeChecksum⟩ =>
        ⟨shaderName, stage, virtualPathHash, sourceChecksum, bytecodeChecksum⟩
      left_inv := fun _ => rfl
      right_inv := fun _ => rfl }

@[simp] lemma size_indexHeaderCodec : indexHeaderCodec.size = 12 := rfl
@[simp] lemma size_recordHeaderCodec : recordHeaderCodec.size = 208 := rfl

/-- Appending where `CanAppendBytes` agrees. -/
def appendBytes (out bytes : List UInt8) : Option (List UInt8) :=
  if out.length ≤ Volume.u64Max - bytes.length then some (out ++ bytes) else none

/-- A text behind its length. -/
def appendString (out text : List UInt8) : Option (List UInt8) :=
  if text.length > u32Max then none
  else appendBytes out (PodCodec.u32.encode (UInt32.ofNat text.length) ++ text)

/-- The text behind its length, and the offset after it. -/
def readString (binary : List UInt8) (offset : ℕ) : Option (List UInt8 × ℕ) := do
  let (textLength, cursor) ← PodCodec.u32.readAt binary offset
  if cursor ≤ binary.length ∧ textLength.toNat ≤ binary.length - cursor then
    some ((binary.drop cursor).take textLength.toNat, cursor + textLength.toNat)
  else none

/-! ## Writing -/

/-- `ValidateRecord`. -/
def validateRecord (record : Record) : Bool :=
  record.shaderName.isSet && !record.variantName.isEmpty && record.stage.isSet
    && record.virtualPathHash.isSet

/-- What the loop over the sorted records carries: the record before, and the bytes of the variant
texts so far. -/
structure RecordScan where
  previous : Option Record := none
  variantTextBinaryBytes : ℕ := 0

/-- The checks of one record before anything is written. -/
def scanRecord (scan : RecordScan) (record : Record) : Option RecordScan :=
  if !validateRecord record then none
  else if record.variantName.length > u32Max then none
  else if record.variantName.length > Volume.u64Max - 4 then none
  else if scan.variantTextBinaryBytes > Volume.u64Max - (4 + record.variantName.length) then none
  else if scan.previous.any (sameShaderVariantStage · record) then none
  else some { previous := some record
              variantTextBinaryBytes :=
                scan.variantTextBinaryBytes + (4 + record.variantName.length) }

/-- The header that belongs to a record. -/
def recordHeader (record : Record) : RecordHeaderDisk where
  shaderName := record.shaderName
  stage := record.stage
  virtualPathHash := record.virtualPathHash
  sourceChecksum := record.sourceChecksum
  bytecodeChecksum := record.bytecodeChecksum

/-- A record behind what is written. -/
def appendRecord (out : List UInt8) (record : Record) : Option (List UInt8) := do
  let out ← appendBytes out (recordHeaderCodec.encode (recordHeader record))
  appendString out record.variantName

/-- The bytes of the sorted records, when all of them pass. -/
def serializeIndex (records : List Record) : Option (List UInt8) := do
  let sortedRecords := sortRecords records
  if records.length > u32Max then none
  else
    let scan ← sortedRecords.foldlM scanRecord {}
    if sortedRecords.length > (Volume.u64Max - indexHeaderCodec.size) / recordHeaderCodec.size then none
    else if indexHeaderCodec.size + sortedRecords.length * recordHeaderCodec.size
        > Volume.u64Max - scan.variantTextBinaryBytes then none
    else
      let out ← appendBytes [] (indexHeaderCodec.encode
        { magic := indexMagic, recordCount := UInt32.ofNat sortedRecords.length })
      sortedRecords.foldlM appendRecord out

/-! ## Reading -/

/-- The record at a cursor, and the cursor behind it. -/
def readRecord (binary : List UInt8) (cursor : ℕ) : Option (Record × ℕ) := do
  let (header, cursor) ← recordHeaderCodec.readAt binary cursor
  let (variantName, cursor) ← readString binary cursor
  if variantName.isEmpty then none
  else if !header.virtualPathHash.isSet then none
  else
    some ({ shaderName := header.shaderName, variantName, stage := header.stage
            sourceChecksum := header.sourceChecksum, bytecodeChecksum := header.bytecodeChecksum
            virtualPathHash := header.virtualPathHash }, cursor)

/-- The record may stand behind the one before it. -/
def follows (previous : Option Record) (record : Record) : Bool :=
  previous.all fun previous =>
    !lessRecord record previous && !sameShaderVariantStage previous record

/-- So many records from a cursor on, each of them behind the one before. -/
def readRecords (binary : List UInt8) : ℕ → ℕ → Option Record → Option (List Record × ℕ)
  | 0, cursor, _ => some ([], cursor)
  | count + 1, cursor, previous => do
    let (record, cursor) ← readRecord binary cursor
    if !follows previous record then none
    else
      let (rest, cursor) ← readRecords binary count cursor (some record)
      some (record :: rest, cursor)

/-- The records of an index that passes every check. -/
def deserializeIndex (binary : List UInt8) : Option (List Record) := do
  let (header, cursor) ← indexHeaderCodec.readAt binary 0
  if header.magic ≠ indexMagic then none
  else if header.recordCount.toNat > (binary.length - cursor) / recordHeaderCodec.size then none
  else
    let (parsedRecords, cursor) ← readRecords binary header.recordCount.toNat cursor none
    if cursor ≠ binary.length then none else some parsedRecords

/-! ## Lookup -/

/-- The record lies before the key. -/
def recordBelow (shaderName : NameHash) (variantName : List UInt8) (stageName : NameHash)
    (record : Record) : Bool :=
  if record.shaderName ≠ shaderName then record.shaderName < shaderName
  else if record.variantName ≠ variantName then record.variantName < variantName
  else record.stage < stageName

/-- The record of a key, by binary search. -/
def findRecord (records : List Record) (shaderName : NameHash) (variantName : List UInt8)
    (stageName : NameHash) : Option Record := do
  let record ← records[records.lowerBound (recordBelow shaderName variantName stageName)]?
  if record.shaderName ≠ shaderName || record.variantName ≠ variantName
      || record.stage ≠ stageName then none
  else some record

/-- The path hash of a shader's variant and stage. -/
def findVirtualPath (records : List Record) (shaderName : NameHash) (variantName : List UInt8)
    (stageName : NameHash) : Option NameHash :=
  if !shaderName.isSet || variantName.isEmpty || !stageName.isSet then none
  else (findRecord records shaderName variantName stageName).map Record.virtualPathHash

end NwbLot.ShaderArchive
