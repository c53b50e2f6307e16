import Mathlib.Data.List.Chain
import NwbLot.Library.FallibleLists
import NwbLot.Shader.ShaderArchive

/-!
# Written and accepted indices

The index that is written holds the records by increasing keys, in bytes that do not depend on the
order they were given in, and reads back as these records.  Whatever is accepted has increasing
keys, so the lookup finds what a scan would find; only a record without a shader or stage name,
which is never written but accepted, is not found.
-/

namespace NwbLot.ShaderArchive

open Volume (NameHash nameHashCodec)

/-! ## Keys -/

/-- Bytes are compared as numbers. -/
lemma lt_iff_map_toNat_lt (left right : List UInt8) :
    left < right ↔ left.map UInt8.toNat < right.map UInt8.toNat := by
  induction left generalizing right with
  | nil => cases right <;> simp
  | cons byte left ih =>
    cases right with
    | nil => simp
    | cons other right =>
      rw [List.map_cons, List.map_cons, List.cons_lt_cons_iff, List.cons_lt_cons_iff, ih,
        UInt8.lt_iff_toNat_lt, UInt8.toNat_inj]

lemma map_toNat_injective : Function.Injective (List.map UInt8.toNat) :=
  List.map_injective_iff.2 fun _ _ h => UInt8.toNat_inj.1 h

/-- The keys, in the order of the index. -/
abbrev Key : Type := NameHash ×ₗ List ℕ ×ₗ NameHash

/-- The key of a shader, a variant and a stage. -/
def keyOf (shaderName : NameHash) (variantName : List UInt8) (stageName : NameHash) : Key :=
  toLex (shaderName, toLex (variantName.map UInt8.toNat, stageName))

/-- The key that a record is found by. -/
def Record.key (record : Record) : Key :=
  keyOf record.shaderName record.variantName record.stage

variable {shader stage : NameHash} {variant : List UInt8}

lemma keyOf_eq_iff {shader' : NameHash} {variant' : List UInt8} {stage' : NameHash} :
    keyOf shader variant stage = keyOf shader' variant' stage' ↔
      shader = shader' ∧ variant = variant' ∧ stage = stage' := by
  simp only [keyOf, toLex_inj, Prod.mk.injEq, map_toNat_injective.eq_iff]

/-- The order of keys, field by field. -/
lemma keyOf_lt_iff {shader' : NameHash} {variant' : List UInt8} {stage' : NameHash} :
    keyOf shader variant stage < keyOf shader' variant' stage' ↔
      shader < shader' ∨ shader = shader' ∧
        (variant < variant' ∨ variant = variant' ∧ stage < stage') := by
  simp only [keyOf, Prod.Lex.toLex_lt_toLex, lt_iff_map_toNat_lt, map_toNat_injective.eq_iff]

lemma recordBelow_iff {record : Record} :
    recordBelow shader variant stage record = decide (record.key < keyOf shader variant stage) := by
  rw [Bool.eq_iff_iff, decide_eq_true_eq, Record.key, keyOf_lt_iff, recordBelow]
  split
  · next hshader => simp [hshader]
  · next hshader =>
    rw [not_not] at hshader
    split
    · next hvariant => simp [hshader, hvariant]
    · next hvariant =>
      rw [not_not] at hvariant
      simp [hshader, hvariant]

variable {lhs rhs : Record}

/-- Records are ordered by key and path. -/
lemma lessRecord_iff : lessRecord lhs rhs = true ↔
    lhs.key < rhs.key ∨ lhs.key = rhs.key ∧ lhs.virtualPathHash < rhs.virtualPathHash := by
  rw [Record.key, Record.key, keyOf_lt_iff, keyOf_eq_iff, lessRecord]
  split
  · next hshader => simp [hshader]
  · next hshader =>
    rw [not_not] at hshader
    split
    · next hvariant => simp [hshader, hvariant]
    · next hvariant =>
      rw [not_not] at hvariant
      split
      · next hstage => simp [hshader, hvariant, hstage]
      · next hstage =>
        rw [not_not] at hstage
        simp [hshader, hvariant, hstage]

lemma sameShaderVariantStage_iff :
    sameShaderVariantStage lhs rhs = true ↔ lhs.key = rhs.key := by
  rw [Record.key, Record.key, keyOf_eq_iff, sameShaderVariantStage]
  simp only [Bool.and_eq_true, decide_eq_true_eq, and_assoc]

/-- The keys of the records increase. -/
def Increasing (records : List Record) : Prop :=
  records.Pairwise fun left right => left.key < right.key

lemma Increasing.nodup {records : List Record} (h : Increasing records) :
    (records.map Record.key).Nodup :=
  List.pairwise_map.2 (h.imp fun hlt => hlt.ne)

lemma Increasing.eq_of_perm {left right : List Record} (hleft : Increasing left)
    (hright : Increasing right) (h : left.Perm right) : left = right := by
  have hirrefl : Std.Irrefl fun left right : Record => left.key < right.key :=
    ⟨fun _ => lt_irrefl _⟩
  have hantisymm : Std.Antisymm fun left right : Record => left.key < right.key :=
    ⟨fun _ _ hlt hgt => absurd (hlt.trans hgt) (lt_irrefl _)⟩
  exact List.Pairwise.eq_of_mem_iff hleft hright fun record => h.mem_iff

/-! ## Sorting -/

/-- `lhs` may stand before `rhs`. -/
lemma lessRecord_eq_false_iff : lessRecord rhs lhs = false ↔
    lhs.key < rhs.key ∨ lhs.key = rhs.key ∧ lhs.virtualPathHash ≤ rhs.virtualPathHash := by
  rw [← Bool.not_eq_true, lessRecord_iff, not_or, not_and, not_lt, not_lt, le_iff_lt_or_eq]
  constructor
  · rintro ⟨hlt | heq, hpath⟩
    · exact Or.inl hlt
    · exact Or.inr ⟨heq, hpath heq.symm⟩
  · rintro (hlt | ⟨heq, hpath⟩)
    · exact ⟨Or.inl hlt, fun heq => absurd heq.symm hlt.ne⟩
    · exact ⟨Or.inr heq, fun _ => hpath⟩

lemma perm_sortRecords (records : List Record) : (sortRecords records).Perm records :=
  List.perm_insertionSort _ _

lemma pairwise_sortRecords (records : List Record) :
    (sortRecords records).Pairwise fun lhs rhs => lessRecord rhs lhs = false := by
  have htotal : Std.Total fun lhs rhs : Record => lessRecord rhs lhs = false := by
    refine ⟨fun lhs rhs => ?_⟩
    rw [lessRecord_eq_false_iff, lessRecord_eq_false_iff]
    rcases lt_trichotomy lhs.key rhs.key with hlt | heq | hgt
    · exact Or.inl (Or.inl hlt)
    · exact (le_total lhs.virtualPathHash rhs.virtualPathHash).imp (fun hle => Or.inr ⟨heq, hle⟩)
        fun hge => Or.inr ⟨heq.symm, hge⟩
    · exact Or.inr (Or.inl hgt)
  have htrans : IsTrans Record fun lhs rhs => lessRecord rhs lhs = false := by
    refine ⟨fun first second third h h' => ?_⟩
    rw [lessRecord_eq_false_iff] at h h' ⊢
    rcases h with hlt | ⟨heq, hle⟩
    · rcases h' with hlt' | ⟨heq', -⟩
      · exact Or.inl (hlt.trans hlt')
      · exact Or.inl (heq' ▸ hlt)
    · rcases h' with hlt' | ⟨heq', hle'⟩
      · exact Or.inl (heq ▸ hlt')
      · exact Or.inr ⟨heq.trans heq', hle.trans hle'⟩
  exact List.pairwise_insertionSort _ _

/-- With different keys the sorted records have increasing ones. -/
lemma increasing_sortRecords {records : List Record} (h : (records.map Record.key).Nodup) :
    Increasing (sortRecords records) := by
  have hnodup : ((sortRecords records).map Record.key).Nodup :=
    ((perm_sortRecords records).map _).nodup_iff.2 h
  refine ((pairwise_sortRecords records).and (List.pairwise_map.1 hnodup)).imp ?_
  rintro left right ⟨hsorted, hne⟩
  exact (lessRecord_eq_false_iff.1 hsorted).resolve_right fun heq => hne heq.1

/-! ## The bytes of an index -/

/-- A record in the index. -/
def recordBytes (record : Record) : List UInt8 :=
  recordHeaderCodec.encode (recordHeader record) ++
    (PodCodec.u32.encode (UInt32.ofNat record.variantName.length) ++ record.variantName)

/-- The index of a list of records. -/
def indexBytes (records : List Record) : List UInt8 :=
  indexHeaderCodec.encode
    { magic := indexMagic, recordCount := UInt32.ofNat records.length } ++
    records.flatMap recordBytes

/-- The bytes of the variant texts with their lengths. -/
def variantBytes (records : List Record) : ℕ :=
  (records.map fun record => 4 + record.variantName.length).sum

lemma length_recordBytes (record : Record) :
    (recordBytes record).length = 208 + (4 + record.variantName.length) := by
  rw [recordBytes, List.length_append, List.length_append, PodCodec.length_encode,
    PodCodec.length_encode]
  rfl

lemma length_flatMap_recordBytes (records : List Record) :
    (records.flatMap recordBytes).length = records.length * 208 + variantBytes records := by
  induction records with
  | nil => rfl
  | cons record records ih =>
    rw [List.flatMap_cons, List.length_append, ih, length_recordBytes, List.length_cons,
      variantBytes, variantBytes, List.map_cons, List.sum_cons]
    omega

lemma length_indexBytes (records : List Record) :
    (indexBytes records).length = 12 + records.length * 208 + variantBytes records := by
  rw [indexBytes, List.length_append, PodCodec.length_encode, length_flatMap_recordBytes,
    size_indexHeaderCodec, Nat.add_assoc]

/-- Exactly these lists of records are written. -/
structure Writable (records : List Record) : Prop where
  unique : (records.map Record.key).Nodup
  valid : ∀ record ∈ records, validateRecord record = true
  variantLength : ∀ record ∈ records, record.variantName.length ≤ u32Max
  count : records.length ≤ u32Max
  bytes : (indexBytes records).length ≤ Volume.u64Max

lemma Writable.perm {left right : List Record} (h : left.Perm right) (hleft : Writable left) :
    Writable right where
  unique := (h.map _).nodup_iff.1 hleft.unique
  valid := fun record hmem => hleft.valid record (h.mem_iff.2 hmem)
  variantLength := fun record hmem => hleft.variantLength record (h.mem_iff.2 hmem)
  count := h.length_eq ▸ hleft.count
  bytes := by
    have hbytes := hleft.bytes
    rw [length_indexBytes] at hbytes ⊢
    have hvariants : variantBytes left = variantBytes right := (h.map _).sum_nat
    rw [← h.length_eq, ← hvariants]
    exact hbytes

/-! ## Writing -/

section Writing

variable {records : List Record}

/-- What the scan of sorted records asks for. -/
lemma foldlM_scanRecord {scan scan' : RecordScan}
    (hscan : scan.variantTextBinaryBytes ≤ Volume.u64Max)
    (hsorted : (scan.previous.toList ++ records).Pairwise fun lhs rhs => lessRecord rhs lhs = false)
    (h : records.foldlM scanRecord scan = some scan') :
    (∀ record ∈ records, validateRecord record = true ∧ record.variantName.length ≤ u32Max) ∧
      (scan.previous.toList ++ records).IsChain (fun left right => left.key < right.key) ∧
      scan'.variantTextBinaryBytes = scan.variantTextBinaryBytes + variantBytes records ∧
      scan'.variantTextBinaryBytes ≤ Volume.u64Max := by
  induction records generalizing scan with
  | nil =>
    cases h
    refine ⟨fun record hmem => absurd hmem List.not_mem_nil, ?_, rfl, hscan⟩
    cases scan'.previous <;> simp
  | cons record records ih =>
    rw [List.foldlM_cons] at h
    obtain ⟨next, hnext, hrest⟩ := Option.bind_eq_some_iff.1 h
    simp only [scanRecord] at hnext
    split at hnext
    · cases hnext
    next hvalid =>
    split at hnext
    · cases hnext
    next hlength =>
    split at hnext
    · cases hnext
    split at hnext
    · cases hnext
    next hbytes =>
    split at hnext
    · cases hnext
    next hdifferent =>
    cases hnext
    have hu64 : 4 ≤ Volume.u64Max := by decide
    have hnext : scan.variantTextBinaryBytes + (4 + record.variantName.length) ≤ Volume.u64Max := by
      omega
    obtain ⟨hall, hchain, htotal, hle⟩ := ih hnext
      (hsorted.sublist (List.sublist_append_right _ _)) hrest
    refine ⟨?_, ?_, ?_, hle⟩
    · rw [List.forall_mem_cons]
      exact ⟨⟨by simpa using hvalid, by omega⟩, hall⟩
    · cases hprevious : scan.previous with
      | none => exact hchain
      | some previous =>
        rw [hprevious] at hsorted hdifferent
        rw [Option.any_some, sameShaderVariantStage_iff] at hdifferent
        have hhead := (List.pairwise_cons.1 hsorted).1 record List.mem_cons_self
        exact List.isChain_cons_cons.2
          ⟨(lessRecord_eq_false_iff.1 hhead).resolve_right fun heq => hdifferent heq.1, hchain⟩
    · rw [htotal, variantBytes, variantBytes, List.map_cons, List.sum_cons, Nat.add_assoc]

lemma foldlM_scanRecord_isSome {records : List Record} {scan : RecordScan}
    (hvalid : ∀ record ∈ records,
      validateRecord record = true ∧ record.variantName.length ≤ u32Max)
    (hchain : (scan.previous.toList ++ records).IsChain fun left right => left.key < right.key)
    (hbytes : scan.variantTextBinaryBytes + variantBytes records ≤ Volume.u64Max) :
    ∃ scan', records.foldlM scanRecord scan = some scan' := by
  induction records generalizing scan with
  | nil => exact ⟨scan, rfl⟩
  | cons record records ih =>
    obtain ⟨⟨hrecord, hlength⟩, hrest⟩ := List.forall_mem_cons.1 hvalid
    rw [variantBytes, List.map_cons, List.sum_cons] at hbytes
    have hdifferent : ¬(scan.previous.any (sameShaderVariantStage · record)) = true := by
      cases hprevious : scan.previous with
      | none => exact Bool.false_ne_true
      | some previous =>
        rw [Option.any_some, sameShaderVariantStage_iff]
        rw [hprevious] at hchain
        exact (List.isChain_cons_cons.1 hchain).1.ne
    have hu32 : u32Max ≤ Volume.u64Max - 4 := by decide
    have hstep : scanRecord scan record = some ⟨some record,
        scan.variantTextBinaryBytes + (4 + record.variantName.length)⟩ := by
      rw [scanRecord, if_neg (by simp [hrecord]), if_neg (by omega), if_neg (by omega),
        if_neg (by omega), if_neg hdifferent]
    rw [List.foldlM_cons, hstep]
    refine ih hrest ?_ ?_
    · cases hprevious : scan.previous with
      | none =>
        rw [hprevious] at hchain
        exact hchain
      | some previous =>
        rw [hprevious] at hchain
        exact (List.isChain_cons_cons.1 hchain).2
    · show scan.variantTextBinaryBytes + (4 + record.variantName.length) + variantBytes records ≤ _
      rw [variantBytes]
      omega

lemma appendRecord_eq {out : List UInt8} {record : Record}
    (hlength : record.variantName.length ≤ u32Max)
    (hroom : out.length + (recordBytes record).length ≤ Volume.u64Max) :
    appendRecord out record = some (out ++ recordBytes record) := by
  rw [length_recordBytes] at hroom
  have hheader := recordHeaderCodec.length_encode (recordHeader record)
  have htext := PodCodec.u32.length_encode (UInt32.ofNat record.variantName.length)
  have hu32 : PodCodec.u32.size = 4 := rfl
  rw [size_recordHeaderCodec] at hheader
  rw [hu32] at htext
  rw [appendRecord, appendBytes, if_pos (by omega), Option.bind_eq_bind, Option.bind_some,
    appendString, if_neg (by omega), appendBytes,
    if_pos (by simp only [List.length_append, hheader, htext]; omega), recordBytes,
    List.append_assoc]

lemma foldlM_appendRecord {out : List UInt8}
    (hlengths : ∀ record ∈ records, record.variantName.length ≤ u32Max)
    (hroom : out.length + (records.flatMap recordBytes).length ≤ Volume.u64Max) :
    records.foldlM appendRecord out = some (out ++ records.flatMap recordBytes) := by
  induction records generalizing out with
  | nil => exact congrArg some (List.append_nil out).symm
  | cons record records ih =>
    obtain ⟨hrecord, hrest⟩ := List.forall_mem_cons.1 hlengths
    rw [List.flatMap_cons, List.length_append] at hroom
    rw [List.foldlM_cons, appendRecord_eq hrecord (by omega), Option.bind_eq_bind,
      Option.bind_some, ih hrest (by rw [List.length_append]; omega), List.flatMap_cons,
      List.append_assoc]

/-- An index is written exactly of writable records, in the bytes of the sorted ones. -/
theorem serializeIndex_eq_some_iff {bytes : List UInt8} :
    serializeIndex records = some bytes ↔
      Writable records ∧ bytes = indexBytes (sortRecords records) := by
  have hperm := perm_sortRecords records
  have hu32 : u32Max ≤ (Volume.u64Max - 12) / 208 := by decide
  have htrans : ∀ {xs : List Record}, xs.IsChain (fun left right => left.key < right.key) →
      Increasing xs := fun {xs} hchain => by
    have : IsTrans Record fun left right => left.key < right.key := ⟨fun _ _ _ => lt_trans⟩
    exact List.isChain_iff_pairwise.1 hchain
  have happend : ∀ hroom : (indexBytes (sortRecords records)).length ≤ Volume.u64Max,
      (∀ record ∈ sortRecords records, record.variantName.length ≤ u32Max) →
      (appendBytes [] (indexHeaderCodec.encode { magic := indexMagic
                                                 recordCount := UInt32.ofNat
                                                  (sortRecords records).length })).bind
        (fun out => (sortRecords records).foldlM appendRecord out)
        = some (indexBytes (sortRecords records)) := by
    intro hroom hlengths
    rw [indexBytes, List.length_append] at hroom
    rw [appendBytes, if_pos (show List.length [] ≤ _ from Nat.zero_le _), Option.bind_some,
      List.nil_append,
      foldlM_appendRecord hlengths hroom, indexBytes]
  constructor
  · intro h
    simp only [serializeIndex, Option.bind_eq_bind] at h
    split at h
    · cases h
    next hcount =>
    obtain ⟨scan, hscan, h⟩ := Option.bind_eq_some_iff.1 h
    obtain ⟨hall, hchain, htotal, hle⟩ := foldlM_scanRecord (Nat.zero_le _)
      (pairwise_sortRecords records) hscan
    rw [Nat.zero_add] at htotal
    split at h
    · cases h
    split at h
    · cases h
    next hbytes =>
    rw [size_indexHeaderCodec, size_recordHeaderCodec, htotal] at hbytes
    rw [htotal] at hle
    have hroom : (indexBytes (sortRecords records)).length ≤ Volume.u64Max := by
      rw [length_indexBytes]
      omega
    rw [happend hroom fun record hmem => (hall record hmem).2] at h
    have hwritable : Writable (sortRecords records) := {
      unique := (htrans hchain).nodup
      valid := fun record hmem => (hall record hmem).1
      variantLength := fun record hmem => (hall record hmem).2
      count := by rw [hperm.length_eq]; omega
      bytes := hroom }
    exact ⟨hwritable.perm hperm, (Option.some.inj h).symm⟩
  · rintro ⟨hwritable, rfl⟩
    have hsorted := hwritable.perm hperm.symm
    have hroom := hsorted.bytes
    rw [length_indexBytes] at hroom
    obtain ⟨scan, hscan⟩ := @foldlM_scanRecord_isSome (sortRecords records) {}
      (fun record hmem => ⟨hsorted.valid record hmem, hsorted.variantLength record hmem⟩)
      (increasing_sortRecords hwritable.unique).isChain (by rw [Nat.zero_add]; omega)
    obtain ⟨-, -, htotal, -⟩ := foldlM_scanRecord (Nat.zero_le _)
      (pairwise_sortRecords records) hscan
    rw [Nat.zero_add] at htotal
    have hcount := hsorted.count
    have hcount' := hwritable.count
    simp only [serializeIndex, Option.bind_eq_bind]
    rw [if_neg (by omega), hscan, Option.bind_some, size_indexHeaderCodec, size_recordHeaderCodec,
      htotal, if_neg (by omega), if_neg (by omega)]
    exact happend hsorted.bytes hsorted.variantLength

end Writing

/-! ## Reading back -/

section Reading

lemma readString_append (before after : List UInt8) {text : List UInt8}
    (hlength : text.length ≤ u32Max) :
    readString (before ++ (PodCodec.u32.encode (UInt32.ofNat text.length) ++ (text ++ after)))
      before.length = some (text, before.length + (4 + text.length)) := by
  have hcount : (UInt32.ofNat text.length).toNat = text.length := by
    rw [UInt32.toNat_ofNat', Nat.mod_eq_of_lt (by rw [u32Max] at hlength; omega)]
  have hencoded : (before ++ PodCodec.u32.encode (UInt32.ofNat text.length)).length
      = before.length + 4 := by
    rw [List.length_append, PodCodec.length_encode]
    rfl
  have hsize : PodCodec.u32.size = 4 := rfl
  rw [readString, PodCodec.readAt_append, Option.bind_eq_bind, Option.bind_some]
  dsimp only
  rw [hcount, hsize, ← List.append_assoc, ← hencoded, List.drop_left, List.take_left, if_pos,
    hencoded, Nat.add_assoc]
  rw [hencoded, List.length_append, hencoded, List.length_append]
  omega

/-- What reading a record asks of it. -/
structure Readable (record : Record) : Prop where
  variant : record.variantName.isEmpty = false
  path : record.virtualPathHash.isSet = true
  length : record.variantName.length ≤ u32Max

variable {records : List Record}

lemma Writable.readable (h : Writable records) :
    ∀ record ∈ records, Readable record := by
  intro record hmem
  have hvalid := h.valid record hmem
  simp only [validateRecord, Bool.and_eq_true, Bool.not_eq_true'] at hvalid
  exact ⟨hvalid.1.1.2, hvalid.2, h.variantLength record hmem⟩

variable {record : Record}

lemma readRecord_append (before after : List UInt8) (h : Readable record) :
    readRecord (before ++ (recordBytes record ++ after)) before.length
      = some (record, before.length + (recordBytes record).length) := by
  have hheader : (before ++ recordHeaderCodec.encode (recordHeader record)).length
      = before.length + 208 := by
    rw [List.length_append, PodCodec.length_encode, size_recordHeaderCodec]
  have htext := readString_append (before ++ recordHeaderCodec.encode (recordHeader record)) after
    h.length
  rw [hheader, List.append_assoc] at htext
  simp only [readRecord, recordBytes, Option.bind_eq_bind]
  rw [List.append_assoc, PodCodec.readAt_append, Option.bind_some, List.append_assoc,
    size_recordHeaderCodec, htext, Option.bind_some, h.variant, if_neg Bool.false_ne_true,
    if_neg (by simp [recordHeader, h.path]), ← recordBytes, length_recordBytes, Nat.add_assoc]
  rfl

lemma follows_iff {previous : Option Record} : follows previous record = true ↔
    (previous.toList ++ [record]).IsChain fun left right => left.key < right.key := by
  cases previous with
  | none => simp [follows]
  | some previous =>
    rw [follows, Option.all_some, Bool.and_eq_true, Bool.not_eq_true', Bool.not_eq_true',
      lessRecord_eq_false_iff, ← Bool.not_eq_true, sameShaderVariantStage_iff]
    simp only [Option.toList_some, List.cons_append, List.nil_append, List.isChain_cons_cons,
      List.isChain_singleton, and_true]
    exact ⟨fun h => h.1.resolve_right fun heq => h.2 heq.1, fun h => ⟨Or.inl h, h.ne⟩⟩

/-- A chain of records is one of its first record and one of the rest behind it. -/
lemma isChain_cons_iff {previous : Option Record} :
    (previous.toList ++ record :: records).IsChain (fun left right => left.key < right.key) ↔
      follows previous record = true ∧
        (record :: records).IsChain fun left right => left.key < right.key := by
  rw [follows_iff]
  cases previous <;> simp

lemma readRecords_append {records : List Record} {before after : List UInt8}
    {previous : Option Record} (hreadable : ∀ record ∈ records, Readable record)
    (hchain : (previous.toList ++ records).IsChain fun left right => left.key < right.key) :
    readRecords (before ++ (records.flatMap recordBytes ++ after)) records.length before.length
      previous = some (records, before.length + (records.flatMap recordBytes).length) := by
  induction records generalizing before previous with
  | nil => rfl
  | cons record records ih =>
    obtain ⟨hrecord, hrest⟩ := List.forall_mem_cons.1 hreadable
    obtain ⟨hfollows, hlater⟩ := isChain_cons_iff.1 hchain
    have hread := readRecord_append before (records.flatMap recordBytes ++ after) hrecord
    have hreads := @ih (before ++ recordBytes record) (some record) hrest hlater
    rw [List.length_append, List.append_assoc] at hreads
    rw [List.flatMap_cons, List.append_assoc, List.length_cons, readRecords, hread,
      Option.bind_eq_bind, Option.bind_some]
    dsimp only
    rw [hfollows, if_neg (by decide), hreads, Option.bind_eq_bind, Option.bind_some,
      List.length_append, Nat.add_assoc]

/-- An index of increasing keys reads back as its records. -/
theorem deserializeIndex_indexBytes (hreadable : ∀ record ∈ records, Readable record)
    (hle : records.length ≤ u32Max) (hincreasing : Increasing records) :
    deserializeIndex (indexBytes records) = some records := by
  have hcount : (UInt32.ofNat records.length).toNat = records.length := by
    rw [u32Max] at hle
    rw [UInt32.toNat_ofNat', Nat.mod_eq_of_lt (by omega)]
  have hheader : indexHeaderCodec.readAt (indexHeaderCodec.encode
      { magic := indexMagic, recordCount := UInt32.ofNat records.length } ++
        records.flatMap recordBytes) 0
      = some ({ magic := indexMagic, recordCount := UInt32.ofNat records.length }, 12) :=
    PodCodec.readAt_append indexHeaderCodec [] (records.flatMap recordBytes)
      { magic := indexMagic, recordCount := UInt32.ofNat records.length }
  have hreads := @readRecords_append records (indexHeaderCodec.encode
    { magic := indexMagic, recordCount := UInt32.ofNat records.length }) [] none
    hreadable hincreasing.isChain
  have hlength := length_flatMap_recordBytes records
  rw [List.append_nil, PodCodec.length_encode, size_indexHeaderCodec] at hreads
  have hbytes : (indexHeaderCodec.encode { magic := indexMagic
                                           recordCount := UInt32.ofNat records.length } ++
      records.flatMap recordBytes).length = 12 + (records.flatMap recordBytes).length := by
    rw [List.length_append, PodCodec.length_encode, size_indexHeaderCodec]
  have hroom : ¬records.length > (12 + (records.flatMap recordBytes).length - 12) / 208 := by
    omega
  simp only [deserializeIndex, indexBytes, Option.bind_eq_bind, hheader, Option.bind_some, ne_eq,
    not_true_eq_false, if_false, hcount, hbytes, size_recordHeaderCodec, if_neg hroom, hreads]

end Reading

/-! ## Accepted indices -/

section Accepted

variable {binary : List UInt8}

lemma readRecord_variant {cursor cursor' : ℕ} {record : Record}
    (h : readRecord binary cursor = some (record, cursor')) : record.variantName ≠ [] := by
  simp only [readRecord, Option.bind_eq_bind, Option.bind_eq_some_iff] at h
  obtain ⟨⟨header, start⟩, -, ⟨variantName, stop⟩, -, h⟩ := h
  split at h
  · cases h
  next hvariant =>
  split at h
  · cases h
  cases h
  simpa using hvariant

lemma eq_of_readRecords {count cursor cursor' : ℕ} {previous : Option Record}
    {records : List Record}
    (h : readRecords binary count cursor previous = some (records, cursor')) :
    (previous.toList ++ records).IsChain (fun left right => left.key < right.key) ∧
      ∀ record ∈ records, record.variantName ≠ [] := by
  induction count generalizing cursor previous records with
  | zero =>
    cases h
    refine ⟨?_, fun record hmem => absurd hmem List.not_mem_nil⟩
    cases previous <;> simp
  | succ count ih =>
    simp only [readRecords, Option.bind_eq_bind, Option.bind_eq_some_iff] at h
    obtain ⟨⟨record, next⟩, hrecord, h⟩ := h
    split at h
    · cases h
    next hfollows =>
    rw [Bool.not_eq_true', Bool.not_eq_false] at hfollows
    obtain ⟨⟨rest, stop⟩, hrest, h⟩ := Option.bind_eq_some_iff.1 h
    cases h
    obtain ⟨hchain, hvariants⟩ := ih hrest
    exact ⟨isChain_cons_iff.2 ⟨hfollows, hchain⟩,
      List.forall_mem_cons.2 ⟨readRecord_variant hrecord, hvariants⟩⟩

/-- Whatever is accepted has increasing keys. -/
theorem increasing_of_deserializeIndex {records : List Record}
    (h : deserializeIndex binary = some records) :
    Increasing records ∧ ∀ record ∈ records, record.variantName ≠ [] := by
  simp only [deserializeIndex, Option.bind_eq_bind] at h
  obtain ⟨⟨header, cursor⟩, -, h⟩ := Option.bind_eq_some_iff.1 h
  split at h
  · cases h
  split at h
  · cases h
  obtain ⟨⟨parsed, stop⟩, hparsed, h⟩ := Option.bind_eq_some_iff.1 h
  split at h
  · cases h
  cases h
  obtain ⟨hchain, hvariants⟩ := eq_of_readRecords hparsed
  have : IsTrans Record fun left right => left.key < right.key := ⟨fun _ _ _ => lt_trans⟩
  exact ⟨List.isChain_iff_pairwise.1 hchain, hvariants⟩

end Accepted

/-! ## Lookup -/

section Lookup

variable {records : List Record} {shader stage : NameHash} {variant : List UInt8}

/-- The path of the first record with the key, record by record. -/
def scanVirtualPath (records : List Record) (shaderName : NameHash) (variantName : List UInt8)
    (stageName : NameHash) : Option NameHash :=
  (records.find? fun record => record.shaderName = shaderName ∧ record.variantName = variantName ∧
    record.stage = stageName).map Record.virtualPathHash

lemma key_eq_iff {record : Record} : record.key = keyOf shader variant stage ↔
    record.shaderName = shader ∧ record.variantName = variant ∧ record.stage = stage :=
  keyOf_eq_iff

lemma findRecord_eq (h : Increasing records) : findRecord records shader variant stage
    = records.find? fun record => record.shaderName = shader ∧ record.variantName = variant ∧
      record.stage = stage := by
  have hfind := List.getElem?_lowerBound_eq_find? h (keyOf shader variant stage)
  simp only [key_eq_iff] at hfind
  have hbelow : recordBelow shader variant stage
      = fun record => decide (record.key < keyOf shader variant stage) :=
    funext fun record => recordBelow_iff
  rw [findRecord, hbelow, ← hfind]
  cases records[records.lowerBound fun record => record.key < keyOf shader variant stage]? with
  | none => rfl
  | some record =>
    rw [Option.bind_eq_bind, Option.bind_some, Option.filter_some]
    by_cases hkey : record.shaderName = shader ∧ record.variantName = variant ∧
        record.stage = stage
    · simp [hkey]
    · rw [if_pos (by simpa [or_assoc, imp_iff_not_or] using hkey), if_neg (by simpa using hkey)]

/-- The lookup finds what a scan finds, except a record without a shader or a stage name. -/
theorem findVirtualPath_eq_scan_iff (h : Increasing records)
    (hvariants : ∀ record ∈ records, record.variantName ≠ []) :
    findVirtualPath records shader variant stage = scanVirtualPath records shader variant stage ↔
      (shader.isSet = true ∧ stage.isSet = true) ∨ ∀ record ∈ records,
        ¬(record.shaderName = shader ∧ record.variantName = variant ∧ record.stage = stage) := by
  have hnone : scanVirtualPath records shader variant stage = none ↔ ∀ record ∈ records,
      ¬(record.shaderName = shader ∧ record.variantName = variant ∧ record.stage = stage) := by
    rw [scanVirtualPath, Option.map_eq_none_iff, List.find?_eq_none]
    simp only [decide_eq_true_eq]
  rw [← hnone, findVirtualPath]
  by_cases hset : shader.isSet = true ∧ stage.isSet = true
  · simp only [hset, and_self, true_or, iff_true]
    split
    · next hrefused =>
      have hvariant : variant = [] := by simpa [hset.1, hset.2] using hrefused
      refine (hnone.2 fun record hmem hkey => hvariants record hmem ?_).symm
      rw [hkey.2.1, hvariant]
    · rw [findRecord_eq h, scanVirtualPath]
  · rw [if_pos]
    · rw [or_iff_right hset]
      exact eq_comm
    · rw [not_and_or, Bool.not_eq_true, Bool.not_eq_true] at hset
      rcases hset with hshader | hstage
      · simp [hshader]
      · simp [hstage]

end Lookup

/-! ## The contract -/

/-- The index is written exactly of writable records, in bytes that do not depend on their order,
and reads back as the records by increasing keys; an accepted index has increasing keys, and its
lookup is a scan exactly for keys with names and keys that it does not hold. -/
theorem archiveIndex_contract (records : List Record) :
    ((serializeIndex records).isSome = true ↔ Writable records) ∧
    (∀ bytes, serializeIndex records = some bytes →
      ∃ sorted, deserializeIndex bytes = some sorted ∧ sorted.Perm records ∧ Increasing sorted) ∧
    (∀ records', records.Perm records' → serializeIndex records = serializeIndex records') ∧
    ∀ binary, deserializeIndex binary = some records →
      Increasing records ∧ ∀ (shader : NameHash) (variant : List UInt8) (stage : NameHash),
        findVirtualPath records shader variant stage
            = scanVirtualPath records shader variant stage ↔
          (shader.isSet = true ∧ stage.isSet = true) ∨ ∀ record ∈ records,
            ¬(record.shaderName = shader ∧ record.variantName = variant ∧
              record.stage = stage) := by
  refine ⟨?_, fun bytes h => ?_, fun records' hperm => ?_, fun binary h => ?_⟩
  · rw [Option.isSome_iff_exists]
    constructor
    · rintro ⟨bytes, h⟩
      exact (serializeIndex_eq_some_iff.1 h).1
    · exact fun hwritable => ⟨_, serializeIndex_eq_some_iff.2 ⟨hwritable, rfl⟩⟩
  · obtain ⟨hwritable, rfl⟩ := serializeIndex_eq_some_iff.1 h
    have hincreasing := increasing_sortRecords hwritable.unique
    have hperm := perm_sortRecords records
    have hsorted := hwritable.perm hperm.symm
    exact ⟨_, deserializeIndex_indexBytes hsorted.readable hsorted.count hincreasing, hperm,
      hincreasing⟩
  · refine Option.ext fun bytes => ?_
    rw [serializeIndex_eq_some_iff, serializeIndex_eq_some_iff]
    have hsorted : Writable records → sortRecords records = sortRecords records' := fun h =>
      (increasing_sortRecords h.unique).eq_of_perm (increasing_sortRecords (h.perm hperm).unique)
        ((perm_sortRecords records).trans (hperm.trans (perm_sortRecords records').symm))
    constructor
    · rintro ⟨hwritable, rfl⟩
      exact ⟨hwritable.perm hperm, by rw [hsorted hwritable]⟩
    · rintro ⟨hwritable, rfl⟩
      have hother := hwritable.perm hperm.symm
      exact ⟨hother, by rw [hsorted hother]⟩
  · obtain ⟨hincreasing, hvariants⟩ := increasing_of_deserializeIndex h
    exact ⟨hincreasing, fun shader variant stage =>
      findVirtualPath_eq_scan_iff hincreasing hvariants⟩

/-- One record without a shader name. -/
def namelessRecord : Record where
  shaderName := fun _ => 0
  variantName := [100]
  stage := fun _ => 1
  sourceChecksum := 0
  bytecodeChecksum := 0
  virtualPathHash := fun _ => 1

/-- An index that is accepted, and whose record the lookup does not find. -/
theorem namelessRecord_not_found :
    deserializeIndex (indexBytes [namelessRecord]) = some [namelessRecord] ∧
      findVirtualPath [namelessRecord] namelessRecord.shaderName namelessRecord.variantName
        namelessRecord.stage = none ∧
      scanVirtualPath [namelessRecord] namelessRecord.shaderName namelessRecord.variantName
        namelessRecord.stage = some namelessRecord.virtualPathHash := by
  refine ⟨deserializeIndex_indexBytes ?_ (by decide) (List.pairwise_singleton _ _), by decide,
    by decide⟩
  rw [List.forall_mem_singleton]
  exact ⟨by decide, by decide, by decide⟩

end NwbLot.ShaderArchive
