import Mathlib.Data.UInt
import Mathlib.Logic.Equiv.Prod
import Mathlib.Logic.Equiv.Fin.Basic

/-!
# Fixed-size byte encodings

Values that are stored as a fixed number of bytes, such that every string of that many bytes is
the encoding of exactly one value: unsigned words in little-endian order and packed records of
them.
-/

/-- An encoding of `α` by all byte strings of one length. -/
structure PodCodec (α : Type*) where
  size : ℕ
  encode : α → List UInt8
  decode : List UInt8 → α
  length_encode : ∀ a, (encode a).length = size
  decode_encode : ∀ a, decode (encode a) = a
  encode_decode : ∀ bytes, bytes.length = size → encode (decode bytes) = bytes

namespace PodCodec

variable {α β : Type*}

attribute [simp] length_encode decode_encode

/-- The value at an offset, and the offset behind it. -/
def readAt (codec : PodCodec α) (bytes : List UInt8) (offset : ℕ) : Option (α × ℕ) :=
  if offset ≤ bytes.length ∧ codec.size ≤ bytes.length - offset then
    some (codec.decode ((bytes.drop offset).take codec.size), offset + codec.size)
  else none

/-- Reading an encoded value back, whatever follows it. -/
lemma readAt_append (codec : PodCodec α) (before after : List UInt8) (a : α) :
    codec.readAt (before ++ (codec.encode a ++ after)) before.length =
      some (a, before.length + codec.size) := by
  have hroom : before.length ≤ (before ++ (codec.encode a ++ after)).length ∧
      codec.size ≤ (before ++ (codec.encode a ++ after)).length - before.length := by
    rw [List.length_append, List.length_append, codec.length_encode]
    omega
  have htake : (codec.encode a ++ after).take codec.size = codec.encode a := by
    rw [← codec.length_encode a, List.take_left]
  rw [readAt, if_pos hroom, List.drop_left, htake, codec.decode_encode]

/-- What has been read is encoded at the offset. -/
lemma eq_of_readAt {codec : PodCodec α} {bytes : List UInt8} {offset offset' : ℕ} {a : α}
    (h : codec.readAt bytes offset = some (a, offset')) :
    offset' = offset + codec.size ∧ offset' ≤ bytes.length ∧
      (bytes.drop offset).take codec.size = codec.encode a := by
  unfold readAt at h
  split at h
  · next hroom =>
    obtain ⟨rfl, rfl⟩ := Prod.mk.inj (Option.some.inj h)
    refine ⟨rfl, by omega, (codec.encode_decode _ ?_).symm⟩
    rw [List.length_take, List.length_drop]
    omega
  · cases h

lemma readAt_isSome {codec : PodCodec α} {bytes : List UInt8} {offset : ℕ}
    (h : offset + codec.size ≤ bytes.length) : ∃ a, codec.readAt bytes offset =
      some (a, offset + codec.size) :=
  ⟨_, if_pos (by omega)⟩

/-! ## Building encodings -/

/-- The encoding of a type that is another one in disguise. -/
def ofEquiv (codec : PodCodec β) (e : α ≃ β) : PodCodec α where
  size := codec.size
  encode a := codec.encode (e a)
  decode bytes := e.symm (codec.decode bytes)
  length_encode a := codec.length_encode (e a)
  decode_encode a := by rw [codec.decode_encode, e.symm_apply_apply]
  encode_decode bytes h := by rw [e.apply_symm_apply, codec.encode_decode bytes h]

/-- Two values, one behind the other. -/
def prod (first : PodCodec α) (second : PodCodec β) : PodCodec (α × β) where
  size := first.size + second.size
  encode pair := first.encode pair.1 ++ second.encode pair.2
  decode bytes := (first.decode (bytes.take first.size), second.decode (bytes.drop first.size))
  length_encode pair := by rw [List.length_append, first.length_encode, second.length_encode]
  decode_encode pair := by
    have hlength := first.length_encode pair.1
    rw [List.take_left' hlength, List.drop_left' hlength, first.decode_encode, second.decode_encode]
  encode_decode bytes h := by
    have htake : (bytes.take first.size).length = first.size := by
      rw [List.length_take]
      omega
    have hdrop : (bytes.drop first.size).length = second.size := by
      rw [List.length_drop]
      omega
    rw [first.encode_decode _ htake, second.encode_decode _ hdrop, List.take_append_drop]

/-- One byte. -/
def u8 : PodCodec UInt8 where
  size := 1
  encode byte := [byte]
  decode bytes := bytes.headD 0
  length_encode _ := rfl
  decode_encode _ := rfl
  encode_decode := by
    intro bytes h
    obtain ⟨byte, rfl⟩ := List.length_eq_one_iff.1 h
    rfl

/-! ## Little-endian words -/

/-- A word by its low and its high byte. -/
def halves16 : UInt16 ≃ UInt8 × UInt8 where
  toFun word := (UInt8.ofNat word.toNat, UInt8.ofNat (word.toNat / 2 ^ 8))
  invFun pair := UInt16.ofNat (pair.1.toNat + 2 ^ 8 * pair.2.toNat)
  left_inv word := by
    have hlt := word.toNat_lt
    rw [← UInt16.toNat_inj]
    simp only [UInt8.toNat_ofNat', UInt16.toNat_ofNat']
    omega
  right_inv pair := by
    have hlow := pair.1.toNat_lt
    have hhigh := pair.2.toNat_lt
    refine Prod.ext (UInt8.toNat_inj.1 ?_) (UInt8.toNat_inj.1 ?_) <;>
      simp only [UInt8.toNat_ofNat', UInt16.toNat_ofNat'] <;> omega

/-- A word as its low and high half. -/
def halves32 : UInt32 ≃ UInt16 × UInt16 where
  toFun word := (UInt16.ofNat word.toNat, UInt16.ofNat (word.toNat / 2 ^ 16))
  invFun pair := UInt32.ofNat (pair.1.toNat + 2 ^ 16 * pair.2.toNat)
  left_inv word := by
    have hlt := word.toNat_lt
    rw [← UInt32.toNat_inj]
    simp only [UInt16.toNat_ofNat', UInt32.toNat_ofNat']
    omega
  right_inv pair := by
    have hlow := pair.1.toNat_lt
    have hhigh := pair.2.toNat_lt
    refine Prod.ext (UInt16.toNat_inj.1 ?_) (UInt16.toNat_inj.1 ?_) <;>
      simp only [UInt16.toNat_ofNat', UInt32.toNat_ofNat'] <;> omega

/-- A double word as its low and high half. -/
def halves64 : UInt64 ≃ UInt32 × UInt32 where
  toFun word := (UInt32.ofNat word.toNat, UInt32.ofNat (word.toNat / 2 ^ 32))
  invFun pair := UInt64.ofNat (pair.1.toNat + 2 ^ 32 * pair.2.toNat)
  left_inv word := by
    have hlt := word.toNat_lt
    rw [← UInt64.toNat_inj]
    simp only [UInt32.toNat_ofNat', UInt64.toNat_ofNat']
    omega
  right_inv pair := by
    have hlow := pair.1.toNat_lt
    have hhigh := pair.2.toNat_lt
    refine Prod.ext (UInt32.toNat_inj.1 ?_) (UInt32.toNat_inj.1 ?_) <;>
      simp only [UInt32.toNat_ofNat', UInt64.toNat_ofNat'] <;> omega

/-- Two bytes, the low one first. -/
def u16 : PodCodec UInt16 := (u8.prod u8).ofEquiv halves16
/-- Four bytes, the low one first. -/
def u32 : PodCodec UInt32 := (u16.prod u16).ofEquiv halves32
/-- Eight bytes, the low one first. -/
def u64 : PodCodec UInt64 := (u32.prod u32).ofEquiv halves64

/-- Signed words in two's complement. -/
def i32 : PodCodec Int32 :=
  u32.ofEquiv
    { toFun := Int32.toUInt32
      invFun := UInt32.toInt32
      left_inv := fun _ => rfl
      right_inv := fun _ => rfl }

/-- Eight bytes of a signed number. -/
def i64 : PodCodec Int64 :=
  u64.ofEquiv
    { toFun := Int64.toUInt64
      invFun := UInt64.toInt64
      left_inv := fun _ => rfl
      right_inv := fun _ => rfl }

/-- Equal values, one behind the other. -/
def array (codec : PodCodec α) : (n : ℕ) → PodCodec (Fin n → α)
  | 0 =>
    { size := 0
      encode := fun _ => []
      decode := fun _ => Fin.elim0
      length_encode := fun _ => rfl
      decode_encode := fun _ => Subsingleton.elim _ _
      encode_decode := fun _ h => (List.length_eq_zero_iff.1 h).symm }
  | n + 1 => (codec.prod (codec.array n)).ofEquiv (Fin.consEquiv fun _ => α).symm

end PodCodec

/-! ## Sizes and reads with their faults

Arithmetic on 64-bit sizes and reads of a buffer, in which a result that does not fit and a read
outside the buffer are faults.  A computation without a fault is the one that a machine does. -/

/-- What a machine cannot represent or read. -/
inductive SizeFault
  | wraps
  | readsOutside
  deriving DecidableEq, Repr

/-- A computation that stops at its first fault. -/
abbrev Guarded := Except SizeFault

/-- A buffer whose size is a 64-bit word. -/
structure ByteView where
  bytes : List UInt8
  bounded : bytes.length < 2 ^ 64

/-- A copied range of a buffer, with its place there. -/
structure CopiedRange where
  offset : ℕ
  bytes : List UInt8
  deriving DecidableEq, Repr

namespace Guarded

variable {α β : Type}

/-- A sum that fits 64 bits. -/
def add (a b : ℕ) : Guarded ℕ := if a + b < 2 ^ 64 then .ok (a + b) else .error .wraps
/-- A difference that is not negative. -/
def sub (a b : ℕ) : Guarded ℕ := if b ≤ a then .ok (a - b) else .error .wraps
/-- A product that fits 64 bits. -/
def mul (a b : ℕ) : Guarded ℕ := if a * b < 2 ^ 64 then .ok (a * b) else .error .wraps

lemma add_eq {a b : ℕ} (h : a + b < 2 ^ 64) : add a b = .ok (a + b) := if_pos h
lemma sub_eq {a b : ℕ} (h : b ≤ a) : sub a b = .ok (a - b) := if_pos h
lemma mul_eq {a b : ℕ} (h : a * b < 2 ^ 64) : mul a b = .ok (a * b) := if_pos h

lemma ok_bind (a : α) (f : α → Guarded β) : ((.ok a : Guarded α) >>= f) = f a := rfl

/-- There is no fault, and the result has a property. -/
def Satisfies (x : Guarded α) (P : α → Prop) : Prop :=
  ∃ a, x = .ok a ∧ P a

lemma satisfies_ok {P : α → Prop} {a : α} (h : P a) : Satisfies (.ok a : Guarded α) P :=
  ⟨a, rfl, h⟩

lemma Satisfies.mono {x : Guarded α} {P Q : α → Prop} (h : Satisfies x P) (hPQ : ∀ a, P a → Q a) :
    Satisfies x Q := by
  obtain ⟨a, ha, hP⟩ := h
  exact ⟨a, ha, hPQ a hP⟩

/-- The rule of composition. -/
lemma Satisfies.bind {x : Guarded α} {f : α → Guarded β} {P : α → Prop} {Q : β → Prop}
    (hx : Satisfies x P) (hf : ∀ a, P a → Satisfies (f a) Q) : Satisfies (x >>= f) Q := by
  obtain ⟨a, rfl, hP⟩ := hx
  exact hf a hP

lemma satisfies_ite {c : Prop} [Decidable c] {x y : Guarded α} {P : α → Prop}
    (hx : c → Satisfies x P) (hy : ¬c → Satisfies y P) : Satisfies (if c then x else y) P := by
  by_cases h : c
  · rw [if_pos h]
    exact hx h
  · rw [if_neg h]
    exact hy h

end Guarded

namespace ByteView

open Guarded

/-- The number of bytes. -/
def size (view : ByteView) : ℕ := view.bytes.length

lemma size_lt (view : ByteView) : view.size < 2 ^ 64 := view.bounded

/-- The bytes of a range. -/
def slice (view : ByteView) (offset count : ℕ) : Guarded (List UInt8) :=
  if offset + count ≤ view.size then .ok ((view.bytes.drop offset).take count)
  else .error .readsOutside

lemma slice_eq {view : ByteView} {offset count : ℕ} (h : offset + count ≤ view.size) :
    view.slice offset count = .ok ((view.bytes.drop offset).take count) := if_pos h

/-- One byte. -/
def byteAt (view : ByteView) (index : ℕ) : Guarded UInt8 :=
  match view.bytes[index]? with
  | some byte => .ok byte
  | none => .error .readsOutside

lemma byteAt_eq {view : ByteView} {index : ℕ} (h : index < view.size) :
    view.byteAt index = .ok (view.bytes.get ⟨index, h⟩) := by
  have hget : view.bytes[index]? = some (view.bytes.get ⟨index, h⟩) := List.getElem?_eq_getElem h
  rw [byteAt, hget]

/-- The view of a range. -/
def sub (view : ByteView) (offset count : ℕ) : Guarded ByteView :=
  if offset + count ≤ view.size then
    .ok ⟨(view.bytes.drop offset).take count,
      (List.length_take_le' _ _).trans_lt
        ((List.length_drop ▸ Nat.sub_le _ _).trans_lt view.bounded)⟩
  else .error .readsOutside

lemma exists_sub (view : ByteView) (offset count : ℕ) (h : offset + count ≤ view.size) :
    ∃ inner, view.sub offset count = .ok inner ∧ inner.bytes = (view.bytes.drop offset).take count ∧
      inner.size = count := by
  refine ⟨_, if_pos h, rfl, ?_⟩
  have hsize : offset + count ≤ view.bytes.length := h
  show ((view.bytes.drop offset).take count).length = count
  rw [List.length_take, List.length_drop]
  omega

/-- Whether a range is inside, as it is asked of a buffer. -/
def canReadBytes (view : ByteView) (offset byteCount : ℕ) : Guarded Bool :=
  if offset > view.size then .ok false
  else do
    let remaining ← Guarded.sub view.size offset
    return decide (byteCount ≤ remaining)

lemma canReadBytes_eq (view : ByteView) (offset byteCount : ℕ) :
    view.canReadBytes offset byteCount = .ok (decide (offset + byteCount ≤ view.size)) := by
  unfold canReadBytes
  by_cases h : offset > view.size
  · rw [if_pos h, decide_eq_false (by omega)]
  · rw [if_neg h, Guarded.sub_eq (by omega)]
    show Except.ok (decide (byteCount ≤ view.size - offset)) = _
    refine congrArg Except.ok (decide_eq_decide.2 ?_)
    omega

/-- A packed value at an offset, and the offset behind it. -/
def readPod {α : Type} (codec : PodCodec α) (view : ByteView) (offset : ℕ) :
    Guarded (Option (α × ℕ)) := do
  if ← view.canReadBytes offset codec.size then
    let raw ← view.slice offset codec.size
    let behind ← Guarded.add offset codec.size
    return some (codec.decode raw, behind)
  else return none

lemma readPod_eq {α : Type} (codec : PodCodec α) (view : ByteView) (offset : ℕ) :
    readPod codec view offset = .ok (codec.readAt view.bytes offset) := by
  have hbound := view.size_lt
  have hsize : view.size = view.bytes.length := rfl
  rw [readPod, canReadBytes_eq]
  show (if decide (offset + codec.size ≤ view.size) = true then _ else _) = _
  by_cases h : offset + codec.size ≤ view.size
  · rw [if_pos (decide_eq_true h), slice_eq h, Guarded.add_eq (by omega), PodCodec.readAt,
      if_pos (by omega)]
    rfl
  · rw [if_neg (by rw [decide_eq_true_eq]; exact h), PodCodec.readAt, if_neg (by omega)]
    rfl

lemma readPod_satisfies {α : Type} (codec : PodCodec α) (view : ByteView) (offset : ℕ) :
    Satisfies (readPod codec view offset) fun read =>
      ∀ a behind, read = some (a, behind) → behind = offset + codec.size ∧ behind ≤ view.size := by
  refine ⟨_, readPod_eq codec view offset, fun a behind hread => ?_⟩
  obtain ⟨hbehind, hinside, -⟩ := PodCodec.eq_of_readAt hread
  exact ⟨hbehind, hinside⟩

end ByteView

/-- A copied range is what the buffer holds at its place. -/
def CopiedRange.Inside (range : CopiedRange) (view : ByteView) : Prop :=
  range.offset + range.bytes.length ≤ view.size ∧
    range.bytes = (view.bytes.drop range.offset).take range.bytes.length

namespace ByteView

open Guarded

/-- A range, copied. -/
def copyRange (view : ByteView) (offset count : ℕ) : Guarded CopiedRange := do
  let bytes ← view.slice offset count
  return ⟨offset, bytes⟩

lemma copyRange_satisfies {view : ByteView} {offset count : ℕ} (h : offset + count ≤ view.size) :
    Satisfies (view.copyRange offset count)
      fun range => range.Inside view ∧ range.offset = offset ∧ range.bytes.length = count := by
  have hsize : offset + count ≤ view.bytes.length := h
  have hlength : ((view.bytes.drop offset).take count).length = count := by
    rw [List.length_take, List.length_drop]
    omega
  rw [copyRange, slice_eq h]
  refine ⟨_, rfl, ⟨?_, ?_⟩, rfl, hlength⟩
  · rw [hlength]
    exact h
  · rw [hlength]

end ByteView
