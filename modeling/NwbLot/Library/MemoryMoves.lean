import Mathlib.Data.List.Range

/-!
# Overlapping moves

A memory is a function from addresses.  A range of it is moved chunk by chunk through a buffer, and
the chunks add up to the move of the whole range when they run away from the source: towards the
end of the range when the destination lies before the source, and towards its beginning when the
destination lies behind it.
-/

namespace MemoryMoves

variable {β : Type*} {before middle after : ℕ → β} {dst src lo mid hi : ℕ}

/-- The destination at the indices from `lo` to `hi` holds what the source held there, and the rest
of the memory is as it was. -/
structure Moved (dst src lo hi : ℕ) (before after : ℕ → β) : Prop where
  moved : ∀ i, lo ≤ i → i < hi → after (dst + i) = before (src + i)
  kept : ∀ a, a < dst + lo ∨ dst + hi ≤ a → after a = before a

lemma Moved.refl (dst src lo : ℕ) (memory : ℕ → β) : Moved dst src lo lo memory memory :=
  ⟨fun _ hle hlt => absurd (hle.trans_lt hlt) (lt_irrefl lo), fun _ _ => rfl⟩

/-- The next chunk of a move to lower addresses is read from above what was written. -/
lemma Moved.forward (hdst : dst ≤ src) (hlo : lo ≤ mid) (hhi : mid ≤ hi)
    (h : Moved dst src lo mid before middle) (hnext : Moved dst src mid hi middle after) :
    Moved dst src lo hi before after where
  moved i hle hlt := by
    by_cases hi : i < mid
    · rw [hnext.kept _ (Or.inl (by omega)), h.moved i hle hi]
    · rw [hnext.moved i (by omega) hlt, h.kept _ (Or.inr (by omega))]
  kept a ha := by
    rw [hnext.kept a (by omega), h.kept a (by omega)]

/-- The next chunk of a move to higher addresses is read from below what was written. -/
lemma Moved.backward (hsrc : src ≤ dst) (hlo : lo ≤ mid) (hhi : mid ≤ hi)
    (h : Moved dst src mid hi before middle) (hnext : Moved dst src lo mid middle after) :
    Moved dst src lo hi before after where
  moved i hle hlt := by
    by_cases hi : i < mid
    · rw [hnext.moved i hle hi, h.kept _ (Or.inl (by omega))]
    · rw [hnext.kept _ (Or.inr (by omega)), h.moved i (by omega) hlt]
  kept a ha := by
    rw [hnext.kept a (by omega), h.kept a (by omega)]

/-! ## Ranges -/

/-- The values of a range. -/
def valuesAt (memory : ℕ → β) (offset count : ℕ) : List β :=
  (List.range count).map fun i => memory (offset + i)

@[simp] lemma length_valuesAt (memory : ℕ → β) (offset count : ℕ) :
    (valuesAt memory offset count).length = count := by
  rw [valuesAt, List.length_map, List.length_range]

lemma getElem?_valuesAt {memory : ℕ → β} {offset count i : ℕ} (h : i < count) :
    (valuesAt memory offset count)[i]? = some (memory (offset + i)) := by
  rw [valuesAt, List.getElem?_map, List.getElem?_range h]
  rfl

lemma valuesAt_add (memory : ℕ → β) (offset first second : ℕ) :
    valuesAt memory offset (first + second)
      = valuesAt memory offset first ++ valuesAt memory (offset + first) second := by
  rw [valuesAt, List.range_add, List.map_append, List.map_map]
  congr 1
  refine List.map_congr_left fun i _ => ?_
  rw [Function.comp_apply, Nat.add_assoc]

/-- Writing a range of the memory somewhere else moves it. -/
lemma moved_of_valuesAt {offset count : ℕ} (hhi : offset + count = hi)
    (hwritten : ∀ i < count, (valuesAt before (src + offset) count)[i]?
      = some (after (dst + offset + i)))
    (hkept : ∀ a, a < dst + offset ∨ dst + offset + count ≤ a → after a = before a) :
    Moved dst src offset hi before after where
  moved i hle hlt := by
    obtain ⟨k, rfl⟩ := Nat.exists_eq_add_of_le hle
    have hk := hwritten k (by omega)
    rw [getElem?_valuesAt (by omega), Option.some.injEq] at hk
    rw [← Nat.add_assoc, ← hk, Nat.add_assoc]
  kept a ha := hkept a (by omega)

/-! ## Packing -/

/-- A range of the memory and where it is to be moved. -/
structure Extent where
  source : ℕ
  destination : ℕ
  size : ℕ

/-- The destinations lie one behind the other from `lo` to `stop`, and no source begins before the
previous one, the first one before `previous`, ends. -/
inductive PackedFrom : (lo previous : ℕ) → List Extent → (stop : ℕ) → Prop
  | nil (lo previous : ℕ) : PackedFrom lo previous [] lo
  | cons {previous stop : ℕ} {extent : Extent} {extents : List Extent}
      (behind : previous ≤ extent.source)
      (rest : PackedFrom (extent.destination + extent.size) (extent.source + extent.size) extents
        stop) : PackedFrom extent.destination previous (extent :: extents) stop

/-- The memory after every extent has been moved. -/
def packed (memory : ℕ → β) : List Extent → ℕ → β
  | [], a => memory a
  | extent :: extents, a =>
      if extent.destination ≤ a ∧ a < extent.destination + extent.size then
        memory (extent.source + (a - extent.destination))
      else packed memory extents a

variable {previous stop : ℕ} {extent : Extent} {extents : List Extent}

lemma PackedFrom.lo_le (h : PackedFrom lo previous extents stop) : lo ≤ stop := by
  induction h with
  | nil => exact le_rfl
  | cons behind rest ih => omega

/-- Packing does not move the end behind that of the last source. -/
lemma PackedFrom.stop_le {bound : ℕ} (h : PackedFrom lo previous extents stop)
    (hlo : lo ≤ previous) (hprevious : previous ≤ bound)
    (hbound : ∀ extent ∈ extents, extent.source + extent.size ≤ bound) : stop ≤ bound := by
  induction h with
  | nil => exact hlo.trans hprevious
  | @cons previous stop extent extents behind rest ih =>
    exact ih (by omega) (hbound extent List.mem_cons_self) fun other hother =>
      hbound other (List.mem_cons_of_mem _ hother)

/-- Where an extent goes: inside the range, and not behind its source. -/
lemma PackedFrom.of_mem (h : PackedFrom lo previous extents stop) (hlo : lo ≤ previous)
    (hmem : extent ∈ extents) : lo ≤ extent.destination ∧
      extent.destination + extent.size ≤ stop ∧ previous ≤ extent.source ∧
      extent.destination ≤ extent.source := by
  induction h with
  | nil => cases hmem
  | @cons previous stop first extents behind rest ih =>
    rcases List.mem_cons.1 hmem with rfl | hrest
    · have hle := rest.lo_le
      omega
    · obtain ⟨hdestination, hstop, hsource, hle⟩ := ih (by omega) hrest
      omega

/-- Outside the destinations nothing changes. -/
lemma PackedFrom.packed_outside (h : PackedFrom lo previous extents stop) (hlo : lo ≤ previous)
    (memory : ℕ → β) {a : ℕ} (ha : a < lo ∨ stop ≤ a) : packed memory extents a = memory a := by
  induction h with
  | nil => rfl
  | @cons previous stop first extents behind rest ih =>
    have hle := rest.lo_le
    rw [packed, if_neg (by omega)]
    exact ih (by omega) (by omega)

/-- What is packed depends on the sources, and on the memory where nothing goes. -/
lemma packed_congr {a : ℕ} (hsources : ∀ extent ∈ extents, ∀ i < extent.size,
      after (extent.source + i) = before (extent.source + i)) (ha : after a = before a) :
    packed after extents a = packed before extents a := by
  induction extents with
  | nil => exact ha
  | cons first extents ih =>
    rw [packed, packed, ih fun extent hmem => hsources extent (List.mem_cons_of_mem _ hmem)]
    split
    · exact hsources first List.mem_cons_self _ (by omega)
    · rfl

/-- The rule of packing: the sources of the later extents lie behind the destination of the first,
so it may be moved before them. -/
lemma PackedFrom.packed_cons (h : PackedFrom lo previous (extent :: extents) stop)
    (hlo : lo ≤ previous)
    (hmoved : Moved extent.destination extent.source 0 extent.size before after) :
    packed after extents = packed before (extent :: extents) := by
  cases h with
  | cons behind rest =>
    funext a
    rw [packed]
    split
    · next hinside =>
        rw [rest.packed_outside (by omega) after (by omega)]
        have hbyte := hmoved.moved (a - extent.destination) (Nat.zero_le _) (by omega)
        rwa [Nat.add_sub_cancel' hinside.1] at hbyte
    · next houtside =>
        refine packed_congr (fun other hother i _ => hmoved.kept _ (Or.inr ?_))
          (hmoved.kept a (by omega))
        have hsource := (rest.of_mem (by omega) hother).2.2.1
        omega

end MemoryMoves
