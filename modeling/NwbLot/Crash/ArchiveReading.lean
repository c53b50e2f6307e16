import NwbLot.Crash.Archive

/-!
# Reading a crash archive

The lines and the file headers of an archive: what is read from any bytes, and what is read back
from the bytes of an entry.
-/

namespace NwbLot.Crash

open Guarded

/-! ## Lines -/

lemma findLf_satisfies (bytes : ByteView) (remaining : ℕ) {position : ℕ}
    (h : position + remaining ≤ bytes.size) :
    Satisfies (findLf bytes remaining position) fun found =>
      ∀ lf, found = some lf → position ≤ lf ∧ lf < position + remaining := by
  induction remaining generalizing position with
  | zero => exact satisfies_ok fun _ hfound => nomatch hfound
  | succ remaining ih =>
    rw [findLf]
    refine Satisfies.bind ⟨_, ByteView.byteAt_eq (by omega), rfl⟩ fun byte _ => ?_
    refine satisfies_ite (fun _ => ?_) fun _ => satisfies_ok fun lf hfound => ?_
    · refine (ih (by omega)).mono fun found hrest lf hfound => ?_
      have hlf := hrest lf hfound
      omega
    · obtain rfl := Option.some.inj hfound
      omega

lemma byteAt_append {bytes : ByteView} {before rest : Text} {ch : UInt8}
    (h : bytes.bytes = before ++ ch :: rest) : bytes.byteAt before.length = .ok ch := by
  have hget : bytes.bytes[before.length]? = some ch := by
    rw [h, List.getElem?_append_right (Nat.le_refl _), Nat.sub_self]
    rfl
  rw [ByteView.byteAt, hget]

/-- The line feed behind a line. -/
lemma findLf_append {bytes : ByteView} {line after : Text} (hline : charLf ∉ line)
    {before : Text} (hbytes : bytes.bytes = before ++ (line ++ charLf :: after)) {remaining : ℕ}
    (hremaining : line.length < remaining) :
    findLf bytes remaining before.length = .ok (some (before.length + line.length)) := by
  obtain ⟨rest, rfl⟩ := Nat.exists_eq_succ_of_ne_zero (Nat.ne_zero_of_lt hremaining)
  induction line generalizing before rest with
  | nil =>
    have hat : bytes.byteAt before.length = .ok charLf := byteAt_append hbytes
    rw [findLf, hat]
    rfl
  | cons ch line ih =>
    rw [List.mem_cons, not_or] at hline
    rw [List.length_cons] at hremaining
    obtain ⟨rest, rfl⟩ := Nat.exists_eq_succ_of_ne_zero (Nat.ne_zero_of_lt
      (Nat.lt_of_succ_lt_succ hremaining))
    have hat : bytes.byteAt before.length = .ok ch := byteAt_append hbytes
    have hbehind : bytes.bytes = (before ++ [ch]) ++ (line ++ charLf :: after) := by
      rw [hbytes, List.append_assoc]
      rfl
    have hnext := ih hline.2 hbehind rest (Nat.lt_of_succ_lt_succ hremaining)
    rw [List.length_append, List.length_singleton] at hnext
    rw [findLf, hat]
    show (if ch ≠ charLf then findLf bytes (rest + 1) (before.length + 1) else _) = _
    rw [if_pos (Ne.symm hline.1), hnext, List.length_cons, Nat.add_right_comm, Nat.add_assoc]

lemma lineEndBefore_satisfies (bytes : ByteView) {first lf : ℕ} (hfirst : first ≤ lf)
    (hlf : lf < bytes.size) :
    Satisfies (lineEndBefore bytes first lf) fun lineEnd => first ≤ lineEnd ∧ lineEnd ≤ lf := by
  unfold lineEndBefore
  refine satisfies_ite (fun hlt => ?_) fun _ => satisfies_ok ⟨hfirst, Nat.le_refl _⟩
  refine Satisfies.bind ⟨_, ByteView.byteAt_eq (by omega), rfl⟩ fun last _ => ?_
  refine satisfies_ok ?_
  split_ifs
  · omega
  · omega

/-- A line that is read is inside the bytes, and the cursor moves. -/
lemma nextLfByteLine_satisfies (bytes : ByteView) (cursor : ℕ) :
    Satisfies (nextLfByteLine bytes cursor) fun read =>
      ∀ line behind, read = some (line, behind) →
        line.Inside bytes ∧ cursor < behind ∧ behind ≤ bytes.size := by
  unfold nextLfByteLine
  refine satisfies_ite (fun _ => satisfies_ok fun _ _ hread => nomatch hread) fun hcursor => ?_
  refine Satisfies.bind (findLf_satisfies bytes _ (by omega)) fun found hfound => ?_
  rcases found with _ | lf
  · exact satisfies_ok fun _ _ hread => nomatch hread
  have hlf := hfound lf rfl
  have hword := bytes.size_lt
  refine Satisfies.bind ⟨_, add_eq (by omega), rfl⟩ fun behind hbehind => ?_
  refine Satisfies.bind (lineEndBefore_satisfies bytes hlf.1 (by omega)) fun lineEnd hlineEnd => ?_
  refine Satisfies.bind ⟨_, sub_eq hlineEnd.1, rfl⟩ fun length hlength => ?_
  refine Satisfies.bind (ByteView.copyRange_satisfies (by omega)) fun line hline => ?_
  refine satisfies_ok fun other after hread => ?_
  obtain ⟨rfl, rfl⟩ := Prod.mk.inj (Option.some.inj hread)
  exact ⟨hline.1, by omega, by omega⟩

/-- Reading back a line. -/
lemma nextLfByteLine_append {bytes : ByteView} {before line after : Text} (hline : charLf ∉ line)
    (hcr : line.getLast? ≠ some charCr)
    (hbytes : bytes.bytes = before ++ (line ++ charLf :: after)) :
    nextLfByteLine bytes before.length =
      .ok (some (⟨before.length, line⟩, before.length + line.length + 1)) := by
  have hsize : bytes.size = before.length + (line.length + (after.length + 1)) := by
    rw [ByteView.size, hbytes, List.length_append, List.length_append, List.length_cons]
  have hword := bytes.size_lt
  have hend : lineEndBefore bytes before.length (before.length + line.length) =
      .ok (before.length + line.length) := by
    rw [lineEndBefore]
    split_ifs with hlt
    · have hget : bytes.bytes[before.length + line.length - 1]? = line.getLast? := by
        rw [hbytes, List.getElem?_append_right (by omega), List.getLast?_eq_getElem?,
          List.getElem?_append_left (by omega)]
        congr 1
        omega
      have hlast : ∃ last, line.getLast? = some last := by
        rw [List.getLast?_eq_getElem?]
        exact ⟨_, List.getElem?_eq_getElem (by omega)⟩
      obtain ⟨last, hlast⟩ := hlast
      rw [ByteView.byteAt, hget, hlast]
      show Except.ok (if last = charCr then _ else _) = _
      rw [if_neg fun h : last = charCr => hcr (hlast.trans (congrArg some h))]
    · rfl
  have hcopy : bytes.copyRange before.length line.length = .ok ⟨before.length, line⟩ := by
    rw [ByteView.copyRange, ByteView.slice_eq (by omega), hbytes, List.drop_left, List.take_left]
    rfl
  rw [nextLfByteLine, if_neg (by omega), findLf_append hline hbytes (by omega)]
  simp only [bind, Except.bind, hend]
  rw [add_eq (by omega), sub_eq (by omega), Nat.add_sub_cancel_left]
  dsimp only
  rw [hcopy]
  rfl

/-! ## File headers -/

lemma mem_unsignedText {value : ℕ} {ch : UInt8} (h : ch ∈ unsignedText value) :
    ∃ digit < 10, ch = UInt8.ofNat (48 + digit) := by
  rw [unsignedText] at h
  split_ifs at h with hzero
  · exact ⟨0, by decide, List.mem_singleton.1 h⟩
  · obtain ⟨digit, hdigit, rfl⟩ := List.mem_map.1 (List.mem_reverse.1 h)
    exact ⟨digit, Nat.digits_lt_base (by decide) hdigit, rfl⟩

lemma digitCharacter {digit : ℕ} (h : digit < 10) :
    (UInt8.ofNat (48 + digit)).toNat = 48 + digit := by
  rw [UInt8.toNat_ofNat']
  omega

lemma unsignedText_ne_nil (value : ℕ) : unsignedText value ≠ [] := by
  rw [unsignedText]
  split_ifs with hzero
  · decide
  · intro h
    rw [List.reverse_eq_nil_iff, List.map_eq_nil_iff, Nat.digits_eq_nil_iff_eq_zero] at h
    exact hzero h

/-- A digit is no separator and no control character. -/
lemma digit_ordinary {value : ℕ} {ch : UInt8} (h : ch ∈ unsignedText value) :
    ch ≠ charSpace ∧ ch ≠ charLf ∧ ch ≠ charCr := by
  obtain ⟨digit, hdigit, rfl⟩ := mem_unsignedText h
  have hvalue := digitCharacter hdigit
  refine ⟨fun heq => ?_, fun heq => ?_, fun heq => ?_⟩ <;>
  · have hsame := congrArg UInt8.toNat heq
    rw [hvalue] at hsame
    revert hsame
    simp [charSpace, charLf, charCr]
    omega

lemma parseU64_unsignedText {value : ℕ} (h : value < 2 ^ 64) :
    parseU64 (unsignedText value) = some value := by
  have hdigits : ¬(unsignedText value = [] ∨ ∃ ch ∈ unsignedText value, ch < 48 ∨ 57 < ch) := by
    rintro (hnil | ⟨ch, hch, hrange⟩)
    · exact unsignedText_ne_nil value hnil
    · obtain ⟨digit, hdigit, rfl⟩ := mem_unsignedText hch
      have hvalue := digitCharacter hdigit
      rw [UInt8.lt_iff_toNat_lt, UInt8.lt_iff_toNat_lt, hvalue] at hrange
      rcases hrange with hlow | hhigh
      · exact absurd hlow (by show ¬48 + digit < 48; omega)
      · exact absurd hhigh (by show ¬57 < 48 + digit; omega)
  have hofDigits : Nat.ofDigits 10 ((unsignedText value).reverse.map fun ch => ch.toNat - 48) =
      value := by
    rw [unsignedText]
    split_ifs with hzero
    · rw [hzero]
      decide
    · rw [List.reverse_reverse, List.map_map]
      have hmap : (Nat.digits 10 value).map
          ((fun ch : UInt8 => ch.toNat - 48) ∘ fun digit => UInt8.ofNat (48 + digit)) =
          Nat.digits 10 value := by
        conv_rhs => rw [← List.map_id (Nat.digits 10 value)]
        refine List.map_congr_left fun digit hdigit => ?_
        show (UInt8.ofNat (48 + digit)).toNat - 48 = digit
        rw [digitCharacter (Nat.digits_lt_base (by decide) hdigit), Nat.add_sub_cancel_left]
      rw [hmap, Nat.ofDigits_digits]
  rw [parseU64, if_neg hdigits]
  dsimp only
  rw [hofDigits, if_pos h]

/-- The header line of a file. -/
def fileHeaderLine (pathText : Text) (byteCount : ℕ) : Text :=
  archiveFileHeaderPrefix ++ (pathText ++ charSpace :: unsignedText byteCount)

/-- The name may hold spaces: the size is behind the last one. -/
lemma parseFileHeader_fileHeaderLine {pathText : Text} {byteCount : ℕ}
    (hsafe : isSafeArchiveRelativePath pathText = true) (hcount : byteCount < 2 ^ 64) :
    parseFileHeader (fileHeaderLine pathText byteCount) = some (pathText, byteCount) := by
  have hnonempty : pathText ≠ [] := by
    rintro rfl
    exact absurd hsafe (by decide)
  have hpath : 0 < pathText.length := List.length_pos_iff.2 hnonempty
  have hsize : 0 < (unsignedText byteCount).length :=
    List.length_pos_iff.2 (unsignedText_ne_nil byteCount)
  have hspace : charSpace ∉ unsignedText byteCount := fun h => (digit_ordinary h).1 rfl
  have hlength : (pathText ++ charSpace :: unsignedText byteCount).length =
      pathText.length + ((unsignedText byteCount).length + 1) := by
    rw [List.length_append, List.length_cons]
  have hdrop : (pathText ++ charSpace :: unsignedText byteCount).drop (pathText.length + 1) =
      unsignedText byteCount := by
    rw [← List.drop_drop, List.drop_left]
    rfl
  rw [parseFileHeader, fileHeaderLine, if_neg]
  · dsimp only
    rw [List.drop_left, List.lastIndexBelow_append pathText hspace]
    dsimp only
    rw [if_neg (by omega), hdrop, parseU64_unsignedText hcount]
    dsimp only
    rw [List.take_left, if_pos hsafe]
  · rw [List.take_left, not_or, List.length_append, hlength]
    exact ⟨by omega, not_not.2 rfl⟩

/-- A header that is accepted names a safe path. -/
lemma isSafe_of_parseFileHeader {line relativePath : Text} {fileSize : ℕ}
    (h : parseFileHeader line = some (relativePath, fileSize)) :
    isSafeArchiveRelativePath relativePath = true := by
  rw [parseFileHeader] at h
  split_ifs at h
  dsimp only at h
  split at h
  · cases h
  · split_ifs at h with hsize hsafe
    · split at h
      · cases h
      · rw [← (Prod.mk.inj (Option.some.inj h)).1]
        exact hsafe
    · split at h
      · cases h
      · cases h

lemma charLf_notMem_fileHeaderLine {pathText : Text} {byteCount : ℕ}
    (hsafe : isSafeArchiveRelativePath pathText = true) :
    charLf ∉ fileHeaderLine pathText byteCount := by
  intro h
  rcases List.mem_append.1 h with hpre | h
  · exact absurd hpre (by decide)
  rcases List.mem_append.1 h with hpath | h
  · exact ((isSafeArchiveRelativePath_iff.1 hsafe).1 charLf hpath).1 (by decide)
  rcases List.mem_cons.1 h with hspace | hsize
  · exact absurd hspace (by decide)
  · exact (digit_ordinary hsize).2.1 rfl

lemma getLast?_fileHeaderLine (pathText : Text) (byteCount : ℕ) :
    (fileHeaderLine pathText byteCount).getLast? ≠ some charCr := by
  have hlast : (fileHeaderLine pathText byteCount).getLast? =
      (unsignedText byteCount).getLast? := by
    rw [fileHeaderLine, ← List.append_assoc, List.append_cons,
      List.getLast?_append_of_ne_nil _ (unsignedText_ne_nil byteCount)]
  rw [hlast]
  intro h
  exact (digit_ordinary (List.mem_of_getLast? h)).2.2 rfl

end NwbLot.Crash
