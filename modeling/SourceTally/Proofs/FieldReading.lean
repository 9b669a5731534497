import Mathlib.Algebra.Group.Nat.Defs
import Mathlib.Data.Nat.Basic
import SourceTally.Frame.Field

/-!
# Fields are read exactly

A field is read if the byte behind it is an address that is not past the end of the frame. What is
read is the number that is written there, and depends on no other byte.

## Main definitions

* `littleEndianBytes`: the bytes of a number, least significant first
* `Frame.HasAt`: bytes stand at an offset of a frame
* `Frame.write`: a frame with some of its bytes replaced

## Main statements

* `Span.fits_iff`: an access fits if its exact end is not past the end of the region
* `littleEndian_littleEndianBytes`, `littleEndianBytes_littleEndian`: a number and its bytes
  determine each other
* `Frame.read_eq`, `Frame.require_eq`: the two accesses in exact arithmetic
* `Frame.read_exact`: what is read, when, and from which bytes
-/

namespace SourceTally

namespace Span

theorem add?_eq_some_iff {a b c : UInt64} : add? a b = some c ↔ a.toNat + b.toNat = c.toNat := by
  have ha := a.toNat_lt
  have hb := b.toNat_lt
  have hc := c.toNat_lt
  have hsum := UInt64.toNat_add a b
  rw [add?]
  split
  · next hlt =>
    rw [UInt64.lt_iff_toNat_lt] at hlt
    simp only [reduceCtorEq, false_iff]
    omega
  · next hle =>
    rw [UInt64.lt_iff_toNat_lt] at hle
    rw [Option.some_inj, ← UInt64.toNat_inj]
    omega

theorem le_of_add?_eq_none {a b : UInt64} (h : add? a b = none) :
    2 ^ 64 ≤ a.toNat + b.toNat := by
  by_contra hlt
  have hsum : add? a b = some (a + b) := by
    rw [add?_eq_some_iff, UInt64.toNat_add, Nat.mod_eq_of_lt (by omega)]
  rw [hsum] at h
  cases h

/-- An access fits if its end, in exact arithmetic, is not past the end of the region. -/
theorem fits_iff {start stop offset width : UInt64} :
    fits start stop offset width ↔ start.toNat + offset.toNat + width.toNat ≤ stop.toNat := by
  have hstop := stop.toNat_lt
  cases hfirst : add? start offset with
  | none =>
    have hfar := le_of_add?_eq_none hfirst
    simp only [fits, hfirst, Option.bind_none, Bool.false_eq_true, false_iff]
    omega
  | some first =>
    rw [add?_eq_some_iff] at hfirst
    cases hlast : add? first width with
    | none =>
      have hfar := le_of_add?_eq_none hlast
      simp only [fits, add?_eq_some_iff.2 hfirst, Option.bind_some, hlast, Bool.false_eq_true,
        false_iff]
      omega
    | some last =>
      rw [add?_eq_some_iff] at hlast
      simp only [fits, add?_eq_some_iff.2 hfirst, Option.bind_some, add?_eq_some_iff.2 hlast,
        decide_eq_true_eq, UInt64.le_iff_toNat_le]
      omega

end Span

/-! ### Numbers and their bytes -/

/-- The lowest bytes of a number, least significant first. -/
def littleEndianBytes : Nat → Nat → List UInt8
  | 0, _ => []
  | width + 1, value => UInt8.ofNat value :: littleEndianBytes width (value / 256)

@[simp]
theorem length_littleEndianBytes (width value : Nat) :
    (littleEndianBytes width value).length = width := by
  induction width generalizing value with
  | zero => rfl
  | succ width ih => simp [littleEndianBytes, ih]

theorem two_pow_succ_bytes (width : Nat) : 2 ^ (8 * (width + 1)) = 256 * 2 ^ (8 * width) := by
  rw [Nat.mul_succ, Nat.pow_add, Nat.mul_comm]

theorem littleEndian_lt (bytes : List UInt8) : littleEndian bytes < 2 ^ (8 * bytes.length) := by
  induction bytes with
  | nil => decide
  | cons byte rest ih =>
    have hbyte := byte.toNat_lt
    rw [littleEndian, List.length_cons, two_pow_succ_bytes]
    omega

theorem littleEndian_littleEndianBytes {width value : Nat} (h : value < 2 ^ (8 * width)) :
    littleEndian (littleEndianBytes width value) = value := by
  induction width generalizing value with
  | zero =>
    have hzero : value = 0 := by simpa using h
    rw [hzero]
    rfl
  | succ width ih =>
    rw [two_pow_succ_bytes] at h
    have hrest : value / 256 < 2 ^ (8 * width) := Nat.div_lt_of_lt_mul h
    rw [littleEndianBytes, littleEndian, ih hrest, UInt8.toNat_ofNat']
    omega

theorem littleEndianBytes_littleEndian (bytes : List UInt8) :
    littleEndianBytes bytes.length (littleEndian bytes) = bytes := by
  induction bytes with
  | nil => rfl
  | cons byte rest ih =>
    have hbyte := byte.toNat_lt
    have hlow : UInt8.ofNat (byte.toNat + 256 * littleEndian rest) = byte := by
      rw [← UInt8.toNat_inj, UInt8.toNat_ofNat']
      omega
    have hhigh : (byte.toNat + 256 * littleEndian rest) / 256 = littleEndian rest := by omega
    rw [List.length_cons, littleEndian, littleEndianBytes, hlow, hhigh, ih]

theorem Width.toNat_bytes (width : Width) : width.bytes.toUInt64.toNat = width.bytes := by
  cases width <;> rfl

theorem Width.bytes_pos (width : Width) : 0 < width.bytes := by
  cases width <;> decide

namespace Frame

/-! ### The two accesses -/

theorem toNat_extent (frame : Frame) : frame.extent.toNat = min frame.length lastAddress := by
  unfold extent UInt64.ofNatClamp
  split
  · next h =>
    rw [UInt64.toNat_ofNatLT]
    simp only [UInt64.size, lastAddress] at h ⊢
    omega
  · next h =>
    rw [UInt64.toNat_ofNatLT]
    simp only [UInt64.size, lastAddress] at h ⊢
    omega

/-- A field is read if it ends inside the frame, at an address. -/
theorem read_eq (frame : Frame) (field : Field) :
    frame.read field =
      if field.offset.toNat + field.width.bytes < 2 ^ 64 ∧
          field.offset.toNat + field.width.bytes ≤ frame.length then
        .ok (littleEndian ((frame.drop field.offset.toNat).take field.width.bytes))
      else
        .error ⟨min (field.offset.toNat + field.width.bytes) (2 ^ 64 - 1), frame.length⟩ := by
  have hfits : Span.fits 0 frame.extent field.offset field.width.bytes.toUInt64 ↔
      field.offset.toNat + field.width.bytes < 2 ^ 64 ∧
        field.offset.toNat + field.width.bytes ≤ frame.length := by
    rw [Span.fits_iff, toNat_extent, Width.toNat_bytes, UInt64.toNat_zero, lastAddress,
      UInt64.size]
    omega
  simp only [read, hfits]
  rfl

theorem require_eq (frame : Frame) (len : UInt64) :
    frame.require len =
      if len.toNat ≤ frame.length then .ok () else .error ⟨len.toNat, frame.length⟩ := by
  have hlen := len.toNat_lt
  have hfits : Span.fits 0 frame.extent 0 len ↔ len.toNat ≤ frame.length := by
    rw [Span.fits_iff, toNat_extent, UInt64.toNat_zero, lastAddress, UInt64.size]
    omega
  simp only [require, hfits]

/-! ### Bytes in their places -/

/-- The bytes stand at an offset of the frame. -/
def HasAt (frame : Frame) (offset : Nat) (bytes : List UInt8) : Prop :=
  ∃ before after, frame = before ++ bytes ++ after ∧ before.length = offset

/-- The frame with the bytes from an offset on replaced by others. -/
def write (frame : Frame) (offset : Nat) (bytes : List UInt8) : Frame :=
  frame.take offset ++ bytes ++ frame.drop (offset + bytes.length)

variable {frame other : Frame} {offset width : Nat}

theorem hasAt_slice (h : offset + width ≤ frame.length) :
    frame.HasAt offset ((frame.drop offset).take width) := by
  refine ⟨frame.take offset, frame.drop (offset + width), ?_, ?_⟩
  · rw [List.append_assoc, ← List.drop_drop, List.take_append_drop, List.take_append_drop]
  · rw [List.length_take]
    omega

theorem length_slice (h : offset + width ≤ frame.length) :
    ((frame.drop offset).take width).length = width := by
  rw [List.length_take, List.length_drop]
  omega

/-- Frames that agree on the bytes of an access have the same bytes there. -/
theorem slice_congr
    (h : ∀ i, offset ≤ i → i < offset + width → other[i]? = frame[i]?) :
    (other.drop offset).take width = (frame.drop offset).take width := by
  ext1 i
  rw [List.getElem?_take, List.getElem?_take]
  split
  · next hi =>
    rw [List.getElem?_drop, List.getElem?_drop]
    exact h (offset + i) (by omega) (by omega)
  · rfl

/-- A frame that has the last byte of an access in common with a frame that is long enough is long
enough itself. -/
theorem le_length_of_agree (hpos : 0 < width) (hle : offset + width ≤ frame.length)
    (h : ∀ i, offset ≤ i → i < offset + width → other[i]? = frame[i]?) :
    offset + width ≤ other.length := by
  have hlast := h (offset + width - 1) (by omega) (by omega)
  have hsome : other[offset + width - 1]?.isSome := by
    rw [hlast]
    simpa using (by omega : offset + width - 1 < frame.length)
  have hlt : offset + width - 1 < other.length := by simpa using hsome
  omega

theorem length_write {bytes : List UInt8} (h : offset + bytes.length ≤ frame.length) :
    (frame.write offset bytes).length = frame.length := by
  simp only [write, List.length_append, List.length_take, List.length_drop]
  omega

theorem slice_write {bytes : List UInt8} (h : offset + bytes.length ≤ frame.length) :
    ((frame.write offset bytes).drop offset).take bytes.length = bytes := by
  have hbefore : (frame.take offset).length = offset := by
    rw [List.length_take]
    omega
  rw [write, List.append_assoc, List.drop_left' hbefore, List.take_left]

/-! ### Reading -/

variable {field : Field} {value : Nat}

theorem read_eq_ok_iff : frame.read field = .ok value ↔
    (field.offset.toNat + field.width.bytes < 2 ^ 64 ∧
        field.offset.toNat + field.width.bytes ≤ frame.length) ∧
      littleEndian ((frame.drop field.offset.toNat).take field.width.bytes) = value := by
  rw [read_eq]
  split
  · next hin => exact ⟨fun hread => ⟨hin, Except.ok.inj hread⟩, fun hread => congrArg _ hread.2⟩
  · next hout => exact ⟨nofun, fun hread => absurd hread.1 hout⟩

/-- What is read depends on the bytes of the field only. -/
theorem read_eq_ok_of_agree (hread : frame.read field = .ok value)
    (h : ∀ i, field.offset.toNat ≤ i → i < field.offset.toNat + field.width.bytes →
      other[i]? = frame[i]?) : other.read field = .ok value := by
  rw [read_eq_ok_iff] at hread ⊢
  obtain ⟨⟨haddress, hle⟩, hvalue⟩ := hread
  rw [slice_congr h]
  exact ⟨⟨haddress, le_length_of_agree field.width.bytes_pos hle h⟩, hvalue⟩

/-- Asking for the bytes up to the end of a field is asking whether the field can be read. -/
theorem require_eq_map_read {len : UInt64}
    (hlen : len.toNat = field.offset.toNat + field.width.bytes) :
    frame.require len = (frame.read field).map fun _ => () := by
  have haddress := len.toNat_lt
  rw [require_eq, read_eq, hlen]
  by_cases hle : field.offset.toNat + field.width.bytes ≤ frame.length
  · rw [if_pos hle, if_pos ⟨by omega, hle⟩]
    rfl
  · rw [if_neg hle, if_neg fun hin => hle hin.2, Nat.min_eq_left (by omega)]
    rfl

/-- What has been written can be read. -/
theorem read_write (haddress : field.offset.toNat + field.width.bytes < 2 ^ 64)
    (hle : field.offset.toNat + field.width.bytes ≤ frame.length)
    (hvalue : value < 2 ^ (8 * field.width.bytes)) :
    (frame.write field.offset.toNat (littleEndianBytes field.width.bytes value)).read field =
      .ok value := by
  have hlength := length_littleEndianBytes field.width.bytes value
  have hslice := slice_write (hlength.symm ▸ hle)
  rw [hlength] at hslice
  rw [read_eq_ok_iff, length_write (hlength.symm ▸ hle), hslice]
  exact ⟨⟨haddress, hle⟩, littleEndian_littleEndianBytes hvalue⟩

/-- A field is read exactly if it ends inside the frame, at an address. Then its bytes are in the
frame, and what is read is the one number of its width that has these bytes, whatever the rest of
the frame is. Otherwise the answer says how long the frame would have to be. Asking for as many
bytes as the field needs gives the same verdict, and what is written at the field is read back. -/
theorem read_exact (frame : Frame) (field : Field) :
    let offset := field.offset.toNat
    let width := field.width.bytes
    let slice := (frame.drop offset).take width
    ((∃ value, frame.read field = .ok value) ↔
      offset + width < 2 ^ 64 ∧ offset + width ≤ frame.length) ∧
    (∀ value, frame.read field = .ok value →
      frame.HasAt offset slice ∧ slice.length = width ∧
      value < 2 ^ (8 * width) ∧ littleEndianBytes width value = slice ∧
      (∀ rival < 2 ^ (8 * width), littleEndianBytes width rival = slice → rival = value) ∧
      ∀ other : Frame, (∀ i, offset ≤ i → i < offset + width → other[i]? = frame[i]?) →
        other.read field = .ok value) ∧
    (∀ shortage, frame.read field = .error shortage →
      shortage = ⟨min (offset + width) (2 ^ 64 - 1), frame.length⟩) ∧
    (∀ len : UInt64, frame.require len =
      if len.toNat ≤ frame.length then .ok () else .error ⟨len.toNat, frame.length⟩) ∧
    (∀ len : UInt64, len.toNat = offset + width →
      frame.require len = (frame.read field).map fun _ => ()) ∧
    (offset + width < 2 ^ 64 → offset + width ≤ frame.length → ∀ value < 2 ^ (8 * width),
      (frame.write offset (littleEndianBytes width value)).read field = .ok value) := by
  intro offset width slice
  refine ⟨?_, ?_, ?_, frame.require_eq, fun len => require_eq_map_read, ?_⟩
  · simp only [read_eq_ok_iff, exists_and_left, exists_eq', and_true]
    rfl
  · intro value hread
    obtain ⟨⟨-, hle⟩, hvalue⟩ := read_eq_ok_iff.1 hread
    have hlength : slice.length = width := length_slice hle
    have hbytes := littleEndianBytes_littleEndian slice
    have hlt := littleEndian_lt slice
    rw [hlength, show littleEndian slice = value from hvalue] at hbytes hlt
    refine ⟨hasAt_slice hle, hlength, hlt, hbytes, ?_, fun other => read_eq_ok_of_agree hread⟩
    intro rival hrival hsame
    rw [← littleEndian_littleEndianBytes hrival, hsame]
    exact hvalue
  · intro shortage hread
    rw [read_eq] at hread
    split at hread
    · cases hread
    · exact (Except.error.inj hread).symm
  · intro haddress hle value hvalue
    exact read_write haddress hle hvalue

end Frame

end SourceTally
