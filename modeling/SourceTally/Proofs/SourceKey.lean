import SourceTally.Address
import SourceTally.Proofs.FieldReading

/-!
# The key of a source

The key of a source is made in three places: from the bytes of a frame, from a known host, and back
into an address for a report. They agree on the order of the bytes, so an address, its key and the
four bytes in a frame stand for each other.

## Main definitions

* `Frame.source?`: the source address of a frame that is long enough to have one

## Main statements

* `Address.ofKey_key`, `Address.key_ofKey`: an address and its key determine each other
* `Frame.sourceKey_eq`: the key that is read from a frame is that of its source address
-/

namespace SourceTally

namespace Address

theorem toNat_key (addr : Address) :
    addr.key.toNat = littleEndian [addr.first, addr.second, addr.third, addr.fourth] := by
  obtain ⟨a, b, c, d⟩ := addr
  have ha := a.toNat_lt
  have hb := b.toNat_lt
  have hc := c.toNat_lt
  have hd := d.toNat_lt
  -- the octets do not overlap, so joining them is adding them
  have hab : a.toNat ||| b.toNat <<< 8 = a.toNat + 256 * b.toNat := by
    rw [Nat.or_comm, ← Nat.shiftLeft_add_eq_or_of_lt ha, Nat.shiftLeft_eq]
    omega
  have habc : (a.toNat + 256 * b.toNat) ||| c.toNat <<< 16 =
      a.toNat + 256 * b.toNat + 65536 * c.toNat := by
    rw [Nat.or_comm, ← Nat.shiftLeft_add_eq_or_of_lt (by omega), Nat.shiftLeft_eq]
    omega
  have habcd : (a.toNat + 256 * b.toNat + 65536 * c.toNat) ||| d.toNat <<< 24 =
      a.toNat + 256 * b.toNat + 65536 * c.toNat + 16777216 * d.toNat := by
    rw [Nat.or_comm, ← Nat.shiftLeft_add_eq_or_of_lt (by omega), Nat.shiftLeft_eq]
    omega
  have hb8 : (b.toUInt32 <<< 8).toNat = b.toNat <<< 8 := by
    simp [Nat.shiftLeft_eq]
    omega
  have hc16 : (c.toUInt32 <<< 16).toNat = c.toNat <<< 16 := by
    simp [Nat.shiftLeft_eq]
    omega
  have hd24 : (d.toUInt32 <<< 24).toNat = d.toNat <<< 24 := by
    simp [Nat.shiftLeft_eq]
    omega
  simp only [key, UInt32.toNat_or, UInt8.toNat_toUInt32, hb8, hc16, hd24, hab, habc, habcd,
    littleEndian]
  omega

theorem ofKey_key (addr : Address) : ofKey addr.key = addr := by
  have hkey := addr.toNat_key
  obtain ⟨a, b, c, d⟩ := addr
  have ha := a.toNat_lt
  have hb := b.toNat_lt
  have hc := c.toNat_lt
  have hd := d.toNat_lt
  simp only [littleEndian] at hkey
  simp only [ofKey, Address.mk.injEq, ← UInt8.toNat_inj, UInt32.toNat_toUInt8,
    UInt32.toNat_shiftRight, UInt32.reduceToNat, Nat.reduceMod, Nat.shiftRight_eq_div_pow]
  omega

theorem key_ofKey (key : UInt32) : (ofKey key).key = key := by
  have hlt := key.toNat_lt
  rw [← UInt32.toNat_inj, toNat_key]
  simp only [ofKey, littleEndian, UInt32.toNat_toUInt8, UInt32.toNat_shiftRight,
    UInt32.reduceToNat, Nat.reduceMod, Nat.shiftRight_eq_div_pow]
  omega

theorem key_inj {a b : Address} : a.key = b.key ↔ a = b :=
  ⟨fun h => by rw [← ofKey_key a, h, ofKey_key], congrArg key⟩

end Address

namespace Frame

/-- The source address of a frame: its bytes 26 to 29, if it has 30 bytes or more. -/
def source? (frame : Frame) : Option Address :=
  if h : 30 ≤ frame.length then some ⟨frame[26], frame[27], frame[28], frame[29]⟩ else none

theorem source?_eq_none_iff {frame : Frame} : frame.source? = none ↔ frame.length < 30 := by
  rw [source?]
  split
  · next h => simpa using h
  · next h => simpa using h

theorem fits_source (frame : Frame) :
    Span.fits 0 frame.extent Field.source.offset Field.source.width.bytes.toUInt64 =
      decide (30 ≤ frame.length) := by
  have hoffset : Field.source.offset.toNat = 26 := by decide
  have hwidth : Field.source.width.bytes.toUInt64.toNat = 4 := by decide
  rw [Bool.eq_iff_iff, decide_eq_true_eq, Span.fits_iff, toNat_extent, hoffset, hwidth,
    UInt64.toNat_zero, lastAddress, UInt64.size]
  omega

/-- The four bytes from offset 26 on. -/
theorem take_drop_source {frame : Frame} (h : 30 ≤ frame.length) :
    (frame.drop 26).take 4 = [frame[26], frame[27], frame[28], frame[29]] := by
  rw [List.drop_eq_getElem_cons (by omega), List.drop_eq_getElem_cons (by omega),
    List.drop_eq_getElem_cons (by omega), List.drop_eq_getElem_cons (by omega)]
  rfl

theorem sourceKey_eq (frame : Frame) :
    frame.sourceKey = match frame.source? with
      | some addr => .ok addr.key
      | none => .error ⟨30, frame.length⟩ := by
  have hoffset : Field.source.offset.toNat = 26 := by decide
  have hwidth : Field.source.width.bytes = 4 := rfl
  have hneeded : Field.source.needed = 30 := by decide
  by_cases h : 30 ≤ frame.length
  · have hvalue : (littleEndian [frame[26], frame[27], frame[28], frame[29]]).toUInt32 =
        Address.key ⟨frame[26], frame[27], frame[28], frame[29]⟩ := by
      rw [← Address.toNat_key ⟨frame[26], frame[27], frame[28], frame[29]⟩]
      exact UInt32.ofNat_toNat
    rw [sourceKey, read, fits_source, if_pos (decide_eq_true h), source?, dif_pos h, hoffset,
      hwidth, take_drop_source h]
    exact congrArg Except.ok hvalue
  · have hshort : ¬ decide (30 ≤ frame.length) = true := by simpa using h
    rw [sourceKey, read, fits_source, if_neg hshort, source?, dif_neg h, hneeded]
    rfl

end Frame

end SourceTally
