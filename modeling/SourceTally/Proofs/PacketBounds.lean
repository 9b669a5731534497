import SourceTally.Proofs.FieldReading

/-!
# Exact and wrapped ends of an access

A reader of frames compares the exact end of an access with the end of the region. A packet program
compares the end as the addition of words gives it, which is the exact end less a multiple of
`2 ^ 64`. The two comparisons differ only for accesses that end past the last address, and a packet
that is checked where it lies in memory passes exactly if its bytes pass as a frame of their own.

## Main statements

* `Span.packetFits_iff`: a packet program compares the exact end, up to multiples of `2 ^ 64`
* `Span.packetFits_ne_fits_iff`: where the two comparisons differ
* `Span.fits_move`: a region can be moved to the first address
* `Span.checks_compared`: the two comparisons in exact arithmetic, and on a packet and its bytes
-/

namespace SourceTally.Span

variable {start stop offset width : UInt64}

theorem packetFits_iff : packetFits start stop offset width ↔
    (start.toNat + offset.toNat + width.toNat) % 2 ^ 64 ≤ stop.toNat := by
  have hend : (start + offset + width).toNat =
      (start.toNat + offset.toNat + width.toNat) % 2 ^ 64 := by
    rw [UInt64.toNat_add, UInt64.toNat_add, Nat.mod_add_mod]
  rw [packetFits, decide_eq_true_eq, UInt64.le_iff_toNat_le, hend]

theorem packetFits_of_fits (h : fits start stop offset width) :
    packetFits start stop offset width := by
  rw [packetFits_iff]
  exact Nat.le_trans (Nat.mod_le _ _) (fits_iff.1 h)

theorem packetFits_eq_fits (h : start.toNat + offset.toNat + width.toNat < 2 ^ 64) :
    packetFits start stop offset width = fits start stop offset width := by
  rw [Bool.eq_iff_iff, packetFits_iff, fits_iff, Nat.mod_eq_of_lt h]

/-- The comparisons differ for accesses that end past the last address, at an address that looks as
if it were inside the region. -/
theorem packetFits_ne_fits_iff :
    packetFits start stop offset width ≠ fits start stop offset width ↔
      2 ^ 64 ≤ start.toNat + offset.toNat + width.toNat ∧
        (start.toNat + offset.toNat + width.toNat) % 2 ^ 64 ≤ stop.toNat := by
  constructor
  · intro hne
    have hfar : 2 ^ 64 ≤ start.toNat + offset.toNat + width.toNat := by
      by_contra hnear
      exact hne (packetFits_eq_fits (by omega))
    refine ⟨hfar, packetFits_iff.1 ?_⟩
    by_contra hpacket
    have hfits : ¬ fits start stop offset width := fun hfits => hpacket (packetFits_of_fits hfits)
    rw [Bool.not_eq_true] at hpacket hfits
    exact hne (hpacket.trans hfits.symm)
  · rintro ⟨hfar, hpacket⟩ heq
    have hfits := fits_iff.1 (heq ▸ packetFits_iff.2 hpacket)
    have hstop := stop.toNat_lt
    omega

/-- Only the distance between the ends of a region counts. -/
theorem fits_move (h : start ≤ stop) :
    fits start stop offset width = fits 0 (stop - start) offset width := by
  have hle := UInt64.le_iff_toNat_le.1 h
  rw [Bool.eq_iff_iff, fits_iff, fits_iff, UInt64.toNat_sub_of_le _ _ h, UInt64.toNat_zero]
  omega

/-- A frame that is as long as a region has the region's extent. -/
theorem extent_of_length {frame : Frame} (h : frame.length = stop.toNat - start.toNat)
    (hle : start ≤ stop) : frame.extent = stop - start := by
  have hstop := stop.toNat_lt
  rw [← UInt64.toNat_inj, Frame.toNat_extent, UInt64.toNat_sub_of_le _ _ hle, h, lastAddress,
    UInt64.size]
  omega

/-- An access fits if its exact end is not past the end of the region, and passes a packet program's
check if that holds of its end modulo `2 ^ 64`. So what fits passes the check; the two agree on
accesses that end at an address, and differ exactly on those that do not but look as if they did. On
a packet whose bytes are taken as a frame, the packet program's check and the frame reader's give
the same answer for every access that ends at an address. -/
theorem checks_compared (start stop offset width : UInt64) :
    let last := start.toNat + offset.toNat + width.toNat
    (fits start stop offset width ↔ last ≤ stop.toNat) ∧
    (packetFits start stop offset width ↔ last % 2 ^ 64 ≤ stop.toNat) ∧
    (fits start stop offset width → packetFits start stop offset width) ∧
    (last < 2 ^ 64 → packetFits start stop offset width = fits start stop offset width) ∧
    (packetFits start stop offset width ≠ fits start stop offset width ↔
      2 ^ 64 ≤ last ∧ last % 2 ^ 64 ≤ stop.toNat) ∧
    (start ≤ stop → last < 2 ^ 64 → ∀ frame : Frame, frame.length = stop.toNat - start.toNat →
      packetFits start stop offset width = fits 0 frame.extent offset width ∧
      ∀ size : Width, size.bytes = width.toNat →
        (packetFits start stop offset width ↔ ∃ value, frame.read ⟨offset, size⟩ = .ok value)) := by
  intro last
  refine ⟨fits_iff, packetFits_iff, packetFits_of_fits, packetFits_eq_fits,
    packetFits_ne_fits_iff, ?_⟩
  intro hle hlast frame hlength
  have hsame : packetFits start stop offset width = fits 0 frame.extent offset width := by
    rw [packetFits_eq_fits hlast, fits_move hle, extent_of_length hlength hle]
  refine ⟨hsame, fun size hsize => ?_⟩
  have hle' := UInt64.le_iff_toNat_le.1 hle
  simp only [Frame.read_eq_ok_iff, exists_and_left, exists_eq', and_true, hsize, hlength]
  rw [packetFits_eq_fits hlast, fits_iff]
  omega

/-- Near the last address the sum of an access comes out small, and a packet program takes it for
one that fits; the same access to a packet of 30 bytes further down passes both checks. -/
theorem checks_compared_wrapped :
    let high : UInt64 := 0xfffffffffffffff0
    let low : UInt64 := 0x1000
    packetFits high (high + 15) 26 4 ≠ fits high (high + 15) 26 4 ∧
      packetFits low (low + 30) 26 4 = fits 0 (Frame.extent (List.replicate 30 0)) 26 4 ∧
      fits low (low + 30) 26 4 := by
  intro high low
  obtain ⟨-, -, -, -, hdiffer, -⟩ := checks_compared high (high + 15) 26 4
  obtain ⟨hfits, -, -, -, -, hframe⟩ := checks_compared low (low + 30) 26 4
  refine ⟨hdiffer.2 (by decide), ?_, hfits.2 (by decide)⟩
  exact (hframe (by decide) (by decide) (List.replicate 30 0) (by decide)).1

end SourceTally.Span
