import Interop.Proofs.Sections.Resolution

namespace Interop.Sections

theorem toNat_add_ofNat {a : UInt64} {n : Nat} (h : a.toNat + n < UInt64.size) :
    (a + UInt64.ofNat n).toNat = a.toNat + n := by
  have hn : n < UInt64.size := by omega
  rw [UInt64.toNat_add, UInt64.toNat_ofNat_of_lt' hn]
  exact Nat.mod_eq_of_lt h

namespace Region

/-- The memory ends at an address, too. -/
def Fits (r : Region) : Prop := r.base.toNat + r.bytes.length < UInt64.size

instance (r : Region) : Decidable r.Fits := inferInstanceAs (Decidable (_ < _))

variable {r : Region} {first last : Nat}

theorem Fits.length_lt (h : r.Fits) : r.bytes.length < UInt64.size :=
  Nat.lt_of_le_of_lt (Nat.le_add_left _ _) h

theorem Fits.toNat_stop (h : r.Fits) : r.markers.stop.toNat = r.base.toNat + r.bytes.length :=
  toNat_add_ofNat h

theorem Fits.ordered (h : r.Fits) : r.markers.start ≤ r.markers.stop := by
  rw [UInt64.le_iff_toNat_le, h.toNat_stop]
  exact Nat.le_add_right _ _

theorem Fits.ofMarkers (h : r.Fits) :
    Extent.ofMarkers r.markers = .ok ⟨r.base, UInt64.ofNat r.bytes.length⟩ := by
  rw [Extent.ofMarkers_of_le h.ordered]
  simp [markers, UInt64.add_comm r.base]

theorem length_part (hl : last ≤ r.bytes.length) :
    (r.part first last).bytes.length = last - first := by
  simp only [part, List.length_take, List.length_drop]
  omega

theorem Fits.toNat_base_part (h : r.Fits) (hle : first ≤ last) (hl : last ≤ r.bytes.length) :
    (r.part first last).base.toNat = r.base.toNat + first := by
  unfold Fits at h
  exact toNat_add_ofNat (by omega)

theorem Fits.part (h : r.Fits) (hle : first ≤ last) (hl : last ≤ r.bytes.length) :
    (r.part first last).Fits := by
  have hbase := h.toNat_base_part hle hl
  unfold Fits at h
  rw [Fits, length_part hl, hbase]
  omega

theorem read_between {e : Extent} (hstart : e.start.toNat = r.base.toNat + first)
    (hsize : e.size.toNat = last - first) :
    r.read e = (r.bytes.drop first).take (last - first) := by
  have hle : r.base ≤ e.start := by
    rw [UInt64.le_iff_toNat_le, hstart]
    exact Nat.le_add_right _ _
  have hoffset : (e.start - r.base).toNat = first := by
    rw [UInt64.toNat_sub_of_le _ _ hle, hstart]
    omega
  rw [read, hoffset, Extent.length, hsize]

theorem Fits.read_whole (h : r.Fits) : r.read ⟨r.base, UInt64.ofNat r.bytes.length⟩ = r.bytes := by
  have hread : r.read ⟨r.base, UInt64.ofNat r.bytes.length⟩ =
      (r.bytes.drop 0).take (r.bytes.length - 0) :=
    read_between rfl (UInt64.toNat_ofNat_of_lt' h.length_lt)
  rw [hread, List.drop_zero, Nat.sub_zero, List.take_length]

end Region

end Interop.Sections
