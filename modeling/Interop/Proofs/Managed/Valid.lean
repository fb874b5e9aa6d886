import Interop.Managed.Cursor
import Interop.Managed.Model

namespace Interop.Managed

open Layout

theorem Model.getElem?_get {a : Model} (ha : a.WellFormed) {i : Int32} (hi : a.shows i) :
    a.units[i.toInt.toNat]? = some (a.get i) := by
  have hl : i.toInt.toNat < a.units.length := by
    obtain ⟨h0, h1⟩ := hi
    rw [Model.WellFormed] at ha
    omega
  rw [Model.get, if_pos hi, List.getD_eq_getElem?_getD]
  change _ = some (a.units[i.toInt.toNat]?.getD 0)
  rw [List.getElem?_eq_getElem hl, Option.getD_some]

namespace Image

/-- What holds of an image from its creation on. Its owner may lower the header's length, and may
make it negative, but never puts it above the units that there are. -/
structure Valid (m : Image) : Prop where
  fits : m.Fits
  count_le : m.count ≤ maxLength
  length_le : m.length.toInt ≤ m.count

variable {m : Image} {tag : UInt64} {units : List UInt16}

theorem length_units_model (m : Image) : m.model.units.length = m.count := by
  simp [model]

theorem Valid.wellFormed (h : m.Valid) : m.model.WellFormed := by
  rw [Model.WellFormed, length_units_model]
  exact h.length_le

theorem ofUnits_of_le (tag : UInt64) (h : units.length ≤ maxLength) :
    ofUnits tag units = .ok (build tag units) := by
  rw [ofUnits, checkCount, if_pos h]
  rfl

theorem ofUnits_of_lt (tag : UInt64) (h : maxLength < units.length) :
    ofUnits tag units = .error ⟨units.length⟩ := by
  rw [ofUnits, checkCount, if_neg (Nat.not_le.2 h)]
  rfl

theorem toInt_length_build (tag : UInt64) (h : units.length ≤ maxLength) :
    (build tag units).length.toInt = units.length := by
  rw [length_build tag units h]
  exact Int32.toInt_ofNat_of_lt (Nat.lt_succ_of_le h)

theorem valid_build (tag : UInt64) (h : units.length ≤ maxLength) : (build tag units).Valid where
  fits := fits_build tag units
  count_le := h
  length_le := Int.le_of_eq (toInt_length_build tag h)

theorem set_eq (m : Image) (i : Int32) (u : UInt16) :
    (m.set i u).value = if m.model.shows i then m.putUnit i.toNatClampNeg u else m := by
  rw [set, checkIndex_eq]
  by_cases hs : m.model.shows i
  · simp [hs]
  · simp [hs]

/-- A call either passes the image on or changes one unit of it. -/
theorem set_induction {p : Image → Prop} (i : Int32) (u : UInt16) (skipped : p m)
    (stored : ∀ k, p (m.putUnit k u)) : p (m.set i u).value := by
  rw [set_eq]
  split
  · exact stored _
  · exact skipped

theorem count_set (m : Image) (i : Int32) (u : UInt16) : (m.set i u).value.count = m.count :=
  set_induction (p := fun n => n.count = m.count) i u rfl fun _ => rfl

theorem length_set (m : Image) (i : Int32) (u : UInt16) : (m.set i u).value.length = m.length :=
  set_induction (p := fun n => n.length = m.length) i u rfl fun k => length_putUnit m k u

theorem tag_set (m : Image) (i : Int32) (u : UInt16) : (m.set i u).value.tag = m.tag :=
  set_induction (p := fun n => n.tag = m.tag) i u rfl fun k => tag_putUnit m k u

theorem Valid.set (h : m.Valid) (i : Int32) (u : UInt16) : (m.set i u).value.Valid where
  fits := set_induction (p := Fits) i u h.fits fun k => fits_putUnit h.fits k u
  count_le := by
    rw [count_set]
    exact h.count_le
  length_le := by
    rw [length_set, count_set]
    exact h.length_le

theorem count_setLength (m : Image) (length : Int32) : (m.setLength length).count = m.count := by
  rw [setLength]

theorem Valid.setLength (h : m.Valid) {length : Int32} (hl : length.toInt ≤ m.count) :
    (m.setLength length).Valid where
  fits := fits_setLength h.fits length
  count_le := by
    rw [count_setLength]
    exact h.count_le
  length_le := by
    rw [length_setLength h.fits, count_setLength]
    exact hl

theorem readBy_eq (m : Image) (path : ReadPath) (i : Int32) : m.readBy path i = m.get i := by
  cases path with
  | function | reader | writer | address => rfl

theorem value_writeBy (m : Image) (path : WritePath) (i : Int32) (u : UInt16) :
    (m.writeBy path i u).value = (m.set i u).value := by
  cases path with
  | function | writer | address => rfl

/-- What becomes of a fresh image by writes and by lengths that its owner puts into the header. -/
inductive Reachable (tag : UInt64) (units : List UInt16) : Image → Prop
  | fresh {m : Image} (h : ofUnits tag units = .ok m) : Reachable tag units m
  | set {m : Image} (h : Reachable tag units m) (path : WritePath) (i : Int32) (u : UInt16) :
      Reachable tag units (m.writeBy path i u).value
  | setLength {m : Image} (h : Reachable tag units m) (length : Int32)
      (hl : length.toInt ≤ units.length) : Reachable tag units (m.setLength length)

theorem Reachable.length_le (h : Reachable tag units m) : units.length ≤ maxLength := by
  induction h with
  | fresh h =>
      refine Nat.le_of_not_lt fun hn => ?_
      rw [ofUnits_of_lt tag hn] at h
      cases h
  | set h path i u ih => exact ih
  | setLength h length hl ih => exact ih

theorem Reachable.valid (h : Reachable tag units m) : m.Valid ∧ m.count = units.length := by
  induction h with
  | fresh h =>
      have hle : units.length ≤ maxLength := (Reachable.fresh h).length_le
      rw [ofUnits_of_le tag hle, Except.ok.injEq] at h
      subst h
      exact ⟨valid_build tag hle, rfl⟩
  | set h path i u ih =>
      rw [value_writeBy, count_set]
      exact ⟨ih.1.set i u, ih.2⟩
  | setLength h length hl ih =>
      rw [count_setLength]
      exact ⟨ih.1.setLength (ih.2 ▸ hl), ih.2⟩

theorem toInt_visible (m : Image) : (m.visible : Int) = max m.length.toInt 0 :=
  Int.toNat_eq_max m.length.toInt

theorem Valid.visible_le (h : m.Valid) : m.visible ≤ m.count := by
  have hv := m.toInt_visible
  have hl := h.length_le
  omega

theorem units_eq_range (m : Image) : m.units = (List.range m.visible).map m.unitAt := by
  rw [units, Cursor.rest, cursor, Cursor.remaining, Nat.sub_zero, ← List.range_eq_range']

theorem Valid.units_eq (h : m.Valid) : m.units = m.model.units.take m.visible := by
  rw [units_eq_range, model, ← List.map_take, List.take_range, Nat.min_eq_left h.visible_le]

end Image

namespace Cursor

def skip (c : Cursor) : Nat → Cursor
  | 0 => c
  | k + 1 => c.advance.2.skip k

theorem skip_eq {c : Cursor} (h : c.next ≤ c.stop) (k : Nat) :
    c.skip k = { c with next := min (c.next + k) c.stop } := by
  induction k generalizing c with
  | zero => simp [skip, Nat.min_eq_left h]
  | succ k ih =>
      by_cases hn : c.next < c.stop
      · rw [skip, advance, if_pos hn, ih (Nat.succ_le_of_lt hn)]
        simp [Nat.add_assoc, Nat.add_comm 1 k]
      · have hs : c.next = c.stop := Nat.le_antisymm h (Nat.le_of_not_lt hn)
        rw [skip, advance, if_neg hn, ih h]
        simp [hs]

theorem skip_cursor (m : Image) (k : Nat) :
    m.cursor.skip k = ⟨m, min k m.visible, m.visible⟩ := by
  rw [skip_eq (Nat.zero_le m.cursor.stop), Image.cursor, Nat.zero_add]

end Cursor

end Interop.Managed
