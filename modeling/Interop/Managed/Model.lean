import Interop.Managed.Image

namespace Interop.Managed

open Layout

/-- A managed string without its memory. -/
structure Model where
  tag : UInt64
  length : Int32
  units : List UInt16
deriving DecidableEq, Repr

namespace Model

def bytes (m : Model) : List UInt8 :=
  LittleEndian.encode tagSize m.tag.toNat ++
    LittleEndian.encode lengthSize m.length.toUInt32.toNat ++
    m.units.flatMap fun u => LittleEndian.encode unitSize u.toNat

def shows (m : Model) (i : Int32) : Prop := 0 ≤ i.toInt ∧ i.toInt < m.length.toInt

instance (m : Model) (i : Int32) : Decidable (m.shows i) := by unfold shows; infer_instance

def get (m : Model) (i : Int32) : UInt16 := if m.shows i then m.units.getD i.toNatClampNeg 0 else 0

def set (m : Model) (i : Int32) (u : UInt16) : Model :=
  if m.shows i then { m with units := m.units.set i.toNatClampNeg u } else m

def setLength (m : Model) (length : Int32) : Model := { m with length }

/-- No header may show more units than there are. -/
def WellFormed (m : Model) : Prop := m.length.toInt ≤ m.units.length

end Model

namespace Image

/-- What the memory of an image says. -/
def model (m : Image) : Model := ⟨m.tag, m.length, (List.range m.count).map m.unitAt⟩

/-- The memory is as large as the units need. -/
def Fits (m : Image) : Prop := m.storage.size = 8 * blocks m.count

theorem Fits.occupied_le {m : Image} (h : m.Fits) : m.occupied ≤ m.storage.size :=
  h ▸ occupied_le_blocks m.count

theorem unit_encode (u : UInt16) : u.toNat % LittleEndian.span unitSize = u.toNat :=
  Nat.mod_eq_of_lt u.toNat_lt

theorem fits_putUnit {m : Image} (h : m.Fits) (i : Nat) (u : UInt16) : (m.putUnit i u).Fits := by
  rw [Fits, putUnit, Storage.store, Storage.size_write]
  exact h

theorem fits_setLength {m : Image} (h : m.Fits) (length : Int32) : (m.setLength length).Fits := by
  rw [Fits, setLength, Storage.store, Storage.size_write]
  exact h

theorem tag_putUnit (m : Image) (i : Nat) (u : UInt16) : (m.putUnit i u).tag = m.tag := by
  rw [tag, putUnit, Storage.load_store_disjoint _ _ _ _ _ _ (.inl _), tag]
  simp only [tagOffset, tagSize, unitOffset, unitsOffset]
  omega

theorem length_putUnit (m : Image) (i : Nat) (u : UInt16) : (m.putUnit i u).length = m.length := by
  rw [length, putUnit, Storage.load_store_disjoint _ _ _ _ _ _ (.inl _), length]
  simp only [lengthOffset, lengthSize, unitOffset, unitsOffset]
  omega

theorem unitAt_putUnit {m : Image} (h : m.Fits) {i : Nat} (hi : i < m.count) (u : UInt16)
    (j : Nat) :
    (m.putUnit i u).unitAt j = if j = i then u else m.unitAt j := by
  have ho := h.occupied_le
  simp only [occupied, Layout.occupied, unitsOffset, unitSize] at ho
  by_cases hj : j = i
  · subst hj
    rw [if_pos rfl, unitAt, putUnit, Storage.load_store, unit_encode, UInt16.ofNat_toNat]
    simp only [unitOffset, unitsOffset, unitSize]
    omega
  · rw [if_neg hj, unitAt, putUnit, Storage.load_store_disjoint, unitAt]
    simp only [unitOffset, unitsOffset, unitSize]
    omega

theorem tag_setLength (m : Image) (length : Int32) : (m.setLength length).tag = m.tag := by
  rw [tag, setLength, Storage.load_store_disjoint _ _ _ _ _ _ (.inl (by decide)), tag]

theorem length_setLength {m : Image} (h : m.Fits) (length : Int32) :
    (m.setLength length).length = length := by
  have ho := h.occupied_le
  simp only [occupied, Layout.occupied, unitsOffset] at ho
  rw [Image.length, setLength, Storage.load_store, Nat.mod_eq_of_lt, UInt32.ofNat_toNat,
    Int32.toInt32_toUInt32]
  · exact length.toUInt32.toNat_lt
  · simp only [lengthOffset, lengthSize]
    omega

theorem unitAt_setLength (m : Image) (length : Int32) (i : Nat) :
    (m.setLength length).unitAt i = m.unitAt i := by
  rw [unitAt, setLength, Storage.load_store_disjoint _ _ _ _ _ _ (.inr _), unitAt]
  simp only [lengthOffset, lengthSize, unitOffset, unitsOffset]
  omega

theorem model_putUnit {m : Image} (h : m.Fits) {i : Nat} (hi : i < m.count) (u : UInt16) :
    (m.putUnit i u).model = { m.model with units := m.model.units.set i u } := by
  have hu : (List.range m.count).map (m.putUnit i u).unitAt =
      ((List.range m.count).map m.unitAt).set i u := by
    apply List.ext_getElem
    · simp
    · intro j h₁ h₂
      simp [List.getElem_set, unitAt_putUnit h hi, eq_comm]
  simp only [model, tag_putUnit, length_putUnit]
  exact congrArg (Model.mk _ _) hu

theorem model_setLength {m : Image} (h : m.Fits) (length : Int32) :
    (m.setLength length).model = m.model.setLength length := by
  have hu : (m.setLength length).unitAt = m.unitAt := funext (unitAt_setLength m length)
  simp only [model, tag_setLength, length_setLength h, hu, Model.setLength]
  rfl

theorem take_drop_flatMap {α β : Type} (f : α → List β) (width : Nat)
    (hf : ∀ a, (f a).length = width) (l : List α) (i : Nat) (hi : i < l.length) :
    ((l.flatMap f).drop (width * i)).take width = f l[i] := by
  induction l generalizing i with
  | nil => simp at hi
  | cons a l ih =>
      cases i with
      | zero => simp [hf]
      | succ i =>
          have hw : width * (i + 1) = (f a).length + width * i := by rw [hf, Nat.mul_succ]; omega
          rw [List.flatMap_cons, hw, List.drop_length_add_append, ih i (by simpa using hi)]
          rfl

theorem length_encodeUnits (units : List UInt16) :
    (units.flatMap fun u => LittleEndian.encode unitSize u.toNat).length =
      unitSize * units.length := by
  induction units with
  | nil => rfl
  | cons u units ih =>
      rw [List.flatMap_cons, List.length_append, ih, LittleEndian.length_encode, List.length_cons,
        Nat.mul_succ, Nat.add_comm]

theorem fits_build (tag : UInt64) (units : List UInt16) : (build tag units).Fits := by
  simp only [Fits, build, Storage.store, Storage.size_write]
  simp [Storage.size, Storage.zeroed]

theorem unitAt_build (tag : UInt64) (units : List UInt16) (i : Nat) (hi : i < units.length) :
    (build tag units).unitAt i = units[i] := by
  have ho := (fits_build tag units).occupied_le
  have hl := length_encodeUnits units
  simp only [build, occupied, Layout.occupied, Storage.size_write] at ho
  rw [unitAt, Storage.load, build, unitOffset, Storage.slice_write_part]
  · rw [take_drop_flatMap _ unitSize (fun _ => LittleEndian.length_encode _ _) units i hi,
      LittleEndian.decode_encode, unit_encode, UInt16.ofNat_toNat]
  · rw [hl]
    simp only [unitSize]
    omega
  · rw [hl]
    exact ho

theorem tag_build (tag : UInt64) (units : List UInt16) : (build tag units).tag = tag := by
  have ho := (fits_build tag units).occupied_le
  simp only [build, occupied, Layout.occupied, unitsOffset, Storage.size_write, Storage.store] at ho
  rw [Image.tag, build, Storage.load, Storage.slice_write_disjoint _ _ _ _ _ (.inl (by decide)),
    ← Storage.load, Storage.load_store_disjoint _ _ _ _ _ _ (.inl (by decide)),
    Storage.load_store,
    show LittleEndian.span tagSize = 2 ^ 64 from rfl, Nat.mod_eq_of_lt tag.toNat_lt,
    UInt64.ofNat_toNat]
  simp only [tagOffset, tagSize]
  omega

theorem length_build (tag : UInt64) (units : List UInt16) (h : units.length ≤ maxLength) :
    (build tag units).length = Int32.ofNat units.length := by
  have ho := (fits_build tag units).occupied_le
  simp only [build, occupied, Layout.occupied, unitsOffset, Storage.size_write, Storage.store] at ho
  simp only [maxLength] at h
  rw [Image.length, build, Storage.load, Storage.slice_write_disjoint _ _ _ _ _ (.inl (by decide)),
    ← Storage.load, Storage.load_store, Nat.mod_eq_of_lt]
  · rfl
  · simp only [lengthSize, LittleEndian.span]
    omega
  · simp only [lengthOffset, lengthSize, Storage.store, Storage.size_write]
    omega

theorem model_build (tag : UInt64) (units : List UInt16) (h : units.length ≤ maxLength) :
    (build tag units).model = ⟨tag, Int32.ofNat units.length, units⟩ := by
  have hu : (List.range units.length).map (build tag units).unitAt = units := by
    apply List.ext_getElem
    · simp
    · intro i h₁ h₂
      simp [unitAt_build tag units i h₂]
  rw [model, tag_build, length_build tag units h]
  exact congrArg (Model.mk _ _) hu

/-- The bytes of an image are those of its tag, its length and its units, in this order. -/
theorem bytes_eq (m : Image) : m.bytes = m.model.bytes := by
  have ht : (UInt64.ofNat (m.storage.load tagOffset tagSize)).toNat =
      m.storage.load tagOffset tagSize :=
    UInt64.toNat_ofNat_of_lt (m.storage.load_lt tagOffset tagSize)
  have hn : (UInt32.ofNat (m.storage.load lengthOffset lengthSize)).toNat =
      m.storage.load lengthOffset lengthSize :=
    UInt32.toNat_ofNat_of_lt (m.storage.load_lt lengthOffset lengthSize)
  have hu (i : Nat) : LittleEndian.encode unitSize (m.unitAt i).toNat =
      m.storage.slice (unitOffset i) unitSize := by
    rw [unitAt, UInt16.toNat_ofNat_of_lt' (m.storage.load_lt (unitOffset i) unitSize),
      Storage.encode_load]
  have hs (n : Nat) : ((List.range n).map m.unitAt).flatMap
      (fun u => LittleEndian.encode unitSize u.toNat) =
        m.storage.slice unitsOffset (unitSize * n) := by
    induction n with
    | zero => rfl
    | succ n ih =>
        rw [List.range_succ, List.map_append, List.flatMap_append, ih, Nat.mul_succ,
          Storage.slice_add]
        simp [hu, unitOffset]
  rw [Model.bytes, model, hs, tag, length, UInt32.toUInt32_toInt32, ht, hn, Storage.encode_load,
    Storage.encode_load, bytes, occupied, Layout.occupied]
  simp only [unitsOffset, tagOffset, tagSize, lengthOffset, lengthSize]
  rw [show 12 + unitSize * m.count = 8 + 4 + unitSize * m.count from rfl, Storage.slice_add,
    Storage.slice_add]

theorem checkIndex_eq (m : Image) (i : Int32) :
    checkIndex i m.length = if m.model.shows i then some i.toNatClampNeg else none := by
  have h : (i < 0 ∨ m.length ≤ i) ↔ ¬ m.model.shows i := by
    rw [Int32.lt_iff_toInt_lt, Int32.le_iff_toInt_le, Model.shows, Int32.toInt_zero]
    change i.toInt < 0 ∨ m.length.toInt ≤ i.toInt ↔ ¬ (0 ≤ i.toInt ∧ i.toInt < m.length.toInt)
    omega
  by_cases hs : m.model.shows i
  · rw [checkIndex, if_neg (fun ho => h.1 ho hs), if_pos hs]
  · rw [checkIndex, if_pos (h.2 hs), if_neg hs]

theorem lt_count {m : Image} (hw : m.model.WellFormed) {i : Int32} (hs : m.model.shows i) :
    i.toNatClampNeg < m.count := by
  have hl : (m.model.units.length : Int) = m.count := by simp [model]
  obtain ⟨h0, h1⟩ := hs
  rw [Model.WellFormed, hl] at hw
  change i.toInt.toNat < m.count
  have : i.toInt < m.count := Int.lt_of_lt_of_le h1 hw
  omega

theorem value_get {m : Image} (hw : m.model.WellFormed) (i : Int32) :
    (m.get i).value = m.model.get i := by
  unfold get Model.get
  rw [checkIndex_eq]
  have hu : m.model.units = (List.range m.count).map m.unitAt := rfl
  by_cases hs : m.model.shows i
  · simp [hs, hu, lt_count hw hs]
  · simp [hs]

theorem model_set {m : Image} (h : m.Fits) (hw : m.model.WellFormed) (i : Int32) (u : UInt16) :
    (m.set i u).value.model = m.model.set i u := by
  unfold set Model.set
  rw [checkIndex_eq]
  by_cases hs : m.model.shows i
  · simp [hs, model_putUnit h (lt_count hw hs)]
  · simp [hs]

theorem log_get (m : Image) (i : Int32) :
    (m.get i).log = if m.model.shows i then [] else [.readOutside i m.length] := by
  unfold get
  rw [checkIndex_eq]
  by_cases hs : m.model.shows i <;> simp [hs]

theorem log_set (m : Image) (i : Int32) (u : UInt16) :
    (m.set i u).log = if m.model.shows i then [] else [.writeOutside i m.length] := by
  unfold set
  rw [checkIndex_eq]
  by_cases hs : m.model.shows i <;> simp [hs]

end Image

end Interop.Managed
