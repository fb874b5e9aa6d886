import Mathlib.Algebra.Order.Floor.Div
import Mathlib.GroupTheory.GroupAction.Ring
import Interop.Proofs.Managed.Valid

namespace Interop

/-- What stops an operation that checks each of its steps: a number that 64 bits do not hold, or an
offset behind the end of the memory. -/
inductive Trap
  | overflow (n : Nat)
  | outside (offset size : Nat)
deriving DecidableEq, Repr

namespace Trap

variable {α β : Type}

def word (n : Nat) : Except Trap Nat := if n < 2 ^ 64 then .ok n else .error (.overflow n)

theorem word_of_lt {n : Nat} (h : n < 2 ^ 64) : word n = .ok n := if_pos h

@[simp] theorem ok_bind (a : α) (f : α → Except Trap β) : (Except.ok a >>= f) = f a := rfl

@[simp] theorem pure_eq_ok (a : α) : (pure a : Except Trap α) = .ok a := rfl

end Trap

namespace Storage

def byte? (s : Storage) (offset : Nat) : Except Trap UInt8 :=
  if h : offset < s.bytes.size then .ok s.bytes[offset] else .error (.outside offset s.size)

def put? (s : Storage) (offset : Nat) (b : UInt8) : Except Trap Storage :=
  if h : offset < s.bytes.size then .ok ⟨s.bytes.set offset b h⟩
  else .error (.outside offset s.size)

def slice? (s : Storage) (offset : Nat) : Nat → Except Trap (List UInt8)
  | 0 => return []
  | count + 1 => do
    let b ← s.byte? offset
    let bs ← s.slice? (offset + 1) count
    return b :: bs

def write? (s : Storage) (offset : Nat) : List UInt8 → Except Trap Storage
  | [] => return s
  | b :: bs => do
    let edited ← s.put? offset b
    edited.write? (offset + 1) bs

def load? (s : Storage) (offset width : Nat) : Except Trap Nat := do
  let bs ← s.slice? offset width
  return LittleEndian.decode bs

def store? (s : Storage) (offset width n : Nat) : Except Trap Storage :=
  s.write? offset (LittleEndian.encode width n)

theorem byte?_of_lt {s : Storage} {offset : Nat} (h : offset < s.size) :
    s.byte? offset = .ok (s.byte offset) := by
  have h' : offset < s.bytes.size := h
  rw [byte?, dif_pos h', byte, Array.getD_eq_getD_getElem?, Array.getElem?_eq_getElem h',
    Option.getD_some]

theorem put?_of_lt {s : Storage} {offset : Nat} (h : offset < s.size) (b : UInt8) :
    s.put? offset b = .ok (s.put offset b) := by
  have h' : offset < s.bytes.size := h
  rw [put?, dif_pos h', put, Array.setIfInBounds, dif_pos h']

theorem slice_succ (s : Storage) (offset count : Nat) :
    s.slice offset (count + 1) = s.byte offset :: s.slice (offset + 1) count := by
  rw [Nat.add_comm count 1, slice_add]
  simp [slice]

theorem slice?_of_le {s : Storage} {offset count : Nat} (h : offset + count ≤ s.size) :
    s.slice? offset count = .ok (s.slice offset count) := by
  induction count generalizing offset with
  | zero => rfl
  | succ count ih =>
      rw [slice?, byte?_of_lt (by omega), Trap.ok_bind, ih (by omega), slice_succ]
      rfl

theorem write?_of_le {s : Storage} {offset : Nat} {bs : List UInt8}
    (h : offset + bs.length ≤ s.size) : s.write? offset bs = .ok (s.write offset bs) := by
  induction bs generalizing s offset with
  | nil => rfl
  | cons b bs ih =>
      rw [List.length_cons] at h
      rw [write?, put?_of_lt (by omega), Trap.ok_bind, ih (by rw [size_put]; omega), write]

theorem load?_of_le {s : Storage} {offset width : Nat} (h : offset + width ≤ s.size) :
    s.load? offset width = .ok (s.load offset width) := by
  rw [load?, slice?_of_le h]
  rfl

theorem store?_of_le {s : Storage} {offset width : Nat} (h : offset + width ≤ s.size) (n : Nat) :
    s.store? offset width n = .ok (s.store offset width n) :=
  write?_of_le (by rwa [LittleEndian.length_encode])

end Storage

namespace Managed

namespace Layout

def occupied? (units : Nat) : Except Trap Nat := do
  let size ← Trap.word (unitSize * units)
  Trap.word (unitsOffset + size)

def unitOffset? (index : Nat) : Except Trap Nat := do
  let distance ← Trap.word (unitSize * index)
  Trap.word (unitsOffset + distance)

def blocks? (units : Nat) : Except Trap Nat := do
  let size ← occupied? units
  let rounded ← Trap.word (max size headerSize + 7)
  return rounded / 8

variable {n : Nat}

theorem occupied?_of_le (h : n ≤ maxLength) : occupied? n = .ok (occupied n) := by
  simp only [maxLength] at h
  rw [occupied?, Trap.word_of_lt, Trap.ok_bind, Trap.word_of_lt, occupied]
  · simp only [unitsOffset, unitSize]
    omega
  · simp only [unitSize]
    omega

theorem unitOffset?_of_le (h : n ≤ maxLength) : unitOffset? n = .ok (unitOffset n) :=
  occupied?_of_le h

theorem blocks?_of_le (h : n ≤ maxLength) : blocks? n = .ok (blocks n) := by
  rw [blocks?, occupied?_of_le h, Trap.ok_bind, Trap.word_of_lt, blocks]
  · rfl
  · simp only [maxLength] at h
    simp only [occupied, unitsOffset, unitSize, headerSize]
    omega

theorem blocks_eq (n : Nat) : blocks n = max (12 + 2 * n) 16 ⌈/⌉ 8 := by
  rw [Nat.ceilDiv_eq_add_pred_div]
  rfl

theorem headerSize_le_blocks (n : Nat) : headerSize ≤ 8 * blocks n := by
  unfold blocks
  omega

end Layout

open Layout

namespace Image

def build? (tag : UInt64) (units : List UInt16) : Except Trap Image := do
  let blocks ← blocks? units.length
  let tagged ← (Storage.zeroed blocks).store? tagOffset tagSize tag.toNat
  let headed ← tagged.store? lengthOffset lengthSize units.length
  let filled ← headed.write? unitsOffset
    (units.flatMap fun u => LittleEndian.encode unitSize u.toNat)
  return ⟨filled, units.length⟩

def ofUnits? (tag : UInt64) (units : List UInt16) : Except Trap (Except TooLong Image) :=
  match checkCount units.length with
  | .ok () => do
    let m ← build? tag units
    return .ok m
  | .error e => return .error e

def tag? (m : Image) : Except Trap UInt64 := do
  let n ← m.storage.load? tagOffset tagSize
  return UInt64.ofNat n

def length? (m : Image) : Except Trap Int32 := do
  let n ← m.storage.load? lengthOffset lengthSize
  return (UInt32.ofNat n).toInt32

def unitAt? (m : Image) (i : Nat) : Except Trap UInt16 := do
  let offset ← unitOffset? i
  let n ← m.storage.load? offset unitSize
  return UInt16.ofNat n

def putUnit? (m : Image) (i : Nat) (u : UInt16) : Except Trap Image := do
  let offset ← unitOffset? i
  let edited ← m.storage.store? offset unitSize u.toNat
  return { m with storage := edited }

def get? (m : Image) (i : Int32) : Except Trap (Logged UInt16) := do
  let length ← m.length?
  match checkIndex i length with
  | some k => pure <$> m.unitAt? k
  | none => return ⟨0, [.readOutside i length]⟩

def set? (m : Image) (i : Int32) (u : UInt16) : Except Trap (Logged Image) := do
  let length ← m.length?
  match checkIndex i length with
  | some k => pure <$> m.putUnit? k u
  | none => return ⟨m, [.writeOutside i length]⟩

def bytes? (m : Image) : Except Trap (List UInt8) := do
  let size ← occupied? m.count
  m.storage.slice? 0 size

end Image

def Cursor.advance? (c : Cursor) : Except Trap (Option UInt16 × Cursor) :=
  if c.next < c.stop then do
    let u ← c.image.unitAt? c.next
    return (some u, { c with next := c.next + 1 })
  else return (none, c)

namespace Image

/-- Every access to the image's memory stays inside it: the operations that test each offset and
each number on the way give what those without a test give. -/
structure Guarded (m : Image) : Prop where
  tag : m.tag? = .ok m.tag
  length : m.length? = .ok m.length
  get : ∀ i, m.get? i = .ok (m.get i)
  set : ∀ i u, m.set? i u = .ok (m.set i u)
  next : ∀ k, (m.cursor.skip k).advance? = .ok (m.cursor.skip k).advance
  bytes : m.bytes? = .ok m.bytes

variable {m : Image} {tag : UInt64} {units : List UInt16}

theorem build?_of_le (tag : UInt64) (h : units.length ≤ maxLength) :
    build? tag units = .ok (build tag units) := by
  have hz : (Storage.zeroed (blocks units.length)).size = 8 * blocks units.length := by
    simp [Storage.zeroed, Storage.size]
  have hh := headerSize_le_blocks units.length
  have ho := occupied_le_blocks units.length
  simp only [headerSize, Layout.occupied] at hh ho
  rw [build?, blocks?_of_le h, Trap.ok_bind, Storage.store?_of_le, Trap.ok_bind,
    Storage.store?_of_le, Trap.ok_bind, Storage.write?_of_le, Trap.ok_bind]
  · rfl
  · rw [length_encodeUnits, Storage.store, Storage.store, Storage.size_write, Storage.size_write,
      hz]
    exact ho
  · rw [Storage.store, Storage.size_write, hz]
    exact Nat.le_trans (by decide) hh
  · rw [hz]
    exact Nat.le_trans (by decide) hh

theorem ofUnits?_eq (tag : UInt64) (units : List UInt16) :
    ofUnits? tag units = .ok (ofUnits tag units) := by
  by_cases h : units.length ≤ maxLength
  · rw [ofUnits?, ofUnits_of_le tag h, checkCount, if_pos h]
    simp only [build?_of_le tag h, Trap.ok_bind, Trap.pure_eq_ok]
  · rw [ofUnits?, ofUnits_of_lt tag (Nat.not_le.1 h), checkCount, if_neg h]
    rfl

theorem Valid.headerSize_le (h : m.Valid) : headerSize ≤ m.storage.size :=
  h.fits ▸ headerSize_le_blocks m.count

theorem Valid.tag? (h : m.Valid) : m.tag? = .ok m.tag := by
  rw [Image.tag?, Storage.load?_of_le (Nat.le_trans (by decide) h.headerSize_le)]
  rfl

theorem Valid.length? (h : m.Valid) : m.length? = .ok m.length := by
  rw [Image.length?, Storage.load?_of_le (Nat.le_trans (by decide) h.headerSize_le)]
  rfl

theorem Valid.unitOffset_le (h : m.Valid) {i : Nat} (hi : i < m.count) :
    unitOffset i + unitSize ≤ m.storage.size := by
  have ho := h.fits.occupied_le
  simp only [occupied, Layout.occupied] at ho
  simp only [unitOffset, unitSize] at ho ⊢
  omega

theorem Valid.unitAt? (h : m.Valid) {i : Nat} (hi : i < m.count) :
    m.unitAt? i = .ok (m.unitAt i) := by
  rw [Image.unitAt?, unitOffset?_of_le (Nat.le_trans (Nat.le_of_lt hi) h.count_le), Trap.ok_bind,
    Storage.load?_of_le (h.unitOffset_le hi)]
  rfl

theorem Valid.putUnit? (h : m.Valid) {i : Nat} (hi : i < m.count) (u : UInt16) :
    m.putUnit? i u = .ok (m.putUnit i u) := by
  rw [Image.putUnit?, unitOffset?_of_le (Nat.le_trans (Nat.le_of_lt hi) h.count_le),
    Trap.ok_bind, Storage.store?_of_le (h.unitOffset_le hi)]
  rfl

theorem Valid.lt_of_checkIndex (h : m.Valid) {i : Int32} {k : Nat}
    (hk : checkIndex i m.length = some k) : k < m.count := by
  rw [checkIndex_eq] at hk
  by_cases hs : m.model.shows i
  · rw [if_pos hs, Option.some.injEq] at hk
    exact hk ▸ lt_count h.wellFormed hs
  · rw [if_neg hs] at hk
    cases hk

theorem Valid.get? (h : m.Valid) (i : Int32) : m.get? i = .ok (m.get i) := by
  rw [Image.get?, h.length?, Trap.ok_bind, Image.get]
  cases hk : checkIndex i m.length with
  | none => rfl
  | some k => simp only [h.unitAt? (h.lt_of_checkIndex hk)]; rfl

theorem Valid.set? (h : m.Valid) (i : Int32) (u : UInt16) : m.set? i u = .ok (m.set i u) := by
  rw [Image.set?, h.length?, Trap.ok_bind, Image.set]
  cases hk : checkIndex i m.length with
  | none => rfl
  | some k => simp only [h.putUnit? (h.lt_of_checkIndex hk)]; rfl

theorem Valid.advance? (h : m.Valid) (k : Nat) :
    (m.cursor.skip k).advance? = .ok (m.cursor.skip k).advance := by
  rw [Cursor.skip_cursor, Cursor.advance?, Cursor.advance]
  by_cases hn : min k m.visible < m.visible
  · rw [if_pos hn, if_pos hn, h.unitAt? (Nat.lt_of_lt_of_le hn h.visible_le)]
    rfl
  · rw [if_neg hn, if_neg hn]
    rfl

theorem Valid.bytes? (h : m.Valid) : m.bytes? = .ok m.bytes := by
  rw [Image.bytes?, occupied?_of_le h.count_le, Trap.ok_bind, Storage.slice?_of_le]
  · rfl
  · rw [Nat.zero_add]
    exact h.fits.occupied_le

theorem Valid.guarded (h : m.Valid) : m.Guarded where
  tag := h.tag?
  length := h.length?
  get := h.get?
  set := h.set?
  next := h.advance?
  bytes := h.bytes?

/-- Nothing that is done to an image leaves its memory. The constructor refuses a string that the
header's length cannot tell, and otherwise allocates for the units and never less than the
header. -/
theorem accesses_inside (tag : UInt64) (units : List UInt16) :
    (2 ^ 31 - 1 < units.length → ofUnits tag units = .error ⟨units.length⟩) ∧
    (units.length ≤ 2 ^ 31 - 1 → ∃ m, ofUnits tag units = .ok m ∧
      m.length.toInt = units.length ∧ 0 ≤ m.length) ∧
    ofUnits? tag units = .ok (ofUnits tag units) ∧
    ∀ m, Reachable tag units m →
      m.storage.size = 8 * (max (12 + 2 * units.length) 16 ⌈/⌉ 8) ∧
      m.bytes.length = 12 + 2 * units.length ∧ m.Guarded := by
  refine ⟨ofUnits_of_lt tag, ?_, ofUnits?_eq tag units, ?_⟩
  · intro h
    have hl := toInt_length_build tag h
    refine ⟨build tag units, ofUnits_of_le tag h, hl, ?_⟩
    rw [Int32.le_iff_toInt_le, hl]
    exact Int.natCast_nonneg _
  · intro m hm
    obtain ⟨hv, hc⟩ := hm.valid
    refine ⟨?_, ?_, hv.guarded⟩
    · rw [← blocks_eq, ← hc]
      exact hv.fits
    · rw [Image.bytes, Storage.length_slice, ← hc]
      rfl

/-- Three units leave no room in the last block, and a header below zero shows none of them. -/
theorem accesses_inside_negative :
    let m := ((build 7 [0x41, 0x42, 0x43]).writeBy .address 2 0x58).value.setLength (-1)
    Reachable 7 [0x41, 0x42, 0x43] m ∧ m.storage.size = 24 ∧ m.bytes.length = 18 ∧
      m.get? 2 = .ok ⟨0, [.readOutside 2 (-1)]⟩ := by
  intro m
  have hf : Reachable 7 [0x41, 0x42, 0x43] (build 7 [0x41, 0x42, 0x43]) :=
    .fresh (ofUnits_of_le 7 (by decide))
  have hw := hf.set .address 2 0x58
  have hr : Reachable 7 [0x41, 0x42, 0x43] m := hw.setLength (-1) (by decide)
  have hl : m.length = -1 := length_setLength hw.valid.1.fits (-1)
  obtain ⟨hs, hb, hg⟩ := (accesses_inside 7 [0x41, 0x42, 0x43]).2.2.2 m hr
  refine ⟨hr, hs.trans (by decide), hb.trans (by decide), ?_⟩
  rw [hg.get 2, Image.get, hl]
  rfl

end Image

end Managed

end Interop
