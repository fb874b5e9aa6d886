namespace Interop

namespace LittleEndian

def encode : Nat → Nat → List UInt8
  | 0, _ => []
  | width + 1, n => UInt8.ofNat (n % 256) :: encode width (n / 256)

def decode : List UInt8 → Nat
  | [] => 0
  | b :: bs => b.toNat + 256 * decode bs

def span : Nat → Nat
  | 0 => 1
  | width + 1 => 256 * span width

theorem length_encode (width n : Nat) : (encode width n).length = width := by
  induction width generalizing n with
  | zero => rfl
  | succ width ih => simp [encode, ih]

theorem decode_encode (width n : Nat) : decode (encode width n) = n % span width := by
  induction width generalizing n with
  | zero => simp [encode, decode, span, Nat.mod_one]
  | succ width ih =>
      simp only [encode, decode, ih, UInt8.toNat_ofNat', Nat.reducePow, Nat.mod_mod]
      rw [span, Nat.mod_mul]

theorem encode_decode (bs : List UInt8) : encode bs.length (decode bs) = bs := by
  induction bs with
  | nil => rfl
  | cons b bs ih =>
      have hb := b.toNat_lt
      have hm : (b.toNat + 256 * decode bs) % 256 = b.toNat := by omega
      have hd : (b.toNat + 256 * decode bs) / 256 = decode bs := by omega
      simp only [decode, List.length_cons, encode, hm, hd, ih, UInt8.ofNat_toNat]

theorem decode_lt (bs : List UInt8) : decode bs < span bs.length := by
  induction bs with
  | nil => decide
  | cons b bs ih =>
      have hb := b.toNat_lt
      simp only [decode, List.length_cons, span]
      omega

end LittleEndian

/-- Memory in blocks of eight bytes. -/
structure Storage where
  bytes : Array UInt8
deriving DecidableEq

namespace Storage

def zeroed (blocks : Nat) : Storage := ⟨Array.replicate (8 * blocks) 0⟩

def size (s : Storage) : Nat := s.bytes.size

def byte (s : Storage) (offset : Nat) : UInt8 := s.bytes.getD offset 0

def put (s : Storage) (offset : Nat) (b : UInt8) : Storage := ⟨s.bytes.setIfInBounds offset b⟩

def slice (s : Storage) (offset count : Nat) : List UInt8 :=
  (List.range count).map fun k => s.byte (offset + k)

def write (s : Storage) (offset : Nat) : List UInt8 → Storage
  | [] => s
  | b :: bs => (s.put offset b).write (offset + 1) bs

def load (s : Storage) (offset width : Nat) : Nat := LittleEndian.decode (s.slice offset width)

def store (s : Storage) (offset width n : Nat) : Storage :=
  s.write offset (LittleEndian.encode width n)

theorem size_put (s : Storage) (offset : Nat) (b : UInt8) : (s.put offset b).size = s.size := by
  simp [put, size]

theorem size_write (s : Storage) (offset : Nat) (bs : List UInt8) :
    (s.write offset bs).size = s.size := by
  induction bs generalizing s offset with
  | nil => rfl
  | cons b bs ih => rw [write, ih, size_put]

theorem length_slice (s : Storage) (offset count : Nat) :
    (s.slice offset count).length = count := by
  simp [slice]

theorem byte_put (s : Storage) (offset i : Nat) (b : UInt8) :
    (s.put offset b).byte i = if i = offset ∧ i < s.size then b else s.byte i := by
  by_cases hi : i < s.size
  · by_cases h : i = offset
    · subst h
      have : i < s.bytes.size := hi
      simp [put, byte, Array.getD_eq_getD_getElem?, hi, this]
    · simp [put, byte, Array.getD_eq_getD_getElem?, h, Ne.symm h]
  · have : s.bytes.size ≤ i := Nat.le_of_not_lt hi
    simp [put, byte, Array.getD_eq_getD_getElem?, hi, this]

theorem byte_write (s : Storage) (offset i : Nat) (bs : List UInt8) :
    (s.write offset bs).byte i =
      if offset ≤ i ∧ i < offset + bs.length ∧ i < s.size then bs.getD (i - offset) 0
      else s.byte i := by
  induction bs generalizing s offset with
  | nil => simp [write]; omega
  | cons b bs ih =>
      rw [write, ih, size_put, byte_put, List.length_cons]
      rcases Nat.lt_trichotomy i offset with h | rfl | h
      · rw [if_neg (by omega), if_neg (by omega), if_neg (by omega)]
      · rw [if_neg (by omega)]
        by_cases hs : i < s.size
        · rw [if_pos ⟨rfl, hs⟩, if_pos ⟨Nat.le_refl i, by omega, hs⟩, Nat.sub_self]
          rfl
        · rw [if_neg (by omega), if_neg (by omega)]
      · by_cases hc : i < offset + (bs.length + 1) ∧ i < s.size
        · obtain ⟨d, rfl⟩ : ∃ d, i = offset + 1 + d := ⟨i - (offset + 1), by omega⟩
          rw [if_pos (by omega), if_pos (by omega), show offset + 1 + d - (offset + 1) = d by omega,
            show offset + 1 + d - offset = d + 1 by omega, List.getD_cons_succ]
        · rw [if_neg (by omega), if_neg (by omega), if_neg (by omega)]

theorem slice_write (s : Storage) (offset : Nat) (bs : List UInt8)
    (h : offset + bs.length ≤ s.size) : (s.write offset bs).slice offset bs.length = bs := by
  apply List.ext_getElem
  · simp [slice]
  · intro i h₁ h₂
    have : offset + i < s.size := by omega
    simp [slice, byte_write, h₂, this]

theorem slice_write_disjoint (s : Storage) (offset : Nat) (bs : List UInt8) (place count : Nat)
    (h : place + count ≤ offset ∨ offset + bs.length ≤ place) :
    (s.write offset bs).slice place count = s.slice place count := by
  apply List.map_congr_left
  intro k hk
  have hk := List.mem_range.1 hk
  rw [byte_write, if_neg (by omega)]

theorem load_store (s : Storage) (offset width n : Nat) (h : offset + width ≤ s.size) :
    (s.store offset width n).load offset width = n % LittleEndian.span width := by
  have hl := LittleEndian.length_encode width n
  have hw := slice_write s offset (LittleEndian.encode width n) (by rw [hl]; exact h)
  rw [hl] at hw
  rw [load, store, hw, LittleEndian.decode_encode]

theorem load_store_disjoint (s : Storage) (offset width n place span : Nat)
    (h : place + span ≤ offset ∨ offset + width ≤ place) :
    (s.store offset width n).load place span = s.load place span := by
  rw [load, store, slice_write_disjoint _ _ _ _ _ (by rwa [LittleEndian.length_encode]), load]

theorem slice_add (s : Storage) (offset m n : Nat) :
    s.slice offset (m + n) = s.slice offset m ++ s.slice (offset + m) n := by
  simp [slice, List.range_add, Nat.add_assoc, Function.comp_def]

theorem slice_write_part (s : Storage) (offset : Nat) (bs : List UInt8) (skip count : Nat)
    (hb : skip + count ≤ bs.length) (hs : offset + bs.length ≤ s.size) :
    (s.write offset bs).slice (offset + skip) count = (bs.drop skip).take count := by
  apply List.ext_getElem
  · simp [slice]
    omega
  · intro i h₁ h₂
    have hi : i < count := by simpa [slice] using h₁
    have hk : offset + skip + i - offset = skip + i := by omega
    simp only [slice, List.getElem_map, List.getElem_range, byte_write, hk]
    rw [if_pos (by omega), List.getElem_take, List.getElem_drop, List.getD_eq_getElem?_getD,
      List.getElem?_eq_getElem (by omega), Option.getD_some]

theorem load_congr {s t : Storage} {offset width : Nat}
    (h : ∀ i, offset ≤ i → i < offset + width → s.byte i = t.byte i) :
    s.load offset width = t.load offset width := by
  refine congrArg LittleEndian.decode (List.map_congr_left fun k hk => ?_)
  have hk := List.mem_range.1 hk
  exact h _ (Nat.le_add_right _ _) (Nat.add_lt_add_left hk _)

theorem encode_load (s : Storage) (offset width : Nat) :
    LittleEndian.encode width (s.load offset width) = s.slice offset width := by
  have h := LittleEndian.encode_decode (s.slice offset width)
  rwa [length_slice] at h

theorem load_lt (s : Storage) (offset width : Nat) :
    s.load offset width < LittleEndian.span width := by
  have h := LittleEndian.decode_lt (s.slice offset width)
  rwa [length_slice] at h

end Storage

end Interop
