import Interop.Text.Loose

namespace Interop.Text.Utf16

def isHigh (u : UInt16) : Bool := 0xD800 ≤ u && u < 0xDC00

def isLow (u : UInt16) : Bool := 0xDC00 ≤ u && u < 0xE000

def unitsOf (c : Char) : List UInt16 :=
  if c.toNat < 0x10000 then [UInt16.ofNat c.toNat]
  else
    let n := c.toNat - 0x10000
    [UInt16.ofNat (0xD800 + n / 0x400), UInt16.ofNat (0xDC00 + n % 0x400)]

def encode (cs : List Char) : List UInt16 := cs.flatMap unitsOf

def pair (high low : UInt16) : Char :=
  Char.ofNat (0x10000 + (high.toNat - 0xD800) * 0x400 + (low.toNat - 0xDC00))

def alone (u : UInt16) : Char :=
  if isHigh u || isLow u then replacement else Char.ofNat u.toNat

/-- A high unit pairs with the low unit right behind it; every other surrogate stands for nothing
and is replaced. -/
def decode : List UInt16 → List Char
  | u :: v :: rest =>
    if isHigh u && isLow v then pair u v :: decode rest else alone u :: decode (v :: rest)
  | [u] => [alone u]
  | [] => []

theorem decode_cons {u : UInt16} (h : isHigh u = false) (rest : List UInt16) :
    decode (u :: rest) = alone u :: decode rest := by
  cases rest with
  | nil => rfl
  | cons v rest => simp [decode, h]

theorem decode_pair {u v : UInt16} (hu : isHigh u) (hv : isLow v) (rest : List UInt16) :
    decode (u :: v :: rest) = pair u v :: decode rest := by
  simp [decode, hu, hv]

theorem isHigh_ofNat {n : Nat} (h : n < 0x10000) :
    isHigh (UInt16.ofNat n) = (decide (0xD800 ≤ n) && decide (n < 0xDC00)) := by
  simp [isHigh, UInt16.le_iff_toNat_le, UInt16.lt_iff_toNat_lt, UInt16.toNat_ofNat_of_lt' h]

theorem isLow_ofNat {n : Nat} (h : n < 0x10000) :
    isLow (UInt16.ofNat n) = (decide (0xDC00 ≤ n) && decide (n < 0xE000)) := by
  simp [isLow, UInt16.le_iff_toNat_le, UInt16.lt_iff_toNat_lt, UInt16.toNat_ofNat_of_lt' h]

theorem toNat_bounds (c : Char) : c.toNat < 0xD800 ∨ 0xDFFF < c.toNat ∧ c.toNat < 0x110000 :=
  c.valid

theorem decode_unitsOf (c : Char) (rest : List UInt16) :
    decode (unitsOf c ++ rest) = c :: decode rest := by
  have hc := toNat_bounds c
  unfold unitsOf
  by_cases h : c.toNat < 0x10000
  · have hh : isHigh (UInt16.ofNat c.toNat) = false := by
      rw [isHigh_ofNat h]
      simp
      omega
    have hl : isLow (UInt16.ofNat c.toNat) = false := by
      rw [isLow_ofNat h]
      simp
      omega
    simp [h, decode_cons hh, alone, hh, hl, UInt16.toNat_ofNat_of_lt' h, Char.ofNat_toNat]
  · have hn : c.toNat - 0x10000 < 0x100000 := by omega
    have hu : 0xD800 + (c.toNat - 0x10000) / 0x400 < 0x10000 := by omega
    have hv : 0xDC00 + (c.toNat - 0x10000) % 0x400 < 0x10000 := by omega
    have hh : isHigh (UInt16.ofNat (0xD800 + (c.toNat - 0x10000) / 0x400)) := by
      rw [isHigh_ofNat hu]
      simp
      omega
    have hl : isLow (UInt16.ofNat (0xDC00 + (c.toNat - 0x10000) % 0x400)) := by
      rw [isLow_ofNat hv]
      simp
      omega
    rw [if_neg h, List.cons_append, List.cons_append, List.nil_append, decode_pair hh hl, pair,
      UInt16.toNat_ofNat_of_lt' hu, UInt16.toNat_ofNat_of_lt' hv]
    rw [show 0x10000 + (0xD800 + (c.toNat - 0x10000) / 0x400 - 0xD800) * 0x400 +
      (0xDC00 + (c.toNat - 0x10000) % 0x400 - 0xDC00) = c.toNat by omega, Char.ofNat_toNat]

theorem decode_encode (cs : List Char) : decode (encode cs) = cs := by
  induction cs with
  | nil => rfl
  | cons c cs ih => rw [encode, List.flatMap_cons, decode_unitsOf, ← encode, ih]

end Interop.Text.Utf16
