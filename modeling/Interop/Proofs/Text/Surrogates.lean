import Interop.Text.Utf16

namespace Interop.Text.Utf16

/-- The code points that a unit shows, told by the unit before it and the one behind it alone. A
high unit with a low one behind it shows the code point of the two, and that low one then shows
nothing more. Any other surrogate is replaced, and any other unit is a code point of its own. -/
def codePoint (before : Option UInt16) (u : UInt16) (after : Option UInt16) : List Nat :=
  if isHigh u then
    match after.filter isLow with
    | some v => [0x10000 + (u.toNat - 0xD800) * 0x400 + (v.toNat - 0xDC00)]
    | none => [0xFFFD]
  else if isLow u then
    if before.any isHigh then [] else [0xFFFD]
  else [u.toNat]

def codePoints (before : Option UInt16) : List UInt16 → List Nat
  | [] => []
  | u :: us => codePoint before u us.head? ++ codePoints (some u) us

variable {u v : UInt16}

theorem isHigh_iff : isHigh u = true ↔ 0xD800 ≤ u.toNat ∧ u.toNat < 0xDC00 := by
  have h := isHigh_ofNat u.toNat_lt
  rw [UInt16.ofNat_toNat] at h
  simp [h]

theorem isLow_iff : isLow u = true ↔ 0xDC00 ≤ u.toNat ∧ u.toNat < 0xE000 := by
  have h := isLow_ofNat u.toNat_lt
  rw [UInt16.ofNat_toNat] at h
  simp [h]

theorem not_isHigh_of_isLow (h : isLow u = true) : isHigh u = false := by
  rw [isLow_iff] at h
  rw [Bool.eq_false_iff, ne_eq, isHigh_iff]
  omega

theorem toNat_ofNat {n : Nat} (h : n.isValidChar) : (Char.ofNat n).toNat = n := by
  rw [Char.ofNat, dif_pos h]
  rfl

theorem toNat_pair (hu : isHigh u = true) (hv : isLow v = true) :
    (pair u v).toNat = 0x10000 + (u.toNat - 0xD800) * 0x400 + (v.toNat - 0xDC00) := by
  rw [isHigh_iff] at hu
  rw [isLow_iff] at hv
  apply toNat_ofNat
  rw [Nat.isValidChar]
  omega

theorem toNat_ofNat_toNat (hu : isHigh u = false) (hv : isLow u = false) :
    (Char.ofNat u.toNat).toNat = u.toNat := by
  have hlt := u.toNat_lt
  rw [Bool.eq_false_iff, ne_eq, isHigh_iff] at hu
  rw [Bool.eq_false_iff, ne_eq, isLow_iff] at hv
  apply toNat_ofNat
  rw [Nat.isValidChar]
  omega

theorem toNat_alone (u : UInt16) :
    (alone u).toNat = if isHigh u || isLow u then 0xFFFD else u.toNat := by
  rw [alone]
  split
  · rfl
  · next h =>
      rw [Bool.not_eq_true, Bool.or_eq_false_iff] at h
      exact toNat_ofNat_toNat h.1 h.2

theorem codePoint_pair (hu : isHigh u = true) (hv : isLow v = true) (before : Option UInt16) :
    codePoint before u (some v) = [(pair u v).toNat] := by
  rw [codePoint, if_pos hu, Option.filter_some_pos hv, toNat_pair hu hv]

theorem codePoint_second (hu : isHigh u = true) (hv : isLow v = true) (after : Option UInt16) :
    codePoint (some u) v after = [] := by
  have hh := not_isHigh_of_isLow hv
  rw [codePoint, hh, if_neg Bool.false_ne_true, if_pos hv]
  exact if_pos hu

theorem codePoint_alone {before after : Option UInt16}
    (hb : before.any isHigh = true → isLow u = false)
    (ha : isHigh u = true → after.any isLow = false) :
    codePoint before u after = [(alone u).toNat] := by
  rw [codePoint, toNat_alone]
  cases hu : isHigh u with
  | true =>
      have hnone : after.filter isLow = none := by
        cases after with
        | none => rfl
        | some v => exact Option.filter_some_neg (ha hu)
      simp [hnone]
  | false =>
      cases hv : isLow u with
      | true =>
          have hnot : before.any isHigh = false := by
            rw [Bool.eq_false_iff]
            intro h
            rw [hb h] at hv
            cases hv
          simp [hnot]
      | false => rfl

/-- Decoding goes by pairs from the left, and yet what it makes of a unit hangs on the two units
beside it only. The induction needs that no pair is cut where it starts. -/
theorem map_toNat_decode (us : List UInt16) {before : Option UInt16}
    (h : before.any isHigh = true → us.head?.any isLow = false) :
    (decode us).map Char.toNat = codePoints before us := by
  induction us using decode.induct generalizing before with
  | case1 u v rest hp ih =>
      rw [Bool.and_eq_true] at hp
      obtain ⟨hu, hv⟩ := hp
      have hnext : (some v).any isHigh = true → rest.head?.any isLow = false := by
        intro hh
        rw [Option.any_some, not_isHigh_of_isLow hv] at hh
        cases hh
      rw [decode_pair hu hv, List.map_cons, ih hnext, codePoints, codePoints, List.head?_cons,
        codePoint_pair hu hv, codePoint_second hu hv]
      rfl
  | case2 u v rest hp ih =>
      have hnext : (some u).any isHigh = true → (v :: rest).head?.any isLow = false := by
        intro hu
        rw [Bool.and_eq_true, not_and, Bool.not_eq_true] at hp
        exact hp hu
      have halone : codePoint before u (some v) = [(alone u).toNat] := codePoint_alone h hnext
      rw [decode, if_neg hp, List.map_cons, ih hnext]
      change _ = codePoint before u (some v) ++ codePoints (some u) (v :: rest)
      rw [halone]
      rfl
  | case3 u =>
      have halone : codePoint before u none = [(alone u).toNat] := codePoint_alone h fun _ => rfl
      rw [codePoints, List.head?_nil, halone]
      rfl
  | case4 => rfl

end Interop.Text.Utf16
