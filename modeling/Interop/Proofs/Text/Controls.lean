import Interop.Proofs.Text.Digits
import Interop.Text.Quoted

namespace Interop.Text

/-- The control characters of either half of the first 256 code points. -/
def isControl (c : Char) : Bool := c.toNat < 0x20 || (0x7F ≤ c.toNat && c.toNat < 0xA0)

/-- No control character at all. -/
def Bare (s : String) : Prop := ∀ c ∈ s.toList, isControl c = false

instance (s : String) : Decidable (Bare s) :=
  List.decidableBAll (fun c => isControl c = false) s.toList

/-- No control character but those that end the lines. -/
def Unstyled (s : String) : Prop := ∀ c ∈ s.toList, isControl c = true → c = '\n'

instance (s : String) : Decidable (Unstyled s) :=
  List.decidableBAll (fun c => isControl c = true → c = '\n') s.toList

theorem Bare.append {s t : String} (hs : Bare s) (ht : Bare t) : Bare (s ++ t) := by
  intro c hc
  rw [String.toList_append, List.mem_append] at hc
  exact hc.elim (hs c) (ht c)

theorem Bare.unstyled {s : String} (h : Bare s) : Unstyled s := by
  intro c hc hcontrol
  rw [h c hc] at hcontrol
  cases hcontrol

theorem Unstyled.append {s t : String} (hs : Unstyled s) (ht : Unstyled t) :
    Unstyled (s ++ t) := by
  intro c hc
  rw [String.toList_append, List.mem_append] at hc
  exact hc.elim (hs c) (ht c)

theorem Unstyled.join {l : List String} (h : ∀ s ∈ l, Unstyled s) : Unstyled (String.join l) := by
  intro c hc
  rw [String.toList_join, List.mem_flatMap] at hc
  obtain ⟨s, hs, hc⟩ := hc
  exact h s hs c hc

theorem not_isControl_of_mem_toDigits {base n : Nat} {c : Char} (h1 : 1 < base) (hb : base ≤ 16)
    (hc : c ∈ Nat.toDigits base n) : isControl c = false := by
  have hdigit : ∀ d < 16, isControl d.digitChar = false := by decide
  obtain ⟨d, hd, rfl⟩ := mem_toDigits h1 hc
  exact hdigit d (Nat.lt_of_lt_of_le hd hb)

theorem bare_decimal (n : Nat) : Bare (decimal n) := by
  intro c hc
  rw [decimal, String.toList_ofList] at hc
  exact not_isControl_of_mem_toDigits (by decide) (by decide) hc

theorem bare_hex (n : Nat) : Bare (hex n) := by
  intro c hc
  rw [hex, String.toList_ofList] at hc
  exact not_isControl_of_mem_toDigits (by decide) (by decide) hc

theorem bare_upperHex (n : Nat) : Bare (upperHex n) := by
  intro c hc
  rw [upperHex, String.toList_ofList, List.mem_map] at hc
  obtain ⟨b, hb, rfl⟩ := hc
  have hdigit : ∀ d < 16, isControl d.digitChar.toUpper = false := by decide
  obtain ⟨d, hd, rfl⟩ := mem_toDigits (by decide) hb
  exact hdigit d hd

theorem bare_integer (i : Int) : Bare (integer i) := by
  cases i with
  | ofNat n => exact bare_decimal n
  | negSucc n => exact Bare.append (by decide) (bare_decimal (n + 1))

theorem Bare.padLeft {s : String} (h : Bare s) (width : Nat) {fill : Char}
    (hf : isControl fill = false) : Bare (padLeft width fill s) := by
  intro c hc
  rw [toList_padLeft, List.mem_append] at hc
  rcases hc with hc | hc
  · rwa [List.eq_of_mem_replicate hc]
  · exact h c hc

theorem Bare.padRight {s : String} (h : Bare s) (width : Nat) : Bare (padRight width s) := by
  intro c hc
  rw [toList_padRight, List.mem_append] at hc
  rcases hc with hc | hc
  · exact h c hc
  · rw [List.eq_of_mem_replicate hc]
    rfl

theorem bare_wideHex (width n : Nat) : Bare (wideHex width n) :=
  (bare_hex n).padLeft width rfl

theorem bare_address (n : Nat) : Bare (address n) :=
  Bare.append (by decide) (bare_hex n)

theorem bare_unitName (u : UInt16) : Bare (unitName u) :=
  Bare.append (by decide) ((bare_upperHex u.toNat).padLeft 4 rfl)

theorem Bare.intercalate {sep : String} (hsep : Bare sep) {l : List String}
    (h : ∀ s ∈ l, Bare s) : Bare (sep.intercalate l) := by
  induction l with
  | nil => exact (by decide : Bare "")
  | cons s l ih =>
      cases l with
      | nil => exact String.intercalate_singleton ▸ h s List.mem_cons_self
      | cons t l =>
          rw [String.intercalate_cons_cons]
          exact ((h s List.mem_cons_self).append hsep).append
            (ih fun r hr => h r (List.mem_cons_of_mem s hr))

theorem not_isControl_of_isPrintable {c : Char} (h : isPrintable c) : isControl c = false := by
  obtain ⟨rest, hr⟩ : ∃ rest, unprintableRanges = (0x0, 0x1f) :: (0x7f, 0xa0) :: rest := ⟨_, rfl⟩
  simp only [isPrintable, hr, inRanges, Bool.not_eq_true', Bool.and_eq_false_iff,
    Bool.or_eq_false_iff, decide_eq_false_iff_not] at h
  simp only [isControl, Bool.or_eq_false_iff, Bool.and_eq_false_iff, decide_eq_false_iff_not]
  omega

theorem not_isControl_of_quotedChar {c d : Char} (h : Quoted.quotedChar c = some d) :
    isControl d = false := by
  unfold Quoted.quotedChar at h
  split at h <;> cases h <;> rfl

theorem not_isControl_of_mem_spell {c d : Char} (hd : d ∈ Quoted.spell c) :
    isControl d = false := by
  unfold Quoted.spell at hd
  cases hc : Quoted.quotedChar c with
  | some e =>
      simp only [hc, List.mem_cons, List.not_mem_nil, or_false] at hd
      rcases hd with rfl | rfl
      · rfl
      · exact not_isControl_of_quotedChar hc
  | none =>
      by_cases hp : isPrintable c
      · simp only [hc, hp, if_true, List.mem_singleton] at hd
        exact hd ▸ not_isControl_of_isPrintable hp
      · simp only [hc, hp, Bool.false_eq_true, if_false, List.mem_append, List.mem_singleton] at hd
        rcases hd with (hd | hd) | rfl
        · exact (by decide : Bare "\\u\x7b") d hd
        · exact not_isControl_of_mem_toDigits (by decide) (by decide) hd
        · rfl

theorem bare_quoted (cs : List Char) : Bare (String.ofList (Quoted.encode cs)) := by
  intro c hc
  simp only [Quoted.encode, String.toList_ofList, List.mem_append, List.mem_cons,
    List.mem_flatMap, List.not_mem_nil, or_false] at hc
  rcases hc with (rfl | ⟨d, -, hd⟩) | rfl
  · rfl
  · exact not_isControl_of_mem_spell hd
  · rfl

end Interop.Text
