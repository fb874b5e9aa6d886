import Interop.Proofs.Json.Grammar
import Interop.Proofs.Text.Controls
import Interop.Proofs.Text.Numerals

namespace Interop.Json

open Text

variable {c : Char} {cs w ds : List Char} {u : UInt16} {p : Part}

def Clean (w : List Char) : Prop := ∀ c ∈ w, ¬ c.toNat < 0x20

instance (w : List Char) : Decidable (Clean w) :=
  List.decidableBAll (fun c : Char => ¬ c.toNat < 0x20) w

theorem Clean.filter (h : Clean w) : w.filter (· ≠ '\n') = w := by
  refine List.filter_eq_self.2 fun c hc => decide_eq_true ?_
  rintro rfl
  exact h '\n' hc (by decide)

theorem Clean.append (hc : Clean cs) (hd : Clean ds) : Clean (cs ++ ds) :=
  List.forall_mem_append.2 ⟨hc, hd⟩

theorem clean_hexUnit? (h : hexUnit? ds = some u) : Clean ds := by
  intro c hc hlt
  have hnone : digitValue? 16 c = none := by
    have h0 : ¬ '0' ≤ c := fun h => absurd (Nat.lt_of_le_of_lt h hlt) (by decide)
    have ha : ¬ 'a' ≤ c := fun h => absurd (Nat.lt_of_le_of_lt h hlt) (by decide)
    have hA : ¬ 'A' ≤ c := fun h => absurd (Nat.lt_of_le_of_lt h hlt) (by decide)
    simp [digitValue?, anyDigit?, h0, ha, hA]
  unfold hexUnit? at h
  split at h
  next n hn =>
    exact (numeral_of_readDigits (by decide) (List.ne_nil_of_mem hc) hn).1.notMem (by decide)
      hnone hc
  next => cases h

theorem clean_of_unescape? {e : Char} (h : unescape? e = some c) : Clean ['\\', e] := by
  unfold unescape? at h
  split at h
  case h_9 => cases h
  all_goals decide

theorem CharText.clean (h : CharText c w) : Clean w := by
  have hu : Clean ['\\', 'u'] := by decide
  cases h with
  | plain _ _ hcontrol => exact List.forall_mem_singleton.2 hcontrol
  | escape h => exact clean_of_unescape? h
  | code h => exact hu.append (clean_hexUnit? h)
  | codes h h' => exact (hu.append (clean_hexUnit? h)).append (hu.append (clean_hexUnit? h'))

theorem StringText.clean (h : StringText cs w) : Clean w := by
  induction h with
  | nil => exact List.forall_mem_nil _
  | cons hc _ ih => exact hc.clean.append ih

theorem clean_integer (n : Int) : Clean (integer n).toList := by
  intro c hc hlt
  have hb := bare_integer n c hc
  rw [isControl, Bool.or_eq_false_iff, decide_eq_false_iff_not] at hb
  exact hb.1 hlt

theorem Space.filter (h : Space w) : Space (w.filter (· ≠ '\n')) :=
  fun c hc => h c (List.mem_filter.1 hc).1

theorem Spells.filter (h : Spells p w) : Spells p (w.filter (· ≠ '\n')) := by
  induction h with
  | bool b => cases b <;> exact .bool _
  | number n =>
      rw [(clean_integer n).filter]
      exact .number n
  | string hs =>
      have hw := hs.clean.filter
      simp only [ne_eq, decide_not] at hw
      simpa [hw] using Spells.string hs
  | emptyArray hw => simpa using Spells.emptyArray hw.filter
  | array _ ih => simpa using Spells.array ih
  | emptyObject hw => simpa using Spells.emptyObject hw.filter
  | object _ ih => simpa using Spells.object ih
  | item ha _ hb ih => simpa using Spells.item ha.filter ih hb.filter
  | lastItem _ ih => exact .lastItem ih
  | items _ _ ih ihs => simpa using Spells.items ih ihs
  | member ha hk hb _ ih =>
      have hw := hk.clean.filter
      simp only [ne_eq, decide_not] at hw
      simpa [hw] using Spells.member ha.filter hk hb.filter ih
  | lastMember _ ih => exact .lastMember ih
  | members _ _ ih ihs => simpa using Spells.members ih ihs

def Laid (w : List Char) : Prop := ∀ c ∈ w, c.toNat < 0x20 → c = '\n'

theorem Clean.laid (h : Clean w) : Laid w := fun c hc hlt => absurd hlt (h c hc)

theorem Space.laid (h : Space w) : Laid w := by
  intro c hc hlt
  obtain rfl | rfl := h c hc
  · exact absurd hlt (by decide)
  · rfl

theorem laid_append : Laid (w ++ ds) ↔ Laid w ∧ Laid ds := List.forall_mem_append

theorem laid_cons : Laid (c :: w) ↔ (c.toNat < 0x20 → c = '\n') ∧ Laid w := List.forall_mem_cons

theorem laid_nil : Laid [] := List.forall_mem_nil _

theorem Spells.laid (h : Spells p w) : Laid w := by
  induction h with
  | bool b => cases b <;> exact Clean.laid (by decide)
  | number n => exact (clean_integer n).laid
  | string hs => simp [laid_cons, laid_append, laid_nil, hs.clean.laid]
  | emptyArray hw | emptyObject hw => simp [laid_cons, laid_append, laid_nil, hw.laid]
  | array _ ih | object _ ih => simp [laid_cons, laid_append, laid_nil, ih]
  | item ha _ hb ih => simp [laid_append, ha.laid, ih, hb.laid]
  | lastItem _ ih | lastMember _ ih => exact ih
  | items _ _ ih ihs | members _ _ ih ihs => simp [laid_cons, laid_append, ih, ihs]
  | member ha hk hb _ ih =>
      simp [laid_cons, laid_append, ha.laid, hk.clean.laid, hb.laid, ih]

end Interop.Json
