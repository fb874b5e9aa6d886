import Mathlib.Data.List.Induction
import Interop.Proofs.Text.Digits

namespace Interop.Text

def IsDigit (base : Nat) (c : Char) (d : Nat) : Prop :=
  d < base ∧ (c = d.digitChar ∨ c = d.digitChar.toUpper)

/-- Digits, at least one of them, and the number that they denote. -/
inductive Numeral (base : Nat) : List Char → Nat → Prop
  | digit {c : Char} {d : Nat} (hd : IsDigit base c d) : Numeral base [c] d
  | concat {cs : List Char} {c : Char} {n d : Nat} (hn : Numeral base cs n)
      (hd : IsDigit base c d) : Numeral base (cs ++ [c]) (n * base + d)

/-- A decimal numeral behind one sign or none. -/
inductive Signed : List Char → Int → Prop
  | bare {cs : List Char} {n : Nat} (h : Numeral 10 cs n) : Signed cs n
  | plus {cs : List Char} {n : Nat} (h : Numeral 10 cs n) : Signed ('+' :: cs) n
  | minus {cs : List Char} {n : Nat} (h : Numeral 10 cs n) : Signed ('-' :: cs) (-n)

variable {base limit n m d : Nat} {c : Char} {cs : List Char} {e : IntegerError}

theorem anyDigit?_eq_some (h : anyDigit? c = some d) (hd : d < 16) :
    c = d.digitChar ∨ c = d.digitChar.toUpper := by
  have hlow : ∀ d < 10, Char.ofNat ('0'.toNat + d) = d.digitChar := by decide
  have hsmall : ∀ d < 6, Char.ofNat ('a'.toNat + d) = (d + 10).digitChar := by decide
  have hlarge : ∀ d < 6, Char.ofNat ('A'.toNat + d) = (d + 10).digitChar.toUpper := by decide
  unfold anyDigit? at h
  split at h
  next hr =>
    have h0 : '0'.toNat ≤ c.toNat := hr.1
    have h9 : c.toNat ≤ '9'.toNat := hr.2
    have hn : '9'.toNat = '0'.toNat + 9 := rfl
    obtain rfl := Option.some.inj h
    rw [← hlow (c.toNat - '0'.toNat) (by omega), Nat.add_sub_cancel' h0, Char.ofNat_toNat]
    exact .inl rfl
  next =>
    split at h
    next hr =>
      have ha : 'a'.toNat ≤ c.toNat := hr.1
      obtain rfl := Option.some.inj h
      rw [← hsmall (c.toNat - 'a'.toNat) (by omega), Nat.add_sub_cancel' ha, Char.ofNat_toNat]
      exact .inl rfl
    next =>
      split at h
      next hr =>
        have ha : 'A'.toNat ≤ c.toNat := hr.1
        obtain rfl := Option.some.inj h
        rw [← hlarge (c.toNat - 'A'.toNat) (by omega), Nat.add_sub_cancel' ha, Char.ofNat_toNat]
        exact .inr rfl
      next => cases h

theorem digitValue?_eq_some_iff (hb : base ≤ 16) :
    digitValue? base c = some d ↔ IsDigit base c d := by
  constructor
  · intro h
    obtain ⟨hany, hlt⟩ := Option.filter_eq_some_iff.1 h
    have hd : d < base := of_decide_eq_true hlt
    exact ⟨hd, anyDigit?_eq_some hany (Nat.lt_of_lt_of_le hd hb)⟩
  · rintro ⟨hd, rfl | rfl⟩
    · exact digitValue_digitChar hb hd
    · have hupper : ∀ d < 16, anyDigit? d.digitChar.toUpper = some d := by decide
      rw [digitValue?, hupper d (Nat.lt_of_lt_of_le hd hb), Option.filter_some,
        if_pos (decide_eq_true hd)]

theorem not_isDigit (hb : base ≤ 16) (hc : digitValue? base c = none) : ¬ IsDigit base c d := by
  intro hd
  rw [(digitValue?_eq_some_iff hb).2 hd] at hc
  cases hc

namespace Numeral

theorem ne_nil (h : Numeral base cs n) : cs ≠ [] := by
  cases h with
  | digit => exact List.cons_ne_nil _ _
  | concat => exact List.concat_ne_nil _ _

theorem isDigit_of_mem (h : Numeral base cs n) (hc : c ∈ cs) : ∃ d, IsDigit base c d := by
  induction h with
  | digit hd => exact ⟨_, List.mem_singleton.1 hc ▸ hd⟩
  | concat hn hd ih =>
      rcases List.mem_append.1 hc with hc | hc
      · exact ih hc
      · exact ⟨_, List.mem_singleton.1 hc ▸ hd⟩

theorem notMem (h : Numeral base cs n) (hb : base ≤ 16) (hc : digitValue? base c = none) :
    c ∉ cs := by
  intro hm
  obtain ⟨d, hd⟩ := h.isDigit_of_mem hm
  exact not_isDigit hb hc hd

end Numeral

theorem readDigits_of_numeral (hb : base ≤ 16) (h : Numeral base cs n) (hn : n ≤ limit) :
    readDigits base limit e 0 cs = .ok n := by
  induction h with
  | digit hd =>
      simp only [readDigits, (digitValue?_eq_some_iff hb).2 hd, Nat.zero_mul, Nat.zero_add,
        if_pos hn]
  | @concat cs c m d hm hd ih =>
      have hle : m ≤ m * base := Nat.le_mul_of_pos_right m (Nat.zero_lt_of_lt hd.1)
      rw [readDigits_append, ih (by omega)]
      simp only [bind, Except.bind, readDigits, (digitValue?_eq_some_iff hb).2 hd, if_pos hn]

theorem readDigits_singleton (h : readDigits base limit e m [c] = .ok n) :
    ∃ d, digitValue? base c = some d ∧ m * base + d = n ∧ n ≤ limit := by
  cases hc : digitValue? base c with
  | none => simp [readDigits, hc] at h
  | some d =>
      simp only [readDigits, hc] at h
      split at h
      next hle => exact ⟨d, rfl, Except.ok.inj h, Except.ok.inj h ▸ hle⟩
      next => cases h

theorem numeral_of_readDigits (hb : base ≤ 16) (hne : cs ≠ [])
    (h : readDigits base limit e 0 cs = .ok n) : Numeral base cs n ∧ n ≤ limit := by
  induction cs using List.reverseRecOn generalizing n with
  | nil => exact absurd rfl hne
  | append_singleton cs c ih =>
      rw [readDigits_append] at h
      cases hr : readDigits base limit e 0 cs with
      | error => simp [hr, bind, Except.bind] at h
      | ok m =>
          simp only [hr, bind, Except.bind] at h
          obtain ⟨d, hd, rfl, hle⟩ := readDigits_singleton h
          have hdigit := (digitValue?_eq_some_iff hb).1 hd
          refine ⟨?_, hle⟩
          by_cases hcs : cs = []
          · subst hcs
            obtain rfl : 0 = m := Except.ok.inj hr
            simpa using Numeral.digit hdigit
          · exact .concat (ih hcs hr).1 hdigit

theorem readNonempty_eq_ok_iff (hb : base ≤ 16) :
    readNonempty base limit e cs = .ok n ↔ Numeral base cs n ∧ n ≤ limit := by
  cases cs with
  | nil =>
      constructor
      · intro h
        cases h
      · exact fun h => absurd rfl h.1.ne_nil
  | cons c cs =>
      exact ⟨numeral_of_readDigits hb (List.cons_ne_nil c cs),
        fun h => readDigits_of_numeral hb h.1 h.2⟩

theorem readNat_eq_ok_iff (hb : base ≤ 16) :
    readNat base limit cs = .ok n ↔
      ∃ digits, (cs = digits ∨ cs = '+' :: digits) ∧ Numeral base digits n ∧ n ≤ limit := by
  have hplus : digitValue? base '+' = none := rfl
  constructor
  · intro h
    unfold readNat at h
    split at h
    next => cases h
    next cs => exact ⟨cs, .inr rfl, (readNonempty_eq_ok_iff hb).1 h⟩
    next hne _ => exact ⟨cs, .inl rfl, numeral_of_readDigits hb hne h⟩
  · rintro ⟨digits, rfl | rfl, hn, hle⟩
    · unfold readNat
      split
      next => exact absurd rfl hn.ne_nil
      next => exact absurd List.mem_cons_self (hn.notMem hb hplus)
      next => exact readDigits_of_numeral hb hn hle
    · exact (readNonempty_eq_ok_iff hb).2 ⟨hn, hle⟩

theorem map_eq_ok_iff {ε α β : Type} {f : α → β} {x : Except ε α} {b : β} :
    x.map f = .ok b ↔ ∃ a, x = .ok a ∧ f a = b := by
  cases x with
  | error => simp [Except.map]
  | ok => simp [Except.map]

theorem readInt_minus (bits : Nat) (cs : List Char) :
    readInt bits ('-' :: cs) =
      (readNonempty 10 (1 <<< (bits - 1)) .tooSmall cs).map fun n : Nat => -(n : Int) := by
  rw [readInt]
  cases readNonempty 10 (1 <<< (bits - 1)) .tooSmall cs with
  | error => rfl
  | ok => rfl

theorem readInt_of_head {bits : Nat} (h : cs.head? ≠ some '-') :
    readInt bits cs = (readNat 10 (1 <<< (bits - 1) - 1) cs).map Int.ofNat := by
  unfold readInt
  split
  · exact absurd rfl h
  · rfl

theorem Signed.head_eq_minus {i : Int} (h : Signed ('-' :: cs) i) :
    ∃ n : Nat, i = -n ∧ Numeral 10 cs n := by
  cases h with
  | bare h => exact absurd List.mem_cons_self (h.notMem (by decide) rfl)
  | minus h => exact ⟨_, rfl, h⟩

theorem Signed.of_head {i : Int} (h : Signed cs i) (hc : cs.head? ≠ some '-') :
    ∃ n : Nat, i = n ∧ ∃ digits, (cs = digits ∨ cs = '+' :: digits) ∧ Numeral 10 digits n := by
  cases h with
  | bare h => exact ⟨_, rfl, _, .inl rfl, h⟩
  | plus h => exact ⟨_, rfl, _, .inr rfl, h⟩
  | minus => exact absurd rfl hc

theorem readInt_eq_ok_iff {bits : Nat} {i : Int} :
    readInt bits cs = .ok i ↔
      Signed cs i ∧ -(1 <<< (bits - 1) : Nat) ≤ i ∧ i < (1 <<< (bits - 1) : Nat) := by
  have hpos : 0 < 1 <<< (bits - 1) := by
    rw [Nat.one_shiftLeft]
    exact Nat.two_pow_pos (bits - 1)
  by_cases hc : cs.head? = some '-'
  · obtain ⟨cs, rfl⟩ := List.head?_eq_some_iff.1 hc
    rw [readInt_minus, map_eq_ok_iff]
    constructor
    · rintro ⟨n, hn, rfl⟩
      obtain ⟨hn, hle⟩ := (readNonempty_eq_ok_iff (by decide)).1 hn
      exact ⟨.minus hn, by omega, by omega⟩
    · rintro ⟨h, hmin, -⟩
      obtain ⟨n, rfl, hn⟩ := h.head_eq_minus
      exact ⟨n, (readNonempty_eq_ok_iff (by decide)).2 ⟨hn, by omega⟩, rfl⟩
  · rw [readInt_of_head hc, map_eq_ok_iff]
    constructor
    · rintro ⟨n, hn, rfl⟩
      obtain ⟨digits, hcs, hdigits, hle⟩ := (readNat_eq_ok_iff (by decide)).1 hn
      rw [Int.ofNat_eq_natCast]
      refine ⟨?_, by omega, by omega⟩
      rcases hcs with rfl | rfl
      · exact .bare hdigits
      · exact .plus hdigits
    · rintro ⟨h, -, hmax⟩
      obtain ⟨n, rfl, digits, hcs, hn⟩ := h.of_head hc
      exact ⟨n, (readNat_eq_ok_iff (by decide)).2 ⟨digits, hcs, hn, by omega⟩, rfl⟩

theorem isDigit_of_toLower (hb : base ≤ 16) (hd : d < base) (h : c.toLower = d.digitChar) :
    IsDigit base c d := by
  refine ⟨hd, ?_⟩
  by_cases hc : 'A'.toNat ≤ c.toNat ∧ c.toNat ≤ 'Z'.toNat
  · have hletter : ∀ k < 26, ∀ d < 16, (Char.ofNat ('A'.toNat + k)).toLower = d.digitChar →
        Char.ofNat ('A'.toNat + k) = d.digitChar.toUpper := by decide
    have hz : 'Z'.toNat = 'A'.toNat + 25 := rfl
    have hsum : 'A'.toNat + (c.toNat - 'A'.toNat) = c.toNat := Nat.add_sub_cancel' hc.1
    have hup := hletter (c.toNat - 'A'.toNat) (by omega) d (by omega)
    rw [hsum, Char.ofNat_toNat] at hup
    exact .inr (hup h)
  · have hsame : c.toLower = c := dif_neg hc
    exact .inl (hsame ▸ h)

theorem numeral_of_map_toLower (h1 : 1 < base) (hb : base ≤ 16)
    (h : cs.map Char.toLower = Nat.toDigits base n) : Numeral base cs n := by
  induction n using Nat.strongRecOn generalizing cs with
  | ind n ih =>
      rw [Nat.toDigits_eq_if h1] at h
      by_cases hn : n < base
      · rw [if_pos hn] at h
        obtain ⟨c, rfl, hc⟩ := List.map_eq_singleton_iff.1 h
        exact .digit (isDigit_of_toLower hb hn hc)
      · rw [if_neg hn] at h
        obtain ⟨front, last, rfl, hfront, hlast⟩ := List.map_eq_append_iff.1 h
        obtain ⟨c, rfl, hc⟩ := List.map_eq_singleton_iff.1 hlast
        have hdigit := isDigit_of_toLower hb (Nat.mod_lt n (by omega)) hc
        have hconcat := (ih (n / base) (Nat.div_lt_self (by omega) h1) hfront).concat hdigit
        rwa [Nat.div_add_mod'] at hconcat

theorem numeral_map_toDigits (h1 : 1 < base) (hb : base ≤ 16) {f : Char → Char}
    (hf : ∀ d < 16, (f d.digitChar).toLower = d.digitChar) (n : Nat) :
    Numeral base ((Nat.toDigits base n).map f) n := by
  apply numeral_of_map_toLower h1 hb
  rw [List.map_map]
  refine (List.map_congr_left fun c hc => ?_).trans (List.map_id _)
  obtain ⟨d, hd, rfl⟩ := mem_toDigits h1 hc
  exact hf d (Nat.lt_of_lt_of_le hd hb)

theorem numeral_toDigits (h1 : 1 < base) (hb : base ≤ 16) (n : Nat) :
    Numeral base (Nat.toDigits base n) n := by
  simpa using numeral_map_toDigits h1 hb (f := id) (by decide) n

namespace Numeral

theorem zero_cons (h : Numeral base cs n) : Numeral base ('0' :: cs) n := by
  have hzero {d : Nat} {c : Char} (hd : IsDigit base c d) : IsDigit base '0' 0 :=
    ⟨Nat.zero_lt_of_lt hd.1, .inl rfl⟩
  induction h with
  | digit hd => simpa using (digit (hzero hd)).concat hd
  | concat _ hd ih => exact ih.concat hd

theorem zeros (h : Numeral base cs n) (zeros : Nat) :
    Numeral base (List.replicate zeros '0' ++ cs) n := by
  induction zeros with
  | zero => exact h
  | succ zeros ih => exact ih.zero_cons

theorem padLeft {s : String} (h : Numeral base s.toList n) (width : Nat) :
    Numeral base (padLeft width '0' s).toList n := by
  rw [toList_padLeft]
  exact h.zeros _

end Numeral

def value? (base : Nat) : List Char → Option Nat
  | [] => none
  | cs => cs.foldlM (fun n c => (digitValue? base c).map (n * base + ·)) 0

theorem foldlM_of_numeral (hb : base ≤ 16) (h : Numeral base cs n) :
    cs.foldlM (fun n c => (digitValue? base c).map (n * base + ·)) 0 = some n := by
  induction h with
  | digit hd => simp [(digitValue?_eq_some_iff hb).2 hd]
  | concat hn hd ih =>
      rw [List.foldlM_append, ih]
      simp [(digitValue?_eq_some_iff hb).2 hd]

theorem value?_of_numeral (hb : base ≤ 16) (h : Numeral base cs n) : value? base cs = some n := by
  have hf := foldlM_of_numeral hb h
  obtain ⟨c, cs, rfl⟩ := List.exists_cons_of_ne_nil h.ne_nil
  exact hf

theorem Numeral.exists_head (h : Numeral base cs n) :
    ∃ c rest, cs = c :: rest ∧ ∃ d, IsDigit base c d := by
  obtain ⟨c, rest, rfl⟩ := List.exists_cons_of_ne_nil h.ne_nil
  exact ⟨c, rest, rfl, h.isDigit_of_mem List.mem_cons_self⟩

theorem numeral_decimal (n : Nat) : Numeral 10 (decimal n).toList n := by
  rw [decimal, String.toList_ofList]
  exact numeral_toDigits (by decide) (by decide) n

theorem numeral_hex (n : Nat) : Numeral 16 (hex n).toList n := by
  rw [hex, String.toList_ofList]
  exact numeral_toDigits (by decide) (by decide) n

theorem numeral_wideHex (width n : Nat) : Numeral 16 (wideHex width n).toList n :=
  (numeral_hex n).padLeft width

theorem numeral_upperHex (n : Nat) : Numeral 16 (upperHex n).toList n := by
  rw [upperHex, String.toList_ofList]
  exact numeral_map_toDigits (by decide) (by decide) (by decide) n

theorem signed_integer (i : Int) : Signed (integer i).toList i := by
  have hdecimal (n : Nat) := numeral_toDigits (by decide : 1 < 10) (by decide) n
  cases i with
  | ofNat n =>
      rw [toList_integer_ofNat]
      exact .bare (hdecimal n)
  | negSucc n =>
      rw [toList_integer_negSucc]
      exact .minus (hdecimal (n + 1))

end Interop.Text
