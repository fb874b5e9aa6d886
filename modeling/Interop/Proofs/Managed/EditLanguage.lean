import Interop.Managed.Edit
import Interop.Proofs.Text.Numerals
import Interop.Proofs.Text.Surrogates

namespace Interop

namespace Text

theorem dropWhile_isBlank_append {inside : List Char} (hne : inside ≠ [])
    (hi : ∀ c ∈ inside, isBlank c = false) (rest : List Char) :
    (inside ++ rest).dropWhile isBlank = inside ++ rest := by
  obtain ⟨c, cs, rfl⟩ := List.exists_cons_of_ne_nil hne
  rw [List.cons_append]
  exact List.dropWhile_cons_of_neg (by simp [hi c List.mem_cons_self])

theorem trim_append {before inside after : List Char} (hb : ∀ c ∈ before, isBlank c = true)
    (ha : ∀ c ∈ after, isBlank c = true) (hne : inside ≠ [])
    (hi : ∀ c ∈ inside, isBlank c = false) : trim (before ++ inside ++ after) = inside := by
  have hreverse : inside.reverse ≠ [] := mt List.reverse_eq_nil_iff.1 hne
  rw [trim, List.append_assoc, List.dropWhile_append_of_pos hb,
    dropWhile_isBlank_append hne hi, List.reverse_append,
    List.dropWhile_append_of_pos fun c hc => ha c (List.mem_reverse.1 hc)]
  have hd := dropWhile_isBlank_append hreverse (fun c hc => hi c (List.mem_reverse.1 hc)) []
  rw [List.append_nil] at hd
  rw [hd, List.reverse_reverse]

theorem exists_trim (cs : List Char) :
    ∃ before after, cs = before ++ trim cs ++ after ∧ (∀ c ∈ before, isBlank c = true) ∧
      ∀ c ∈ after, isBlank c = true := by
  have hblank {l : List Char} : ∀ c ∈ l.takeWhile isBlank, isBlank c = true :=
    List.all_eq_true.1 List.all_takeWhile
  let rest := (cs.dropWhile isBlank).reverse
  refine ⟨cs.takeWhile isBlank, (rest.takeWhile isBlank).reverse, ?_, hblank, ?_⟩
  · have hrest : trim cs ++ (rest.takeWhile isBlank).reverse = cs.dropWhile isBlank := by
      rw [trim, ← List.reverse_append, List.takeWhile_append_dropWhile, List.reverse_reverse]
    rw [List.append_assoc, hrest, List.takeWhile_append_dropWhile]
  · exact fun c hc => hblank c (List.mem_reverse.1 hc)

theorem IsDigit.not_isBlank {base d : Nat} {c : Char} (hb : base ≤ 16) (h : IsDigit base c d) :
    isBlank c = false := by
  have hdigit : ∀ d < 16, isBlank d.digitChar = false ∧ isBlank d.digitChar.toUpper = false := by
    decide
  have hd := hdigit d (Nat.lt_of_lt_of_le h.1 hb)
  rcases h.2 with rfl | rfl
  · exact hd.1
  · exact hd.2

namespace Signed

variable {cs : List Char} {i : Int}

theorem ne_nil (h : Signed cs i) : cs ≠ [] := by
  cases h with
  | bare h => exact h.ne_nil
  | plus => exact List.cons_ne_nil _ _
  | minus => exact List.cons_ne_nil _ _

theorem digit_or_sign (h : Signed cs i) {c : Char} (hc : c ∈ cs) :
    (∃ d, IsDigit 10 c d) ∨ c = '+' ∨ c = '-' := by
  cases h with
  | bare h => exact .inl (h.isDigit_of_mem hc)
  | plus h =>
      rcases List.mem_cons.1 hc with rfl | hc
      · exact .inr (.inl rfl)
      · exact .inl (h.isDigit_of_mem hc)
  | minus h =>
      rcases List.mem_cons.1 hc with rfl | hc
      · exact .inr (.inr rfl)
      · exact .inl (h.isDigit_of_mem hc)

theorem not_isBlank (h : Signed cs i) : ∀ c ∈ cs, isBlank c = false := by
  intro c hc
  rcases h.digit_or_sign hc with ⟨d, hd⟩ | rfl | rfl
  · exact hd.not_isBlank (by decide)
  · rfl
  · rfl

end Signed

end Text

namespace Managed.Edit

open Text

variable {cs index unit : List Char} {i : Int32} {u v : UInt16} {e : Edit}

def IndexText (cs : List Char) (i : Int32) : Prop :=
  ∃ before numeral after, cs = before ++ numeral ++ after ∧ (∀ c ∈ before, isBlank c = true) ∧
    (∀ c ∈ after, isBlank c = true) ∧ Signed numeral i.toInt

/-- One character of the first plane, or the number of a unit behind `U+`. -/
inductive UnitText : List Char → UInt16 → Prop
  | character {c : Char} (h : c.toNat < 0x10000) : UnitText [c] (UInt16.ofNat c.toNat)
  | code {letter : Char} {digits : List Char} {u : UInt16} (hl : letter = 'U' ∨ letter = 'u')
      (hd : Numeral 16 digits u.toNat) : UnitText (letter :: '+' :: digits) u

/-- The number of a unit with a sign of its own, which is one plus too many. -/
inductive StraySign : List Char → UInt16 → Prop
  | code {letter : Char} {digits : List Char} {u : UInt16} (hl : letter = 'U' ∨ letter = 'u')
      (hd : Numeral 16 digits u.toNat) : StraySign (letter :: '+' :: '+' :: digits) u

/-- An index and a unit around the first equals sign. -/
def Joined (unitText : List Char → UInt16 → Prop) (cs : List Char) (e : Edit) : Prop :=
  ∃ index unit, cs = index ++ '=' :: unit ∧ '=' ∉ index ∧ IndexText index e.index ∧
    unitText unit e.unit

theorem readIndex?_eq_some_iff : readIndex? cs = some i ↔ IndexText cs i := by
  have hbits : 1 <<< (32 - 1) = (2147483648 : Nat) := rfl
  constructor
  · intro h
    unfold readIndex? at h
    split at h
    next n hr =>
      obtain ⟨hs, hmin, hmax⟩ := readInt_eq_ok_iff.1 hr
      obtain ⟨before, after, hcs, hb, ha⟩ := exists_trim cs
      obtain rfl := Option.some.inj h
      rw [hbits] at hmin hmax
      refine ⟨before, trim cs, after, hcs, hb, ha, ?_⟩
      rwa [Int32.toInt_ofInt_of_le (by omega) (by omega)]
    next => cases h
  · rintro ⟨before, numeral, after, rfl, hb, ha, hs⟩
    have hr : readInt 32 numeral = .ok i.toInt := by
      have hmin := i.le_toInt
      have hmax := i.toInt_lt
      refine readInt_eq_ok_iff.2 ⟨hs, ?_, ?_⟩ <;> rw [hbits] <;> omega
    rw [readIndex?, trim_append hb ha hs.ne_nil hs.not_isBlank, hr]
    simp only [Int32.ofInt_toInt]

theorem ofHex?_eq_some_iff :
    ofHex? cs = some u ↔
      ∃ digits, (cs = digits ∨ cs = '+' :: digits) ∧ Numeral 16 digits u.toNat := by
  constructor
  · intro h
    unfold ofHex? at h
    split at h
    next n hr =>
      obtain ⟨digits, hcs, hn, hle⟩ := (readNat_eq_ok_iff (by decide)).1 hr
      obtain rfl := Option.some.inj h
      refine ⟨digits, hcs, ?_⟩
      rwa [UInt16.toNat_ofNat_of_lt' (Nat.lt_succ_of_le hle)]
    next => cases h
  · rintro ⟨digits, hcs, hd⟩
    have hr : readNat 16 0xFFFF cs = .ok u.toNat :=
      (readNat_eq_ok_iff (by decide)).2 ⟨digits, hcs, hd, Nat.le_of_lt_succ u.toNat_lt⟩
    rw [ofHex?, hr]
    simp only [UInt16.ofNat_toNat]

theorem readUnit?_code {letter : Char} (hl : letter = 'U' ∨ letter = 'u') (hne : cs ≠ []) :
    readUnit? (letter :: '+' :: cs) = ofHex? cs := by
  obtain ⟨c, cs, rfl⟩ := List.exists_cons_of_ne_nil hne
  rcases hl with rfl | rfl
  · rfl
  · rfl

theorem unitText_or_straySign {letter : Char} (hl : letter = 'U' ∨ letter = 'u')
    (h : ofHex? cs = some u) :
    UnitText (letter :: '+' :: cs) u ∨ StraySign (letter :: '+' :: cs) u := by
  obtain ⟨digits, rfl | rfl, hd⟩ := ofHex?_eq_some_iff.1 h
  · exact .inl (.code hl hd)
  · exact .inr (.code hl hd)

theorem readUnit?_eq_some_iff :
    readUnit? cs = some u ↔ UnitText cs u ∨ StraySign cs u := by
  constructor
  · intro h
    unfold readUnit? at h
    split at h
    next c =>
      split at h
      next hc =>
        obtain rfl := Option.some.inj h
        exact .inl (.character hc)
      next => cases h
    next => exact unitText_or_straySign (.inl rfl) h
    next => exact unitText_or_straySign (.inr rfl) h
    next => cases h
  · rintro (h | h)
    · cases h with
      | character hc => simp [readUnit?, hc]
      | code hl hd =>
          rw [readUnit?_code hl hd.ne_nil]
          exact ofHex?_eq_some_iff.2 ⟨_, .inl rfl, hd⟩
    · cases h with
      | code hl hd =>
          rw [readUnit?_code hl (List.cons_ne_nil _ _)]
          exact ofHex?_eq_some_iff.2 ⟨_, .inr rfl, hd⟩

theorem UnitText.not_straySign (h : UnitText unit u) : ¬ StraySign unit v := by
  intro hs
  cases hs with
  | code hl hs =>
      cases h with
      | code _ hd => exact hd.notMem (by decide) rfl List.mem_cons_self

theorem parse_eq (h : '=' ∉ index) (unit : List Char) :
    parse (index ++ '=' :: unit) =
      match readIndex? index, readUnit? unit with
      | none, _ => .error (.invalidIndex index)
      | some _, none => .error (.invalidUnit unit)
      | some i, some u => .ok ⟨i, u⟩ := by
  cases hindex : readIndex? index with
  | none => simp only [parse, splitFirst_append h, hindex]
  | some i =>
      cases hunit : readUnit? unit with
      | none => simp only [parse, splitFirst_append h, hindex, hunit]
      | some u => simp only [parse, splitFirst_append h, hindex, hunit]

theorem parse_of_notMem (h : '=' ∉ cs) : parse cs = .error (.missingSeparator cs) := by
  rw [parse, splitFirst_of_notMem h]

theorem split_unique {index' unit' : List Char} (h : '=' ∉ index) (h' : '=' ∉ index')
    (he : index ++ '=' :: unit = index' ++ '=' :: unit') : index = index' ∧ unit = unit' := by
  have hs := congrArg (splitFirst '=') he
  rw [splitFirst_append h, splitFirst_append h', Prod.mk.injEq, Option.some.injEq] at hs
  exact hs

theorem joined_or {p q : List Char → UInt16 → Prop} :
    Joined (fun unit u => p unit u ∨ q unit u) cs e ↔ Joined p cs e ∨ Joined q cs e := by
  simp only [Joined, and_or_left, exists_or]

theorem parse_eq_ok_iff :
    parse cs = .ok e ↔ Joined UnitText cs e ∨ Joined StraySign cs e := by
  rw [← joined_or]
  constructor
  · intro h
    by_cases hm : '=' ∈ cs
    · obtain ⟨index, unit, rfl, hi⟩ := List.eq_append_cons_of_mem hm
      rw [parse_eq hi] at h
      split at h
      next => cases h
      next => cases h
      next hindex hunit =>
        obtain rfl := Except.ok.inj h
        exact ⟨index, unit, rfl, hi, readIndex?_eq_some_iff.1 hindex,
          readUnit?_eq_some_iff.1 hunit⟩
    · rw [parse_of_notMem hm] at h
      cases h
  · rintro ⟨index, unit, rfl, hi, hindex, hunit⟩
    rw [parse_eq hi, readIndex?_eq_some_iff.2 hindex, readUnit?_eq_some_iff.2 hunit]

theorem Joined.disjoint {d : Edit} (h : Joined UnitText cs d) : ¬ Joined StraySign cs e := by
  rintro ⟨index, unit, hcs, hi, -, hs⟩
  obtain ⟨index', unit', rfl, hi', -, hu⟩ := h
  obtain ⟨rfl, rfl⟩ := split_unique hi' hi hcs
  exact hu.not_straySign hs

/-- An edit is read from an index, the first equals sign and a unit, and from nothing else but the
number of a unit that has a plus sign too many. So only such numbers are in the way of the exact
language. -/
theorem parse_language (cs : List Char) :
    (∀ e, parse cs = .ok e ↔ Joined UnitText cs e ∨ Joined StraySign cs e) ∧
    ((∀ e, parse cs = .ok e ↔ Joined UnitText cs e) ↔ ¬ ∃ e, Joined StraySign cs e) := by
  refine ⟨fun _ => parse_eq_ok_iff, ?_⟩
  constructor
  · rintro hexact ⟨e, hs⟩
    exact ((hexact e).1 (parse_eq_ok_iff.2 (.inr hs))).disjoint hs
  · intro hnone e
    exact parse_eq_ok_iff.trans (or_iff_left fun hs => hnone ⟨e, hs⟩)

/-- The sign behind `U+` is let through, although this spells no unit. -/
theorem parse_stray_sign :
    parse "2=U++41".toList = .ok ⟨2, 0x41⟩ ∧ ∀ e, ¬ Joined UnitText "2=U++41".toList e := by
  have hd : Numeral 16 ['4', '1'] (0x41 : UInt16).toNat :=
    numeral_toDigits (by decide) (by decide) 0x41
  have hs : Joined StraySign "2=U++41".toList ⟨2, 0x41⟩ :=
    ⟨['2'], "U++41".toList, rfl, by decide, readIndex?_eq_some_iff.1 rfl, .code (.inl rfl) hd⟩
  exact ⟨rfl, fun e h => h.disjoint hs⟩

theorem IndexText.notMem (h : IndexText cs i) : '=' ∉ cs := by
  obtain ⟨before, numeral, after, rfl, hb, ha, hs⟩ := h
  intro hm
  rcases List.mem_append.1 hm with hm | hm
  · rcases List.mem_append.1 hm with hm | hm
    · exact absurd (hb _ hm) (by decide)
    · rcases hs.digit_or_sign hm with ⟨d, hd⟩ | hd | hd
      · exact not_isDigit (by decide) rfl hd
      · exact absurd hd (by decide)
      · exact absurd hd (by decide)
  · exact absurd (ha _ hm) (by decide)

theorem unitText_char (h : (Utf16.isHigh u || Utf16.isLow u) = false) :
    UnitText [Char.ofNat u.toNat] u := by
  obtain ⟨hh, hl⟩ := Bool.or_eq_false_iff.1 h
  have hc := Utf16.toNat_ofNat_toNat hh hl
  have ht : UnitText [Char.ofNat u.toNat] (UInt16.ofNat (Char.ofNat u.toNat).toNat) :=
    .character (hc.symm ▸ u.toNat_lt)
  rwa [hc, UInt16.ofNat_toNat] at ht

/-- The decimal index between blanks, and a unit. -/
def spelled (before : List Char) (i : Int32) (after unit : List Char) : List Char :=
  before ++ (integer i.toInt).toList ++ after ++ '=' :: unit

theorem parse_spelled {before after : List Char} (hb : ∀ c ∈ before, isBlank c = true)
    (ha : ∀ c ∈ after, isBlank c = true) (hu : UnitText unit u) :
    parse (spelled before i after unit) = .ok ⟨i, u⟩ := by
  have hi : IndexText (before ++ (integer i.toInt).toList ++ after) i :=
    ⟨before, _, after, rfl, hb, ha, signed_integer i.toInt⟩
  exact parse_eq_ok_iff.2 (.inl ⟨_, unit, rfl, hi.notMem, hi, hu⟩)

theorem not_indexText_of_none (h : readIndex? index = none) : ¬ ∃ i, IndexText index i := by
  rintro ⟨i, hi⟩
  rw [readIndex?_eq_some_iff.2 hi] at h
  cases h

theorem not_unitText_of_none (h : readUnit? unit = none) : ¬ ∃ u, UnitText unit u := by
  rintro ⟨u, hu⟩
  rw [readUnit?_eq_some_iff.2 (.inl hu)] at h
  cases h

theorem defect_of_parse {err : EditError} (hi : '=' ∉ index)
    (h : parse (index ++ '=' :: unit) = .error err) :
    (err = .invalidIndex index ↔ ¬ ∃ i, IndexText index i) ∧
      (err = .invalidUnit unit ↔ (∃ i, IndexText index i) ∧ ¬ ∃ u, UnitText unit u) := by
  rw [parse_eq hi] at h
  cases hindex : readIndex? index with
  | none =>
      have hnone := not_indexText_of_none hindex
      rw [hindex] at h
      obtain rfl := Except.error.inj h
      exact ⟨iff_of_true rfl hnone, iff_of_false (by simp) fun hc => hnone hc.1⟩
  | some i =>
      have hsome : ∃ i, IndexText index i := ⟨i, readIndex?_eq_some_iff.1 hindex⟩
      cases hunit : readUnit? unit with
      | none =>
          rw [hindex, hunit] at h
          obtain rfl := Except.error.inj h
          exact ⟨iff_of_false (by simp) fun hc => hc hsome,
            iff_of_true rfl ⟨hsome, not_unitText_of_none hunit⟩⟩
      | some u =>
          rw [hindex, hunit] at h
          cases h

/-- Every edit is read from its spellings: the index in decimal between any blanks, and the unit
by its number, with zeros in front and letters in either case, or as the character that it is. What
is not read is refused for the first thing that is wrong with it. -/
theorem parse_spellings :
    (∀ (i : Int32) (u : UInt16) (before after : List Char),
      (∀ c ∈ before, isBlank c = true) → (∀ c ∈ after, isBlank c = true) →
      (∀ (letter : Char) (zeros : Nat) (digits : List Char), letter = 'U' ∨ letter = 'u' →
        digits.map Char.toLower = Nat.toDigits 16 u.toNat →
        parse (spelled before i after
          (letter :: '+' :: (List.replicate zeros '0' ++ digits))) = .ok ⟨i, u⟩) ∧
      ((Utf16.isHigh u || Utf16.isLow u) = false →
        parse (spelled before i after [Char.ofNat u.toNat]) = .ok ⟨i, u⟩)) ∧
    ∀ (cs : List Char) (err : EditError), parse cs = .error err →
      (err = .missingSeparator cs ↔ '=' ∉ cs) ∧
      ∀ index unit, cs = index ++ '=' :: unit → '=' ∉ index →
        (err = .invalidIndex index ↔ ¬ ∃ i, IndexText index i) ∧
        (err = .invalidUnit unit ↔ (∃ i, IndexText index i) ∧ ¬ ∃ u, UnitText unit u) := by
  constructor
  · intro i u before after hb ha
    constructor
    · intro letter zeros digits hl hd
      have hn := numeral_of_map_toLower (by decide) (by decide) hd
      exact parse_spelled hb ha (.code hl (hn.zeros zeros))
    · intro hu
      exact parse_spelled hb ha (unitText_char hu)
  · intro cs err h
    constructor
    · by_cases hm : '=' ∈ cs
      · obtain ⟨index, unit, rfl, hi⟩ := List.eq_append_cons_of_mem hm
        refine iff_of_false ?_ fun hc => hc hm
        rintro rfl
        rw [parse_eq hi] at h
        split at h <;> cases h
      · rw [parse_of_notMem hm] at h
        exact iff_of_true (Except.error.inj h).symm hm
    · rintro index unit rfl hi
      exact defect_of_parse hi h

/-- The least index between blanks with a surrogate in letters of both cases, and a text with two
defects. -/
theorem parse_spellings_least :
    ("DaBc".toList.map Char.toLower = Nat.toDigits 16 (0xDABC : UInt16).toNat ∧
      parse "　-2147483648 =u+00DaBc".toList = .ok ⟨Int32.minValue, 0xDABC⟩) ∧
    parse "six=Ea".toList = .error (.invalidIndex "six".toList) ∧
      ¬ ∃ i, IndexText "six".toList i := by
  have hd : "DaBc".toList.map Char.toLower = Nat.toDigits 16 (0xDABC : UInt16).toNat := by decide
  have hwide : ∀ c ∈ ['　'], isBlank c = true := List.forall_mem_singleton.2 rfl
  have hspace : ∀ c ∈ [' '], isBlank c = true := List.forall_mem_singleton.2 rfl
  have hs := (parse_spellings.1 Int32.minValue 0xDABC ['　'] [' '] hwide hspace).1
    'u' 2 "DaBc".toList (.inr rfl) hd
  have he : parse "six=Ea".toList = .error (.invalidIndex "six".toList) := rfl
  have hdefect := (parse_spellings.2 _ _ he).2 "six".toList "Ea".toList rfl (by decide)
  exact ⟨⟨hd, hs⟩, he, hdefect.1.1 rfl⟩

end Managed.Edit

end Interop
