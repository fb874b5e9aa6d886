import Interop.Proofs.Text.Dump
import Mathlib.Algebra.Group.Nat.Defs

namespace Interop.Text

/-- The parts of a line between runs of blanks. -/
def words (line : List Char) : List (List Char) := (line.splitOn ' ').filter (· ≠ [])

structure IsWord (word : List Char) : Prop where
  nonempty : word ≠ []
  unbroken : ' ' ∉ word

variable {word word' : List Char} {ws : List (List Char)} {s : String} {width : Nat}

theorem words_append_blank (line rest : List Char) :
    words (line ++ ' ' :: rest) = words line ++ words rest := by
  rw [words, List.splitOn_append_cons_self, List.filter_append]
  rfl

theorem words_blank_cons (rest : List Char) : words (' ' :: rest) = words rest :=
  words_append_blank [] rest

theorem words_blanks_append (blanks : Nat) (rest : List Char) :
    words (List.replicate blanks ' ' ++ rest) = words rest := by
  induction blanks with
  | zero => rfl
  | succ blanks ih => rw [List.replicate_succ, List.cons_append, words_blank_cons, ih]

namespace IsWord

theorem append (h : IsWord word) (h' : IsWord word') : IsWord (word ++ word') where
  nonempty := List.append_ne_nil_of_left_ne_nil h.nonempty word'
  unbroken hm := (List.mem_append.1 hm).elim h.unbroken h'.unbroken

end IsWord

theorem words_intercalate (h : ∀ word ∈ ws, IsWord word) : words ([' '].intercalate ws) = ws := by
  by_cases hws : ws = []
  · subst hws
    rfl
  · rw [words, List.splitOn_intercalate ' ' (fun word hw => (h word hw).unbroken) hws]
    exact List.filter_eq_self.2 fun word hw => decide_eq_true (h word hw).nonempty

theorem IsWord.words_eq (h : IsWord word) : words word = [word] := by
  have hw := words_intercalate (List.forall_mem_singleton.2 h)
  rwa [List.intercalate_singleton] at hw

theorem words_padRight (h : s.length < width) (rest : List Char) :
    words ((padRight width s).toList ++ rest) = words s.toList ++ words rest := by
  obtain ⟨blanks, hb⟩ := Nat.exists_eq_add_of_lt h
  have hwidth : width - s.length = blanks + 1 := by omega
  rw [toList_padRight, hwidth, List.replicate_succ, List.append_assoc, List.cons_append,
    words_append_blank, words_blanks_append]

theorem padRight_of_le (h : width ≤ s.length) : padRight width s = s := by
  rw [padRight, Nat.sub_eq_zero_of_le h]
  exact String.append_empty

theorem Numeral.isWord {base n : Nat} (h : Numeral base word n) (hb : base ≤ 16) : IsWord word where
  nonempty := h.ne_nil
  unbroken := h.notMem hb rfl

theorem isWord_wideHex (width n : Nat) : IsWord (wideHex width n).toList :=
  (numeral_wideHex width n).isWord (by decide)

theorem isWord_integer (i : Int) : IsWord (integer i).toList := by
  have hminus : IsWord ['-'] := ⟨List.cons_ne_nil _ _, by decide⟩
  have hdecimal (n : Nat) : IsWord (Nat.toDigits 10 n) :=
    (numeral_toDigits (by decide) (by decide) n).isWord (by decide)
  cases i with
  | ofNat n => exact toList_integer_ofNat n ▸ hdecimal n
  | negSucc n =>
      rw [toList_integer_negSucc]
      exact hminus.append (hdecimal (n + 1))

theorem length_integer_le_iff {digits : Nat} (hd : 0 < digits) (i : Int) :
    (integer i).length ≤ digits + 1 ↔
      -((10 ^ digits : Nat) : Int) < i ∧ i < ((10 ^ (digits + 1) : Nat) : Int) := by
  rw [← String.length_toList]
  cases i with
  | ofNat n =>
      rw [toList_integer_ofNat, Nat.length_toDigits_le_iff (by decide) (Nat.succ_pos digits)]
      have hpos : 0 < 10 ^ digits := Nat.pow_pos (by decide)
      rw [Int.ofNat_eq_natCast]
      omega
  | negSucc n =>
      rw [toList_integer_negSucc, List.length_cons, Nat.add_le_add_iff_right,
        Nat.length_toDigits_le_iff (by decide) hd]
      omega

theorem words_hexLine (digits itemDigits offset : Nat) (items : List Nat) :
    words (hexLine digits itemDigits offset items).toList =
      (wideHex digits offset).toList :: items.map fun n => (wideHex itemDigits n).toList := by
  have hitems : ∀ word ∈ items.map fun n => (wideHex itemDigits n).toList, IsWord word := by
    intro word hw
    obtain ⟨n, -, rfl⟩ := List.mem_map.1 hw
    exact isWord_wideHex itemDigits n
  have hline : (hexLine digits itemDigits offset items).toList =
      (wideHex digits offset).toList ++
        ' ' :: ' ' :: [' '].intercalate (items.map fun n => (wideHex itemDigits n).toList) := by
    simp [hexLine, Function.comp_def]
  rw [hline, words_append_blank, words_blank_cons, words_intercalate hitems,
    (isWord_wideHex digits offset).words_eq]
  rfl

end Interop.Text
