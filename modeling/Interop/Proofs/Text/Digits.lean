import Interop.Text.Integer
import Interop.Text.Numeral

namespace Interop.Text

theorem mem_toDigits {base n : Nat} {c : Char} (hb : 1 < base) (hc : c ∈ Nat.toDigits base n) :
    ∃ d < base, c = d.digitChar := by
  induction n using Nat.strongRecOn with
  | ind n ih =>
      rw [Nat.toDigits_eq_if hb] at hc
      by_cases hn : n < base
      · rw [if_pos hn, List.mem_singleton] at hc
        exact ⟨n, hn, hc⟩
      · rw [if_neg hn, List.mem_append, List.mem_singleton] at hc
        rcases hc with hc | hc
        · exact ih (n / base) (Nat.div_lt_self (by omega) hb) hc
        · exact ⟨n % base, Nat.mod_lt n (by omega), hc⟩

theorem isDigit_of_mem_toDigits {n : Nat} : ∀ c ∈ Nat.toDigits 10 n, c.isDigit = true :=
  fun _ hc => Nat.isDigit_of_mem_toDigits (by decide) (by decide) hc

theorem exists_toDigits (n : Nat) :
    ∃ c cs, Nat.toDigits 10 n = c :: cs ∧ c.isDigit = true := by
  obtain ⟨c, cs, h⟩ := List.exists_cons_of_ne_nil (Nat.toDigits_ne_nil (b := 10) (n := n))
  exact ⟨c, cs, h, isDigit_of_mem_toDigits c (h ▸ List.mem_cons_self)⟩

theorem head?_toDigits {n : Nat} (h : 0 < n) : (Nat.toDigits 10 n).head? ≠ some '0' := by
  induction n using Nat.strongRecOn with
  | ind n ih =>
      rw [Nat.toDigits_eq_if (by decide)]
      by_cases hn : n < 10
      · have hd : ∀ d < 10, 0 < d → d.digitChar ≠ '0' := by decide
        rw [if_pos hn, List.head?_cons]
        exact fun he => hd n hn h (Option.some.inj he)
      · rw [if_neg hn, List.head?_append, Option.or_of_isSome (by simp)]
        exact ih (n / 10) (by omega) (by omega)

theorem toList_integer_ofNat (n : Nat) : (integer (.ofNat n)).toList = Nat.toDigits 10 n :=
  String.toList_ofList

theorem toList_integer_negSucc (n : Nat) :
    (integer (.negSucc n)).toList = '-' :: Nat.toDigits 10 (n + 1) := by
  simp [integer, decimal]

theorem exists_head_integer (i : Int) :
    ∃ c cs, (integer i).toList = c :: cs ∧ (c.isDigit = true ∨ c = '-') := by
  cases i with
  | negSucc n => exact ⟨'-', Nat.toDigits 10 (n + 1), toList_integer_negSucc n, .inr rfl⟩
  | ofNat n =>
      obtain ⟨c, cs, h, hc⟩ := exists_toDigits n
      exact ⟨c, cs, (toList_integer_ofNat n).trans h, .inl hc⟩

theorem ne_of_isDigit {c d : Char} (hc : c.isDigit = true) (hd : d.isDigit = false) : c ≠ d := by
  rintro rfl
  rw [hd] at hc
  cases hc

theorem readNonempty_toDigits {limit n : Nat} (e : IntegerError) (hn : n ≤ limit) :
    readNonempty 10 limit e (Nat.toDigits 10 n) = .ok n := by
  have hr := readDigits_toDigits e (by decide : 1 < 10) (by decide) hn
  obtain ⟨c, cs, h, -⟩ := exists_toDigits n
  rw [h] at hr ⊢
  exact hr

theorem readNat_toDigits {limit n : Nat} (hn : n ≤ limit) :
    readNat 10 limit (Nat.toDigits 10 n) = .ok n := by
  have hr := readDigits_toDigits .tooLarge (by decide : 1 < 10) (by decide) hn
  obtain ⟨c, cs, h, hc⟩ := exists_toDigits n
  have hplus : c ≠ '+' := ne_of_isDigit hc (by decide)
  rw [h] at hr ⊢
  rw [readNat, hr]
  · exact fun he => by cases he
  · exact fun _ he => hplus (List.cons.inj he).1

theorem readInt_integer {bits : Nat} {i : Int} (hmin : -(1 <<< (bits - 1) : Nat) ≤ i)
    (hmax : i < (1 <<< (bits - 1) : Nat)) : readInt bits (integer i).toList = .ok i := by
  cases i with
  | negSucc n =>
      have hr : readNonempty 10 (1 <<< (bits - 1)) .tooSmall (Nat.toDigits 10 (n + 1)) =
          .ok (n + 1) :=
        readNonempty_toDigits .tooSmall (by omega)
      rw [toList_integer_negSucc, readInt, hr]
      rfl
  | ofNat n =>
      have hr : readNat 10 (1 <<< (bits - 1) - 1) (Nat.toDigits 10 n) = .ok n :=
        readNat_toDigits (Nat.le_sub_one_of_lt (Int.ofNat_lt.1 hmax))
      obtain ⟨c, cs, h, hc⟩ := exists_toDigits n
      have hminus : c ≠ '-' := ne_of_isDigit hc (by decide)
      rw [h] at hr
      rw [toList_integer_ofNat, h, readInt, hr]
      · rfl
      · exact fun _ he => hminus (List.cons.inj he).1

end Interop.Text
