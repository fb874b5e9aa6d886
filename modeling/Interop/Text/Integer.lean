namespace Interop.Text

inductive IntegerError
  | empty
  | invalidDigit
  | tooLarge
  | tooSmall
deriving DecidableEq, Repr

def IntegerError.message : IntegerError → String
  | .empty => "cannot parse integer from empty string"
  | .invalidDigit => "invalid digit found in string"
  | .tooLarge => "number too large to fit in target type"
  | .tooSmall => "number too small to fit in target type"

def anyDigit? (c : Char) : Option Nat :=
  if '0' ≤ c ∧ c ≤ '9' then some (c.toNat - '0'.toNat)
  else if 'a' ≤ c ∧ c ≤ 'z' then some (c.toNat - 'a'.toNat + 10)
  else if 'A' ≤ c ∧ c ≤ 'Z' then some (c.toNat - 'A'.toNat + 10)
  else none

def digitValue? (base : Nat) (c : Char) : Option Nat := (anyDigit? c).filter (· < base)

/-- Reads digits onto `n`. The first character that is no digit or takes the value past the limit
decides the error, so a digit string that is both too long and malformed is judged by whichever
comes first. -/
def readDigits (base limit : Nat) (overflow : IntegerError) :
    Nat → List Char → Except IntegerError Nat
  | n, [] => .ok n
  | n, c :: cs =>
    match digitValue? base c with
    | none => .error .invalidDigit
    | some d =>
      if n * base + d ≤ limit then readDigits base limit overflow (n * base + d) cs
      else .error overflow

def readNonempty (base limit : Nat) (overflow : IntegerError) :
    List Char → Except IntegerError Nat
  | [] => .error .invalidDigit
  | cs => readDigits base limit overflow 0 cs

/-- An optional plus sign and digits. -/
def readNat (base limit : Nat) : List Char → Except IntegerError Nat
  | [] => .error .empty
  | '+' :: cs => readNonempty base limit .tooLarge cs
  | cs => readDigits base limit .tooLarge 0 cs

/-- An optional sign and decimal digits, for the signed integers of `bits` bits. -/
def readInt (bits : Nat) : List Char → Except IntegerError Int
  | '-' :: cs => (fun n => -(n : Int)) <$> readNonempty 10 (1 <<< (bits - 1)) .tooSmall cs
  | cs => Int.ofNat <$> readNat 10 (1 <<< (bits - 1) - 1) cs

theorem digitValue_digitChar {base d : Nat} (hb : base ≤ 16) (hd : d < base) :
    digitValue? base d.digitChar = some d := by
  have h : ∀ d < 16, anyDigit? d.digitChar = some d := by decide
  simp [digitValue?, h d (by omega), Option.filter, hd]

theorem readDigits_append (base limit : Nat) (e : IntegerError) (n : Nat) (xs ys : List Char) :
    readDigits base limit e n (xs ++ ys) =
      readDigits base limit e n xs >>= fun m => readDigits base limit e m ys := by
  induction xs generalizing n with
  | nil => rfl
  | cons x xs ih =>
      simp only [List.cons_append, readDigits]
      split
      · rfl
      · split
        · exact ih _
        · rfl

theorem readDigits_toDigits {base limit n : Nat} (e : IntegerError) (h1 : 1 < base)
    (hb : base ≤ 16) (hn : n ≤ limit) :
    readDigits base limit e 0 (Nat.toDigits base n) = .ok n := by
  induction n using Nat.strongRecOn with
  | ind n ih =>
      rw [Nat.toDigits_eq_if h1]
      by_cases hlt : n < base
      · rw [if_pos hlt]
        simp [readDigits, digitValue_digitChar hb hlt, hn]
      · have hpos : 0 < n := by omega
        have hdiv : n / base < n := Nat.div_lt_self hpos h1
        have hmod : n % base < base := Nat.mod_lt n (by omega)
        have hsum : n / base * base + n % base = n := Nat.div_add_mod' n base
        rw [if_neg hlt, readDigits_append, ih _ hdiv (by omega)]
        simp only [bind, Except.bind, readDigits, digitValue_digitChar hb hmod, hsum]
        rw [if_pos hn]

end Interop.Text
