import Interop.Text.Integer
import Interop.Text.Numeral
import Interop.Text.Unprintable

namespace Interop.Text.Quoted

def quotedChar : Char → Option Char
  | '\x00' => some '0'
  | '\t' => some 't'
  | '\r' => some 'r'
  | '\n' => some 'n'
  | '"' => some '"'
  | '\\' => some '\\'
  | _ => none

/-- How a character is spelled between double quotes. A single quote needs no escape there. -/
def spell (c : Char) : List Char :=
  match quotedChar c with
  | some d => ['\\', d]
  | none =>
    if isPrintable c then [c] else ['\\', 'u', '\x7b'] ++ Nat.toDigits 16 c.toNat ++ ['\x7d']

def encode (cs : List Char) : List Char := '"' :: cs.flatMap spell ++ ['"']

/-- Where a reader stands in the spelling of a character. -/
inductive State
  | plain
  | escape
  | brace
  | code (n : Nat)
deriving DecidableEq, Repr

def unquotedChar : Char → Option Char
  | '0' => some '\x00'
  | 't' => some '\t'
  | 'r' => some '\r'
  | 'n' => some '\n'
  | '"' => some '"'
  | '\\' => some '\\'
  | _ => none

/-- Reads up to the closing quote, behind which nothing may follow. -/
def decodeFrom : State → List Char → Option (List Char)
  | _, [] => none
  | .plain, c :: rest =>
    if c = '"' then if rest = [] then some [] else none
    else if c = '\\' then decodeFrom .escape rest
    else (decodeFrom .plain rest).map (c :: ·)
  | .escape, c :: rest =>
    match unquotedChar c with
    | some d => (decodeFrom .plain rest).map (d :: ·)
    | none => if c = 'u' then decodeFrom .brace rest else none
  | .brace, c :: rest => if c = '\x7b' then decodeFrom (.code 0) rest else none
  | .code n, c :: rest =>
    if c = '\x7d' then (decodeFrom .plain rest).map (Char.ofNat n :: ·)
    else match digitValue? 16 c with
      | some d => decodeFrom (.code (n * 16 + d)) rest
      | none => none

def decode : List Char → Option (List Char)
  | '"' :: rest => decodeFrom .plain rest
  | _ => none

theorem unquotedChar_quotedChar {c d : Char} (h : quotedChar c = some d) :
    unquotedChar d = some c := by
  unfold quotedChar at h
  split at h <;> cases h <;> rfl

theorem decodeFrom_digits (n : Nat) (ds rest : List Char) (m : Nat)
    (h : readDigits 16 m .tooLarge n ds = .ok m) :
    decodeFrom (.code n) (ds ++ '\x7d' :: rest) =
      (decodeFrom .plain rest).map (Char.ofNat m :: ·) := by
  induction ds generalizing n with
  | nil =>
      cases h
      simp [decodeFrom]
  | cons d ds ih =>
      have hne : d ≠ '\x7d' := by
        rintro rfl
        cases h
      simp only [List.cons_append, decodeFrom, if_neg hne]
      simp only [readDigits] at h
      cases hd : digitValue? 16 d with
      | none => simp [hd] at h
      | some v =>
          simp only [hd] at h ⊢
          split at h
          · exact ih _ h
          · cases h

theorem decodeFrom_spell (c : Char) (rest : List Char) :
    decodeFrom .plain (spell c ++ rest) = (decodeFrom .plain rest).map (c :: ·) := by
  unfold spell
  cases hc : quotedChar c with
  | some d => simp [decodeFrom, unquotedChar_quotedChar hc]
  | none =>
      have hq : c ≠ '"' ∧ c ≠ '\\' := by
        refine ⟨?_, ?_⟩ <;> rintro rfl <;> cases hc
      by_cases hp : isPrintable c
      · simp [hp, decodeFrom, hq]
      · have hd := decodeFrom_digits 0 (Nat.toDigits 16 c.toNat) rest c.toNat
          (readDigits_toDigits _ (by decide) (by decide) (Nat.le_refl _))
        simp [hp, decodeFrom, unquotedChar, hd, Char.ofNat_toNat]

theorem decode_encode (cs : List Char) : decode (encode cs) = some cs := by
  simp only [encode, decode, List.cons_append]
  induction cs with
  | nil => rfl
  | cons c cs ih => simp [decodeFrom_spell, ih]

end Interop.Text.Quoted
