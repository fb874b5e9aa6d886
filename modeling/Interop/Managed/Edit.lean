import Interop.Text.Blank
import Interop.Text.Integer
import Interop.Text.Split

namespace Interop.Managed

open Text

/-- One code unit to be written. -/
structure Edit where
  index : Int32
  unit : UInt16
deriving DecidableEq, Repr

inductive EditError
  | missingSeparator (text : List Char)
  | invalidIndex (text : List Char)
  | invalidUnit (text : List Char)
deriving DecidableEq, Repr

def EditError.message : EditError → String
  | .missingSeparator text => "expected INDEX=UNIT, got `" ++ String.ofList text ++ "`"
  | .invalidIndex text => "invalid index `" ++ String.ofList text ++ "`"
  | .invalidUnit text =>
    "invalid code unit `" ++ String.ofList text ++ "`: expected one BMP character or U+XXXX"

namespace Edit

def ofHex? (cs : List Char) : Option UInt16 :=
  match readNat 16 0xFFFF cs with
  | .ok n => some (UInt16.ofNat n)
  | .error _ => none

/-- A single character of the first plane, or hexadecimal digits behind `U+`. The two letters alone
name no unit, and neither do two characters. -/
def readUnit? : List Char → Option UInt16
  | [c] => if c.toNat < 0x10000 then some (UInt16.ofNat c.toNat) else none
  | 'U' :: '+' :: c :: cs => ofHex? (c :: cs)
  | 'u' :: '+' :: c :: cs => ofHex? (c :: cs)
  | _ => none

def readIndex? (cs : List Char) : Option Int32 :=
  match readInt 32 (trim cs) with
  | .ok i => some (Int32.ofInt i)
  | .error _ => none

def parse (cs : List Char) : Except EditError Edit :=
  match splitFirst '=' cs with
  | (_, none) => .error (.missingSeparator cs)
  | (index, some unit) =>
    match readIndex? index, readUnit? unit with
    | none, _ => .error (.invalidIndex index)
    | some _, none => .error (.invalidUnit unit)
    | some i, some u => .ok ⟨i, u⟩

end Edit

end Interop.Managed
