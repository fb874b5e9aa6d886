import Interop.Json
import Interop.Text.Numeral

namespace Interop.Json

def spell (c : Char) : List Char :=
  match c with
  | '"' => ['\\', '"']
  | '\\' => ['\\', '\\']
  | '\x08' => ['\\', 'b']
  | '\x0c' => ['\\', 'f']
  | '\n' => ['\\', 'n']
  | '\r' => ['\\', 'r']
  | '\t' => ['\\', 't']
  | c =>
    if c.toNat < 0x20 then ['\\', 'u'] ++ (Text.wideHex 4 c.toNat).toList else [c]

def quote (s : String) : String := String.ofList ('"' :: s.toList.flatMap spell ++ ['"'])

def indent (depth : Nat) : String := String.ofList (List.replicate (2 * depth) ' ')

def line (depth : Nat) : String := "\n" ++ indent depth

mutual

/-- Two blanks deeper on each level, one item a line; empty arrays and objects stay on one. -/
def write (depth : Nat) : Json → String
  | .bool b => if b then "true" else "false"
  | .number n => Text.integer n
  | .string s => quote s
  | .array [] => "[]"
  | .array (item :: items) =>
    writeItems (depth + 1) ("[" ++ line (depth + 1) ++ write (depth + 1) item) items ++
      line depth ++ "]"
  | .object [] => "\x7b\x7d"
  | .object ((key, value) :: members) =>
    writeMembers (depth + 1)
      ("\x7b" ++ line (depth + 1) ++ quote key ++ ": " ++ write (depth + 1) value) members ++
      line depth ++ "\x7d"

def writeItems (depth : Nat) (done : String) : List Json → String
  | [] => done
  | item :: items => writeItems depth (done ++ "," ++ line depth ++ write depth item) items

def writeMembers (depth : Nat) (done : String) : List (String × Json) → String
  | [] => done
  | (key, value) :: members =>
    writeMembers depth (done ++ "," ++ line depth ++ quote key ++ ": " ++ write depth value) members

end

/-- A printer that never fails. -/
def writer : Printer where
  pretty j := .ok (write 0 j)

end Interop.Json
