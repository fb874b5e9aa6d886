import Interop.Command.Dispatch
import Interop.Text.Numeral

namespace Interop

open Text Command

namespace Command

namespace Arg

def isOperand (a : Arg) : Bool := a.long.isNone && a.short.isNone

def takesValue (a : Arg) : Bool := a.action = .set || a.action = .append

def repeats (a : Arg) : Bool := a.action = .append || a.action = .count

end Arg

namespace Subcommand

variable (c : Subcommand)

def long? (name : Loose) : Option Arg :=
  c.args.find? fun a => a.long.map Loose.ofString = some name

def short? (letter : Char) : Option Arg := c.args.find? fun a => a.short = some letter

def operand? (names : List String) : Option Arg :=
  c.args.find? fun a => a.isOperand && !names.contains a.id

def required (names : List String) : List Arg :=
  c.args.filter fun a => a.required && !names.contains a.id

end Subcommand

end Command

namespace Arguments

/-- What a value means where this kind is asked for. An index is first read as a number of 64
bits. -/
def read? (kind : ValueKind) (value : Loose) : Option Value :=
  match kind with
  | .text => value.text?.map .text
  | .path => if value.isEmpty then none else some (.path value)
  | .choice names =>
    value.text?.bind fun t => if names.contains (String.ofList t) then some (.text t) else none
  | .size =>
    value.text?.bind fun t =>
      (readNat 10 (UInt64.size - 1) t).toOption.map fun n => .size (UInt64.ofNat n)
  | .index =>
    value.text?.bind fun t => (readInt 64 t).toOption.bind fun i =>
      if Int32.minValue.toInt ≤ i ∧ i ≤ Int32.maxValue.toInt then some (.index (Int32.ofInt i))
      else none
  | .edit => value.text?.bind fun t => (Managed.Edit.parse t).toOption.map .edit

def hyphened : Loose → Bool
  | .char '-' :: _ :: _ => true
  | _ => false

/-- Beside its own switches every subcommand has one that asks for help, by this name or by `h`. -/
def helpName : Loose := Loose.ofString "help"

/-- What was said so far: the values and the switches in their order, the letters that count, and
whether there was a `--`, behind which nothing is a switch. -/
structure State where
  given : List (String × Option Value) := []
  raised : List String := []
  escaped : Bool := false
deriving DecidableEq, Repr

namespace State

variable (s : State)

def names : List String := s.given.map Prod.fst

def values (id : String) : List Value :=
  s.given.filterMap fun (name, value) => if name = id then value else none

def give (id : String) (value : Option Value) : State :=
  { s with given := s.given ++ [(id, value)] }

def raise (id : String) : State := { s with raised := s.raised ++ [id] }

def mark (a : Arg) : State := if a.action = .count then s.raise a.id else s.give a.id none

/-- Whether the argument may stand now, which it may a second time only if it is made for that. -/
def admits (a : Arg) : Bool := a.repeats || !s.names.contains a.id

def default? (c : Subcommand) (id : String) : Option Value :=
  (c.args.find? (·.id = id)).bind fun a =>
    a.default.bind fun text => read? a.kind (Loose.ofString text)

/-- Values in their order or else the default one, and counts up to the largest byte. -/
def found (c : Subcommand) : Matches where
  many id := if (s.values id).isEmpty then (default? c id).toList else s.values id
  flag id := s.names.contains id
  count id := UInt8.ofNat (min 255 (s.raised.count id))

end State

end Arguments

end Interop
