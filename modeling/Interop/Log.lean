import Interop.Text.Numeral

namespace Interop

inductive Level
  | error
  | warn
  | info
  | debug
  | trace
deriving DecidableEq, Repr

def Level.name : Level → String
  | .error => "ERROR"
  | .warn => "WARN"
  | .info => "INFO"
  | .debug => "DEBUG"
  | .trace => "TRACE"

/-- How much a level lets through: each level includes those before it. -/
def Level.rank : Level → Nat
  | .error => 1
  | .warn => 2
  | .info => 3
  | .debug => 4
  | .trace => 5

inductive Event
  | readOutside (index length : Int32)
  | writeOutside (index length : Int32)
  | resolved (name : String) (start size : UInt64)
  | loaded (count : Nat) (path : String)
deriving DecidableEq, Repr

namespace Event

open Text

def level : Event → Level
  | .readOutside .. | .writeOutside .. => .trace
  | .resolved .. | .loaded .. => .debug

def origin : Event → String
  | .readOutside .. | .writeOutside .. => "kbridge_abi::string::view"
  | .resolved .. | .loaded .. => "kbridge_abi::section::provider"

def message : Event → String
  | .readOutside index length =>
    "get_char: index " ++ integer index.toInt ++ " out of range for length " ++
      integer length.toInt
  | .writeOutside index length =>
    "set_char: index " ++ integer index.toInt ++ " out of range for length " ++
      integer length.toInt ++ ", skipped"
  | .resolved name start size =>
    "section `" ++ name ++ "` resolved: " ++ address start.toNat ++ " + " ++
      decimal size.toNat ++ " bytes"
  | .loaded count path => "loaded " ++ decimal count ++ " bytes from " ++ path

end Event

/-- What the log is told of an event: the name of the module is that by which filters address it. -/
structure Record where
  level : Level
  origin : String
  message : String
deriving DecidableEq, Repr

def Event.record (e : Event) : Record := ⟨e.level, e.origin, e.message⟩

/-- How a program sets up its log: its own limit, what the user asks for in place of that and of
the usual colors, and whether a terminal shows the lines. -/
structure LogSettings where
  limit : Level
  spec : Option String
  style : Option String
  terminal : Bool
deriving DecidableEq, Repr

/-- Whoever prints the log: what it prints once it is set up, and for a record. -/
structure Logger where
  start : LogSettings → String
  line : LogSettings → Record → Option String

/-- A value together with the events on the way to it, in order. -/
structure Logged (α : Type) where
  value : α
  log : List Event

namespace Logged

instance : Monad Logged where
  pure a := ⟨a, []⟩
  bind x f :=
    let y := f x.value
    ⟨y.value, x.log ++ y.log⟩

def emit (e : Event) : Logged Unit := ⟨(), [e]⟩

variable {α β : Type}

@[simp] theorem value_pure (a : α) : (pure a : Logged α).value = a := rfl

@[simp] theorem log_pure (a : α) : (pure a : Logged α).log = [] := rfl

@[simp] theorem value_bind (x : Logged α) (f : α → Logged β) :
    (x >>= f).value = (f x.value).value := rfl

@[simp] theorem log_bind (x : Logged α) (f : α → Logged β) :
    (x >>= f).log = x.log ++ (f x.value).log := rfl

@[simp] theorem value_emit (e : Event) : (emit e).value = () := rfl

@[simp] theorem log_emit (e : Event) : (emit e).log = [e] := rfl

end Logged

end Interop
