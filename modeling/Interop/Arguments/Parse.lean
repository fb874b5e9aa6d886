import Interop.Arguments.UsageError
import Interop.Command.Libraries
import Interop.Text.Split

namespace Interop.Arguments

open Text Command

/-- An argument that waits for its value or has just got it. It is taken in when the next one is at
hand, so its errors come after those in the shape of that one. -/
inductive Pending
  | awaiting (a : Arg)
  | supplied (a : Arg) (value : Loose)
deriving DecidableEq, Repr

structure Progress where
  state : State := {}
  pending : Option Pending := none
deriving DecidableEq, Repr

/-- Digits, with at most one point behind the first of them and at most one exponent behind that;
`-1` and `-1.5e3` are then values and no switches. -/
def looksNumeric (cs : List Char) : Bool :=
  go cs false false false
where
  go : List Char → Bool → Bool → Bool → Bool
    | [], _, _, _ => true
    | c :: rest, started, point, exponent =>
      if '0' ≤ c ∧ c ≤ '9' then go rest true point exponent
      else if c = '.' then started && !point && !exponent && go rest true true exponent
      else if c = 'e' then started && !exponent && !rest.isEmpty && go rest true point true
      else false

def isFollowedBy (a : Arg) : Loose → Bool
  | .char '-' :: g :: rest =>
    a.hyphens || (a.negatives && ((Loose.text? (g :: rest)).map looksNumeric).getD false)
  | _ => true

def decodeValue (value : Loose) : Except UsageError (List Char) :=
  match value.text? with
  | some text => .ok text
  | none => .error .undecodable

def readValue (a : Arg) (value : Loose) : Except UsageError Value :=
  match a.kind with
  | .path => if value.isEmpty then throw (.missingValue a) else return .path value
  | .text => return .text (← decodeValue value)
  | .choice names => do
    let text ← decodeValue value
    if names.contains (String.ofList text) then return .text text
    else throw (if text.isEmpty then .missingValue a else .invalidChoice (String.ofList text) a)
  | .size => do
    let text ← decodeValue value
    match readNat 10 (UInt64.size - 1) text with
    | .ok n => return .size (UInt64.ofNat n)
    | .error e => throw (.invalidValue (String.ofList text) a e.message)
  | .index => do
    let text ← decodeValue value
    match readInt 64 text with
    | .error e => throw (.invalidValue (String.ofList text) a e.message)
    | .ok i =>
      if Int32.minValue.toInt ≤ i ∧ i ≤ Int32.maxValue.toInt then return .index (Int32.ofInt i)
      else throw (.invalidValue (String.ofList text) a
        (integer i ++ " is not in -2147483648..=2147483647"))
  | .edit => do
    let text ← decodeValue value
    match Managed.Edit.parse text with
    | .ok edit => return .edit edit
    | .error e => throw (.invalidValue (String.ofList text) a e.message)

def State.take (s : State) (a : Arg) (value : Loose) : Except UsageError State :=
  if s.admits a then return s.give a.id (some (← readValue a value)) else throw (.repeated a)

namespace Progress

def settle (p : Progress) : Except UsageError State :=
  match p.pending with
  | none => return p.state
  | some (.awaiting a) => throw (.missingValue a)
  | some (.supplied a value) => p.state.take a value

def waiting (p : Progress) : Option Arg :=
  match p.pending with
  | some (.awaiting a) => some a
  | _ => none

def names (p : Progress) : List String :=
  match p.pending with
  | some (.supplied a _) => p.state.names ++ [a.id]
  | _ => p.state.names

end Progress

def lift {α : Type} (x : Except UsageError α) : Except Interruption α :=
  x.mapError .refused

variable (c : Subcommand)

def mark (p : Progress) (a : Arg) : Except Interruption Progress := do
  let s ← lift p.settle
  if s.admits a then return ⟨s.mark a, none⟩ else throw (.refused (.repeated a))

def help (p : Progress) : Except Interruption Progress := do
  let _ ← lift p.settle
  throw (.help (.command c))

def unknown {α : Type} (argument : String) : Except Interruption α :=
  throw (.refused (.unknownArgument argument))

def parseLong (p : Progress) (body : Loose) : Except Interruption Progress :=
  let (name, value) := splitFirst (Glyph.char '=') body
  match c.long? name, value with
  | some a, some value =>
    if a.takesValue then do
      let s ← lift p.settle
      return ⟨← lift (s.take a value), none⟩
    else throw (.refused (.unwantedValue (Loose.display value) (UsageError.label a)))
  | some a, none =>
    if a.takesValue then do
      let s ← lift p.settle
      return ⟨s, some (.awaiting a)⟩
    else mark p a
  | none, some value =>
    if name = helpName then
      throw (.refused (.unwantedValue (Loose.display value) (UsageError.label helpArg)))
    else unknown ("--" ++ Loose.display name)
  | none, none => if name = helpName then help c p else unknown ("--" ++ Loose.display name)

def parseShorts (p : Progress) : Loose → Except Interruption Progress
  | [] => return p
  | .stray bytes :: rest => unknown ("-" ++ Loose.display (.stray bytes :: rest))
  | .char letter :: rest =>
    match c.short? letter with
    | some a => do
      let p ← mark p a
      parseShorts p rest
    | none => if letter = 'h' then help c p else unknown ("-" ++ String.ofList [letter])

def parseOperand (p : Progress) (value : Loose) : Except Interruption Progress :=
  match c.operand? p.names with
  | none => unknown (Loose.display value)
  | some a => do
    let s ← lift p.settle
    return ⟨s, some (.supplied a value)⟩

def parseSwitch (p : Progress) : Loose → Except Interruption Progress
  | .char '-' :: .char '-' :: body =>
    if body.isEmpty then return { p with state.escaped := true } else parseLong c p body
  | .char '-' :: g :: rest => parseShorts c p (g :: rest)
  | value => parseOperand c p value

def parseArgument (p : Progress) (value : Loose) : Except Interruption Progress :=
  if p.state.escaped then parseOperand c p value
  else match p.waiting with
    | some a =>
      if isFollowedBy a value then return { p with pending := some (.supplied a value) }
      else parseSwitch c p value
    | none => parseSwitch c p value

def conclude (s : State) : Except UsageError State :=
  if (c.required s.names).isEmpty then return s
  else throw (.missingOperands (c.required s.names))

def parseFrom (p : Progress) (args : List Loose) : Except Interruption State := do
  let p ← args.foldlM (parseArgument c) p
  let s ← lift p.settle
  lift (conclude c s)

variable (cli : CommandLine)

def subcommand? (name : Loose) : Option Subcommand :=
  cli.subcommands.find? fun c => Loose.ofString c.name = name

def parseTopic (topic : Topic) : List Loose → Except UsageError Topic
  | [] => return topic
  | a :: rest =>
    match topic, subcommand? cli a with
    | .program, some c => parseTopic (.command c) rest
    | .program, none =>
      if a = helpName then parseTopic .help rest else throw (.unknownCommand a.display)
    | _, _ => throw (.unknownCommand a.display)

def parseEarlySwitch : Loose → Interruption
  | .char '-' :: .char '-' :: body =>
    let (name, value) := splitFirst (Glyph.char '=') body
    if name = helpName then
      match value with
      | some value => .refused (.unwantedValue (Loose.display value) (UsageError.label helpArg))
      | none => .help .program
    else .refused (.unknownArgument ("--" ++ Loose.display name))
  | .char '-' :: .char letter :: _ =>
    if letter = 'h' then .help .program
    else .refused (.unknownArgument ("-" ++ String.ofList [letter]))
  | a => .refused (.unknownArgument a.display)

def refuseOperand (a : Loose) : UsageError :=
  if (subcommand? cli a).isSome || a = helpName then .unknownArgument a.display
  else .unknownCommand a.display

def interruption (a : Loose) (rest : List Loose) : Interruption :=
  if a = helpName then
    match parseTopic cli .program rest with
    | .ok topic => .help topic
    | .error e => .refused e
  else match a, rest with
    | [.char '-', .char '-'], [] => .refused .missingCommand
    | [.char '-', .char '-'], b :: _ => .refused (refuseOperand cli b)
    | .char '-' :: g :: more, _ => parseEarlySwitch (.char '-' :: g :: more)
    | _, _ => .refused (.unknownCommand a.display)

def parse : List Loose → Except Interruption (Option (String × Matches))
  | [] => throw (.refused .missingCommand)
  | a :: rest =>
    match subcommand? cli a with
    | some c => do
      let s ← parseFrom c {} rest
      return some (c.name, s.found c)
    | none => throw (interruption cli a rest)

def Interruption.text (cli : CommandLine) (terminal : Bool) : Interruption → String
  | .help topic => topic.page cli terminal
  | .refused e => e.text cli terminal

def Interruption.exit (cli : CommandLine) (terminals : Terminals) : Interruption → Outcome
  | .help topic => ⟨0, topic.page cli terminals.output, ""⟩
  | .refused e => ⟨2, "", e.text cli terminals.errors⟩

def Interruption.isHelp : Interruption → Bool
  | .help _ => true
  | .refused _ => false

def parser (cli : CommandLine) : ArgumentParser where
  Interruption := Interruption
  parse := parse
  isHelp := Interruption.isHelp
  text e terminal := e.text cli terminal
  exit e terminals := e.exit cli terminals

end Interop.Arguments
