import Interop.Pattern.Expression
import Interop.Text.Blank

namespace Interop.Pattern

open Text

/-- What is left to read of a pattern, and how. -/
structure Reading where
  place : Place
  rest : List Char
  spaced : Bool
  names : List (List Char × Span)

abbrev Reader := StateT Reading (Except Fault)

def pastSpace (comment : Bool) (p : Place) : List Char → Place × List Char
  | [] => (p, [])
  | c :: cs =>
    if comment then pastSpace (c ≠ '\n') (p.past c) cs
    else if isBlank c then pastSpace false (p.past c) cs
    else if c = '#' then pastSpace true (p.past c) cs
    else (p, c :: cs)

def firstInk (comment : Bool) : List Char → Option Char
  | [] => none
  | c :: cs =>
    if isBlank c then firstInk comment cs
    else if c = '#' && !comment then firstInk true cs
    else some c

namespace Reader

def fail {α : Type} (kind : FaultKind) (span : Span) : Reader α := throw ⟨kind, span, none⟩

def place : Reader Place := return (← get).place

def here : Reader Span := return .point (← place)

def current? : Reader (Option Char) := return (← get).rest.head?

def isAtEnd : Reader Bool := return (← get).rest.isEmpty

def currentSpan : Reader Span := do
  let r ← get
  return ⟨r.place, (r.rest.head?.map r.place.past).getD r.place⟩

def bump : Reader Unit := modify fun r =>
  match r.rest with
  | c :: cs => { r with place := r.place.past c, rest := cs }
  | [] => r

def skip : Reader Unit := modify fun r =>
  if r.spaced then
    let (place, rest) := pastSpace false r.place r.rest
    { r with place, rest }
  else r

def next : Reader Unit := do
  bump
  skip

def advance : Nat → Reader Unit
  | 0 => return ()
  | n + 1 => do
    bump
    advance n

def accept (text : String) : Reader Bool := do
  if text.toList.isPrefixOf (← get).rest then
    advance text.length
    return true
  else return false

def acceptAny : List String → Reader Bool
  | [] => return false
  | text :: rest => do
    if ← accept text then return true else acceptAny rest

def behind? : Reader (Option Char) := do
  let r ← get
  let tail := r.rest.tail
  return if r.spaced then (firstInk false tail).or tail.head? else tail.head?

def collectWith (step : Reader Unit) (p : Char → Bool) : Nat → Reader (List Char)
  | 0 => return []
  | fuel + 1 => do
    match ← current? with
    | none => return []
    | some c =>
      if p c then
        step
        return c :: (← collectWith step p fuel)
      else return []

def collect (p : Char → Bool) : Reader (List Char) := do
  collectWith next p (← get).rest.length

def setSpaced (changes : FlagChanges) : Reader Unit := modify fun r =>
  match changes.lookup .spaced with
  | some spaced => { r with spaced }
  | none => r

end Reader

end Interop.Pattern
