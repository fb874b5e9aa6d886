import Interop.Pattern.Reader
import Interop.Text.Integer

namespace Interop.Pattern

open Text Reader

def isHexDigit (c : Char) : Bool := (digitValue? 16 c).isSome

def isDecimalDigit (c : Char) : Bool := (digitValue? 10 c).isSome

def scalar? (digits : List Char) : Option Char :=
  let n := digits.foldl (fun n c => n * 16 + (digitValue? 16 c).getD 0) 0
  if n < 0xD800 ∨ 0xDFFF < n ∧ n < 0x110000 then some (Char.ofNat n) else none

def finishHex (start : Place) (isByte : Bool) (span : Span) (digits : List Char) :
    Reader Expression := do
  match scalar? digits with
  | some c => return .literal ⟨⟨start, ← place⟩, c, isByte⟩
  | none => fail .badHex span

def readHexDigits : Nat → Reader (List Char)
  | 0 => return []
  | n + 1 => do
    match ← current? with
    | none => fail .unfinishedEscape (← here)
    | some c =>
      if isHexDigit c then
        next
        return c :: (← readHexDigits n)
      else fail .badHexDigit (← currentSpan)

def readBracedHex (start : Place) : Reader Expression := do
  let brace ← currentSpan
  next
  let digits ← collect isHexDigit
  match ← current? with
  | none => fail .unfinishedEscape ⟨brace.start, ← place⟩
  | some '\x7d' =>
    let stop ← place
    next
    if digits.isEmpty then fail .emptyHex ⟨brace.start, ← place⟩
    else finishHex start false ⟨brace.stop, stop⟩ digits
  | some _ => fail .badHexDigit (← currentSpan)

def readHex (start : Place) (width : Nat) : Reader Expression := do
  next
  match ← current? with
  | none => fail .unfinishedEscape (← here)
  | some '\x7b' => readBracedHex start
  | some _ =>
    let first ← place
    let digits ← readHexDigits width
    finishHex start (width == 2) ⟨first, ← place⟩ digits

def readProperty (start : Place) (negated : Bool) : Reader Expression := do
  next
  match ← current? with
  | none => fail .unfinishedEscape (← here)
  | some '\x7b' =>
    next
    let name ← collect (· ≠ '\x7d')
    if ← isAtEnd then fail .unfinishedEscape (← here)
    bump
    return .property ⟨start, ← place⟩ negated name
  | some '\\' => fail .badProperty (← currentSpan)
  | some c =>
    next
    return .property ⟨start, ← place⟩ negated [c]

def wordPlaces : List (String × WordPlace) :=
  [("start", .first), ("end", .last), ("start-half", .halfFirst), ("end-half", .halfLast)]

def isWordPlaceChar (c : Char) : Bool := c.isAlpha || c = '-'

/-- The name of a word place in braces. Braces with anything but a name are left to be read as a
repetition. -/
def readWordPlace (start : Place) : Reader (Option WordPlace) := do
  let before ← get
  next
  match ← current? with
  | none => fail .unfinishedWordPlace ⟨start, ← place⟩
  | some c =>
    if isWordPlaceChar c then
      let first ← place
      let name ← collect isWordPlaceChar
      if (← current?) = some '\x7d' then
        let stop ← place
        bump
        match wordPlaces.find? fun entry => entry.1.toList = name with
        | some (_, found) => return some found
        | none => fail .unknownWordPlace ⟨first, stop⟩
      else fail .unclosedWordPlace ⟨before.place, ← place⟩
    else
      set before
      return none

def readWordBoundary (start : Place) : Reader Expression := do
  let found ← if (← current?) = some '\x7b' then readWordPlace start else pure none
  return .condition ⟨start, ← place⟩ (.word (found.getD .boundary))

def standsForItself (c : Char) : Bool :=
  c.toNat < 0x80 && !c.isAlphanum && c ≠ '<' && c ≠ '>'

def control? : Char → Option Char
  | 'a' => some '\x07'
  | 'f' => some '\x0c'
  | 't' => some '\t'
  | 'n' => some '\n'
  | 'r' => some '\r'
  | 'v' => some '\x0b'
  | _ => none

def condition? : Char → Option Condition
  | 'A' => some .textStart
  | 'z' => some .textEnd
  | 'B' => some (.word .inside)
  | '<' => some (.word .first)
  | '>' => some (.word .last)
  | _ => none

def shorthand? (c : Char) : Option Shorthand :=
  match c.toLower with
  | 'd' => some .digit
  | 's' => some .space
  | 'w' => some .word
  | _ => none

def readShortEscape (start : Place) (c : Char) : Reader Expression := do
  bump
  let span : Span := ⟨start, ← place⟩
  match shorthand? c, condition? c with
  | some s, _ => return .shorthand span c.isUpper s
  | none, some condition => return .condition span condition
  | none, none =>
    match if standsForItself c then some c else control? c with
    | some d => return .literal ⟨span, d, false⟩
    | none => fail .unknownEscape span

def readEscape : Reader Expression := do
  let start ← place
  bump
  match ← current? with
  | none => fail .unfinishedEscape ⟨start, ← place⟩
  | some c =>
    if isDecimalDigit c then fail .backreference ⟨start, (← currentSpan).stop⟩
    else match c with
      | 'x' => readHex start 2
      | 'u' => readHex start 4
      | 'U' => readHex start 8
      | 'p' => readProperty start false
      | 'P' => readProperty start true
      | 'b' =>
        bump
        readWordBoundary start
      | c => readShortEscape start c

end Interop.Pattern
