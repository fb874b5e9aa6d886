import Interop.Pattern.Bracket
import Interop.Text.Letter

namespace Interop.Pattern

open Text Reader

def maxDepth : Nat := 250

def maxCount : Nat := UInt32.size - 1

/-- What a parenthesis opens: a change of flags for what follows, or a group. -/
inductive Opening
  | flags (span : Span) (changes : FlagChanges)
  | group (span : Span) (captures : Bool) (changes : FlagChanges)

def isNameChar (first : Bool) (c : Char) : Bool :=
  c = '_' || if first then isLetter c else c = '.' || c = '[' || c = ']' || isLetterOrNumber c

def readNameChars : Nat → Bool → Reader (List Char)
  | 0, _ => return []
  | fuel + 1, first => do
    match ← current? with
    | none => fail .unfinishedName (← here)
    | some '>' => return []
    | some c =>
      if isNameChar first c then
        bump
        return c :: (← readNameChars fuel false)
      else fail .badName (← currentSpan)

def readName : Reader Unit := do
  let start ← place
  let name ← readNameChars ((← get).rest.length + 1) true
  let span : Span := ⟨start, ← place⟩
  bump
  if name.isEmpty then fail .emptyName span
  match (← get).names.lookup name with
  | some first => throw ⟨.repeatedName, span, some first⟩
  | none => modify fun r => { r with names := (name, span) :: r.names }

abbrev FlagItems := List (Option Flag × Span)

def readFlagItem (items : FlagItems) (c : Char) : Reader (Option Flag × Span) := do
  let span ← currentSpan
  let item ←
    if c = '-' then pure none
    else match Flag.ofChar? c with
      | some flag => pure (some flag)
      | none => fail .unknownFlag span
  match items.lookup item with
  | some first =>
    throw ⟨if item.isNone then .repeatedNegation else .repeatedFlag, span, some first⟩
  | none => return (item, span)

def readFlagItems : Nat → FlagItems → Reader FlagItems
  | 0, items => return items
  | fuel + 1, items => do
    match ← current?, items with
    | none, _ => fail .unfinishedFlags (← here)
    | some ':', (none, span) :: _ | some ')', (none, span) :: _ => fail .danglingNegation span
    | some ':', _ | some ')', _ => return items
    | some c, _ =>
      let item ← readFlagItem items c
      bump
      readFlagItems fuel (item :: items)

def changesOf (value : Bool) : FlagItems → FlagChanges
  | [] => []
  | (none, _) :: rest => changesOf false rest
  | (some flag, _) :: rest => (flag, value) :: changesOf value rest

def readFlagGroup (paren inner : Span) : Reader Opening := do
  if ← isAtEnd then fail .unclosedGroup paren
  let items ← readFlagItems ((← get).rest.length + 1) []
  let changes := changesOf true items.reverse
  let close ← current?
  bump
  if close = some ')' then
    if items.isEmpty then fail .nothingToRepeat inner
    return .flags ⟨paren.start, ← place⟩ changes
  else return .group paren false changes

def readOpening : Reader Opening := do
  let paren ← currentSpan
  next
  if ← acceptAny ["?=", "?!", "?<=", "?<!"] then fail .lookAround ⟨paren.start, ← place⟩
  let inner ← here
  if ← acceptAny ["?P<", "?<"] then
    readName
    return .group paren true []
  else if ← accept "?" then readFlagGroup paren inner
  else return .group paren true []

def readDecimal : Reader (Except Fault Nat) := do
  let _ ← collect isBlank
  let start ← place
  let digits ← collect isDecimalDigit
  let span : Span := ⟨start, ← place⟩
  let _ ← collect isBlank
  let n := digits.foldl (fun n c => n * 10 + (digitValue? 10 c).getD 0) 0
  return if digits.isEmpty then .error ⟨.missingCount, span, none⟩
    else if n ≤ maxCount then .ok n
    else .error ⟨.badDecimal, span, none⟩

def readUpperCount (start : Place) (least : Except Fault Nat) : Reader (Nat × Option Nat) := do
  next
  if ← isAtEnd then fail .unclosedCount ⟨start, ← place⟩
  let low ← least
  if (← current?) = some '\x7d' then return (low, none)
  let high ← (← readDecimal : Except Fault Nat)
  return (low, some high)

def readCounts (start : Place) : Reader (Nat × Option Nat) := do
  next
  if ← isAtEnd then fail .unclosedCount ⟨start, ← place⟩
  let least ← readDecimal
  if ← isAtEnd then fail .unclosedCount ⟨start, ← place⟩
  let counts ←
    if (← current?) = some ',' then readUpperCount start least
    else do
      let low ← least
      pure (low, some low)
  if (← current?) ≠ some '\x7d' then fail .unclosedCount ⟨start, ← place⟩
  next
  return counts

def readGreed : Reader Bool := do
  if (← current?) = some '?' then
    bump
    return false
  else return true

def readRepetition (c : Char) : Reader (Nat × Option Nat × Bool) := do
  let start ← place
  let (least, most) ←
    match c with
    | '*' => do bump; pure (0, none)
    | '+' => do bump; pure (1, none)
    | '?' => do bump; pure (0, some 1)
    | _ => readCounts start
  let greedy ← readGreed
  if most.any (· < least) then fail .crossedCount ⟨start, ← place⟩
  return (least, most, greedy)

def repeatable (done : List Expression) : Reader (Expression × List Expression) := do
  match done with
  | [] | .empty _ :: _ | .flags .. :: _ => fail .nothingToRepeat (← here)
  | e :: rest => return (e, rest)

def readPrimitive (c : Char) : Reader Expression := do
  if c = '\\' then readEscape
  else
    let l ← readPlain
    return match c with
      | '.' => .dot l.span
      | '^' => .condition l.span .lineStart
      | '$' => .condition l.span .lineEnd
      | _ => .literal l

mutual

/-- Branches up to the end or a closing parenthesis. Each step takes from the fuel, of which twice
the pattern's length is enough. -/
def readBranches : Nat → Place → List Expression → Reader Expression
  | 0, _, _ => do fail .unclosedGroup (← here)
  | fuel + 1, start, done => do
    let first ← place
    let items ← readItems fuel []
    let branch := Expression.ofSequence ⟨first, ← place⟩ items
    if (← current?) = some '|' then
      bump
      readBranches fuel start (branch :: done)
    else if done.isEmpty then return branch
    else return .branches ⟨start, ← place⟩ (branch :: done).reverse

def readItems : Nat → List Expression → Reader (List Expression)
  | 0, _ => do fail .unclosedGroup (← here)
  | fuel + 1, done => do
    skip
    match ← current? with
    | none | some '|' | some ')' => return done.reverse
    | some '(' =>
      let e ← readGroup fuel
      readItems fuel (e :: done)
    | some '[' =>
      let (span, negated, body) ← readBracket fuel
      readItems fuel (.bracketed span negated body :: done)
    | some '?' | some '*' | some '+' | some '\x7b' =>
      let (e, rest) ← repeatable done
      let (least, most, greedy) ← readRepetition ((← current?).getD '*')
      readItems fuel (.repetition ⟨e.span.start, ← place⟩ least most greedy e :: rest)
    | some c =>
      let e ← readPrimitive c
      readItems fuel (e :: done)

def readGroup : Nat → Reader Expression
  | 0 => do fail .unclosedGroup (← here)
  | fuel + 1 => do
    match ← readOpening with
    | .flags span changes =>
      setSpaced changes
      return .flags span changes
    | .group paren captures changes =>
      let outer := (← get).spaced
      setSpaced changes
      let e ← readBranches fuel (← place) []
      if ← isAtEnd then fail .unclosedGroup paren
      modify fun r => { r with spaced := outer }
      bump
      return .group ⟨paren.start, ← place⟩ captures changes e

end

def readAll (fuel : Nat) : Reader Expression := do
  let e ← readBranches fuel .start []
  if !(← isAtEnd) then fail .unopenedGroup (← currentSpan)
  match e.tooDeep? maxDepth 0 with
  | some span => fail (.tooDeep maxDepth) span
  | none => return e

def Expression.read (pattern : List Char) : Except Fault Expression :=
  (readAll (3 * pattern.length + 3)).run' ⟨.start, pattern, false, []⟩

end Interop.Pattern
