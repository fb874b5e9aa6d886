import Interop.Pattern.Escape

namespace Interop.Pattern

open Reader

def classByName? (rest : List Char) : Option (Bool × ClassName × Nat) :=
  match rest with
  | '[' :: ':' :: cs =>
    let negated := cs.head? = some '^'
    let cs := if negated then cs.tail else cs
    let name := cs.takeWhile (· ≠ ':')
    if [':', ']'].isPrefixOf (cs.drop name.length) then
      (ClassName.ofName? name).map fun found =>
        (negated, found, name.length + if negated then 5 else 4)
    else none
  | _ => none

def combination? : List Char → Option Combination
  | '&' :: '&' :: _ => some .intersection
  | '-' :: '-' :: _ => some .difference
  | '~' :: '~' :: _ => some .symmetricDifference
  | _ => none

namespace ClassBody

def ofItems (start : Place) : List ClassBody → ClassBody
  | [] => .empty (.point start)
  | [item] => item
  | items@(last :: _) =>
    .union ⟨(items.getLast?.map (·.span.start)).getD start, last.span.stop⟩ items.reverse

def combine (left : Option (Combination × ClassBody)) (right : ClassBody) : ClassBody :=
  match left with
  | none => right
  | some (c, body) => .combined ⟨body.span.start, right.span.stop⟩ c body right

end ClassBody

def toClassItem : Expression → Reader ClassBody
  | .literal l => return .literal l
  | .shorthand span negated s => return .shorthand span negated s
  | .property span negated name => return .property span negated name
  | e => fail .classEscape e.span

def toBoundary : Expression → Reader Literal
  | .literal l => return l
  | e => fail .classBoundary e.span

def readPlain : Reader Literal := do
  let span ← currentSpan
  let c ← current?
  bump
  return ⟨span, c.getD '\x00', false⟩

def readClassPart : Reader Expression := do
  if (← current?) = some '\\' then readEscape else return .literal (← readPlain)

/-- One part of a class, or a range between two. A hyphen in front of the closing bracket or of
another hyphen begins no range. -/
def readRange (opening : Span) : Reader ClassBody := do
  let first ← readClassPart
  skip
  if ← isAtEnd then fail .unclosedClass opening
  let behind ← behind?
  if (← current?) ≠ some '-' ∨ behind = some ']' ∨ behind = some '-' then toClassItem first
  else
    next
    if ← isAtEnd then fail .unclosedClass opening
    let last ← readClassPart
    let span : Span := ⟨first.span.start, last.span.stop⟩
    let low ← toBoundary first
    let high ← toBoundary last
    if high.char < low.char then fail .classRange span
    return .range span low high

def readHyphens (start : Place) : Nat → List ClassBody → Reader (List ClassBody)
  | 0, items => return items
  | fuel + 1, items => do
    if (← current?) = some '-' then
      let span ← currentSpan
      next
      if ← isAtEnd then fail .unclosedClass (.point start)
      readHyphens start fuel (.literal ⟨span, '-', false⟩ :: items)
    else return items

def readFirstItems (start : Place) : Reader (List ClassBody) := do
  let items ← readHyphens start (← get).rest.length []
  if items.isEmpty ∧ (← current?) = some ']' then
    let span ← currentSpan
    next
    if ← isAtEnd then fail .unclosedClass ⟨start, ← place⟩
    return [.literal ⟨span, ']', false⟩]
  else return items

def readOpeningBracket : Reader Bool := do
  let start ← place
  next
  if ← isAtEnd then fail .unclosedClass ⟨start, ← place⟩
  if (← current?) = some '^' then
    next
    if ← isAtEnd then fail .unclosedClass ⟨start, ← place⟩
    return true
  else return false

mutual

def readBracket : Nat → Reader (Span × Bool × ClassBody)
  | 0 => do fail .unclosedClass (← here)
  | fuel + 1 => do
    let start ← place
    let negated ← readOpeningBracket
    let first ← place
    let items ← readFirstItems start
    let body ← readClassItems fuel ⟨start, ← place⟩ none first items
    bump
    return (⟨start, ← place⟩, negated, body)

def readClassItems : Nat → Span → Option (Combination × ClassBody) → Place → List ClassBody →
    Reader ClassBody
  | 0, opening, _, _, _ => fail .unclosedClass opening
  | fuel + 1, opening, left, first, items => do
    skip
    let rest := (← get).rest
    match rest.head?, classByName? rest, combination? rest with
    | none, _, _ => fail .unclosedClass opening
    | some ']', _, _ => return .combine left (.ofItems first items)
    | some '[', some (negated, name, length), _ =>
      let start ← place
      advance length
      readClassItems fuel opening left first (.named ⟨start, ← place⟩ negated name :: items)
    | some '[', none, _ =>
      let (span, negated, body) ← readBracket fuel
      readClassItems fuel opening left first (.nested span negated body :: items)
    | some _, _, some c =>
      advance 2
      let body := ClassBody.combine left (.ofItems first items)
      readClassItems fuel opening (some (c, body)) (← place) []
    | some _, _, none =>
      let item ← readRange opening
      readClassItems fuel opening left first (item :: items)

end

end Interop.Pattern
