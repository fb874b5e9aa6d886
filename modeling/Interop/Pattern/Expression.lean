import Interop.Pattern.Fault
import Interop.Pattern.Match

namespace Interop.Pattern

structure Literal where
  span : Span
  char : Char
  isByte : Bool
deriving DecidableEq, Repr

inductive Shorthand
  | digit
  | space
  | word
deriving DecidableEq, Repr

inductive ClassName
  | alnum
  | alpha
  | ascii
  | blank
  | cntrl
  | digit
  | graph
  | lower
  | print
  | punct
  | space
  | upper
  | word
  | xdigit
deriving DecidableEq, Repr

namespace ClassName

def named : List (String × ClassName) :=
  [("alnum", .alnum), ("alpha", .alpha), ("ascii", .ascii), ("blank", .blank), ("cntrl", .cntrl),
   ("digit", .digit), ("graph", .graph), ("lower", .lower), ("print", .print), ("punct", .punct),
   ("space", .space), ("upper", .upper), ("word", .word), ("xdigit", .xdigit)]

def ofName? (name : List Char) : Option ClassName :=
  (named.find? fun entry => entry.1.toList = name).map (·.2)

def ranges : ClassName → List (Nat × Nat)
  | .alnum => [(0x30, 0x39), (0x41, 0x5A), (0x61, 0x7A)]
  | .alpha => [(0x41, 0x5A), (0x61, 0x7A)]
  | .ascii => [(0x00, 0x7F)]
  | .blank => [(0x09, 0x09), (0x20, 0x20)]
  | .cntrl => [(0x00, 0x1F), (0x7F, 0x7F)]
  | .digit => [(0x30, 0x39)]
  | .graph => [(0x21, 0x7E)]
  | .lower => [(0x61, 0x7A)]
  | .print => [(0x20, 0x7E)]
  | .punct => [(0x21, 0x2F), (0x3A, 0x40), (0x5B, 0x60), (0x7B, 0x7E)]
  | .space => [(0x09, 0x0D), (0x20, 0x20)]
  | .upper => [(0x41, 0x5A)]
  | .word => [(0x30, 0x39), (0x41, 0x5A), (0x5F, 0x5F), (0x61, 0x7A)]
  | .xdigit => [(0x30, 0x39), (0x41, 0x46), (0x61, 0x66)]

end ClassName

def Shorthand.className : Shorthand → ClassName
  | .digit => .digit
  | .space => .space
  | .word => .word

inductive Combination
  | intersection
  | difference
  | symmetricDifference
deriving DecidableEq, Repr

inductive ClassBody
  | empty (span : Span)
  | literal (l : Literal)
  | range (span : Span) (first last : Literal)
  | named (span : Span) (negated : Bool) (name : ClassName)
  | shorthand (span : Span) (negated : Bool) (s : Shorthand)
  | property (span : Span) (negated : Bool) (name : List Char)
  | nested (span : Span) (negated : Bool) (body : ClassBody)
  | union (span : Span) (items : List ClassBody)
  | combined (span : Span) (c : Combination) (left right : ClassBody)
deriving Repr

def ClassBody.span : ClassBody → Span
  | .empty s | .range s .. | .named s .. | .shorthand s .. | .property s .. | .nested s ..
  | .union s .. | .combined s .. => s
  | .literal l => l.span

inductive Flag
  | caseless
  | multiLine
  | dotAll
  | swapGreed
  | unicode
  | returns
  | spaced
deriving DecidableEq, Repr

def Flag.ofChar? : Char → Option Flag
  | 'i' => some .caseless
  | 'm' => some .multiLine
  | 's' => some .dotAll
  | 'U' => some .swapGreed
  | 'u' => some .unicode
  | 'R' => some .returns
  | 'x' => some .spaced
  | _ => none

abbrev FlagChanges := List (Flag × Bool)

inductive Condition
  | lineStart
  | lineEnd
  | textStart
  | textEnd
  | word (place : WordPlace)
deriving DecidableEq, Repr

/-- A pattern as it is written, with the place of everything in it. -/
inductive Expression
  | empty (span : Span)
  | flags (span : Span) (changes : FlagChanges)
  | literal (l : Literal)
  | dot (span : Span)
  | condition (span : Span) (c : Condition)
  | shorthand (span : Span) (negated : Bool) (s : Shorthand)
  | property (span : Span) (negated : Bool) (name : List Char)
  | bracketed (span : Span) (negated : Bool) (body : ClassBody)
  | repetition (span : Span) (least : Nat) (most : Option Nat) (greedy : Bool) (e : Expression)
  | group (span : Span) (captures : Bool) (changes : FlagChanges) (e : Expression)
  | branches (span : Span) (es : List Expression)
  | sequence (span : Span) (es : List Expression)
deriving Repr

namespace Expression

def span : Expression → Span
  | .empty s | .flags s .. | .dot s | .condition s .. | .shorthand s .. | .property s ..
  | .bracketed s .. | .repetition s .. | .group s .. | .branches s .. | .sequence s .. => s
  | .literal l => l.span

def ofSequence (span : Span) : List Expression → Expression
  | [] => .empty span
  | [e] => e
  | es => .sequence span es

end Expression

mutual

def ClassBody.tooDeep? (limit depth : Nat) : ClassBody → Option Span
  | .nested span _ body =>
    if limit ≤ depth then some span else body.tooDeep? limit (depth + 1)
  | .union span items =>
    if limit ≤ depth then some span else ClassBody.anyTooDeep? limit (depth + 1) items
  | .combined span _ left right =>
    if limit ≤ depth then some span
    else (left.tooDeep? limit (depth + 1)).or (right.tooDeep? limit (depth + 1))
  | _ => none

def ClassBody.anyTooDeep? (limit depth : Nat) : List ClassBody → Option Span
  | [] => none
  | body :: rest => (body.tooDeep? limit depth).or (ClassBody.anyTooDeep? limit depth rest)

end

mutual

def Expression.tooDeep? (limit depth : Nat) : Expression → Option Span
  | .bracketed span _ body =>
    if limit ≤ depth then some span else body.tooDeep? limit (depth + 1)
  | .repetition span _ _ _ e | .group span _ _ e =>
    if limit ≤ depth then some span else e.tooDeep? limit (depth + 1)
  | .branches span es | .sequence span es =>
    if limit ≤ depth then some span else Expression.anyTooDeep? limit (depth + 1) es
  | _ => none

def Expression.anyTooDeep? (limit depth : Nat) : List Expression → Option Span
  | [] => none
  | e :: rest => (e.tooDeep? limit depth).or (Expression.anyTooDeep? limit depth rest)

end

end Interop.Pattern
