import Interop.Pattern.Source
import Interop.Text.Numeral
import Interop.Text.Split

namespace Interop.Pattern

open Text

inductive FaultKind
  | classEscape
  | classRange
  | classBoundary
  | unclosedClass
  | badDecimal
  | emptyHex
  | badHex
  | badHexDigit
  | unfinishedEscape
  | unknownEscape
  | danglingNegation
  | repeatedFlag
  | repeatedNegation
  | unfinishedFlags
  | unknownFlag
  | repeatedName
  | emptyName
  | badName
  | unfinishedName
  | unclosedGroup
  | unopenedGroup
  | tooDeep (limit : Nat)
  | crossedCount
  | missingCount
  | unclosedCount
  | nothingToRepeat
  | unclosedWordPlace
  | unknownWordPlace
  | unfinishedWordPlace
  | badProperty
  | backreference
  | lookAround
  | notUnicode
  | notText
  | unknownProperty
  | unknownPropertyValue
  | unavailableClass
  | unavailableCase
deriving DecidableEq, Repr

def FaultKind.message : FaultKind → String
  | .classEscape => "invalid escape sequence found in character class"
  | .classRange => "invalid character class range, the start must be <= the end"
  | .classBoundary => "invalid range boundary, must be a literal"
  | .unclosedClass => "unclosed character class"
  | .badDecimal => "decimal literal invalid"
  | .emptyHex => "hexadecimal literal empty"
  | .badHex => "hexadecimal literal is not a Unicode scalar value"
  | .badHexDigit => "invalid hexadecimal digit"
  | .unfinishedEscape => "incomplete escape sequence, reached end of pattern prematurely"
  | .unknownEscape => "unrecognized escape sequence"
  | .danglingNegation => "dangling flag negation operator"
  | .repeatedFlag => "duplicate flag"
  | .repeatedNegation => "flag negation operator repeated"
  | .unfinishedFlags => "expected flag but got end of regex"
  | .unknownFlag => "unrecognized flag"
  | .repeatedName => "duplicate capture group name"
  | .emptyName => "empty capture group name"
  | .badName => "invalid capture group character"
  | .unfinishedName => "unclosed capture group name"
  | .unclosedGroup => "unclosed group"
  | .unopenedGroup => "unopened group"
  | .tooDeep limit =>
    "exceed the maximum number of nested parentheses/brackets (" ++ decimal limit ++ ")"
  | .crossedCount => "invalid repetition count range, the start must be <= the end"
  | .missingCount => "repetition quantifier expects a valid decimal"
  | .unclosedCount => "unclosed counted repetition"
  | .nothingToRepeat => "repetition operator missing expression"
  | .unclosedWordPlace =>
    "special word boundary assertion is either unclosed or contains an invalid character"
  | .unknownWordPlace =>
    "unrecognized special word boundary assertion, valid choices are: start, end, start-half " ++
      "or end-half"
  | .unfinishedWordPlace =>
    "found either the beginning of a special word boundary or a bounded repetition on a \\b " ++
      "with an opening brace, but no closing brace"
  | .badProperty => "invalid Unicode character class"
  | .backreference => "backreferences are not supported"
  | .lookAround => "look-around, including look-ahead and look-behind, is not supported"
  | .notUnicode => "Unicode not allowed here"
  | .notText => "pattern can match invalid UTF-8"
  | .unknownProperty => "Unicode property not found"
  | .unknownPropertyValue => "Unicode property value not found"
  | .unavailableClass =>
    "Unicode-aware Perl class not found (make sure the unicode-perl feature is enabled)"
  | .unavailableCase =>
    "Unicode-aware case insensitivity matching is not available (make sure the unicode-case " ++
      "feature is enabled)"

/-- What is wrong with a pattern and where; for what stands twice, also where it stands first. -/
structure Fault where
  kind : FaultKind
  span : Span
  first : Option Span := none
deriving DecidableEq, Repr

/-- The lines of a text; a line feed at the end starts no further one, and a carriage return in
front of a line feed belongs to it. -/
def textLines (text : List Char) : List (List Char) :=
  let parts := splitAll '\n' text
  let closed := parts.dropLast.map fun line =>
    if line.getLast? = some '\r' then line.dropLast else line
  closed ++ (parts.getLast?.filter (· ≠ [])).toList

namespace Fault

def spans (f : Fault) : List Span := (f.span :: f.first.toList).mergeSort Span.le

def caretsFrom (column : Nat) : List Span → List Char
  | [] => []
  | s :: rest =>
    let gap := s.start.column - column
    let width := max 1 (s.stop.column - s.start.column)
    List.replicate gap ' ' ++ List.replicate width '^' ++
      caretsFrom (column + gap + width) rest

def lineCount (pattern : List Char) : Nat :=
  (textLines pattern).length + if pattern.getLast? = some '\n' then 1 else 0

def margin (count line : Nat) : String :=
  if count ≤ 1 then "    " else padLeft (decimal count).length ' ' (decimal line) ++ ": "

def annotate (f : Fault) (count line : Nat) (text : List Char) : String :=
  let here := f.spans.filter fun s => s.isOneLine && s.start.line == line
  let shown := margin count line ++ String.ofList text ++ "\n"
  if here.isEmpty then shown
  else shown ++ String.ofList (List.replicate (margin count line).length ' ') ++
    String.ofList (caretsFrom 1 here) ++ "\n"

def excerpt (f : Fault) (pattern : List Char) : String :=
  let lines := textLines pattern
  String.join ((lines.zip (List.range' 1 lines.length)).map fun (text, line) =>
    f.annotate (lineCount pattern) line text)

def describeSpan (s : Span) : String :=
  "on line " ++ decimal s.start.line ++ " (column " ++ decimal s.start.column ++
    ") through line " ++ decimal s.stop.line ++ " (column " ++ decimal (s.stop.column - 1) ++ ")"

def rule : String := String.ofList (List.replicate 79 '~') ++ "\n"

def report (f : Fault) (pattern : List Char) : String :=
  "regex parse error:\n" ++
  (if '\n' ∈ pattern then
    let long := f.spans.filter fun s => !s.isOneLine
    rule ++ f.excerpt pattern ++ rule ++
      (if long.isEmpty then "" else "\n".intercalate (long.map describeSpan) ++ "\n")
  else f.excerpt pattern) ++
  "error: " ++ f.kind.message

end Fault

end Interop.Pattern
