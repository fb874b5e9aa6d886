namespace Interop.Pattern

/-- A place in the text of a pattern: how many characters stand before it, and its line and column,
which count from one. -/
structure Place where
  index : Nat
  line : Nat
  column : Nat
deriving DecidableEq, Repr

namespace Place

def start : Place := ⟨0, 1, 1⟩

def past (p : Place) (c : Char) : Place :=
  if c = '\n' then ⟨p.index + 1, p.line + 1, 1⟩ else ⟨p.index + 1, p.line, p.column + 1⟩

end Place

structure Span where
  start : Place
  stop : Place
deriving DecidableEq, Repr

namespace Span

def point (p : Place) : Span := ⟨p, p⟩

def isOneLine (s : Span) : Bool := s.start.line == s.stop.line

def le (s t : Span) : Bool :=
  s.start.index < t.start.index ||
    (s.start.index == t.start.index && s.stop.index ≤ t.stop.index)

end Span

end Interop.Pattern
