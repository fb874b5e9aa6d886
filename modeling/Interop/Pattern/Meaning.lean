import Interop.Pattern.Expression
import Interop.Pattern.Form

namespace Interop.Pattern

/-- How what follows in a pattern is to be understood. -/
structure Manner where
  caseless : Bool := false
  multiLine : Bool := false
  dotAll : Bool := false
  swapGreed : Bool := false
  unicode : Bool := true
  returns : Bool := false
deriving DecidableEq, Repr

namespace Manner

def put (m : Manner) (value : Bool) : Flag → Manner
  | .caseless => { m with caseless := value }
  | .multiLine => { m with multiLine := value }
  | .dotAll => { m with dotAll := value }
  | .swapGreed => { m with swapGreed := value }
  | .unicode => { m with unicode := value }
  | .returns => { m with returns := value }
  | .spaced => m

def change (m : Manner) (changes : FlagChanges) : Manner :=
  changes.foldl (fun m (flag, value) => m.put value flag) m

end Manner

namespace CodeSet

/-- No letters beyond ASCII have their cases told, so that under Unicode a set can be made caseless
only if it is so already. -/
def foldCase (m : Manner) (span : Span) (s : CodeSet) : Except Fault CodeSet :=
  if !m.caseless then .ok s
  else if !m.unicode then .ok s.foldAscii
  else if s.caseless || s.ranges.isEmpty then .ok { s with caseless := true }
  else .error ⟨.unavailableCase, span, none⟩

def negateIf (m : Manner) (span : Span) (negated : Bool) (s : CodeSet) : Except Fault CodeSet :=
  let found := if negated then s.complement (if m.unicode then lastCode else 0xFF) else s
  if m.unicode || found.isAscii then .ok found else .error ⟨.notText, span, none⟩

def finish (m : Manner) (span : Span) (negated : Bool) (s : CodeSet) : Except Fault CodeSet := do
  (← s.foldCase m span).negateIf m span negated

def combine : Combination → CodeSet → CodeSet → CodeSet
  | .intersection => intersection
  | .difference => difference
  | .symmetricDifference => symmetricDifference

end CodeSet

namespace Literal

def codeSet (c : Char) : CodeSet := .ofRanges [(c.toNat, c.toNat)]

def isStrayByte (m : Manner) (l : Literal) : Bool :=
  !m.unicode && l.isByte && 0x7F < l.char.toNat && l.char.toNat ≤ 0xFF

def codes (m : Manner) (l : Literal) : Except Fault CodeSet :=
  if l.isStrayByte m then .error ⟨.notText, l.span, none⟩
  else if !m.caseless then .ok (codeSet l.char)
  else if m.unicode then .error ⟨.unavailableCase, l.span, none⟩
  else .ok (codeSet l.char).foldAscii

def code (m : Manner) (l : Literal) : Except Fault Nat :=
  if l.isStrayByte m then .error ⟨.notText, l.span, none⟩
  else if !m.unicode && 0x7F < l.char.toNat then .error ⟨.notUnicode, l.span, none⟩
  else .ok l.char.toNat

def range (m : Manner) (first last : Literal) : Except Fault (Nat × Nat) := do
  return (← first.code m, ← last.code m)

end Literal

def Shorthand.codes (m : Manner) (span : Span) (negated : Bool) (s : Shorthand) :
    Except Fault CodeSet :=
  if m.unicode then .error ⟨.unavailableClass, span, none⟩
  else (CodeSet.ofRanges s.className.ranges).negateIf m span negated

def looseName (name : List Char) : List Char :=
  let lower := name.map Char.toLower
  (if ['i', 's'].isPrefixOf lower then lower.drop 2 else lower).filter fun c =>
    c.toNat < 0x80 && c ≠ ' ' && c ≠ '_' && c ≠ '-'

def propertyFault (m : Manner) (span : Span) (name : List Char) : Fault :=
  let kind : FaultKind :=
    if !m.unicode then .notUnicode
    else if looseName name ∈ ["cf", "sc", "lc"].map String.toList then .unknownPropertyValue
    else .unknownProperty
  ⟨kind, span, none⟩

mutual

def ClassBody.addTo (m : Manner) (s : CodeSet) : ClassBody → Except Fault CodeSet
  | .empty _ => .ok s
  | .literal l => do return s.insertAll [← Literal.range m l l]
  | .range _ first last => do return s.insertAll [← Literal.range m first last]
  | .named span negated name => do
    return s.union (← (CodeSet.ofRanges name.ranges).finish m span negated)
  | .shorthand span negated h => do
    return s.union (← h.codes m span negated)
  | .property span _ name => .error (propertyFault m span name)
  | .nested span negated body => do
    let inner ← body.addTo m .empty
    return s.union (← inner.finish m span negated)
  | .union _ items => ClassBody.addAll m s [] items
  | .combined _ c left right => do
    let l ← left.addTo m .empty
    let r ← right.addTo m .empty
    let r ← r.foldCase m right.span
    let l ← l.foldCase m left.span
    return s.union (.combine c l r)

def ClassBody.addAll (m : Manner) (s : CodeSet) (waiting : List (Nat × Nat)) :
    List ClassBody → Except Fault CodeSet
  | [] => .ok (s.insertAll waiting)
  | .literal l :: rest => do ClassBody.addAll m s ((← Literal.range m l l) :: waiting) rest
  | .range _ first last :: rest => do
    ClassBody.addAll m s ((← Literal.range m first last) :: waiting) rest
  | body :: rest => do ClassBody.addAll m (← body.addTo m (s.insertAll waiting)) [] rest

end

abbrev Interpreter := StateT Manner (Except Fault)

def dotSet (m : Manner) (span : Span) : Except Fault CodeSet :=
  if !m.unicode then .error ⟨.notText, span, none⟩
  else
    let excluded :=
      if m.dotAll then [] else if m.returns then [(0x0A, 0x0A), (0x0D, 0x0D)] else [(0x0A, 0x0A)]
    .ok ((CodeSet.ofRanges excluded).complement CodeSet.lastCode)

def Condition.toAnchor (m : Manner) : Condition → Anchor
  | .lineStart => if m.multiLine then .lineStart m.returns else .textStart
  | .lineEnd => if m.multiLine then .lineEnd m.returns else .textEnd
  | .textStart => .textStart
  | .textEnd => .textEnd
  | .word place => .word place (!m.unicode)

mutual

/-- The pattern that an expression describes. Flags hold up to the end of the group in which they
are changed, also across branches. -/
def Expression.meaning : Expression → Interpreter Pattern
  | .empty _ => return .empty
  | .flags _ changes => do
    modify (·.change changes)
    return .empty
  | .literal l => do
    let m ← get
    return ofSet m.unicode (← l.codes m)
  | .dot span => do
    let m ← get
    return ofSet m.unicode (← dotSet m span)
  | .condition _ c => do return .anchor (c.toAnchor (← get))
  | .shorthand span negated s => do
    let m ← get
    return ofSet m.unicode (← s.codes m span negated)
  | .property span _ name => do throw (propertyFault (← get) span name)
  | .bracketed span negated body => do
    let m ← get
    let s ← body.addTo m .empty
    return ofSet m.unicode (← s.finish m span negated)
  | .repetition _ least most greedy e => do
    let p ← e.meaning
    return p.repeated least most (greedy != (← get).swapGreed)
  | .group span captures changes e => do
    let outer ← get
    set (outer.change changes)
    let p ← e.meaning
    set outer
    return if captures then .group span.start.index p else p
  | .branches _ es => return alternatives (← Expression.meanings es)
  | .sequence _ es => return concat (← Expression.meanings es)

def Expression.meanings : List Expression → Interpreter (List Pattern)
  | [] => return []
  | e :: rest => do
    let p ← e.meaning
    return p :: (← Expression.meanings rest)

end

def Expression.toPattern (e : Expression) : Except Fault Pattern := e.meaning.run' {}

end Interop.Pattern
