import Interop.Pattern.CodeSet

namespace Interop

/-- The characters on either side of a place in a text; at its ends there is none. -/
structure Edge where
  before : Option Char
  after : Option Char
deriving DecidableEq, Repr

/-- How a place lies to the words of a text. The halves look at one side only. -/
inductive WordPlace
  | boundary
  | inside
  | first
  | last
  | halfFirst
  | halfLast
deriving DecidableEq, Repr

inductive Anchor
  | textStart
  | textEnd
  | lineStart (returns : Bool)
  | lineEnd (returns : Bool)
  | word (place : WordPlace) (ascii : Bool)
deriving DecidableEq, Repr

namespace Anchor

def isWordChar (c : Option Char) : Bool := c.any fun c => c.isAlphanum || c = '_'

/-- With `returns`, carriage returns end lines too, and one in front of a line feed ends the line
together with it. Words are those of ASCII characters. -/
def holds (e : Edge) : Anchor → Bool
  | .textStart => e.before.isNone
  | .textEnd => e.after.isNone
  | .lineStart false => e.before.isNone || e.before = some '\n'
  | .lineStart true =>
    e.before.isNone || e.before = some '\n' || (e.before = some '\r' && e.after ≠ some '\n')
  | .lineEnd false => e.after.isNone || e.after = some '\n'
  | .lineEnd true =>
    e.after.isNone || e.after = some '\r' || (e.after = some '\n' && e.before ≠ some '\r')
  | .word .boundary _ => isWordChar e.before != isWordChar e.after
  | .word .inside _ => isWordChar e.before == isWordChar e.after
  | .word .first _ => !isWordChar e.before && isWordChar e.after
  | .word .last _ => isWordChar e.before && !isWordChar e.after
  | .word .halfFirst _ => !isWordChar e.before
  | .word .halfLast _ => !isWordChar e.after

end Anchor

/-- A regular expression. A character, or outside of Unicode a byte, is given by ranges. -/
inductive Pattern
  | empty
  | word (cs : List Char)
  | words (ws : List (List Char))
  | anchor (a : Anchor)
  | within (unicode : Bool) (ranges : List (Nat × Nat))
  | seq (p q : Pattern)
  | alt (p q : Pattern)
  | group (place : Nat) (p : Pattern)
  | times (p : Pattern) (least : Nat) (extra : Option Nat) (greedy : Bool)
deriving DecidableEq, Repr

def edgesFrom (before : Option Char) : List Char → List Edge
  | [] => [⟨before, none⟩]
  | c :: cs => ⟨before, some c⟩ :: edgesFrom (some c) cs

namespace Pattern

abbrev EdgeSet := List Bool

namespace EdgeSet

def union (s t : EdgeSet) : EdgeSet := List.zipWith (· || ·) s t

def step (text : List Char) (fits : Char → Bool) (s : EdgeSet) : EdgeSet :=
  false :: List.zipWith (fun here c => here && fits c) s text

def spell (text cs : List Char) (s : EdgeSet) : EdgeSet :=
  cs.foldl (fun s c => step text (· = c) s) s

def iterate (round : EdgeSet → EdgeSet) : Nat → EdgeSet → EdgeSet
  | 0, s => s
  | n + 1, s =>
    let t := round s
    if t = s then s else iterate round n t

def extend (round : EdgeSet → EdgeSet) : Nat → EdgeSet → EdgeSet
  | 0, s => s
  | n + 1, s =>
    let t := s.union (round s)
    if t = s then s else extend round n t

end EdgeSet

/-- The places in a text at which matches end that start at given ones. As many further rounds as
the text has characters lead to every place that any number of them leads to. -/
def ends (text : List Char) : Pattern → EdgeSet → EdgeSet
  | .empty, s => s
  | .word cs, s => EdgeSet.spell text cs s
  | .words ws, s =>
    (ws.map fun w => EdgeSet.spell text w s).foldl EdgeSet.union (s.map fun _ => false)
  | .anchor a, s => List.zipWith (fun here e => here && a.holds e) s (edgesFrom none text)
  | .within _ ranges, s => EdgeSet.step text (isWithin ranges) s
  | .seq p q, s => q.ends text (p.ends text s)
  | .alt p q, s => (p.ends text s).union (q.ends text s)
  | .group _ p, s => p.ends text s
  | .times p least extra _, s =>
    EdgeSet.extend (p.ends text) (extra.getD text.length) (EdgeSet.iterate (p.ends text) least s)

def occursIn (p : Pattern) (text : List Char) : Bool :=
  (p.ends text (List.replicate (text.length + 1) true)).any id

end Pattern

end Interop
