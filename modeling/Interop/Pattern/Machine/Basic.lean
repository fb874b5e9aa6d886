namespace Interop.Pattern

/-- A machine as far as it is built, by what it takes up. Its states are numbered in the order in
which they are added. -/
structure Machine where
  states : Nat
  links : Nat
  fork : Bool
deriving DecidableEq, Repr

abbrev Builder := Machine → Machine

namespace Machine

def empty : Machine := ⟨0, 0, false⟩

def size (m : Machine) : Nat := 32 * m.states + m.links

def sizeLimit : Nat := 10 * 1024 * 1024

def isTooBig (m : Machine) : Bool := sizeLimit < m.size

def addStates (n : Nat) (m : Machine) : Machine := ⟨m.states + n, m.links, false⟩

def addState (m : Machine) : Machine := m.addStates 1

def addExits (n : Nat) (m : Machine) : Machine := { m with links := m.links + 4 * n }

def addRanges (n : Nat) (m : Machine) : Machine :=
  { m.addState with links := m.links + 8 * n }

def addLoop (m : Machine) : Machine := { m.addState.addExits 1 with fork := true }

def attach (m : Machine) : Machine :=
  if m.fork then { m.addExits 1 with fork := false } else m

/-- So many copies, each with something to follow. Nothing is gained by building on when it is
already too big. -/
def copies (f : Builder) : Nat → Builder
  | 0, m => m
  | n + 1, m => if m.isTooBig then m else copies f n (f m).attach

def exactly (f : Builder) : Nat → Builder
  | 0, m => m.addState
  | n + 1, m => f (copies f n m)

def optional (f : Builder) (m : Machine) : Machine := (f m.addState).attach.addState.addExits 2

def star (f : Builder) (consumes : Bool) (m : Machine) : Machine :=
  if consumes then { (f m.addState).attach.addExits 1 with fork := true }
  else ((f m).attach.addStates 3).addExits 4

def upTo (f : Builder) (least extra : Nat) (m : Machine) : Machine :=
  copies (fun m => (f m.addState).addExits 2) extra (exactly f least m).attach.addState

def repeated (f : Builder) (consumes : Bool) : Nat → Option Nat → Builder
  | 0, none => star f consumes
  | least, none => fun m => (exactly f least m).attach.addLoop
  | 0, some 1 => optional f
  | least, some 0 => exactly f least
  | least, some extra => upTo f least extra

def addBranch (m : Machine) (f : Builder) : Machine := (f m).attach.addExits 1

/-- Branches fork from one state and meet in another. These two are added when it has turned out
that there is more than one branch. -/
def either : List Builder → Builder
  | [], m => m.addState
  | [f], m => f m
  | f :: g :: rest, m => rest.foldl addBranch ((m.addBranch f).addBranch g).addState.addState

end Machine

end Interop.Pattern
