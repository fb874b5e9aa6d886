import Interop.Sections.Section

namespace Interop.Sections

/-- A place at a fixed address where native code finds the extent published last. -/
structure Mailbox where
  address : UInt64
  start : UInt64
  size : UInt64
deriving DecidableEq, Repr

namespace Mailbox

def width : Nat := Extent.width

def fresh (address : UInt64) : Mailbox := ⟨address, Extent.empty.start, Extent.empty.size⟩

def load (box : Mailbox) : Extent := ⟨box.start, box.size⟩

/-- Replaces the extent and gives the address at which to read it. -/
def publish (box : Mailbox) (e : Extent) : Mailbox × UInt64 :=
  ({ box with start := e.start, size := e.size }, box.address)

def readAt? (box : Mailbox) (address : UInt64) : Option Extent :=
  if address = box.address then some box.load else none

/-- A section that does not resolve leaves the mailbox as it was. -/
def publishFrom (box : Mailbox) (s : Section) :
    Logged (Except Unresolvable (Mailbox × UInt64)) := do
  match ← s.resolve with
  | .error e => return .error e
  | .ok extent => return .ok (box.publish extent)

end Mailbox

end Interop.Sections
