import Interop.Managed.Cursor
import Interop.Managed.Edit

namespace Interop.Managed

structure Write where
  index : Int32
  unit : UInt16
  applied : Bool
deriving DecidableEq, Repr

structure Read where
  index : Int32
  unit : UInt16
deriving DecidableEq, Repr

structure Report where
  length : Int32
  occupied : Nat
  units : List UInt16
  writes : List Write
  reads : List Read
deriving DecidableEq, Repr

namespace Image

/-- Applies the edits in order. Whether each one fell inside is judged by the length at the start,
which no edit changes. -/
def writeAll (length : Int32) (m : Image) : List Edit → Logged (Image × List Write)
  | [] => pure (m, [])
  | e :: es => do
    let edited ← m.set e.index e.unit
    let (last, writes) ← edited.writeAll length es
    return (last, ⟨e.index, e.unit, decide (0 ≤ e.index ∧ e.index < length)⟩ :: writes)

def readAll (m : Image) : List Int32 → Logged (List Read)
  | [] => pure []
  | i :: is => do
    let u ← m.get i
    let reads ← m.readAll is
    return ⟨i, u⟩ :: reads

/-- All edits come first, so the reads see their outcome. -/
def apply (m : Image) (edits : List Edit) (reads : List Int32) : Logged (Image × Report) := do
  let length := m.length
  let (edited, writes) ← m.writeAll length edits
  let entries ← edited.readAll reads
  return (edited, ⟨edited.length, edited.occupied, edited.units, writes, entries⟩)

end Image

end Interop.Managed
