import Interop.Log
import Interop.Managed.Layout
import Interop.Storage

namespace Interop.Managed

open Layout

structure TooLong where
  units : Nat
deriving DecidableEq, Repr

def TooLong.message (e : TooLong) : String :=
  "string too long: " ++ Text.decimal e.units ++ " code units (maximum " ++
    Text.decimal maxLength ++ ")"

/-- A managed string in memory of its own. `count` is what the owner allocated; the header's
length is what every reader goes by, and the owner may lower it. -/
structure Image where
  storage : Storage
  count : Nat
deriving DecidableEq

namespace Image

def checkCount (units : Nat) : Except TooLong Unit :=
  if units ≤ maxLength then .ok () else .error ⟨units⟩

def build (tag : UInt64) (units : List UInt16) : Image where
  storage := (((Storage.zeroed (blocks units.length)).store tagOffset tagSize tag.toNat).store
    lengthOffset lengthSize units.length).write unitsOffset
      (units.flatMap fun u => LittleEndian.encode unitSize u.toNat)
  count := units.length

def ofUnits (tag : UInt64) (units : List UInt16) : Except TooLong Image := do
  checkCount units.length
  return build tag units

def tag (m : Image) : UInt64 := UInt64.ofNat (m.storage.load tagOffset tagSize)

def length (m : Image) : Int32 := (UInt32.ofNat (m.storage.load lengthOffset lengthSize)).toInt32

/-- The length as a count: a negative length shows no units. -/
def visible (m : Image) : Nat := m.length.toNatClampNeg

def isEmpty (m : Image) : Bool := m.visible == 0

def occupied (m : Image) : Nat := Layout.occupied m.count

def bytes (m : Image) : List UInt8 := m.storage.slice 0 m.occupied

def unitAt (m : Image) (i : Nat) : UInt16 :=
  UInt16.ofNat (m.storage.load (unitOffset i) unitSize)

def putUnit (m : Image) (i : Nat) (u : UInt16) : Image :=
  { m with storage := m.storage.store (unitOffset i) unitSize u.toNat }

def setLength (m : Image) (length : Int32) : Image :=
  { m with storage := m.storage.store lengthOffset lengthSize length.toUInt32.toNat }

/-- The one gate of all indexed access. -/
def checkIndex (i length : Int32) : Option Nat :=
  if i < 0 ∨ length ≤ i then none else some i.toNatClampNeg

/-- Outside the string there is nothing to read, which gives zero. -/
def get (m : Image) (i : Int32) : Logged UInt16 :=
  match checkIndex i m.length with
  | some k => pure (m.unitAt k)
  | none => do
    Logged.emit (.readOutside i m.length)
    return 0

/-- Outside the string there is nothing to write, and the image stays as it was. -/
def set (m : Image) (i : Int32) (u : UInt16) : Logged Image :=
  match checkIndex i m.length with
  | some k => pure (m.putUnit k u)
  | none => do
    Logged.emit (.writeOutside i m.length)
    return m

end Image

/-- Reads for callers that may hold no string at all: they get zero, and nothing is logged. -/
def getAt (target : Option Image) (i : Int32) : Logged UInt16 :=
  match target with
  | some m => m.get i
  | none => pure 0

def setAt (target : Option Image) (i : Int32) (u : UInt16) : Logged (Option Image) :=
  match target with
  | some m => some <$> m.set i u
  | none => pure none

/-- The ways to read a unit: the plain function, a method of either kind of view, and the address
that the managed side hands out. -/
inductive ReadPath
  | function
  | reader
  | writer
  | address
deriving DecidableEq, Repr

inductive WritePath
  | function
  | writer
  | address
deriving DecidableEq, Repr

namespace Image

/-- The methods of the views call the plain function. -/
def readBy (m : Image) (path : ReadPath) (i : Int32) : Logged UInt16 :=
  match path with
  | .function | .reader | .writer => m.get i
  | .address => getAt (some m) i

def writeBy (m : Image) (path : WritePath) (i : Int32) (u : UInt16) : Logged Image :=
  match path with
  | .function | .writer => m.set i u
  | .address => do
    let target ← setAt (some m) i u
    return target.getD m

end Image

end Interop.Managed
