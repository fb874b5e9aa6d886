namespace Interop.Managed

namespace Layout

def tagOffset : Nat := 0

def tagSize : Nat := 8

def lengthOffset : Nat := 8

def lengthSize : Nat := 4

def unitsOffset : Nat := 12

def unitSize : Nat := 2

def alignment : Nat := 8

/-- What the header takes with the padding behind it. -/
def headerSize : Nat := 16

/-- The largest length that the header's signed field holds. -/
def maxLength : Nat := 2147483647

def occupied (units : Nat) : Nat := unitsOffset + unitSize * units

def unitOffset (index : Nat) : Nat := unitsOffset + unitSize * index

/-- Blocks of eight bytes that hold the units and never less than the header. -/
def blocks (units : Nat) : Nat := (max (occupied units) headerSize + 7) / 8

theorem occupied_le_blocks (units : Nat) : occupied units ≤ 8 * blocks units := by
  unfold blocks
  omega

end Layout

/-- The scalar types that cross the boundary, with their widths in bytes. -/
def scalarWidths : List (String × Nat) :=
  [("Int8", 1), ("Int16", 2), ("Int32", 4), ("Int64", 8), ("UInt8", 1), ("UInt16", 2),
   ("UInt32", 4), ("UInt64", 8), ("Char", 2), ("IntPtr", 8), ("TypeTag", 8), ("SByte", 1),
   ("Byte", 1), ("UShort", 2), ("UInt", 4), ("ULong", 8)]

end Interop.Managed
