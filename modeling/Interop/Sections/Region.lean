import Interop.Sections.Extent

namespace Interop.Sections

/-- Bytes that lie in memory from an address on. -/
structure Region where
  base : UInt64
  bytes : List UInt8
deriving DecidableEq, Repr

namespace Region

def markers (r : Region) : Markers := ⟨r.base, r.base + UInt64.ofNat r.bytes.length⟩

/-- The part between two offsets, at its own address. -/
def part (r : Region) (first last : Nat) : Region :=
  ⟨r.base + UInt64.ofNat first, (r.bytes.drop first).take (last - first)⟩

def read (r : Region) (e : Extent) : List UInt8 :=
  (r.bytes.drop (e.start - r.base).toNat).take e.length

end Region

end Interop.Sections
