import Interop.Sections.Section

namespace Interop.Sections

/-- Whoever can name a section and tell where its markers stand. -/
class Provider (α : Type) where
  name : α → String
  markers : α → Markers

/-- Bytes that stay where they lie. -/
structure Embedded where
  name : String
  place : Region
deriving DecidableEq, Repr

/-- Bytes in memory of their own, read from a file or handed over. -/
structure Owned where
  name : String
  copy : Region
deriving DecidableEq, Repr

/-- What stands between two symbols, whose addresses a function gives. -/
structure Linked where
  name : String
  bounds : Unit → Markers

instance : Provider Embedded := ⟨Embedded.name, fun p => p.place.markers⟩

instance : Provider Owned := ⟨Owned.name, fun p => p.copy.markers⟩

instance : Provider Linked := ⟨Linked.name, fun p => p.bounds ()⟩

def Owned.ofBytes (name : String) (address : UInt64) (bytes : List UInt8) : Owned :=
  ⟨name, ⟨address, bytes⟩⟩

/-- What may be asked about a section: its extent from the markers alone, its extent where a
misordered pair is reported, its extent where nobody can go on without it, and its bytes. -/
inductive Request
  | direct
  | attempt
  | demand
  | bytes
deriving DecidableEq, Repr

inductive Reply
  | extent (answer : Except Misordered Extent)
  | demanded (answer : Except Unresolvable Extent)
  | bytes (answer : Except Misordered (List UInt8))

namespace Section

variable {α : Type} [Provider α]

def ofProvider (p : α) : Section := ⟨Provider.name p, Provider.markers p⟩

def ask (s : Section) (memory : Region) : Request → Logged Reply
  | .direct => pure (.extent (Extent.ofMarkers s.markers))
  | .attempt => do return .extent (← s.resolve?)
  | .demand => do return .demanded (← s.resolve)
  | .bytes => do return .bytes (← s.bytes memory)

/-- Nothing is kept from one request to the next. -/
def askAll (s : Section) (memory : Region) : List Request → Logged (List Reply)
  | [] => pure []
  | r :: rs => do
    let reply ← s.ask memory r
    let replies ← s.askAll memory rs
    return reply :: replies

end Section

end Interop.Sections
