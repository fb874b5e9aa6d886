import Interop.Log
import Interop.Sections.Region

namespace Interop.Sections

/-- A named part of memory between two markers, which whoever placed them knows. -/
structure Section where
  name : String
  markers : Markers
deriving DecidableEq, Repr

/-- A section that did not resolve where nobody can go on without it. -/
structure Unresolvable where
  name : String
  cause : Misordered
deriving DecidableEq, Repr

def Unresolvable.message (e : Unresolvable) : String :=
  "section `" ++ e.name ++ "`: " ++ e.cause.message ++
    " (build step must place the start marker before the end marker)"

namespace Section

def ofRegion (name : String) (r : Region) : Section := ⟨name, r.markers⟩

/-- A section that resolves is announced; one that does not leaves no trace in the log. -/
def resolve? (s : Section) : Logged (Except Misordered Extent) :=
  match Extent.ofMarkers s.markers with
  | .error e => pure (.error e)
  | .ok extent => do
    Logged.emit (.resolved s.name extent.start extent.size)
    return .ok extent

def resolve (s : Section) : Logged (Except Unresolvable Extent) := do
  match ← s.resolve? with
  | .error e => return .error ⟨s.name, e⟩
  | .ok extent => return .ok extent

def bytes (s : Section) (memory : Region) : Logged (Except Misordered (List UInt8)) := do
  match ← s.resolve? with
  | .error e => return .error e
  | .ok extent => return .ok (memory.read extent)

end Section

end Interop.Sections
