import Interop.Text.Numeral

namespace Interop.Sections

open Text

/-- The addresses of the markers around a section, as whoever placed them reports them. -/
structure Markers where
  start : UInt64
  stop : UInt64
deriving DecidableEq, Repr

def Markers.ordered (m : Markers) : Bool := m.start ≤ m.stop

structure Misordered where
  start : UInt64
  stop : UInt64
deriving DecidableEq, Repr

def Misordered.message (e : Misordered) : String :=
  "section markers misordered: start " ++ address e.start.toNat ++ " is past end " ++
    address e.stop.toNat

/-- Where a section starts and how many bytes it has. -/
structure Extent where
  start : UInt64
  size : UInt64
deriving DecidableEq, Repr

namespace Extent

def empty : Extent := ⟨0, 0⟩

def width : Nat := 16

/-- The difference of two addresses, unless it falls below zero. -/
def distance? (first last : UInt64) : Option UInt64 :=
  if (last.toNat : Int) - first.toNat < 0 then none else some (last - first)

def ofMarkers (m : Markers) : Except Misordered Extent :=
  match distance? m.start m.stop with
  | none => .error ⟨m.start, m.stop⟩
  | some size => .ok ⟨m.start, size⟩

/-- A made-up extent may end past the last address, and the end then wraps. -/
def stop (e : Extent) : UInt64 := e.start + e.size

def length (e : Extent) : Nat := e.size.toNat

def isEmpty (e : Extent) : Bool := e.size == 0

def markers (e : Extent) : Markers := ⟨e.start, e.stop⟩

theorem ofMarkers_of_le {m : Markers} (h : m.start ≤ m.stop) :
    ofMarkers m = .ok ⟨m.start, m.stop - m.start⟩ := by
  have hle := UInt64.le_iff_toNat_le.1 h
  rw [ofMarkers, distance?, if_neg (by omega)]

theorem ofMarkers_of_not_le {m : Markers} (h : ¬ m.start ≤ m.stop) :
    ofMarkers m = .error ⟨m.start, m.stop⟩ := by
  have hlt := mt UInt64.le_iff_toNat_le.2 h
  rw [ofMarkers, distance?, if_pos (by omega)]

theorem markers_of_ofMarkers {m : Markers} {e : Extent} (h : ofMarkers m = .ok e) :
    e.markers = m := by
  by_cases hm : m.start ≤ m.stop
  · rw [ofMarkers_of_le hm] at h
    cases h
    simp [markers, stop, UInt64.add_comm m.start]
  · rw [ofMarkers_of_not_le hm] at h
    cases h

end Extent

end Interop.Sections
