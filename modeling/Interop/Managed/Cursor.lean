import Interop.Managed.Image

namespace Interop.Managed

/-- A walk over the visible units. Its end is taken from the header once, at the start. -/
structure Cursor where
  image : Image
  next : Nat
  stop : Nat

namespace Cursor

def remaining (c : Cursor) : Nat := c.stop - c.next

def sizeHint (c : Cursor) : Nat × Option Nat := (c.remaining, some c.remaining)

def advance (c : Cursor) : Option UInt16 × Cursor :=
  if c.next < c.stop then (some (c.image.unitAt c.next), { c with next := c.next + 1 })
  else (none, c)

def rest (c : Cursor) : List UInt16 := (List.range' c.next c.remaining).map c.image.unitAt

theorem rest_advance (c : Cursor) :
    c.rest = match c.advance with
      | (some u, d) => u :: d.rest
      | (none, _) => [] := by
  by_cases h : c.next < c.stop
  · obtain ⟨n, hn⟩ : ∃ n, c.stop - c.next = n + 1 := ⟨c.stop - c.next - 1, by omega⟩
    have hr : c.stop - (c.next + 1) = n := by omega
    simp [advance, rest, remaining, h, hn, hr, List.range'_succ]
  · have hz : c.stop - c.next = 0 := by omega
    simp [advance, rest, remaining, h, hz]

theorem length_rest (c : Cursor) : c.rest.length = c.remaining := by
  simp [rest]

end Cursor

def Image.cursor (m : Image) : Cursor := ⟨m, 0, m.visible⟩

def Image.units (m : Image) : List UInt16 := m.cursor.rest

end Interop.Managed
