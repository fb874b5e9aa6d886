import Std.Data.HashMap

namespace Interop.Pattern

/-- A table with a fixed number of slots. A key has one slot, and an entry replaces what another key
has left there. -/
structure Slots where
  count : Nat
  held : Std.HashMap Nat (List Nat × Nat)

namespace Slots

def ofCount (count : Nat) : Slots := ⟨count, ∅⟩

def mix (key : List Nat) : UInt64 :=
  key.foldl (fun h n => (h ^^^ n.toUInt64) * 1099511628211) 14695981039346656037

def slot (s : Slots) (key : List Nat) : Nat := (mix key).toNat % s.count

def find? (s : Slots) (key : List Nat) : Option Nat :=
  match s.held[s.slot key]? with
  | some (k, value) => if k = key then some value else none
  | none => none

def put (s : Slots) (key : List Nat) (value : Nat) : Slots :=
  { s with held := s.held.insert (s.slot key) (key, value) }

end Slots

end Interop.Pattern
