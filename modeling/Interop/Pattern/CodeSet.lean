namespace Interop.Pattern

/-- A set of code points as closed ranges, which ascend and do not touch. -/
structure CodeSet where
  ranges : List (Nat × Nat)
  caseless : Bool
deriving DecidableEq, Repr

namespace CodeSet

def empty : CodeSet := ⟨[], true⟩

def lastCode : Nat := 0x10FFFF

def absorb (range : Nat × Nat) : List (Nat × Nat) → List (Nat × Nat)
  | [] => [range]
  | next :: rest =>
    if next.1 ≤ range.2 + 1 then absorb (range.1, max range.2 next.2) rest
    else range :: absorb next rest

def settle (ranges : List (Nat × Nat)) : List (Nat × Nat) :=
  match ranges.mergeSort fun r s => r.1 ≤ s.1 with
  | [] => []
  | range :: rest => absorb range rest

def ofRanges (ranges : List (Nat × Nat)) : CodeSet := ⟨settle ranges, ranges.isEmpty⟩

def insertAll (s : CodeSet) (ranges : List (Nat × Nat)) : CodeSet :=
  if ranges.isEmpty then s else ⟨settle (ranges ++ s.ranges), false⟩

def union (s t : CodeSet) : CodeSet :=
  if t.ranges.isEmpty || s.ranges = t.ranges then s
  else ⟨settle (s.ranges ++ t.ranges), s.caseless && t.caseless⟩

def above (code : Nat) : Nat := if code = 0xD7FF then 0xE000 else code + 1

def below (code : Nat) : Nat := if code = 0xE000 then 0xD7FF else code - 1

/-- What lies between two ranges. Where there are only surrogates between them, this is taken to be
the character on either side. -/
def between (r s : Nat × Nat) : Nat × Nat :=
  (min (above r.2) (below s.1), max (above r.2) (below s.1))

def gaps (last : Nat) (range : Nat × Nat) : List (Nat × Nat) → List (Nat × Nat)
  | [] => if range.2 < last then [(above range.2, last)] else []
  | next :: rest => between range next :: gaps last next rest

def complement (last : Nat) (s : CodeSet) : CodeSet :=
  match s.ranges with
  | [] => ⟨[(0, last)], true⟩
  | range :: rest =>
    ⟨(if 0 < range.1 then [(0, below range.1)] else []) ++ gaps last range rest, s.caseless⟩

def overlap (r s : Nat × Nat) : Option (Nat × Nat) :=
  let first := max r.1 s.1
  let last := min r.2 s.2
  if first ≤ last then some (first, last) else none

def meet (rs ss : List (Nat × Nat)) : List (Nat × Nat) :=
  settle (rs.flatMap fun r => ss.filterMap (overlap r))

def intersection (s t : CodeSet) : CodeSet :=
  if s.ranges.isEmpty then s
  else if t.ranges.isEmpty then empty
  else ⟨meet s.ranges t.ranges, s.caseless && t.caseless⟩

def without (s r : Nat × Nat) : List (Nat × Nat) :=
  if (overlap r s).isNone then [r]
  else (if r.1 < s.1 then [(r.1, below s.1)] else []) ++
    if s.2 < r.2 then [(above s.2, r.2)] else []

def difference (s t : CodeSet) : CodeSet :=
  if s.ranges.isEmpty || t.ranges.isEmpty then s
  else ⟨t.ranges.foldl (fun rs r => rs.flatMap (without r)) s.ranges, s.caseless && t.caseless⟩

def symmetricDifference (s t : CodeSet) : CodeSet :=
  (s.union t).difference (s.intersection t)

def otherCase (range : Nat × Nat) : List (Nat × Nat) :=
  ((overlap range (0x41, 0x5A)).map fun r => (r.1 + 0x20, r.2 + 0x20)).toList ++
    ((overlap range (0x61, 0x7A)).map fun r => (r.1 - 0x20, r.2 - 0x20)).toList

def foldAscii (s : CodeSet) : CodeSet :=
  ⟨settle (s.ranges ++ s.ranges.flatMap otherCase), true⟩

def isAscii (s : CodeSet) : Bool := s.ranges.all fun range => range.2 ≤ 0x7F

end CodeSet

def isWithin (ranges : List (Nat × Nat)) (c : Char) : Bool :=
  ranges.any fun (first, last) => first ≤ c.toNat && c.toNat ≤ last

end Interop.Pattern
