import Interop.Pattern.Match

namespace Interop.Pattern

def never : Pattern := .within false []

def ofSet (unicode : Bool) (s : CodeSet) : Pattern :=
  match s.ranges with
  | [] => never
  | [(first, last)] =>
    if first = last then .word [Char.ofNat first] else .within unicode s.ranges
  | _ => .within unicode s.ranges

def pieces : Pattern → List Pattern
  | .empty => []
  | .seq p q => p.pieces ++ q.pieces
  | p => [p]

def cons : Pattern → List Pattern → List Pattern
  | .word cs, .word ds :: rest => .word (cs ++ ds) :: rest
  | p, rest => p :: rest

def ofPieces : List Pattern → Pattern
  | [] => .empty
  | [p] => p
  | p :: rest => .seq p (ofPieces rest)

def concat (ps : List Pattern) : Pattern := ofPieces ((ps.flatMap pieces).foldr cons [])

def branches : Pattern → List Pattern
  | .alt p q => p.branches ++ q.branches
  | .words ws => ws.map .word
  | p => [p]

def word? : Pattern → Option (List Char)
  | .word cs => some cs
  | _ => none

def single? : Pattern → Option Char
  | .word [c] => some c
  | _ => none

def class? : Pattern → Option (List (Nat × Nat))
  | .within _ ranges => some ranges
  | _ => none

def either : List Pattern → Pattern
  | [] => never
  | [p] => p
  | p :: rest => .alt p (either rest)

def ofBranches (ps : List Pattern) : Pattern :=
  if ps.length < 2 then either ps
  else match ps.mapM single?, ps.mapM class?, ps.mapM word? with
    | some cs, _, _ => ofSet true (.ofRanges (cs.map fun c => (c.toNat, c.toNat)))
    | none, some rangess, _ => ofSet true (.ofRanges rangess.flatten)
    | none, none, some ws => .words ws
    | none, none, none => either ps

def sharedStart : List Pattern → List Pattern → List Pattern
  | p :: ps, q :: qs => if p = q then p :: sharedStart ps qs else []
  | _, _ => []

def sharedPieces : List Pattern → List Pattern
  | p :: q :: rest =>
    if (p :: q :: rest).all fun r => 2 ≤ r.pieces.length then
      (q :: rest).foldl (fun shared r => sharedStart shared r.pieces) p.pieces
    else []
  | _ => []

def alternatives (ps : List Pattern) : Pattern :=
  let found := ps.flatMap branches
  let shared := sharedPieces found
  if shared.isEmpty then ofBranches found
  else
    let rests := found.map fun p => concat (p.pieces.drop shared.length)
    concat (shared ++ [ofBranches (rests.flatMap branches)])

def isVoid : Pattern → Bool
  | .empty | .anchor _ => true
  | .word _ | .words _ | .within _ _ => false
  | .seq p q | .alt p q => p.isVoid && q.isVoid
  | .group _ p | .times p _ _ _ => p.isVoid

def repeated (p : Pattern) (least : Nat) (most : Option Nat) (greedy : Bool) : Pattern :=
  let least := if p.isVoid then min least 1 else least
  let most := if p.isVoid then some (min (most.getD 1) 1) else most
  match least, most with
  | 0, some 0 => .empty
  | 1, some 1 => p
  | least, most => .times p least (most.map (· - least)) greedy

end Interop.Pattern
