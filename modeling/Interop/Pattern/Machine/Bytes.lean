import Interop.Pattern.Machine.Basic
import Interop.Pattern.Slots
import Interop.Text.ByteRanges

namespace Interop.Pattern

open Text

/-- A machine with states that can be used again. -/
structure Sharing where
  machine : Machine
  slots : Slots

namespace Sharing

/-- The number of a state that does what the key says: of an earlier one if it is still known, and
else of a new one, with so many ranges to follow. -/
def find (s : Sharing) (key : List Nat) (ranges : Nat) : Nat × Sharing :=
  match s.slots.find? key with
  | some n => (n, s)
  | none => (s.machine.states, ⟨s.machine.addRanges ranges, s.slots.put key s.machine.states⟩)

end Sharing

namespace Machine

def behindFirst (ss : List ByteRanges.Sequence) : List ((Nat × Nat) × List ByteRanges.Sequence) :=
  (ss.splitBy fun s t => s.head? = t.head?).filterMap fun same =>
    same.head?.bind List.head? |>.map fun range => (range, same.map List.tail)

/-- The state behind which sequences of so many bytes at most still have to follow, all of which
lead to one state. States from which the same leads on are the same. -/
def branching (target : Nat) : Nat → List ByteRanges.Sequence → Sharing → Nat × Sharing
  | 0, _, s => (target, s)
  | depth + 1, ss, s =>
    if [] ∈ ss then (target, s)
    else
      let edges := behindFirst ss
      let (key, s) := edges.foldl (fun (key, s) ((first, last), tails) =>
        let (next, s) := branching target depth tails s
        (key ++ [first, last, next], s)) ([], s)
      s.find key edges.length

def addSequences (ss : List ByteRanges.Sequence) (m : Machine) : Machine :=
  (branching m.states 4 ss ⟨m.addState, .ofCount 10000⟩).2.machine

def addSequencesBack (ss : List ByteRanges.Sequence) (m : Machine) : Machine :=
  let target := m.states + 1
  let addBack (s : Sharing) (bytes : ByteRanges.Sequence) : Sharing :=
    let (_, s) := bytes.foldl (fun (n, s) (first, last) => s.find [n, first, last] 0) (target, s)
    { s with machine := s.machine.addExits 1 }
  (ss.foldl addBack ⟨m.addStates 2, .ofCount 1000⟩).machine

def addClass (back : Bool) (ranges : List (Nat × Nat)) : Builder :=
  if ranges.all fun range => range.2 < 0x80 then fun m => m.addState.addRanges ranges.length
  else
    let ss := ranges.flatMap ByteRanges.ofRange
    if back then addSequencesBack ss else addSequences ss

def bytesOf (cs : List Char) : List UInt8 := cs.flatMap String.utf8EncodeChar

/-- Runs of words, between which there are those that have ended. Nothing is between words that have
ended at the front. -/
def runs (ws : List (List UInt8)) : List (List (List UInt8)) :=
  let ws := if ws.head? = some [] then [] :: ws.dropWhile List.isEmpty else ws
  ws.splitOnP List.isEmpty

def byFirst (ws : List (List UInt8)) : List (List (List UInt8)) :=
  let sorted := ws.mergeSort fun v w => v.headD 0 ≤ w.headD 0
  (sorted.splitBy fun v w => v.head? = w.head?).map (·.map List.tail)

/-- The states behind which so many bytes at most still have to follow: one for every run and a fork
for all of them, which leads to the end as well where a word has ended. -/
def addTree : Nat → List (List UInt8) → Builder
  | 0, _, m => m
  | depth + 1, ws, m =>
    let found := runs ws
    if found.all List.isEmpty then m
    else
      let m := (found.filter fun run => !run.isEmpty).foldl (fun m run =>
        let nexts := byFirst run
        let m := nexts.foldl (fun m next => addTree depth next m) m
        if nexts.length = 1 then (m.addExits 1).addState
        else (m.addExits 1).addRanges nexts.length) m
      m.addState.addExits (found.length - 1)

def addWords (back : Bool) (ws : List (List Char)) : Builder :=
  let bytes := ws.map fun w => if back then (bytesOf w).reverse else bytesOf w
  let depth := (bytes.map List.length).foldl max 0
  fun m => addTree depth bytes m.addState

end Machine

end Interop.Pattern
