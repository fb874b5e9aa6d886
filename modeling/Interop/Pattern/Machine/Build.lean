import Interop.Pattern.Form
import Interop.Pattern.Machine.Bytes

namespace Interop.Pattern

/-- How many characters a match takes at least. There is no such number where no character of an
empty class can be found. -/
def shortest? : Pattern → Option Nat
  | .empty | .anchor _ => some 0
  | .word cs => some cs.length
  | .words ws => (ws.map List.length).min?
  | .within _ ranges => if ranges.isEmpty then none else some 1
  | .seq p q => do return (← p.shortest?) + (← q.shortest?)
  | .alt p q => do return min (← p.shortest?) (← q.shortest?)
  | .group _ p => p.shortest?
  | .times p least _ _ => p.shortest?.map (least * ·)

def startsText : Pattern → Bool
  | .anchor a => a = .textStart
  | .empty | .word _ | .words _ | .within _ _ => false
  | .seq p q => p.startsText || (p.isVoid && q.startsText)
  | .alt p q => p.startsText && q.startsText
  | .group _ p => p.startsText
  | .times p least _ _ => least ≠ 0 && p.startsText

def endsText : Pattern → Bool
  | .anchor a => a = .textEnd
  | .empty | .word _ | .words _ | .within _ _ => false
  | .seq p q => q.endsText || (q.isVoid && p.endsText)
  | .alt p q => p.endsText && q.endsText
  | .group _ p => p.endsText
  | .times p least _ _ => least ≠ 0 && p.endsText

namespace Machine

def branches (back : Bool) : Pattern → List Builder
  | .empty | .anchor _ => [addState]
  | .word cs => [addStates (bytesOf cs).length]
  | .words ws => [addWords back ws]
  | .within _ ranges => [addClass back ranges]
  | .seq p q =>
    let f := either (branches back p)
    let g := either (branches back q)
    [if back then fun m => f (g m).attach else fun m => g (f m).attach]
  | .alt p q => branches back p ++ branches back q
  | .group _ p =>
    let f := either (branches back p)
    [if back then f else fun m => (f m.addState).attach.addState]
  | .times p least extra _ =>
    let f := either (branches back p)
    [repeated f (p.shortest?.any (0 < ·)) least extra]

/-- What stands in front of a pattern: a loop that skips to where a match starts, or nothing where
that is certain. -/
def addSearch (certain : Bool) (m : Machine) : Machine :=
  if certain then m.addState
  else (star (fun m => m.addState.addRanges 1) true m).attach

/-- Reads a text from its front, and records where groups begin and end. The whole match is a group
of its own. -/
def front (p : Pattern) : Machine :=
  (either (branches false (.group 0 p)) (empty.addSearch p.startsText)).attach.addState

def back (p : Pattern) : Machine :=
  (either (branches true p) (empty.addSearch p.endsText)).attach.addState

end Machine

end Interop.Pattern
