import Interop.Pattern.Machine.Build
import Interop.Pattern.Meaning
import Interop.Pattern.Read

namespace Interop

inductive Refusal
  | malformed (f : Pattern.Fault)
  | tooBig
  | unavailableWords
deriving DecidableEq, Repr

namespace Pattern

def needsUnicodeWords : Pattern → Bool
  | .anchor (.word _ ascii) => !ascii
  | .empty | .anchor _ | .word _ | .words _ | .within _ _ => false
  | .seq p q | .alt p q => p.needsUnicodeWords || q.needsUnicodeWords
  | .group _ p | .times p _ _ _ => p.needsUnicodeWords

def checked (p : Pattern) : Except Refusal Pattern :=
  if (Machine.front p).isTooBig then .error .tooBig
  else if p.needsUnicodeWords then .error .unavailableWords
  else if (Machine.back p).isTooBig then .error .tooBig
  else .ok p

def read (cs : List Char) : Except Refusal Pattern :=
  match Expression.read cs >>= Expression.toPattern with
  | .ok p => p.checked
  | .error f => .error (.malformed f)

end Pattern

def Refusal.message (pattern : List Char) : Refusal → String
  | .malformed f => f.report pattern
  | .tooBig =>
    "Compiled regex exceeds size limit of " ++ Text.decimal Pattern.Machine.sizeLimit ++ " bytes."
  | .unavailableWords => "error building NFA"

end Interop
