namespace Interop.Text.Terminal

/-- Where a reader stands in an escape sequence. -/
inductive State
  | ground
  | escape
  | escapeIntermediate
  | control
  | deviceEntry
  | deviceParameter
  | deviceIntermediate
  | devicePayload
  | command
  | message
deriving DecidableEq, Repr

def between (first last n : Nat) : Bool := first ≤ n && n ≤ last

namespace State

def nextByte (state : State) (n : Nat) : State :=
  if n == 0x18 || n == 0x1A then .ground
  else if n == 0x1B then .escape
  else match state with
    | .ground => .ground
    | .escape =>
      if n == 0x5B then .control
      else if n == 0x5D then .command
      else if n == 0x50 then .deviceEntry
      else if n == 0x58 || n == 0x5E || n == 0x5F then .message
      else if between 0x20 0x2F n then .escapeIntermediate
      else if between 0x30 0x7E n then .ground
      else .escape
    | .escapeIntermediate => if between 0x30 0x7E n then .ground else .escapeIntermediate
    | .control => if between 0x40 0x7E n then .ground else .control
    | .deviceEntry =>
      if between 0x20 0x2F n then .deviceIntermediate
      else if between 0x30 0x3F n then .deviceParameter
      else if between 0x40 0x7E n then .devicePayload
      else .deviceEntry
    | .deviceParameter =>
      if between 0x20 0x2F n then .deviceIntermediate
      else if between 0x3C 0x7E n then .devicePayload
      else .deviceParameter
    | .deviceIntermediate => if between 0x30 0x7E n then .devicePayload else .deviceIntermediate
    | .devicePayload => if n == 0x9C then .ground else .devicePayload
    | .command => if n == 0x07 then .ground else .command
    | .message => if n == 0x9C then .ground else .message

def next (state : State) (c : Char) : State :=
  (String.utf8EncodeChar c).foldl (fun state b => state.nextByte b.toNat) state

def executes : State → Bool
  | .ground | .escape | .escapeIntermediate | .control => true
  | _ => false

end State

def isLayout (c : Char) : Bool := c == '\t' || c == '\n' || c == '\x0c' || c == '\r'

def isShown (c : Char) : Bool := isLayout c || between 0x20 0x7E c.toNat || 0x80 ≤ c.toNat

/-- A layout control in a sequence is shown, and so is what follows it. If sequences are resumed,
the interrupted one goes on at the next character that is not shown, unless one beyond ASCII has
been shown since. -/
def stripFrom (resumes : Bool) (state interrupted : State) : List Char → List Char
  | [] => []
  | c :: cs =>
    if state = .ground then
      if isShown c then
        c :: stripFrom resumes .ground (if c.toNat < 0x80 then interrupted else .ground) cs
      else stripFrom resumes (interrupted.next c) .ground cs
    else if isLayout c && state.executes then
      c :: stripFrom resumes .ground (if resumes then state else .ground) cs
    else stripFrom resumes (state.next c) .ground cs

def strip (s : String) : String :=
  String.ofList (stripFrom false .ground .ground s.toList)

/-- What is left of a text that is written to a stream, where interrupted sequences are resumed. -/
def stripStream (s : String) : String :=
  String.ofList (stripFrom true .ground .ground s.toList)

def rendered (code text : String) : String := "\x1b[" ++ code ++ "m" ++ text ++ "\x1b[0m"

theorem stripFrom_append (resumes : Bool) {cs : List Char} (h : ∀ c ∈ cs, isShown c = true)
    (rest : List Char) :
    stripFrom resumes .ground .ground (cs ++ rest) =
      cs ++ stripFrom resumes .ground .ground rest := by
  induction cs with
  | nil => rfl
  | cons c cs ih =>
      rw [List.cons_append, stripFrom, if_pos rfl, if_pos (h c List.mem_cons_self), ite_self,
        ih fun d hd => h d (List.mem_cons_of_mem c hd), List.cons_append]

end Interop.Text.Terminal
