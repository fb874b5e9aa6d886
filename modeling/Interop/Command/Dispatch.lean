import Interop.Command.Schema

namespace Interop.Command

open Text

inductive Value
  | text (t : List Char)
  | path (p : Loose)
  | size (n : UInt64)
  | index (i : Int32)
  | edit (e : Managed.Edit)
deriving DecidableEq, Repr

namespace Value

def text? : Value → Option (List Char)
  | .text t => some t
  | _ => none

def path? : Value → Option Loose
  | .path p => some p
  | _ => none

def size? : Value → Option UInt64
  | .size n => some n
  | _ => none

def index? : Value → Option Int32
  | .index i => some i
  | _ => none

def edit? : Value → Option Managed.Edit
  | .edit e => some e
  | _ => none

end Value

/-- What the arguments of a subcommand came to, by the ids of its arguments. -/
structure Matches where
  many : String → List Value
  flag : String → Bool
  count : String → UInt8

def Matches.one? (m : Matches) (id : String) : Option Value := (m.many id).head?

inductive Request
  | layout
  | blob (path : Loose) (head : Nat)
  | string (text : List Char) (edits : List Managed.Edit) (reads : List Int32)
deriving DecidableEq, Repr

def Request.verb : Request → Verb
  | .layout => .layout
  | .blob .. => .blob
  | .string .. => .string

structure Invocation where
  request : Request
  json : Bool
  color : Color
  verbosity : UInt8
deriving DecidableEq, Repr

def defaultHead : UInt64 := 64

def Color.ofMatches (m : Matches) : Color :=
  match (m.one? "color").bind Value.text? with
  | some name =>
    if name = "always".toList then .always
    else if name = "never".toList then .never
    else .auto
  | none => .auto

def Request.ofMatches (m : Matches) : Verb → Request
  | .layout => .layout
  | .blob =>
    .blob (((m.one? "blob_path").bind Value.path?).getD [])
      (((m.one? "head").bind Value.size?).getD defaultHead).toNat
  | .string =>
    .string (((m.one? "text").bind Value.text?).getD []) ((m.many "set").filterMap Value.edit?)
      ((m.many "get").filterMap Value.index?)

def Invocation.ofMatches (m : Matches) (verb : Verb) : Invocation where
  request := .ofMatches m verb
  json := m.flag "json"
  color := .ofMatches m
  verbosity := m.count "verbose"

end Interop.Command
