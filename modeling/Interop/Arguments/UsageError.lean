import Interop.Arguments.Help
import Interop.Text.Terminal

namespace Interop.Arguments

open Command

inductive UsageError
  | missingCommand
  | unknownArgument (argument : String)
  | unknownCommand (name : String)
  | missingValue (a : Arg)
  | missingOperands (args : List Arg)
  | unwantedValue (value argument : String)
  | repeated (a : Arg)
  | undecodable
  | invalidChoice (value : String) (a : Arg)
  | invalidValue (value : String) (a : Arg) (cause : String)
deriving DecidableEq, Repr

namespace UsageError

open Text.Terminal

def label (a : Arg) : String :=
  if a.isOperand then operandName a
  else (a.long.map ("--" ++ ·)).getD (String.ofList ('-' :: a.short.toList)) ++ optionTail a

def given (s : String) : String := "'" ++ rendered "33" s ++ "'"

def named (argument : String) : String := "'" ++ rendered "1" argument ++ "'"

def options (a : Arg) : String :=
  if choices a.kind = "" then "" else "\n  " ++ choices a.kind

def complaint (cli : CommandLine) : UsageError → String
  | .missingCommand => programPage cli true
  | .unknownArgument argument => "unexpected argument " ++ given argument ++ " found"
  | .unknownCommand name => "unrecognized subcommand " ++ given name
  | .missingValue a =>
    "a value is required for " ++ named (label a) ++ " but none was supplied" ++ options a
  | .missingOperands args =>
    "the following required arguments were not provided:" ++
      String.join (args.map fun a => "\n  " ++ rendered "32" (label a))
  | .unwantedValue value argument =>
    "unexpected value " ++ given value ++ " for " ++ named argument ++
      " found; no more were expected"
  | .repeated a => "the argument " ++ named (label a) ++ " cannot be used multiple times"
  | .undecodable => "invalid UTF-8 was detected in one or more arguments"
  | .invalidChoice value a =>
    "invalid value " ++ given value ++ " for " ++ named (label a) ++ options a
  | .invalidValue value a cause =>
    "invalid value " ++ given value ++ " for " ++ named (label a) ++ ": " ++ cause

/-- The text as a terminal gets it. Arguments are quoted back as they are, so that what they begin
may go on until the next rendition is set. Lines on how the arguments might be put right are left
out. -/
def rendition (cli : CommandLine) (e : UsageError) : String :=
  match e with
  | .missingCommand => e.complaint cli
  | _ => "\x1b[1m" ++ rendered "31" "error:" ++ " " ++ e.complaint cli ++
    "\n\nFor more information, try " ++ named "--help" ++ ".\n"

def message (cli : CommandLine) (e : UsageError) : String := strip (e.rendition cli)

def text (cli : CommandLine) (e : UsageError) (terminal : Bool) : String :=
  if terminal then e.rendition cli else stripStream (e.rendition cli)

end UsageError

/-- Why the arguments lead to no subcommand. Asking for help is no error. -/
inductive Interruption
  | help (topic : Topic)
  | refused (e : UsageError)
deriving DecidableEq, Repr

end Interop.Arguments
