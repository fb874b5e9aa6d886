import Interop.Arguments.State

namespace Interop.Arguments

open Command

inductive Topic
  | program
  | command (c : Subcommand)
  | help
deriving DecidableEq, Repr

def styled (terminal : Bool) (codes s : String) : String :=
  if terminal then codes ++ s ++ "\x1b[0m" else s

def heading (terminal : Bool) (s : String) : String := styled terminal "\x1b[1m\x1b[4m" s

def literal (terminal : Bool) (s : String) : String := styled terminal "\x1b[1m" s

structure Entry where
  label : Bool → String
  help : String

/-- A titled table of two columns. A label is as wide as it is without its style. -/
def table (terminal : Bool) (title : String) (entries : List Entry) : String :=
  let width := entries.foldl (fun n e => max n (e.label false).length) 0
  let row (e : Entry) : String :=
    let blanks := String.ofList (List.replicate (width + 2 - (e.label false).length) ' ')
    "  " ++ e.label terminal ++ blanks ++ e.help ++ "\n"
  if entries.isEmpty then "" else "\n" ++ heading terminal title ++ "\n" ++
    String.join (entries.map row)

def usage (terminal : Bool) (name operands : String) : String :=
  heading terminal "Usage:" ++ " " ++ literal terminal name ++ " " ++ operands ++ "\n"

def operandName (a : Arg) : String := "<" ++ a.valueName ++ ">"

def choices : ValueKind → String
  | .choice names => "[possible values: " ++ ", ".intercalate names ++ "]"
  | _ => ""

def optionTail (a : Arg) : String :=
  if a.takesValue then " " ++ operandName a else if a.action = .count then "..." else ""

def optionEntry (a : Arg) : Entry where
  label terminal :=
    let short := (a.short.map fun c => literal terminal (String.ofList ['-', c])).getD ""
    let long := (a.long.map fun name => literal terminal ("--" ++ name)).getD ""
    let gap := if a.long.isNone then "" else if a.short.isNone then "    " else ", "
    short ++ gap ++ long ++ optionTail a
  help :=
    let default := (a.default.map fun text => " [default: " ++ text ++ "]").getD ""
    a.help ++ default ++ (if choices a.kind = "" then "" else " " ++ choices a.kind)

def helpArg : Arg where
  id := "help"
  long := some "help"
  short := some 'h'
  action := .setTrue
  help := "Print help"

def helpAbout : String := "Print this message or the help of the given subcommand(s)"

def commandPage (cli : CommandLine) (terminal : Bool) (c : Subcommand) : String :=
  let operands := c.args.filter Arg.isOperand
  let options := c.args.filter (!·.isOperand) ++ [helpArg]
  c.about ++ "\n\n" ++
    usage terminal (cli.name ++ " " ++ c.name)
      (" ".intercalate ("[OPTIONS]" :: operands.map operandName)) ++
    table terminal "Arguments:" (operands.map fun a => ⟨fun _ => operandName a, a.help⟩) ++
    table terminal "Options:" (options.map optionEntry) ++ "\n" ++ c.epilogue ++ "\n"

def programPage (cli : CommandLine) (terminal : Bool) : String :=
  let commands := cli.subcommands.map (fun c => (c.name, c.about)) ++ [("help", helpAbout)]
  cli.about ++ "\n\n" ++ usage terminal cli.name "<COMMAND>" ++
    table terminal "Commands:"
      (commands.map fun (name, about) => ⟨fun terminal => literal terminal name, about⟩) ++
    table terminal "Options:" [optionEntry helpArg]

def helpPage (cli : CommandLine) (terminal : Bool) : String :=
  helpAbout ++ "\n\n" ++ usage terminal (cli.name ++ " help") "[COMMAND]..." ++
    table terminal "Arguments:"
      [⟨fun _ => "[COMMAND]...", "Print help for the subcommand(s)"⟩]

def Topic.page (cli : CommandLine) (terminal : Bool) : Topic → String
  | .program => programPage cli terminal
  | .command c => commandPage cli terminal c
  | .help => helpPage cli terminal

end Interop.Arguments
