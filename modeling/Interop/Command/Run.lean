import Interop.Command.Output

namespace Interop.Command

open Text

/-- What a run takes from its surroundings beside its arguments. -/
structure Surroundings where
  source : Source
  logSpec : Option String
  logStyle : Option String
  terminals : Terminals

def limitFor (verbosity : UInt8) : Level :=
  if verbosity = 0 then .warn
  else if verbosity = 1 then .debug
  else .trace

def Invocation.style (terminal : Bool) (i : Invocation) : Style :=
  ⟨i.json, Palette.ofBool (i.color.applies terminal)⟩

def logSettings (s : Surroundings) (i : Invocation) : LogSettings :=
  ⟨limitFor i.verbosity, s.logSpec, s.logStyle, s.terminals.errors⟩

/-- The invocation that the arguments ask for. There is none for a subcommand that is not known. -/
def ArgumentParser.invocation? (parser : ArgumentParser) (args : List Loose) :
    Except parser.Interruption (Option Invocation) :=
  (parser.parse commandLine args).map fun found =>
    found.bind fun (name, m) => (Verb.ofName? name).map (Invocation.ofMatches m)

def output (printer : Json.Printer) (s : Surroundings) (i : Invocation) :
    Logged (Except CommandError String) :=
  let style := i.style s.terminals.output
  match i.request with
  | .layout => pure (layoutOutput printer style)
  | .blob path head => sectionOutput printer style s.source path head
  | .string text edits reads => stringOutput printer style text edits reads

def finish (noted : String) : Except CommandError String → Outcome
  | .ok text => ⟨0, text, noted⟩
  | .error e => ⟨1, "", noted ++ "error: " ++ e.message ++ "\n"⟩

def runInvocation (lib : Libraries) (s : Surroundings) (i : Invocation) : Outcome :=
  let settings := logSettings s i
  let result := output lib.printer s i
  let lines := result.log.filterMap fun e => lib.logger.line settings e.record
  finish (lib.logger.start settings ++ String.join lines) result.value

/-- The panic of a program that was handed no subcommand, or one that it does not know. -/
def unreachable : Outcome :=
  ⟨101, "", "internal error: entered unreachable code: clap should have caught this\n"⟩

def run (lib : Libraries) (s : Surroundings) (args : List Loose) : Outcome :=
  match lib.arguments.invocation? args with
  | .error e => lib.arguments.exit e s.terminals
  | .ok none => unreachable
  | .ok (some i) => runInvocation lib s i

end Interop.Command
