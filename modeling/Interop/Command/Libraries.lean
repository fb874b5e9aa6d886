import Interop.Command.Dispatch
import Interop.Json
import Interop.Log

namespace Interop.Command

open Text

/-- Which of the two output streams are terminals. -/
structure Terminals where
  output : Bool
  errors : Bool
deriving DecidableEq, Repr

structure Outcome where
  exit : Nat
  output : String
  errors : String
deriving DecidableEq, Repr

/-- Whoever reads the arguments: the subcommand that was chosen with what its arguments came to,
or why the process is to end without one, and how it then ends. The text that says so is one for
a terminal and one for every other place. -/
structure ArgumentParser where
  Interruption : Type
  parse : CommandLine → List Loose → Except Interruption (Option (String × Matches))
  isHelp : Interruption → Bool
  text : Interruption → Bool → String
  exit : Interruption → Terminals → Outcome

/-- What the program leaves to others. -/
structure Libraries where
  arguments : ArgumentParser
  printer : Json.Printer
  logger : Logger

end Interop.Command
