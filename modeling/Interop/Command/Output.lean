import Interop.Command.Libraries
import Interop.Files
import Interop.Managed.Rendering
import Interop.Sections.Report
import Interop.Sections.Section
import Interop.Text.Utf16

namespace Interop.Command

open Text

/-- How an answer is put: as text in a palette, or as a JSON document, which has no colors. -/
structure Style where
  json : Bool
  palette : Palette
deriving DecidableEq, Repr

structure LoadError where
  path : Loose
  cause : LoadFailure
deriving DecidableEq, Repr

def LoadError.message (e : LoadError) : String :=
  e.path.display ++ ": io error: " ++ e.cause.message

inductive CommandError
  | load (e : LoadError)
  | misordered (e : Sections.Misordered)
  | tooLong (e : Managed.TooLong)
  | json (text : String)
deriving DecidableEq, Repr

def CommandError.message : CommandError → String
  | .load e => e.message
  | .misordered e => e.message
  | .tooLong e => e.message
  | .json text => "json: " ++ text

/-- Where files are read from, and the address at which their bytes come to lie. -/
structure Source where
  load : Loose → Except LoadFailure (List UInt8)
  base : UInt64

/-- A document ends with a line feed. -/
def toJson (printer : Json.Printer) (j : Json) : Except CommandError String :=
  match printer.pretty j with
  | .ok text => .ok (text ++ "\n")
  | .error text => .error (.json text)

variable (printer : Json.Printer) (style : Style)

def renderLayout (r : Managed.LayoutReport) : Except CommandError String :=
  if style.json then toJson printer r.json else .ok (r.render style.palette)

def renderString (r : Managed.Report) : Except CommandError String :=
  if style.json then toJson printer r.json else .ok (r.render style.palette)

def renderSection (r : Sections.Report) (bytes : List UInt8) (head : Nat) :
    Except CommandError String :=
  if style.json then toJson printer r.json else .ok (r.render style.palette bytes head)

def layoutOutput : Except CommandError String := renderLayout printer style .actual

def stringOutput (text : List Char) (edits : List Managed.Edit) (reads : List Int32) :
    Logged (Except CommandError String) :=
  match Managed.Image.ofUnits 0 (Utf16.encode text) with
  | .error e => pure (.error (.tooLong e))
  | .ok image => do
    let (_, report) ← image.apply edits reads
    return renderString printer style report

def loadRegion (source : Source) (path : Loose) : Logged (Except LoadError Sections.Region) :=
  match source.load path with
  | .error cause => pure (.error ⟨path, cause⟩)
  | .ok bytes => do
    Logged.emit (.loaded bytes.length path.display)
    return .ok ⟨source.base, bytes⟩

def sectionOutput (source : Source) (path : Loose) (head : Nat) :
    Logged (Except CommandError String) := do
  match ← loadRegion source path with
  | .error e => return .error (.load e)
  | .ok region =>
    let whole := Sections.Section.ofRegion path.display region
    match ← whole.resolve? with
    | .error e => return .error (.misordered e)
    | .ok extent =>
      match ← whole.bytes region with
      | .error e => return .error (.misordered e)
      | .ok bytes =>
        return renderSection printer style ⟨whole.name, extent.start, extent.size⟩ bytes head

end Interop.Command
