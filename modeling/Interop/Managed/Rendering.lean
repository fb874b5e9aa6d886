import Interop.Json
import Interop.Managed.Report
import Interop.Palette
import Interop.Text.Quoted
import Interop.Text.Rows
import Interop.Text.Utf16

namespace Interop.Managed

open Text

/-- The numbers that native code has to agree on, as the layout report shows them. -/
structure LayoutReport where
  tagOffset : Nat
  tagSize : Nat
  lengthOffset : Nat
  lengthSize : Nat
  unitsOffset : Nat
  unitSize : Nat
  alignment : Nat
deriving DecidableEq, Repr

namespace LayoutReport

def actual : LayoutReport where
  tagOffset := Layout.tagOffset
  tagSize := Layout.tagSize
  lengthOffset := Layout.lengthOffset
  lengthSize := Layout.lengthSize
  unitsOffset := Layout.unitsOffset
  unitSize := Layout.unitSize
  alignment := Layout.alignment

def label (p : Palette) (text : String) : String := p.paintName (padRight 11 text) ++ " "

def field (p : Palette) (name : String) (offset size : Nat) (suffix : String) : String :=
  label p name ++ p.paintDim ("0x" ++ wideHex 2 offset) ++ "  " ++ p.paintValue (decimal size) ++
    suffix ++ "\n"

def render (p : Palette) (r : LayoutReport) : String :=
  p.paintDim "[ManagedString]" ++ "\n" ++
  field p "type_tag" r.tagOffset r.tagSize "" ++
  field p "length" r.lengthOffset r.lengthSize "" ++
  field p "first_char" r.unitsOffset r.unitSize " per unit" ++
  label p "align" ++ p.paintValue (decimal r.alignment) ++ "\n" ++
  label p "occupied" ++ p.paintValue (decimal r.unitsOffset) ++ " + " ++
    p.paintValue (decimal r.unitSize) ++ " * length\n"

def json (r : LayoutReport) : Json := .object [
  ("type_tag_offset", .nat r.tagOffset),
  ("type_tag_size", .nat r.tagSize),
  ("length_offset", .nat r.lengthOffset),
  ("length_size", .nat r.lengthSize),
  ("first_char_offset", .nat r.unitsOffset),
  ("unit_size", .nat r.unitSize),
  ("align", .nat r.alignment)]

end LayoutReport

def Write.json (w : Write) : Json := .object [
  ("index", .number w.index.toInt), ("unit", .nat w.unit.toNat), ("applied", .bool w.applied)]

def Read.json (r : Read) : Json := .object [
  ("index", .number r.index.toInt), ("unit", .nat r.unit.toNat)]

namespace Report

def json (r : Report) : Json := .object [
  ("length", .number r.length.toInt),
  ("occupied", .nat r.occupied),
  ("units", .array (r.units.map fun u => .nat u.toNat)),
  ("writes", .array (r.writes.map Write.json)),
  ("reads", .array (r.reads.map Read.json))]

def field (p : Palette) (name text : String) : String :=
  p.paintName (padRight 8 name) ++ "  " ++ p.paintValue text ++ "\n"

/-- A titled table behind a blank line, and nothing at all where it would have no rows. -/
def table (p : Palette) (title : String) (rows : List String) : String :=
  if rows.isEmpty then "" else "\n" ++ p.paintDim title ++ "\n" ++ String.join rows

def accessRow (p : Palette) (index : Int32) (unit : UInt16) : String :=
  p.paintName (padRight 4 (integer index.toInt)) ++ p.paintValue (unitName unit)

def writeRow (p : Palette) (w : Write) : String :=
  accessRow p w.index w.unit ++ (if w.applied then "" else "  " ++ p.paintDim "skipped") ++ "\n"

def readRow (p : Palette) (r : Read) : String := accessRow p r.index r.unit ++ "\n"

def unitRow (p : Palette) (offset : Nat) (units : List UInt16) : String :=
  p.paintDim (wideHex 4 offset) ++ "  " ++
    p.paintValue (" ".intercalate (units.map fun u => wideHex 4 u.toNat)) ++ "\n"

def render (p : Palette) (r : Report) : String :=
  p.paintDim "[string]" ++ "\n" ++
  field p "length" (integer r.length.toInt) ++
  field p "occupied" (decimal r.occupied) ++
  field p "text" (String.ofList (Quoted.encode (Utf16.decode r.units))) ++
  table p "[writes]" (r.writes.map (writeRow p)) ++
  table p "[reads]" (r.reads.map (readRow p)) ++
  table p "[units]" ((numberedRows 8 r.units).map fun (offset, row) => unitRow p offset row)

end Report

end Interop.Managed
