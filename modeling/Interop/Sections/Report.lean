import Interop.Json
import Interop.Palette
import Interop.Sections.Extent
import Interop.Text.Rows

namespace Interop.Sections

open Text

structure Report where
  name : String
  start : UInt64
  size : UInt64
deriving DecidableEq, Repr

namespace Report

def json (r : Report) : Json := .object [
  ("name", .string r.name), ("start", .nat r.start.toNat), ("size", .nat r.size.toNat)]

def label (p : Palette) (name : String) : String := p.paintName (padRight 5 name) ++ "  "

def byteRow (p : Palette) (offset : Nat) (bytes : List UInt8) : String :=
  p.paintDim (wideHex 8 offset) ++ "  " ++
    p.paintValue (" ".intercalate (bytes.map fun b => wideHex 2 b.toNat)) ++ "\n"

def dump (p : Palette) (shown : List UInt8) : String :=
  if shown.isEmpty then ""
  else "\n" ++ p.paintDim "[head]" ++ "\n" ++
    String.join ((numberedRows 16 shown).map fun (offset, row) => byteRow p offset row)

def render (p : Palette) (r : Report) (bytes : List UInt8) (head : Nat) : String :=
  p.paintDim "[section]" ++ "\n" ++
  label p "name" ++ p.paintValue r.name ++ "\n" ++
  label p "start" ++ p.paintDim (address r.start.toNat) ++ "\n" ++
  label p "size" ++ p.paintValue (decimal r.size.toNat) ++ "\n" ++
  dump p (bytes.take head)

end Report

end Interop.Sections
