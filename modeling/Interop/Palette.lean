namespace Interop

/-- The sequences that switch a terminal's style. They are empty, all of them, where output stays
plain. -/
structure Palette where
  name : String
  value : String
  dim : String
  reset : String
deriving DecidableEq, Repr

namespace Palette

def plain : Palette := ⟨"", "", "", ""⟩

instance : Inhabited Palette := ⟨plain⟩

def colored : Palette := ⟨"\x1b[34m", "\x1b[32m", "\x1b[2m", "\x1b[0m"⟩

def ofBool (colors : Bool) : Palette := if colors then colored else plain

def isEnabled (p : Palette) : Bool := !p.reset.isEmpty

def paint (p : Palette) (code text : String) : String :=
  if code.isEmpty then text else code ++ text ++ p.reset

def paintName (p : Palette) (text : String) : String := p.paint p.name text

def paintValue (p : Palette) (text : String) : String := p.paint p.value text

def paintDim (p : Palette) (text : String) : String := p.paint p.dim text

def sequences (p : Palette) : List (List Char) :=
  [p.name.toList, p.value.toList, p.dim.toList, p.reset.toList]

/-- Deletes every occurrence of the sequences in one pass from the left. `skip` characters are what
is left of an occurrence already met. -/
def stripFrom (sequences : List (List Char)) : Nat → List Char → List Char
  | _, [] => []
  | skip + 1, _ :: cs => stripFrom sequences skip cs
  | 0, c :: cs =>
    match sequences.find? (·.isPrefixOf (c :: cs)) with
    | some found => stripFrom sequences (found.length - 1) cs
    | none => c :: stripFrom sequences 0 cs

def strip (text : String) : String :=
  String.ofList (stripFrom colored.sequences 0 text.toList)

end Palette

end Interop
