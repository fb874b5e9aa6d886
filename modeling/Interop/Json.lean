namespace Interop

inductive Json
  | bool (b : Bool)
  | number (n : Int)
  | string (s : String)
  | array (items : List Json)
  | object (members : List (String × Json))
deriving Repr

namespace Json

def nat (n : Nat) : Json := .number n

/-- Whoever puts values into texts: the text of a value, or why there is none. -/
structure Printer where
  pretty : Json → Except String String

end Json

end Interop
