import Interop.Json
import Interop.Text.Integer
import Interop.Text.Numeral
import Interop.Text.Utf16

namespace Interop.Json

open Text

/-- The code unit that four hexadecimal digits name. -/
def hexUnit? (digits : List Char) : Option UInt16 :=
  match readDigits 16 0xFFFF .tooLarge 0 digits with
  | .ok n => some (UInt16.ofNat n)
  | .error _ => none

def unescape? : Char → Option Char
  | '"' => some '"'
  | '\\' => some '\\'
  | '/' => some '/'
  | 'b' => some '\x08'
  | 'f' => some '\x0c'
  | 'n' => some '\n'
  | 'r' => some '\r'
  | 't' => some '\t'
  | _ => none

/-- How a character may stand in a string: as it is, behind a backslash, or by its code, which
takes a pair of code units beyond the first 65536 characters. -/
inductive CharText : Char → List Char → Prop
  | plain {c : Char} (hquote : c ≠ '"') (hslash : c ≠ '\\') (hcontrol : ¬ c.toNat < 0x20) :
      CharText c [c]
  | escape {c e : Char} (h : unescape? e = some c) : CharText c ['\\', e]
  | code {h1 h2 h3 h4 : Char} {u : UInt16} (hu : hexUnit? [h1, h2, h3, h4] = some u)
      (hhigh : Utf16.isHigh u = false) (hlow : Utf16.isLow u = false) :
      CharText (Char.ofNat u.toNat) ['\\', 'u', h1, h2, h3, h4]
  | codes {h1 h2 h3 h4 l1 l2 l3 l4 : Char} {u v : UInt16}
      (hu : hexUnit? [h1, h2, h3, h4] = some u) (hv : hexUnit? [l1, l2, l3, l4] = some v)
      (hhigh : Utf16.isHigh u = true) (hlow : Utf16.isLow v = true) :
      CharText (Utf16.pair u v) ['\\', 'u', h1, h2, h3, h4, '\\', 'u', l1, l2, l3, l4]

inductive StringText : List Char → List Char → Prop
  | nil : StringText [] []
  | cons {c : Char} {cs w ws : List Char} (hc : CharText c w) (hcs : StringText cs ws) :
      StringText (c :: cs) (w ++ ws)

/-- What a pretty layout puts between tokens. -/
def Space (w : List Char) : Prop := ∀ c ∈ w, c = ' ' ∨ c = '\n'

instance (w : List Char) : Decidable (Space w) := List.decidableBAll (fun c => c = ' ' ∨ c = '\n') w

/-- A value, or something that stands between the brackets of one that holds others. -/
inductive Part
  | value (j : Json)
  | item (j : Json)
  | items (js : List Json)
  | member (m : String × Json)
  | members (ms : List (String × Json))

/-- The texts of a value in standard JSON, laid out with blanks and line feeds inside brackets. -/
inductive Spells : Part → List Char → Prop
  | bool (b : Bool) : Spells (.value (.bool b)) (if b then "true".toList else "false".toList)
  | number (n : Int) : Spells (.value (.number n)) (integer n).toList
  | string {s : String} {w : List Char} (hs : StringText s.toList w) :
      Spells (.value (.string s)) ('"' :: (w ++ ['"']))
  | emptyArray {w : List Char} (hw : Space w) : Spells (.value (.array [])) ('[' :: (w ++ [']']))
  | array {js : List Json} {w : List Char} (h : Spells (.items js) w) :
      Spells (.value (.array js)) ('[' :: (w ++ [']']))
  | emptyObject {w : List Char} (hw : Space w) :
      Spells (.value (.object [])) ('\x7b' :: (w ++ ['\x7d']))
  | object {ms : List (String × Json)} {w : List Char} (h : Spells (.members ms) w) :
      Spells (.value (.object ms)) ('\x7b' :: (w ++ ['\x7d']))
  | item {j : Json} {a w b : List Char} (ha : Space a) (h : Spells (.value j) w) (hb : Space b) :
      Spells (.item j) (a ++ (w ++ b))
  | lastItem {j : Json} {w : List Char} (h : Spells (.item j) w) : Spells (.items [j]) w
  | items {j : Json} {js : List Json} {w ws : List Char} (h : Spells (.item j) w)
      (hs : Spells (.items js) ws) : Spells (.items (j :: js)) (w ++ ',' :: ws)
  | member {key : String} {j : Json} {a k b w : List Char} (ha : Space a)
      (hk : StringText key.toList k) (hb : Space b) (h : Spells (.item j) w) :
      Spells (.member (key, j)) (a ++ ('"' :: (k ++ '"' :: (b ++ ':' :: w))))
  | lastMember {m : String × Json} {w : List Char} (h : Spells (.member m) w) :
      Spells (.members [m]) w
  | members {m : String × Json} {ms : List (String × Json)} {w ws : List Char}
      (h : Spells (.member m) w) (hs : Spells (.members ms) ws) :
      Spells (.members (m :: ms)) (w ++ ',' :: ws)

/-- The printer writes every value as standard JSON. -/
structure Printer.Standard (p : Printer) : Prop where
  spells : ∀ j, ∃ text, p.pretty j = .ok text ∧ Spells (.value j) text.toList

end Interop.Json
