import Interop.Proofs.Json.Grammar

namespace Interop.Json

open Text

def isBlank (c : Char) : Bool := c == ' ' || c == '\n' || c == '\r' || c == '\t'

def skipBlanks (cs : List Char) : List Char := cs.dropWhile isBlank

def prepend (c : Char) : Option (List Char × List Char) → Option (List Char × List Char) :=
  Option.map fun (cs, rest) => (c :: cs, rest)

/-- The characters up to the closing quote, and what stands behind it. Control characters have to
be escaped, and a surrogate means something only as half of a pair. -/
def readChars : List Char → Option (List Char × List Char)
  | [] => none
  | c :: rest =>
    if c = '"' then some ([], rest)
    else if c = '\\' then
      match rest with
      | 'u' :: h1 :: h2 :: h3 :: h4 :: behind =>
        match hexUnit? [h1, h2, h3, h4] with
        | none => none
        | some u =>
          if Utf16.isHigh u then
            match behind with
            | '\\' :: 'u' :: l1 :: l2 :: l3 :: l4 :: last =>
              match hexUnit? [l1, l2, l3, l4] with
              | none => none
              | some v => if Utf16.isLow v then prepend (Utf16.pair u v) (readChars last) else none
            | _ => none
          else if Utf16.isLow u then none
          else prepend (Char.ofNat u.toNat) (readChars behind)
      | e :: behind =>
        match unescape? e with
        | none => none
        | some d => prepend d (readChars behind)
      | [] => none
    else if c.toNat < 0x20 then none
    else prepend c (readChars rest)

def readNatural (cs : List Char) : Option (Nat × List Char) :=
  match cs.takeWhile Char.isDigit with
  | [] => none
  | ['0'] => some (0, cs.dropWhile Char.isDigit)
  | '0' :: _ => none
  | digits => some (Nat.ofDigitChars 10 digits 0, cs.dropWhile Char.isDigit)

def readNumber : List Char → Option (Int × List Char)
  | '-' :: rest => (readNatural rest).map fun (n, rest) => (-(n : Int), rest)
  | cs => (readNatural cs).map fun (n, rest) => ((n : Int), rest)

section Sequence

variable {α : Type} (item : List Char → Option (α × List Char)) (close : Char)

def readItems : Nat → List Char → Option (List α × List Char)
  | 0, _ => none
  | fuel + 1, cs =>
    match item cs with
    | none => none
    | some (a, rest) =>
      match skipBlanks rest with
      | [] => none
      | c :: rest =>
        if c = ',' then (readItems fuel rest).map fun (as, rest) => (a :: as, rest)
        else if c = close then some ([a], rest)
        else none

/-- Any number of items up to the closing bracket. Each of them takes a character at least. -/
def readAll (cs : List Char) : Option (List α × List Char) :=
  match skipBlanks cs with
  | [] => none
  | c :: rest => if c = close then some ([], rest) else readItems item close cs.length cs

end Sequence

def readMember (value : List Char → Option (Json × List Char)) (cs : List Char) :
    Option ((String × Json) × List Char) :=
  match skipBlanks cs with
  | '"' :: rest =>
    match readChars rest with
    | none => none
    | some (key, rest) =>
      match skipBlanks rest with
      | ':' :: rest => (value rest).map fun (j, rest) => ((String.ofList key, j), rest)
      | _ => none
  | _ => none

def readValue : Nat → List Char → Option (Json × List Char)
  | 0, _ => none
  | depth + 1, cs =>
    match skipBlanks cs with
    | '"' :: rest => (readChars rest).map fun (s, rest) => (.string (String.ofList s), rest)
    | '[' :: rest =>
      (readAll (readValue depth) ']' rest).map fun (items, rest) => (.array items, rest)
    | '\x7b' :: rest =>
      (readAll (readMember (readValue depth)) '\x7d' rest).map fun (members, rest) =>
        (.object members, rest)
    | 't' :: 'r' :: 'u' :: 'e' :: rest => some (.bool true, rest)
    | 'f' :: 'a' :: 'l' :: 's' :: 'e' :: rest => some (.bool false, rest)
    | cs => (readNumber cs).map fun (n, rest) => (.number n, rest)

/-- The one value that a text holds. A level takes a character at least. Only what no value here
stands for is refused, which is `null` and numbers with a fraction or an exponent. -/
def read (text : String) : Option Json :=
  match readValue text.length text.toList with
  | some (j, rest) => if skipBlanks rest = [] then some j else none
  | none => none

end Interop.Json
