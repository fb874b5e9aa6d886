namespace Interop.Text

def decimal (n : Nat) : String := String.ofList (Nat.toDigits 10 n)

def hex (n : Nat) : String := String.ofList (Nat.toDigits 16 n)

def upperHex (n : Nat) : String := String.ofList ((Nat.toDigits 16 n).map Char.toUpper)

def integer : Int → String
  | .ofNat n => decimal n
  | .negSucc n => "-" ++ decimal (n + 1)

/-- A text longer than the width is left as it is. -/
def padLeft (width : Nat) (fill : Char) (s : String) : String :=
  String.ofList (List.replicate (width - s.length) fill) ++ s

def padRight (width : Nat) (s : String) : String :=
  s ++ String.ofList (List.replicate (width - s.length) ' ')

def wideHex (width n : Nat) : String := padLeft width '0' (hex n)

def address (n : Nat) : String := "0x" ++ hex n

def unitName (u : UInt16) : String := "U+" ++ padLeft 4 '0' (upperHex u.toNat)

theorem toList_padLeft (width : Nat) (fill : Char) (s : String) :
    (padLeft width fill s).toList = List.replicate (width - s.length) fill ++ s.toList := by
  simp [padLeft]

theorem toList_padRight (width : Nat) (s : String) :
    (padRight width s).toList = s.toList ++ List.replicate (width - s.length) ' ' := by
  simp [padRight]

end Interop.Text
