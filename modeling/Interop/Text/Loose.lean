namespace Interop.Text

/-- One piece of a byte string read as text: a character, or a longest run of bytes that begins a
character and does not complete it. -/
inductive Glyph
  | char (c : Char)
  | stray (bytes : List UInt8)
deriving DecidableEq, Repr

/-- Text as the operating system hands it over, where nothing promises that the bytes decode. -/
abbrev Loose := List Glyph

def replacement : Char := '\uFFFD'

def Glyph.display : Glyph → Char
  | .char c => c
  | .stray _ => replacement

def Glyph.char? : Glyph → Option Char
  | .char c => some c
  | .stray _ => none

def Glyph.bytes : Glyph → List UInt8
  | .char c => String.utf8EncodeChar c
  | .stray bytes => bytes

namespace Loose

def ofString (s : String) : Loose := s.toList.map .char

def bytes (l : Loose) : List UInt8 := l.flatMap Glyph.bytes

def text? (l : Loose) : Option (List Char) := l.mapM Glyph.char?

def display (l : Loose) : String := String.ofList (l.map Glyph.display)

/-- A character under way: the bytes read (last first), the value they give, how many bytes are
missing, and the range of the next one. -/
structure Unfinished where
  read : List UInt8
  value : Nat
  missing : Nat
  first : UInt8
  last : UInt8

/-- What a leading byte announces. The second byte is narrowed where a wider range would admit
overlong forms, surrogates or values past the last code point. -/
def announce (b : UInt8) : Option Unfinished :=
  if 0xC2 ≤ b ∧ b ≤ 0xDF then some ⟨[b], b.toNat - 0xC0, 1, 0x80, 0xBF⟩
  else if b = 0xE0 then some ⟨[b], 0, 2, 0xA0, 0xBF⟩
  else if b = 0xED then some ⟨[b], 0xD, 2, 0x80, 0x9F⟩
  else if 0xE1 ≤ b ∧ b ≤ 0xEF then some ⟨[b], b.toNat - 0xE0, 2, 0x80, 0xBF⟩
  else if b = 0xF0 then some ⟨[b], 0, 3, 0x90, 0xBF⟩
  else if 0xF1 ≤ b ∧ b ≤ 0xF3 then some ⟨[b], b.toNat - 0xF0, 3, 0x80, 0xBF⟩
  else if b = 0xF4 then some ⟨[b], 4, 3, 0x80, 0x8F⟩
  else none

def begin (done : Loose) (b : UInt8) : Loose × Option Unfinished :=
  if b < 0x80 then (.char (Char.ofNat b.toNat) :: done, none)
  else match announce b with
    | some u => (done, some u)
    | none => (.stray [b] :: done, none)

def step : Loose × Option Unfinished → UInt8 → Loose × Option Unfinished
  | (done, none), b => begin done b
  | (done, some u), b =>
    if u.first ≤ b ∧ b ≤ u.last then
      let value := u.value * 64 + (b.toNat - 0x80)
      if u.missing ≤ 1 then (.char (Char.ofNat value) :: done, none)
      else (done, some ⟨b :: u.read, value, u.missing - 1, 0x80, 0xBF⟩)
    else begin (.stray u.read.reverse :: done) b

def finish : Loose × Option Unfinished → Loose
  | (done, none) => done.reverse
  | (done, some u) => (.stray u.read.reverse :: done).reverse

def ofBytes (bytes : List UInt8) : Loose := finish (bytes.foldl step ([], none))

theorem text?_map_char (cs : List Char) : text? (cs.map .char) = some cs := by
  induction cs with
  | nil => rfl
  | cons c cs ih =>
    have h : (cs.map Glyph.char).mapM Glyph.char? = some cs := ih
    simp [text?, Glyph.char?, h]

theorem eq_map_of_text? {l : Loose} {cs : List Char} (h : text? l = some cs) :
    l = cs.map .char := by
  induction l generalizing cs with
  | nil => cases h; rfl
  | cons g l ih =>
    cases g with
    | stray bytes => simp [text?, Glyph.char?] at h
    | char c =>
      simp only [text?, List.mapM_cons, Glyph.char?, Option.bind_eq_bind, Option.bind_some,
        Option.pure_def, Option.bind_eq_some_iff] at h
      obtain ⟨rest, hrest, h⟩ := h
      cases h
      rw [List.map_cons, ← ih hrest]

end Loose

end Interop.Text
