namespace Interop.Text.ByteRanges

abbrev Sequence := List (Nat × Nat)

def block : Nat → Nat
  | 0 => 1
  | n + 1 => 64 * block n

def anyTail (n : Nat) : Sequence := List.replicate n (0x80, 0xBF)

/-- Sequences of a byte that counts from `lead` and of `n` further bytes, which together hold the
numbers from `first` to `last`. Only a first byte at either end can be in need of narrower ones
behind it. -/
def numbers (lead : Nat) : Nat → Nat → Nat → List Sequence
  | 0, first, last => [[(lead + first, lead + last)]]
  | n + 1, first, last =>
    let low := first / block (n + 1)
    let high := last / block (n + 1)
    let start := first % block (n + 1)
    let stop := last % block (n + 1)
    let behind (digit start stop : Nat) : List Sequence :=
      (numbers 0x80 n start stop).map ((lead + digit, lead + digit) :: ·)
    if low = high then behind low start stop
    else
      let cutsLow := start ≠ 0
      let cutsHigh := stop ≠ block (n + 1) - 1
      let next := if cutsLow then low + 1 else low
      let past := if cutsHigh then high else high + 1
      (if cutsLow then behind low start (block (n + 1) - 1) else []) ++
        (if next < past then [(lead + next, lead + past - 1) :: anyTail (n + 1)] else []) ++
        if cutsHigh then behind high 0 stop else []

/-- Code points that take equally many bytes, with the first byte's offset. Surrogates have no
encoding. -/
def lengths : List (Nat × Nat × Nat × Nat) :=
  [(0x00, 0, 0x0, 0x7F), (0xC0, 1, 0x80, 0x7FF), (0xE0, 2, 0x800, 0xD7FF),
   (0xE0, 2, 0xE000, 0xFFFF), (0xF0, 3, 0x10000, 0x10FFFF)]

def ofRange (range : Nat × Nat) : List Sequence :=
  lengths.flatMap fun (lead, n, least, most) =>
    let first := max least range.1
    let last := min most range.2
    if first ≤ last then numbers lead n first last else []

end Interop.Text.ByteRanges
