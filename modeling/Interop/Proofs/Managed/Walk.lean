import Interop.Proofs.Managed.Hidden
import Interop.Proofs.Managed.Runs

namespace Interop.Managed

namespace Cursor

variable {c d : Cursor} {u : UInt16}

theorem remaining_advance (c : Cursor) : c.advance.2.remaining = c.remaining - 1 := by
  rw [advance]
  split
  · exact Nat.sub_add_eq c.stop c.next 1
  · next h => rw [remaining, Nat.sub_eq_zero_of_le (Nat.le_of_not_lt h)]

theorem le_stop_advance (h : c.next ≤ c.stop) : c.advance.2.next ≤ c.advance.2.stop := by
  rw [advance]
  split
  · next hn => exact hn
  · exact h

theorem fst_advance (c : Cursor) : c.advance.1 = c.rest.head? := by
  rw [rest_advance]
  split
  · next u d h => rw [h, List.head?_cons]
  · next d h => rw [h, List.head?_nil]

theorem rest_snd_advance (c : Cursor) : c.advance.2.rest = c.rest.tail := by
  by_cases h : c.next < c.stop
  · rw [c.rest_advance, advance, if_pos h]
    rfl
  · have hz : c.rest = [] := by rw [c.rest_advance, advance, if_neg h]
    rw [advance, if_neg h, hz]
    rfl

theorem remaining_lt_of_advance (h : c.advance = (some u, d)) : d.remaining < c.remaining := by
  have hd : c.advance.2 = d := by rw [h]
  have hr : c.rest = u :: d.rest := by rw [c.rest_advance, h]
  have hl := c.length_rest
  rw [hr, List.length_cons] at hl
  rw [← hd, remaining_advance]
  omega

def exactSize? (c : Cursor) : Option Nat :=
  if c.sizeHint.2 = some c.sizeHint.1 then some c.sizeHint.1 else none

/-- All that is left, by calls for the next unit up to the first that gives none. -/
def collect (c : Cursor) : List UInt16 :=
  match _h : c.advance with
  | (some u, d) => u :: d.collect
  | (none, _) => []
termination_by c.remaining
decreasing_by exact remaining_lt_of_advance _h

theorem exactSize?_eq (c : Cursor) : c.exactSize? = some c.remaining := if_pos rfl

theorem collect_eq_rest (c : Cursor) : c.collect = c.rest := by
  induction c using collect.induct with
  | case1 c u d h ih =>
      rw [collect, rest_advance, h]
      exact congrArg (u :: ·) ih
  | case2 c d h => rw [collect, rest_advance, h]

theorem rest_skip (c : Cursor) (k : Nat) : (c.skip k).rest = c.rest.drop k := by
  induction k generalizing c with
  | zero => rfl
  | succ k ih => rw [skip, ih, rest_snd_advance, List.drop_tail]

theorem remaining_skip (c : Cursor) (k : Nat) : (c.skip k).remaining = c.remaining - k := by
  rw [← length_rest, rest_skip, List.length_drop, length_rest]

theorem le_stop_skip (h : c.next ≤ c.stop) (k : Nat) : (c.skip k).next ≤ (c.skip k).stop := by
  induction k generalizing c with
  | zero => exact h
  | succ k ih => exact ih (le_stop_advance h)

theorem taken_eq (c : Cursor) (k : Nat) :
    c.taken k = (List.range k).map fun i =>
      ((c.remaining - i, some (c.remaining - i)), c.rest[i]?) := by
  induction k generalizing c with
  | zero => rfl
  | succ k ih =>
      rw [taken, ih, List.range_succ_eq_map, List.map_cons, List.map_map, fst_advance,
        rest_snd_advance, remaining_advance, List.head?_eq_getElem?]
      simp only [Function.comp_def, List.getElem?_tail, Nat.sub_sub, Nat.add_comm 1]
      rfl

end Cursor

namespace Image

variable {m : Image} {i : Nat}

theorem visible_eq (m : Image) : m.visible = m.length.toInt.toNat := by
  rw [visible, Int32.toNatClampNeg]

theorem toInt_ofNat_of_lt_visible (h : i < m.visible) : (Int32.ofNat i).toInt = i :=
  Int32.toInt_ofNat_of_lt (Nat.lt_trans h m.length.toNatClampNeg_lt)

theorem Valid.getElem?_units_ofNat (hm : m.Valid) (hi : i < m.visible) :
    m.units[i]? = some (m.get (Int32.ofNat i)).value := by
  have hn := toInt_ofNat_of_lt_visible hi
  have hu := hm.getElem?_units ((m.shows_iff_lt_visible hn).2 hi)
  rwa [hn] at hu

theorem Valid.units_eq_map_get (hm : m.Valid) :
    m.units = (List.range m.visible).map fun i => (m.get (Int32.ofNat i)).value := by
  have hl : m.units.length = m.visible := m.cursor.length_rest
  apply List.ext_getElem?
  intro i
  by_cases hi : i < m.visible
  · rw [hm.getElem?_units_ofNat hi, List.getElem?_map, List.getElem?_range hi]
    rfl
  · rw [List.getElem?_eq_none (by omega), List.getElem?_eq_none (by simpa using hi)]

/-- However many calls come first, an iterator over the units of an image gives what the same number
of reads by index would, and nothing from the first index on that is outside. Before each call and
behind the last one its hint is the exact number of what is left, for which its place never passes
its end, and collecting gives what is left. No call leaves a trace in the log. -/
theorem walk_reads {steps : List Pool.Step} (h : Pool.Admissible [] steps)
    (hm : m ∈ Pool.run [] steps) (k : Nat) :
    let n := m.length.toInt.toNat
    let read (i : Nat) := (m.get (Int32.ofNat i)).value
    let left := n - min k n
    let c := m.cursor.skip k
    m.perform (.walk k) = pure (m, .walked ((List.range k).map fun i =>
      ((n - i, some (n - i)), if i < n then some (read i) else none))) ∧
    (c.next ≤ c.stop ∧ c.sizeHint = (left, some left) ∧ c.exactSize? = some left) ∧
    (c.collect = ((List.range n).drop k).map read ∧ c.collect.length = left) ∧
    m.perform .units = pure (m, .units ((List.range n).map read)) := by
  intro n read left c
  have hv : m.Valid := (Pool.represents_run h).valid m hm
  have hu : m.cursor.rest = (List.range n).map read := hv.units_eq_map_get
  have hn : m.cursor.remaining = n := by rw [Cursor.remaining, cursor, Nat.sub_zero, visible_eq]
  have hleft : c.remaining = left := by
    rw [Cursor.remaining_skip, hn]
    omega
  have hread (i : Nat) : ((List.range n).map read)[i]? = if i < n then some (read i) else none := by
    rw [List.getElem?_map]
    split
    · next hi => rw [List.getElem?_range hi, Option.map_some]
    · next hi => rw [List.getElem?_eq_none (by simpa using hi), Option.map_none]
  refine ⟨?_, ⟨?_, ?_, ?_⟩, ⟨?_, ?_⟩, ?_⟩
  · rw [perform, Cursor.taken_eq, hn, hu]
    simp only [hread]
  · exact Cursor.le_stop_skip (Nat.zero_le _) k
  · rw [Cursor.sizeHint, hleft]
  · rw [Cursor.exactSize?_eq, hleft]
  · rw [Cursor.collect_eq_rest, Cursor.rest_skip, hu, List.map_drop]
  · rw [Cursor.collect_eq_rest, Cursor.length_rest, hleft]
  · exact congrArg (fun us => pure (m, Answer.units us)) hu

/-- Two of three units behind the header, one call past them, and a clone with a header below
zero. -/
theorem walk_reads_hidden :
    let steps : List Pool.Step := [.build 7 [0x41, 0x42, 0x43], .write .address 0 1 0x58,
      .setLength 0 2, .clone 0, .setLength 1 (-1)]
    let m := ((build 7 [0x41, 0x42, 0x43]).writeBy .address 1 0x58).value.setLength 2
    let n := m.setLength (-1)
    Pool.Admissible [] steps ∧ Pool.run [] steps = [m, n] ∧
      m.perform (.walk 3) = pure (m, .walked
        [((2, some 2), some 0x41), ((1, some 1), some 0x58), ((0, some 0), none)]) ∧
      (m.cursor.skip 1).collect = [0x58] ∧ (m.cursor.skip 3).exactSize? = some 0 ∧
      n.perform (.walk 1) = pure (n, .walked [((0, some 0), none)]) := by
  intro steps m n
  have h : Pool.Admissible [] steps := by decide
  have hm : m ∈ Pool.run [] steps := List.mem_cons_self
  have hn : n ∈ Pool.run [] steps := List.mem_cons_of_mem m List.mem_cons_self
  obtain ⟨hwalk, ⟨-, -, hsize⟩, -⟩ := walk_reads h hm 3
  obtain ⟨-, -, ⟨hcollect, -⟩, -⟩ := walk_reads h hm 1
  obtain ⟨hnone, -⟩ := walk_reads h hn 1
  refine ⟨h, rfl, hwalk.trans ?_, hcollect.trans ?_, hsize.trans ?_, hnone.trans ?_⟩
  · exact congrArg (fun taken => pure (m, Answer.walked taken)) (by decide +kernel)
  · decide +kernel
  · decide +kernel
  · exact congrArg (fun taken => pure (n, Answer.walked taken)) (by decide +kernel)

end Image

end Interop.Managed
