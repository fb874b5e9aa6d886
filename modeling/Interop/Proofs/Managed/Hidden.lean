import Interop.Proofs.Managed.LastEdit

namespace Interop.Managed

open Layout

/-- What may be asked of a string: to read and to write by any path, to walk over its units, to tell
how long it is, and to apply edits and reads. -/
inductive Operation
  | read (path : ReadPath) (i : Int32)
  | write (path : WritePath) (i : Int32) (u : UInt16)
  | walk (calls : Nat)
  | units
  | length
  | visible
  | isEmpty
  | owned
  | apply (edits : List Edit) (reads : List Int32)
deriving DecidableEq, Repr

inductive Answer
  | unit (u : UInt16)
  | done
  | walked (steps : List ((Nat × Option Nat) × Option UInt16))
  | units (us : List UInt16)
  | length (n : Int32)
  | visible (n : Nat)
  | isEmpty (b : Bool)
  | owned (count occupied : Nat)
  | report (r : Report)
deriving DecidableEq, Repr

def Operation.edits : Operation → List Edit
  | write _ i u => [⟨i, u⟩]
  | apply edits _ => edits
  | read .. | walk _ | units | length | visible | isEmpty | owned => []

def Cursor.taken (c : Cursor) : Nat → List ((Nat × Option Nat) × Option UInt16)
  | 0 => []
  | calls + 1 => (c.sizeHint, c.advance.1) :: c.advance.2.taken calls

namespace Image

def perform (m : Image) : Operation → Logged (Image × Answer)
  | .read path i => do
    let u ← m.readBy path i
    return (m, .unit u)
  | .write path i u => do
    let edited ← m.writeBy path i u
    return (edited, .done)
  | .walk calls => pure (m, .walked (m.cursor.taken calls))
  | .units => pure (m, .units m.units)
  | .length => pure (m, .length m.length)
  | .visible => pure (m, .visible m.visible)
  | .isEmpty => pure (m, .isEmpty m.isEmpty)
  | .owned => pure (m, .owned m.count m.occupied)
  | .apply edits reads => do
    let (edited, report) ← m.apply edits reads
    return (edited, .report report)

def performAll (m : Image) : List Operation → Logged (Image × List Answer)
  | [] => pure (m, [])
  | op :: ops => do
    let (next, answer) ← m.perform op
    let (last, answers) ← next.performAll ops
    return (last, answer :: answers)

variable {m n : Image}

theorem visible_setAll (m : Image) (edits : List Edit) : (m.setAll edits).visible = m.visible :=
  congrArg Int32.toNatClampNeg (length_setAll m edits)

theorem image_perform (m : Image) (op : Operation) :
    (m.perform op).value.1 = m.setAll op.edits := by
  cases op with
  | write path i u => exact m.value_writeBy path i u
  | apply edits reads => exact congrArg Prod.fst (m.value_apply edits reads)
  | read | walk | units | length | visible | isEmpty | owned => rfl

theorem image_performAll (m : Image) (ops : List Operation) :
    (m.performAll ops).value.1 = m.setAll (ops.flatMap Operation.edits) := by
  induction ops generalizing m with
  | nil => rfl
  | cons op ops ih =>
      rw [List.flatMap_cons, setAll_append, ← image_perform]
      exact ih (m.perform op).value.1

theorem log_writeBy (m : Image) (path : WritePath) (i : Int32) (u : UInt16) :
    (m.writeBy path i u).log = (m.set i u).log := by
  cases path with
  | function | writer => rfl
  | address =>
      change ((m.set i u).log ++ []) ++ [] = _
      rw [List.append_nil, List.append_nil]

/-- Nothing that a view shows tells the two apart. Their tags and what their headers hide are of no
account here. -/
structure SameView (m n : Image) : Prop where
  count : m.count = n.count
  length : m.length = n.length
  unitAt : ∀ i < m.visible, m.unitAt i = n.unitAt i

namespace SameView

theorem visible (h : m.SameView n) : m.visible = n.visible :=
  congrArg Int32.toNatClampNeg h.length

theorem occupied (h : m.SameView n) : m.occupied = n.occupied :=
  congrArg Layout.occupied h.count

theorem setAll (h : m.SameView n) (hm : m.Valid) (hn : n.Valid) (edits : List Edit) :
    (m.setAll edits).SameView (n.setAll edits) where
  count := by rw [count_setAll, count_setAll, h.count]
  length := by rw [length_setAll, length_setAll, h.length]
  unitAt := by
    intro i hi
    rw [visible_setAll] at hi
    rw [hm.unitAt_setAll, hn.unitAt_setAll, if_pos hi, if_pos (h.visible ▸ hi), h.unitAt i hi]

theorem get (h : m.SameView n) (i : Int32) : m.get i = n.get i := by
  rw [Image.get, Image.get, ← h.length]
  cases hk : checkIndex i m.length with
  | none => rfl
  | some k =>
      have hi : k < m.visible := by
        rw [checkIndex_eq] at hk
        by_cases hs : m.model.shows i
        · rw [if_pos hs, Option.some.injEq] at hk
          exact (m.shows_iff_lt_visible (hk ▸ (Int.toNat_of_nonneg hs.1).symm)).1 hs
        · rw [if_neg hs] at hk
          cases hk
      exact congrArg pure (h.unitAt k hi)

theorem log_set (h : m.SameView n) (i : Int32) (u : UInt16) :
    (m.set i u).log = (n.set i u).log := by
  rw [Image.log_set, Image.log_set, h.length]
  simp only [shows_iff, h.length]

theorem units (h : m.SameView n) : m.units = n.units := by
  rw [units_eq_range, units_eq_range, ← h.visible]
  apply List.map_congr_left
  intro i hi
  exact h.unitAt i (List.mem_range.1 hi)

theorem taken (h : m.SameView n) (next calls : Nat) :
    Cursor.taken ⟨m, next, m.visible⟩ calls = Cursor.taken ⟨n, next, m.visible⟩ calls := by
  induction calls generalizing next with
  | zero => rfl
  | succ calls ih =>
      rw [Cursor.taken, Cursor.taken, Cursor.advance, Cursor.advance]
      by_cases hn : next < m.visible
      · rw [if_pos hn, if_pos hn, ih, h.unitAt next hn]
        rfl
      · rw [if_neg hn, if_neg hn, ih]
        rfl

theorem report (h : m.SameView n) (hm : m.Valid) (hn : n.Valid) (edits : List Edit)
    (reads : List Int32) :
    (m.apply edits reads).value.2 = (n.apply edits reads).value.2 := by
  have he := h.setAll hm hn edits
  rw [value_apply, value_apply, he.length, he.occupied, he.units, h.length]
  simp only [he.get]

/-- One operation answers and logs the same, and leaves what views cannot tell apart. -/
theorem perform (h : m.SameView n) (hm : m.Valid) (hn : n.Valid) (op : Operation) :
    (m.perform op).value.2 = (n.perform op).value.2 ∧ (m.perform op).log = (n.perform op).log ∧
      (m.perform op).value.1.SameView (n.perform op).value.1 := by
  refine ⟨?_, ?_, ?_⟩
  · cases op with
    | read path i =>
        simp only [Image.perform, readBy_eq, h.get i, Logged.value_bind, Logged.value_pure]
    | write path i u => rfl
    | walk calls =>
        have ht := h.taken 0 calls
        simp only [Image.perform, cursor, ← h.visible, ht, Logged.value_pure]
    | units => simp only [Image.perform, h.units, Logged.value_pure]
    | length => simp only [Image.perform, h.length, Logged.value_pure]
    | visible => simp only [Image.perform, h.visible, Logged.value_pure]
    | isEmpty => simp only [Image.perform, isEmpty, h.visible, Logged.value_pure]
    | owned => simp only [Image.perform, h.count, h.occupied, Logged.value_pure]
    | apply edits reads => exact congrArg Answer.report (h.report hm hn edits reads)
  · cases op with
    | read path i => simp only [Image.perform, readBy_eq, h.get i, Logged.log_bind, Logged.log_pure]
    | write path i u =>
        simp only [Image.perform, log_writeBy, h.log_set i u, Logged.log_bind, Logged.log_pure]
    | walk | units | length | visible | isEmpty | owned => rfl
    | apply edits reads =>
        simp only [Image.perform, log_apply, h.length, Logged.log_bind, Logged.log_pure]
  · rw [image_perform, image_perform]
    exact h.setAll hm hn op.edits

theorem performAll (h : m.SameView n) (hm : m.Valid) (hn : n.Valid) (ops : List Operation) :
    (m.performAll ops).value.2 = (n.performAll ops).value.2 ∧
      (m.performAll ops).log = (n.performAll ops).log ∧
      (m.performAll ops).value.1.SameView (n.performAll ops).value.1 := by
  induction ops generalizing m n with
  | nil => exact ⟨rfl, rfl, h⟩
  | cons op ops ih =>
      obtain ⟨ha, hl, hs⟩ := h.perform hm hn op
      have hm' : (m.perform op).value.1.Valid := image_perform m op ▸ hm.setAll op.edits
      have hn' : (n.perform op).value.1.Valid := image_perform n op ▸ hn.setAll op.edits
      obtain ⟨has, hls, hss⟩ := ih hs hm' hn'
      refine ⟨?_, ?_, hss⟩
      · simp only [Image.performAll, Logged.value_bind, Logged.value_pure, ha, has]
      · simp only [Image.performAll, Logged.log_bind, Logged.log_pure, List.append_nil, hl, hls]

end SameView

def header (m : Image) : List UInt8 :=
  LittleEndian.encode tagSize m.tag.toNat ++
    LittleEndian.encode lengthSize m.length.toUInt32.toNat

def hidden (m : Image) : List UInt16 := m.model.units.drop m.visible

def encodeUnits (units : List UInt16) : List UInt8 :=
  units.flatMap fun u => LittleEndian.encode unitSize u.toNat

theorem length_header (m : Image) : m.header.length = 12 := by
  rw [header, List.length_append, LittleEndian.length_encode, LittleEndian.length_encode]
  rfl

theorem Valid.bytes_parts (h : m.Valid) :
    m.bytes = m.header ++ (encodeUnits m.units ++ encodeUnits m.hidden) := by
  rw [bytes_eq, Model.bytes, h.units_eq, hidden, encodeUnits, encodeUnits, ← List.flatMap_append,
    List.take_append_drop]
  rfl

theorem length_shown (m : Image) : (encodeUnits m.units).length = 2 * m.visible := by
  rw [encodeUnits, length_encodeUnits, Image.units, Cursor.length_rest]
  rfl

theorem Valid.hidden_setAll (h : m.Valid) (edits : List Edit) :
    (m.setAll edits).hidden = m.hidden := by
  rw [hidden, hidden, visible_setAll, model, model, count_setAll, ← List.map_drop, ← List.map_drop]
  apply List.map_congr_left
  intro i hi
  have hle : ¬ i < m.visible := by
    obtain ⟨j, hj, rfl⟩ := List.mem_iff_getElem.1 hi
    simp
  rw [h.unitAt_setAll, if_neg hle]

theorem header_setAll (m : Image) (edits : List Edit) : (m.setAll edits).header = m.header := by
  rw [header, header, tag_setAll, length_setAll]

theorem getElem?_replace_middle {α : Type} {before before' middle other after after' : List α}
    (hb : before.length = before'.length) (ho : middle.length = other.length) (k : Nat)
    (h : (before ++ (middle ++ after))[k]? = (before' ++ (middle ++ after'))[k]?) :
    (before ++ (other ++ after))[k]? = (before' ++ (other ++ after'))[k]? := by
  by_cases hk : k < before.length
  · rw [List.getElem?_append_left hk, List.getElem?_append_left (hb ▸ hk)] at h ⊢
    exact h
  · have hk' := Nat.le_of_not_lt hk
    have hk'' : before'.length ≤ k := hb ▸ hk'
    rw [List.getElem?_append_right hk', List.getElem?_append_right hk'', ← hb] at h ⊢
    by_cases hm : k - before.length < other.length
    · rw [List.getElem?_append_left hm, List.getElem?_append_left hm]
    · have hm' := Nat.le_of_not_lt hm
      rw [List.getElem?_append_right (ho ▸ hm'), List.getElem?_append_right (ho ▸ hm'), ho] at h
      rw [List.getElem?_append_right hm', List.getElem?_append_right hm', h]

theorem Valid.bytes_setAll (h : m.Valid) (edits : List Edit) :
    (m.setAll edits).bytes =
      m.header ++ (encodeUnits (m.setAll edits).units ++ encodeUnits m.hidden) := by
  rw [(h.setAll edits).bytes_parts, header_setAll, h.hidden_setAll]

theorem Valid.untouched (h : m.Valid) (edits : List Edit) :
    (m.setAll edits).bytes.take 8 = m.bytes.take 8 ∧
      (m.setAll edits).bytes.drop (12 + 2 * m.visible) = m.bytes.drop (12 + 2 * m.visible) := by
  have hl := length_shown (m.setAll edits)
  rw [visible_setAll] at hl
  have hh := m.length_header
  rw [h.bytes_setAll, h.bytes_parts]
  constructor
  · rw [List.take_append_of_le_length (by omega), List.take_append_of_le_length (by omega)]
  · rw [← List.drop_drop, ← List.drop_drop, List.drop_left' hh, List.drop_left' hh,
      List.drop_left' hl, List.drop_left' m.length_shown]

theorem SameView.differences (h : m.SameView n) (hm : m.Valid) (hn : n.Valid) (edits : List Edit)
    (k : Nat) (hk : m.bytes[k]? = n.bytes[k]?) :
    (m.setAll edits).bytes[k]? = (n.setAll edits).bytes[k]? := by
  have hl : (encodeUnits m.units).length = (encodeUnits (m.setAll edits).units).length := by
    rw [length_shown, length_shown, visible_setAll]
  rw [hm.bytes_parts, hn.bytes_parts, ← h.units] at hk
  rw [hm.bytes_setAll, hn.bytes_setAll, ← (h.setAll hm hn edits).units]
  exact getElem?_replace_middle (m.length_header.trans n.length_header.symm) hl k hk

/-- Two strings that differ in their tags and in the units that their headers hide answer and log
the same through any run of operations. The run leaves the tag and the hidden units of each as they
were, and makes the two differ in no byte in which they did not differ before. -/
theorem performAll_hidden (hm : m.Valid) (hn : n.Valid) (h : m.SameView n)
    (ops : List Operation) :
    let x := m.performAll ops
    let y := n.performAll ops
    x.value.2 = y.value.2 ∧ x.log = y.log ∧
    (x.value.1.bytes.take 8 = m.bytes.take 8 ∧
      x.value.1.bytes.drop (12 + 2 * m.visible) = m.bytes.drop (12 + 2 * m.visible)) ∧
    (y.value.1.bytes.take 8 = n.bytes.take 8 ∧
      y.value.1.bytes.drop (12 + 2 * n.visible) = n.bytes.drop (12 + 2 * n.visible)) ∧
    ∀ k : Nat, m.bytes[k]? = n.bytes[k]? → x.value.1.bytes[k]? = y.value.1.bytes[k]? := by
  intro x y
  obtain ⟨ha, hl, -⟩ := h.performAll hm hn ops
  have hx : x.value.1 = m.setAll (ops.flatMap Operation.edits) := m.image_performAll ops
  have hy : y.value.1 = n.setAll (ops.flatMap Operation.edits) := n.image_performAll ops
  rw [hx, hy]
  exact ⟨ha, hl, hm.untouched _, hn.untouched _, h.differences hm hn _⟩

/-- Two tags, and a third unit behind headers that show two. -/
theorem performAll_hidden_pair :
    let m := (build 7 [0x41, 0x42, 0x43]).setLength 2
    let n := (build 9 [0x41, 0x42, 0x5A]).setLength 2
    let ops : List Operation := [.write .address 2 0x58, .write .function 1 0x59, .read .reader 2,
      .walk 3, .apply [⟨2, 0x58⟩, ⟨-1, 0x58⟩, ⟨0, 0x58⟩] [1, 2]]
    m.Valid ∧ n.Valid ∧ m.SameView n ∧ m.bytes ≠ n.bytes ∧
      (m.performAll ops).value.2 = (n.performAll ops).value.2 ∧
      (m.performAll ops).log = (n.performAll ops).log ∧
      (m.performAll ops).value.1.bytes.drop 16 = [0x43, 0] ∧
      (n.performAll ops).value.1.bytes.drop 16 = [0x5A, 0] := by
  intro m n ops
  have bm : (build 7 [0x41, 0x42, 0x43]).Valid := valid_build 7 (by decide)
  have bn : (build 9 [0x41, 0x42, 0x5A]).Valid := valid_build 9 (by decide)
  have hm : m.Valid := bm.setLength (by decide)
  have hn : n.Valid := bn.setLength (by decide)
  have lm : m.length = 2 := length_setLength bm.fits 2
  have ln : n.length = 2 := length_setLength bn.fits 2
  have vm : m.visible = 2 := congrArg Int32.toNatClampNeg lm
  have vn : n.visible = 2 := congrArg Int32.toNatClampNeg ln
  have cm : m.count = 3 := rfl
  have cn : n.count = 3 := rfl
  have hs : m.SameView n := by
    refine ⟨cm.trans cn.symm, lm.trans ln.symm, ?_⟩
    rw [vm]
    decide +kernel
  obtain ⟨ha, hl, ⟨-, hx⟩, ⟨-, hy⟩, -⟩ := performAll_hidden hm hn hs ops
  rw [vm] at hx
  rw [vn] at hy
  refine ⟨hm, hn, hs, by decide +kernel, ha, hl, hx.trans ?_, hy.trans ?_⟩
  · decide +kernel
  · decide +kernel

end Image

end Interop.Managed
