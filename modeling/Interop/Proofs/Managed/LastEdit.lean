import Mathlib.Algebra.Group.Nat.Defs
import Interop.Proofs.Managed.Apply

namespace Interop.Managed

namespace Edit

/-- The last edit of a list that addresses an index. -/
def last? (edits : List Edit) (i : Nat) : Option Edit :=
  edits.reverse.find? fun e => e.index.toInt == i

theorem last?_cons (e : Edit) (edits : List Edit) (i : Nat) :
    last? (e :: edits) i =
      (last? edits i).or (if e.index.toInt = i then some e else none) := by
  rw [last?, List.reverse_cons, List.find?_append, last?]
  by_cases he : e.index.toInt = i
  · simp [he]
  · simp [he]

theorem last?_append (before after : List Edit) (i : Nat) :
    last? (before ++ after) i = (last? after i).or (last? before i) := by
  rw [last?, List.reverse_append, List.find?_append, last?, last?]

/-- Only the edits that a test lets through count, as long as it lets through all that address the
index. -/
theorem last?_filter {p : Edit → Bool} {i : Nat} (hp : ∀ e : Edit, e.index.toInt = i → p e = true)
    (edits : List Edit) : last? (edits.filter p) i = last? edits i := by
  induction edits with
  | nil => rfl
  | cons e edits ih =>
      rw [last?_cons, ← ih]
      by_cases he : p e = true
      · rw [List.filter_cons_of_pos he, last?_cons]
      · have hi : e.index.toInt ≠ i := fun hi => he (hp e hi)
        rw [List.filter_cons_of_neg he, if_neg hi, Option.or_none]

theorem last?_congr {p : Edit → Bool} {i : Nat} (hp : ∀ e : Edit, e.index.toInt = i → p e = true)
    {edits others : List Edit} (h : others.filter p = edits.filter p) :
    last? others i = last? edits i := by
  rw [← last?_filter hp others, h, last?_filter hp]

theorem last?_of_filter_index {edits others : List Edit}
    (h : ∀ j : Int32, others.filter (·.index = j) = edits.filter (·.index = j)) {i : Nat}
    (hi : i < 2 ^ 31) : last? others i = last? edits i := by
  have hj : (Int32.ofNat i).toInt = i := Int32.toInt_ofNat_of_lt hi
  refine last?_congr (fun e he => ?_) (h (Int32.ofNat i))
  exact decide_eq_true (Int32.toInt_inj.1 (he.trans hj.symm))

end Edit

namespace Image

variable {m : Image}

theorem visible_set (m : Image) (i : Int32) (u : UInt16) :
    (m.set i u).value.visible = m.visible := by
  rw [visible, length_set, visible]

theorem shows_iff_lt_visible (m : Image) {i : Int32} {j : Nat} (hj : i.toInt = j) :
    m.model.shows i ↔ j < m.visible := by
  have hv := m.toInt_visible
  change 0 ≤ i.toInt ∧ i.toInt < m.length.toInt ↔ _
  omega

/-- One call changes one unit at most, since no two units share a byte. -/
theorem Valid.unitAt_set (h : m.Valid) (e : Edit) (j : Nat) :
    (m.set e.index e.unit).value.unitAt j =
      if e.index.toInt = j ∧ j < m.visible then e.unit else m.unitAt j := by
  rw [set_eq]
  by_cases hs : m.model.shows e.index
  · have hk : (e.index.toNatClampNeg : Int) = e.index.toInt := Int.toNat_of_nonneg hs.1
    rw [if_pos hs, unitAt_putUnit h.fits (lt_count h.wellFormed hs)]
    by_cases hj : e.index.toInt = j
    · rw [if_pos (by omega), if_pos ⟨hj, (m.shows_iff_lt_visible hj).1 hs⟩]
    · rw [if_neg (by omega), if_neg fun hc => hj hc.1]
  · rw [if_neg hs, if_neg fun hc => hs ((m.shows_iff_lt_visible hc.1).2 hc.2)]

theorem Valid.unitAt_setAll (h : m.Valid) (edits : List Edit) (j : Nat) :
    (m.setAll edits).unitAt j =
      if j < m.visible then ((Edit.last? edits j).map Edit.unit).getD (m.unitAt j)
      else m.unitAt j := by
  induction edits generalizing m with
  | nil => exact (ite_self _).symm
  | cons e edits ih =>
      rw [setAll_cons, ih (h.set e.index e.unit), visible_set, h.unitAt_set e j, Edit.last?_cons]
      by_cases hj : j < m.visible
      · rw [if_pos hj, if_pos hj]
        cases Edit.last? edits j with
        | some d => rfl
        | none => by_cases he : e.index.toInt = j <;> simp [he, hj]
      · rw [if_neg hj, if_neg hj, if_neg fun hc => hj hc.2]

theorem Valid.model_setAll_congr (h : m.Valid) {edits others : List Edit}
    (hl : ∀ i < m.visible, Edit.last? edits i = Edit.last? others i) :
    (m.setAll edits).model = (m.setAll others).model := by
  have hu : (m.setAll edits).unitAt = (m.setAll others).unitAt := by
    funext j
    rw [h.unitAt_setAll, h.unitAt_setAll]
    by_cases hj : j < m.visible
    · rw [if_pos hj, if_pos hj, hl j hj]
    · rw [if_neg hj, if_neg hj]
  rw [model, model, hu, tag_setAll, tag_setAll, length_setAll, length_setAll, count_setAll,
    count_setAll]

/-- The same bytes are left, and the reports tell the same units and the same reads. -/
structure SameOutcome (x y : Logged (Image × Report)) : Prop where
  bytes : x.value.1.bytes = y.value.1.bytes
  units : x.value.2.units = y.value.2.units
  reads : x.value.2.reads = y.value.2.reads

theorem sameOutcome_of_model {n : Image} (hm : m.Valid) (hn : n.Valid) {edits others : List Edit}
    (h : (m.setAll edits).model = (n.setAll others).model) (reads : List Int32) :
    SameOutcome (m.apply edits reads) (n.apply others reads) := by
  have hme := hm.setAll edits
  have hno := hn.setAll others
  have hv : (m.setAll edits).visible = (n.setAll others).visible :=
    congrArg (fun a => a.length.toNatClampNeg) h
  constructor
  · rw [value_apply, value_apply, bytes_eq, bytes_eq, h]
  · rw [value_apply, value_apply, hme.units_eq, hno.units_eq, h, hv]
  · rw [value_apply, value_apply]
    apply List.map_congr_left
    intro i _
    rw [value_get hme.wellFormed, value_get hno.wellFormed, h]

/-- The last edit of each visible unit decides, and nothing else of a list of edits does. So the
order of edits to different units is free, edits outside may come and go, and doing all of them once
more changes nothing. -/
theorem apply_last_edit (h : m.Valid) (edits : List Edit) (reads : List Int32) :
    let result := m.apply edits reads
    let last := result.value.1
    (last.tag = m.tag ∧ last.length = m.length ∧ last.count = m.count) ∧
    (∀ i < m.visible,
      last.unitAt i = ((Edit.last? edits i).map Edit.unit).getD (m.unitAt i)) ∧
    (∀ i, m.visible ≤ i → last.unitAt i = m.unitAt i) ∧
    (∀ others : List Edit, (∀ i < m.visible, Edit.last? others i = Edit.last? edits i) →
      SameOutcome (m.apply others reads) result) ∧
    (∀ others : List Edit, others.Perm edits →
      (∀ i : Int32, others.filter (·.index = i) = edits.filter (·.index = i)) →
        SameOutcome (m.apply others reads) result) ∧
    (∀ others : List Edit, others.filter (fun e => 0 ≤ e.index ∧ e.index < m.length) =
        edits.filter (fun e => 0 ≤ e.index ∧ e.index < m.length) →
      SameOutcome (m.apply others reads) result) ∧
    SameOutcome (m.apply (edits ++ edits) reads) result ∧
    SameOutcome (last.apply edits reads) result := by
  intro result last
  have hr : last = m.setAll edits := congrArg Prod.fst (value_apply m edits reads)
  have hu := h.unitAt_setAll edits
  have hsame (others : List Edit)
      (ho : ∀ i < m.visible, Edit.last? others i = Edit.last? edits i) :
      SameOutcome (m.apply others reads) result :=
    sameOutcome_of_model h h (h.model_setAll_congr ho) reads
  have htwice (i : Nat) : Edit.last? (edits ++ edits) i = Edit.last? edits i := by
    rw [Edit.last?_append, Option.or_self]
  refine ⟨?_, ?_, ?_, hsame, ?_, ?_, hsame _ fun i _ => htwice i, ?_⟩
  · rw [hr]
    exact ⟨tag_setAll m edits, length_setAll m edits, count_setAll m edits⟩
  · intro i hi
    rw [hr, hu, if_pos hi]
  · intro i hi
    rw [hr, hu, if_neg (Nat.not_lt.2 hi)]
  · intro others _ ho
    apply hsame
    intro i hi
    exact Edit.last?_of_filter_index ho (Nat.lt_trans hi m.length.toNatClampNeg_lt)
  · intro others ho
    apply hsame
    intro i hi
    refine Edit.last?_congr (fun e he => ?_) ho
    exact decide_eq_true ((m.shows_iff e.index).1 ((m.shows_iff_lt_visible he).2 hi))
  · rw [hr]
    refine sameOutcome_of_model (h.setAll edits) h ?_ reads
    rw [← setAll_append]
    exact h.model_setAll_congr fun i _ => htwice i

/-- Behind a header that shows two units of three, the edits to the second may be told by the last
of them, and one to the third is lost like one below zero. -/
theorem apply_last_edit_hidden :
    let m := (build 7 [0x41, 0x42, 0x43]).setLength 2
    let edits : List Edit := [⟨1, 0x58⟩, ⟨0, 0x59⟩, ⟨2, 0x5A⟩, ⟨1, 0x5B⟩]
    let others : List Edit := [⟨-1, 0x5C⟩, ⟨1, 0x5B⟩, ⟨0, 0x59⟩]
    m.Valid ∧ (∀ i < m.visible, Edit.last? others i = Edit.last? edits i) ∧
      (m.apply edits [1]).value.1.unitAt 1 = 0x5B ∧
      SameOutcome (m.apply others [1]) (m.apply edits [1]) := by
  intro m edits others
  have hb : (build 7 [0x41, 0x42, 0x43]).Valid := valid_build 7 (by decide)
  have hv : m.Valid := hb.setLength (by decide)
  have h2 : m.visible = 2 := congrArg Int32.toNatClampNeg (length_setLength hb.fits 2)
  have ho : ∀ i < m.visible, Edit.last? others i = Edit.last? edits i := by
    rw [h2]
    decide
  obtain ⟨-, hu, -, hs, -⟩ := apply_last_edit hv edits [1]
  exact ⟨hv, ho, hu 1 (by rw [h2]; decide), hs others ho⟩

end Image

end Interop.Managed
