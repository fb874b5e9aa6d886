import Interop.Managed.Report
import Interop.Proofs.Managed.Valid

namespace Interop.Managed.Image

open Layout

variable {m : Image}

theorem shows_iff (m : Image) (i : Int32) : m.model.shows i ↔ 0 ≤ i ∧ i < m.length := by
  rw [Int32.le_iff_toInt_le, Int32.lt_iff_toInt_lt]
  rfl

theorem length_units (m : Image) : (m.units.length : Int) = max m.length.toInt 0 := by
  rw [units, Cursor.length_rest, Cursor.remaining, cursor, Nat.sub_zero, toInt_visible]

theorem value_get_of_not_shows (m : Image) {i : Int32} (hi : ¬ m.model.shows i) :
    (m.get i).value = 0 := by
  rw [get, checkIndex_eq, if_neg hi]
  rfl

theorem Valid.getElem?_units (h : m.Valid) {i : Int32} (hi : m.model.shows i) :
    m.units[i.toInt.toNat]? = some (m.get i).value := by
  have hv : i.toInt.toNat < m.visible := by
    obtain ⟨h0, h1⟩ := hi
    have hm := m.toInt_visible
    change i.toInt < m.length.toInt at h1
    omega
  rw [h.units_eq, List.getElem?_take_of_lt hv, value_get h.wellFormed]
  exact Model.getElem?_get h.wellFormed hi

def setAll (m : Image) (edits : List Edit) : Image :=
  edits.foldl (fun m e => (m.set e.index e.unit).value) m

theorem setAll_cons (m : Image) (e : Edit) (edits : List Edit) :
    m.setAll (e :: edits) = (m.set e.index e.unit).value.setAll edits := rfl

theorem setAll_append (m : Image) (before after : List Edit) :
    m.setAll (before ++ after) = (m.setAll before).setAll after :=
  List.foldl_append

theorem setAll_induction {p : Image → Prop} (start : p m)
    (step : ∀ (n : Image) (e : Edit), p n → p (n.set e.index e.unit).value) (edits : List Edit) :
    p (m.setAll edits) := by
  induction edits generalizing m with
  | nil => exact start
  | cons e edits ih => exact ih (step m e start)

theorem length_setAll (m : Image) (edits : List Edit) : (m.setAll edits).length = m.length :=
  setAll_induction (p := fun n => n.length = m.length) rfl
    (fun n e h => (n.length_set e.index e.unit).trans h) edits

theorem count_setAll (m : Image) (edits : List Edit) : (m.setAll edits).count = m.count :=
  setAll_induction (p := fun n => n.count = m.count) rfl
    (fun n e h => (n.count_set e.index e.unit).trans h) edits

theorem tag_setAll (m : Image) (edits : List Edit) : (m.setAll edits).tag = m.tag :=
  setAll_induction (p := fun n => n.tag = m.tag) rfl
    (fun n e h => (n.tag_set e.index e.unit).trans h) edits

theorem Valid.setAll (h : m.Valid) (edits : List Edit) : (m.setAll edits).Valid :=
  setAll_induction (p := Valid) h (fun _ e hn => hn.set e.index e.unit) edits

theorem value_writeAll (length : Int32) (m : Image) (edits : List Edit) :
    (m.writeAll length edits).value = (m.setAll edits, edits.map fun e =>
      ⟨e.index, e.unit, decide (0 ≤ e.index ∧ e.index < length)⟩) := by
  induction edits generalizing m with
  | nil => rfl
  | cons e edits ih =>
      rw [writeAll, Logged.value_bind, Logged.value_bind, ih]
      rfl

theorem log_writeAll (length : Int32) (m : Image) (edits : List Edit) :
    (m.writeAll length edits).log =
      (edits.filter fun e => !decide (0 ≤ e.index ∧ e.index < m.length)).map
        fun e => .writeOutside e.index m.length := by
  induction edits generalizing m with
  | nil => rfl
  | cons e edits ih =>
      rw [writeAll, Logged.log_bind, Logged.log_bind, Logged.log_pure, List.append_nil, ih,
        length_set, log_set]
      simp only [shows_iff, List.filter_cons]
      by_cases he : 0 ≤ e.index ∧ e.index < m.length
      · simp [he]
      · simp [he]

theorem value_readAll (m : Image) (reads : List Int32) :
    (m.readAll reads).value = reads.map fun i => ⟨i, (m.get i).value⟩ := by
  induction reads with
  | nil => rfl
  | cons i reads ih =>
      rw [readAll, Logged.value_bind, Logged.value_bind, ih]
      rfl

theorem log_readAll (m : Image) (reads : List Int32) :
    (m.readAll reads).log =
      (reads.filter fun i => !decide (0 ≤ i ∧ i < m.length)).map (.readOutside · m.length) := by
  induction reads with
  | nil => rfl
  | cons i reads ih =>
      rw [readAll, Logged.log_bind, Logged.log_bind, Logged.log_pure, List.append_nil, ih, log_get]
      simp only [shows_iff, List.filter_cons]
      by_cases hi : 0 ≤ i ∧ i < m.length
      · simp [hi]
      · simp [hi]

/-- The call puts the unit where its index says and tells nothing. -/
def Stores (m : Image) (e : Edit) : Prop :=
  ∃ k < m.count, e.index.toInt = k ∧ (m.set e.index e.unit).value = m.putUnit k e.unit ∧
    (m.set e.index e.unit).value.unitAt k = e.unit ∧ (m.set e.index e.unit).log = []

/-- The call leaves every byte alone and tells that it was outside. -/
def Skips (m : Image) (e : Edit) : Prop :=
  (m.set e.index e.unit).value.bytes = m.bytes ∧
    (m.set e.index e.unit).log = [.writeOutside e.index m.length]

theorem Valid.stores_iff (h : m.Valid) (e : Edit) :
    m.Stores e ↔ 0 ≤ e.index ∧ e.index < m.length := by
  rw [← shows_iff]
  constructor
  · rintro ⟨k, -, -, -, -, hl⟩
    refine Decidable.byContradiction fun hs => ?_
    rw [log_set, if_neg hs] at hl
    cases hl
  · intro hs
    have hk := lt_count h.wellFormed hs
    have hv : (m.set e.index e.unit).value = m.putUnit e.index.toNatClampNeg e.unit := by
      rw [set_eq, if_pos hs]
    refine ⟨e.index.toNatClampNeg, hk, (Int.toNat_of_nonneg hs.1).symm, hv, ?_, ?_⟩
    · rw [hv, unitAt_putUnit h.fits hk, if_pos rfl]
    · rw [log_set, if_pos hs]

theorem skips_iff (m : Image) (e : Edit) :
    m.Skips e ↔ ¬ (0 ≤ e.index ∧ e.index < m.length) := by
  rw [← shows_iff]
  constructor
  · rintro ⟨-, hl⟩ hs
    rw [log_set, if_pos hs] at hl
    cases hl
  · intro hs
    exact ⟨by rw [set_eq, if_neg hs], by rw [log_set, if_neg hs]⟩

/-- A report that tells exactly what the calls behind it did, in the order of the edits and of the
reads, with the length that `m` had before the first of them. -/
structure Reports (m : Image) (edits : List Edit) (reads : List Int32)
    (result : Logged (Image × Report)) : Prop where
  image : result.value.1 = m.setAll edits
  writes : result.value.2.writes.map (fun w => (w.index, w.unit)) =
    edits.map fun e => (e.index, e.unit)
  applied : ∀ (k : Nat) (e : Edit) (w : Write), edits[k]? = some e →
    result.value.2.writes[k]? = some w →
      (w.applied = true ↔ (m.setAll (edits.take k)).Stores e) ∧
      (w.applied = false ↔ (m.setAll (edits.take k)).Skips e)
  indices : result.value.2.reads.map Read.index = reads
  found : ∀ r ∈ result.value.2.reads,
    if 0 ≤ r.index ∧ r.index < m.length
    then result.value.2.units[r.index.toInt.toNat]? = some r.unit else r.unit = 0
  length : result.value.2.length = m.length
  units : (result.value.2.units.length : Int) = max m.length.toInt 0
  occupied : result.value.2.occupied = 12 + 2 * m.count
  occupied_fresh : m.length.toInt = m.count →
    (result.value.2.occupied : Int) = 12 + 2 * result.value.2.length.toInt
  log : result.log =
    ((result.value.2.writes.filter fun w => !w.applied).map fun w =>
      .writeOutside w.index m.length) ++
    (reads.filter fun i => !decide (0 ≤ i ∧ i < m.length)).map fun i => .readOutside i m.length
  level : ∀ e ∈ result.log, e.level = .trace

theorem value_apply (m : Image) (edits : List Edit) (reads : List Int32) :
    (m.apply edits reads).value = (m.setAll edits,
      ⟨(m.setAll edits).length, (m.setAll edits).occupied, (m.setAll edits).units,
        edits.map fun e => ⟨e.index, e.unit, decide (0 ≤ e.index ∧ e.index < m.length)⟩,
        reads.map fun i => ⟨i, ((m.setAll edits).get i).value⟩⟩) := by
  simp only [apply, Logged.value_bind, Logged.value_pure, value_writeAll, value_readAll]

theorem log_apply (m : Image) (edits : List Edit) (reads : List Int32) :
    (m.apply edits reads).log =
      ((edits.filter fun e => !decide (0 ≤ e.index ∧ e.index < m.length)).map fun e =>
        .writeOutside e.index m.length) ++
      (reads.filter fun i => !decide (0 ≤ i ∧ i < m.length)).map fun i =>
        .readOutside i m.length := by
  simp only [apply, Logged.log_bind, Logged.log_pure, log_writeAll, value_writeAll, log_readAll,
    List.append_nil, length_setAll]

theorem occupied_apply (m : Image) (edits : List Edit) (reads : List Int32) :
    (m.apply edits reads).value.2.occupied = 12 + 2 * m.count := by
  rw [value_apply]
  simp only [Image.occupied, count_setAll]
  rfl

theorem length_apply (m : Image) (edits : List Edit) (reads : List Int32) :
    (m.apply edits reads).value.2.length = m.length := by
  rw [value_apply]
  exact length_setAll m edits

/-- The test of the report and the gate of each call never disagree, whatever the edits before. -/
theorem apply_reports (h : m.Valid) (edits : List Edit) (reads : List Int32) :
    m.Reports edits reads (m.apply edits reads) where
  image := by rw [value_apply]
  writes := by
    rw [value_apply, List.map_map]
    rfl
  applied := by
    intro k e w he hw
    rw [value_apply, List.getElem?_map, he, Option.map_some, Option.some.injEq] at hw
    subst hw
    rw [(h.setAll _).stores_iff, skips_iff, length_setAll, decide_eq_true_eq,
      decide_eq_false_iff_not]
    exact ⟨Iff.rfl, Iff.rfl⟩
  indices := by
    rw [value_apply, List.map_map]
    exact List.map_id reads
  found := by
    intro r hr
    rw [value_apply] at hr ⊢
    obtain ⟨i, -, rfl⟩ := List.mem_map.1 hr
    dsimp only
    rw [← length_setAll m edits]
    by_cases hi : 0 ≤ i ∧ i < (m.setAll edits).length
    · rw [if_pos hi]
      exact (h.setAll edits).getElem?_units ((shows_iff _ i).2 hi)
    · rw [if_neg hi]
      exact value_get_of_not_shows _ fun hc => hi ((shows_iff _ i).1 hc)
  length := length_apply m edits reads
  units := by
    rw [value_apply]
    dsimp only
    rw [length_units, length_setAll]
  occupied := occupied_apply m edits reads
  occupied_fresh := by
    intro hc
    rw [occupied_apply, length_apply, hc]
    rfl
  log := by
    rw [log_apply, value_apply, List.filter_map, List.map_map]
    rfl
  level := by
    intro e he
    rw [log_apply, List.mem_append, List.mem_map, List.mem_map] at he
    obtain ⟨_, -, rfl⟩ | ⟨_, -, rfl⟩ := he
    · rfl
    · rfl

/-- A header that hides the last of three units, with edits on either side of what it shows. -/
theorem apply_reports_hidden :
    let m := (build 7 [0x41, 0x42, 0x43]).setLength 2
    let edits : List Edit := [⟨1, 0x58⟩, ⟨2, 0x59⟩, ⟨-1, 0x5A⟩]
    let result := m.apply edits [0, 2]
    m.Valid ∧ m.Reports edits [0, 2] result ∧ result.value.2.length = 2 ∧
      result.value.2.occupied = 18 ∧
      result.log = [.writeOutside 2 2, .writeOutside (-1) 2, .readOutside 2 2] := by
  intro m edits result
  have hb : (build 7 [0x41, 0x42, 0x43]).Valid := valid_build 7 (by decide)
  have hv : m.Valid := hb.setLength (by decide)
  have hl : m.length = 2 := length_setLength hb.fits 2
  have hr := apply_reports hv edits [0, 2]
  refine ⟨hv, hr, hr.length.trans hl, hr.occupied, ?_⟩
  rw [log_apply, hl]
  rfl

end Interop.Managed.Image
