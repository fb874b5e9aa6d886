import Interop.Sections.Provider
import Mathlib.Tactic.TFAE

namespace Interop.Sections

theorem toList_misordered (m n : Nat) :
    ("section markers misordered: start " ++ Text.address m ++ " is past end " ++
      Text.address n).toList =
      ("section markers misordered: start 0x" ++ Text.hex m ++ " is past end 0x" ++
        Text.hex n).toList := by
  simp [Text.address]

theorem Misordered.message_eq (e : Misordered) :
    e.message = "section markers misordered: start 0x" ++ Text.hex e.start.toNat ++
      " is past end 0x" ++ Text.hex e.stop.toNat :=
  String.toList_inj.1 (toList_misordered e.start.toNat e.stop.toNat)

namespace Extent

variable {m : Markers}

theorem ofMarkers_ok_iff : (∃ e, ofMarkers m = .ok e) ↔ m.start ≤ m.stop := by
  by_cases h : m.start ≤ m.stop
  · exact iff_of_true ⟨_, ofMarkers_of_le h⟩ h
  · refine iff_of_false ?_ h
    rintro ⟨e, he⟩
    rw [ofMarkers_of_not_le h] at he
    cases he

theorem toNat_add_size (h : m.start ≤ m.stop) :
    m.start.toNat + (m.stop - m.start).toNat = m.stop.toNat := by
  have hle := UInt64.le_iff_toNat_le.1 h
  rw [UInt64.toNat_sub_of_le _ _ h]
  omega

theorem isEmpty_iff (h : m.start ≤ m.stop) :
    isEmpty ⟨m.start, m.stop - m.start⟩ = true ↔ m.start = m.stop := by
  have hsize := toNat_add_size h
  change (m.stop - m.start == 0) = true ↔ _
  rw [beq_iff_eq, ← UInt64.toNat_inj, ← UInt64.toNat_inj, UInt64.toNat_zero]
  omega

end Extent

namespace Section

def announced (s : Section) : List Event :=
  match Extent.ofMarkers s.markers with
  | .ok e => [.resolved s.name e.start e.size]
  | .error _ => []

theorem resolve?_eq (s : Section) : s.resolve? = ⟨Extent.ofMarkers s.markers, s.announced⟩ := by
  rw [resolve?, announced]
  cases Extent.ofMarkers s.markers <;> rfl

theorem resolve_eq (s : Section) :
    s.resolve = ⟨(Extent.ofMarkers s.markers).mapError (Unresolvable.mk s.name), s.announced⟩ := by
  rw [resolve, resolve?_eq, announced]
  cases Extent.ofMarkers s.markers <;> rfl

theorem bytes_eq (s : Section) (memory : Region) :
    s.bytes memory = ⟨(Extent.ofMarkers s.markers).map memory.read, s.announced⟩ := by
  rw [bytes, resolve?_eq, announced]
  cases Extent.ofMarkers s.markers <;> rfl

variable {s : Section}

theorem announced_of_not_le (h : ¬ s.markers.start ≤ s.markers.stop) : s.announced = [] := by
  rw [announced, Extent.ofMarkers_of_not_le h]

theorem resolve_of_le (h : s.markers.start ≤ s.markers.stop) :
    s.resolve = ⟨.ok ⟨s.markers.start, s.markers.stop - s.markers.start⟩, s.announced⟩ := by
  rw [resolve_eq, Extent.ofMarkers_of_le h]
  rfl

theorem resolve_of_not_le (h : ¬ s.markers.start ≤ s.markers.stop) :
    s.resolve = pure (.error ⟨s.name, ⟨s.markers.start, s.markers.stop⟩⟩) := by
  rw [resolve_eq, Extent.ofMarkers_of_not_le h, announced_of_not_le h]
  rfl

end Section

open Extent

/-- All ways to resolve a section draw the same line. On this side of it they give the extent whose
end is the second marker, and whose markers give it back. On the far side they give the two markers
as they are, whatever the memory holds, log nothing, and where nobody can go on the section's name
is added. -/
theorem resolution_agrees {α : Type} [Provider α] (p : α) :
    let m := Provider.markers p
    let s := Section.ofProvider p
    [m.start ≤ m.stop, m.ordered = true, ∃ e, ofMarkers m = .ok e, ∃ e, s.resolve?.value = .ok e,
      ∃ e, s.resolve.value = .ok e].TFAE ∧
    (m.start ≤ m.stop → ∃ e : Extent, ofMarkers m = .ok e ∧ s.resolve?.value = .ok e ∧
      s.resolve.value = .ok e ∧ e.start = m.start ∧
      e.size.toNat = m.stop.toNat - m.start.toNat ∧
      e.start.toNat + e.size.toNat < UInt64.size ∧ e.stop = m.stop ∧
      (e.isEmpty = true ↔ m.start = m.stop) ∧ ofMarkers ⟨e.start, e.stop⟩ = .ok e) ∧
    (¬ m.start ≤ m.stop →
      let refusal : Misordered := ⟨m.start, m.stop⟩
      ofMarkers m = .error refusal ∧ s.resolve? = pure (.error refusal) ∧
      (∀ memory, s.bytes memory = pure (.error refusal)) ∧
      s.resolve = pure (.error ⟨Provider.name p, refusal⟩) ∧
      refusal.message = "section markers misordered: start 0x" ++ Text.hex m.start.toNat ++
        " is past end 0x" ++ Text.hex m.stop.toNat ∧
      (⟨Provider.name p, refusal⟩ : Unresolvable).message =
        "section `" ++ Provider.name p ++ "`: " ++ refusal.message ++
          " (build step must place the start marker before the end marker)") := by
  intro m s
  have hresolve? : s.resolve?.value = ofMarkers m := congrArg Logged.value s.resolve?_eq
  have hresolve : s.resolve.value = (ofMarkers m).mapError (Unresolvable.mk s.name) :=
    congrArg Logged.value s.resolve_eq
  refine ⟨?_, fun h => ?_, fun h => ?_⟩
  · tfae_have 1 ↔ 2 := decide_eq_true_iff.symm
    tfae_have 3 ↔ 1 := ofMarkers_ok_iff
    tfae_have 4 ↔ 3 := by rw [hresolve?]
    tfae_have 5 ↔ 3 := by
      rw [hresolve]
      cases ofMarkers m with
      | error e => exact iff_of_false nofun nofun
      | ok e => exact iff_of_true ⟨e, rfl⟩ ⟨e, rfl⟩
    tfae_finish
  · have hm := ofMarkers_of_le h
    have hback := markers_of_ofMarkers hm
    refine ⟨_, hm, hresolve?.trans hm, ?_, rfl, UInt64.toNat_sub_of_le _ _ h, ?_,
      congrArg Markers.stop hback, isEmpty_iff h, ?_⟩
    · rw [hresolve, hm]
      rfl
    · rw [toNat_add_size h]
      exact m.stop.toNat_lt
    · exact (congrArg ofMarkers hback).trans hm
  · have hm := ofMarkers_of_not_le h
    have hlog : s.announced = [] := by
      rw [Section.announced, show ofMarkers s.markers = _ from hm]
    refine ⟨hm, ?_, fun memory => ?_, ?_, Misordered.message_eq _, rfl⟩
    · rw [s.resolve?_eq, hlog, show ofMarkers s.markers = _ from hm]
      rfl
    · rw [s.bytes_eq, hlog, show ofMarkers s.markers = _ from hm]
      rfl
    · rw [s.resolve_eq, hlog, show ofMarkers s.markers = _ from hm]
      rfl

/-- Markers at the top of the address space, and the same two the other way round. -/
theorem resolution_agrees_top :
    let high : Linked := ⟨"high", fun _ => ⟨0xFFFFFFFFFFFFFFF0, 0xFFFFFFFFFFFFFFFF⟩⟩
    let turned : Linked := ⟨"turned", fun _ => ⟨0xFFFFFFFFFFFFFFFF, 0⟩⟩
    (∃ e : Extent, (Section.ofProvider high).resolve.value = .ok e ∧ e.size.toNat = 15) ∧
      (Section.ofProvider turned).resolve =
        pure (.error ⟨"turned", ⟨0xFFFFFFFFFFFFFFFF, 0⟩⟩) := by
  intro high turned
  obtain ⟨-, hordered, -⟩ := resolution_agrees high
  obtain ⟨-, -, hturned⟩ := resolution_agrees turned
  have hle : (0xFFFFFFFFFFFFFFF0 : UInt64) ≤ 0xFFFFFFFFFFFFFFFF := by decide
  have hnot : ¬ (0xFFFFFFFFFFFFFFFF : UInt64) ≤ 0 := by decide
  obtain ⟨e, -, -, he, -, hsize, -⟩ := hordered hle
  have hwidth : (0xFFFFFFFFFFFFFFFF : UInt64).toNat - (0xFFFFFFFFFFFFFFF0 : UInt64).toNat = 15 := by
    decide
  exact ⟨⟨e, he, hsize.trans hwidth⟩, (hturned hnot).2.2.2.1⟩

end Interop.Sections
