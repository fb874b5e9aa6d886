import Mathlib.Data.List.Forall2
import Interop.Drawing
import Interop.Proofs.Managed.Hidden

namespace Interop

namespace Managed.Image

open Layout

variable {m n : Image}

theorem getD_units_model {j : Nat} (hj : j < m.count) : m.model.units.getD j 0 = m.unitAt j := by
  simp [model, hj]

theorem Valid.unitOffset_visible_le (h : m.Valid) : unitOffset m.visible ≤ m.storage.size := by
  have ho := h.fits.occupied_le
  have hv := h.visible_le
  simp only [occupied, Layout.occupied, unitsOffset, unitSize] at ho
  simp only [unitOffset, unitsOffset, unitSize]
  omega

theorem sameView_of_bytes {s t : Storage}
    (h : ∀ i < unitOffset (visible ⟨s, 0⟩), s.byte i = t.byte i) : SameView ⟨s, 0⟩ ⟨t, 0⟩ where
  count := rfl
  length := by
    refine congrArg (fun k => (UInt32.ofNat k).toInt32) (Storage.load_congr fun i _ hi => h i ?_)
    simp only [lengthOffset, lengthSize] at hi
    simp only [unitOffset, unitsOffset]
    omega
  unitAt := by
    intro j hj
    refine congrArg UInt16.ofNat (Storage.load_congr fun i _ hi => h i ?_)
    simp only [unitOffset, unitsOffset, unitSize] at hi ⊢
    omega

end Managed.Image

namespace Drawing

open Managed Layout

/-- What a string shows under a header of some length, after edits that its own header let
through. -/
def drawn (a : Model) (edits : List Edit) (length : Int32) : List UInt16 :=
  (List.range length.toNatClampNeg).map fun j =>
    if j < a.length.toNatClampNeg then ((Edit.last? edits j).map Edit.unit).getD (a.units.getD j 0)
    else a.units.getD j 0

def greetingBytes : List UInt8 :=
  [0x48, 0x65, 0x6C, 0x6C, 0x6F, 0x20, 0x57, 0x6F, 0x72, 0x6C, 0x64]

theorem beforeZero_greeting : beforeZero greeting.toUTF8.toList = greetingBytes := by
  decide +kernel

namespace Step

def calls : Step → List Call
  | .clear color => [.clear color]
  | .char unit x y color => [.char unit x y color]
  | .unitOf image index x y color => [.char (image.model.get index) x y color]
  | .managed image edits length x y color =>
    [.managed (drawn image.model edits (length.getD image.length)) x y color]
  | .unmanaged bytes x y color => [.unmanaged (bytes.take (bytes.idxOf 0)) x y color]
  | .greeting | .exported => [.clear 0x000000, .unmanaged greetingBytes 10 10 0xFFFFFF]

/-- No header is put above the units that there are. -/
def Allowed : Step → Prop
  | .unitOf image .. => image.Valid
  | .managed image _ length .. => image.Valid ∧ ∀ n ∈ length, n.toInt ≤ image.count
  | .clear .. | .char .. | .unmanaged .. | .greeting | .exported => True

end Step

theorem units_managed {m : Image} (h : m.Valid) (edits : List Edit) {length : Option Int32}
    (hl : ∀ n ∈ length, n.toInt ≤ m.count) :
    (length.elim (m.setAll edits) (m.setAll edits).setLength).units =
      drawn m.model edits (length.getD m.length) := by
  have hshow {n : Image} (hu : n.unitAt = (m.setAll edits).unitAt)
      (hn : n.length.toInt ≤ m.count) : n.units = drawn m.model edits n.length := by
    rw [Image.units_eq_range, hu, drawn]
    apply List.map_congr_left
    intro j hj
    have hj : j < n.visible := List.mem_range.1 hj
    have hv := n.toInt_visible
    rw [h.unitAt_setAll, Image.getD_units_model (by omega)]
    rfl
  cases length with
  | none =>
      have hk := m.length_setAll edits
      have hs := hshow (n := m.setAll edits) rfl (by rw [hk]; exact h.length_le)
      rwa [hk] at hs
  | some k =>
      have hk := Image.length_setLength (h.setAll edits).fits k
      have hs := hshow (funext ((m.setAll edits).unitAt_setLength k)) (by rw [hk]; exact hl k rfl)
      rwa [hk] at hs

theorem valid_managed {m : Image} (h : m.Valid) (edits : List Edit) {length : Option Int32}
    (hl : ∀ n ∈ length, n.toInt ≤ m.count) :
    (length.elim (m.setAll edits) (m.setAll edits).setLength).Valid := by
  cases length with
  | none => exact h.setAll edits
  | some k =>
      refine (h.setAll edits).setLength ?_
      rw [Image.count_setAll]
      exact hl k rfl

theorem beforeZero_cons (b : UInt8) (bytes : List UInt8) :
    beforeZero (b :: bytes) = if b = 0 then [] else b :: beforeZero bytes := by
  rw [beforeZero, List.takeWhile_cons]
  by_cases hb : b = 0 <;> simp [hb, beforeZero]

theorem beforeZero_eq_take (bytes : List UInt8) :
    beforeZero bytes = bytes.take (bytes.idxOf 0) := by
  induction bytes with
  | nil => rfl
  | cons b bytes ih =>
      rw [beforeZero_cons, List.idxOf_cons]
      by_cases hb : b = 0
      · simp [hb]
      · rw [if_neg hb, ih, beq_eq_false_iff_ne.2 hb]
        rfl

theorem beforeZero_append {bytes : List UInt8} (h : 0 ∈ bytes) (behind : List UInt8) :
    beforeZero (bytes ++ behind) = beforeZero bytes := by
  induction bytes with
  | nil => cases h
  | cons b bytes ih =>
      rw [List.cons_append, beforeZero_cons, beforeZero_cons]
      by_cases hb : b = 0
      · rw [if_pos hb, if_pos hb]
      · have h0 : 0 ∈ bytes := (List.mem_cons.1 h).resolve_left (Ne.symm hb)
        rw [if_neg hb, if_neg hb, ih h0]

theorem beforeZero_terminated (bytes : List UInt8) :
    beforeZero (beforeZero bytes ++ [0]) = beforeZero bytes := by
  induction bytes with
  | nil => rfl
  | cons b bytes ih =>
      by_cases hb : b = 0
      · rw [beforeZero_cons, if_pos hb]
        rfl
      · rw [beforeZero_cons, if_neg hb, List.cons_append, beforeZero_cons, if_neg hb, ih]

namespace Message

/-- Wherever the receiver stops, it is still inside the memory. -/
def Bounded : Message → Prop
  | .managed memory .. => unitOffset (Image.visible ⟨memory, 0⟩) ≤ memory.size
  | .unmanaged memory .. => 0 ∈ memory
  | .clear _ | .char .. => True

/-- The same message to a receiver that has other bytes behind those that it is to read. -/
inductive Beside : Message → Message → Prop
  | clear (color : UInt32) : Beside (.clear color) (.clear color)
  | char (unit : UInt16) (x y : Int32) (color : UInt32) :
      Beside (.char unit x y color) (.char unit x y color)
  | managed {memory other : Storage}
      (h : ∀ i < unitOffset (Image.visible ⟨memory, 0⟩), memory.byte i = other.byte i)
      (x y : Int32) (color : UInt32) :
      Beside (.managed memory x y color) (.managed other x y color)
  | unmanaged (memory behind : List UInt8) (x y : Int32) (color : UInt32) :
      Beside (.unmanaged memory x y color) (.unmanaged (memory ++ behind) x y color)

theorem Beside.receive {sent seen : Message} (h : Beside sent seen) (hb : sent.Bounded) :
    seen.receive = sent.receive := by
  cases h with
  | clear | char => rfl
  | managed h x y color =>
      rw [Message.receive, Message.receive, (Image.sameView_of_bytes h).units]
  | unmanaged memory behind x y color =>
      rw [Message.receive, Message.receive, beforeZero_append hb]

theorem receive_beside {sent seen : List Message} (h : List.Forall₂ Beside sent seen)
    (hb : ∀ m ∈ sent, m.Bounded) : seen.map receive = sent.map receive := by
  induction h with
  | nil => rfl
  | cons h _ ih =>
      obtain ⟨hm, hs⟩ := List.forall_mem_cons.1 hb
      rw [List.map_cons, List.map_cons, h.receive hm, ih hs]

end Message

theorem log_perform {σ τ : Type} (s : Side σ) (t : Side τ) (state : σ) (other : τ)
    (step : Step) : (s.perform state step).log = (t.perform other step).log := by
  cases step with
  | clear | char | unitOf | managed | unmanaged | greeting | exported => rfl

theorem greet_sender (sent : List Message) :
    sender.greet sent = sent ++ [.clear black, .unmanaged (greetingBytes ++ [0]) 10 10 white] := by
  rw [← beforeZero_greeting]
  exact List.append_assoc sent _ _

theorem perform_direct {step : Step} (h : step.Allowed) (calls : List Call) :
    (direct.perform calls step).value = calls ++ step.calls := by
  cases step with
  | clear | char => rfl
  | unitOf image index x y color =>
      rw [Step.calls, ← Image.value_get (Image.Valid.wellFormed h)]
      rfl
  | managed image edits length x y color =>
      rw [Step.calls, ← units_managed h.1 edits h.2, Side.perform, Logged.value_bind,
        Image.value_writeAll]
      rfl
  | unmanaged bytes x y color =>
      rw [Step.calls, ← beforeZero_eq_take]
      rfl
  | greeting =>
      rw [Step.calls, ← beforeZero_greeting]
      exact List.append_assoc calls _ _
  | exported =>
      change calls ++ (sender.greet []).map Message.receive = _
      rw [greet_sender]
      rfl

theorem perform_across {step : Step} (h : step.Allowed) (sent : List Message) :
    ∃ messages, (across.perform sent step).value = sent ++ messages ∧
      messages.map Message.receive = step.calls ∧ ∀ m ∈ messages, m.Bounded := by
  cases step with
  | clear color => exact ⟨[.clear color], rfl, rfl, by simp [Message.Bounded]⟩
  | char unit x y color => exact ⟨[.char unit x y color], rfl, rfl, by simp [Message.Bounded]⟩
  | unitOf image index x y color =>
      refine ⟨[.char (image.model.get index) x y color], ?_, rfl, by simp [Message.Bounded]⟩
      rw [← Image.value_get (Image.Valid.wellFormed h)]
      rfl
  | managed image edits length x y color =>
      have hv := valid_managed h.1 edits h.2
      refine ⟨[.managed (length.elim (image.setAll edits) (image.setAll edits).setLength).storage
        x y color], ?_, ?_, ?_⟩
      · rw [Side.perform, Logged.value_bind, Image.value_writeAll]
        rfl
      · rw [Step.calls, ← units_managed h.1 edits h.2]
        rfl
      · exact List.forall_mem_singleton.2 hv.unitOffset_visible_le
  | unmanaged bytes x y color =>
      refine ⟨[.unmanaged (beforeZero bytes ++ [0]) x y color], rfl, ?_, ?_⟩
      · rw [Step.calls, ← beforeZero_eq_take, List.map_singleton, Message.receive,
          beforeZero_terminated]
      · simp [Message.Bounded]
  | greeting =>
      exact ⟨[.clear black, .unmanaged (greetingBytes ++ [0]) 10 10 white], greet_sender sent, rfl,
        by simp [Message.Bounded]⟩
  | exported =>
      exact ⟨[.clear black, .unmanaged (greetingBytes ++ [0]) 10 10 white],
        congrArg (sent ++ ·) (greet_sender []), rfl, by simp [Message.Bounded]⟩

theorem performAll_direct {steps : List Step} (h : ∀ s ∈ steps, s.Allowed) (calls : List Call) :
    (direct.performAll calls steps).value = calls ++ steps.flatMap Step.calls := by
  induction steps generalizing calls with
  | nil => exact (List.append_nil calls).symm
  | cons step steps ih =>
      obtain ⟨hstep, hsteps⟩ := List.forall_mem_cons.1 h
      rw [Side.performAll, Logged.value_bind, perform_direct hstep, ih hsteps,
        List.append_assoc, List.flatMap_cons]

theorem performAll_across {steps : List Step} (h : ∀ s ∈ steps, s.Allowed)
    (sent : List Message) :
    ∃ messages, (across.performAll sent steps).value = sent ++ messages ∧
      messages.map Message.receive = steps.flatMap Step.calls ∧ ∀ m ∈ messages, m.Bounded := by
  induction steps generalizing sent with
  | nil => exact ⟨[], (List.append_nil sent).symm, rfl, List.forall_mem_nil _⟩
  | cons step steps ih =>
      obtain ⟨hstep, hsteps⟩ := List.forall_mem_cons.1 h
      obtain ⟨first, hfirst, hcalls, hbound⟩ := perform_across hstep sent
      obtain ⟨rest, hrest, hcalls', hbound'⟩ := ih hsteps (sent ++ first)
      refine ⟨first ++ rest, ?_, ?_, ?_⟩
      · rw [Side.performAll, Logged.value_bind, hfirst, hrest, List.append_assoc]
      · rw [List.map_append, hcalls, hcalls', List.flatMap_cons]
      · exact List.forall_mem_append.2 ⟨hbound, hbound'⟩

theorem log_performAll {σ τ : Type} (s : Side σ) (t : Side τ) (state : σ) (other : τ)
    (steps : List Step) : (s.performAll state steps).log = (t.performAll other steps).log := by
  induction steps generalizing state other with
  | nil => rfl
  | cons step steps ih =>
      rw [Side.performAll, Side.performAll, Logged.log_bind, Logged.log_bind,
        log_perform s t state other, ih]

/-- What is drawn across the boundary arrives as it arrives where nothing is crossed: the same calls
with the same arguments, and the same record of them. A managed string arrives as the units that its
header shows, edited, and other text up to the first zero byte. Whatever else lies in memory behind
them, the receiver reads none of it. -/
theorem crossing_delivers {steps : List Step} (h : ∀ s ∈ steps, s.Allowed) :
    let drawn := direct.performAll [] steps
    let sent := across.performAll [] steps
    drawn.value = steps.flatMap Step.calls ∧
    sent.value.map Message.receive = drawn.value ∧
    sent.log = drawn.log ∧
    (∀ m ∈ sent.value, m.Bounded) ∧
    (∀ seen, List.Forall₂ Message.Beside sent.value seen →
      seen.map Message.receive = drawn.value) ∧
    (exportedGreeting sent.value).map Message.receive = recorder.greet drawn.value := by
  intro drawn sent
  obtain ⟨messages, hacross, hcalls, hbound⟩ := performAll_across h []
  have hmessages : sent.value = messages := hacross
  have hdirect : drawn.value = steps.flatMap Step.calls := performAll_direct h []
  have hreceive : sent.value.map Message.receive = drawn.value := by
    rw [hmessages, hcalls, hdirect]
  have hbounded : ∀ m ∈ sent.value, m.Bounded := hmessages ▸ hbound
  refine ⟨hdirect, hreceive, log_performAll .., hbounded, fun seen hseen => ?_, ?_⟩
  · rw [Message.receive_beside hseen hbounded, hreceive]
  · have hallowed : Step.greeting.Allowed := trivial
    have hgreet : recorder.greet drawn.value = drawn.value ++ Step.greeting.calls :=
      perform_direct hallowed drawn.value
    rw [exportedGreeting, greet_sender, List.map_append, hreceive, hgreet]
    rfl

/-- Edits under a header that then shows one unit, or none, a read outside, and text with a zero
byte in it. -/
theorem crossing_delivers_hidden :
    let image := Image.build 7 [0x41, 0x42, 0x43]
    let edits : List Edit := [⟨2, 0x58⟩, ⟨3, 0x59⟩, ⟨0, 0x5A⟩]
    let steps : List Step := [.managed image edits (some 1) 0 20 white,
      .managed image edits (some (-1)) 0 40 white, .unitOf image (-1) 4 4 black,
      .unmanaged [0x48, 0, 0x49] 8 8 white, .exported]
    (across.performAll [] steps).value.map Message.receive =
      [.managed [0x5A] 0 20 white, .managed [] 0 40 white, .char 0 4 4 black,
        .unmanaged [0x48] 8 8 white, .clear black, .unmanaged greetingBytes 10 10 white] := by
  intro image edits steps
  have hv : image.Valid := Image.valid_build 7 (by decide)
  have hone : ∀ n ∈ some (1 : Int32), n.toInt ≤ image.count := by
    rintro n ⟨⟩
    decide
  have hnone : ∀ n ∈ some (-1 : Int32), n.toInt ≤ image.count := by
    rintro n ⟨⟩
    decide
  have h : ∀ s ∈ steps, s.Allowed := by
    simp only [steps, List.forall_mem_cons]
    exact ⟨⟨hv, hone⟩, ⟨hv, hnone⟩, hv, trivial, trivial, List.forall_mem_nil _⟩
  obtain ⟨hdirect, hreceive, -⟩ := crossing_delivers h
  exact (hreceive.trans hdirect).trans (by decide +kernel)

end Drawing

end Interop
