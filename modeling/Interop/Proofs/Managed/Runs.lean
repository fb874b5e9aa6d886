import Interop.Proofs.Managed.Valid

namespace Interop.Managed.Pool

open Layout

/-- A step of a run over a growing list of images, each named by its place in the list. -/
inductive Step
  | build (tag : UInt64) (units : List UInt16)
  | clone (place : Nat)
  | write (path : WritePath) (place : Nat) (i : Int32) (u : UInt16)
  | setLength (place : Nat) (length : Int32)
deriving DecidableEq, Repr

namespace Step

def perform (images : List Image) : Step → List Image
  | build tag units =>
      match Image.ofUnits tag units with
      | .ok m => images ++ [m]
      | .error _ => images
  | clone place => images ++ images[place]?.toList
  | write path place i u => images.modify place fun m => (m.writeBy path i u).value
  | setLength place length => images.modify place fun m => m.setLength length

/-- The same step over strings without memory, where no two strings share anything. -/
def performModel (models : List Model) : Step → List Model
  | build tag units =>
      if units.length ≤ maxLength then models ++ [⟨tag, Int32.ofNat units.length, units⟩]
      else models
  | clone place => models ++ models[place]?.toList
  | write _ place i u => models.modify place fun a => a.set i u
  | setLength place length => models.modify place fun a => a.setLength length

/-- An owner never lets a header show more units than there are. -/
def Allowed (models : List Model) : Step → Prop
  | setLength place length => ∀ a ∈ models[place]?, length.toInt ≤ a.units.length
  | build .. | clone _ | write .. => True

instance (models : List Model) (s : Step) : Decidable (s.Allowed models) := by
  cases s <;> unfold Allowed <;> infer_instance

/-- The only image whose memory the step may change. -/
def target : Step → Option Nat
  | write _ place _ _ | setLength place _ => some place
  | build .. | clone _ => none

end Step

def run (images : List Image) (steps : List Step) : List Image := steps.foldl Step.perform images

def runModel (models : List Model) (steps : List Step) : List Model :=
  steps.foldl Step.performModel models

def Admissible (models : List Model) : List Step → Prop
  | [] => True
  | s :: steps => s.Allowed models ∧ Admissible (s.performModel models) steps

instance decidableAdmissible (models : List Model) (steps : List Step) :
    Decidable (Admissible models steps) :=
  match steps with
  | [] => .isTrue trivial
  | s :: steps =>
      have := decidableAdmissible (s.performModel models) steps
      inferInstanceAs (Decidable (_ ∧ _))

theorem Admissible.of_append {models : List Model} {before after : List Step}
    (h : Admissible models (before ++ after)) : Admissible models before := by
  induction before generalizing models with
  | nil => trivial
  | cons s before ih => exact ⟨h.1, ih h.2⟩

/-- Each string is what the memory of the image at its place says. -/
structure Represents (images : List Image) (models : List Model) : Prop where
  models_eq : images.map Image.model = models
  valid : ∀ m ∈ images, m.Valid

variable {images : List Image} {models : List Model}

theorem Represents.append (h : Represents images models) {m : Image} (hm : m.Valid) :
    Represents (images ++ [m]) (models ++ [m.model]) where
  models_eq := by rw [List.map_append, h.models_eq, List.map_singleton]
  valid := by
    intro n hn
    rcases List.mem_append.1 hn with hn | hn
    · exact h.valid n hn
    · exact List.mem_singleton.1 hn ▸ hm

theorem Represents.getElem? (h : Represents images models) (place : Nat) :
    models[place]? = images[place]?.map Image.model := by
  rw [← h.models_eq, List.getElem?_map]

/-- Two functions that agree on the image at a place may be applied there on either side. -/
theorem Represents.modify (h : Represents images models) (place : Nat) (f : Image → Image)
    (g : Model → Model)
    (hf : ∀ m, images[place]? = some m → (f m).Valid ∧ (f m).model = g m.model) :
    Represents (images.modify place f) (models.modify place g) := by
  constructor
  · apply List.ext_getElem?
    intro i
    rw [List.getElem?_map]
    by_cases hi : place = i
    · subst hi
      rw [List.getElem?_modify_eq, List.getElem?_modify_eq, h.getElem?]
      cases hm : images[place]? with
      | none => rfl
      | some m => exact congrArg some (hf m hm).2
    · rw [List.getElem?_modify_ne _ _ hi, List.getElem?_modify_ne _ _ hi, h.getElem?]
  · intro n hn
    obtain ⟨i, hi⟩ := List.mem_iff_getElem?.1 hn
    by_cases hp : place = i
    · subst hp
      rw [List.getElem?_modify_eq, Option.map_eq_map, Option.map_eq_some_iff] at hi
      obtain ⟨m, hm, rfl⟩ := hi
      exact (hf m hm).1
    · rw [List.getElem?_modify_ne _ _ hp] at hi
      exact h.valid n (List.mem_of_getElem? hi)

theorem Represents.perform (h : Represents images models) {s : Step} (hs : s.Allowed models) :
    Represents (s.perform images) (s.performModel models) := by
  cases s with
  | build tag units =>
      by_cases hl : units.length ≤ maxLength
      · simp only [Step.perform, Image.ofUnits_of_le tag hl, Step.performModel, if_pos hl,
          ← Image.model_build tag units hl]
        exact h.append (Image.valid_build tag hl)
      · simp only [Step.perform, Image.ofUnits_of_lt tag (Nat.not_le.1 hl), Step.performModel,
          if_neg hl]
        exact h
  | clone place =>
      rw [Step.perform, Step.performModel, h.getElem?]
      cases hm : images[place]? with
      | none => simpa using h
      | some m => exact h.append (h.valid m (List.mem_of_getElem? hm))
  | write path place i u =>
      refine h.modify place _ _ fun m hm => ?_
      have hv := h.valid m (List.mem_of_getElem? hm)
      rw [Image.value_writeBy]
      exact ⟨hv.set i u, Image.model_set hv.fits hv.wellFormed i u⟩
  | setLength place length =>
      refine h.modify place _ _ fun m hm => ?_
      have hv := h.valid m (List.mem_of_getElem? hm)
      have hl := hs m.model (by rw [h.getElem?, hm]; rfl)
      rw [Image.length_units_model] at hl
      exact ⟨hv.setLength hl, Image.model_setLength hv.fits length⟩

theorem Represents.run (h : Represents images models) {steps : List Step}
    (hs : Admissible models steps) : Represents (run images steps) (runModel models steps) := by
  induction steps generalizing images models with
  | nil => exact h
  | cons s steps ih => exact ih (h.perform hs.1) hs.2

theorem represents_run {steps : List Step} (h : Admissible [] steps) :
    Represents (run [] steps) (runModel [] steps) :=
  Represents.run ⟨rfl, fun _ hm => absurd hm List.not_mem_nil⟩ h

theorem Represents.bytes (h : Represents images models) :
    images.map Image.bytes = models.map Model.bytes := by
  rw [← h.models_eq, List.map_map]
  exact List.map_congr_left fun m _ => m.bytes_eq

theorem getElem?_perform {place : Nat} {m : Image} (hm : images[place]? = some m) {s : Step}
    (hs : s.target ≠ some place) : (s.perform images)[place]? = some m := by
  have hl : place < images.length := (List.getElem?_eq_some_iff.1 hm).1
  cases s with
  | build tag units =>
      rw [Step.perform]
      cases Image.ofUnits tag units with
      | ok n => exact (List.getElem?_append_left hl).trans hm
      | error e => exact hm
  | clone source => exact (List.getElem?_append_left hl).trans hm
  | write path target i u | setLength target length =>
      have ht : target ≠ place := fun he => hs (congrArg some he)
      exact (List.getElem?_modify_ne _ _ ht).trans hm

/-- After every step of every run, the bytes of each image are those of its string, on which a step
acts without memory. No step changes the bytes of an image that it does not name, and whatever the
path of a read, it gives the unit of the string, or zero outside. -/
theorem run_refines {steps : List Step} (h : Admissible [] steps) {before : List Step}
    (hb : before <+: steps) :
    (run [] before).map Image.bytes = (runModel [] before).map Model.bytes ∧
    (∀ (place : Nat) (m : Image) (a : Model), (run [] before)[place]? = some m →
      (runModel [] before)[place]? = some a → ∀ (path : ReadPath) (i : Int32),
        if 0 ≤ i.toInt ∧ i.toInt < a.length.toInt
        then a.units[i.toInt.toNat]? = some (m.readBy path i).value
        else (m.readBy path i).value = 0) ∧
    (∀ s : Step, before ++ [s] <+: steps → ∀ (place : Nat) (m : Image),
      (run [] before)[place]? = some m → s.target ≠ some place →
        (run [] (before ++ [s]))[place]?.map Image.bytes = some m.bytes) := by
  obtain ⟨after, rfl⟩ := hb
  have hr := represents_run h.of_append
  refine ⟨hr.bytes, ?_, ?_⟩
  · intro place m a hm ha path i
    have hv := hr.valid m (List.mem_of_getElem? hm)
    have hma : m.model = a := by
      rw [hr.getElem?, hm] at ha
      exact Option.some.inj ha
    rw [Image.readBy_eq, Image.value_get hv.wellFormed, hma]
    by_cases hi : 0 ≤ i.toInt ∧ i.toInt < a.length.toInt
    · rw [if_pos hi]
      exact Model.getElem?_get (hma ▸ hv.wellFormed) hi
    · rw [if_neg hi]
      exact if_neg (show ¬ a.shows i from hi)
  · intro s _ place m hm hs
    have hp := getElem?_perform hm hs
    rw [run, List.foldl_append]
    exact congrArg (Option.map Image.bytes) hp

/-- A clone taken between writes, then a header below zero on the one and a write to the other. -/
theorem run_refines_clone :
    let steps : List Step := [.build 7 [0x41, 0x42], .write .writer 0 1 0x58, .setLength 0 1,
      .clone 0, .write .address 1 0 0x59, .write .function 1 1 0x59, .setLength 0 (-1)]
    Admissible [] steps ∧ (run [] steps).map Image.bytes =
      [[7, 0, 0, 0, 0, 0, 0, 0, 255, 255, 255, 255, 0x41, 0, 0x58, 0],
        [7, 0, 0, 0, 0, 0, 0, 0, 1, 0, 0, 0, 0x59, 0, 0x58, 0]] := by
  refine ⟨by decide, ?_⟩
  exact (run_refines (by decide) (List.prefix_refl _)).1.trans (by decide)

end Interop.Managed.Pool
