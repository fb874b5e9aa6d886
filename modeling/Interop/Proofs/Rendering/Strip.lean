import Mathlib.Data.List.Find
import Interop.Palette

namespace Interop.Palette

section Scan

variable {sequences : List (List Char)}

theorem stripFrom_skip (skip : Nat) (cs : List Char) :
    stripFrom sequences skip cs = stripFrom sequences 0 (cs.drop skip) := by
  induction cs generalizing skip with
  | nil => cases skip <;> rfl
  | cons c cs ih =>
      cases skip with
      | zero => rfl
      | succ skip => exact ih skip

theorem isPrefixOf_append_break {s : List Char} {c : Char} (hc : c ∉ s) (cs rest : List Char) :
    s.isPrefixOf (cs ++ c :: rest) = s.isPrefixOf cs := by
  induction s generalizing cs with
  | nil => rfl
  | cons a s ih =>
      obtain ⟨ha, hs⟩ := not_or.1 (fun h => hc (List.mem_cons.2 h))
      cases cs with
      | nil =>
          have hac : (a == c) = false := beq_eq_false_iff_ne.2 (Ne.symm ha)
          rw [List.nil_append, List.isPrefixOf_cons_cons, hac]
          rfl
      | cons b cs => simp only [List.cons_append, List.isPrefixOf_cons_cons, ih hs]

def Breaks (sequences : List (List Char)) (c : Char) : Prop := ∀ s ∈ sequences, c ∉ s.tail

instance (sequences : List (List Char)) (c : Char) : Decidable (Breaks sequences c) :=
  inferInstanceAs (Decidable (∀ s ∈ sequences, c ∉ s.tail))

theorem find?_append_break {c : Char} (hc : Breaks sequences c) (a : Char)
    (cs rest : List Char) :
    (sequences.find? fun s => s.isPrefixOf (a :: (cs ++ c :: rest))) =
      sequences.find? fun s => s.isPrefixOf (a :: cs) := by
  apply List.find?_congr
  intro s hs
  cases s with
  | nil => rfl
  | cons b s =>
      have ht : c ∉ s := hc (b :: s) hs
      rw [List.isPrefixOf_cons_cons, List.isPrefixOf_cons_cons, isPrefixOf_append_break ht]

theorem stripFrom_append_break {c : Char} (hc : Breaks sequences c) (skip : Nat)
    (cs rest : List Char) (hskip : skip ≤ cs.length) :
    stripFrom sequences skip (cs ++ c :: rest) =
      stripFrom sequences skip cs ++ stripFrom sequences 0 (c :: rest) := by
  induction cs generalizing skip with
  | nil =>
      obtain rfl : skip = 0 := Nat.le_zero.1 hskip
      rfl
  | cons a cs ih =>
      cases skip with
      | succ skip => exact ih skip (Nat.le_of_succ_le_succ hskip)
      | zero =>
          rw [List.cons_append, stripFrom, stripFrom, find?_append_break hc]
          cases hf : sequences.find? fun s => s.isPrefixOf (a :: cs) with
          | none => exact congrArg (a :: ·) (ih 0 (Nat.zero_le _))
          | some found =>
              have hp : found.isPrefixOf (a :: cs) := by simpa using List.find?_some hf
              have hl := (List.isPrefixOf_iff_prefix.1 hp).length_le
              rw [List.length_cons] at hl
              exact ih (found.length - 1) (by omega)

end Scan

theorem sequences_colored : colored.sequences =
    [['\x1b', '[', '3', '4', 'm'], ['\x1b', '[', '3', '2', 'm'], ['\x1b', '[', '2', 'm'],
      ['\x1b', '[', '0', 'm']] := rfl

theorem stripFrom_cons {c : Char} (hc : c ≠ '\x1b') (cs : List Char) :
    stripFrom colored.sequences 0 (c :: cs) = c :: stripFrom colored.sequences 0 cs := by
  have hf : (colored.sequences.find? fun s => s.isPrefixOf (c :: cs)) = none := by
    simp [sequences_colored, List.isPrefixOf, Ne.symm hc]
  rw [stripFrom, hf]

theorem stripFrom_sequence {s : List Char} (hs : s ∈ colored.sequences) (rest : List Char) :
    stripFrom colored.sequences 0 (s ++ rest) = stripFrom colored.sequences 0 rest := by
  have hd : ∀ s ∈ colored.sequences, ∃ t, s = '\x1b' :: t ∧
      (colored.sequences.find? fun r => r.isPrefixOf (s ++ rest)) = some s := by
    simp [sequences_colored, List.isPrefixOf]
  obtain ⟨t, rfl, hf⟩ := hd s hs
  rw [List.cons_append] at hf
  rw [List.cons_append, stripFrom, hf]
  simp only [List.length_cons, Nat.add_one_sub_one]
  rw [stripFrom_skip, List.drop_left]

theorem breaks_escape : Breaks colored.sequences '\x1b' := by decide

theorem breaks_lineFeed : Breaks colored.sequences '\n' := by decide

theorem toList_strip (text : String) :
    (strip text).toList = stripFrom colored.sequences 0 text.toList := by
  rw [strip, String.toList_ofList]

/-- What a text shows, wherever it stands. -/
def Shows (text shown : String) : Prop :=
  ∀ rest : String, strip (text ++ rest) = shown ++ strip rest

namespace Shows

variable {text text' shown shown' : String}

theorem strip_eq (h : Shows text shown) : strip text = shown := by
  have he := h ""
  rwa [String.append_empty, show strip "" = "" from rfl, String.append_empty] at he

theorem append (h : Shows text shown) (h' : Shows text' shown') :
    Shows (text ++ text') (shown ++ shown') := by
  intro rest
  rw [String.append_assoc, h, h', String.append_assoc]

theorem empty : Shows "" "" := fun _ => by rw [String.empty_append, String.empty_append]

theorem join {α : Type} {f g : α → String} {l : List α} (h : ∀ a ∈ l, Shows (f a) (g a)) :
    Shows (String.join (l.map f)) (String.join (l.map g)) := by
  induction l with
  | nil => exact empty
  | cons a l ih =>
      rw [List.map_cons, List.map_cons, String.join_cons, String.join_cons]
      exact (h a List.mem_cons_self).append (ih fun b hb => h b (List.mem_cons_of_mem a hb))

end Shows

end Interop.Palette
