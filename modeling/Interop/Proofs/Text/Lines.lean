import Interop.Proofs.Text.Controls
import Mathlib.Data.List.Basic

namespace Interop.Text

/-- The lines of a text. One more follows behind the last line feed. -/
def lines (text : String) : List (List Char) := text.toList.splitOn '\n'

/-- The text consists of these lines, each with a line feed behind it. -/
structure Lined (text : String) (ls : List (List Char)) : Prop where
  text : text.toList = ls.flatMap (· ++ ['\n'])
  unbroken : ∀ l ∈ ls, '\n' ∉ l

variable {text text' : String} {ls ls' : List (List Char)}

theorem Bare.unbroken (h : Bare text) : '\n' ∉ text.toList :=
  fun hm => absurd (h '\n' hm) (by decide)

theorem mapM_map {α β γ : Type} {f : α → β} {g : β → Option γ} {h : α → γ} {as : List α}
    (hg : ∀ a ∈ as, g (f a) = some (h a)) : (as.map f).mapM g = some (as.map h) := by
  induction as with
  | nil => rfl
  | cons a as ih =>
      rw [List.map_cons, List.mapM_cons, hg a List.mem_cons_self,
        ih fun b hb => hg b (List.mem_cons_of_mem a hb)]
      rfl

theorem splitOn_flatMap_lineFeed (h : ∀ l ∈ ls, '\n' ∉ l) (rest : List Char) :
    (ls.flatMap (· ++ ['\n']) ++ rest).splitOn '\n' = ls ++ rest.splitOn '\n' := by
  induction ls with
  | nil => rfl
  | cons l ls ih =>
      have hl : '\n' ∉ l := h l List.mem_cons_self
      rw [List.flatMap_cons, List.append_assoc, List.append_assoc, List.singleton_append,
        List.splitOn_append_cons_self_of_not_mem hl,
        ih fun l hl => h l (List.mem_cons_of_mem _ hl), List.cons_append]

theorem lines_append_lineFeed (text rest : String) :
    lines (text ++ ("\n" ++ rest)) = lines text ++ lines rest := by
  rw [lines, String.toList_append, String.toList_append]
  exact List.splitOn_append_cons_self text.toList rest.toList

namespace Lined

theorem lines_eq (h : Lined text ls) : lines text = ls ++ [[]] := by
  have hs := splitOn_flatMap_lineFeed h.unbroken []
  rwa [List.append_nil, ← h.text, List.splitOn_nil] at hs

theorem line (h : '\n' ∉ text.toList) : Lined (text ++ "\n") [text.toList] where
  text := by
    rw [String.toList_append]
    exact (List.append_nil _).symm
  unbroken := by
    intro l hl
    rwa [List.mem_singleton.1 hl]

theorem empty : Lined "" [] := ⟨rfl, fun _ hl => by cases hl⟩

theorem blank : Lined "\n" [[]] := ⟨rfl, fun _ hl => List.mem_singleton.1 hl ▸ List.not_mem_nil⟩

theorem append (h : Lined text ls) (h' : Lined text' ls') : Lined (text ++ text') (ls ++ ls') where
  text := by rw [String.toList_append, h.text, h'.text, List.flatMap_append]
  unbroken l hl := (List.mem_append.1 hl).elim (h.unbroken l) (h'.unbroken l)

theorem join {α : Type} {row : α → String} {line : α → List Char} {as : List α}
    (h : ∀ a ∈ as, Lined (row a) [line a]) :
    Lined (String.join (as.map row)) (as.map line) := by
  induction as with
  | nil => exact empty
  | cons a as ih =>
      rw [List.map_cons, List.map_cons, String.join_cons]
      exact (h a List.mem_cons_self).append (ih fun b hb => h b (List.mem_cons_of_mem a hb))

end Lined

end Interop.Text
