namespace Interop.Text

variable {α : Type} [DecidableEq α]

/-- What stands before the first `sep` and, if there is one, what stands behind it. -/
def splitFirst (sep : α) : List α → List α × Option (List α)
  | [] => ([], none)
  | a :: rest =>
    if a = sep then ([], some rest)
    else
      let (before, behind) := splitFirst sep rest
      (a :: before, behind)

/-- The parts between all `sep`; one part more than there are separators. -/
def splitAll (sep : α) : List α → List (List α)
  | [] => [[]]
  | a :: rest =>
    if a = sep then [] :: splitAll sep rest
    else match splitAll sep rest with
      | [] => [[a]]
      | part :: parts => (a :: part) :: parts

theorem splitFirst_join (sep : α) (l : List α) :
    l = match splitFirst sep l with
      | (before, none) => before
      | (before, some behind) => before ++ sep :: behind := by
  induction l with
  | nil => rfl
  | cons a rest ih =>
    by_cases h : a = sep
    · simp [splitFirst, h]
    · simp only [splitFirst, h, if_false]
      revert ih
      rcases splitFirst sep rest with ⟨before, _ | behind⟩ <;> intro ih <;> simp_all

theorem splitFirst_append {sep : α} {before : List α} (h : sep ∉ before) (behind : List α) :
    splitFirst sep (before ++ sep :: behind) = (before, some behind) := by
  induction before with
  | nil => simp [splitFirst]
  | cons a before ih =>
    simp only [List.mem_cons, not_or] at h
    simp [splitFirst, Ne.symm h.1, ih h.2]

theorem splitFirst_of_notMem {sep : α} {l : List α} (h : sep ∉ l) :
    splitFirst sep l = (l, none) := by
  induction l with
  | nil => rfl
  | cons a l ih =>
    simp only [List.mem_cons, not_or] at h
    simp [splitFirst, Ne.symm h.1, ih h.2]

theorem notMem_splitFirst (sep : α) (l : List α) : sep ∉ (splitFirst sep l).1 := by
  induction l with
  | nil => simp [splitFirst]
  | cons a rest ih =>
    by_cases h : a = sep
    · simp [splitFirst, h]
    · simp [splitFirst, h, ih, Ne.symm h]

end Interop.Text
