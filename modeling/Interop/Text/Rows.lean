namespace Interop.Text

variable {α : Type}

/-- Rows of `width` items, of which only the last may be shorter. A width of zero counts as one. -/
def rows (width : Nat) : List α → List (List α)
  | [] => []
  | a :: rest => (a :: rest.take (width - 1)) :: rows width (rest.drop (width - 1))
termination_by l => l.length
decreasing_by rw [List.length_drop, List.length_cons]; omega

/-- Each row with the number of items in the rows above it. -/
def numberedRows (width : Nat) (l : List α) : List (Nat × List α) :=
  (rows width l).zipIdx.map fun (row, i) => (width * i, row)

theorem flatten_rows (width : Nat) (l : List α) : (rows width l).flatten = l := by
  induction l using rows.induct width with
  | case1 => simp [rows]
  | case2 a rest ih => simp [rows, ih]

end Interop.Text
