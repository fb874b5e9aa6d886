import Interop.Proofs.Text.Lines
import Interop.Proofs.Text.Numerals
import Interop.Text.Rows

namespace Interop.Text

section Rows

variable {α : Type} {width : Nat} {row l : List α}

theorem rows_ne_nil (h : l ≠ []) : rows width l ≠ [] := by
  obtain ⟨a, rest, rfl⟩ := List.exists_cons_of_ne_nil h
  rw [rows]
  exact List.cons_ne_nil _ _

theorem length_of_mem_rows (hw : 0 < width) (hr : row ∈ rows width l) :
    0 < row.length ∧ row.length ≤ width := by
  induction l using rows.induct width with
  | case1 =>
      rw [rows] at hr
      cases hr
  | case2 a rest ih =>
      rw [rows] at hr
      rcases List.mem_cons.1 hr with rfl | hr
      · simp only [List.length_cons, List.length_take]
        omega
      · exact ih hr

theorem length_row {above below : List (List α)} {next : List α} (hw : 0 < width)
    (h : rows width l = above ++ row :: next :: below) : row.length = width := by
  induction l using rows.induct width generalizing above with
  | case1 =>
      rw [rows] at h
      simp at h
  | case2 a rest ih =>
      rw [rows] at h
      cases above with
      | nil =>
          obtain ⟨rfl, hbelow⟩ := List.cons.inj h
          have hrest : rest.drop (width - 1) ≠ [] := by
            intro hnil
            rw [hnil, rows] at hbelow
            cases hbelow
          have hlt := List.length_pos_iff.2 hrest
          rw [List.length_drop] at hlt
          simp only [List.length_cons, List.length_take]
          omega
      | cons first above => exact ih (List.cons.inj h).2

theorem length_flatten_above {above below : List (List α)} (hw : 0 < width)
    (h : rows width l = above ++ row :: below) : above.flatten.length = width * above.length := by
  induction above using List.reverseRecOn generalizing row below with
  | nil => rfl
  | append_singleton above last ih =>
      have hlast : last.length = width := by
        apply length_row hw
        rw [h, List.append_assoc]
        rfl
      rw [List.append_assoc] at h
      rw [List.flatten_append, List.length_append, ih h, List.length_append, List.flatten_singleton,
        hlast, List.length_singleton, Nat.mul_succ]

theorem map_snd_numberedRows (width : Nat) (l : List α) :
    (numberedRows width l).map Prod.snd = rows width l := by
  rw [numberedRows, List.map_map]
  exact List.zipIdx_map_fst 0 (rows width l)

theorem numberedRows_eq_nil_iff : numberedRows width l = [] ↔ l = [] := by
  rw [← List.map_eq_nil_iff (f := Prod.snd), map_snd_numberedRows]
  constructor
  · exact fun h => by_contra fun hl => rows_ne_nil hl h
  · rintro rfl
    rw [rows]

theorem rows_map {β : Type} (f : α → β) (width : Nat) (l : List α) :
    rows width (l.map f) = (rows width l).map (List.map f) := by
  induction l using rows.induct width with
  | case1 => simp [rows]
  | case2 a rest ih => simp [rows, ← ih, List.map_take, List.map_drop]

theorem numberedRows_map {β : Type} (f : α → β) (width : Nat) (l : List α) :
    numberedRows width (l.map f) = (numberedRows width l).map fun (n, row) => (n, row.map f) := by
  simp [numberedRows, rows_map, List.zipIdx_map, Function.comp_def]

theorem number_row {above below : List (Nat × List α)} {numbered : Nat × List α}
    (h : numberedRows width l = above ++ numbered :: below) :
    numbered.1 = width * above.length := by
  have hget := congrArg (fun rows => rows[above.length]?) h
  simp only [numberedRows, List.getElem?_map, List.getElem?_zipIdx,
    List.getElem?_append_right (Nat.le_refl _), Nat.sub_self, List.getElem?_cons_zero,
    Option.map_map] at hget
  obtain ⟨row, -, rfl⟩ := Option.map_eq_some_iff.1 hget
  rw [Function.comp_apply, Nat.zero_add]

end Rows

/-- A row of a dump as it stands in the text: the offset in its digits, and the items. -/
structure DumpRow where
  offset : List Char
  items : List Nat
deriving DecidableEq, Repr

/-- The rows show these items in order. All rows but the last are full, and each has before it, in
so many digits at least, the number of items above. -/
structure Dump (width digits : Nat) (shown : List Nat) (rows : List DumpRow) : Prop where
  items : rows.flatMap DumpRow.items = shown
  bounded : ∀ row ∈ rows, 0 < row.items.length ∧ row.items.length ≤ width
  full : ∀ above row next below, rows = above ++ row :: next :: below → row.items.length = width
  offset : ∀ above row below, rows = above ++ row :: below →
    Numeral 16 row.offset (above.flatMap DumpRow.items).length ∧ digits ≤ row.offset.length

def dumpRow (digits : Nat) (numbered : Nat × List Nat) : DumpRow :=
  ⟨(wideHex digits numbered.1).toList, numbered.2⟩

theorem le_length_wideHex (width n : Nat) : width ≤ (wideHex width n).toList.length := by
  rw [wideHex, toList_padLeft, List.length_append, List.length_replicate, String.length_toList]
  omega

variable {width digits itemDigits offset : Nat} {items : List Nat}

theorem items_ne_nil {α : Type} {numbered : Nat × List α} {l : List α} (hw : 0 < width)
    (h : numbered ∈ numberedRows width l) : numbered.2 ≠ [] := by
  have hrow : numbered.2 ∈ rows width l := map_snd_numberedRows width l ▸ List.mem_map_of_mem h
  exact List.length_pos_iff.1 (length_of_mem_rows hw hrow).1

theorem flatMap_items (numbered : List (Nat × List Nat)) :
    (numbered.map (dumpRow digits)).flatMap DumpRow.items = (numbered.map Prod.snd).flatten := by
  rw [List.flatMap_map, ← List.flatMap_def]
  rfl

theorem dump_numberedRows (hw : 0 < width) (digits : Nat) (shown : List Nat) :
    Dump width digits shown ((numberedRows width shown).map (dumpRow digits)) where
  items := by rw [flatMap_items, map_snd_numberedRows, flatten_rows]
  bounded := by
    intro row hr
    obtain ⟨numbered, hn, rfl⟩ := List.mem_map.1 hr
    apply length_of_mem_rows hw (l := shown)
    rw [← map_snd_numberedRows]
    exact List.mem_map_of_mem hn
  full := by
    intro above row next below h
    obtain ⟨above, numbered, hrows, rfl, hbelow⟩ := List.map_eq_append_iff.1 h
    obtain ⟨row, numbered, rfl, rfl, hnext⟩ := List.map_eq_cons_iff.1 hbelow
    obtain ⟨next, below, rfl, rfl, rfl⟩ := List.map_eq_cons_iff.1 hnext
    have hsnd := congrArg (List.map Prod.snd) hrows
    rw [map_snd_numberedRows, List.map_append, List.map_cons, List.map_cons] at hsnd
    exact length_row hw hsnd
  offset := by
    intro above row below h
    obtain ⟨above, numbered, hrows, rfl, hbelow⟩ := List.map_eq_append_iff.1 h
    obtain ⟨row, below, rfl, rfl, rfl⟩ := List.map_eq_cons_iff.1 hbelow
    have hsnd := congrArg (List.map Prod.snd) hrows
    rw [map_snd_numberedRows, List.map_append, List.map_cons] at hsnd
    have hlength := length_flatten_above hw hsnd
    rw [List.length_map, ← number_row hrows] at hlength
    rw [flatMap_items, hlength]
    dsimp only [dumpRow]
    exact ⟨numeral_wideHex digits row.1, le_length_wideHex digits row.1⟩

def hexLine (digits itemDigits offset : Nat) (items : List Nat) : String :=
  wideHex digits offset ++ "  " ++ " ".intercalate (items.map (wideHex itemDigits))

def readRow? (line : List Char) : Option DumpRow :=
  match line.splitOn ' ' with
  | offset :: [] :: items => (items.mapM (value? 16)).map (DumpRow.mk offset)
  | _ => none

theorem bare_hexLine (digits itemDigits offset : Nat) (items : List Nat) :
    Bare (hexLine digits itemDigits offset items) := by
  refine ((bare_wideHex digits offset).append (by decide)).append (Bare.intercalate (by decide) ?_)
  intro s hs
  obtain ⟨n, -, rfl⟩ := List.mem_map.1 hs
  exact bare_wideHex itemDigits n

theorem blank_notMem_wideHex (width n : Nat) : ' ' ∉ (wideHex width n).toList :=
  (numeral_wideHex width n).notMem (by decide) rfl

theorem mapM_value?_wideHex (width : Nat) (items : List Nat) :
    (items.map fun n => (wideHex width n).toList).mapM (value? 16) = some items := by
  rw [mapM_map fun n _ => value?_of_numeral (by decide) (numeral_wideHex width n), List.map_id']

theorem readRow?_hexLine (hne : items ≠ []) :
    readRow? (hexLine digits itemDigits offset items).toList =
      some (dumpRow digits (offset, items)) := by
  have hitems : ∀ l ∈ items.map fun n => (wideHex itemDigits n).toList, ' ' ∉ l := by
    intro l hl
    obtain ⟨n, -, rfl⟩ := List.mem_map.1 hl
    exact blank_notMem_wideHex itemDigits n
  have hline : (hexLine digits itemDigits offset items).toList =
      (wideHex digits offset).toList ++
        ' ' :: ([] ++
          ' ' :: [' '].intercalate (items.map fun n => (wideHex itemDigits n).toList)) := by
    simp [hexLine, Function.comp_def]
  have hsplit : (hexLine digits itemDigits offset items).toList.splitOn ' ' =
      (wideHex digits offset).toList :: [] :: items.map fun n => (wideHex itemDigits n).toList := by
    rw [hline, List.splitOn_append_cons_self_of_not_mem (blank_notMem_wideHex digits offset),
      List.splitOn_append_cons_self_of_not_mem List.not_mem_nil,
      List.splitOn_intercalate ' ' hitems (by simpa using hne)]
  rw [readRow?, hsplit]
  simp only [mapM_value?_wideHex]
  rfl

theorem mapM_hexLines {α : Type} (hw : 0 < width) (f : α → Nat) (l : List α) :
    ((numberedRows width l).map fun row =>
      (hexLine digits itemDigits row.1 (row.2.map f)).toList).mapM readRow? =
      some ((numberedRows width (l.map f)).map (dumpRow digits)) := by
  rw [numberedRows_map, List.map_map]
  apply mapM_map
  intro row hr
  exact readRow?_hexLine (mt List.map_eq_nil_iff.1 (items_ne_nil hw hr))

theorem exists_head_hexLine (digits itemDigits offset : Nat) (items : List Nat) :
    ∃ c rest d, (hexLine digits itemDigits offset items).toList = c :: rest ∧ IsDigit 16 c d := by
  obtain ⟨c, rest, hc, d, hd⟩ := (numeral_wideHex digits offset).exists_head
  rw [hexLine, String.toList_append, String.toList_append, hc]
  exact ⟨c, _, d, rfl, hd⟩

end Interop.Text
