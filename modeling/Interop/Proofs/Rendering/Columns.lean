import Interop.Proofs.Rendering.StringReport
import Interop.Proofs.Text.Words

namespace Interop.Managed

open Text

open Palette (plain)

namespace Report

def rowsUnder (title : String) (ls : List (List Char)) : List (List Char) :=
  ((ls.dropWhile (· ≠ title.toList)).drop 1).takeWhile (· ≠ [])

def tableWords (r : Report) (title : String) : List (List (List Char)) :=
  (rowsUnder title (lines (r.render plain))).map words

def column (place : Nat) (rows : List (List (List Char))) : List (List Char) :=
  rows.filterMap (·[place]?)

variable {title other : String} {rows front ls : List (List Char)}

theorem rowsUnder_append (h : title.toList ∉ front) (ls : List (List Char)) :
    rowsUnder title (front ++ ls) = rowsUnder title ls := by
  have hne : ∀ l ∈ front, decide (l ≠ title.toList) = true :=
    fun l hl => decide_eq_true (ne_of_mem_of_not_mem hl h)
  rw [rowsUnder, List.dropWhile_append_of_pos hne]
  rfl

theorem rowsUnder_of_notMem (h : title.toList ∉ ls) : rowsUnder title ls = [] := by
  have happend := rowsUnder_append h []
  rwa [List.append_nil] at happend

theorem rowsUnder_tableLines (hrows : ∀ row ∈ rows, Numbered row) (hb : Behind title ls)
    (h : title.toList ∉ ls) : rowsUnder title (tableLines title rows ++ ls) = rows := by
  obtain ⟨more, rfl, -⟩ := hb
  by_cases hnil : rows = []
  · -- The title is not there either, and no line behind is taken for it.
    rw [hnil, tableLines, if_pos rfl, List.nil_append, rowsUnder_of_notMem h]
  · have hblank : title.toList ∉ [([] : List Char)] :=
      fun hm => h (List.mem_singleton.1 hm ▸ List.mem_cons_self)
    have hne : ∀ row ∈ rows, decide (row ≠ []) = true :=
      fun row hr => decide_eq_true (hrows row hr).ne_nil
    rw [tableLines, if_neg hnil, ← List.singleton_append, List.append_assoc,
      rowsUnder_append hblank, rowsUnder, List.cons_append, List.dropWhile_cons_of_neg (by simp),
      List.drop_succ_cons, List.drop_zero, List.takeWhile_append_of_pos hne,
      List.takeWhile_cons_of_neg (by simp), List.append_nil]

theorem notMem_tableLines (ht : title.toList.head? = some '[') (hne : title.toList ≠ other.toList)
    (hrows : ∀ row ∈ rows, Numbered row) : title.toList ∉ tableLines other rows := by
  by_cases hnil : rows = []
  · rw [tableLines, if_pos hnil]
    exact List.not_mem_nil
  · rw [tableLines, if_neg hnil, List.mem_cons, List.mem_cons]
    rintro (hm | hm | hm)
    · rw [hm] at ht
      cases ht
    · exact hne hm
    · exact (hrows _ hm).head?_ne rfl (by decide) (by decide) ht

theorem rowsUnder_render (r : Report) (ht : title.toList.head? = some '[')
    (hne : title.toList ≠ "[string]".toList) :
    rowsUnder title (lines (r.render plain)) = rowsUnder title (r.tables ++ [[]]) := by
  have hfields : title.toList ∉ ["[string]".toList,
      (fieldLine "length" (integer r.length.toInt)).toList,
      (fieldLine "occupied" (decimal r.occupied)).toList, (fieldLine "text" r.quoted).toList] := by
    intro hm
    have hhead {line : List Char} {c : Char} (hc : c ≠ '[') (hl : line.head? = some c) :
        title.toList ≠ line := by
      rintro he
      rw [← he, ht] at hl
      exact hc (Option.some.inj hl).symm
    simp only [List.mem_cons, List.not_mem_nil, or_false] at hm
    rcases hm with hm | hm | hm | hm
    · exact hne hm
    · exact hhead (by decide) (head?_lengthLine _) hm
    · exact hhead (by decide) (head?_occupiedLine _) hm
    · exact hhead (by decide) (head?_textLine _) hm
  rw [r.lined_render.lines_eq, textLines, ← rowsUnder_append hfields (r.tables ++ [[]])]
  rfl

theorem rowsUnder_units (r : Report) :
    rowsUnder "[units]" (lines (r.render plain)) = r.unitLines := by
  rw [r.rowsUnder_render rfl (by decide), tables, List.append_assoc, List.append_assoc,
    rowsUnder_append (notMem_tableLines rfl (by decide) r.numbered_writeLines),
    rowsUnder_append (notMem_tableLines rfl (by decide) r.numbered_readLines)]
  exact rowsUnder_tableLines r.numbered_unitLines (behind_end "[units]") (by decide)

theorem rowsUnder_reads (r : Report) :
    rowsUnder "[reads]" (lines (r.render plain)) = r.readLines := by
  have hunits : "[reads]".toList ∉ tableLines "[units]" r.unitLines :=
    notMem_tableLines rfl (by decide) r.numbered_unitLines
  rw [r.rowsUnder_render rfl (by decide), tables, List.append_assoc, List.append_assoc,
    rowsUnder_append (notMem_tableLines rfl (by decide) r.numbered_writeLines)]
  refine rowsUnder_tableLines r.numbered_readLines
    ((behind_end "[reads]").table "[units]" (by decide) r.unitLines) ?_
  exact List.not_mem_append hunits (by decide)

theorem rowsUnder_writes (r : Report) :
    rowsUnder "[writes]" (lines (r.render plain)) = r.writeLines := by
  have hreads : "[writes]".toList ∉ tableLines "[reads]" r.readLines :=
    notMem_tableLines rfl (by decide) r.numbered_readLines
  have hunits : "[writes]".toList ∉ tableLines "[units]" r.unitLines :=
    notMem_tableLines rfl (by decide) r.numbered_unitLines
  rw [r.rowsUnder_render rfl (by decide), tables, List.append_assoc, List.append_assoc]
  refine rowsUnder_tableLines r.numbered_writeLines
    (((behind_end "[writes]").table "[units]" (by decide) r.unitLines).table "[reads]" (by decide)
      r.readLines) ?_
  exact List.not_mem_append hreads (List.not_mem_append hunits (by decide))

/-- The index leaves at least one blank in its column of four. -/
def LeavesRoom (index : Int32) : Prop := -100 < index.toInt ∧ index.toInt < 1000

instance (index : Int32) : Decidable (LeavesRoom index) :=
  inferInstanceAs (Decidable (_ ∧ _))

def indexWord (index : Int32) : List Char := (integer index.toInt).toList

def nameWord (unit : UInt16) : List Char := (unitName unit).toList

def hexWord (unit : UInt16) : List Char := (wideHex 4 unit.toNat).toList

/-- An index that leaves no room is one word with the unit. -/
def accessWords (index : Int32) (unit : UInt16) : List (List Char) :=
  if LeavesRoom index then [indexWord index, nameWord unit]
  else [indexWord index ++ nameWord unit]

def writeWords (w : Write) : List (List Char) :=
  accessWords w.index w.unit ++ if w.applied then [] else ["skipped".toList]

def readWords (a : Read) : List (List Char) := accessWords a.index a.unit

def unitWords (row : DumpRow) : List (List Char) :=
  row.offset :: row.items.map fun n => (wideHex 4 n).toList

/-- Four hexadecimal digits that denote the unit, their letters all in one case. -/
structure FourDigits (fold : Char → Char) (unit : UInt16) (digits : List Char) : Prop where
  numeral : Numeral 16 digits unit.toNat
  length : digits.length = 4
  folded : ∀ c ∈ digits, fold c = c

theorem fourDigits_padLeft {fold write : Char → Char} (hzero : fold '0' = '0')
    (hlower : ∀ d < 16, (write d.digitChar).toLower = d.digitChar)
    (hfold : ∀ d < 16, fold (write d.digitChar) = write d.digitChar) (unit : UInt16) :
    FourDigits fold unit
      (padLeft 4 '0' (String.ofList ((Nat.toDigits 16 unit.toNat).map write))).toList where
  numeral := by
    apply Numeral.padLeft
    rw [String.toList_ofList]
    exact numeral_map_toDigits (by decide) (by decide) hlower unit.toNat
  length := by
    have hle := (Nat.length_toDigits_le_iff (by decide : 1 < 16) (by decide : 0 < 4)).2
      unit.toNat_lt
    rw [toList_padLeft, String.length_ofList, String.toList_ofList, List.length_append,
      List.length_replicate, List.length_map]
    omega
  folded := by
    intro c hc
    rw [toList_padLeft, String.toList_ofList] at hc
    rcases List.mem_append.1 hc with hc | hc
    · rwa [List.eq_of_mem_replicate hc]
    · obtain ⟨digit, hd, rfl⟩ := List.mem_map.1 hc
      obtain ⟨d, hlt, rfl⟩ := mem_toDigits (by decide) hd
      exact hfold d hlt

theorem fourDigits_hexWord (unit : UInt16) : FourDigits Char.toLower unit (hexWord unit) := by
  have hsame : ∀ d < 16, (id d.digitChar).toLower = id d.digitChar := by decide
  have hfour := fourDigits_padLeft rfl hsame hsame unit
  rwa [List.map_id] at hfour

theorem exists_nameWord (unit : UInt16) :
    ∃ digits, nameWord unit = 'U' :: '+' :: digits ∧ FourDigits Char.toUpper unit digits :=
  ⟨_, String.toList_append, fourDigits_padLeft rfl (by decide) (by decide) unit⟩

theorem isWord_nameWord (unit : UInt16) : IsWord (nameWord unit) := by
  have hname : IsWord ['U', '+'] := ⟨List.cons_ne_nil _ _, by decide⟩
  obtain ⟨digits, hd, hfour⟩ := exists_nameWord unit
  rw [hd]
  exact hname.append (hfour.numeral.isWord (by decide))

theorem length_integer_lt_iff (index : Int32) :
    (integer index.toInt).length < 4 ↔ LeavesRoom index := by
  have h := length_integer_le_iff (by decide : 0 < 2) index.toInt
  rw [LeavesRoom]
  omega

theorem words_accessLine (index : Int32) (unit : UInt16) :
    words (accessLine index unit).toList = accessWords index unit := by
  have hindex := isWord_integer index.toInt
  have hname := isWord_nameWord unit
  rw [accessLine, String.toList_append, accessWords]
  by_cases hroom : LeavesRoom index
  · rw [if_pos hroom, words_padRight ((length_integer_lt_iff index).2 hroom), hindex.words_eq]
    exact congrArg _ hname.words_eq
  · -- Padding adds nothing here, so the unit follows the last digit.
    have hfull := Nat.le_of_not_lt (mt (length_integer_lt_iff index).1 hroom)
    rw [if_neg hroom, padRight_of_le hfull]
    exact (hindex.append hname).words_eq

theorem words_writeLine (w : Write) : words (writeLine w).toList = writeWords w := by
  rw [writeLine, String.toList_append, writeWords, ← words_accessLine]
  cases w.applied with
  | true => simp
  | false => exact words_append_blank (accessLine w.index w.unit).toList " skipped".toList

theorem words_unitLine (offset : Nat) (units : List UInt16) :
    words (unitLine (offset, units)).toList =
      unitWords (dumpRow 4 (offset, units.map UInt16.toNat)) := by
  rw [unitLine, words_hexLine, unitWords, dumpRow]

theorem tableWords_writes (r : Report) : r.tableWords "[writes]" = r.writes.map writeWords := by
  rw [tableWords, rowsUnder_writes, writeLines, List.map_map]
  exact List.map_congr_left fun w _ => words_writeLine w

theorem tableWords_reads (r : Report) : r.tableWords "[reads]" = r.reads.map readWords := by
  rw [tableWords, rowsUnder_reads, readLines, List.map_map]
  exact List.map_congr_left fun a _ => words_accessLine a.index a.unit

theorem tableWords_units (r : Report) : r.tableWords "[units]" = r.page.rows.map unitWords := by
  rw [tableWords, rowsUnder_units, unitLines, page, numberedRows_map, List.map_map, List.map_map,
    List.map_map]
  refine List.map_congr_left ?_
  rintro ⟨offset, units⟩ -
  rw [Function.comp_apply, words_unitLine]
  rfl

variable {α : Type} {as : List α}

theorem column_map {place : Nat} {row : α → List (List Char)} {word : α → List Char}
    (h : ∀ a ∈ as, (row a)[place]? = some (word a)) : column place (as.map row) = as.map word := by
  have hword : as.filterMap (fun a => (row a)[place]?) = as.map word := by
    rw [List.filterMap_congr h, ← List.filterMap_eq_map]
    rfl
  rwa [column, List.filterMap_map]

def firstWord (index : Int32) (unit : UInt16) : List Char :=
  if LeavesRoom index then indexWord index else indexWord index ++ nameWord unit

theorem getElem?_accessWords (index : Int32) (unit : UInt16) (mark : List (List Char)) :
    (accessWords index unit ++ mark)[0]? = some (firstWord index unit) := by
  rw [accessWords, firstWord]
  split
  · rfl
  · rfl

theorem firstWord_eq_iff {index : Int32} {unit : UInt16} :
    firstWord index unit = indexWord index ↔ LeavesRoom index := by
  rw [firstWord]
  by_cases hroom : LeavesRoom index
  · rw [if_pos hroom]
    exact iff_of_true rfl hroom
  · rw [if_neg hroom, List.append_right_eq_self]
    exact iff_of_false (isWord_nameWord unit).nonempty hroom

/-- Read down their columns, the accesses tell their indices and units as long as each index leaves
room, and otherwise do not. -/
theorem column_accessWords (index : α → Int32) (unit : α → UInt16) (mark : α → List (List Char)) :
    (column 0 (as.map fun a => accessWords (index a) (unit a) ++ mark a) =
          as.map (fun a => indexWord (index a)) ∧
        column 1 (as.map fun a => accessWords (index a) (unit a) ++ mark a) =
          as.map fun a => nameWord (unit a)) ↔
      ∀ a ∈ as, LeavesRoom (index a) := by
  constructor
  · rintro ⟨h, -⟩ a ha
    rw [column_map fun a _ => getElem?_accessWords (index a) (unit a) (mark a)] at h
    exact firstWord_eq_iff.1 (List.map_inj_left.1 h a ha)
  · intro h
    constructor
    · exact column_map fun a ha => by rw [accessWords, if_pos (h a ha)]; rfl
    · exact column_map fun a ha => by rw [accessWords, if_pos (h a ha)]; rfl

theorem skipped_notMem_accessWords (index : Int32) (unit : UInt16) :
    "skipped".toList ∉ accessWords index unit := by
  have hnumbered {word : List Char} (h : Numbered word) : "skipped".toList ≠ word := by
    rintro rfl
    exact h.head?_ne rfl (by decide) (by decide) rfl
  have hindex := numbered_integer index.toInt
  rw [accessWords]
  split
  · obtain ⟨digits, hname, -⟩ := exists_nameWord unit
    rw [hname, List.mem_cons, List.mem_singleton]
    rintro (hm | hm)
    · exact hnumbered hindex hm
    · have hhead : some 's' = some 'U' := congrArg List.head? hm
      exact absurd hhead (by decide)
  · rw [List.mem_singleton]
    exact hnumbered (hindex.append (nameWord unit))

theorem skipped_mem_writeWords (w : Write) :
    "skipped".toList ∈ writeWords w ↔ w.applied = false := by
  have haccess := skipped_notMem_accessWords w.index w.unit
  rw [writeWords, List.mem_append, or_iff_right haccess]
  cases w.applied with
  | true => simp
  | false => simp

theorem flatMap_tail_unitWords (r : Report) :
    (r.page.rows.map unitWords).flatMap List.tail = r.units.map hexWord := by
  have hitems := (dump_numberedRows (by decide : 0 < 8) 4 (r.units.map UInt16.toNat)).items
  calc (r.page.rows.map unitWords).flatMap List.tail
      = r.page.rows.flatMap fun row => row.items.map fun n => (wideHex 4 n).toList :=
        List.flatMap_map _ _ _
    _ = (r.page.rows.flatMap DumpRow.items).map fun n => (wideHex 4 n).toList :=
        List.map_flatMap.symm
    _ = r.units.map hexWord := by
        rw [page, hitems, List.map_map]
        rfl

/-- Split at its blanks, the plain text has the writes, the reads and the units in its tables. A
write and a read are an index and a unit, but one word of both where the index takes its whole
column: from -100 down and from 1000 up. So the columns tell the indices and the units exactly as
long as no index lies there. The mark of a skipped write and the rows of eight units stand apart
whatever the numbers are. -/
theorem render_columns (r : Report) :
    (r.tableWords "[writes]" = r.writes.map writeWords ∧
      (∀ w ∈ r.writes, "skipped".toList ∈ writeWords w ↔ w.applied = false) ∧
      (column 0 (r.tableWords "[writes]") = r.writes.map (fun w => indexWord w.index) ∧
          column 1 (r.tableWords "[writes]") = r.writes.map (fun w => nameWord w.unit) ↔
        ∀ w ∈ r.writes, LeavesRoom w.index)) ∧
    (r.tableWords "[reads]" = r.reads.map readWords ∧
      (column 0 (r.tableWords "[reads]") = r.reads.map (fun a => indexWord a.index) ∧
          column 1 (r.tableWords "[reads]") = r.reads.map (fun a => nameWord a.unit) ↔
        ∀ a ∈ r.reads, LeavesRoom a.index)) ∧
    (∃ rows, Dump 8 4 (r.units.map UInt16.toNat) rows ∧
      r.tableWords "[units]" = rows.map unitWords ∧
      (r.tableWords "[units]").flatMap List.tail = r.units.map hexWord) ∧
    ∀ unit, FourDigits Char.toLower unit (hexWord unit) ∧
      ∃ digits, nameWord unit = 'U' :: '+' :: digits ∧ FourDigits Char.toUpper unit digits := by
  have hreads : r.reads.map readWords =
      r.reads.map fun a => accessWords a.index a.unit ++ [] :=
    List.map_congr_left fun a _ => (List.append_nil _).symm
  refine ⟨⟨r.tableWords_writes, fun w _ => skipped_mem_writeWords w, ?_⟩,
    ⟨r.tableWords_reads, ?_⟩, ⟨r.page.rows, ?_, r.tableWords_units, ?_⟩,
    fun unit => ⟨fourDigits_hexWord unit, exists_nameWord unit⟩⟩
  · rw [r.tableWords_writes]
    exact column_accessWords Write.index Write.unit _
  · rw [r.tableWords_reads, hreads]
    exact column_accessWords Read.index Read.unit fun _ => []
  · exact dump_numberedRows (by decide) 4 _
  · rw [r.tableWords_units, r.flatMap_tail_unitWords]

/-- The least index above that takes its whole column, and the greatest below. -/
theorem render_columns_joined :
    let r : Report := ⟨3, 18, [0x61, 0x62, 0x63], [⟨1000, 0x41, false⟩], [⟨-100, 0⟩]⟩
    r.tableWords "[writes]" = [["1000U+0041".toList, "skipped".toList]] ∧
      r.tableWords "[writes]" ≠ [[indexWord 1000, nameWord 0x41, "skipped".toList]] ∧
      r.tableWords "[reads]" = [["-100U+0000".toList]] ∧
      r.tableWords "[reads]" ≠ [[indexWord (-100), nameWord 0]] := by
  intro r
  rw [r.tableWords_writes, r.tableWords_reads]
  decide

end Report

end Interop.Managed
