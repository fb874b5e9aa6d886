import Interop.Managed.Rendering
import Interop.Proofs.Managed.EditLanguage
import Interop.Proofs.Text.Dump
import Interop.Proofs.Text.Lines

namespace Interop.Managed

open Text

open Palette (plain)

namespace Report

def fieldLine (name text : String) : String := padRight 8 name ++ "  " ++ text

def accessLine (index : Int32) (unit : UInt16) : String :=
  padRight 4 (integer index.toInt) ++ unitName unit

def writeLine (w : Write) : String :=
  accessLine w.index w.unit ++ if w.applied then "" else "  skipped"

def readLine (r : Read) : String := accessLine r.index r.unit

def unitLine (numbered : Nat × List UInt16) : String :=
  hexLine 4 4 numbered.1 (numbered.2.map UInt16.toNat)

def tableLines (title : String) (rows : List (List Char)) : List (List Char) :=
  if rows = [] then [] else [] :: title.toList :: rows

def writeLines (r : Report) : List (List Char) := r.writes.map fun w => (writeLine w).toList

def readLines (r : Report) : List (List Char) := r.reads.map fun a => (readLine a).toList

def unitLines (r : Report) : List (List Char) :=
  (numberedRows 8 r.units).map fun row => (unitLine row).toList

def tables (r : Report) : List (List Char) :=
  tableLines "[writes]" r.writeLines ++
    (tableLines "[reads]" r.readLines ++ tableLines "[units]" r.unitLines)

def quoted (r : Report) : String := String.ofList (Quoted.encode (Utf16.decode r.units))

def textLines (r : Report) : List (List Char) :=
  "[string]".toList :: (fieldLine "length" (integer r.length.toInt)).toList ::
    (fieldLine "occupied" (decimal r.occupied)).toList ::
    (fieldLine "text" r.quoted).toList :: r.tables

theorem writeRow_plain (w : Write) : writeRow plain w = writeLine w ++ "\n" := by
  rw [writeRow, writeLine]
  cases w.applied with
  | true => rfl
  | false => rfl

theorem unitRow_plain (offset : Nat) (units : List UInt16) :
    unitRow plain offset units = unitLine (offset, units) ++ "\n" := by
  rw [unitLine, hexLine, List.map_map]
  rfl

theorem bare_accessLine (index : Int32) (unit : UInt16) : Bare (accessLine index unit) :=
  ((bare_integer index.toInt).padRight 4).append (bare_unitName unit)

theorem bare_writeLine (w : Write) : Bare (writeLine w) := by
  apply (bare_accessLine w.index w.unit).append
  cases w.applied with
  | true => exact (by decide : Bare "")
  | false => exact (by decide : Bare "  skipped")

theorem lined_field {name text : String} (hn : Bare name) (ht : Bare text) :
    Lined (field plain name text) [(fieldLine name text).toList] := by
  have hb : Bare (fieldLine name text) := ((hn.padRight 8).append (by decide)).append ht
  exact Lined.line hb.unbroken

theorem lined_table {α : Type} {title : String} {row : α → String} {line : α → List Char}
    {as : List α} (ht : Bare title) (h : ∀ a ∈ as, Lined (row a) [line a]) :
    Lined (table plain title (as.map row)) (tableLines title (as.map line)) := by
  cases as with
  | nil => exact Lined.empty
  | cons a as =>
      have htable := (Lined.blank.append (Lined.line ht.unbroken)).append (Lined.join h)
      rw [← String.append_assoc] at htable
      exact htable

theorem lined_render (r : Report) : Lined (r.render plain) r.textLines := by
  have htitle : Lined ("[string]" ++ "\n") ["[string]".toList] := Lined.line (by decide)
  have hlength := lined_field (by decide : Bare "length") (bare_integer r.length.toInt)
  have hoccupied := lined_field (by decide : Bare "occupied") (bare_decimal r.occupied)
  have htext := lined_field (by decide : Bare "text") (bare_quoted (Utf16.decode r.units))
  have hwrites : ∀ w ∈ r.writes, Lined (writeRow plain w) [(writeLine w).toList] := by
    intro w _
    rw [writeRow_plain]
    exact Lined.line (bare_writeLine w).unbroken
  have hreads : ∀ a ∈ r.reads, Lined (readRow plain a) [(readLine a).toList] :=
    fun a _ => Lined.line (bare_accessLine a.index a.unit).unbroken
  have hunits : ∀ row ∈ numberedRows 8 r.units,
      Lined (unitRow plain row.1 row.2) [(unitLine row).toList] := by
    intro row _
    rw [unitRow_plain]
    exact Lined.line (bare_hexLine 4 4 row.1 _).unbroken
  have hhead := ((htitle.append hlength).append hoccupied).append htext
  have hall := ((hhead.append (lined_table (by decide : Bare "[writes]") hwrites)).append
    (lined_table (by decide : Bare "[reads]") hreads)).append
    (lined_table (by decide : Bare "[units]") hunits)
  rw [List.append_assoc, List.append_assoc] at hall
  exact hall

def readField? (name : String) (line : List Char) : Option (List Char) :=
  (fieldLine name "").toList.isPrefixOf? line

/-- An index and a unit are read as in an edit. The rest of the line follows. -/
def readAccess? (line : List Char) : Option (Int32 × UInt16 × List Char) :=
  match splitFirst 'U' line with
  | (index, some rest) => do
    let unit ← Edit.readUnit? ('U' :: rest.takeWhile (· ≠ ' '))
    return (← Edit.readIndex? index, unit, rest.dropWhile (· ≠ ' '))
  | (_, none) => none

def readWrite? (line : List Char) : Option Write := do
  let (index, unit, mark) ← readAccess? line
  if mark = [] then return ⟨index, unit, true⟩
  else if mark = "  skipped".toList then return ⟨index, unit, false⟩
  else none

def readRead? (line : List Char) : Option Read := do
  let (index, unit, mark) ← readAccess? line
  if mark = [] then return ⟨index, unit⟩ else none

/-- The rows of a table, which is known by its title and ends at a blank line, and the lines behind
it. Where another title stands, the table has no rows. -/
def takeTable (title : String) : List (List Char) → List (List Char) × List (List Char)
  | [] :: head :: rest =>
    if head = title.toList then (rest.takeWhile (· ≠ []), rest.dropWhile (· ≠ []))
    else ([], [] :: head :: rest)
  | ls => ([], ls)

/-- All that the text of a report shows. -/
structure Page where
  length : Int32
  occupied : Nat
  text : List Char
  writes : List Write
  reads : List Read
  rows : List DumpRow
deriving DecidableEq, Repr

namespace Page

def ofLines? : List (List Char) → Option Page
  | title :: length :: occupied :: text :: rest => do
    let (writes, rest) := takeTable "[writes]" rest
    let (reads, rest) := takeTable "[reads]" rest
    let (rows, rest) := takeTable "[units]" rest
    if title = "[string]".toList ∧ rest = [[]] then
      return {
        length := ← (readField? "length" length).bind Edit.readIndex?
        occupied := ← (readField? "occupied" occupied).bind (value? 10)
        text := ← (readField? "text" text).bind Quoted.decode
        writes := ← writes.mapM readWrite?
        reads := ← reads.mapM readRead?
        rows := ← rows.mapM readRow? }
    else none
  | _ => none

def ofText? (text : String) : Option Page := ofLines? (lines text)

def report (p : Page) : Report where
  length := p.length
  occupied := p.occupied
  units := (p.rows.flatMap DumpRow.items).map UInt16.ofNat
  writes := p.writes
  reads := p.reads

end Page

theorem toList_fieldLine (name text : String) :
    (fieldLine name text).toList = (fieldLine name "").toList ++ text.toList := by
  simp [fieldLine]

theorem readField?_fieldLine (name text : String) :
    readField? name (fieldLine name text).toList = some text.toList := by
  rw [readField?, toList_fieldLine name text, List.isPrefixOf?_eq_some_iff_append_eq.2 rfl]

theorem readIndex?_padded (index : Int32) (blanks : Nat) :
    Edit.readIndex? ((integer index.toInt).toList ++ List.replicate blanks ' ') = some index := by
  refine Edit.readIndex?_eq_some_iff.2
    ⟨[], _, List.replicate blanks ' ', rfl, ?_, ?_, signed_integer _⟩
  · intro c hc
    cases hc
  · intro c hc
    rw [List.eq_of_mem_replicate hc]
    rfl

theorem notMem_padded (index : Int32) (blanks : Nat) :
    'U' ∉ (integer index.toInt).toList ++ List.replicate blanks ' ' := by
  intro hm
  rcases List.mem_append.1 hm with hm | hm
  · rcases (signed_integer index.toInt).digit_or_sign hm with ⟨d, hd⟩ | hd | hd
    · exact not_isDigit (by decide) rfl hd
    · exact absurd hd (by decide)
    · exact absurd hd (by decide)
  · exact absurd (List.eq_of_mem_replicate hm) (by decide)

theorem toList_unitName (unit : UInt16) :
    ∃ digits, (unitName unit).toList = 'U' :: '+' :: digits ∧ Numeral 16 digits unit.toNat :=
  ⟨_, String.toList_append, (numeral_upperHex unit.toNat).padLeft 4⟩

theorem readAccess?_accessLine (index : Int32) (unit : UInt16) (mark : List Char)
    (hm : mark.takeWhile (· ≠ ' ') = []) :
    readAccess? ((accessLine index unit).toList ++ mark) = some (index, unit, mark) := by
  obtain ⟨digits, hname, hd⟩ := toList_unitName unit
  have hplain : ∀ c ∈ '+' :: digits, decide (c ≠ ' ') = true := by
    intro c hc
    apply decide_eq_true
    rintro rfl
    rcases List.mem_cons.1 hc with hc | hc
    · exact absurd hc (by decide)
    · exact hd.notMem (by decide) rfl hc
  have hunit : Edit.readUnit? ('U' :: '+' :: digits) = some unit :=
    Edit.readUnit?_eq_some_iff.2 (.inl (.code (.inl rfl) hd))
  have hdrop : mark.dropWhile (· ≠ ' ') = mark := by
    conv_rhs => rw [← List.takeWhile_append_dropWhile (p := (· ≠ ' ')) (l := mark), hm]
    rfl
  have hline : (accessLine index unit).toList ++ mark =
      ((integer index.toInt).toList ++ List.replicate (4 - (integer index.toInt).length) ' ') ++
        'U' :: ('+' :: digits ++ mark) := by
    rw [accessLine, String.toList_append, toList_padRight, hname, List.append_assoc _ _ mark]
    rfl
  rw [readAccess?, hline, splitFirst_append (notMem_padded index _)]
  simp only [List.takeWhile_append_of_pos hplain, List.dropWhile_append_of_pos hplain, hm, hdrop,
    List.append_nil, hunit, readIndex?_padded]
  rfl

theorem readWrite?_writeLine (w : Write) : readWrite? (writeLine w).toList = some w := by
  obtain ⟨index, unit, applied⟩ := w
  rw [readWrite?, writeLine, String.toList_append]
  cases applied with
  | true =>
      rw [readAccess?_accessLine index unit _ rfl]
      rfl
  | false =>
      have ha := readAccess?_accessLine index unit "  skipped".toList (by decide)
      simp only [Bool.false_eq_true, if_false, ha]
      rfl

theorem readRead?_readLine (r : Read) : readRead? (readLine r).toList = some r := by
  have ha := readAccess?_accessLine r.index r.unit [] rfl
  rw [List.append_nil] at ha
  rw [readRead?, readLine, ha]
  rfl

/-- The line begins with a digit or a sign, as no title and no field does. -/
def Numbered (line : List Char) : Prop :=
  ∃ c rest, line = c :: rest ∧ ((∃ d, IsDigit 16 c d) ∨ c = '+' ∨ c = '-')

theorem Numbered.ne_nil {line : List Char} (h : Numbered line) : line ≠ [] := by
  obtain ⟨c, rest, rfl, -⟩ := h
  exact List.cons_ne_nil c rest

theorem Numbered.head?_ne {line : List Char} (h : Numbered line) {c : Char}
    (hc : digitValue? 16 c = none) (hplus : c ≠ '+') (hminus : c ≠ '-') : line.head? ≠ some c := by
  obtain ⟨d, rest, rfl, hd⟩ := h
  rw [List.head?_cons, ne_eq, Option.some.injEq]
  rintro rfl
  rcases hd with ⟨v, hv⟩ | hd | hd
  · exact not_isDigit (by decide) hc hv
  · exact hplus hd
  · exact hminus hd

theorem Numbered.append {line : List Char} (h : Numbered line) (rest : List Char) :
    Numbered (line ++ rest) := by
  obtain ⟨c, cs, rfl, hc⟩ := h
  exact ⟨c, cs ++ rest, rfl, hc⟩

theorem numbered_integer (i : Int) : Numbered (integer i).toList := by
  have hs := signed_integer i
  obtain ⟨c, rest, hc⟩ := List.exists_cons_of_ne_nil hs.ne_nil
  refine ⟨c, rest, hc, ?_⟩
  rcases hs.digit_or_sign (hc ▸ List.mem_cons_self) with ⟨d, hd, hform⟩ | hsign
  · exact .inl ⟨d, Nat.lt_trans hd (by decide), hform⟩
  · exact .inr hsign

theorem numbered_accessLine (index : Int32) (unit : UInt16) :
    Numbered (accessLine index unit).toList := by
  rw [accessLine, String.toList_append, toList_padRight]
  exact ((numbered_integer index.toInt).append _).append _

theorem numbered_unitLine (numbered : Nat × List UInt16) : Numbered (unitLine numbered).toList := by
  obtain ⟨c, rest, d, hc, hd⟩ :=
    exists_head_hexLine 4 4 numbered.1 (numbered.2.map UInt16.toNat)
  exact ⟨c, rest, hc, .inl ⟨d, hd⟩⟩

theorem numbered_writeLines (r : Report) : ∀ line ∈ r.writeLines, Numbered line := by
  intro line hl
  obtain ⟨w, -, rfl⟩ := List.mem_map.1 hl
  rw [writeLine, String.toList_append]
  exact (numbered_accessLine w.index w.unit).append _

theorem numbered_readLines (r : Report) : ∀ line ∈ r.readLines, Numbered line := by
  intro line hl
  obtain ⟨a, -, rfl⟩ := List.mem_map.1 hl
  exact numbered_accessLine a.index a.unit

theorem numbered_unitLines (r : Report) : ∀ line ∈ r.unitLines, Numbered line := by
  intro line hl
  obtain ⟨row, -, rfl⟩ := List.mem_map.1 hl
  exact numbered_unitLine row

/-- What stands behind a table begins with a blank line, and with another title if with any. -/
def Behind (title : String) (ls : List (List Char)) : Prop :=
  ∃ more, ls = [] :: more ∧ more.head? ≠ some title.toList

theorem behind_end (title : String) : Behind title [[]] := ⟨[], rfl, by simp⟩

theorem Behind.table {title : String} {ls : List (List Char)} (h : Behind title ls)
    (other : String) (hne : other.toList ≠ title.toList) (rows : List (List Char)) :
    Behind title (tableLines other rows ++ ls) := by
  by_cases hrows : rows = []
  · rwa [tableLines, if_pos hrows]
  · refine ⟨other.toList :: rows ++ ls, by rw [tableLines, if_neg hrows]; rfl, ?_⟩
    exact fun he => hne (Option.some.inj he)

theorem takeTable_tableLines {title : String} {rows ls : List (List Char)}
    (hrows : ∀ row ∈ rows, Numbered row) (h : Behind title ls) :
    takeTable title (tableLines title rows ++ ls) = (rows, ls) := by
  obtain ⟨more, rfl, hmore⟩ := h
  by_cases hnil : rows = []
  · rw [tableLines, if_pos hnil, hnil, List.nil_append]
    cases more with
    | nil => rfl
    | cons head rest => exact if_neg fun he => hmore (congrArg some he)
  · have hne : ∀ row ∈ rows, decide (row ≠ []) = true :=
      fun row hr => decide_eq_true (hrows row hr).ne_nil
    rw [tableLines, if_neg hnil]
    simp only [List.cons_append, takeTable, if_true]
    rw [List.takeWhile_append_of_pos hne, List.dropWhile_append_of_pos hne]
    simp

theorem filter_tableLines {title : String} {rows : List (List Char)} {c : Char}
    (hrows : ∀ row ∈ rows, row.head? ≠ some c) :
    (tableLines title rows).filter (·.head? = some c) =
      (if rows = [] then [] else [title.toList]).filter (·.head? = some c) := by
  have hnone : rows.filter (·.head? = some c) = [] :=
    List.filter_eq_nil_iff.2 fun row hr => by simpa using hrows row hr
  by_cases hnil : rows = []
  · rw [tableLines, if_pos hnil, if_pos hnil]
  · rw [tableLines, if_neg hnil, if_neg hnil, List.filter_cons_of_neg (by simp), List.filter_cons,
      List.filter_cons, hnone, List.filter_nil]

def page (r : Report) : Page where
  length := r.length
  occupied := r.occupied
  text := Utf16.decode r.units
  writes := r.writes
  reads := r.reads
  rows := (numberedRows 8 (r.units.map UInt16.toNat)).map (dumpRow 4)

theorem mapM_unitLines (r : Report) : r.unitLines.mapM readRow? = some r.page.rows :=
  mapM_hexLines (by decide) UInt16.toNat r.units

theorem mapM_writeLines (r : Report) : r.writeLines.mapM readWrite? = some r.writes := by
  rw [writeLines, mapM_map fun w _ => readWrite?_writeLine w, List.map_id']

theorem mapM_readLines (r : Report) : r.readLines.mapM readRead? = some r.reads := by
  rw [readLines, mapM_map fun a _ => readRead?_readLine a, List.map_id']

/-- Every part of the text is read as what it was written for. -/
theorem ofText?_render (r : Report) : Page.ofText? (r.render plain) = some r.page := by
  have hunits := takeTable_tableLines r.numbered_unitLines (behind_end "[units]")
  have hreads := takeTable_tableLines r.numbered_readLines
    ((behind_end "[reads]").table "[units]" (by decide) r.unitLines)
  have hwrites := takeTable_tableLines r.numbered_writeLines
    (((behind_end "[writes]").table "[units]" (by decide) r.unitLines).table
      "[reads]" (by decide) r.readLines)
  have hlength : Edit.readIndex? (integer r.length.toInt).toList = some r.length := by
    simpa using readIndex?_padded r.length 0
  have hoccupied : value? 10 (decimal r.occupied).toList = some r.occupied :=
    value?_of_numeral (by decide) (numeral_decimal r.occupied)
  have htext : Quoted.decode r.quoted.toList = some (Utf16.decode r.units) := by
    rw [quoted, String.toList_ofList, Quoted.decode_encode]
  rw [Page.ofText?, r.lined_render.lines_eq, textLines, tables]
  simp only [List.cons_append, List.append_assoc]
  rw [Page.ofLines?]
  simp only [hwrites, hreads, hunits, and_self, if_true, readField?_fieldLine, Option.bind_some,
    hlength, hoccupied, htext, mapM_writeLines, mapM_readLines, mapM_unitLines]
  rfl

theorem report_page (r : Report) : r.page.report = r := by
  have hrows := (dump_numberedRows (by decide : 0 < 8) 4 (r.units.map UInt16.toNat)).items
  have hunits : (r.page.rows.flatMap DumpRow.items).map UInt16.ofNat = r.units := by
    rw [page, hrows, List.map_map]
    exact (List.map_congr_left fun _ _ => UInt16.ofNat_toNat).trans (List.map_id _)
  rw [Page.report, hunits]
  rfl

def tableTitles (r : Report) : List String :=
  (if r.writes = [] then [] else ["[writes]"]) ++
    ((if r.reads = [] then [] else ["[reads]"]) ++ if r.units = [] then [] else ["[units]"])

theorem writeLines_eq_nil_iff {r : Report} : r.writeLines = [] ↔ r.writes = [] :=
  List.map_eq_nil_iff

theorem readLines_eq_nil_iff {r : Report} : r.readLines = [] ↔ r.reads = [] := List.map_eq_nil_iff

theorem unitLines_eq_nil_iff {r : Report} : r.unitLines = [] ↔ r.units = [] :=
  List.map_eq_nil_iff.trans numberedRows_eq_nil_iff

theorem map_tableTitles (r : Report) :
    r.tableTitles.map String.toList =
      (if r.writeLines = [] then [] else ["[writes]".toList]) ++
        ((if r.readLines = [] then [] else ["[reads]".toList]) ++
          if r.unitLines = [] then [] else ["[units]".toList]) := by
  simp only [tableTitles, writeLines_eq_nil_iff, readLines_eq_nil_iff, unitLines_eq_nil_iff,
    List.map_append, apply_ite (List.map String.toList), List.map_nil, List.map_cons]

theorem head?_tableTitles {r : Report} {title : List Char}
    (h : title ∈ r.tableTitles.map String.toList) : title.head? = some '[' := by
  have hone {p : Prop} [Decidable p] {t : String} (h : title ∈ if p then [] else [t.toList]) :
      title = t.toList := by
    split at h
    · cases h
    · exact List.mem_singleton.1 h
  rw [map_tableTitles, List.mem_append, List.mem_append] at h
  rcases h with h | h | h
  · rw [hone h]
    decide
  · rw [hone h]
    decide
  · rw [hone h]
    decide

theorem head?_fieldLine {name : String} {c : Char} (h : (fieldLine name "").toList.head? = some c)
    (text : String) : (fieldLine name text).toList.head? = some c := by
  rw [toList_fieldLine, List.head?_append, h, Option.some_or]

theorem head?_lengthLine (text : String) : (fieldLine "length" text).toList.head? = some 'l' :=
  head?_fieldLine (by decide) text

theorem head?_occupiedLine (text : String) : (fieldLine "occupied" text).toList.head? = some 'o' :=
  head?_fieldLine (by decide) text

theorem head?_textLine (text : String) : (fieldLine "text" text).toList.head? = some 't' :=
  head?_fieldLine (by decide) text

theorem filter_render (r : Report) {c : Char} (hc : digitValue? 16 c = none) (hplus : c ≠ '+')
    (hminus : c ≠ '-') :
    (lines (r.render plain)).filter (·.head? = some c) =
      ["[string]".toList, (fieldLine "length" (integer r.length.toInt)).toList,
        (fieldLine "occupied" (decimal r.occupied)).toList,
        (fieldLine "text" r.quoted).toList].filter (·.head? = some c) ++
      (r.tableTitles.map String.toList).filter (·.head? = some c) := by
  have hrows {rows : List (List Char)} (hn : ∀ row ∈ rows, Numbered row) :
      ∀ row ∈ rows, row.head? ≠ some c :=
    fun row hr => (hn row hr).head?_ne hc hplus hminus
  have htables : r.tables.filter (·.head? = some c) =
      (r.tableTitles.map String.toList).filter (·.head? = some c) := by
    rw [tables, map_tableTitles]
    simp only [List.filter_append]
    rw [filter_tableLines (hrows r.numbered_writeLines),
      filter_tableLines (hrows r.numbered_readLines),
      filter_tableLines (hrows r.numbered_unitLines)]
  rw [← htables, ← List.filter_append, r.lined_render.lines_eq, List.filter_append]
  exact List.append_nil _

theorem filter_titles (r : Report) :
    (lines (r.render plain)).filter (·.head? = some '[') =
      "[string]".toList :: r.tableTitles.map String.toList := by
  have htables : (r.tableTitles.map String.toList).filter (·.head? = some '[') =
      r.tableTitles.map String.toList :=
    List.filter_eq_self.2 fun title ht => decide_eq_true (head?_tableTitles ht)
  rw [r.filter_render rfl (by decide) (by decide), htables, List.filter_cons_of_pos (by decide),
    List.filter_cons_of_neg (by rw [head?_lengthLine]; decide),
    List.filter_cons_of_neg (by rw [head?_occupiedLine]; decide),
    List.filter_cons_of_neg (by rw [head?_textLine]; decide)]
  rfl

theorem filter_text (r : Report) :
    (lines (r.render plain)).filter (·.head? = some 't') =
      ["text      ".toList ++ Quoted.encode (Utf16.decode r.units)] := by
  have htables : (r.tableTitles.map String.toList).filter (·.head? = some 't') = [] := by
    refine List.filter_eq_nil_iff.2 fun title ht => ?_
    rw [head?_tableTitles ht]
    decide
  rw [r.filter_render rfl (by decide) (by decide), htables, List.filter_cons_of_neg (by decide),
    List.filter_cons_of_neg (by rw [head?_lengthLine]; decide),
    List.filter_cons_of_neg (by rw [head?_occupiedLine]; decide),
    List.filter_cons_of_pos (by rw [head?_textLine]; decide), toList_fieldLine, quoted,
    String.toList_ofList]
  rfl

/-- The plain text of a report tells what the report is. Its units stand in rows of eight, and the
lines with a bracket or a letter t at the head are the titles of what is there and the row of the
text, whatever the units spell. -/
theorem render_determines :
    (Function.Injective fun r : Report => r.render plain) ∧
    ∀ r : Report, ∃ page, Page.ofText? (r.render plain) = some page ∧ page.report = r ∧
      page.text = Utf16.decode r.units ∧ Dump 8 4 (r.units.map UInt16.toNat) page.rows ∧
      (lines (r.render plain)).filter (·.head? = some '[') =
        "[string]".toList :: r.tableTitles.map String.toList ∧
      (lines (r.render plain)).filter (·.head? = some 't') =
        ["text      ".toList ++ Quoted.encode (Utf16.decode r.units)] := by
  constructor
  · intro r r' h
    dsimp only at h
    have hpage : r.page = r'.page := by
      apply Option.some.inj
      rw [← ofText?_render r, ← ofText?_render r', h]
    rw [← report_page r, hpage, report_page r']
  · intro r
    exact ⟨r.page, r.ofText?_render, r.report_page, rfl, dump_numberedRows (by decide) 4 _,
      r.filter_titles, r.filter_text⟩

end Report

end Interop.Managed
