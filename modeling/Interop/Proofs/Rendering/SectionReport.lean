import Interop.Proofs.Text.Dump
import Interop.Sections.Report

namespace Interop.Sections.Report

open Text

open Palette (plain)

def opening : String := "[section]\nname   "

def startLine (r : Report) : String := "start  0x" ++ hex r.start.toNat

def sizeLine (r : Report) : String := "size   " ++ decimal r.size.toNat

def byteLine (numbered : Nat × List UInt8) : String :=
  hexLine 8 2 numbered.1 (numbered.2.map UInt8.toNat)

def byteLines (shown : List UInt8) : List (List Char) :=
  (numberedRows 16 shown).map fun row => (byteLine row).toList

def dumpLines (shown : List UInt8) : List (List Char) :=
  if shown = [] then [] else [] :: "[head]".toList :: byteLines shown

def closing (r : Report) (shown : List UInt8) : String :=
  r.startLine ++ "\n" ++ (r.sizeLine ++ "\n") ++ dump plain shown

theorem render_plain (r : Report) (bytes : List UInt8) (head : Nat) :
    r.render plain bytes head =
      opening ++ r.name ++ ("\n" ++ r.closing (bytes.take head)) := by
  have hname : label plain "name" = "name   " := by decide
  have hstart : label plain "start" = "start  " := by decide
  have hsize : label plain "size" = "size   " := by decide
  have hopening : opening = "[section]" ++ "\n" ++ "name   " := by decide
  have hstartLine : r.startLine = "start  " ++ address r.start.toNat := by
    rw [startLine, address, ← String.append_assoc]
    rfl
  rw [render, hname, hstart, hsize, closing, hopening, hstartLine, sizeLine]
  simp only [String.append_assoc]
  rfl

theorem byteRow_plain (offset : Nat) (bytes : List UInt8) :
    byteRow plain offset bytes = byteLine (offset, bytes) ++ "\n" := by
  rw [byteLine, hexLine, List.map_map]
  rfl

theorem lined_dump (shown : List UInt8) : Lined (dump plain shown) (dumpLines shown) := by
  by_cases hnil : shown = []
  · rw [dump, hnil]
    exact Lined.empty
  · have htitle : Lined ("[head]" ++ "\n") ["[head]".toList] := Lined.line (by decide)
    have hrows : ∀ row ∈ numberedRows 16 shown,
        Lined (byteRow plain row.1 row.2) [(byteLine row).toList] := by
      intro row _
      rw [byteRow_plain]
      exact Lined.line (bare_hexLine 8 2 row.1 _).unbroken
    have hdump := (Lined.blank.append htitle).append (Lined.join hrows)
    rw [← String.append_assoc] at hdump
    rw [dump, dumpLines, if_neg hnil, if_neg (by simpa using hnil)]
    exact hdump

theorem lined_closing (r : Report) (shown : List UInt8) :
    Lined (r.closing shown) ([r.startLine.toList, r.sizeLine.toList] ++ dumpLines shown) := by
  have hstart : Bare r.startLine := Bare.append (by decide) (bare_hex r.start.toNat)
  have hsize : Bare r.sizeLine := Bare.append (by decide) (bare_decimal r.size.toNat)
  exact ((Lined.line hstart.unbroken).append (Lined.line hsize.unbroken)).append (lined_dump shown)

theorem lines_render (r : Report) (bytes : List UInt8) (head : Nat) :
    lines (r.render plain bytes head) =
      lines (opening ++ r.name) ++
        ([r.startLine.toList, r.sizeLine.toList] ++ dumpLines (bytes.take head) ++ [[]]) := by
  rw [render_plain, lines_append_lineFeed, (r.lined_closing (bytes.take head)).lines_eq]

def isRow (line : List Char) : Bool := (line.head?.bind (digitValue? 16)).isSome

def takeDump? (ls : List (List Char)) : Option (Option (List DumpRow) × List (List Char)) :=
  match ls.takeWhile isRow, ls.dropWhile isRow with
  | [], ls => some (none, ls)
  | rows, title :: [] :: ls =>
    if title = "[head]".toList then
      (rows.reverse.mapM readRow?).map fun rows => (some rows, ls)
    else none
  | _, _ => none

def readName? (ls : List (List Char)) : Option String :=
  (opening.toList.isPrefixOf? (['\n'].intercalate ls)).map String.ofList

def readNumber? (label : String) (base : Nat) (line : List Char) : Option UInt64 :=
  ((label.toList.isPrefixOf? line).bind (value? base)).map UInt64.ofNat

/-- All that the text of a section shows. -/
structure Page where
  name : String
  start : UInt64
  size : UInt64
  dump : Option (List DumpRow)
deriving DecidableEq, Repr

namespace Page

def ofLines? (ls : List (List Char)) : Option Page :=
  match ls.reverse with
  | [] :: ls => do
    let (dump, ls) ← takeDump? ls
    match ls with
    | size :: start :: ls => return {
        name := ← readName? ls.reverse
        start := ← readNumber? "start  0x" 16 start
        size := ← readNumber? "size   " 10 size
        dump := dump }
    | _ => none
  | _ => none

def ofText? (text : String) : Option Page := ofLines? (lines text)

def report (p : Page) : Report := ⟨p.name, p.start, p.size⟩

def shown (p : Page) : List UInt8 :=
  ((p.dump.getD []).flatMap DumpRow.items).map UInt8.ofNat

end Page

theorem isRow_byteLines {shown : List UInt8} :
    ∀ line ∈ byteLines shown, isRow line = true := by
  intro line hl
  obtain ⟨row, -, rfl⟩ := List.mem_map.1 hl
  obtain ⟨c, rest, d, hc, hd⟩ := exists_head_hexLine 8 2 row.1 (row.2.map UInt8.toNat)
  rw [byteLine, hc, isRow, List.head?_cons, Option.bind_some,
    (digitValue?_eq_some_iff (by decide)).2 hd]
  rfl

theorem byteLines_eq_nil_iff {shown : List UInt8} : byteLines shown = [] ↔ shown = [] :=
  List.map_eq_nil_iff.trans numberedRows_eq_nil_iff

def dumpOf (shown : List UInt8) : Option (List DumpRow) :=
  if shown = [] then none
  else some ((numberedRows 16 (shown.map UInt8.toNat)).map (dumpRow 8))

theorem takeDump?_dumpLines (shown : List UInt8) {last : List Char} (hl : ¬ isRow last)
    (ls : List (List Char)) :
    takeDump? ((dumpLines shown).reverse ++ last :: ls) = some (dumpOf shown, last :: ls) := by
  by_cases hnil : shown = []
  · rw [dumpLines, if_pos hnil, dumpOf, if_pos hnil, List.reverse_nil, List.nil_append, takeDump?,
      List.takeWhile_cons_of_neg hl, List.dropWhile_cons_of_neg hl]
  · have hrows : ∀ line ∈ (byteLines shown).reverse, isRow line = true :=
      fun line h => isRow_byteLines line (List.mem_reverse.1 h)
    have htitle : ¬ isRow "[head]".toList := by decide
    obtain ⟨row, rows, hcons⟩ := List.exists_cons_of_ne_nil
      (mt List.reverse_eq_nil_iff.1 (mt byteLines_eq_nil_iff.1 hnil))
    have hread : (byteLines shown).mapM readRow? =
        some ((numberedRows 16 (shown.map UInt8.toNat)).map (dumpRow 8)) :=
      mapM_hexLines (by decide) UInt8.toNat shown
    have hreverse : (dumpLines shown).reverse ++ last :: ls =
        (byteLines shown).reverse ++ "[head]".toList :: [] :: last :: ls := by
      rw [dumpLines, if_neg hnil, List.reverse_cons, List.reverse_cons, List.append_assoc,
        List.append_assoc]
      rfl
    rw [hreverse, takeDump?, List.takeWhile_append_of_pos hrows, List.dropWhile_append_of_pos hrows,
      List.takeWhile_cons_of_neg htitle, List.dropWhile_cons_of_neg htitle, List.append_nil, dumpOf,
      if_neg hnil, hcons]
    simp only [if_true]
    rw [← hcons, List.reverse_reverse, hread, Option.map_some]

def page (r : Report) (shown : List UInt8) : Page := ⟨r.name, r.start, r.size, dumpOf shown⟩

theorem shown_page (r : Report) (shown : List UInt8) : (r.page shown).shown = shown := by
  by_cases hnil : shown = []
  · rw [page, Page.shown, dumpOf, if_pos hnil, hnil]
    rfl
  · have hrows := (dump_numberedRows (by decide : 0 < 16) 8 (shown.map UInt8.toNat)).items
    rw [page, Page.shown, dumpOf, if_neg hnil, Option.getD_some, hrows, List.map_map]
    exact (List.map_congr_left fun _ _ => UInt8.ofNat_toNat).trans (List.map_id _)

theorem readName?_opening (name : String) : readName? (lines (opening ++ name)) = some name := by
  rw [readName?, lines, List.intercalate_splitOn, String.toList_append,
    List.isPrefixOf?_eq_some_iff_append_eq.2 rfl, Option.map_some, String.ofList_toList]

theorem readNumber?_append {label text : String} {base : Nat} (hb : base ≤ 16) {n : UInt64}
    (h : Numeral base text.toList n.toNat) :
    readNumber? label base (label ++ text).toList = some n := by
  rw [readNumber?, String.toList_append, List.isPrefixOf?_eq_some_iff_append_eq.2 rfl,
    Option.bind_some, value?_of_numeral hb h, Option.map_some, UInt64.ofNat_toNat]

/-- Read from its end, the text tells the name from what it imitates. -/
theorem ofText?_render (r : Report) (bytes : List UInt8) (head : Nat) :
    Page.ofText? (r.render plain bytes head) = some (r.page (bytes.take head)) := by
  have hsize : ¬ isRow r.sizeLine.toList := by
    rw [sizeLine, String.toList_append]
    exact Bool.false_ne_true
  have hstart : readNumber? "start  0x" 16 r.startLine.toList = some r.start :=
    readNumber?_append (by decide) (numeral_hex r.start.toNat)
  have hcount : readNumber? "size   " 10 r.sizeLine.toList = some r.size :=
    readNumber?_append (by decide) (numeral_decimal r.size.toNat)
  rw [Page.ofText?, lines_render, Page.ofLines?]
  have hreverse : (lines (opening ++ r.name) ++
      ([r.startLine.toList, r.sizeLine.toList] ++ dumpLines (bytes.take head) ++ [[]])).reverse =
      [] :: ((dumpLines (bytes.take head)).reverse ++
        r.sizeLine.toList :: r.startLine.toList :: (lines (opening ++ r.name)).reverse) := by
    simp only [List.reverse_append, List.reverse_cons, List.reverse_nil, List.nil_append,
      List.cons_append, List.append_assoc]
  rw [hreverse]
  simp only [takeDump?_dumpLines _ hsize, Option.bind_eq_bind, Option.bind_some,
    List.reverse_reverse, readName?_opening, hstart, hcount]
  rfl

theorem isSome_dumpOf {shown : List UInt8} : (dumpOf shown).isSome ↔ shown ≠ [] := by
  by_cases hnil : shown = []
  · rw [dumpOf, if_pos hnil, Option.isSome_none]
    exact iff_of_false Bool.false_ne_true (not_not_intro hnil)
  · rw [dumpOf, if_neg hnil]
    exact iff_of_true rfl hnil

theorem dump_of_dumpOf {shown : List UInt8} {rows : List DumpRow} (h : dumpOf shown = some rows) :
    Dump 16 8 (shown.map UInt8.toNat) rows := by
  by_cases hnil : shown = []
  · rw [dumpOf, if_pos hnil] at h
    cases h
  · rw [dumpOf, if_neg hnil] at h
    cases h
    exact dump_numberedRows (by decide) 8 _

/-- The plain text tells the report and the shown bytes, even where the name has lines that look as
if they were the ones behind it. -/
theorem render_eq_iff :
    (∀ (r r' : Report) (bytes bytes' : List UInt8) (head head' : Nat),
      r.render plain bytes head = r'.render plain bytes' head' ↔
        r.name = r'.name ∧ r.start = r'.start ∧ r.size = r'.size ∧
          bytes.take (min head bytes.length) = bytes'.take (min head' bytes'.length)) ∧
    ∀ (r : Report) (bytes : List UInt8) (head : Nat), ∃ page,
      Page.ofText? (r.render plain bytes head) = some page ∧ page.report = r ∧
        (page.dump.isSome ↔ bytes.take (min head bytes.length) ≠ []) ∧
        ∀ rows, page.dump = some rows →
          Dump 16 8 ((bytes.take (min head bytes.length)).map UInt8.toNat) rows := by
  simp only [← List.take_eq_take_min]
  constructor
  · intro r r' bytes bytes' head head'
    constructor
    · intro h
      have hpage : r.page (bytes.take head) = r'.page (bytes'.take head') := by
        apply Option.some.inj
        rw [← ofText?_render, ← ofText?_render, h]
      have hshown := congrArg Page.shown hpage
      rw [shown_page, shown_page] at hshown
      exact ⟨congrArg Page.name hpage, congrArg Page.start hpage, congrArg Page.size hpage, hshown⟩
    · rintro ⟨hname, hstart, hsize, hshown⟩
      rw [render, render, hname, hstart, hsize, hshown]
  · intro r bytes head
    exact ⟨r.page (bytes.take head), r.ofText?_render bytes head, rfl, isSome_dumpOf,
      fun rows h => dump_of_dumpOf h⟩

end Interop.Sections.Report
