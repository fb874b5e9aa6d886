import Interop.Proofs.Command.Outcome
import Interop.Proofs.Rendering.Colors
import Interop.Proofs.Rendering.StringReport
import Interop.Proofs.Text.Surrogates

namespace Interop

open Text

open Palette (plain strip)

namespace Managed

namespace Image

open Layout

variable {m : Image} {edits : List Edit} {units : List UInt16}

theorem setAll_of_outside (h : ∀ e ∈ edits, ¬ m.model.shows e.index) : m.setAll edits = m := by
  induction edits with
  | nil => rfl
  | cons e edits ih =>
      rw [setAll_cons, set_eq, if_neg (h e List.mem_cons_self)]
      exact ih fun d hd => h d (List.mem_cons_of_mem e hd)

theorem visible_build (tag : UInt64) (h : units.length ≤ maxLength) :
    (build tag units).visible = units.length := by
  have hv := toInt_visible (build tag units)
  rw [toInt_length_build tag h] at hv
  omega

theorem units_build (tag : UInt64) (h : units.length ≤ maxLength) :
    (build tag units).units = units := by
  rw [(valid_build tag h).units_eq, visible_build tag h, model_build tag units h]
  exact List.take_length

theorem units_apply (m : Image) (edits : List Edit) (reads : List Int32) :
    (m.apply edits reads).value.2.units = (m.setAll edits).units := by
  rw [value_apply]

theorem report_of_outside (tag : UInt64) (h : units.length ≤ maxLength)
    (hedits : ∀ e ∈ edits, e.index.toInt < 0 ∨ units.length ≤ e.index.toInt)
    (reads : List Int32) :
    let r := ((build tag units).apply edits reads).value.2
    r.length.toInt = units.length ∧ r.units = units := by
  intro r
  have hset : (build tag units).setAll edits = build tag units := by
    apply setAll_of_outside
    rintro e he ⟨h0, h1⟩
    change e.index.toInt < (build tag units).length.toInt at h1
    rw [toInt_length_build tag h] at h1
    have ho := hedits e he
    omega
  have hlength : r.length = (build tag units).length := by rw [length_apply]
  have hunits : r.units = (build tag units).units := by rw [units_apply, hset]
  rw [hlength, hunits]
  exact ⟨toInt_length_build tag h, units_build tag h⟩

end Image

namespace Report

/-- The second line of the text tells the length, and the fourth one quotes the text. -/
structure Rows (text : String) (length literal : List Char) : Prop where
  length : (lines text)[1]? = some ("length    ".toList ++ length)
  literal : (lines text)[3]? = some ("text      ".toList ++ literal)

theorem rows_render (r : Report) :
    Rows (r.render plain) (integer r.length.toInt).toList
      (Quoted.encode (Utf16.decode r.units)) := by
  constructor
  · rw [r.lined_render.lines_eq, textLines]
    change some (fieldLine "length" _).toList = _
    rw [toList_fieldLine]
    rfl
  · rw [r.lined_render.lines_eq, textLines]
    change some (fieldLine "text" r.quoted).toList = _
    rw [toList_fieldLine, quoted, String.toList_ofList]
    rfl

end Report

end Managed

namespace Command

open Managed

variable {lib : Libraries} {s : Surroundings} {i : Invocation} {text : List Char}
  {edits : List Edit} {reads : List Int32}

theorem runInvocation_string (hr : i.request = .string text edits reads) (hj : i.json = false)
    (h : (Utf16.encode text).length ≤ Layout.maxLength) :
    let report := ((Image.build 0 (Utf16.encode text)).apply edits reads).value.2
    (runInvocation lib s i).exit = 0 ∧
      strip (runInvocation lib s i).output = report.render plain := by
  intro report
  have hplain : renderString lib.printer (i.style s.terminals.output) report =
      .ok (report.render (.ofBool (i.color.applies s.terminals.output))) := by
    rw [renderString, Invocation.style, hj]
    rfl
  have hv : (output lib.printer s i).value =
      .ok (report.render (.ofBool (i.color.applies s.terminals.output))) := by
    rw [output_string hr, stringOutput_of_le h]
    exact hplain
  rw [runInvocation_of_ok hv]
  exact ⟨rfl, (report.styled_render _).shows.strip_eq⟩

theorem runInvocation_tooLong (hr : i.request = .string text edits reads)
    (h : Layout.maxLength < (Utf16.encode text).length) :
    (runInvocation lib s i).exit = 1 ∧ (runInvocation lib s i).output = "" := by
  have ho : output lib.printer s i = pure (.error (.tooLong ⟨(Utf16.encode text).length⟩)) := by
    rw [output_string hr, stringOutput_of_lt h]
  rw [runInvocation_of_error ho]
  exact ⟨rfl, rfl⟩

/-- The row of the text, unescaped, is what the units show: each pair as the code point of the two,
each other surrogate as U+FFFD, and every other unit as itself, in or out of color. So a command on
a text that no edit reaches prints that text, the number of its units and the units. A text with
more units than a string can have is refused. -/
theorem text_row_shows :
    (∀ r : Report, ∃ length literal cs, Report.Rows (r.render plain) length literal ∧
      (∀ colors, strip (r.render (.ofBool colors)) = r.render plain) ∧
      Quoted.decode literal = some cs ∧ cs.map Char.toNat = Utf16.codePoints none r.units) ∧
    ∀ (lib : Libraries) (s : Surroundings) (i : Invocation) (text : List Char)
      (edits : List Edit) (reads : List Int32), i.request = .string text edits reads →
      i.json = false →
      let units := Utf16.encode text
      let o := runInvocation lib s i
      (∀ e ∈ edits, e.index.toInt < 0 ∨ units.length ≤ e.index.toInt) →
      (units.length ≤ Layout.maxLength → o.exit = 0 ∧ ∃ literal page,
        Report.Rows (strip o.output) (Nat.toDigits 10 units.length) literal ∧
        Quoted.decode literal = some text ∧
        Report.Page.ofText? (strip o.output) = some page ∧
        Dump 8 4 (units.map UInt16.toNat) page.rows) ∧
      (Layout.maxLength < units.length → o.exit = 1 ∧ o.output = "") := by
  refine ⟨fun r => ?_, ?_⟩
  · exact ⟨_, _, _, r.rows_render, fun colors => (r.styled_render colors).shows.strip_eq,
      Quoted.decode_encode _, Utf16.map_toNat_decode r.units nofun⟩
  · intro lib s i text edits reads hr hj units o hedits
    refine ⟨fun h => ?_, runInvocation_tooLong hr⟩
    obtain ⟨hexit, hstrip⟩ := runInvocation_string (s := s) hr hj h
    obtain ⟨hlength, hunits⟩ := Image.report_of_outside 0 h hedits reads
    generalize ((Image.build 0 (Utf16.encode text)).apply edits reads).value.2 = r at *
    have hrows := r.rows_render
    rw [hlength, hunits, Utf16.decode_encode] at hrows
    have hnumber : (integer units.length).toList = Nat.toDigits 10 units.length :=
      toList_integer_ofNat units.length
    have hdump : Dump 8 4 (units.map UInt16.toNat) r.page.rows := by
      rw [Report.page, hunits]
      exact dump_numberedRows (by decide) 4 _
    rw [hnumber, ← hstrip] at hrows
    exact ⟨hexit, _, _, hrows, Quoted.decode_encode text, hstrip ▸ r.ofText?_render, hdump⟩

/-- Two halves that are in the wrong order before a pair, and a text with a quote and a pair that
two edits miss. -/
theorem text_row_shows_halves :
    let r : Report := ⟨4, 20, [0xDE00, 0xD83D, 0xD83D, 0xDE00], [], []⟩
    let text := ['h', '"', Char.ofNat 0x1F600]
    let edits : List Edit := [⟨-1, 0x58⟩, ⟨4, 0x58⟩]
    let s : Surroundings := ⟨⟨fun _ => .error .notFound, 0⟩, none, none, ⟨false, false⟩⟩
    let o := runInvocation builtin s ⟨.string text edits [3], false, .always, 0⟩
    (∃ length literal cs, Report.Rows (r.render plain) length literal ∧
      Quoted.decode literal = some cs ∧ cs.map Char.toNat = [0xFFFD, 0xFFFD, 0x1F600]) ∧
    (∀ e ∈ edits, e.index.toInt < 0 ∨ (Utf16.encode text).length ≤ e.index.toInt) ∧
    o.exit = 0 ∧ ∃ literal, Report.Rows (strip o.output) ['4'] literal ∧
      Quoted.decode literal = some text := by
  intro r text edits s o
  obtain ⟨length, literal, cs, hrows, -, hdecode, hshown⟩ := text_row_shows.1 r
  have hedits : ∀ e ∈ edits,
      e.index.toInt < 0 ∨ (Utf16.encode text).length ≤ e.index.toInt := by decide
  have hlength : (Utf16.encode text).length ≤ Layout.maxLength := by decide
  obtain ⟨hexit, quoted, -, hprinted, hread, -⟩ :=
    (text_row_shows.2 builtin s ⟨.string text edits [3], false, .always, 0⟩ text edits [3] rfl rfl
      hedits).1
      hlength
  rw [show Nat.toDigits 10 (Utf16.encode text).length = ['4'] by decide] at hprinted
  exact ⟨⟨length, literal, cs, hrows, hdecode, hshown.trans (by decide)⟩, hedits, hexit, quoted,
    hprinted, hread⟩

end Command

end Interop
