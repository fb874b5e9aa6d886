import Interop.Command.Run
import Interop.Proofs.Files
import Interop.Proofs.Json.Reports
import Interop.Proofs.Managed.Apply
import Interop.Proofs.Sections.Memory

namespace Interop.Command

open Text Sections

/-- Whatever is loaded comes to lie in memory that ends at an address. -/
def Source.Fits (source : Source) : Prop :=
  ∀ (path : Loose) (content : List UInt8), source.load path = .ok content →
    Region.Fits ⟨source.base, content⟩

theorem Source.fits_of_files {fs : Files} {base : UInt64}
    (h : ∀ entry ∈ fs.files, Region.Fits ⟨base, entry.2⟩) : Source.Fits ⟨fs.load, base⟩ := by
  intro path content hl
  obtain ⟨entry, hmem, rfl⟩ := Files.exists_of_load hl
  exact h entry hmem

variable {printer : Json.Printer} {source : Source} {path : Loose} {content : List UInt8}

theorem sectionOutput_of_error {cause : LoadFailure} (h : source.load path = .error cause)
    (style : Style) (head : Nat) :
    sectionOutput printer style source path head = pure (.error (.load ⟨path, cause⟩)) := by
  rw [sectionOutput, loadRegion, h]
  rfl

theorem bind_mk {α β : Type} (a : α) (log : List Event) (f : α → Logged β) :
    (⟨a, log⟩ >>= f : Logged β) = ⟨(f a).value, log ++ (f a).log⟩ := rfl

theorem sectionOutput_of_ok (h : source.load path = .ok content)
    (hfits : Region.Fits ⟨source.base, content⟩) (style : Style) (head : Nat) :
    let size := UInt64.ofNat content.length
    sectionOutput printer style source path head =
      ⟨renderSection printer style ⟨path.display, source.base, size⟩ content head,
        [.loaded content.length path.display, .resolved path.display source.base size,
          .resolved path.display source.base size]⟩ := by
  intro size
  have hm : Extent.ofMarkers (Section.ofRegion path.display ⟨source.base, content⟩).markers =
      .ok ⟨source.base, size⟩ := hfits.ofMarkers
  have hlog : (Section.ofRegion path.display ⟨source.base, content⟩).announced =
      [.resolved path.display source.base size] := by
    rw [Section.announced, hm]
    rfl
  have hread : (Region.mk source.base content).read ⟨source.base, size⟩ = content :=
    hfits.read_whole
  have hload : loadRegion source path =
      ⟨.ok ⟨source.base, content⟩, [.loaded content.length path.display]⟩ := by
    rw [loadRegion, h]
    rfl
  simp only [sectionOutput, hload, bind_mk, Section.resolve?_eq, Section.bytes_eq, hm, hlog,
    Except.map, hread]
  rfl

variable {text : List Char}

theorem stringOutput_of_lt (h : Managed.Layout.maxLength < (Utf16.encode text).length)
    (style : Style) (edits : List Managed.Edit) (reads : List Int32) :
    stringOutput printer style text edits reads =
      pure (.error (.tooLong ⟨(Utf16.encode text).length⟩)) := by
  rw [stringOutput, Managed.Image.ofUnits_of_lt 0 h]

theorem stringOutput_of_le (h : (Utf16.encode text).length ≤ Managed.Layout.maxLength)
    (style : Style) (edits : List Managed.Edit) (reads : List Int32) :
    let answer := (Managed.Image.build 0 (Utf16.encode text)).apply edits reads
    stringOutput printer style text edits reads =
      ⟨renderString printer style answer.value.2, answer.log⟩ := by
  intro answer
  rw [stringOutput, Managed.Image.ofUnits_of_le 0 h]
  change Logged.mk _ (answer.log ++ []) = _
  rw [List.append_nil]
  rfl

theorem ne_empty_of_mem {s : String} {c : Char} (h : c ∈ s.toList) : s ≠ "" := by
  rintro rfl
  cases h

theorem exists_rendered (hp : printer.Standard) (style : Style) (j : Json) {text : String}
    (ht : '\n' ∈ text.toList) :
    ∃ answer, (if style.json then toJson printer j else .ok text) = .ok answer ∧ answer ≠ "" := by
  cases style.json with
  | true =>
      obtain ⟨body, hbody, -⟩ := Json.toJson_eq_ok hp j
      exact ⟨body ++ "\n", by rw [if_pos rfl, hbody], ne_empty_of_mem (c := '\n') (by simp)⟩
  | false => exact ⟨text, rfl, ne_empty_of_mem ht⟩

theorem exists_renderLayout (hp : printer.Standard) (style : Style) (r : Managed.LayoutReport) :
    ∃ answer, renderLayout printer style r = .ok answer ∧ answer ≠ "" :=
  exists_rendered hp style r.json (by simp [Managed.LayoutReport.render])

theorem exists_renderString (hp : printer.Standard) (style : Style) (r : Managed.Report) :
    ∃ answer, renderString printer style r = .ok answer ∧ answer ≠ "" :=
  exists_rendered hp style r.json (by simp [Managed.Report.render])

theorem exists_renderSection (hp : printer.Standard) (style : Style) (r : Sections.Report)
    (bytes : List UInt8) (head : Nat) :
    ∃ answer, renderSection printer style r bytes head = .ok answer ∧ answer ≠ "" :=
  exists_rendered hp style r.json (by simp [Sections.Report.render])

/-- Why a request that was understood gets no answer. -/
inductive Fails (source : Source) : Request → CommandError → Prop
  | load {path : Loose} {cause : LoadFailure} (h : source.load path = .error cause) (head : Nat) :
      Fails source (.blob path head) (.load ⟨path, cause⟩)
  | tooLong {text : List Char} (h : Managed.Layout.maxLength < (Utf16.encode text).length)
      (edits : List Managed.Edit) (reads : List Int32) :
      Fails source (.string text edits reads) (.tooLong ⟨(Utf16.encode text).length⟩)

/-- What a request is answered with. -/
inductive Answers (printer : Json.Printer) (source : Source) (style : Style) :
    Request → String → Prop
  | layout {answer : String} (hr : renderLayout printer style .actual = .ok answer) :
      Answers printer source style .layout answer
  | blob {path : Loose} {content : List UInt8} {head : Nat} {answer : String}
      (h : source.load path = .ok content)
      (hr : renderSection printer style ⟨path.display, source.base, UInt64.ofNat content.length⟩
        content head = .ok answer) : Answers printer source style (.blob path head) answer
  | string {text : List Char} {edits : List Managed.Edit} {reads : List Int32} {answer : String}
      (h : (Utf16.encode text).length ≤ Managed.Layout.maxLength)
      (hr : renderString printer style
        ((Managed.Image.build 0 (Utf16.encode text)).apply edits reads).value.2 = .ok answer) :
      Answers printer source style (.string text edits reads) answer

variable {s : Surroundings} {i : Invocation} {style : Style} {request : Request} {answer : String}
  {e : CommandError}

theorem Answers.ne_empty (hp : printer.Standard)
    (h : Answers printer source style request answer) : answer ≠ "" := by
  have hsame {x : Except CommandError String} (hx : ∃ other, x = .ok other ∧ other ≠ "")
      (ha : x = .ok answer) : answer ≠ "" := by
    obtain ⟨other, ho, hne⟩ := hx
    exact Except.ok.inj (ho.symm.trans ha) ▸ hne
  cases h with
  | layout hr => exact hsame (exists_renderLayout hp _ _) hr
  | blob _ hr => exact hsame (exists_renderSection hp _ _ _ _) hr
  | string _ hr => exact hsame (exists_renderString hp _ _) hr

theorem Answers.not_fails (h : Answers printer source style request answer) :
    ¬ Fails source request e := by
  intro he
  cases he with
  | load hl =>
      cases h with
      | blob h => rw [h] at hl; cases hl
  | tooLong hl =>
      cases h with
      | string h => exact Nat.not_le.2 hl h

theorem Fails.unique {e' : CommandError} (h : Fails source request e)
    (h' : Fails source request e') : e = e' := by
  cases h with
  | load hl =>
      cases h' with
      | load hl' =>
          rw [hl] at hl'
          cases hl'
          rfl
  | tooLong =>
      cases h'
      rfl

theorem output_layout (h : i.request = .layout) :
    output printer s i = pure (renderLayout printer (i.style s.terminals.output) .actual) := by
  rw [output, h]
  rfl

theorem output_blob {head : Nat} (h : i.request = .blob path head) :
    output printer s i =
      sectionOutput printer (i.style s.terminals.output) s.source path head := by
  rw [output, h]

theorem output_string {edits : List Managed.Edit} {reads : List Int32}
    (h : i.request = .string text edits reads) :
    output printer s i =
      stringOutput printer (i.style s.terminals.output) text edits reads := by
  rw [output, h]

theorem output_cases (hp : printer.Standard) (hs : s.source.Fits) (i : Invocation) :
    (∃ e, Fails s.source i.request e ∧ output printer s i = pure (.error e)) ∨
      ∃ answer, Answers printer s.source (i.style s.terminals.output) i.request answer ∧
        (output printer s i).value = .ok answer := by
  cases hr : i.request with
  | layout =>
      obtain ⟨answer, ha, -⟩ := exists_renderLayout hp (i.style s.terminals.output) .actual
      refine .inr ⟨answer, .layout ha, ?_⟩
      rw [output_layout hr]
      exact ha
  | blob path head =>
      cases hl : s.source.load path with
      | error cause =>
          refine .inl ⟨_, .load hl head, ?_⟩
          rw [output_blob hr, sectionOutput_of_error hl]
      | ok content =>
          obtain ⟨answer, ha, -⟩ := exists_renderSection hp (i.style s.terminals.output)
            ⟨path.display, s.source.base, UInt64.ofNat content.length⟩ content head
          refine .inr ⟨answer, .blob hl ha, ?_⟩
          rw [output_blob hr, sectionOutput_of_ok hl (hs path content hl)]
          exact ha
  | string text edits reads =>
      by_cases ht : (Utf16.encode text).length ≤ Managed.Layout.maxLength
      · obtain ⟨answer, ha, -⟩ := exists_renderString hp (i.style s.terminals.output)
          ((Managed.Image.build 0 (Utf16.encode text)).apply edits reads).value.2
        refine .inr ⟨answer, .string ht ha, ?_⟩
        rw [output_string hr, stringOutput_of_le ht]
        exact ha
      · have hlt := Nat.not_le.1 ht
        refine .inl ⟨_, .tooLong hlt edits reads, ?_⟩
        rw [output_string hr, stringOutput_of_lt hlt]

end Interop.Command
