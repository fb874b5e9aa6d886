import Interop.Managed.Rendering
import Interop.Proofs.Text.Controls
import Interop.Proofs.Rendering.Strip
import Interop.Sections.Report

namespace Interop

open Text

namespace Palette

theorem shows_unstyled {s : String} (h : Unstyled s) : Shows s s := by
  intro rest
  have hl : ∀ cs : List Char, (∀ c ∈ cs, isControl c = true → c = '\n') →
      stripFrom colored.sequences 0 (cs ++ rest.toList) =
        cs ++ stripFrom colored.sequences 0 rest.toList := by
    intro cs hcs
    induction cs with
    | nil => rfl
    | cons c cs ih =>
        have hc : c ≠ '\x1b' := by
          rintro rfl
          exact absurd (hcs '\x1b' List.mem_cons_self rfl) (by decide)
        rw [List.cons_append, stripFrom_cons hc, ih fun d hd => hcs d (List.mem_cons_of_mem c hd)]
        rfl
  apply String.toList_inj.1
  rw [toList_strip, String.toList_append, String.toList_append, toList_strip]
  exact hl s.toList h

theorem shows_sequence {s : String} (h : s.toList ∈ colored.sequences) : Shows s "" := by
  intro rest
  apply String.toList_inj.1
  rw [toList_strip, String.toList_append, String.empty_append, toList_strip]
  exact stripFrom_sequence h rest.toList

theorem Shows.paint {code text shown : String} (hc : code.toList ∈ colored.sequences)
    (h : Shows text shown) : Shows (colored.paint code text) shown := by
  have hne : code.isEmpty = false := by
    cases he : code.isEmpty with
    | false => rfl
    | true =>
        obtain rfl := String.isEmpty_iff.1 he
        exact absurd hc (by decide)
  have hr : Shows colored.reset "" := shows_sequence (by decide)
  have hp := ((shows_sequence hc).append h).append hr
  rw [String.empty_append, String.append_empty] at hp
  rw [Palette.paint, hne]
  exact hp

/-- A text that shows another one, which has no escape of its own. -/
structure Styled (text shown : String) : Prop where
  shows : Shows text shown
  unstyled : Unstyled shown

namespace Styled

variable {text text' shown shown' : String}

theorem append (h : Styled text shown) (h' : Styled text' shown') :
    Styled (text ++ text') (shown ++ shown') :=
  ⟨h.shows.append h'.shows, h.unstyled.append h'.unstyled⟩

theorem join {α : Type} {f g : α → String} {l : List α} (h : ∀ a ∈ l, Styled (f a) (g a)) :
    Styled (String.join (l.map f)) (String.join (l.map g)) := by
  refine ⟨Shows.join fun a ha => (h a ha).shows, Unstyled.join fun s hs => ?_⟩
  obtain ⟨a, ha, rfl⟩ := List.mem_map.1 hs
  exact (h a ha).unstyled

theorem strip_eq (h : Styled text shown) :
    strip text = strip shown ∧ Unstyled shown ∧ strip text = shown :=
  ⟨h.shows.strip_eq.trans (shows_unstyled h.unstyled).strip_eq.symm, h.unstyled, h.shows.strip_eq⟩

end Styled

variable {text : String}

theorem styled_literal (h : Unstyled text) : Styled text text := ⟨shows_unstyled h, h⟩

theorem styled_empty : Styled "" "" := styled_literal (by decide)

theorem styled_lineFeed : Styled "\n" "\n" := styled_literal (by decide)

theorem styled_paint (colors : Bool) (code : Palette → String)
    (hplain : code plain = "") (hcode : (code colored).toList ∈ colored.sequences)
    (h : Bare text) : Styled ((ofBool colors).paint (code (ofBool colors)) text) text := by
  refine ⟨?_, h.unstyled⟩
  cases colors with
  | false =>
      change Shows (plain.paint (code plain) text) text
      rw [hplain]
      exact shows_unstyled h.unstyled
  | true => exact (shows_unstyled h.unstyled).paint hcode

variable (colors : Bool)

theorem styled_paintName (h : Bare text) : Styled ((ofBool colors).paintName text) text :=
  styled_paint colors name rfl (by decide) h

theorem styled_paintValue (h : Bare text) : Styled ((ofBool colors).paintValue text) text :=
  styled_paint colors value rfl (by decide) h

theorem styled_paintDim (h : Bare text) : Styled ((ofBool colors).paintDim text) text :=
  styled_paint colors dim rfl (by decide) h

theorem strip_append_break {c : Char} (hc : Breaks colored.sequences c) (text : String)
    {mark : String} (hm : mark.toList.head? = some c) (rest : String) :
    strip (text ++ (mark ++ rest)) = strip text ++ strip (mark ++ rest) := by
  obtain ⟨cs, hm⟩ := List.head?_eq_some_iff.1 hm
  apply String.toList_inj.1
  rw [String.toList_append, toList_strip, toList_strip, toList_strip, String.toList_append,
    String.toList_append, hm]
  exact stripFrom_append_break hc 0 text.toList (cs ++ rest.toList) (Nat.zero_le _)

/-- A value that may hold escapes itself. What it begins neither a reset nor the end of the line
completes, so it shows the same with and without paint. -/
theorem shows_anyValue (text : String) :
    Shows ((ofBool colors).paintValue text ++ "\n") (strip text ++ "\n") := by
  intro rest
  have hn : Shows "\n" "\n" := shows_unstyled (by decide)
  cases colors with
  | false =>
      change strip (text ++ "\n" ++ rest) = _
      rw [String.append_assoc, strip_append_break breaks_lineFeed text rfl, hn,
        ← String.append_assoc]
  | true =>
      have hv : Shows colored.value "" := shows_sequence (by decide)
      have hr : Shows colored.reset "" := shows_sequence (by decide)
      change strip (colored.value ++ text ++ colored.reset ++ "\n" ++ rest) = _
      rw [String.append_assoc, String.append_assoc, String.append_assoc, hv, String.empty_append,
        strip_append_break breaks_escape text rfl, hr, hn, String.empty_append,
        ← String.append_assoc]

end Palette

open Palette

namespace Managed

namespace LayoutReport

variable (colors : Bool) {name suffix : String}

theorem styled_label (h : Bare name) : Styled (label (ofBool colors) name) (label plain name) :=
  (styled_paintName colors (h.padRight 11)).append (styled_literal (by decide))

theorem styled_field (h : Bare name) (offset size : Nat) (hs : Unstyled suffix) :
    Styled (field (ofBool colors) name offset size suffix)
      (field plain name offset size suffix) := by
  have ho : Bare ("0x" ++ wideHex 2 offset) := Bare.append (by decide) (bare_wideHex 2 offset)
  exact (styled_label colors h).append (styled_paintDim colors ho)
    |>.append (styled_literal (by decide))
    |>.append (styled_paintValue colors (bare_decimal size))
    |>.append (styled_literal hs)
    |>.append styled_lineFeed

theorem styled_render (r : LayoutReport) :
    Styled (r.render (ofBool colors)) (r.render plain) := by
  have htitle : Bare "[ManagedString]" := by decide
  have hnumber (n : Nat) := styled_paintValue colors (bare_decimal n)
  exact (styled_paintDim colors htitle).append styled_lineFeed
    |>.append (styled_field colors (by decide) _ _ (by decide))
    |>.append (styled_field colors (by decide) _ _ (by decide))
    |>.append (styled_field colors (by decide) _ _ (by decide))
    |>.append (styled_label colors (by decide))
    |>.append (hnumber r.alignment)
    |>.append styled_lineFeed
    |>.append (styled_label colors (by decide))
    |>.append (hnumber r.unitsOffset)
    |>.append (styled_literal (by decide))
    |>.append (hnumber r.unitSize)
    |>.append (styled_literal (by decide))

end LayoutReport

namespace Report

variable (colors : Bool)

theorem styled_field {name text : String} (hn : Bare name) (ht : Bare text) :
    Styled (field (ofBool colors) name text) (field plain name text) :=
  (styled_paintName colors (hn.padRight 8)).append (styled_literal (by decide))
    |>.append (styled_paintValue colors ht)
    |>.append styled_lineFeed

theorem styled_table {α : Type} {title : String} (ht : Bare title) {f g : α → String}
    {l : List α} (h : ∀ a ∈ l, Styled (f a) (g a)) :
    Styled (table (ofBool colors) title (l.map f)) (table plain title (l.map g)) := by
  cases l with
  | nil => exact styled_empty
  | cons a l =>
      exact styled_lineFeed.append (styled_paintDim colors ht)
        |>.append styled_lineFeed
        |>.append (Styled.join h)

theorem styled_accessRow (index : Int32) (unit : UInt16) :
    Styled (accessRow (ofBool colors) index unit) (accessRow plain index unit) :=
  (styled_paintName colors ((bare_integer index.toInt).padRight 4)).append
    (styled_paintValue colors (bare_unitName unit))

theorem styled_writeRow (w : Write) :
    Styled (writeRow (ofBool colors) w) (writeRow plain w) := by
  refine (styled_accessRow colors w.index w.unit).append ?_ |>.append styled_lineFeed
  cases w.applied with
  | true => exact styled_empty
  | false => exact (styled_literal (by decide)).append (styled_paintDim colors (by decide))

theorem styled_readRow (r : Read) : Styled (readRow (ofBool colors) r) (readRow plain r) :=
  (styled_accessRow colors r.index r.unit).append styled_lineFeed

theorem styled_unitRow (offset : Nat) (units : List UInt16) :
    Styled (unitRow (ofBool colors) offset units) (unitRow plain offset units) := by
  have hu : Bare (" ".intercalate (units.map fun u => wideHex 4 u.toNat)) := by
    refine Bare.intercalate (by decide) fun s hs => ?_
    obtain ⟨u, -, rfl⟩ := List.mem_map.1 hs
    exact bare_wideHex 4 u.toNat
  exact (styled_paintDim colors (bare_wideHex 4 offset)).append (styled_literal (by decide))
    |>.append (styled_paintValue colors hu)
    |>.append styled_lineFeed

theorem styled_render (r : Report) : Styled (r.render (ofBool colors)) (r.render plain) := by
  have htitle : Bare "[string]" := by decide
  exact (styled_paintDim colors htitle).append styled_lineFeed
    |>.append (styled_field colors (by decide) (bare_integer r.length.toInt))
    |>.append (styled_field colors (by decide) (bare_decimal r.occupied))
    |>.append (styled_field colors (by decide) (bare_quoted (Utf16.decode r.units)))
    |>.append (styled_table colors (by decide) fun w _ => styled_writeRow colors w)
    |>.append (styled_table colors (by decide) fun a _ => styled_readRow colors a)
    |>.append (styled_table colors (by decide) fun row _ => styled_unitRow colors row.1 row.2)

end Report

end Managed

namespace Sections.Report

variable (colors : Bool)

theorem styled_label {name : String} (h : Bare name) :
    Styled (label (ofBool colors) name) (label plain name) :=
  (styled_paintName colors (h.padRight 5)).append (styled_literal (by decide))

theorem styled_byteRow (offset : Nat) (bytes : List UInt8) :
    Styled (byteRow (ofBool colors) offset bytes) (byteRow plain offset bytes) := by
  have hb : Bare (" ".intercalate (bytes.map fun b => wideHex 2 b.toNat)) := by
    refine Bare.intercalate (by decide) fun s hs => ?_
    obtain ⟨b, -, rfl⟩ := List.mem_map.1 hs
    exact bare_wideHex 2 b.toNat
  exact (styled_paintDim colors (bare_wideHex 8 offset)).append (styled_literal (by decide))
    |>.append (styled_paintValue colors hb)
    |>.append styled_lineFeed

theorem styled_dump (shown : List UInt8) :
    Styled (dump (ofBool colors) shown) (dump plain shown) := by
  cases shown with
  | nil => exact styled_empty
  | cons b shown =>
      exact styled_lineFeed.append (styled_paintDim colors (by decide))
        |>.append styled_lineFeed
        |>.append (Styled.join fun row _ => styled_byteRow colors row.1 row.2)

/-- The name is the one text that is not escaped, so it shows what is left of it. -/
theorem shows_render (r : Report) (bytes : List UInt8) (head : Nat) :
    Shows (r.render (ofBool colors) bytes head)
      ({ r with name := strip r.name }.render plain bytes head) := by
  have htitle : Bare "[section]" := by decide
  have hline : Shows (label (ofBool colors) "name" ++ ((ofBool colors).paintValue r.name ++ "\n"))
      (label plain "name" ++ (strip r.name ++ "\n")) :=
    (styled_label colors (by decide)).shows.append (shows_anyValue colors r.name)
  have hrest := (styled_label colors (by decide : Bare "start")).append
      (styled_paintDim colors (bare_address r.start.toNat))
    |>.append styled_lineFeed
    |>.append (styled_label colors (by decide : Bare "size"))
    |>.append (styled_paintValue colors (bare_decimal r.size.toNat))
    |>.append styled_lineFeed
    |>.append (styled_dump colors (bytes.take head))
  have hall := ((styled_paintDim colors htitle).append styled_lineFeed).shows.append hline
    |>.append hrest.shows
  simp only [String.append_assoc] at hall
  simp only [Report.render, String.append_assoc]
  exact hall

end Sections.Report

/-- Color changes no content: what is left of a colored report, and what is left of the plain one,
is the same, also where a section's name holds escapes itself. In the reports on the layout and on
a string no text can hold any, so there the plain report is all that is left. -/
theorem Palette.strip_render :
    (∀ r : Managed.LayoutReport, strip (r.render colored) = strip (r.render plain) ∧
      Unstyled (r.render plain) ∧ strip (r.render colored) = r.render plain) ∧
    (∀ r : Managed.Report, strip (r.render colored) = strip (r.render plain) ∧
      Unstyled (r.render plain) ∧ strip (r.render colored) = r.render plain) ∧
    ∀ (r : Sections.Report) (bytes : List UInt8) (head : Nat),
      strip (r.render colored bytes head) = strip (r.render plain bytes head) := by
  refine ⟨fun r => (r.styled_render true).strip_eq, fun r => (r.styled_render true).strip_eq, ?_⟩
  intro r bytes head
  have hon := r.shows_render true bytes head
  have hoff := r.shows_render false bytes head
  exact hon.strip_eq.trans hoff.strip_eq.symm

end Interop
