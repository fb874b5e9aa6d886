import Interop.Proofs.Command.Answers
import Interop.Proofs.Rendering.Colors
import Interop.Proofs.Rendering.SectionReport

namespace Interop.Sections

open Command Text

namespace Request

/-- What is replied where the markers give `e` and `shown` lies there. -/
def granted (e : Extent) (shown : List UInt8) : Request → Reply
  | .direct | .attempt => .extent (.ok e)
  | .demand => .demanded (.ok e)
  | .bytes => .bytes (.ok shown)

/-- Whoever goes by the markers alone leaves no record. -/
def records (name : String) (e : Extent) : Request → List Event
  | .direct => []
  | .attempt | .demand | .bytes => [.resolved name e.start e.size]

end Request

namespace Section

variable {s : Section} {e : Extent}

theorem ask_of_ofMarkers (h : Extent.ofMarkers s.markers = .ok e) (memory : Region)
    (r : Request) :
    s.ask memory r = ⟨r.granted e (memory.read e), r.records s.name e⟩ := by
  have hlog : s.announced = [.resolved s.name e.start e.size] := by
    rw [announced, h]
  cases r with
  | direct => rw [ask, h]; rfl
  | attempt => rw [ask, resolve?_eq, h, hlog]; rfl
  | demand => rw [ask, resolve_eq, h, hlog]; rfl
  | bytes => rw [ask, bytes_eq, h, hlog]; rfl

theorem askAll_of_ofMarkers (h : Extent.ofMarkers s.markers = .ok e) (memory : Region)
    (requests : List Request) :
    s.askAll memory requests = ⟨requests.map (Request.granted e (memory.read e)),
      requests.flatMap (Request.records s.name e)⟩ := by
  induction requests with
  | nil => rfl
  | cons r rs ih =>
      rw [askAll, ask_of_ofMarkers h, ih]
      change Logged.mk _ (_ ++ (_ ++ [])) = _
      rw [List.append_nil]
      rfl

end Section

/-- What the log is told of a section that resolves. -/
def announcement (name : String) (e : Extent) : Record where
  level := .debug
  origin := "kbridge_abi::section::provider"
  message := "section `" ++ name ++ "` resolved: " ++ address e.start.toNat ++ " + " ++
    decimal e.size.toNat ++ " bytes"

/-- However often and by whichever request the provider's section is asked for, the reply is the
same extent, from `start` on and over the bytes `shown`, or these bytes themselves. Every request
but the one by the markers alone leaves one record under the name. -/
def Finds {α : Type} [Provider α] (p : α) (name : String) (memory : Region) (start : Nat)
    (shown : List UInt8) : Prop :=
  ∃ e : Extent, e.start.toNat = start ∧ e.size.toNat = shown.length ∧
    e.stop.toNat = start + shown.length ∧
    ∀ requests, let run := (Section.ofProvider p).askAll memory requests
      run.value = requests.map (Request.granted e shown) ∧
      run.log = requests.flatMap (Request.records name e) ∧
      ∀ event ∈ run.log, event.record = announcement name e

variable {memory : Region} {first last : Nat} {α : Type} [Provider α] {p : α}

theorem record_of_mem_records {name : String} {e : Extent} {requests : List Request} {event : Event}
    (h : event ∈ requests.flatMap (Request.records name e)) :
    event.record = announcement name e := by
  obtain ⟨r, -, h⟩ := List.mem_flatMap.1 h
  cases r with
  | direct => cases h
  | attempt | demand | bytes =>
      obtain rfl := List.mem_singleton.1 h
      rfl

theorem finds_between (hle : first ≤ last) (hl : last ≤ memory.bytes.length)
    (hstart : (Provider.markers p).start.toNat = memory.base.toNat + first)
    (hstop : (Provider.markers p).stop.toNat = memory.base.toNat + last) :
    Finds p (Provider.name p) memory (memory.base.toNat + first)
      ((memory.bytes.drop first).take (last - first)) := by
  have hlength : ((memory.bytes.drop first).take (last - first)).length = last - first :=
    Region.length_part hl
  have hordered : (Provider.markers p).start ≤ (Provider.markers p).stop := by
    rw [UInt64.le_iff_toNat_le, hstart, hstop]
    omega
  let e : Extent :=
    ⟨(Provider.markers p).start, (Provider.markers p).stop - (Provider.markers p).start⟩
  have hm : Extent.ofMarkers (Section.ofProvider p).markers = .ok e :=
    Extent.ofMarkers_of_le hordered
  have hsize : e.size.toNat = last - first := by
    rw [UInt64.toNat_sub_of_le _ _ hordered, hstart, hstop]
    omega
  have hend := congrArg Markers.stop (Extent.markers_of_ofMarkers hm)
  refine ⟨e, hstart, hsize.trans hlength.symm, ?_, fun requests => ?_⟩
  · rw [hlength, Nat.add_assoc, Nat.add_sub_cancel' hle, ← hstop]
    exact congrArg UInt64.toNat hend
  · have hrun := Section.askAll_of_ofMarkers hm memory requests
    rw [Region.read_between hstart hsize] at hrun
    rw [hrun]
    exact ⟨rfl, rfl, fun event => record_of_mem_records⟩

/-- What the command on sections prints of a file: that it lies at `source.base`, how many bytes it
has, and the first of them. A palette leaves what it left of the name. -/
structure Tells (style : Style) (source : Source) (path : Loose) (content : List UInt8) (head : Nat)
    (size : UInt64) (answer : String) : Prop where
  plain : style = ⟨false, .plain⟩ → ∃ page, Report.Page.ofText? answer = some page ∧
    page.report = ⟨path.display, source.base, size⟩ ∧ page.shown = content.take head
  painted : ∀ colors, style = ⟨false, .ofBool colors⟩ →
    ∃ page, Report.Page.ofText? (Palette.strip answer) = some page ∧
      page.report = ⟨Palette.strip path.display, source.base, size⟩ ∧
      page.shown = content.take head
  json : style.json = true →
    (Json.read answer).bind Report.ofJson? = some ⟨path.display, source.base, size⟩

theorem exists_tells {printer : Json.Printer} (hp : printer.Standard) (style : Style)
    (source : Source) (path : Loose) (content : List UInt8) (head : Nat) (size : UInt64) :
    ∃ answer, renderSection printer style ⟨path.display, source.base, size⟩ content head =
      .ok answer ∧ Tells style source path content head size answer := by
  have hpage (r : Report) : ∃ page, Report.Page.ofText? (r.render .plain content head) = some page ∧
      page.report = r ∧ page.shown = content.take head :=
    ⟨_, r.ofText?_render content head, rfl, r.shown_page (content.take head)⟩
  cases hj : style.json with
  | true =>
      obtain ⟨body, hbody, hs⟩ :=
        Json.toJson_eq_ok hp (Report.json ⟨path.display, source.base, size⟩)
      refine ⟨body ++ "\n", by rw [renderSection, if_pos hj, hbody], ?_, ?_, fun _ => ?_⟩
      · rintro rfl
        cases hj
      · rintro colors rfl
        cases hj
      · rw [hs.read (by decide : Json.Space "\n".toList), Option.bind_some, Report.ofJson?_json]
  | false =>
      refine ⟨_, by rw [renderSection, hj]; rfl, ?_, ?_, fun h => by rw [h] at hj; cases hj⟩
      · rintro rfl
        exact hpage _
      · rintro colors rfl
        rw [(Report.shows_render colors _ content head).strip_eq]
        exact hpage _

/-- A region of memory comes back as it is, to the byte and at its own address, whoever provides
it: where it lies, as a copy elsewhere, between two symbols, or by any provider that reports its
first address and its end. The command on sections does the same for a file. -/
theorem region_round_trip {printer : Json.Printer} (hp : printer.Standard) (hm : memory.Fits)
    (hle : first ≤ last) (hl : last ≤ memory.bytes.length) (name : String) :
    let shown := (memory.bytes.drop first).take (last - first)
    let start := memory.base.toNat + first
    let stop := memory.base.toNat + last
    shown.length = last - first ∧
    Finds (⟨name, memory.part first last⟩ : Embedded) name memory start shown ∧
    (∀ address : UInt64, Region.Fits ⟨address, shown⟩ →
      Finds (Owned.ofBytes name address shown) name ⟨address, shown⟩ address.toNat shown) ∧
    (∀ bounds : Unit → Markers, (bounds ()).start.toNat = start → (bounds ()).stop.toNat = stop →
      Finds (⟨name, bounds⟩ : Linked) name memory start shown) ∧
    (∀ (α : Type) [Provider α] (p : α), (Provider.markers p).start.toNat = start →
      (Provider.markers p).stop.toNat = stop →
      Finds p (Provider.name p) memory start shown) ∧
    ∀ (source : Source) (path : Loose) (content : List UInt8) (style : Style) (head : Nat),
      source.load path = .ok content → Region.Fits ⟨source.base, content⟩ →
        ∃ (size : UInt64) (answer : String), size.toNat = content.length ∧
          sectionOutput printer style source path head =
            ⟨.ok answer, [.loaded content.length path.display,
              .resolved path.display source.base size, .resolved path.display source.base size]⟩ ∧
          Tells style source path content head size answer := by
  intro shown start stop
  have hlength : shown.length = last - first := Region.length_part hl
  refine ⟨hlength, ?_, fun address hfits => ?_, fun bounds hstart hstop => ?_,
    fun α _ p hstart hstop => finds_between hle hl hstart hstop, ?_⟩
  · have hpart := hm.part hle hl
    have hbase := hm.toNat_base_part hle hl
    have hstop := hpart.toNat_stop
    rw [Region.length_part hl, hbase] at hstop
    exact finds_between hle hl hbase (hstop.trans (by omega))
  · have hwhole : (shown.drop 0).take (shown.length - 0) = shown := by
      rw [List.drop_zero, Nat.sub_zero, List.take_length]
    have hfinds : Finds (Owned.ofBytes name address shown) name ⟨address, shown⟩
        (address.toNat + 0) ((shown.drop 0).take (shown.length - 0)) :=
      finds_between (Nat.zero_le _) (Nat.le_refl _) rfl hfits.toNat_stop
    rwa [hwhole] at hfinds
  · exact finds_between hle hl hstart hstop
  · intro source path content style head hload hfits
    obtain ⟨answer, ha, ht⟩ := exists_tells hp style source path content head
      (UInt64.ofNat content.length)
    refine ⟨_, answer, UInt64.toNat_ofNat_of_lt' hfits.length_lt, ?_, ht⟩
    rw [sectionOutput_of_ok hload hfits style head, ha]

/-- Two bytes before the end of the address space, the empty region behind them, and a file. -/
theorem region_round_trip_top :
    let memory : Region := ⟨0xFFFFFFFFFFFFFFF0, [1, 2, 3, 4]⟩
    let source : Source := ⟨fun _ => .ok [7, 8], 0x10000⟩
    memory.Fits ∧
      Finds (⟨"tail", memory.part 2 4⟩ : Embedded) "tail" memory 0xFFFFFFFFFFFFFFF2 [3, 4] ∧
      Finds (⟨"none", fun _ => ⟨0xFFFFFFFFFFFFFFF4, 0xFFFFFFFFFFFFFFF4⟩⟩ : Linked) "none" memory
        0xFFFFFFFFFFFFFFF4 [] ∧
      Finds (Owned.ofBytes "tail" 16 [3, 4]) "tail" ⟨16, [3, 4]⟩ 16 [3, 4] ∧
      ∃ (size : UInt64) (answer : String), size.toNat = 2 ∧
        (sectionOutput Json.writer ⟨false, .plain⟩ source (Loose.ofString "f") 1).value =
          .ok answer ∧ Tells ⟨false, .plain⟩ source (Loose.ofString "f") [7, 8] 1 size answer := by
  intro memory source
  have hm : memory.Fits := by decide
  obtain ⟨-, hembedded, howned, -, -, hfile⟩ :=
    @region_round_trip memory 2 4 Json.writer Json.writer_standard hm (by decide) (by decide) "tail"
  obtain ⟨-, -, -, hlinked, -⟩ :=
    @region_round_trip memory 4 4 Json.writer Json.writer_standard hm (by decide) (by decide) "none"
  obtain ⟨size, answer, hsize, houtput, ht⟩ :=
    hfile source (Loose.ofString "f") [7, 8] ⟨false, .plain⟩ 1 rfl (by decide)
  exact ⟨hm, hembedded, hlinked _ (by decide) (by decide), howned 16 (by decide),
    size, answer, hsize, by rw [houtput], ht⟩

end Interop.Sections
