import Interop.Proofs.Command.Outcome
import Interop.Proofs.Command.Verbosity
import Interop.Proofs.Log

namespace Interop

/-- The event as it were if the section lay elsewhere. -/
def Event.relocate (base : UInt64) : Event → Event
  | .resolved name _ size => .resolved name base size
  | e => e

namespace Command

open Text Sections Arguments

/-- Two texts, the same but for the address that stands in one place of them, or the documents of
two reports that are the same but for it. -/
inductive SameButStart (printer : Json.Printer) (a b : UInt64) : String → String → Prop
  | same (text : String) : SameButStart printer a b text text
  | address (before behind : String) :
      SameButStart printer a b (before ++ Text.address a.toNat ++ behind)
        (before ++ Text.address b.toNat ++ behind)
  | json {name : String} {size : UInt64} {x y : String}
      (hx : toJson printer (Report.mk name a size).json = .ok x)
      (hy : toJson printer (Report.mk name b size).json = .ok y) : SameButStart printer a b x y

variable {lib : Libraries} {printer : Json.Printer}

theorem SameButStart.eq {a : UInt64} {x y : String} (h : SameButStart printer a a x y) :
    x = y := by
  cases h with
  | same | address => rfl
  | json hx hy => exact Except.ok.inj (hx.symm.trans hy)

def errorLine : Except CommandError String → String
  | .ok _ => ""
  | .error e => "error: " ++ e.message ++ "\n"

/-- What is shown of the log where `-v` has so many letters and nothing else is asked for. -/
def shownAt : Nat → List Event → List Event
  | 0, _ => []
  | 1, records => records.filter fun e => e.level = .debug
  | _ + 2, records => records

theorem exists_paint (p : Palette) (code : String) :
    ∃ before behind, ∀ text, p.paint code text = before ++ text ++ behind := by
  cases h : code.isEmpty with
  | true => exact ⟨"", "", fun text => by simp [Palette.paint, h]⟩
  | false => exact ⟨code, p.reset, fun text => by simp [Palette.paint, h]⟩

theorem exists_render (p : Palette) (name : String) (size : UInt64) (bytes : List UInt8)
    (head : Nat) :
    ∃ before behind, ∀ start : UInt64,
      (Report.mk name start size).render p bytes head =
        before ++ Text.address start.toNat ++ behind := by
  obtain ⟨before, behind, hpaint⟩ := exists_paint p p.dim
  refine ⟨p.paintDim "[section]" ++ "\n" ++ Report.label p "name" ++ p.paintValue name ++ "\n" ++
    Report.label p "start" ++ before,
    behind ++ "\n" ++ Report.label p "size" ++ p.paintValue (Text.decimal size.toNat) ++ "\n" ++
      Report.dump p (bytes.take head), fun start => ?_⟩
  have hstart : p.paintDim (Text.address start.toNat) =
      before ++ Text.address start.toNat ++ behind := hpaint _
  rw [Report.render, hstart]
  simp only [String.append_assoc]

theorem renderSection_start (hp : printer.Standard) (style : Style) (name : String) (size : UInt64)
    (bytes : List UInt8) (head : Nat) (a b : UInt64) :
    ∃ x y, renderSection printer style ⟨name, a, size⟩ bytes head = .ok x ∧
      renderSection printer style ⟨name, b, size⟩ bytes head = .ok y ∧
      SameButStart printer a b x y := by
  cases hj : style.json with
  | true =>
      obtain ⟨x, hx, -⟩ := Json.toJson_eq_ok hp (Report.mk name a size).json
      obtain ⟨y, hy, -⟩ := Json.toJson_eq_ok hp (Report.mk name b size).json
      exact ⟨_, _, (if_pos hj).trans hx, (if_pos hj).trans hy, .json hx hy⟩
  | false =>
      obtain ⟨before, behind, h⟩ := exists_render style.palette name size bytes head
      simp only [renderSection, hj, Bool.false_eq_true, if_false, h]
      exact ⟨_, _, rfl, rfl, .address before behind⟩

variable {s s' : Surroundings} {i : Invocation} {args args' : List Loose}

/-- With the same files, what is answered and logged tells where the section lies, and that only. -/
theorem output_relocate (hp : printer.Standard) (hs : s.source.Fits) (hs' : s'.source.Fits)
    (hload : s'.source.load = s.source.load) (hterminals : s'.terminals = s.terminals)
    (i : Invocation) :
    (output printer s' i).log = (output printer s i).log.map (·.relocate s'.source.base) ∧
      ((∃ e, (output printer s i).value = .error e ∧ (output printer s' i).value = .error e) ∨
        ∃ answer answer', (output printer s i).value = .ok answer ∧
          (output printer s' i).value = .ok answer' ∧
          SameButStart printer s.source.base s'.source.base answer answer') := by
  cases hr : i.request with
  | layout =>
      obtain ⟨answer, ha, -⟩ := exists_renderLayout hp (i.style s.terminals.output) .actual
      rw [output_layout hr, output_layout hr, hterminals]
      exact ⟨rfl, .inr ⟨_, _, ha, ha, .same _⟩⟩
  | blob path head =>
      rw [output_blob hr, output_blob hr, hterminals]
      cases hl : s.source.load path with
      | error cause =>
          rw [sectionOutput_of_error hl, sectionOutput_of_error (hload ▸ hl)]
          exact ⟨rfl, .inl ⟨_, rfl, rfl⟩⟩
      | ok content =>
          have hl' : s'.source.load path = .ok content := hload ▸ hl
          rw [sectionOutput_of_ok hl (hs path content hl),
            sectionOutput_of_ok hl' (hs' path content hl')]
          obtain ⟨x, y, hx, hy, hxy⟩ := renderSection_start hp (i.style s.terminals.output)
            path.display (UInt64.ofNat content.length) content head s.source.base s'.source.base
          exact ⟨rfl, .inr ⟨x, y, hx, hy, hxy⟩⟩
  | string text edits reads =>
      rw [output_string hr, output_string hr, hterminals]
      by_cases ht : (Utf16.encode text).length ≤ Managed.Layout.maxLength
      · obtain ⟨answer, ha, -⟩ := exists_renderString hp (i.style s.terminals.output)
          ((Managed.Image.build 0 (Utf16.encode text)).apply edits reads).value.2
        rw [stringOutput_of_le ht]
        refine ⟨?_, .inr ⟨_, _, ha, ha, .same _⟩⟩
        simp only [Managed.Image.log_apply, List.map_append, List.map_map]
        rfl
      · rw [stringOutput_of_lt (Nat.not_le.1 ht)]
        exact ⟨rfl, .inl ⟨_, rfl, rfl⟩⟩

theorem output_withVerbosity (printer : Json.Printer) (s : Surroundings) (i : Invocation)
    (n : Nat) : output printer s (i.withVerbosity n) = output printer s i := rfl

theorem runInvocation_errors (lib : Libraries) (s : Surroundings) (i : Invocation) :
    (runInvocation lib s i).errors =
      startup lib s i ++ String.join (logLines lib s i) ++
        errorLine (output lib.printer s i).value := by
  simp only [runInvocation]
  cases (output lib.printer s i).value with
  | ok text => simp [errorLine, finish, startup, logLines]
  | error e => simp [errorLine, finish, startup, logLines, String.append_assoc]

theorem level_cases (e : Event) : e.level = .debug ∨ e.level = .trace := by
  cases e with
  | readOutside | writeOutside => exact .inr rfl
  | resolved | loaded => exact .inl rfl

theorem limitFor_add_two (n : Nat) : limitFor (UInt8.ofNat (min 255 (n + 2))) = .trace := by
  have hn : (UInt8.ofNat (min 255 (n + 2))).toNat = min 255 (n + 2) :=
    UInt8.toNat_ofNat_of_lt' (by rw [UInt8.size]; omega)
  have hne (k : UInt8) (hk : k.toNat < 2) : UInt8.ofNat (min 255 (n + 2)) ≠ k := by
    rintro rfl
    omega
  rw [limitFor, if_neg (hne 0 (by decide)), if_neg (hne 1 (by decide))]

theorem filter_limitFor (n : Nat) (records : List Event) :
    (records.filter fun e => e.level.rank ≤ (limitFor (UInt8.ofNat (min 255 n))).rank) =
      shownAt n records := by
  match n with
  | 0 =>
      refine List.filter_eq_nil_iff.2 fun e _ => ?_
      obtain h | h := level_cases e <;> rw [h] <;> decide
  | 1 =>
      refine List.filter_congr fun e _ => ?_
      obtain h | h := level_cases e <;> rw [h] <;> decide
  | n + 2 =>
      rw [limitFor_add_two]
      refine List.filter_eq_self.2 fun e _ => ?_
      obtain h | h := level_cases e <;> rw [h] <;> rfl

/-- The line of an event where no terminal shows it. -/
def IsLine (e : Event) (line : String) : Prop :=
  ∃ shown, line = "[" ++ padRight 5 e.level.name ++ " " ++ e.origin ++ "] " ++ shown ∧
    (Bare e.message → shown = e.message ++ "\n")

/-- Every event has its line, in order. -/
def Printed (lib : Libraries) (settings : LogSettings) (events : List Event)
    (lines : List String) : Prop :=
  List.Forall₂ (fun e line => lib.logger.line settings e.record = some line ∧
    (settings.terminal = false → settings.style = none → IsLine e line)) events lines

theorem bare_origin (e : Event) : Bare e.origin := by
  cases e with
  | readOutside | writeOutside => exact (by decide : Bare "kbridge_abi::string::view")
  | resolved | loaded => exact (by decide : Bare "kbridge_abi::section::provider")

/-- The logger prints the events up to the limit, and no other. -/
theorem printed_filterMap (hl : lib.logger.Documented) {settings : LogSettings}
    (h : settings.spec = none) (events : List Event) :
    Printed lib settings (events.filter fun e => e.level.rank ≤ settings.limit.rank)
      (events.filterMap fun e => lib.logger.line settings e.record) := by
  induction events with
  | nil => exact .nil
  | cons e events ih =>
      have hiff : (lib.logger.line settings e.record).isSome ↔
          e.level.rank ≤ settings.limit.rank := hl.admitted settings e.record h
      let line (e : Event) : Option String := lib.logger.line settings e.record
      cases hline : line e with
      | none =>
          have hn : ¬ e.level.rank ≤ settings.limit.rank := by
            rw [← hiff]
            exact fun hs => by cases (congrArg Option.isSome hline).symm.trans hs
          rw [List.filter_cons_of_neg (by simpa using hn), List.filterMap_cons_none hline]
          exact ih
      | some text =>
          have hr : e.level.rank ≤ settings.limit.rank :=
            hiff.1 (congrArg Option.isSome hline)
          rw [List.filter_cons_of_pos (by simpa using hr), List.filterMap_cons_some hline]
          exact .cons ⟨hline, fun ht hs =>
            hl.tagged settings e.record text ht hs (bare_origin e) hline⟩ ih

theorem printed_logLines (hl : lib.logger.Documented) (h : s.logSpec = none) {n : Nat}
    (hi : i.verbosity = UInt8.ofNat (min 255 n)) :
    Printed lib (logSettings s i) (shownAt n (output lib.printer s i).log) (logLines lib s i) := by
  have hspec : (logSettings s i).spec = none := h
  have hprinted := printed_filterMap hl hspec (output lib.printer s i).log
  have hlimit : (logSettings s i).limit = limitFor (UInt8.ofNat (min 255 n)) :=
    congrArg limitFor hi
  rw [hlimit, filter_limitFor] at hprinted
  exact hprinted

theorem level_relocate (base : UInt64) (e : Event) : (e.relocate base).level = e.level := by
  cases e <;> rfl

theorem shownAt_relocate (base : UInt64) (n : Nat) (records : List Event) :
    shownAt n (records.map (·.relocate base)) = (shownAt n records).map (·.relocate base) := by
  match n with
  | 0 => rfl
  | 1 =>
      rw [shownAt, shownAt, List.filter_map]
      simp only [Function.comp_def, level_relocate]
  | _ + 2 => rfl

theorem limitFor_mono {n m : Nat} (h : n ≤ m) :
    (limitFor (UInt8.ofNat (min 255 n))).rank ≤ (limitFor (UInt8.ofNat (min 255 m))).rank := by
  match n, m with
  | n, m + 2 =>
      rw [limitFor_add_two]
      cases limitFor (UInt8.ofNat (min 255 n)) <;> decide
  | 0, 0 | 1, 1 => exact Nat.le_refl _
  | 0, 1 => decide
  | 1, 0 => omega
  | n + 2, 0 => omega
  | n + 2, 1 => omega

theorem filterMap_sublist {α β : Type} {f g : α → Option β} {l : List α}
    (h : ∀ a ∈ l, ∀ b, f a = some b → g a = some b) :
    (l.filterMap f).Sublist (l.filterMap g) := by
  induction l with
  | nil => exact .slnil
  | cons a l ih =>
      have hl := ih fun b hb => h b (List.mem_cons_of_mem a hb)
      cases hf : f a with
      | none =>
          rw [List.filterMap_cons_none hf]
          cases hg : g a with
          | none => rwa [List.filterMap_cons_none hg]
          | some b =>
              rw [List.filterMap_cons_some hg]
              exact hl.cons b
      | some b =>
          rw [List.filterMap_cons_some hf,
            List.filterMap_cons_some (h a List.mem_cons_self b hf)]
          exact hl.cons_cons b

theorem logLines_sublist (hl : lib.logger.Documented) (h : s.logSpec = none) {n m : Nat}
    (hle : n ≤ m) :
    (logLines lib s (i.withVerbosity n)).Sublist (logLines lib s (i.withVerbosity m)) := by
  have hspec (k : Nat) : (logSettings s (i.withVerbosity k)).spec = none := h
  refine filterMap_sublist fun e _ line hline => ?_
  have hr : e.level.rank ≤ (limitFor (UInt8.ofNat (min 255 n))).rank :=
    (hl.admitted _ e.record (hspec n)).1 (by rw [hline]; rfl)
  obtain ⟨other, hother⟩ := Option.isSome_iff_exists.1
    ((hl.admitted _ e.record (hspec m)).2 (Nat.le_trans hr (limitFor_mono hle)))
  rw [hl.steady _ e.record (limitFor (UInt8.ofNat (min 255 m))) line other hline hother]
  exact hother

/-- The count of `-v` and the log specification say what is printed of the log, and nothing else.
The count is that of the clusters, wherever a switch may stand. -/
theorem run_verbosity (hd : Documented lib.arguments commandLine) (hp : lib.printer.Standard)
    (hl : lib.logger.Documented) (s s' : Surroundings) (hs : s.source.Fits) (hs' : s'.source.Fits)
    (hload : s'.source.load = s.source.load) (hterminals : s'.terminals = s.terminals)
    (args args' : List Loose) (hargs : quieted args' = quieted args) (i : Invocation)
    (hi : lib.arguments.invocation? args = .ok (some i)) :
    let i' := i.withVerbosity (loudness args')
    let o := run lib s args
    let o' := run lib s' args'
    let events := (output lib.printer s i).log
    (∀ (verb : Verb) (before after : List Loose) (k : Nat),
      Position.free.after verb.command before = .free →
      let name := Loose.ofString verb.command.name
      quieted (name :: (before ++ cluster k :: after)) = quieted (name :: (before ++ after)) ∧
        loudness (name :: (before ++ cluster k :: after)) =
          loudness (name :: (before ++ after)) + (k + 1)) ∧
    (i.verbosity = UInt8.ofNat (min 255 (loudness args)) ∧
      lib.arguments.invocation? args' = .ok (some i')) ∧
    o'.exit = o.exit ∧
    SameButStart lib.printer s.source.base s'.source.base o.output o'.output ∧
    (s'.source.base = s.source.base → o'.output = o.output) ∧
    o.errors = startup lib s i ++ String.join (logLines lib s i) ++
      errorLine (output lib.printer s i).value ∧
    o'.errors = startup lib s' i' ++ String.join (logLines lib s' i') ++
      errorLine (output lib.printer s i).value ∧
    (s.logSpec = none → startup lib s i = "" ∧
      Printed lib (logSettings s i) (shownAt (loudness args) events) (logLines lib s i)) ∧
    (s'.logSpec = none → startup lib s' i' = "" ∧
      Printed lib (logSettings s' i')
        ((shownAt (loudness args') events).map (·.relocate s'.source.base))
        (logLines lib s' i')) ∧
    (s'.logSpec = none → loudness args ≤ loudness args' →
      (logLines lib s' i).Sublist (logLines lib s' i')) := by
  intro i' o o' events
  obtain ⟨hcount, hi'⟩ := invocation?_of_quieted hd hargs hi
  obtain ⟨hlog, hvalue⟩ := output_relocate hp hs hs' hload hterminals i
  have ho : o = runInvocation lib s i := run_of_invocation hi
  have ho' : o' = runInvocation lib s' i' := run_of_invocation hi'
  have hsame : o'.exit = o.exit ∧
      SameButStart lib.printer s.source.base s'.source.base o.output o'.output ∧
      errorLine (output lib.printer s' i').value = errorLine (output lib.printer s i).value := by
    simp only [ho, ho', runInvocation]
    rw [output_withVerbosity]
    obtain ⟨e, he, he'⟩ | ⟨answer, answer', ha, ha', hstart⟩ := hvalue
    · rw [he, he']
      exact ⟨rfl, .same "", rfl⟩
    · rw [ha, ha']
      exact ⟨rfl, hstart, rfl⟩
  obtain ⟨hexit, houtput, hline⟩ := hsame
  refine ⟨quieted_insert, ⟨hcount, hi'⟩, hexit, houtput, fun hbase => ?_, ?_, ?_,
    fun h => ⟨?_, ?_⟩, fun h => ⟨?_, ?_⟩, fun h hle => ?_⟩
  · rw [hbase] at houtput
    exact houtput.eq.symm
  · rw [ho, runInvocation_errors]
  · rw [ho', runInvocation_errors, hline]
  · exact hl.silent (logSettings s i) h
  · exact printed_logLines hl h hcount
  · exact hl.silent (logSettings s' i') h
  · rw [← shownAt_relocate, ← hlog]
    exact printed_logLines (i := i') hl h rfl
  · have hself : i.withVerbosity (loudness args) = i := by
      rw [Invocation.withVerbosity, ← hcount]
    have hsub : (logLines lib s' (i.withVerbosity (loudness args))).Sublist (logLines lib s' i') :=
      logLines_sublist hl h hle
    rwa [hself] at hsub

/-- The same file at two addresses. -/
theorem run_verbosity_moved :
    let load := (Files.ofEntries [] [(Loose.ofString "blob", [1, 2, 3])]).load
    let s : Surroundings := ⟨⟨load, 0x10000⟩, none, none, ⟨false, false⟩⟩
    let s' : Surroundings := ⟨⟨load, 0x20000⟩, some "off", none, ⟨false, false⟩⟩
    let args := ["section", "-v", "blob"].map Loose.ofString
    let args' := ["section", "-vv", "blob", "-v"].map Loose.ofString
    let i : Invocation := ⟨.blob (Loose.ofString "blob") 64, false, .auto, 1⟩
    s.source.Fits ∧ s'.source.Fits ∧ quieted args' = quieted args ∧
    builtin.arguments.invocation? args = .ok (some i) ∧
    (run builtin s' args').exit = (run builtin s args).exit ∧
    SameButStart builtin.printer 0x10000 0x20000 (run builtin s args).output
      (run builtin s' args').output ∧
    Printed builtin (logSettings s i) [.loaded 3 "blob", .resolved "blob" 0x10000 3,
      .resolved "blob" 0x10000 3] (logLines builtin s i) := by
  intro load s s' args args' i
  have hd : Documented builtin.arguments commandLine := parser_documented
  have hp : builtin.printer.Standard := Json.writer_standard
  have hs : s.source.Fits := Source.fits_of_files (by decide)
  have hs' : s'.source.Fits := Source.fits_of_files (by decide)
  have hargs : quieted args' = quieted args := by decide
  have hi : builtin.arguments.invocation? args = .ok (some i) := rfl
  obtain ⟨-, -, hexit, houtput, -, -, -, hprinted, -⟩ :=
    run_verbosity hd hp Log.logger_documented s s' hs hs' rfl rfl args args' hargs i hi
  refine ⟨hs, hs', hargs, hi, hexit, houtput, ?_⟩
  have hshown : shownAt (loudness args) (output builtin.printer s i).log =
      [.loaded 3 "blob", .resolved "blob" 0x10000 3, .resolved "blob" 0x10000 3] := by decide
  rw [← hshown]
  exact (hprinted rfl).2

end Command

end Interop
