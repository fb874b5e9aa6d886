import Interop.Command.Builtin
import Interop.Proofs.Arguments.Parser
import Interop.Proofs.Command.Answers
import Interop.Proofs.Command.Reading

namespace Interop.Command

open Text Arguments

variable {lib : Libraries} {s s' : Surroundings} {args : List Loose} {i : Invocation}
  {e : CommandError} {answer : String}

/-- What the logger says of its own settings. -/
def startup (lib : Libraries) (s : Surroundings) (i : Invocation) : String :=
  lib.logger.start (logSettings s i)

def logLines (lib : Libraries) (s : Surroundings) (i : Invocation) : List String :=
  (output lib.printer s i).log.filterMap fun e => lib.logger.line (logSettings s i) e.record

/-- The four ways in which a run ends. -/
inductive Ends (lib : Libraries) (s : Surroundings) (args : List Loose) : Outcome → Prop
  | refused {e : lib.arguments.Interruption} (h : lib.arguments.invocation? args = .error e)
      (hh : lib.arguments.isHelp e = false) :
      Ends lib s args ⟨2, "", lib.arguments.text e s.terminals.errors⟩
  | helped {e : lib.arguments.Interruption} (h : lib.arguments.invocation? args = .error e)
      (hh : lib.arguments.isHelp e = true) :
      Ends lib s args ⟨0, lib.arguments.text e s.terminals.output, ""⟩
  | failed {i : Invocation} {e : CommandError}
      (h : lib.arguments.invocation? args = .ok (some i)) (he : Fails s.source i.request e) :
      Ends lib s args ⟨1, "", startup lib s i ++ ("error: " ++ e.message ++ "\n")⟩
  | answered {i : Invocation} {answer : String}
      (h : lib.arguments.invocation? args = .ok (some i))
      (ha : Answers lib.printer s.source (i.style s.terminals.output) i.request answer)
      (hv : (output lib.printer s i).value = .ok answer) :
      Ends lib s args ⟨0, answer, startup lib s i ++ String.join (logLines lib s i)⟩

theorem runInvocation_of_error (h : output lib.printer s i = pure (.error e)) :
    runInvocation lib s i = ⟨1, "", startup lib s i ++ ("error: " ++ e.message ++ "\n")⟩ := by
  rw [runInvocation, h]
  simp [finish, startup, String.append_assoc]

theorem runInvocation_of_ok (h : (output lib.printer s i).value = .ok answer) :
    runInvocation lib s i =
      ⟨0, answer, startup lib s i ++ String.join (logLines lib s i)⟩ := by
  simp only [runInvocation, h]
  rfl

theorem run_of_invocation (h : lib.arguments.invocation? args = .ok (some i)) :
    run lib s args = runInvocation lib s i := by
  rw [run, h]

theorem run_of_error {e : lib.arguments.Interruption}
    (h : lib.arguments.invocation? args = .error e) :
    run lib s args = lib.arguments.exit e s.terminals := by
  rw [run, h]

theorem run_ends (hd : Documented lib.arguments commandLine) (hp : lib.printer.Standard)
    (hs : s.source.Fits) (args : List Loose) : Ends lib s args (run lib s args) := by
  obtain ⟨verb, rest, t, rfl, -, h⟩ | ⟨e, h⟩ := invocation?_cases hd args
  · rw [run_of_invocation h]
    obtain ⟨e, hf, he⟩ | ⟨answer, ha, hv⟩ := output_cases hp hs (.ofMatches (t.found _) verb)
    · exact runInvocation_of_error he ▸ .failed h hf
    · exact runInvocation_of_ok hv ▸ .answered h ha hv
  · rw [run_of_error h]
    cases hh : lib.arguments.isHelp e with
    | true => exact hd.exit_help e s.terminals hh ▸ .helped h hh
    | false => exact hd.exit_refused e s.terminals hh ▸ .refused h hh

/-- The arguments end the program, and not because help was asked for. -/
def Rejected (parser : ArgumentParser) (args : List Loose) : Prop :=
  ∃ e, parser.invocation? args = .error e ∧ parser.isHelp e = false

theorem ne_empty_of_hasUsage {text : String} (h : HasUsage text) : text ≠ "" := by
  obtain ⟨before, behind, rfl⟩ := h
  exact ne_empty_of_mem (c := 'U') (by simp)

namespace Ends

variable {o : Outcome}

theorem exit_cases (h : Ends lib s args o) : o.exit = 0 ∨ o.exit = 1 ∨ o.exit = 2 := by
  cases h with
  | helped | answered => exact .inl rfl
  | failed => exact .inr (.inl rfl)
  | refused => exact .inr (.inr rfl)

theorem output_ne_empty (hd : Documented lib.arguments commandLine) (hp : lib.printer.Standard)
    (h : Ends lib s args o) : o.output ≠ "" ↔ o.exit = 0 := by
  cases h with
  | refused => exact iff_of_false (fun h => h rfl) (Nat.succ_ne_zero 1)
  | failed => exact iff_of_false (fun h => h rfl) Nat.one_ne_zero
  | helped _ hh => exact iff_of_true (ne_empty_of_hasUsage (hd.usage _ _ hh)) rfl
  | answered _ ha => exact iff_of_true (ha.ne_empty hp) rfl

theorem exit_eq_two (h : Ends lib s args o) : o.exit = 2 ↔ Rejected lib.arguments args := by
  cases h with
  | refused h hh => exact iff_of_true rfl ⟨_, h, hh⟩
  | helped h hh =>
      refine iff_of_false nofun ?_
      rintro ⟨e, he, hn⟩
      cases h.symm.trans he
      cases hh.symm.trans hn
  | failed h | answered h =>
      refine iff_of_false nofun ?_
      rintro ⟨e, he, -⟩
      cases h.symm.trans he

theorem exit_eq_one (h : Ends lib s args o) :
    o.exit = 1 ↔
      ∃ i e, lib.arguments.invocation? args = .ok (some i) ∧ Fails s.source i.request e := by
  cases h with
  | failed h he => exact iff_of_true rfl ⟨_, _, h, he⟩
  | refused h | helped h =>
      refine iff_of_false nofun ?_
      rintro ⟨i, e, hi, -⟩
      cases h.symm.trans hi
  | answered h ha =>
      refine iff_of_false nofun ?_
      rintro ⟨i, e, hi, he⟩
      cases h.symm.trans hi
      exact ha.not_fails he

theorem of_fails (h : Ends lib s args o) (hi : lib.arguments.invocation? args = .ok (some i))
    (he : Fails s.source i.request e) :
    o = ⟨1, "", startup lib s i ++ ("error: " ++ e.message ++ "\n")⟩ := by
  cases h with
  | failed h he' =>
      cases hi.symm.trans h
      rw [he.unique he']
  | refused h | helped h => cases hi.symm.trans h
  | answered h ha =>
      cases hi.symm.trans h
      exact absurd he ha.not_fails

theorem of_not_fails (h : Ends lib s args o) (hi : lib.arguments.invocation? args = .ok (some i))
    (hn : ¬ ∃ e, Fails s.source i.request e) :
    o.exit = 0 ∧ (output lib.printer s i).value = .ok o.output ∧
      Answers lib.printer s.source (i.style s.terminals.output) i.request o.output := by
  cases h with
  | answered h ha hv =>
      cases hi.symm.trans h
      exact ⟨rfl, hv, ha⟩
  | failed h he =>
      cases hi.symm.trans h
      exact absurd ⟨_, he⟩ hn
  | refused h | helped h => cases hi.symm.trans h

end Ends

theorem run_of_reads (hd : Documented lib.arguments commandLine) (hp : lib.printer.Standard)
    (hs : s.source.Fits) {verb : Verb} {rest : List Loose} {v : Verdict}
    (h : Reads verb.command {} rest v) :
    let o := run lib s (Loose.ofString verb.command.name :: rest)
    (v = .refused ↔ o.exit = 2) ∧ (v = .help → o.exit = 0) ∧
      ∀ t, v = .done t → o = runInvocation lib s (.ofMatches (t.found verb.command) verb) := by
  intro o
  have hends : Ends lib s _ o := run_ends hd hp hs _
  cases v with
  | done t =>
      have hi := invocation?_done hd h
      refine ⟨iff_of_false nofun fun ho => ?_, nofun, fun t ht => ?_⟩
      · obtain ⟨e, he, -⟩ := hends.exit_eq_two.1 ho
        cases hi.symm.trans he
      · cases ht
        exact run_of_invocation hi
  | help =>
      obtain ⟨e, he, hh⟩ := invocation?_help hd h
      have ho : o = ⟨0, _, ""⟩ := (run_of_error he).trans (hd.exit_help e s.terminals hh)
      refine ⟨iff_of_false nofun fun hexit => ?_, fun _ => congrArg Outcome.exit ho, nofun⟩
      rw [ho] at hexit
      cases hexit
  | refused =>
      exact ⟨iff_of_true rfl (hends.exit_eq_two.2 (invocation?_refused hd h)), nofun, nofun⟩

/-- Arguments that are read one after the other, with what is said before and behind them. -/
inductive Walks (c : Subcommand) : State → List Loose → State → Prop
  | nil (s : State) : Walks c s [] s
  | cons {s t u : State} {item rest : List Loose} (h : Step c s item t) (hr : Walks c t rest u) :
      Walks c s (item ++ rest) u

theorem Walks.reads {c : Subcommand} {s t : State} {before rest : List Loose} {v : Verdict}
    (h : Walks c s before t) (hr : Reads c t rest v) : Reads c s (before ++ rest) v := by
  induction h with
  | nil s => exact hr
  | cons hstep _ ih =>
      rw [List.append_assoc]
      exact .step hstep (ih hr)

theorem refuses_spelled {c : Subcommand} {t : State} {a : Arg} {name : String} {value : Loose}
    (ho : t.escaped = false) (ha : IsLong c (Loose.ofString name) a) (hv : a.takesValue = true)
    (hr : read? a.kind value = none) (joined : Bool) (after : List Loose) :
    Refuses c t (spelled name value joined ++ after) := by
  cases joined with
  | true => exact .joined ho ha hv (.inr hr) after
  | false =>
      by_cases hf : hyphened value = true ∧ a.hyphens = false
      · refine .missing ho ha hv fun other hother => ?_
        cases hother
        exact ⟨hf.1, hf.2, fun _ => hr⟩
      · refine .apart ho ha hv ?_ (.inr hr) after
        cases hh : hyphened value with
        | false => exact .plain hh
        | true => exact .hyphened (by simpa [hh] using hf) value

/-- The process ends in one of four ways, and says only one thing on standard output: as the verdict
on its arguments is, and as the command named there fails or not. -/
theorem run_classified (hd : Documented lib.arguments commandLine) (hp : lib.printer.Standard)
    (s : Surroundings) (hs : s.source.Fits) (args : List Loose) :
    let o := run lib s args
    (o.exit = 0 ∨ o.exit = 1 ∨ o.exit = 2) ∧
    (o.output ≠ "" ↔ o.exit = 0) ∧
    (o.exit = 2 ↔ Rejected lib.arguments args) ∧
    (o.exit = 2 → o.output = "" ∧
      ∀ s' : Surroundings, s'.terminals = s.terminals → run lib s' args = o) ∧
    (∀ (verb : Verb) (rest : List Loose) (v : Verdict),
      args = Loose.ofString verb.command.name :: rest → Reads verb.command {} rest v →
      (v = .refused ↔ o.exit = 2) ∧ (v = .help → o.exit = 0) ∧
      ∀ t, v = .done t → o = runInvocation lib s (.ofMatches (t.found verb.command) verb)) ∧
    (∀ (verb : Verb) (a : Arg) (name : String) (value : Loose) (joined : Bool)
      (before after : List Loose) (t : State), a ∈ verb.command.args → a.long = some name →
      a.takesValue = true → read? a.kind value = none → Walks verb.command {} before t →
      t.escaped = false →
      args = Loose.ofString verb.command.name :: (before ++ (spelled name value joined ++ after)) →
      o.exit = 2) ∧
    (o.exit = 1 ↔
      ∃ i e, lib.arguments.invocation? args = .ok (some i) ∧ Fails s.source i.request e) ∧
    (∀ i e, lib.arguments.invocation? args = .ok (some i) → Fails s.source i.request e →
      o = ⟨1, "", startup lib s i ++ ("error: " ++ e.message ++ "\n")⟩ ∧
      ∀ path head, i.request = .blob path head → ∃ cause : LoadFailure,
        s.source.load path = .error cause ∧
        e.message = path.display ++ ": io error: " ++ cause.message) ∧
    (∀ e, lib.arguments.invocation? args = .error e → lib.arguments.isHelp e = true →
      o = ⟨0, lib.arguments.text e s.terminals.output, ""⟩) ∧
    (∀ i, lib.arguments.invocation? args = .ok (some i) →
      (¬ ∃ e, Fails s.source i.request e) →
      o.exit = 0 ∧ (output lib.printer s i).value = .ok o.output ∧
      Answers lib.printer s.source (i.style s.terminals.output) i.request o.output) := by
  intro o
  have hends : Ends lib s args o := run_ends hd hp hs args
  refine ⟨hends.exit_cases, hends.output_ne_empty hd hp, hends.exit_eq_two, fun ho => ?_, ?_, ?_,
    hends.exit_eq_one, fun i e hi he => ⟨hends.of_fails hi he, fun path head hr => ?_⟩,
    fun e he hh => (run_of_error he).trans (hd.exit_help e s.terminals hh),
    fun i hi hn => hends.of_not_fails hi hn⟩
  · obtain ⟨e, he, hh⟩ := hends.exit_eq_two.1 ho
    have hrun (s' : Surroundings) :
        run lib s' args = ⟨2, "", lib.arguments.text e s'.terminals.errors⟩ :=
      (run_of_error he).trans (hd.exit_refused e s'.terminals hh)
    exact ⟨congrArg Outcome.output (hrun s), fun s' ht => by rw [hrun s', ht, ← hrun s]⟩
  · rintro verb rest v rfl h
    exact run_of_reads hd hp hs h
  · rintro verb a name value joined before after t hmem hname hv hr hbefore ho rfl
    have hrefused := hbefore.reads
      (.refused (refuses_spelled ho (isLong_of_mem hmem hname) hv hr joined after))
    exact (run_of_reads hd hp hs hrefused).1.1 rfl
  · rw [hr] at he
    cases he with
    | load hl => exact ⟨_, hl, rfl⟩

/-- A file that is not there, an edit without a unit amid good values, help, and a file. -/
theorem run_classified_files :
    let s : Surroundings := ⟨⟨(Files.ofEntries [] [(Loose.ofString "blob", [1, 2, 3])]).load,
      0x10000⟩, none, none, ⟨false, false⟩⟩
    s.source.Fits ∧
    run builtin s (["section", "-v", "gone"].map Loose.ofString) =
      ⟨1, "", "error: gone: io error: No such file or directory (os error 2)\n"⟩ ∧
    (run builtin s (["string", "abc", "--get", "1", "--set=0", "--get", "2",
      "--help"].map Loose.ofString)).exit = 2 ∧
    run builtin s (["section", "-h"].map Loose.ofString) =
      ⟨0, Topic.page commandLine false (.command Verb.blob.command), ""⟩ ∧
    (run builtin s (["section", "blob"].map Loose.ofString)).exit = 0 := by
  intro s
  have hd : Documented builtin.arguments commandLine := parser_documented
  have hp : builtin.printer.Standard := Json.writer_standard
  have hs : s.source.Fits := Source.fits_of_files (by decide)
  refine ⟨hs, ?_, ?_, ?_, ?_⟩
  · obtain ⟨-, -, -, -, -, -, -, hfails, -⟩ :=
      run_classified hd hp s hs (["section", "-v", "gone"].map Loose.ofString)
    obtain ⟨ho, -⟩ := hfails ⟨.blob (Loose.ofString "gone") 64, false, .auto, 1⟩
      (.load ⟨Loose.ofString "gone", .notFound⟩) rfl (.load rfl 64)
    exact ho
  · obtain ⟨-, -, -, -, -, hinvalid, -⟩ := run_classified hd hp s hs
      (["string", "abc", "--get", "1", "--set=0", "--get", "2", "--help"].map Loose.ofString)
    let t : State := State.give {} textArg.id (some (.text "abc".toList))
    have htext : Step Verb.string.command {} [Loose.ofString "abc"] t :=
      .operand (.inr rfl) rfl rfl
    have hget : Step Verb.string.command t [long (Loose.ofString "get"), Loose.ofString "1"]
        (t.give getArg.id (some (.index 1))) :=
      .apart rfl (isLong_of_mem (by decide) rfl) rfl (.plain rfl) rfl rfl
    exact hinvalid .string setArg "set" (Loose.ofString "0") true
      (["abc", "--get", "1"].map Loose.ofString) (["--get", "2", "--help"].map Loose.ofString) _
      (by decide) rfl rfl rfl (.cons htext (.cons hget (.nil _))) rfl rfl
  · obtain ⟨-, -, -, -, -, -, -, -, hhelp, -⟩ :=
      run_classified hd hp s hs (["section", "-h"].map Loose.ofString)
    exact hhelp (.help (.command Verb.blob.command)) rfl rfl
  · obtain ⟨-, -, -, -, -, -, -, -, -, hanswered⟩ :=
      run_classified hd hp s hs (["section", "blob"].map Loose.ofString)
    refine (hanswered ⟨.blob (Loose.ofString "blob") 64, false, .auto, 0⟩ rfl ?_).1
    rintro ⟨e, he⟩
    cases he with
    | load h => cases h

end Interop.Command
