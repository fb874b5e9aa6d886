import Interop.Command.Run
import Interop.Proofs.Arguments.Rules

namespace Interop.Command

open Text Arguments

/-- The name of an option and its value, in one argument or in two. -/
def spelled (name : String) (value : Loose) (joined : Bool) : List Loose :=
  if joined then [long (Loose.ofString name ++ .char '=' :: value)]
  else [long (Loose.ofString name), value]

variable {parser : ArgumentParser} {verb : Verb} {args : List Loose} {s : State}

theorem Verb.mem_subcommands (verb : Verb) : verb.command ∈ commandLine.subcommands := by
  cases verb <;> simp [commandLine]

theorem exists_verb {c : Subcommand} (h : c ∈ commandLine.subcommands) :
    ∃ verb : Verb, c = verb.command := by
  simp only [commandLine, List.mem_cons, List.not_mem_nil, or_false] at h
  obtain rfl | rfl | rfl := h
  · exact ⟨.layout, rfl⟩
  · exact ⟨.blob, rfl⟩
  · exact ⟨.string, rfl⟩

theorem ofName?_name (verb : Verb) : Verb.ofName? verb.command.name = some verb := by
  cases verb <;> rfl

theorem long?_of_mem {a : Arg} {name : String} (ha : a ∈ verb.command.args)
    (hl : a.long = some name) : verb.command.long? (Loose.ofString name) = some a := by
  cases verb <;> simp only [Verb.command, List.mem_cons, List.not_mem_nil, or_false] at ha
  all_goals
    rcases ha with rfl | rfl | rfl | rfl | rfl | rfl <;> cases hl <;> rfl

theorem isLong_of_mem {a : Arg} {name : String} (ha : a ∈ verb.command.args)
    (hl : a.long = some name) : IsLong verb.command (Loose.ofString name) a := by
  refine ⟨?_, long?_of_mem ha hl⟩
  have hall : ∀ a ∈ verb.command.args, ∀ name ∈ a.long,
      Glyph.char '=' ∉ Loose.ofString name := by
    cases verb <;> decide
  exact hall a ha name hl

theorem long?_nil (verb : Verb) : verb.command.long? [] = none := by
  cases verb <;> decide

theorem short?_verbose (verb : Verb) : verb.command.short? 'v' = some verboseArg := by
  cases verb <;> rfl

theorem letters_replicate (s : State) (n : Nat) :
    Letters verb.command s (List.replicate n (.char 'v'))
      { s with raised := s.raised ++ List.replicate n "verbose" } := by
  induction n generalizing s with
  | zero =>
      rw [List.replicate_zero, List.replicate_zero, List.append_nil]
      exact .nil s
  | succ n ih =>
      have h := ih (s.mark verboseArg)
      rw [List.replicate_succ, List.replicate_succ, List.append_cons]
      exact .cons (short?_verbose verb) rfl rfl h

theorem plainLetters (verb : Verb) : PlainLetters verb.command := by
  have hplain : ∀ a ∈ verb.command.args, a.short.isSome = true → a.takesValue = false := by
    cases verb <;> decide
  intro letter a ha
  have hshort : a.short = some letter := by simpa using List.find?_some ha
  exact hplain a (List.mem_of_find?_eq_some ha) (by rw [hshort]; rfl)

theorem negativeIndices (verb : Verb) : NegativeIndices verb.command := by
  have hindex : ∀ a ∈ verb.command.args, a.negatives = true → a.kind = .index := by
    cases verb <;> decide
  intro name a ha hn
  exact hindex a (List.mem_of_find?_eq_some ha) hn

/-- Behind the name of a subcommand every argument list has a verdict. -/
theorem exists_verdict (verb : Verb) (args : List Loose) : ∃ v, Reads verb.command {} args v :=
  reads_total (plainLetters verb) (negativeIndices verb) args {}

section Documented

variable (hp : Documented parser commandLine)
include hp

theorem invocation?_done (h : Reads verb.command {} args (.done s)) :
    parser.invocation? (Loose.ofString verb.command.name :: args) =
      .ok (some (.ofMatches (s.found verb.command) verb)) := by
  rw [ArgumentParser.invocation?, hp.found _ verb.mem_subcommands args s h]
  simp only [Except.map, Option.bind_some, ofName?_name, Option.map_some]

theorem invocation?_help (h : Reads verb.command {} args .help) :
    ∃ e, parser.invocation? (Loose.ofString verb.command.name :: args) = .error e ∧
      parser.isHelp e = true := by
  obtain ⟨e, he, hhelp⟩ := hp.helped _ verb.mem_subcommands args h
  exact ⟨e, by rw [ArgumentParser.invocation?, he]; rfl, hhelp⟩

theorem invocation?_refused (h : Reads verb.command {} args .refused) :
    ∃ e, parser.invocation? (Loose.ofString verb.command.name :: args) = .error e ∧
      parser.isHelp e = false := by
  obtain ⟨e, he, hhelp⟩ := hp.refused _ verb.mem_subcommands args h
  exact ⟨e, by rw [ArgumentParser.invocation?, he]; rfl, hhelp⟩

theorem invocation?_cases (args : List Loose) :
    (∃ (verb : Verb) (rest : List Loose) (s : State),
      args = Loose.ofString verb.command.name :: rest ∧ Reads verb.command {} rest (.done s) ∧
      parser.invocation? args = .ok (some (.ofMatches (s.found verb.command) verb))) ∨
    ∃ e, parser.invocation? args = .error e := by
  cases h : parser.parse commandLine args with
  | error e => exact .inr ⟨e, by rw [ArgumentParser.invocation?, h]; rfl⟩
  | ok found =>
      obtain ⟨c, hc, rest, rfl⟩ := hp.required args found h
      obtain ⟨verb, rfl⟩ := exists_verb hc
      obtain ⟨v, hv⟩ := exists_verdict verb rest
      cases v with
      | done s => exact .inl ⟨verb, rest, s, rfl, hv, invocation?_done hp hv⟩
      | help =>
          obtain ⟨e, he, -⟩ := invocation?_help hp hv
          exact .inr ⟨e, he⟩
      | refused =>
          obtain ⟨e, he, -⟩ := invocation?_refused hp hv
          exact .inr ⟨e, he⟩

end Documented

end Interop.Command
