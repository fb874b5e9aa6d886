import Interop.Arguments.State
import Interop.Command.Libraries
import Interop.Proofs.Text.Numerals
import Interop.Text.Split

namespace Interop.Arguments

open Text Command

def long (body : Loose) : Loose := .char '-' :: .char '-' :: body

/-- How a command line goes on that is read up to its end: everything is said, help is asked for, or
it is refused. -/
inductive Verdict
  | done (s : State)
  | help
  | refused

variable (c : Subcommand)

/-- An equals sign ends a name. -/
structure IsLong (name : Loose) (a : Arg) : Prop where
  ends : Glyph.char '=' ∉ name
  known : c.long? name = some a

/-- Letters, each a switch without a value. -/
inductive Letters : State → Loose → State → Prop
  | nil (s : State) : Letters s [] s
  | cons {s t : State} {letter : Char} {rest : Loose} {a : Arg} (ha : c.short? letter = some a)
      (hv : a.takesValue = false) (hs : s.admits a = true) (h : Letters (s.mark a) rest t) :
      Letters s (.char letter :: rest) t

/-- The argument behind an option is its value where no hyphen begins it; one that a hyphen begins
is where the option is made for that, or for negative numbers. -/
inductive Follows (a : Arg) : Loose → Prop
  | plain {value : Loose} (h : hyphened value = false) : Follows a value
  | hyphened (h : a.hyphens = true) (value : Loose) : Follows a value
  | negative (h : a.negatives = true) {digits : List Char} (hne : digits ≠ [])
      (hd : ∀ d ∈ digits, d.isDigit = true) : Follows a (.char '-' :: digits.map .char)

/-- What an argument says, together with the one behind it if that is its value. -/
inductive Step : State → List Loose → State → Prop
  | switch {s : State} {name : Loose} {a : Arg} (ho : s.escaped = false) (ha : IsLong c name a)
      (hv : a.takesValue = false) (hs : s.admits a = true) : Step s [long name] (s.mark a)
  | letters {s t : State} {g : Glyph} {rest : Loose} (ho : s.escaped = false) (hg : g ≠ .char '-')
      (h : Letters c s (g :: rest) t) : Step s [.char '-' :: g :: rest] t
  | joined {s : State} {name value : Loose} {a : Arg} {v : Value} (ho : s.escaped = false)
      (ha : IsLong c name a) (hv : a.takesValue = true) (hs : s.admits a = true)
      (hr : read? a.kind value = some v) :
      Step s [long (name ++ .char '=' :: value)] (s.give a.id (some v))
  | apart {s : State} {name value : Loose} {a : Arg} {v : Value} (ho : s.escaped = false)
      (ha : IsLong c name a) (hv : a.takesValue = true) (hf : Follows a value)
      (hs : s.admits a = true) (hr : read? a.kind value = some v) :
      Step s [long name, value] (s.give a.id (some v))
  | operand {s : State} {value : Loose} {a : Arg} {v : Value}
      (hh : s.escaped = true ∨ hyphened value = false) (ha : c.operand? s.names = some a)
      (hr : read? a.kind value = some v) : Step s [value] (s.give a.id (some v))
  | escape {s : State} (ho : s.escaped = false) : Step s [long []] { s with escaped := true }

/-- What help is asked for by. -/
inductive AsksHelp : State → List Loose → Prop
  | long {s : State} (ho : s.escaped = false) (hn : c.long? helpName = none)
      (rest : List Loose) : AsksHelp s (long helpName :: rest)
  | letter {s t : State} {before behind : Loose} (ho : s.escaped = false)
      (hd : (before ++ .char 'h' :: behind).head? ≠ some (.char '-')) (h : Letters c s before t)
      (hn : c.short? 'h' = none) (rest : List Loose) :
      AsksHelp s ((.char '-' :: (before ++ .char 'h' :: behind)) :: rest)

/-- A letter of no switch, or of one that may not stand again. -/
inductive BadLetter (s : State) : Glyph → Prop
  | stray (bytes : List UInt8) : BadLetter s (.stray bytes)
  | unknown {letter : Char} (ha : c.short? letter = none) (hh : letter ≠ 'h') :
      BadLetter s (.char letter)
  | repeated {letter : Char} {a : Arg} (ha : c.short? letter = some a)
      (hv : a.takesValue = false) (hs : s.admits a = false) : BadLetter s (.char letter)

/-- What is refused, whatever stands behind it. -/
inductive Refuses : State → List Loose → Prop
  | repeated {s : State} {name : Loose} {a : Arg} (ho : s.escaped = false) (ha : IsLong c name a)
      (hv : a.takesValue = false) (hs : s.admits a = false) (rest : List Loose) :
      Refuses s (long name :: rest)
  | unknown {s : State} {name : Loose} (ho : s.escaped = false) (hne : name ≠ [])
      (he : Glyph.char '=' ∉ name) (ha : c.long? name = none) (hh : name ≠ helpName)
      (rest : List Loose) : Refuses s (long name :: rest)
  | unwanted {s : State} {name : Loose} (ho : s.escaped = false) (he : Glyph.char '=' ∉ name)
      (ha : ∀ a, c.long? name = some a → a.takesValue = false) (value : Loose)
      (rest : List Loose) : Refuses s (long (name ++ .char '=' :: value) :: rest)
  | letter {s t : State} {before behind : Loose} {g : Glyph} (ho : s.escaped = false)
      (hd : (before ++ g :: behind).head? ≠ some (.char '-')) (h : Letters c s before t)
      (hg : BadLetter c t g) (rest : List Loose) :
      Refuses s ((.char '-' :: (before ++ g :: behind)) :: rest)
  | joined {s : State} {name value : Loose} {a : Arg} (ho : s.escaped = false)
      (ha : IsLong c name a) (hv : a.takesValue = true)
      (hr : s.admits a = false ∨ read? a.kind value = none) (rest : List Loose) :
      Refuses s (long (name ++ .char '=' :: value) :: rest)
  | apart {s : State} {name value : Loose} {a : Arg} (ho : s.escaped = false)
      (ha : IsLong c name a) (hv : a.takesValue = true) (hf : Follows a value)
      (hr : s.admits a = false ∨ read? a.kind value = none) (rest : List Loose) :
      Refuses s (long name :: value :: rest)
  | missing {s : State} {name : Loose} {a : Arg} (ho : s.escaped = false) (ha : IsLong c name a)
      (hv : a.takesValue = true) {rest : List Loose}
      (hf : ∀ value ∈ rest.head?, hyphened value = true ∧ a.hyphens = false ∧
        (a.negatives = true → read? a.kind value = none)) : Refuses s (long name :: rest)
  | excess {s : State} {value : Loose} (hh : s.escaped = true ∨ hyphened value = false)
      (ha : c.operand? s.names = none) (rest : List Loose) : Refuses s (value :: rest)
  | operand {s : State} {value : Loose} {a : Arg} (hh : s.escaped = true ∨ hyphened value = false)
      (ha : c.operand? s.names = some a) (hr : read? a.kind value = none) (rest : List Loose) :
      Refuses s (value :: rest)
  | absent {s : State} (h : c.required s.names ≠ []) : Refuses s []

/-- Arguments are read one after the other. The first that asks for help or is refused decides. -/
inductive Reads : State → List Loose → Verdict → Prop
  | step {s t : State} {item rest : List Loose} {v : Verdict} (h : Step c s item t)
      (hr : Reads t rest v) : Reads s (item ++ rest) v
  | done {s : State} (h : c.required s.names = []) : Reads s [] (.done s)
  | help {s : State} {args : List Loose} (h : AsksHelp c s args) : Reads s args .help
  | refused {s : State} {args : List Loose} (h : Refuses c s args) : Reads s args .refused

def HasUsage (text : String) : Prop := ∃ before behind, text = before ++ "Usage:" ++ behind

/-- The parser goes by these rules behind the name of a subcommand, without which there are no
matches. Where it ends the program, help is an answer, which shows how the program is used, and
everything else an error of its own exit code. -/
structure Documented (parser : ArgumentParser) (cli : CommandLine) : Prop where
  found : ∀ c ∈ cli.subcommands, ∀ args s, Reads c {} args (.done s) →
    parser.parse cli (Loose.ofString c.name :: args) = .ok (some (c.name, s.found c))
  helped : ∀ c ∈ cli.subcommands, ∀ args, Reads c {} args .help →
    ∃ e, parser.parse cli (Loose.ofString c.name :: args) = .error e ∧ parser.isHelp e = true
  refused : ∀ c ∈ cli.subcommands, ∀ args, Reads c {} args .refused →
    ∃ e, parser.parse cli (Loose.ofString c.name :: args) = .error e ∧ parser.isHelp e = false
  required : ∀ args found, parser.parse cli args = .ok found →
    ∃ c ∈ cli.subcommands, ∃ rest, args = Loose.ofString c.name :: rest
  exit_help : ∀ e terminals, parser.isHelp e = true →
    parser.exit e terminals = ⟨0, parser.text e terminals.output, ""⟩
  exit_refused : ∀ e terminals, parser.isHelp e = false →
    parser.exit e terminals = ⟨2, "", parser.text e terminals.errors⟩
  usage : ∀ e terminal, parser.isHelp e = true → HasUsage (parser.text e terminal)

variable {c} {s t : State} {a : Loose} {rest : List Loose}

theorem IsLong.ne_nil {name : Loose} {a : Arg} (hc : c.long? [] = none) (ha : IsLong c name a) :
    name ≠ [] := by
  rintro rfl
  cases hc.symm.trans ha.known

theorem splitFirst_cases (body : Loose) :
    Glyph.char '=' ∉ body ∨
      ∃ name value, body = name ++ .char '=' :: value ∧ Glyph.char '=' ∉ name := by
  have hjoin := splitFirst_join (Glyph.char '=') body
  have hname := notMem_splitFirst (Glyph.char '=') body
  generalize splitFirst (Glyph.char '=') body = parts at hjoin hname
  obtain ⟨name, _ | value⟩ := parts
  · exact .inl (hjoin ▸ hname)
  · exact .inr ⟨name, value, hjoin, hname⟩

theorem Step.total (h : Step c s [a] t) (ih : ∀ s, ∃ v, Reads c s rest v) :
    ∃ v, Reads c s (a :: rest) v := by
  obtain ⟨v, hv⟩ := ih t
  exact ⟨v, .step h hv⟩

theorem operand_total (hh : s.escaped = true ∨ hyphened a = false)
    (ih : ∀ s, ∃ v, Reads c s rest v) : ∃ v, Reads c s (a :: rest) v := by
  cases ha : c.operand? s.names with
  | none => exact ⟨_, .refused (.excess hh ha rest)⟩
  | some b =>
      cases hr : read? b.kind a with
      | none => exact ⟨_, .refused (.operand hh ha hr rest)⟩
      | some v => exact (Step.operand hh ha hr).total ih

theorem joined_total {name value : Loose} (ho : s.escaped = false)
    (he : Glyph.char '=' ∉ name) (ih : ∀ s, ∃ v, Reads c s rest v) :
    ∃ v, Reads c s (long (name ++ .char '=' :: value) :: rest) v := by
  by_cases ha : ∀ b, c.long? name = some b → b.takesValue = false
  · exact ⟨_, .refused (.unwanted ho he ha value rest)⟩
  · simp only [Classical.not_forall, Bool.not_eq_false] at ha
    obtain ⟨b, hb, hv⟩ := ha
    cases hs : s.admits b with
    | false => exact ⟨_, .refused (.joined ho ⟨he, hb⟩ hv (.inl hs) rest)⟩
    | true =>
        cases hr : read? b.kind value with
        | none => exact ⟨_, .refused (.joined ho ⟨he, hb⟩ hv (.inr hr) rest)⟩
        | some v => exact (Step.joined ho ⟨he, hb⟩ hv hs hr).total ih

def NegativeIndices (c : Subcommand) : Prop :=
  ∀ name a, c.long? name = some a → a.negatives = true → a.kind = .index

theorem isDigit_of_decimal {d : Char} {n : Nat} (h : IsDigit 10 d n) : d.isDigit = true := by
  have hall : ∀ n < 10, n.digitChar.isDigit = true ∧ n.digitChar.toUpper.isDigit = true := by decide
  obtain ⟨hn, rfl | rfl⟩ := h
  · exact (hall n hn).1
  · exact (hall n hn).2

theorem follows_of_signed {b : Arg} {t : List Char} {i : Int} (hn : b.negatives = true)
    (h : Signed t i) : Follows b (t.map .char) := by
  have hnumeral {digits : List Char} {n : Nat} (hd : Numeral 10 digits n) :
      ∀ d ∈ digits, d.isDigit = true := fun d hmem =>
    let ⟨_, hdigit⟩ := hd.isDigit_of_mem hmem
    isDigit_of_decimal hdigit
  cases h with
  | minus hd => exact .negative hn hd.ne_nil (hnumeral hd)
  | bare hd =>
      refine .plain ?_
      obtain ⟨d, rest, rfl⟩ := List.exists_cons_of_ne_nil hd.ne_nil
      have hne : d ≠ '-' := ne_of_isDigit (hnumeral hd d List.mem_cons_self) rfl
      simp [hyphened, hne]
  | plus hd => exact .plain rfl

theorem follows_of_read? {b : Arg} {value : Loose} {v : Value} (hn : b.negatives = true)
    (hr : read? .index value = some v) : Follows b value := by
  obtain ⟨t, ht, hi⟩ := Option.bind_eq_some_iff.1 hr
  obtain ⟨i, hi, -⟩ := Option.bind_eq_some_iff.1 hi
  obtain rfl := Loose.eq_map_of_text? ht
  cases h : readInt 64 t with
  | error e => rw [h] at hi; cases hi
  | ok j => exact follows_of_signed hn (readInt_eq_ok_iff.1 h).1

theorem valued_total {name : Loose} {b : Arg} (ho : s.escaped = false) (hb : IsLong c name b)
    (hc : b.negatives = true → b.kind = .index) (hv : b.takesValue = true)
    (ih : ∀ value behind, rest = value :: behind → ∀ s, ∃ v, Reads c s behind v) :
    ∃ v, Reads c s (long name :: rest) v := by
  by_cases hf : ∀ value ∈ rest.head?, hyphened value = true ∧ b.hyphens = false ∧
      (b.negatives = true → read? b.kind value = none)
  · exact ⟨_, .refused (.missing ho hb hv hf)⟩
  · simp only [Classical.not_forall] at hf
    obtain ⟨value, hvalue, hf⟩ := hf
    obtain ⟨behind, rfl⟩ := List.head?_eq_some_iff.1 hvalue
    have hf : Follows b value := by
      cases hh : hyphened value with
      | false => exact .plain hh
      | true =>
          cases hyp : b.hyphens with
          | true => exact .hyphened hyp value
          | false =>
              simp only [hh, hyp, true_and, Classical.not_imp] at hf
              obtain ⟨hn, hr⟩ := hf
              rw [hc hn] at hr
              obtain ⟨v, hr⟩ := Option.ne_none_iff_exists'.1 hr
              exact follows_of_read? hn hr
    cases hs : s.admits b with
    | false => exact ⟨_, .refused (.apart ho hb hv hf (.inl hs) behind)⟩
    | true =>
        cases hr : read? b.kind value with
        | none => exact ⟨_, .refused (.apart ho hb hv hf (.inr hr) behind)⟩
        | some v =>
            obtain ⟨w, hw⟩ := ih value behind rfl (s.give b.id (some v))
            exact ⟨w, .step (.apart ho hb hv hf hs hr) hw⟩

theorem named_total {name : Loose} (ho : s.escaped = false) (he : Glyph.char '=' ∉ name)
    (hne : name ≠ []) (hc : NegativeIndices c) (ih : ∀ s, ∃ v, Reads c s rest v)
    (ih' : ∀ value behind, rest = value :: behind → ∀ s, ∃ v, Reads c s behind v) :
    ∃ v, Reads c s (long name :: rest) v := by
  cases ha : c.long? name with
  | none =>
      by_cases hh : name = helpName
      · subst hh
        exact ⟨_, .help (.long ho ha rest)⟩
      · exact ⟨_, .refused (.unknown ho hne he ha hh rest)⟩
  | some b =>
      cases hv : b.takesValue with
      | true => exact valued_total ho ⟨he, ha⟩ (hc name b ha) hv ih'
      | false =>
          cases hs : s.admits b with
          | false => exact ⟨_, .refused (.repeated ho ⟨he, ha⟩ hv hs rest)⟩
          | true => exact (Step.switch ho ⟨he, ha⟩ hv hs).total ih

def PlainLetters (c : Subcommand) : Prop :=
  ∀ letter a, c.short? letter = some a → a.takesValue = false

theorem letters_cases (hc : PlainLetters c) (s : State) (ls : Loose) :
    (∃ t, Letters c s ls t) ∨
      ∃ before g behind t, ls = before ++ g :: behind ∧ Letters c s before t ∧
        (g = .char 'h' ∧ c.short? 'h' = none ∨ BadLetter c t g) := by
  induction ls generalizing s with
  | nil => exact .inl ⟨s, .nil s⟩
  | cons g ls ih =>
      cases g with
      | stray bytes => exact .inr ⟨[], _, ls, s, rfl, .nil s, .inr (.stray bytes)⟩
      | char letter =>
          cases ha : c.short? letter with
          | none =>
              by_cases hh : letter = 'h'
              · subst hh
                exact .inr ⟨[], _, ls, s, rfl, .nil s, .inl ⟨rfl, ha⟩⟩
              · exact .inr ⟨[], _, ls, s, rfl, .nil s, .inr (.unknown ha hh)⟩
          | some b =>
              have hv := hc letter b ha
              cases hs : s.admits b with
              | false => exact .inr ⟨[], _, ls, s, rfl, .nil s, .inr (.repeated ha hv hs)⟩
              | true =>
                  obtain ⟨t, ht⟩ | ⟨before, g, behind, t, rfl, ht, hg⟩ := ih (s.mark b)
                  · exact .inl ⟨t, .cons ha hv hs ht⟩
                  · exact .inr ⟨.char letter :: before, g, behind, t, rfl, .cons ha hv hs ht, hg⟩

theorem letters_total (hc : PlainLetters c) {g : Glyph} {ls : Loose}
    (ho : s.escaped = false) (hg : g ≠ .char '-') (ih : ∀ s, ∃ v, Reads c s rest v) :
    ∃ v, Reads c s ((.char '-' :: g :: ls) :: rest) v := by
  obtain ⟨t, ht⟩ | ⟨before, g', behind, t, hl, ht, hbad⟩ := letters_cases hc s (g :: ls)
  · exact (Step.letters ho hg ht).total ih
  · have hd : (before ++ g' :: behind).head? ≠ some (.char '-') := by
      rw [← hl, List.head?_cons]
      exact fun h => hg (Option.some.inj h)
    rw [hl]
    obtain ⟨rfl, hn⟩ | hbad := hbad
    · exact ⟨_, .help (.letter ho hd ht hn rest)⟩
    · exact ⟨_, .refused (.letter ho hd ht hbad rest)⟩

theorem hyphened_cases (a : Loose) :
    hyphened a = false ∨ (∃ body, a = long body) ∨
      ∃ g ls, g ≠ .char '-' ∧ a = .char '-' :: g :: ls := by
  unfold hyphened
  split
  next g ls =>
    by_cases hg : g = .char '-'
    · exact .inr (.inl ⟨ls, by rw [hg, long]⟩)
    · exact .inr (.inr ⟨g, ls, hg, rfl⟩)
  next => exact .inl rfl

/-- The rules leave no command line without a verdict. -/
theorem reads_total (hc : PlainLetters c) (hc' : NegativeIndices c) (args : List Loose)
    (s : State) : ∃ v, Reads c s args v := by
  induction hn : args.length using Nat.strongRecOn generalizing args s with
  | ind n ih =>
      subst hn
      cases args with
      | nil =>
          by_cases h : c.required s.names = []
          · exact ⟨_, .done h⟩
          · exact ⟨_, .refused (.absent h)⟩
      | cons a rest =>
          have hrest (s : State) : ∃ v, Reads c s rest v :=
            ih rest.length (Nat.lt_succ_self _) rest s rfl
          have hbehind (value : Loose) (behind : List Loose) (h : rest = value :: behind)
              (s : State) : ∃ v, Reads c s behind v :=
            ih behind.length (by rw [h, List.length_cons, List.length_cons]; omega) behind s rfl
          cases ho : s.escaped with
          | true => exact operand_total (.inl ho) hrest
          | false =>
              obtain hh | ⟨body, rfl⟩ | ⟨g, ls, hg, rfl⟩ := hyphened_cases a
              · exact operand_total (.inr hh) hrest
              · by_cases hne : body = []
                · subst hne
                  exact (Step.escape ho).total hrest
                · obtain he | ⟨name, value, rfl, he⟩ := splitFirst_cases body
                  · exact named_total ho he hne hc' hrest hbehind
                  · exact joined_total ho he hrest
              · exact letters_total hc ho hg hrest

end Interop.Arguments
