import Interop.Proofs.Command.Reading

namespace Interop.Command

open Text Arguments

/-- Where a scan of the arguments has got to: behind an option whose value comes next, behind `--`,
or where a switch may stand. -/
inductive Position
  | free
  | waiting
  | escaped
deriving DecidableEq, Repr

/-- The letters of `-v`, `-vv` and so on. -/
def letters : Loose → Nat
  | .char '-' :: more => if ∀ g ∈ more, g = .char 'v' then more.length else 0
  | _ => 0

namespace Position

variable (c : Subcommand)

def next : Position → Loose → Position
  | .free, .char '-' :: .char '-' :: name =>
    if name = [] then .escaped
    else if (c.long? name).any Arg.takesValue then .waiting
    else .free
  | .free, _ => .free
  | .waiting, _ => .free
  | .escaped, _ => .escaped

/-- A value is no switch, and neither is what stands behind `--`. -/
def letters : Position → Loose → Nat
  | .free, a => Command.letters a
  | .waiting, _ | .escaped, _ => 0

def after (pos : Position) (args : List Loose) : Position := args.foldl (next c) pos

end Position

def withoutVerbose (c : Subcommand) (pos : Position) : List Loose → List Loose
  | [] => []
  | a :: args =>
    let rest := withoutVerbose c (pos.next c a) args
    if pos.letters a = 0 then a :: rest else rest

def verboseLetters (c : Subcommand) (pos : Position) : List Loose → Nat
  | [] => 0
  | a :: args => pos.letters a + verboseLetters c (pos.next c a) args

def verbOf? (a : Loose) : Option Verb :=
  [Verb.layout, .blob, .string].find? fun verb => Loose.ofString verb.command.name = a

/-- A command line without its `-v`s. Before the verb there are none. -/
def quieted : List Loose → List Loose
  | [] => []
  | a :: args =>
    match verbOf? a with
    | some verb => a :: withoutVerbose verb.command .free args
    | none => a :: args

def loudness : List Loose → Nat
  | [] => 0
  | a :: args =>
    match verbOf? a with
    | some verb => verboseLetters verb.command .free args
    | none => 0

variable {verb : Verb} {pos : Position} {a : Loose} {args rest item : List Loose} {s t u : State}
  {k : Nat}

def cluster (k : Nat) : Loose := .char '-' :: List.replicate (k + 1) (.char 'v')

theorem letters_cluster (k : Nat) : letters (cluster k) = k + 1 := by
  have hall : ∀ g ∈ List.replicate (k + 1) (Glyph.char 'v'), g = .char 'v' :=
    fun g hg => List.eq_of_mem_replicate hg
  rw [cluster, letters, if_pos hall, List.length_replicate]

theorem eq_cluster (h : letters a = k + 1) : a = cluster k := by
  unfold letters at h
  split at h
  · next more =>
      split at h
      · next hall => exact congrArg _ (List.eq_replicate_iff.2 ⟨h, hall⟩)
      · cases h
  · cases h

theorem letters_long (body : Loose) : letters (long body) = 0 := by
  rw [long, letters, if_neg]
  exact fun h => by cases h _ List.mem_cons_self

theorem letters_of_not_hyphened (h : hyphened a = false) : letters a = 0 := by
  unfold letters
  split
  · next more =>
      cases more with
      | nil => rw [List.length_nil, ite_self]
      | cons g more => cases h
  · rfl

theorem next_cluster (c : Subcommand) (k : Nat) : Position.free.next c (cluster k) = .free := rfl

theorem eq_of_letters_pos (h : pos.letters a = k + 1) : pos = .free ∧ a = cluster k := by
  cases pos with
  | free => exact ⟨rfl, eq_cluster h⟩
  | waiting | escaped => cases h

theorem withoutVerbose_insert (c : Subcommand) (pos : Position) (before after : List Loose)
    (k : Nat) (h : pos.after c before = .free) :
    withoutVerbose c pos (before ++ cluster k :: after) =
        withoutVerbose c pos (before ++ after) ∧
      verboseLetters c pos (before ++ cluster k :: after) =
        verboseLetters c pos (before ++ after) + (k + 1) := by
  induction before generalizing pos with
  | nil =>
      obtain rfl : pos = .free := h
      have hk : Position.free.letters (cluster k) = k + 1 := letters_cluster k
      simp only [List.nil_append, withoutVerbose, verboseLetters, hk, next_cluster]
      exact ⟨if_neg (Nat.succ_ne_zero k), Nat.add_comm _ _⟩
  | cons a before ih =>
      obtain ⟨hargs, hletters⟩ := ih (pos.next c a) h
      simp only [List.cons_append, withoutVerbose, verboseLetters, hargs, hletters]
      exact ⟨trivial, (Nat.add_assoc _ _ _).symm⟩

theorem verbOf?_name (verb : Verb) : verbOf? (Loose.ofString verb.command.name) = some verb := by
  cases verb <;> decide

theorem quieted_insert (verb : Verb) (before after : List Loose) (k : Nat)
    (h : Position.free.after verb.command before = .free) :
    let name := Loose.ofString verb.command.name
    quieted (name :: (before ++ cluster k :: after)) = quieted (name :: (before ++ after)) ∧
      loudness (name :: (before ++ cluster k :: after)) =
        loudness (name :: (before ++ after)) + (k + 1) := by
  intro name
  obtain ⟨hargs, hletters⟩ := withoutVerbose_insert verb.command .free before after k h
  simp only [name, quieted, loudness, verbOf?_name]
  exact ⟨congrArg _ hargs, hletters⟩

example : quieted (["string", "-v", "abc", "--set", "-v", "-vv", "--", "-v"].map Loose.ofString) =
    ["string", "abc", "--set", "-v", "--", "-v"].map Loose.ofString := by decide

def positionOf (s : State) : Position := if s.escaped then .escaped else .free

theorem positionOf_free (h : s.escaped = false) : positionOf s = .free := by
  rw [positionOf, h, if_neg Bool.false_ne_true]

theorem escaped_of_free (h : positionOf s = .free) : s.escaped = false := by
  cases ho : s.escaped with
  | false => rfl
  | true =>
      rw [positionOf, ho] at h
      cases h

theorem positionOf_escaped (h : s.escaped = true) : positionOf s = .escaped := by
  rw [positionOf, h, if_pos rfl]

theorem short?_eq_some {letter : Char} {b : Arg} (h : verb.command.short? letter = some b) :
    letter = 'v' ∧ b = verboseArg := by
  have hshort : b.short = some letter := by simpa using List.find?_some h
  have hb : b.short = none ∨ b = verboseArg := by
    have hmem := List.mem_of_find?_eq_some h
    cases verb <;> simp only [Verb.command, List.mem_cons, List.not_mem_nil, or_false] at hmem
    all_goals
      rcases hmem with rfl | rfl | rfl | rfl | rfl | rfl <;> first | exact .inl rfl | exact .inr rfl
  obtain hb | rfl := hb
  · rw [hb] at hshort
    cases hshort
  · exact ⟨(Option.some.inj hshort).symm, rfl⟩

def withRaised (s : State) (raised : List String) : State := { s with raised := raised }

theorem letters_eq {ls : Loose} (h : Letters verb.command s ls t) :
    ∃ n, ls = List.replicate n (.char 'v') ∧
      t = { s with raised := s.raised ++ List.replicate n "verbose" } := by
  induction h with
  | nil s => exact ⟨0, rfl, by rw [List.replicate_zero, List.append_nil]⟩
  | cons ha hv hs _ ih =>
      obtain ⟨n, rfl, rfl⟩ := ih
      obtain ⟨rfl, rfl⟩ := short?_eq_some ha
      refine ⟨n + 1, rfl, ?_⟩
      rw [List.replicate_succ, List.append_cons]
      rfl

/-- What a step that says something else than `-v` leaves as it is. -/
structure Unraised (c : Subcommand) (s : State) (item : List Loose) (t : State) : Prop where
  raised : t.raised = s.raised
  step : ∀ raised, Step c (withRaised s raised) item (withRaised t raised)
  kept : ∀ rest, withoutVerbose c (positionOf s) (item ++ rest) =
    item ++ withoutVerbose c (positionOf t) rest
  uncounted : ∀ rest, verboseLetters c (positionOf s) (item ++ rest) =
    verboseLetters c (positionOf t) rest
  split : ∀ a args rest, (positionOf s).letters a = 0 →
    withoutVerbose c (positionOf s) (a :: args) = item ++ rest →
      ∃ behind, a :: args = item ++ behind

theorem unraised_single (hr : t.raised = s.raised)
    (hs : ∀ raised, Step verb.command (withRaised s raised) [a] (withRaised t raised))
    (hl : (positionOf s).letters a = 0) (hn : (positionOf s).next verb.command a = positionOf t) :
    Unraised verb.command s [a] t where
  raised := hr
  step := hs
  kept rest := by
    rw [List.singleton_append, withoutVerbose, hn, if_pos hl]
    rfl
  uncounted rest := by
    rw [List.singleton_append, verboseLetters, hn, hl, Nat.zero_add]
  split b args rest hb h := by
    rw [withoutVerbose, hb, List.singleton_append] at h
    exact ⟨args, congrArg (· :: args) (List.cons.inj h).1⟩

theorem next_name {c : Subcommand} {name : Loose} (hne : name ≠ []) :
    Position.free.next c (long name) =
      if (c.long? name).any Arg.takesValue then .waiting else .free := by
  rw [long, Position.next, if_neg hne]

theorem next_of_not_hyphened (c : Subcommand) (h : hyphened a = false) :
    Position.free.next c a = .free := by
  unfold Position.next
  split
  next => cases h
  next => rfl
  next hp => cases hp
  next hp => cases hp

theorem isLong_of_long? {name : Loose} {b : Arg} (h : verb.command.long? name = some b) :
    IsLong verb.command name b := by
  have hname : b.long.map Loose.ofString = some name := by simpa using List.find?_some h
  obtain ⟨n, hn, rfl⟩ := Option.map_eq_some_iff.1 hname
  exact isLong_of_mem (List.mem_of_find?_eq_some h) hn

theorem mark_of_long? {name : Loose} {b : Arg} (h : verb.command.long? name = some b)
    (s : State) : s.mark b = s.give b.id none := by
  have hall : ∀ b ∈ verb.command.args, b.long.isSome = true → b.action ≠ .count := by
    cases verb <;> decide
  have hname : b.long.map Loose.ofString = some name := by simpa using List.find?_some h
  refine if_neg (hall b (List.mem_of_find?_eq_some h) ?_)
  obtain ⟨n, hn, -⟩ := Option.map_eq_some_iff.1 hname
  rw [hn]
  rfl

theorem scan_long (c : Subcommand) {body : Loose} (ho : s.escaped = false) (hne : body ≠ [])
    (h : (c.long? body).any Arg.takesValue = false) :
    (positionOf s).letters (long body) = 0 ∧ (positionOf s).next c (long body) = positionOf s := by
  rw [positionOf_free ho, next_name hne, h]
  exact ⟨letters_long body, rfl⟩

theorem scan_operand (c : Subcommand) (h : s.escaped = true ∨ hyphened a = false) :
    (positionOf s).letters a = 0 ∧ (positionOf s).next c a = positionOf s := by
  cases ho : s.escaped with
  | true =>
      rw [positionOf_escaped ho]
      exact ⟨rfl, rfl⟩
  | false =>
      have hplain := h.resolve_left (by simp [ho])
      rw [positionOf_free ho]
      exact ⟨letters_of_not_hyphened hplain, next_of_not_hyphened c hplain⟩

theorem unraised_apart {name value : Loose} {b : Arg} {v : Value} (ho : s.escaped = false)
    (hb : IsLong verb.command name b) (hv : b.takesValue = true) (hf : Follows b value)
    (hs : s.admits b = true) (hr : read? b.kind value = some v) :
    Unraised verb.command s [long name, value] (s.give b.id (some v)) := by
  have hnext : Position.free.next verb.command (long name) = .waiting := by
    rw [next_name (hb.ne_nil (long?_nil verb)), hb.known, Option.any_some, hv, if_pos rfl]
  have hname : Position.free.letters (long name) = 0 := letters_long name
  have hvalue (w : Loose) : Position.waiting.letters w = 0 := rfl
  have hend : positionOf (s.give b.id (some v)) = .free := positionOf_free ho
  refine ⟨rfl, fun raised => .apart ho hb hv hf hs hr, fun rest => ?_, fun rest => ?_,
    fun first args rest hl h => ?_⟩
  · rw [positionOf_free ho, hend, List.cons_append, List.singleton_append, withoutVerbose, hname,
      hnext, withoutVerbose, hvalue]
    rfl
  · rw [positionOf_free ho, hend, List.cons_append, List.singleton_append, verboseLetters, hname,
      hnext, verboseLetters, hvalue, Nat.zero_add, Nat.zero_add]
    rfl
  · rw [positionOf_free ho] at hl h
    rw [withoutVerbose, hl, if_pos rfl, List.cons_append] at h
    obtain ⟨rfl, h⟩ := List.cons.inj h
    rw [hnext] at h
    cases args with
    | nil => cases h
    | cons w args =>
        rw [withoutVerbose, hvalue, if_pos rfl] at h
        exact ⟨args, congrArg (fun w => long name :: w :: args) (List.cons.inj h).1⟩

/-- A step says how loud the log is to be, or something else. -/
theorem step_cases (h : Step verb.command s item t) :
    (∃ k, item = [cluster k] ∧ s.escaped = false ∧
      t = withRaised s (s.raised ++ List.replicate (k + 1) "verbose")) ∨
    Unraised verb.command s item t := by
  cases h with
  | @letters _ g rest ho hg hl =>
      obtain ⟨n, hn, rfl⟩ := letters_eq hl
      cases n with
      | zero => cases hn
      | succ k => exact .inl ⟨k, by rw [hn, cluster], ho, rfl⟩
  | @switch name b ho ha hv hs =>
      obtain ⟨hl, hn⟩ := scan_long verb.command ho (ha.ne_nil (long?_nil verb))
        (by rw [ha.known, Option.any_some, hv])
      rw [mark_of_long? ha.known]
      refine .inr (unraised_single rfl (fun raised => ?_) hl hn)
      rw [show withRaised (s.give b.id none) raised = (withRaised s raised).mark b from
        (mark_of_long? ha.known (withRaised s raised)).symm]
      exact .switch ho ha hv hs
  | @joined name value b v ho ha hv hs hr =>
      have hnone : verb.command.long? (name ++ .char '=' :: value) = none := by
        refine Option.eq_none_iff_forall_ne_some.2 fun b hb => ?_
        exact (isLong_of_long? hb).ends (List.mem_append_right name List.mem_cons_self)
      have hne : name ++ .char '=' :: value ≠ [] := by simp
      obtain ⟨hl, hn⟩ := scan_long verb.command ho hne (by rw [hnone, Option.any_none])
      exact .inr (unraised_single rfl (fun raised => .joined ho ha hv hs hr) hl hn)
  | apart ho ha hv hf hs hr => exact .inr (unraised_apart ho ha hv hf hs hr)
  | operand hh ha hr =>
      obtain ⟨hl, hn⟩ := scan_operand verb.command hh
      exact .inr (unraised_single rfl (fun raised => .operand hh ha hr) hl hn)
  | escape ho =>
      refine .inr (unraised_single rfl (fun raised => .escape ho) ?_ ?_)
      · rw [positionOf_free ho]
        exact letters_long []
      · rw [positionOf_free ho]
        exact (positionOf_escaped rfl).symm

/-- Without its `-v`s a command line says the same, however loud. -/
theorem reads_withoutVerbose (h : Reads verb.command s args (.done t)) :
    t.raised = s.raised ++
        List.replicate (verboseLetters verb.command (positionOf s) args) "verbose" ∧
      ∀ raised, Reads verb.command (withRaised s raised)
        (withoutVerbose verb.command (positionOf s) args) (.done (withRaised t raised)) := by
  generalize hv : Verdict.done t = v at h
  induction h with
  | help | refused => cases hv
  | done hn =>
      cases hv
      exact ⟨(List.append_nil _).symm, fun raised => .done hn⟩
  | @step s u item rest v hstep hr ih =>
      obtain ⟨hraised, hreads⟩ := ih hv
      obtain ⟨k, rfl, ho, rfl⟩ | hu := step_cases hstep
      · have hp : positionOf (withRaised s (s.raised ++ List.replicate (k + 1) "verbose")) =
            .free := positionOf_free ho
        rw [hp] at hraised hreads
        have hk : Position.free.letters (cluster k) = k + 1 := letters_cluster k
        rw [positionOf_free ho, List.singleton_append, withoutVerbose, verboseLetters, next_cluster,
          hk, if_neg (Nat.succ_ne_zero k)]
        refine ⟨?_, hreads⟩
        rw [hraised, withRaised, List.append_assoc, List.replicate_append_replicate]
      · rw [hu.kept, hu.uncounted]
        exact ⟨by rw [hraised, hu.raised], fun raised => .step (hu.step raised) (hreads raised)⟩

theorem step_cluster (ho : s.escaped = false) (k : Nat) :
    Step verb.command s [cluster k]
      (withRaised s (s.raised ++ List.replicate (k + 1) "verbose")) :=
  .letters ho (by decide) (letters_replicate s (k + 1))

theorem length_pos_of_step {c : Subcommand} (h : Step c s item t) : 0 < item.length := by
  cases h <;> exact Nat.succ_pos _

theorem reads_done_cases {c : Subcommand} (h : Reads c s args (.done t)) :
    (args = [] ∧ t = s ∧ c.required s.names = []) ∨
      ∃ item rest u, args = item ++ rest ∧ Step c s item u ∧ Reads c u rest (.done t) := by
  cases h with
  | done hn => exact .inl ⟨rfl, rfl, hn⟩
  | step hstep hr => exact .inr ⟨_, _, _, rfl, hstep, hr⟩

/-- With `-v`s put in, a command line says the same, and how loud. -/
theorem reads_of_withoutVerbose
    (h : Reads verb.command s (withoutVerbose verb.command (positionOf s) args) (.done t))
    (raised : List String) :
    Reads verb.command (withRaised s raised) args (.done (withRaised t (raised ++
      List.replicate (verboseLetters verb.command (positionOf s) args) "verbose"))) := by
  -- An argument in front is a cluster, or begins the item that is read next.
  induction hn : args.length using Nat.strongRecOn generalizing args s raised with
  | ind n ih =>
      subst hn
      cases args with
      | nil =>
          rw [withoutVerbose] at h
          obtain ⟨-, rfl, hnone⟩ | ⟨item, rest, u, he, hstep, -⟩ := reads_done_cases h
          · rw [verboseLetters, List.replicate_zero, List.append_nil]
            exact .done hnone
          · have hlength := congrArg List.length he
            have hpos := length_pos_of_step hstep
            rw [List.length_nil, List.length_append] at hlength
            omega
      | cons a args =>
          cases hk : (positionOf s).letters a with
          | succ k =>
              obtain ⟨hp, rfl⟩ := eq_of_letters_pos hk
              have ho : (withRaised s raised).escaped = false := escaped_of_free hp
              rw [withoutVerbose, hk, if_neg (Nat.succ_ne_zero k), hp, next_cluster, ← hp] at h
              have hrest := ih args.length (Nat.lt_succ_self _) h
                (raised ++ List.replicate (k + 1) "verbose") rfl
              rw [List.append_assoc, List.replicate_append_replicate] at hrest
              rw [verboseLetters, hk, hp, next_cluster, ← hp]
              exact .step (step_cluster ho k) hrest
          | zero =>
              generalize hw : withoutVerbose verb.command (positionOf s) (a :: args) = kept at h
              obtain ⟨rfl, -⟩ | ⟨item, rest, u, rfl, hstep, hr⟩ := reads_done_cases h
              · rw [withoutVerbose, hk] at hw
                cases hw
              · obtain ⟨k, rfl, ho, rfl⟩ | hu := step_cases hstep
                · rw [withoutVerbose, hk, if_pos rfl, List.singleton_append] at hw
                  obtain ⟨rfl, -⟩ := List.cons.inj hw
                  rw [positionOf_free ho] at hk
                  cases (letters_cluster k).symm.trans hk
                · obtain ⟨behind, hb⟩ := hu.split a args rest hk hw
                  rw [hb, hu.kept] at hw
                  obtain rfl := List.append_cancel_left hw
                  have hlt : behind.length < (a :: args).length := by
                    rw [hb, List.length_append]
                    exact Nat.lt_add_of_pos_left (length_pos_of_step hstep)
                  rw [hb, hu.uncounted]
                  exact .step (hu.step raised) (ih _ hlt hr raised rfl)

def Invocation.withVerbosity (i : Invocation) (n : Nat) : Invocation :=
  { i with verbosity := UInt8.ofNat (min 255 n) }

theorem ofMatches_withRaised (s : State) (n : Nat) :
    Invocation.ofMatches ((withRaised s (List.replicate n "verbose")).found verb.command) verb =
      (Invocation.ofMatches (s.found verb.command) verb).withVerbosity n := by
  have hcount : (List.replicate n "verbose").count "verbose" = n := List.count_replicate_self
  simp only [Invocation.ofMatches, Invocation.withVerbosity, withRaised, State.found, hcount]
  rfl

theorem head?_quieted (args : List Loose) : (quieted args).head? = args.head? := by
  cases args with
  | nil => rfl
  | cons a args =>
      rw [quieted]
      split <;> rfl

/-- Command lines that differ in their `-v`s mean the same but for the count of these. -/
theorem invocation?_of_quieted {parser : ArgumentParser} (hd : Documented parser commandLine)
    {args args' : List Loose} (hargs : quieted args' = quieted args) {i : Invocation}
    (hi : parser.invocation? args = .ok (some i)) :
    i.verbosity = UInt8.ofNat (min 255 (loudness args)) ∧
      parser.invocation? args' = .ok (some (i.withVerbosity (loudness args'))) := by
  obtain ⟨verb, rest, t, rfl, hread, h⟩ | ⟨e, h⟩ := invocation?_cases hd args
  · obtain rfl := Option.some.inj (Except.ok.inj (h.symm.trans hi))
    have hhead := (head?_quieted args').symm.trans (congrArg List.head? hargs)
    rw [head?_quieted] at hhead
    obtain ⟨rest', rfl⟩ := List.head?_eq_some_iff.1 hhead
    simp only [quieted, loudness, verbOf?_name] at hargs ⊢
    obtain ⟨-, hargs⟩ := List.cons.inj hargs
    obtain ⟨hraised, hquiet⟩ := reads_withoutVerbose hread
    refine ⟨?_, ?_⟩
    · have hcount : t.raised.count "verbose" = verboseLetters verb.command .free rest := by
        rw [hraised]
        exact List.count_replicate_self
      exact congrArg (fun n => UInt8.ofNat (min 255 n)) hcount
    · have hquiet' : Reads verb.command {} (withoutVerbose verb.command .free rest')
          (.done (withRaised t [])) := hargs ▸ hquiet []
      have hread' := reads_of_withoutVerbose (s := {}) hquiet' []
      exact (invocation?_done hd hread').trans (by rw [← ofMatches_withRaised]; rfl)
  · cases h.symm.trans hi

end Interop.Command
