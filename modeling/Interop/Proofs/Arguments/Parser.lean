import Interop.Arguments.Parse
import Interop.Proofs.Command.Reading

namespace Interop.Arguments

open Text Command

variable {c : Subcommand} {p p' : Progress} {s t : State} {a : Arg} {value name body ls : Loose}
  {v : Value} {item args rest : List Loose} {e : UsageError}

theorem ok_bind {ε α β : Type} (a : α) (g : α → Except ε β) : (Except.ok a >>= g) = g a := rfl

theorem toOption_decodeValue_bind {α : Type} (value : Loose)
    (f : List Char → Except UsageError α) :
    (decodeValue value >>= f).toOption = value.text?.bind fun t => (f t).toOption := by
  rw [decodeValue]
  cases value.text? <;> rfl

theorem readValue_eq (a : Arg) (value : Loose) :
    (readValue a value).toOption = read? a.kind value := by
  unfold readValue read?
  cases a.kind with
  | path => cases value <;> rfl
  | text =>
      refine (toOption_decodeValue_bind value _).trans ?_
      cases value.text? <;> rfl
  | choice names =>
      refine (toOption_decodeValue_bind value _).trans (congrArg _ (funext fun text => ?_))
      cases names.contains (String.ofList text) <;> rfl
  | size =>
      refine (toOption_decodeValue_bind value _).trans (congrArg _ (funext fun text => ?_))
      cases readNat 10 (UInt64.size - 1) text <;> rfl
  | index =>
      refine (toOption_decodeValue_bind value _).trans (congrArg _ (funext fun text => ?_))
      cases readInt 64 text with
      | error e => rfl
      | ok i =>
          by_cases hrange : Int32.minValue.toInt ≤ i ∧ i ≤ Int32.maxValue.toInt
          · exact (congrArg Except.toOption (if_pos hrange)).trans (if_pos hrange).symm
          · exact (congrArg Except.toOption (if_neg hrange)).trans (if_neg hrange).symm
  | edit =>
      refine (toOption_decodeValue_bind value _).trans (congrArg _ (funext fun text => ?_))
      cases Managed.Edit.parse text <;> rfl

theorem take_of_read? (hs : s.admits a = true) (hr : read? a.kind value = some v) :
    s.take a value = .ok (s.give a.id (some v)) := by
  have h := readValue_eq a value
  rw [hr] at h
  rw [State.take, if_pos hs]
  cases hv : readValue a value with
  | error e => rw [hv] at h; cases h
  | ok w => rw [hv] at h; cases h; rfl

theorem take_error (h : s.admits a = false ∨ read? a.kind value = none) :
    ∃ e, s.take a value = .error e := by
  rw [State.take]
  cases hs : s.admits a with
  | false => exact ⟨_, rfl⟩
  | true =>
      have hr := readValue_eq a value
      rw [h.resolve_left (by simp [hs])] at hr
      cases hv : readValue a value with
      | error e => exact ⟨e, rfl⟩
      | ok w => rw [hv] at hr; cases hr

/-- What is pending can be taken in, and this is then said. -/
inductive Settles : Progress → State → Prop
  | idle (s : State) : Settles ⟨s, none⟩ s
  | supplied {s : State} {a : Arg} {value : Loose} {v : Value} (hs : s.admits a = true)
      (hr : read? a.kind value = some v) :
      Settles ⟨s, some (.supplied a value)⟩ (s.give a.id (some v))

namespace Settles

theorem settle_eq (h : Settles p s) : p.settle = .ok s := by
  cases h with
  | idle => rfl
  | supplied hs hr => exact take_of_read? hs hr

theorem lift_settle (h : Settles p s) : lift p.settle = .ok s := congrArg lift h.settle_eq

theorem waiting (h : Settles p s) : p.waiting = none := by
  cases h <;> rfl

theorem names (h : Settles p s) : p.names = s.names := by
  cases h with
  | idle => rfl
  | supplied => simp [Progress.names, State.names, State.give]

theorem escaped (h : Settles p s) : p.state.escaped = s.escaped := by
  cases h <;> rfl

theorem escape (h : Settles p s) :
    Settles { p with state.escaped := true } { s with escaped := true } := by
  cases h with
  | idle => exact .idle _
  | @supplied s a value v hs hr => exact @supplied { s with escaped := true } a value v hs hr

end Settles

theorem parseArgument_eq (hw : p.waiting = none) (ho : p.state.escaped = false) (value : Loose) :
    parseArgument c p value = parseSwitch c p value := by
  rw [parseArgument, if_neg (by simp [ho]), hw]

theorem parseSwitch_long (hb : body ≠ []) : parseSwitch c p (long body) = parseLong c p body := by
  rw [long, parseSwitch, if_neg (by simpa using hb)]

theorem parseSwitch_short {g : Glyph} (hg : g ≠ .char '-') (rest : Loose) :
    parseSwitch c p (.char '-' :: g :: rest) = parseShorts c p (g :: rest) := by
  rw [parseSwitch]
  exact hg

theorem parseSwitch_operand (h : hyphened value = false) :
    parseSwitch c p value = parseOperand c p value := by
  rw [parseSwitch]
  · rintro body rfl
    cases h
  · rintro g rest rfl
    cases h

theorem parseLong_name (ha : IsLong c name a) :
    parseLong c p name =
      if a.takesValue then do
        let s ← lift p.settle
        return ⟨s, some (.awaiting a)⟩
      else mark p a := by
  rw [parseLong, splitFirst_of_notMem ha.ends]
  simp only [ha.known]

theorem parseLong_equals (ha : IsLong c name a) (hv : a.takesValue = true) :
    parseLong c p (name ++ .char '=' :: value) = do
      let s ← lift p.settle
      return ⟨← lift (s.take a value), none⟩ := by
  rw [parseLong, splitFirst_append ha.ends]
  simp only [ha.known, hv, if_true]

theorem Settles.mark (h : Settles p s) (hs : s.admits a = true) :
    mark p a = .ok ⟨s.mark a, none⟩ := by
  rw [Arguments.mark, h.lift_settle, ok_bind, if_pos hs]
  rfl

theorem Settles.mark_error (h : Settles p s) (hs : s.admits a = false) :
    Arguments.mark p a = .error (.refused (.repeated a)) := by
  rw [Arguments.mark, h.lift_settle, ok_bind, if_neg (by simp [hs])]
  rfl

theorem Settles.help (h : Settles p s) : help c p = .error (.help (.command c)) := by
  rw [Arguments.help, h.lift_settle]
  rfl

theorem Settles.parseOperand (h : Settles p s) (ha : c.operand? s.names = some a) :
    parseOperand c p value = .ok ⟨s, some (.supplied a value)⟩ := by
  rw [Arguments.parseOperand, h.names, ha]
  simp only [h.lift_settle]
  rfl

theorem Settles.parseShorts (h : Settles p s) (hl : Letters c s ls t) :
    ∃ p', Settles p' t ∧ ∀ behind, parseShorts c p (ls ++ behind) = parseShorts c p' behind := by
  induction hl generalizing p with
  | nil s => exact ⟨p, h, fun behind => rfl⟩
  | @cons s t letter rest a ha hv hs _ ih =>
      obtain ⟨p', hp', hrest⟩ := ih (.idle (s.mark a))
      refine ⟨p', hp', fun behind => ?_⟩
      rw [List.cons_append, Arguments.parseShorts]
      simp only [ha, h.mark hs, ok_bind, hrest]

theorem admits_of_operand? (ha : c.operand? s.names = some a) : s.admits a = true := by
  have h := List.find?_some ha
  simp only [Bool.and_eq_true] at h
  rw [State.admits, h.2, Bool.or_true]

theorem parseArgument_operand (h : Settles p s) (hh : s.escaped = true ∨ hyphened value = false) :
    parseArgument c p value = parseOperand c p value := by
  cases ho : s.escaped with
  | true => rw [parseArgument, if_pos (h.escaped.trans ho)]
  | false =>
      rw [parseArgument_eq h.waiting (h.escaped.trans ho),
        parseSwitch_operand (hh.resolve_left (by simp [ho]))]

theorem Settles.parseArgument_long (h : Settles p s) (ho : s.escaped = false) (hb : body ≠ []) :
    parseArgument c p (long body) = parseLong c p body := by
  rw [parseArgument_eq h.waiting (h.escaped.trans ho), parseSwitch_long hb]

theorem Settles.parseArgument_short (h : Settles p s) (ho : s.escaped = false)
    (hd : ls.head? ≠ some (.char '-')) (hl : ls ≠ []) :
    parseArgument c p (.char '-' :: ls) = Arguments.parseShorts c p ls := by
  obtain ⟨g, ls, rfl⟩ := List.exists_cons_of_ne_nil hl
  rw [parseArgument_eq h.waiting (h.escaped.trans ho), parseSwitch_short]
  exact fun hg => hd (congrArg some hg)

theorem Settles.awaits (h : Settles p s) (ho : s.escaped = false) (hne : name ≠ [])
    (ha : IsLong c name a) (hv : a.takesValue = true) :
    parseArgument c p (long name) = .ok ⟨s, some (.awaiting a)⟩ := by
  rw [h.parseArgument_long ho hne, parseLong_name ha, if_pos hv, h.lift_settle]
  rfl

theorem looksNumeric_of_digits {digits : List Char} (h : ∀ d ∈ digits, d.isDigit = true) :
    looksNumeric digits = true := by
  suffices hgo : ∀ started, looksNumeric.go digits started false false = true from hgo false
  induction digits with
  | nil => exact fun _ => rfl
  | cons d digits ih =>
      intro started
      have hd : '0' ≤ d ∧ d ≤ '9' := by
        simpa [Char.isDigit, Char.le_def] using h d List.mem_cons_self
      rw [looksNumeric.go, if_pos hd]
      exact ih (fun d hd => h d (List.mem_cons_of_mem _ hd)) true

theorem isFollowedBy_of_follows (h : Follows a value) : isFollowedBy a value = true := by
  cases h with
  | plain h =>
      unfold isFollowedBy
      split
      · cases h
      · rfl
  | hyphened h value =>
      unfold isFollowedBy
      split
      · rw [h, Bool.true_or]
      · rfl
  | @negative h digits hne hd =>
      obtain ⟨d, rest, rfl⟩ := List.exists_cons_of_ne_nil hne
      have ht : Loose.text? ((d :: rest).map .char) = some (d :: rest) := Loose.text?_map_char _
      rw [List.map_cons] at ht ⊢
      rw [isFollowedBy, ht, h, Option.map_some, looksNumeric_of_digits hd]
      simp

theorem parseArgument_follows (ho : s.escaped = false) (hf : isFollowedBy a value = true) :
    parseArgument c ⟨s, some (.awaiting a)⟩ value = .ok ⟨s, some (.supplied a value)⟩ := by
  rw [parseArgument, if_neg (by simp [ho])]
  simp only [Progress.waiting, hf, if_true]
  rfl

/-- The parser keeps up with every step. -/
theorem Settles.step (hc : c.long? [] = none) (h : Settles p s) (hstep : Step c s item t) :
    ∃ p', item.foldlM (parseArgument c) p = .ok p' ∧ Settles p' t := by
  cases hstep with
  | @switch name a ho ha hv hs =>
      refine ⟨⟨s.mark a, none⟩, ?_, .idle _⟩
      rw [List.foldlM_cons, h.parseArgument_long ho (ha.ne_nil hc), parseLong_name ha,
        if_neg (by simp [hv]), h.mark hs]
      rfl
  | @letters _ g rest ho hg hl =>
      obtain ⟨p', hp', hrest⟩ := h.parseShorts hl
      refine ⟨p', ?_, hp'⟩
      have hlast := hrest []
      rw [List.append_nil] at hlast
      have hd : (g :: rest).head? ≠ some (.char '-') := fun he => hg (Option.some.inj he)
      rw [List.foldlM_cons, h.parseArgument_short ho hd (List.cons_ne_nil g rest), hlast]
      rfl
  | @joined name value a v ho ha hv hs hr =>
      refine ⟨⟨s.give a.id (some v), none⟩, ?_, .idle _⟩
      rw [List.foldlM_cons, h.parseArgument_long ho (by simp), parseLong_equals ha hv,
        h.lift_settle, ok_bind, take_of_read? hs hr]
      rfl
  | @apart name value a v ho ha hv hf hs hr =>
      refine ⟨_, ?_, .supplied hs hr⟩
      rw [List.foldlM_cons, h.awaits ho (ha.ne_nil hc) ha hv, ok_bind, List.foldlM_cons,
        parseArgument_follows ho (isFollowedBy_of_follows hf)]
      rfl
  | @operand value a v hh ha hr =>
      refine ⟨_, ?_, .supplied (admits_of_operand? ha) hr⟩
      rw [List.foldlM_cons, parseArgument_operand h hh, h.parseOperand ha]
      rfl
  | escape ho =>
      refine ⟨_, ?_, h.escape⟩
      rw [List.foldlM_cons, parseArgument_eq h.waiting (h.escaped.trans ho)]
      rfl

/-- The arguments are refused; help was not asked for before that. -/
def Refused {α : Type} (x : Except Interruption α) : Prop := ∃ e, x = .error (.refused e)

theorem Refused.bind {α β : Type} {x : Except Interruption α} (h : Refused x)
    (f : α → Except Interruption β) : Refused (x >>= f) := by
  obtain ⟨e, rfl⟩ := h
  exact ⟨e, rfl⟩

theorem parseFrom_cons (p : Progress) (a : Loose) (args : List Loose) :
    parseFrom c p (a :: args) = parseArgument c p a >>= fun p => parseFrom c p args := by
  rw [parseFrom, List.foldlM_cons]
  exact bind_assoc _ _ _

theorem parseFrom_append (h : item.foldlM (parseArgument c) p = .ok p') (rest : List Loose) :
    parseFrom c p (item ++ rest) = parseFrom c p' rest := by
  rw [parseFrom, List.foldlM_append, h]
  rfl

theorem parseFrom_nil (p : Progress) :
    parseFrom c p [] = (do let s ← lift p.settle; lift (conclude c s)) := rfl

theorem refused_unknown {α : Type} (argument : String) :
    Refused (unknown argument : Except Interruption α) := ⟨_, rfl⟩

theorem refused_unwanted (he : Glyph.char '=' ∉ name)
    (ha : ∀ a, c.long? name = some a → a.takesValue = false) (value : Loose) :
    Refused (parseLong c p (name ++ .char '=' :: value)) := by
  rw [parseLong, splitFirst_append he]
  cases hn : c.long? name with
  | some a =>
      simp only [hn, ha a hn, Bool.false_eq_true, if_false]
      exact ⟨_, rfl⟩
  | none =>
      simp only [hn]
      split
      · exact ⟨_, rfl⟩
      · exact refused_unknown _

section Stuck

variable (h : p.settle = .error e)
include h

theorem lift_settle_of_error : lift p.settle = .error (.refused e) := congrArg lift h

theorem refused_mark (a : Arg) : Refused (mark p a) := by
  rw [mark, lift_settle_of_error h]
  exact ⟨e, rfl⟩

theorem refused_help : Refused (help c p) := by
  rw [help, lift_settle_of_error h]
  exact ⟨e, rfl⟩

theorem refused_parseOperand (value : Loose) : Refused (parseOperand c p value) := by
  rw [parseOperand]
  split
  · exact refused_unknown _
  · rw [lift_settle_of_error h]
    exact ⟨e, rfl⟩

theorem refused_parseLong (body : Loose) : Refused (parseLong c p body) := by
  rw [parseLong]
  generalize splitFirst (Glyph.char '=') body = parts
  obtain ⟨name, value⟩ := parts
  simp only
  split
  · split
    · rw [lift_settle_of_error h]
      exact ⟨e, rfl⟩
    · exact ⟨_, rfl⟩
  · split
    · rw [lift_settle_of_error h]
      exact ⟨e, rfl⟩
    · exact refused_mark h _
  · split
    · exact ⟨_, rfl⟩
    · exact refused_unknown _
  · split
    · exact refused_help h
    · exact refused_unknown _

theorem refused_parseShorts {ls : Loose} (hl : ls ≠ []) : Refused (parseShorts c p ls) := by
  obtain ⟨g, ls, rfl⟩ := List.exists_cons_of_ne_nil hl
  cases g with
  | stray bytes => exact refused_unknown _
  | char letter =>
      rw [parseShorts]
      split
      · exact (refused_mark h _).bind _
      · split
        · exact refused_help h
        · exact refused_unknown _

end Stuck

/-- What is pending cannot be taken in, and no later argument is its value. -/
structure Hopeless (p : Progress) : Prop where
  stuck : ∃ e, p.settle = .error e
  closed : p.waiting = none ∨ p.state.escaped = true

theorem exists_settle_escaped (h : p.settle = .error e) :
    ∃ e, Progress.settle { p with state.escaped := true } = .error e := by
  obtain ⟨s, pending⟩ := p
  cases pending with
  | none => cases h
  | some w =>
      cases w with
      | awaiting a => exact ⟨_, rfl⟩
      | supplied a value =>
          have hs : s.admits a = false ∨ read? a.kind value = none := by
            cases hs : s.admits a with
            | false => exact .inl rfl
            | true =>
                refine .inr (Option.eq_none_iff_forall_ne_some.2 fun v hr => ?_)
                cases (take_of_read? hs hr).symm.trans h
          exact @take_error { s with escaped := true } a value hs

theorem stuck_next (h : p.settle = .error e)
    (hf : ∀ a, p.waiting = some a → p.state.escaped = true ∨ isFollowedBy a value = false) :
    Refused (parseArgument c p value) ∨
      ∃ p', parseArgument c p value = .ok p' ∧ Hopeless p' := by
  have hswitch : Refused (parseSwitch c p value) ∨
      ∃ p', parseSwitch c p value = .ok p' ∧ Hopeless p' := by
    obtain hh | ⟨body, rfl⟩ | ⟨g, ls, hg, rfl⟩ := hyphened_cases value
    · rw [parseSwitch_operand hh]
      exact .inl (refused_parseOperand h value)
    · by_cases hb : body = []
      · subst hb
        exact .inr ⟨_, rfl, ⟨exists_settle_escaped h, .inr rfl⟩⟩
      · rw [parseSwitch_long hb]
        exact .inl (refused_parseLong h body)
    · rw [parseSwitch_short hg]
      exact .inl (refused_parseShorts h (List.cons_ne_nil g ls))
  rw [parseArgument]
  split
  · exact .inl (refused_parseOperand h value)
  · next ho =>
      split
      · next a hw =>
          rw [if_neg (by simpa using (hf a hw).resolve_left ho)]
          exact hswitch
      · exact hswitch

/-- Whatever follows, the arguments are refused. -/
theorem Hopeless.refused (h : Hopeless p) (args : List Loose) : Refused (parseFrom c p args) := by
  induction args generalizing p with
  | nil =>
      obtain ⟨e, he⟩ := h.stuck
      exact ⟨e, by rw [parseFrom_nil, lift_settle_of_error he]; rfl⟩
  | cons a args ih =>
      obtain ⟨e, he⟩ := h.stuck
      rw [parseFrom_cons]
      have hf : ∀ b, p.waiting = some b → p.state.escaped = true ∨ isFollowedBy b a = false := by
        intro b hb
        refine .inl (h.closed.resolve_left ?_)
        rw [hb]
        exact nofun
      obtain hr | ⟨p', hp, hnext⟩ := stuck_next (c := c) he hf
      · exact hr.bind _
      · rw [hp]
        exact ih hnext

theorem refused_supplied (h : s.admits a = false ∨ read? a.kind value = none)
    (args : List Loose) : Refused (parseFrom c ⟨s, some (.supplied a value)⟩ args) := by
  have hopeless : Hopeless ⟨s, some (.supplied a value)⟩ := ⟨take_error h, .inl rfl⟩
  exact hopeless.refused args

theorem Settles.refused_letter {g : Glyph} (h : Settles p s) (hg : BadLetter c s g)
    (behind : Loose) : Refused (Arguments.parseShorts c p (g :: behind)) := by
  cases hg with
  | stray bytes => exact refused_unknown _
  | unknown ha hh =>
      rw [Arguments.parseShorts]
      simp only [ha, if_neg hh]
      exact refused_unknown _
  | repeated ha hv hs =>
      rw [Arguments.parseShorts]
      simp only [ha, h.mark_error hs]
      exact ⟨_, rfl⟩

/-- A value behind a hyphen that is taken all the same is one of a negative number. -/
theorem unreadable_of_isFollowedBy
    (hf : hyphened value = true ∧ a.hyphens = false ∧
      (a.negatives = true → read? a.kind value = none)) (h : isFollowedBy a value = true) :
    read? a.kind value = none := by
  obtain ⟨hh, hyp, hn⟩ := hf
  unfold hyphened at hh
  split at hh
  next g rest =>
    rw [isFollowedBy, hyp, Bool.false_or, Bool.and_eq_true] at h
    exact hn h.1
  next => cases hh

theorem Settles.refuses (hc : c.long? [] = none) (h : Settles p s) (hr : Refuses c s args) :
    Refused (parseFrom c p args) := by
  cases hr with
  | repeated ho ha hv hs rest =>
      rw [parseFrom_cons, h.parseArgument_long ho (ha.ne_nil hc), parseLong_name ha,
        if_neg (by simp [hv]), h.mark_error hs]
      exact ⟨_, rfl⟩
  | unknown ho hne he ha hh rest =>
      rw [parseFrom_cons, h.parseArgument_long ho hne, parseLong, splitFirst_of_notMem he]
      simp only [ha, if_neg hh]
      exact (refused_unknown _).bind _
  | @unwanted name ho he ha value rest =>
      rw [parseFrom_cons, h.parseArgument_long ho (by simp)]
      exact (refused_unwanted he ha value).bind _
  | letter ho hd hl hg rest =>
      obtain ⟨p', hp', hbehind⟩ := h.parseShorts hl
      rw [parseFrom_cons, h.parseArgument_short ho hd (by simp), hbehind]
      exact (hp'.refused_letter hg _).bind _
  | joined ho ha hv hr rest =>
      obtain ⟨e, he⟩ := take_error hr
      rw [parseFrom_cons, h.parseArgument_long ho (by simp), parseLong_equals ha hv,
        h.lift_settle, ok_bind, he]
      exact ⟨e, rfl⟩
  | apart ho ha hv hf hr rest =>
      rw [parseFrom_cons, h.awaits ho (ha.ne_nil hc) ha hv, ok_bind, parseFrom_cons,
        parseArgument_follows ho (isFollowedBy_of_follows hf), ok_bind]
      exact refused_supplied hr rest
  | @missing name a ho ha hv rest hf =>
      rw [parseFrom_cons, h.awaits ho (ha.ne_nil hc) ha hv, ok_bind]
      cases rest with
      | nil => exact ⟨_, rfl⟩
      | cons value behind =>
          rw [parseFrom_cons]
          cases hfollows : isFollowedBy a value with
          | true =>
              rw [parseArgument_follows ho hfollows, ok_bind]
              exact refused_supplied (.inr (unreadable_of_isFollowedBy (hf value rfl) hfollows))
                behind
          | false =>
              obtain hr | ⟨p', hp, hopeless⟩ :=
                stuck_next (c := c) (p := ⟨s, some (.awaiting a)⟩) rfl
                  fun b hb => .inr (by cases hb; exact hfollows)
              · exact hr.bind _
              · rw [hp]
                exact hopeless.refused behind
  | excess hh ha rest =>
      rw [parseFrom_cons, parseArgument_operand h hh, Arguments.parseOperand, h.names, ha]
      exact (refused_unknown _).bind _
  | operand hh ha hr rest =>
      rw [parseFrom_cons, parseArgument_operand h hh, h.parseOperand ha, ok_bind]
      exact refused_supplied (.inr hr) rest
  | absent hn =>
      rw [parseFrom_nil, h.lift_settle, ok_bind, conclude, if_neg (by simpa using hn)]
      exact ⟨_, rfl⟩

theorem Settles.asksHelp (h : Settles p s) (ha : AsksHelp c s args) :
    parseFrom c p args = .error (.help (.command c)) := by
  cases ha with
  | long ho hn rest =>
      have he : Glyph.char '=' ∉ helpName := by decide
      rw [parseFrom_cons, h.parseArgument_long ho (by decide), parseLong, splitFirst_of_notMem he]
      simp only [hn, if_true, h.help]
      rfl
  | letter ho hd hl hn rest =>
      obtain ⟨p', hp', hbehind⟩ := h.parseShorts hl
      rw [parseFrom_cons, h.parseArgument_short ho hd (by simp), hbehind, Arguments.parseShorts]
      simp only [hn, if_true, hp'.help]
      rfl

def Answers (c : Subcommand) (x : Except Interruption State) : Verdict → Prop
  | .done s => x = .ok s
  | .help => x = .error (.help (.command c))
  | .refused => Refused x

theorem Settles.answers (hc : c.long? [] = none) {v : Verdict} (h : Settles p s)
    (hr : Reads c s args v) : Answers c (parseFrom c p args) v := by
  induction hr generalizing p with
  | step hstep _ ih =>
      obtain ⟨p', hp, hnext⟩ := h.step hc hstep
      rw [parseFrom_append hp]
      exact ih hnext
  | done hn =>
      rw [parseFrom_nil, h.lift_settle, ok_bind, conclude, hn]
      rfl
  | help ha => exact h.asksHelp ha
  | refused hr => exact h.refuses hc hr

theorem parse_cons {cli : CommandLine} (hsub : subcommand? cli (Loose.ofString c.name) = some c)
    (args : List Loose) :
    parse cli (Loose.ofString c.name :: args) =
      (parseFrom c {} args).map fun s => some (c.name, s.found c) := by
  simp only [parse, hsub]
  cases parseFrom c {} args <;> rfl

theorem HasUsage.append {text : String} (h : HasUsage text) (behind : String) :
    HasUsage (text ++ behind) := by
  obtain ⟨before, rest, rfl⟩ := h
  exact ⟨before, rest ++ behind, String.append_assoc⟩

theorem HasUsage.behind {text : String} (h : HasUsage text) (before : String) :
    HasUsage (before ++ text) := by
  obtain ⟨start, rest, rfl⟩ := h
  exact ⟨before ++ start, rest, by simp only [String.append_assoc]⟩

theorem hasUsage_usage (terminal : Bool) (name operands : String) :
    HasUsage (usage terminal name operands) := by
  have hheading : HasUsage (heading terminal "Usage:") := by
    cases terminal with
    | false => exact ⟨"", "", rfl⟩
    | true => exact ⟨"\x1b[1m\x1b[4m", "\x1b[0m", rfl⟩
  rw [usage]
  exact ((((hheading.append " ").append (literal terminal name)).append " ").append operands).append
    "\n"

theorem hasUsage_page (cli : CommandLine) (terminal : Bool) (topic : Topic) :
    HasUsage (topic.page cli terminal) := by
  have h (about name operands : String) :
      HasUsage (about ++ "\n\n" ++ usage terminal name operands) :=
    (hasUsage_usage terminal name operands).behind _
  cases topic with
  | program => exact ((h _ _ _).append _).append _
  | command c => exact (((((h _ _ _).append _).append _).append _).append _).append _
  | help => exact (h _ _ _).append _

theorem subcommand?_of_mem (hc : c ∈ commandLine.subcommands) :
    subcommand? commandLine (Loose.ofString c.name) = some c := by
  obtain ⟨verb, rfl⟩ := exists_verb hc
  cases verb <;> rfl

theorem answers_of_reads (hc : c ∈ commandLine.subcommands) {v : Verdict}
    (h : Reads c {} args v) : Answers c (parseFrom c {} args) v := by
  obtain ⟨verb, rfl⟩ := exists_verb hc
  exact (Settles.idle {}).answers (long?_nil verb) h

/-- The parser of this project keeps to the rules. -/
theorem parser_documented : Documented (parser commandLine) commandLine where
  found c hc args s h := by
    have hs : parseFrom c {} args = .ok s := answers_of_reads hc h
    exact (parse_cons (subcommand?_of_mem hc) args).trans (by rw [hs]; rfl)
  helped c hc args h := by
    have hs : parseFrom c {} args = .error (.help (.command c)) := answers_of_reads hc h
    exact ⟨_, (parse_cons (subcommand?_of_mem hc) args).trans (by rw [hs]; rfl), rfl⟩
  refused c hc args h := by
    obtain ⟨e, he⟩ : Refused (parseFrom c {} args) := answers_of_reads hc h
    exact ⟨_, (parse_cons (subcommand?_of_mem hc) args).trans (by rw [he]; rfl), rfl⟩
  required args found h := by
    replace h : parse commandLine args = .ok found := h
    cases args with
    | nil => cases h
    | cons a rest =>
        rw [parse] at h
        cases hsub : subcommand? commandLine a with
        | none => rw [hsub] at h; cases h
        | some c =>
            have ha : Loose.ofString c.name = a := by simpa using List.find?_some hsub
            exact ⟨c, List.mem_of_find?_eq_some hsub, rest, by rw [ha]⟩
  exit_help e terminals h := by
    cases e with
    | help topic => rfl
    | refused e => cases h
  exit_refused e terminals h := by
    cases e with
    | help topic => cases h
    | refused e => rfl
  usage e terminal h := by
    cases e with
    | help topic => exact hasUsage_page commandLine terminal topic
    | refused e => cases h

end Interop.Arguments
