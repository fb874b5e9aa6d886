import Interop.Log.Filter
import Interop.Proofs.Text.Controls

namespace Interop

open Text

/-- Where the user asks for nothing, the logger prints the records up to the program's limit and
nothing else. Away from a terminal a line begins with the level and the module of its record, and
shows the message as it is if that holds no control characters. -/
structure Logger.Documented (l : Logger) : Prop where
  silent : ∀ s, s.spec = none → l.start s = ""
  admitted : ∀ s r, s.spec = none → ((l.line s r).isSome ↔ r.level.rank ≤ s.limit.rank)
  steady : ∀ s r limit text text', l.line s r = some text →
    l.line { s with limit := limit } r = some text' → text = text'
  tagged : ∀ s r text, s.terminal = false → s.style = none → Bare r.origin →
    l.line s r = some text → ∃ shown, text =
      "[" ++ padRight 5 r.level.name ++ " " ++ r.origin ++ "] " ++ shown ∧
      (Bare r.message → shown = r.message ++ "\n")

namespace Text

theorem isShown_of_not_isControl {c : Char} (h : isControl c = false) :
    Terminal.isShown c = true := by
  simp only [isControl, Bool.or_eq_false_iff, Bool.and_eq_false_iff, decide_eq_false_iff_not] at h
  simp only [Terminal.isShown, Terminal.between, Bool.or_eq_true, Bool.and_eq_true,
    decide_eq_true_iff]
  omega

theorem Bare.stripStream_append {text : String} (h : Bare text) (rest : String) :
    Terminal.stripStream (text ++ rest) = text ++ Terminal.stripStream rest := by
  rw [Terminal.stripStream, String.toList_append,
    Terminal.stripFrom_append true fun c hc => isShown_of_not_isControl (h c hc),
    String.ofList_append, String.ofList_toList, Terminal.stripStream]

theorem Bare.indentLines {text : String} (h : Bare text) : Log.indentLines text = text := by
  have hall : ∀ c ∈ text.toList, (if c = '\n' then "\n    ".toList else [c]) = [c] := by
    intro c hc
    refine if_neg ?_
    rintro rfl
    cases h '\n' hc
  rw [Log.indentLines, List.flatMap_def, List.map_congr_left hall, ← List.flatMap_def,
    List.flatMap_singleton', String.ofList_toList]

end Text

namespace Log

theorem bare_name (level : Level) : Bare level.name := by
  cases level <;> decide

theorem specOf_of_none {s : LogSettings} (h : s.spec = none) : specOf s = ⟨[], none, []⟩ := by
  rw [specOf, h]
  rfl

theorem allows_of_none {s : LogSettings} (h : s.spec = none) (r : Record) :
    (Filter.ofSpec (some s.limit) (specOf s)).allows r =
      decide (r.level.rank ≤ s.limit.rank) := by
  rw [specOf_of_none h]
  simp [Filter.ofSpec, Filter.allows, Filter.admitsLevel, Filter.applies, Filter.admits,
    Filter.shows]

theorem line_eq_some {s : LogSettings} {r : Record} {text : String}
    (h : logger.line s r = some text) :
    text = if isStyled s then styledLine r else Terminal.stripStream (plainLine r) := by
  simp only [logger] at h
  split at h
  · exact (Option.some.inj h).symm
  · cases h

theorem logger_documented : logger.Documented where
  silent s h := by
    simp only [logger, specOf_of_none h]
    rfl
  admitted s r h := by
    simp only [logger, allows_of_none h, decide_eq_true_iff]
    split <;> simp_all
  steady s r limit text text' h h' := (line_eq_some h).trans (line_eq_some h').symm
  tagged s r text ht hs ho h := by
    have hplain : isStyled s = false := by
      rw [isStyled, ht, hs]
      rfl
    have hopen : Bare ("[" ++ padRight 5 r.level.name ++ " " ++ r.origin ++ "] ") :=
      ((((by decide : Bare "[").append ((bare_name r.level).padRight 5)).append
        (by decide)).append ho).append (by decide)
    refine ⟨Terminal.stripStream (indentLines r.message ++ "\n"), ?_, fun hm => ?_⟩
    · rw [line_eq_some h, hplain, if_neg Bool.false_ne_true, plainLine, String.append_assoc,
        hopen.stripStream_append]
    · rw [hm.indentLines, hm.stripStream_append]
      rfl

end Log

end Interop
