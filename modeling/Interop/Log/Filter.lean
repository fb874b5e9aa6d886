import Interop.Log
import Interop.Pattern.Refusal
import Interop.Text.Blank
import Interop.Text.Split
import Interop.Text.Terminal

namespace Interop.Log

open Text

/-- How much of the events from `origin` is let through, for all origins if there is none. -/
structure Directive where
  origin : Option (List Char)
  limit : Option Level
deriving DecidableEq, Repr

/-- Directives in the order in which the last one that applies decides, and a pattern that messages
have to show. -/
structure Filter where
  directives : List Directive
  pattern : Option Pattern
deriving DecidableEq, Repr

/-- What a specification says, and what is wrong with it. -/
structure Spec where
  directives : List Directive
  pattern : Option Pattern
  complaints : List String
deriving DecidableEq, Repr

def levelNames : List (String × Option Level) :=
  [("off", none), ("error", some .error), ("warn", some .warn), ("info", some .info),
   ("debug", some .debug), ("trace", some .trace)]

def readLimit? (cs : List Char) : Option (Option Level) :=
  (levelNames.find? fun entry => entry.1.toList = cs.map Char.toLower).map (·.2)

def invalid (part : List Char) : String := "invalid logging spec '" ++ String.ofList part ++ "'"

/-- One directive of a specification: a level, an origin, or both. An origin alone lets everything
through. -/
def readDirective (part : List Char) : Except String Directive :=
  match splitAll '=' part with
  | [name] =>
    match readLimit? name with
    | some limit => .ok ⟨none, limit⟩
    | none => .ok ⟨some name, some .trace⟩
  | [name, level] =>
    match trim level, readLimit? (trim level) with
    | [], _ => .ok ⟨some name, some .trace⟩
    | _, some limit => .ok ⟨some name, limit⟩
    | text, none => .error (invalid text)
  | _ => .error (invalid part)

def readDirectives (directives : List Char) : List (Except String Directive) :=
  (((splitAll ',' directives).map trim).filter (· ≠ [])).map readDirective

def readPattern (cs : List Char) : Except String Pattern :=
  match Pattern.read cs with
  | .ok p => .ok p
  | .error refusal => .error ("invalid regex filter - " ++ refusal.message cs)

def errorOf? {α : Type} : Except String α → Option String
  | .error text => some text
  | .ok _ => none

def readSpec (cs : List Char) : Spec :=
  match splitAll '/' cs with
  | [directives] =>
    let read := readDirectives directives
    ⟨read.filterMap Except.toOption, none, read.filterMap errorOf?⟩
  | [directives, pattern] =>
    let read := readDirectives directives
    let found := readPattern pattern
    ⟨read.filterMap Except.toOption, found.toOption,
      read.filterMap errorOf? ++ (errorOf? found).toList⟩
  | _ => ⟨[], none, [invalid cs ++ " (too many '/'s)"]⟩

namespace Filter

def insert (directives : List Directive) (d : Directive) : List Directive :=
  if directives.any (·.origin = d.origin) then
    directives.map fun e => if e.origin = d.origin then d else e
  else directives ++ [d]

def specificity (d : Directive) : Nat :=
  match d.origin with
  | none => 0
  | some name => (String.ofList name).utf8ByteSize

def ofSpec (base : Option Level) (spec : Spec) : Filter where
  directives := (spec.directives.foldl insert [⟨none, base⟩]).mergeSort
    fun d e => specificity d ≤ specificity e
  pattern := spec.pattern

def applies (origin : List Char) (d : Directive) : Bool :=
  match d.origin with
  | none => true
  | some name => name.isPrefixOf origin

def admits (limit : Option Level) (level : Level) : Bool :=
  match limit with
  | none => false
  | some most => level.rank ≤ most.rank

def admitsLevel (f : Filter) (origin : List Char) (level : Level) : Bool :=
  match f.directives.reverse.find? (applies origin) with
  | some d => admits d.limit level
  | none => false

def shows (f : Filter) (message : List Char) : Bool :=
  match f.pattern with
  | some p => p.occursIn message
  | none => true

def allows (f : Filter) (r : Record) : Bool :=
  f.admitsLevel r.origin.toList r.level && f.shows r.message.toList

end Filter

def indentLines (s : String) : String :=
  String.ofList (s.toList.flatMap fun c => if c = '\n' then "\n    ".toList else [c])

def rendition : Level → String
  | .error => "\x1b[1m\x1b[31m"
  | .warn => "\x1b[33m"
  | .info => "\x1b[32m"
  | .debug => "\x1b[34m"
  | .trace => "\x1b[36m"

def styledLine (r : Record) : String :=
  Terminal.rendered "90" "[" ++ rendition r.level ++ padRight 5 r.level.name ++ "\x1b[0m" ++ " " ++
    r.origin ++ Terminal.rendered "90" "]" ++ " " ++ indentLines r.message ++ "\n"

def plainLine (r : Record) : String :=
  "[" ++ padRight 5 r.level.name ++ " " ++ r.origin ++ "] " ++ indentLines r.message ++ "\n"

def isStyled (s : LogSettings) : Bool :=
  s.style = some "always" || (s.terminal && s.style ≠ some "never")

def specOf (s : LogSettings) : Spec := readSpec (s.spec.getD "").toList

def logger : Logger where
  start s := String.join
    ((specOf s).complaints.map fun text => "warning: " ++ text ++ ", ignoring it\n")
  line s r :=
    if (Filter.ofSpec (some s.limit) (specOf s)).allows r then
      some (if isStyled s then styledLine r else Terminal.stripStream (plainLine r))
    else none

end Interop.Log
