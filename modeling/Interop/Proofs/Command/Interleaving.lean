import Mathlib.Algebra.Ring.Nat
import Interop.Proofs.Arguments.Parser
import Interop.Proofs.Command.Reading

namespace Interop.Command

open Text Arguments

/-- What is read as an edit, however it is spelled. -/
structure Spelling where
  text : List Char
  edit : Managed.Edit
  reads : Managed.Edit.parse text = .ok edit

def Color.name : Color → String
  | .auto => "auto"
  | .always => "always"
  | .never => "never"

/-- A switch, behind an equals sign or in the next argument its value, or a cluster of `-v` with so
many more letters. -/
inductive Item
  | write (s : Spelling) (joined : Bool)
  | read (index : Int32) (joined : Bool)
  | head (bytes : UInt64) (joined : Bool)
  | color (when : Color) (joined : Bool)
  | json
  | verbose (more : Nat)

namespace Item

def spell : Item → List Loose
  | .write s joined => spelled "set" (s.text.map .char) joined
  | .read index joined => spelled "get" ((integer index.toInt).toList.map .char) joined
  | .head bytes joined => spelled "head" ((decimal bytes.toNat).toList.map .char) joined
  | .color c joined => spelled "color" (c.name.toList.map .char) joined
  | .json => [long (Loose.ofString "json")]
  | .verbose more => [.char '-' :: List.replicate (more + 1) (.char 'v')]

def arg : Item → Arg
  | .write .. => setArg
  | .read .. => getArg
  | .head .. => headArg
  | .color .. => colorArg
  | .json => jsonArg
  | .verbose .. => verboseArg

def edit? : Item → Option Managed.Edit
  | .write s _ => some s.edit
  | _ => none

def index? : Item → Option Int32
  | .read index _ => some index
  | _ => none

def head? : Item → Option UInt64
  | .head bytes _ => some bytes
  | _ => none

def color? : Item → Option Color
  | .color c _ => some c
  | _ => none

/-- The letters of a cluster. -/
def letters : Item → Nat
  | .verbose more => more + 1
  | _ => 0

def given : Item → List (String × Option Value)
  | .write s _ => [("set", some (.edit s.edit))]
  | .read index _ => [("get", some (.index index))]
  | .head bytes _ => [("head", some (.size bytes))]
  | .color c _ => [("color", some (.text c.name.toList))]
  | .json => [("json", none)]
  | .verbose _ => []

def raised (i : Item) : List String := List.replicate i.letters "verbose"

end Item

def say (s : State) (i : Item) : State :=
  { s with given := s.given ++ i.given, raised := s.raised ++ i.raised }

/-- The verb knows all these switches, and none stands twice that may stand once. -/
structure Admissible (verb : Verb) (items : List Item) : Prop where
  offered : ∀ i ∈ items, i.arg ∈ verb.command.args
  json : items.countP (fun i => i.arg = jsonArg) ≤ 1
  color : items.countP (fun i => i.arg = colorArg) ≤ 1
  head : items.countP (fun i => i.arg = headArg) ≤ 1

variable {verb : Verb} {items before after done : List Item} {i : Item} {s t : State}
  {parser : ArgumentParser} {rest : List Loose} {v : Verdict}

theorem Admissible.left (h : Admissible verb (before ++ after)) : Admissible verb before where
  offered i hi := h.offered i (List.mem_append_left after hi)
  json := Nat.le_trans (List.countP_append ▸ Nat.le_add_right _ _) h.json
  color := Nat.le_trans (List.countP_append ▸ Nat.le_add_right _ _) h.color
  head := Nat.le_trans (List.countP_append ▸ Nat.le_add_right _ _) h.head

theorem arg_ne_of_countP (a : Arg) (hi : i.arg = a)
    (h : (done ++ [i]).countP (fun i => i.arg = a) ≤ 1) : ∀ j ∈ done, j.arg ≠ a := by
  have hz : done.countP (fun i => i.arg = a) = 0 := by
    rw [List.countP_append, List.countP_singleton, hi] at h
    simpa using h
  simpa using List.countP_eq_zero.1 hz

theorem read?_edit (s : Spelling) :
    read? .edit (s.text.map .char) = some (.edit s.edit) := by
  rw [read?, Loose.text?_map_char, Option.bind_some, s.reads]
  rfl

theorem read?_index (i : Int32) :
    read? .index ((integer i.toInt).toList.map .char) = some (.index i) := by
  have hr : readInt 64 (integer i.toInt).toList = .ok i.toInt := by
    have hmin := i.le_toInt
    have hmax := i.toInt_lt
    apply readInt_integer
    · omega
    · omega
  have hrange := And.intro (Int32.minValue_le_toInt i) (Int32.toInt_le i)
  rw [read?, Loose.text?_map_char, Option.bind_some, hr]
  simp only [Except.toOption, Option.bind_some, if_pos hrange, Int32.ofInt_toInt]

theorem read?_size (n : UInt64) :
    read? .size ((decimal n.toNat).toList.map .char) = some (.size n) := by
  have hr : readNat 10 (UInt64.size - 1) (decimal n.toNat).toList = .ok n.toNat := by
    rw [decimal, String.toList_ofList]
    exact readNat_toDigits (Nat.le_sub_one_of_lt n.toNat_lt)
  rw [read?, Loose.text?_map_char, Option.bind_some, hr]
  simp only [Except.toOption, Option.map_some, UInt64.ofNat_toNat]

theorem read?_color (c : Color) :
    read? colorArg.kind (c.name.toList.map .char) = some (.text c.name.toList) := by
  cases c <;> rfl

theorem hyphened_of_head? {value : Loose} (h : value.head? ≠ some (.char '-')) :
    hyphened value = false := by
  unfold hyphened
  split
  · exact absurd rfl h
  · rfl

theorem hyphened_decimal (n : Nat) : hyphened ((decimal n).toList.map .char) = false := by
  obtain ⟨c, digits, h, hc⟩ := exists_toDigits n
  have hne : c ≠ '-' := ne_of_isDigit hc (by decide)
  rw [decimal, String.toList_ofList, h]
  exact hyphened_of_head? fun he => hne (Glyph.char.inj (Option.some.inj he))

theorem follows_integer (i : Int32) : Follows getArg ((integer i.toInt).toList.map .char) := by
  cases i.toInt with
  | ofNat n => exact .plain (hyphened_decimal n)
  | negSucc n =>
      rw [toList_integer_negSucc]
      exact .negative rfl Nat.toDigits_ne_nil isDigit_of_mem_toDigits

theorem step_spelled {a : Arg} {name : String} {value : Loose} {w : Value}
    (ha : IsLong verb.command (Loose.ofString name) a) (ho : s.escaped = false)
    (hv : a.takesValue = true) (hf : Follows a value) (hs : s.admits a = true)
    (hr : read? a.kind value = some w) (joined : Bool) :
    Step verb.command s (spelled name value joined) (s.give a.id (some w)) := by
  cases joined with
  | false => exact .apart ho ha hv hf hs hr
  | true => exact .joined ho ha hv hs hr

theorem say_of_letters (h : i.letters = 0) :
    say s i = { s with given := s.given ++ i.given } := by
  rw [say, Item.raised, h, List.replicate_zero, List.append_nil]

theorem step_spell (hi : i.arg ∈ verb.command.args) (ho : s.escaped = false)
    (hs : s.admits i.arg = true) : Step verb.command s i.spell (say s i) := by
  cases i with
  | verbose more =>
      have h : Letters verb.command s _ _ := letters_replicate s (more + 1)
      rw [say, Item.given, List.append_nil]
      exact .letters ho (by decide) h
  | json =>
      rw [say_of_letters rfl]
      exact .switch ho (isLong_of_mem hi rfl) rfl hs
  | write e joined =>
      rw [say_of_letters rfl]
      exact step_spelled (isLong_of_mem hi rfl) ho rfl (.hyphened rfl _) hs
        (read?_edit e) joined
  | read index joined =>
      rw [say_of_letters rfl]
      exact step_spelled (isLong_of_mem hi rfl) ho rfl (follows_integer index) hs
        (read?_index index) joined
  | head bytes joined =>
      rw [say_of_letters rfl]
      exact step_spelled (isLong_of_mem hi rfl) ho rfl
        (.plain (hyphened_decimal bytes.toNat)) hs (read?_size bytes) joined
  | color c joined =>
      have hplain : hyphened (c.name.toList.map .char) = false := by cases c <;> rfl
      rw [say_of_letters rfl]
      exact step_spelled (isLong_of_mem hi rfl) ho rfl (.plain hplain) hs
        (read?_color c) joined

/-- What was said when the items are read as well. -/
def saidBy (s : State) (items : List Item) : State :=
  { s with given := s.given ++ items.flatMap Item.given
           raised := s.raised ++ items.flatMap Item.raised }

theorem saidBy_cons (s : State) (i : Item) (items : List Item) :
    saidBy s (i :: items) = saidBy (say s i) items := by
  simp [saidBy, say]

def switches : List Arg := [setArg, getArg, headArg, colorArg, jsonArg, verboseArg]

theorem arg_mem_switches (i : Item) : i.arg ∈ switches := by
  cases i <;> simp [Item.arg, switches]

theorem arg_eq_of_id {i j : Item} (h : i.arg.id = j.arg.id) : i.arg = j.arg := by
  have hall : ∀ a ∈ switches, ∀ b ∈ switches, a.id = b.id → a = b := by decide
  exact hall _ (arg_mem_switches i) _ (arg_mem_switches j) h

theorem eq_id_of_mem_given {name : String} (h : name ∈ i.given.map Prod.fst) : name = i.arg.id := by
  cases i with
  | verbose => cases h
  | write | read | head | color | json => exact List.mem_singleton.1 h

/-- Switches are named only as far as these items name them. -/
def Within (s : State) (done : List Item) : Prop :=
  ∀ i : Item, i.arg.id ∈ s.names → ∃ j ∈ done, j.arg = i.arg

theorem within_nil : Within {} [] := fun _ h => by cases h

theorem Within.say (h : Within s done) (i : Item) : Within (say s i) (done ++ [i]) := by
  intro k hk
  rw [State.names, Command.say, List.map_append, List.mem_append] at hk
  obtain hk | hk := hk
  · obtain ⟨j, hj, he⟩ := h k hk
    exact ⟨j, List.mem_append_left [i] hj, he⟩
  · exact ⟨i, List.mem_concat_self, arg_eq_of_id (eq_id_of_mem_given hk).symm⟩

theorem Within.saidBy (hw : Within s done) : Within (saidBy s items) (done ++ items) := by
  induction items generalizing s done with
  | nil => simpa [Command.saidBy] using hw
  | cons i items ih =>
      rw [saidBy_cons, List.append_cons]
      exact ih (hw.say i)

theorem Within.give (h : Within s done) {a : Arg} (ha : ∀ b ∈ switches, b.id ≠ a.id)
    (w : Option Value) : Within (s.give a.id w) done := by
  intro k hk
  rw [State.names, State.give, List.map_append, List.mem_append] at hk
  obtain hk | hk := hk
  · exact h k hk
  · exact absurd (List.mem_singleton.1 hk) (ha _ (arg_mem_switches k))

theorem Admissible.admits (ha : Admissible verb (done ++ [i])) (hw : Within s done) :
    s.admits i.arg = true := by
  rw [State.admits, Bool.or_eq_true]
  have hfree (a : Arg) (hi : i.arg = a) (hone : (done ++ [i]).countP (fun i => i.arg = a) ≤ 1) :
      (!s.names.contains i.arg.id) = true := by
    rw [Bool.not_eq_true', List.contains_eq_mem, decide_eq_false_iff_not]
    intro hm
    obtain ⟨j, hj, he⟩ := hw i hm
    exact arg_ne_of_countP a hi hone j hj (he.trans hi)
  cases i with
  | write | read | verbose => exact .inl rfl
  | head bytes joined => exact .inr (hfree headArg rfl ha.head)
  | color c joined => exact .inr (hfree colorArg rfl ha.color)
  | json => exact .inr (hfree jsonArg rfl ha.json)

/-- Any number of items is read, in any order. -/
theorem reads_items (ha : Admissible verb (done ++ items)) (hw : Within s done)
    (ho : s.escaped = false) (hr : Reads verb.command (saidBy s items) rest v) :
    Reads verb.command s (items.flatMap Item.spell ++ rest) v := by
  induction items generalizing s done with
  | nil => simpa [saidBy] using hr
  | cons i items ih =>
      rw [List.append_cons] at ha
      rw [saidBy_cons] at hr
      rw [List.flatMap_cons, List.append_assoc]
      have hi : i.arg ∈ verb.command.args := ha.left.offered i List.mem_concat_self
      exact .step (step_spell hi ho (ha.left.admits hw)) (ih ha (hw.say i) ho hr)

/-- The verb asks for one subject, and for nothing else that is required. -/
structure Asks (verb : Verb) (a : Arg) : Prop where
  apart : ∀ b ∈ switches, b.id ≠ a.id
  asked : ∀ names, a.id ∉ names → verb.command.operand? names = some a
  enough : ∀ names, a.id ∈ names → verb.command.required names = []

theorem asks_first {a : Arg} {options : List Arg} (hargs : verb.command.args = a :: options)
    (ha : a.isOperand = true) (hapart : ∀ b ∈ switches, b.id ≠ a.id)
    (hoptions : ∀ b ∈ options, b.required = false) : Asks verb a where
  apart := hapart
  asked names h := by
    rw [Subcommand.operand?, hargs]
    exact List.find?_cons_of_pos (by simpa [ha] using h)
  enough names h := by
    rw [Subcommand.required, hargs, List.filter_cons_of_neg (by simpa using fun _ => h),
      List.filter_eq_nil_iff]
    intro b hb
    simp [hoptions b hb]

theorem asks_text : Asks .string textArg := asks_first rfl rfl (by decide) (by decide)

theorem asks_file : Asks .blob fileArg := asks_first rfl rfl (by decide) (by decide)

variable {a : Arg} {value : Loose} {w : Value}

theorem Asks.operand? (h : Asks verb a) (items : List Item) :
    verb.command.operand? (saidBy {} items).names = some a := by
  refine h.asked _ fun hm => ?_
  obtain ⟨⟨name, w⟩, hmem, hname⟩ := List.mem_map.1 hm
  obtain ⟨i, hi, hgiven⟩ := List.mem_flatMap.1 hmem
  have hid := eq_id_of_mem_given (List.mem_map_of_mem (f := Prod.fst) hgiven)
  exact h.apart _ (arg_mem_switches i) (hid.symm.trans hname)

/-- What is said in the end: the subject between the items in front of it and those behind. -/
def gathered (before after : List Item) (a : Arg) (w : Value) (escaped : Bool) : State where
  given := before.flatMap Item.given ++ (a.id, some w) :: after.flatMap Item.given
  raised := (before ++ after).flatMap Item.raised
  escaped := escaped

theorem reads_gathered (h : Asks verb a) (escaped : Bool) :
    Reads verb.command (gathered before after a w escaped) [] 
      (.done (gathered before after a w escaped)) := by
  refine .done (h.enough _ ?_)
  simp [gathered, State.names]

theorem reads_amid (h : Asks verb a) (ha : Admissible verb (before ++ after))
    (hh : hyphened value = false) (hr : read? a.kind value = some w) :
    Reads verb.command {} (before.flatMap Item.spell ++ value :: after.flatMap Item.spell)
      (.done (gathered before after a w false)) := by
  have hbefore : Admissible verb ([] ++ before) := ha.left
  have hw : Within (saidBy {} before) before := within_nil.saidBy
  have hsubject : Step verb.command (saidBy {} before) [value] _ :=
    .operand (.inr hh) (h.operand? before) hr
  have hlast : Reads verb.command (saidBy ((saidBy {} before).give a.id (some w)) after) []
      (.done (gathered before after a w false)) := by
    simpa [saidBy, gathered, State.give] using reads_gathered h false
  have hafter := reads_items ha (hw.give h.apart (some w)) rfl hlast
  rw [List.append_nil] at hafter
  exact reads_items hbefore within_nil rfl (.step hsubject hafter)

theorem reads_escaped (h : Asks verb a) (ha : Admissible verb items)
    (hr : read? a.kind value = some w) :
    Reads verb.command {} (items.flatMap Item.spell ++ [long [], value])
      (.done (gathered items [] a w true)) := by
  have hitems : Admissible verb ([] ++ items) := ha
  have hescape : Step verb.command (saidBy {} items) [long []] _ := .escape rfl
  have hsubject : Step verb.command { saidBy {} items with escaped := true } [value] _ :=
    .operand (.inl rfl) (h.operand? items) hr
  have hlast : Reads verb.command (gathered items [] a w true) [] _ := reads_gathered h true
  refine reads_items hitems within_nil rfl (.step hescape (.step hsubject ?_))
  simpa [saidBy, gathered, State.give] using hlast

def Item.values (id : String) (i : Item) : List Value :=
  i.given.filterMap fun (name, w) => if name = id then w else none

section Gathered

variable {id : String} (hid : id ≠ a.id) (before after : List Item) (w : Value) (escaped : Bool)
include hid

theorem values_gathered :
    (gathered before after a w escaped).values id = (before ++ after).flatMap (Item.values id) := by
  simp [gathered, State.values, List.filterMap_append, Ne.symm hid, List.filterMap_flatMap]
  rfl

theorem contains_names_gathered :
    (gathered before after a w escaped).names.contains id =
      (before ++ after).any fun i => (i.given.map Prod.fst).contains id := by
  rw [Bool.eq_iff_iff, List.contains_iff_mem, State.names, gathered, List.map_append,
    List.map_cons, List.mem_append, List.mem_cons, or_iff_right hid, ← List.mem_append,
    ← List.map_append, ← List.flatMap_append, List.map_flatMap, List.mem_flatMap, List.any_eq_true]
  simp only [List.contains_iff_mem]

end Gathered

theorem values_subject (h : Asks verb a) (before after : List Item) (w : Value) (escaped : Bool) :
    (gathered before after a w escaped).values a.id = [w] := by
  have hvalues (i : Item) : i.values a.id = [] := by
    refine List.filterMap_eq_nil_iff.2 fun p hp => if_neg fun he => ?_
    have hid := eq_id_of_mem_given (List.mem_map_of_mem hp)
    exact h.apart _ (arg_mem_switches i) (hid.symm.trans he)
  have hitems (items : List Item) : (items.flatMap Item.given).filterMap
      (fun (name, w) => if name = a.id then w else none) = [] := by
    rw [List.filterMap_flatMap, List.flatMap_eq_nil_iff]
    exact fun i _ => hvalues i
  rw [State.values, gathered, List.filterMap_append, List.filterMap_cons, hitems, hitems]
  simp

theorem count_gathered (before after : List Item) (w : Value) (escaped : Bool) :
    (gathered before after a w escaped).raised.count "verbose" =
      ((before ++ after).map Item.letters).sum := by
  simp only [gathered, List.count_flatMap]
  congr 2
  funext i
  simp [Item.raised]

theorem one?_found (s : State) (c : Subcommand) (id : String) :
    (s.found c).one? id = (s.values id).head?.or (State.default? c id) := by
  simp only [Matches.one?, State.found]
  cases s.values id with
  | nil => cases State.default? c id <;> rfl
  | cons w rest => rfl

theorem filterMap_values {α : Type} {id : String} {f : Value → Option α} {g : Item → Option α}
    (h : ∀ i, (Item.values id i).filterMap f = (g i).toList) (items : List Item) :
    (items.flatMap (Item.values id)).filterMap f = items.filterMap g := by
  induction items with
  | nil => rfl
  | cons i items ih =>
      rw [List.flatMap_cons, List.filterMap_append, ih, h]
      cases hg : g i <;> simp [hg]

theorem head?_values {α : Type} {id : String} {f : α → Value} {g : Item → Option α}
    (h : ∀ i, (Item.values id i).head? = (g i).map f) (items : List Item) :
    (items.flatMap (Item.values id)).head? = (items.findSome? g).map f := by
  rw [List.head?_flatMap, List.map_findSome?]
  congr 1
  funext i
  exact h i

theorem values_color (i : Item) :
    (i.values "color").head? = i.color?.map fun c => .text c.name.toList := by
  cases i <;> rfl

theorem values_head (i : Item) : (i.values "head").head? = i.head?.map .size := by
  cases i <;> rfl

theorem values_set (i : Item) : (i.values "set").filterMap Value.edit? = i.edit?.toList := by
  cases i <;> rfl

theorem values_get (i : Item) : (i.values "get").filterMap Value.index? = i.index?.toList := by
  cases i <;> rfl

theorem contains_json (i : Item) :
    (i.given.map Prod.fst).contains "json" = decide (i.arg = jsonArg) := by
  cases i <;> rfl

/-- What a command line is to be taken for, read off its items. -/
def invocation (request : Request) (items : List Item) : Invocation where
  request := request
  json := items.any fun i => i.arg = jsonArg
  color := (items.findSome? Item.color?).getD .auto
  verbosity := UInt8.ofNat (min 255 (items.map Item.letters).sum)

theorem color_ofMatches (h : Asks verb a) (before after : List Item) (w : Value) (escaped : Bool) :
    Color.ofMatches ((gathered before after a w escaped).found verb.command) =
      ((before ++ after).findSome? Item.color?).getD .auto := by
  have hid : "color" ≠ a.id := h.apart colorArg (by decide)
  have hdefault : State.default? verb.command "color" = some (.text "auto".toList) := by
    cases verb <;> rfl
  rw [Color.ofMatches, one?_found, values_gathered hid, head?_values values_color, hdefault]
  cases (before ++ after).findSome? Item.color? with
  | none => rfl
  | some c => cases c <;> rfl

theorem ofMatches_gathered (h : Asks verb a) (before after : List Item) (w : Value)
    (escaped : Bool) {request : Request}
    (hr : Request.ofMatches ((gathered before after a w escaped).found verb.command) verb =
      request) :
    Invocation.ofMatches ((gathered before after a w escaped).found verb.command) verb =
      invocation request (before ++ after) := by
  have hid : "json" ≠ a.id := h.apart jsonArg (by decide)
  have hjson : ((gathered before after a w escaped).found verb.command).flag "json" =
      (before ++ after).any fun i => i.arg = jsonArg := by
    simp only [State.found, contains_names_gathered hid, contains_json]
  have hcount : ((gathered before after a w escaped).found verb.command).count "verbose" =
      UInt8.ofNat (min 255 ((before ++ after).map Item.letters).sum) := by
    simp only [State.found, count_gathered]
  rw [Invocation.ofMatches, hr, hjson, hcount, color_ofMatches h]
  rfl

theorem request_string (before after : List Item) (text : List Char) (escaped : Bool) :
    Request.ofMatches
        ((gathered before after textArg (.text text) escaped).found Verb.string.command) .string =
      .string text ((before ++ after).filterMap Item.edit?)
        ((before ++ after).filterMap Item.index?) := by
  have hmany (id : String) (hid : id ≠ textArg.id)
      (hd : State.default? Verb.string.command id = none) :
      ((gathered before after textArg (.text text) escaped).found Verb.string.command).many id =
        (before ++ after).flatMap (Item.values id) := by
    simp only [State.found, values_gathered hid, hd]
    split
    · next he => exact (List.isEmpty_iff.1 he).symm
    · rfl
  have hsubject : (gathered before after textArg (.text text) escaped).values "text" =
      [.text text] := values_subject asks_text before after _ escaped
  rw [Request.ofMatches, one?_found, hsubject, hmany "set" (by decide) rfl,
    hmany "get" (by decide) rfl, filterMap_values values_set, filterMap_values values_get]
  rfl

theorem request_blob (before after : List Item) (path : Loose) (escaped : Bool) :
    Request.ofMatches
        ((gathered before after fileArg (.path path) escaped).found Verb.blob.command) .blob =
      .blob path (((before ++ after).findSome? Item.head?).getD defaultHead).toNat := by
  have hdefault : State.default? Verb.blob.command "head" = some (.size 64) := by rfl
  have hsubject : (gathered before after fileArg (.path path) escaped).values "blob_path" =
      [.path path] := values_subject asks_file before after _ escaped
  rw [Request.ofMatches, one?_found, one?_found, hsubject, values_gathered (by decide),
    head?_values values_head, hdefault]
  cases (before ++ after).findSome? Item.head? <;> rfl

theorem hyphened_of_text {text : List Char} (h : text.head? ≠ some '-') :
    hyphened (text.map .char) = false := by
  refine hyphened_of_head? ?_
  cases text with
  | nil => exact fun he => by cases he
  | cons c text => exact fun he => h (congrArg some (Glyph.char.inj (Option.some.inj he)))

/-- The arguments mean what they say, however their items are shuffled with the subject: the edits
and the reads come out in the order of their items, and every switch says what it says alone. A
subject behind `--` may start with a hyphen. -/
theorem parse_interleaved (hp : Documented parser commandLine) :
    (∀ (before after : List Item) (text : List Char), Admissible .string (before ++ after) →
      text.head? ≠ some '-' →
      parser.invocation? (Loose.ofString "string" ::
          (before.flatMap Item.spell ++ text.map .char :: after.flatMap Item.spell)) =
        .ok (some (invocation (.string text ((before ++ after).filterMap Item.edit?)
          ((before ++ after).filterMap Item.index?)) (before ++ after)))) ∧
    (∀ (items : List Item) (text : List Char), Admissible .string items →
      parser.invocation?
          (Loose.ofString "string" :: (items.flatMap Item.spell ++ [long [], text.map .char])) =
        .ok (some (invocation (.string text (items.filterMap Item.edit?)
          (items.filterMap Item.index?)) items))) ∧
    ∀ (before after : List Item) (path : Loose), Admissible .blob (before ++ after) →
      path ≠ [] → path.head? ≠ some (.char '-') →
      parser.invocation? (Loose.ofString "section" ::
          (before.flatMap Item.spell ++ path :: after.flatMap Item.spell)) =
        .ok (some (invocation (.blob path
          (((before ++ after).findSome? Item.head?).getD 64).toNat) (before ++ after))) := by
  have htext (text : List Char) : read? textArg.kind (text.map .char) = some (.text text) :=
    congrArg (Option.map Value.text) (Loose.text?_map_char text)
  refine ⟨fun before after text ha hhead => ?_, fun items text ha => ?_,
    fun before after path ha hne hhead => ?_⟩
  · have hread := reads_amid asks_text ha (hyphened_of_text hhead) (htext text)
    refine (invocation?_done hp hread).trans ?_
    rw [ofMatches_gathered asks_text _ _ _ _ (request_string before after text false)]
  · have hread := reads_escaped asks_text ha (htext text)
    refine (invocation?_done hp hread).trans ?_
    rw [ofMatches_gathered asks_text _ _ _ _ (request_string items [] text true), List.append_nil]
  · have hpath : read? fileArg.kind path = some (.path path) := by
      obtain ⟨g, rest, rfl⟩ := List.exists_cons_of_ne_nil hne
      rfl
    have hread := reads_amid asks_file ha (hyphened_of_head? hhead) hpath
    refine (invocation?_done hp hread).trans ?_
    rw [ofMatches_gathered asks_file _ _ _ _ (request_blob before after path false)]
    rfl

/-- Values that begin with hyphens, in either spelling, around a text in their midst, a text that
looks like a switch, and a file. -/
theorem parse_interleaved_shuffled :
    (Arguments.parser commandLine).invocation? (["string", "--set=-1==", "-vv", "--get", "-5",
        "a-b", "--json", "--set", "-2=U+41", "-v"].map Loose.ofString) =
      .ok (some ⟨.string "a-b".toList [⟨-1, 0x3D⟩, ⟨-2, 0x41⟩] [-5], true, .auto, 3⟩) ∧
    (Arguments.parser commandLine).invocation? (["string", "--get=7", "--color", "always", "--get",
        "-7", "--", "--json"].map Loose.ofString) =
      .ok (some ⟨.string "--json".toList [] [7, -7], false, .always, 0⟩) ∧
    (Arguments.parser commandLine).invocation?
        (["section", "-v", "pci.ids", "--head", "18446744073709551615"].map Loose.ofString) =
      .ok (some ⟨.blob (Loose.ofString "pci.ids") 18446744073709551615, false, .auto, 1⟩) := by
  obtain ⟨hamid, hbehind, hblob⟩ := parse_interleaved parser_documented
  refine ⟨?_, ?_, ?_⟩
  · exact hamid [.write ⟨"-1==".toList, ⟨-1, 0x3D⟩, rfl⟩ true, .verbose 1, .read (-5) false]
      [.json, .write ⟨"-2=U+41".toList, ⟨-2, 0x41⟩, rfl⟩ false, .verbose 0] "a-b".toList
      ⟨by decide, by decide, by decide, by decide⟩ (by decide)
  · exact hbehind [.read 7 true, .color .always false, .read (-7) false] "--json".toList
      ⟨by decide, by decide, by decide, by decide⟩
  · exact hblob [.verbose 0] [.head 18446744073709551615 false] (Loose.ofString "pci.ids")
      ⟨by decide, by decide, by decide, by decide⟩ (by decide) (by decide)

end Interop.Command
