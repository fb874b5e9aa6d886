import Interop.Command.Output
import Interop.Proofs.Json.Decoding
import Interop.Proofs.Json.Lines
import Interop.Proofs.Json.Writer

namespace Interop

namespace Json

def fields? (keys : List String) : Json → Option (List Json)
  | .object members => if members.map Prod.fst = keys then some (members.map Prod.snd) else none
  | _ => none

def bool? : Json → Option Bool
  | .bool b => some b
  | _ => none

def string? : Json → Option String
  | .string s => some s
  | _ => none

def nat? : Json → Option Nat
  | .number (.ofNat n) => some n
  | _ => none

def uint16? (j : Json) : Option UInt16 :=
  j.nat?.bind fun n => if n < UInt16.size then some (UInt16.ofNat n) else none

def uint64? (j : Json) : Option UInt64 :=
  j.nat?.bind fun n => if n < UInt64.size then some (UInt64.ofNat n) else none

def int32? : Json → Option Int32
  | .number n =>
    if Int32.minValue.toInt ≤ n ∧ n ≤ Int32.maxValue.toInt then some (Int32.ofInt n) else none
  | _ => none

def list? {α : Type} (item? : Json → Option α) : Json → Option (List α)
  | .array items => items.mapM item?
  | _ => none

@[simp] theorem bool?_bool (b : Bool) : bool? (.bool b) = some b := rfl

@[simp] theorem string?_string (s : String) : string? (.string s) = some s := rfl

@[simp] theorem nat?_nat (n : Nat) : nat? (.nat n) = some n := rfl

@[simp] theorem uint16?_nat (u : UInt16) : uint16? (.nat u.toNat) = some u := by
  rw [uint16?, nat?_nat, Option.bind_some, if_pos u.toNat_lt, UInt16.ofNat_toNat]

@[simp] theorem uint64?_nat (u : UInt64) : uint64? (.nat u.toNat) = some u := by
  rw [uint64?, nat?_nat, Option.bind_some, if_pos u.toNat_lt, UInt64.ofNat_toNat]

@[simp] theorem int32?_number (i : Int32) : int32? (.number i.toInt) = some i := by
  rw [int32?, if_pos ⟨Int32.minValue_le_toInt i, Int32.toInt_le i⟩, Int32.ofInt_toInt]

theorem list?_map {α : Type} {item : α → Json} {item? : Json → Option α}
    (h : ∀ a, item? (item a) = some a) (as : List α) :
    list? item? (.array (as.map item)) = some as := by
  rw [list?]
  induction as with
  | nil => rfl
  | cons a as ih =>
      rw [List.map_cons, List.mapM_cons, h, ih]
      rfl

/-- The documents of a type of records say all about them: each is one object on its own with a
line feed behind it, read as the record's keys in order and its values. Every character below the
blank is a line feed of the layout, which could as well be left out. -/
structure Lossless {α : Type} (printer : Printer) (json : α → Json) (keys : List String)
    (ofJson? : Json → Option α) : Prop where
  framed : ∀ a, ∃ inner, Command.toJson printer (json a) = .ok ("\x7b" ++ inner ++ "\x7d\n") ∧
    read ("\x7b" ++ inner ++ "\x7d") = some (json a)
  read : ∀ a text, Command.toJson printer (json a) = .ok text → read text = some (json a)
  keys : ∀ a, ∃ members, json a = .object members ∧ members.map Prod.fst = keys
  decode : ∀ a text, Command.toJson printer (json a) = .ok text →
    (Json.read text).bind ofJson? = some a
  injective : ∀ a b, Command.toJson printer (json a) = Command.toJson printer (json b) → a = b
  control : ∀ a text, Command.toJson printer (json a) = .ok text →
    ∀ c ∈ text.toList, c.toNat < 0x20 → c = '\n'
  layout : ∀ a text, Command.toJson printer (json a) = .ok text →
    Json.read (String.ofList (text.toList.filter (· ≠ '\n'))) = some (json a)

theorem exists_inner_of_spells {members : List (String × Json)} {text : String}
    (h : Spells (.value (.object members)) text.toList) :
    ∃ inner, text = "\x7b" ++ inner ++ "\x7d" := by
  have hinner {w : List Char} (hw : text.toList = '\x7b' :: (w ++ ['\x7d'])) :
      text = "\x7b" ++ String.ofList w ++ "\x7d" := String.toList_inj.1 (by simp [hw])
  generalize hl : text.toList = l at h
  cases h with
  | emptyObject _ => exact ⟨_, hinner hl⟩
  | object _ => exact ⟨_, hinner hl⟩

variable {printer : Printer}

theorem toJson_eq_ok (hp : printer.Standard) (j : Json) :
    ∃ text, Command.toJson printer j = .ok (text ++ "\n") ∧ Spells (.value j) text.toList := by
  obtain ⟨text, ht, hs⟩ := hp.spells j
  exact ⟨text, by rw [Command.toJson, ht], hs⟩

/-- A record that can be told from its value can be told from its document. -/
theorem lossless (hp : printer.Standard) {α : Type} {json : α → Json} {keys : List String}
    {ofJson? : Json → Option α}
    (hkeys : ∀ a, ∃ members, json a = .object members ∧ members.map Prod.fst = keys)
    (hdecode : ∀ a, ofJson? (json a) = some a) : Lossless printer json keys ofJson? := by
  have hread (a : α) (text : String) (h : Command.toJson printer (json a) = .ok text) :
      Json.read text = some (json a) := by
    obtain ⟨body, hbody, hs⟩ := toJson_eq_ok hp (json a)
    obtain rfl := Except.ok.inj (hbody.symm.trans h)
    exact hs.read (by decide : Space "\n".toList)
  have hback (a : α) (text : String) (h : Command.toJson printer (json a) = .ok text) :
      (Json.read text).bind ofJson? = some a := by
    rw [hread a text h, Option.bind_some, hdecode]
  refine ⟨fun a => ?_, hread, hkeys, hback, fun a b h => ?_, fun a text h => ?_,
    fun a text h => ?_⟩
  · obtain ⟨body, hbody, hs⟩ := toJson_eq_ok hp (json a)
    have halone : Json.read body = some (json a) := by
      simpa using hs.read (by decide : Space "".toList)
    obtain ⟨members, hj, -⟩ := hkeys a
    rw [hj] at hs
    obtain ⟨inner, rfl⟩ := exists_inner_of_spells hs
    exact ⟨inner, by rw [hbody, String.append_assoc]; rfl, halone⟩
  · obtain ⟨body, hbody, -⟩ := toJson_eq_ok hp (json a)
    have ha := hback a _ hbody
    rw [hback b _ (h.symm.trans hbody)] at ha
    exact (Option.some.inj ha).symm
  · obtain ⟨body, hbody, hs⟩ := toJson_eq_ok hp (json a)
    obtain rfl := Except.ok.inj (hbody.symm.trans h)
    have hlaid : Laid (body ++ "\n").toList := by
      rw [String.toList_append, laid_append]
      exact ⟨hs.laid, Space.laid (by decide)⟩
    exact hlaid
  · obtain ⟨body, hbody, hs⟩ := toJson_eq_ok hp (json a)
    obtain rfl := Except.ok.inj (hbody.symm.trans h)
    have hflat : Spells (.value (json a))
        (String.ofList ((body ++ "\n").toList.filter (· ≠ '\n'))).toList := by
      simpa using hs.filter
    simpa using hflat.read (by decide : Space "".toList)

end Json

namespace Managed

def Write.ofJson? (j : Json) : Option Write :=
  match j.fields? ["index", "unit", "applied"] with
  | some [index, unit, applied] => return ⟨← index.int32?, ← unit.uint16?, ← applied.bool?⟩
  | _ => none

theorem Write.ofJson?_json (w : Write) : Write.ofJson? w.json = some w := by
  simp [ofJson?, json, Json.fields?]

def Read.ofJson? (j : Json) : Option Read :=
  match j.fields? ["index", "unit"] with
  | some [index, unit] => return ⟨← index.int32?, ← unit.uint16?⟩
  | _ => none

theorem Read.ofJson?_json (r : Read) : Read.ofJson? r.json = some r := by
  simp [ofJson?, json, Json.fields?]

namespace Report

def keys : List String := ["length", "occupied", "units", "writes", "reads"]

def ofJson? (j : Json) : Option Report :=
  match j.fields? keys with
  | some [length, occupied, units, writes, reads] =>
    return ⟨← length.int32?, ← occupied.nat?, ← units.list? Json.uint16?,
      ← writes.list? Write.ofJson?, ← reads.list? Read.ofJson?⟩
  | _ => none

theorem ofJson?_json (r : Report) : ofJson? r.json = some r := by
  simp [ofJson?, json, keys, Json.fields?, Json.list?_map Json.uint16?_nat,
    Json.list?_map Write.ofJson?_json, Json.list?_map Read.ofJson?_json]

end Report

namespace LayoutReport

def keys : List String :=
  ["type_tag_offset", "type_tag_size", "length_offset", "length_size", "first_char_offset",
    "unit_size", "align"]

def ofJson? (j : Json) : Option LayoutReport :=
  match j.fields? keys with
  | some [tagOffset, tagSize, lengthOffset, lengthSize, unitsOffset, unitSize, alignment] =>
    return ⟨← tagOffset.nat?, ← tagSize.nat?, ← lengthOffset.nat?, ← lengthSize.nat?,
      ← unitsOffset.nat?, ← unitSize.nat?, ← alignment.nat?⟩
  | _ => none

theorem ofJson?_json (r : LayoutReport) : ofJson? r.json = some r := by
  simp [ofJson?, json, keys, Json.fields?]

end LayoutReport

end Managed

namespace Sections.Report

def keys : List String := ["name", "start", "size"]

def ofJson? (j : Json) : Option Report :=
  match j.fields? keys with
  | some [name, start, size] => return ⟨← name.string?, ← start.uint64?, ← size.uint64?⟩
  | _ => none

theorem ofJson?_json (r : Report) : ofJson? r.json = some r := by
  simp [ofJson?, json, keys, Json.fields?]

end Sections.Report

/-- No report loses anything when it is written as standard JSON. -/
theorem reports_lossless {printer : Json.Printer} (hp : printer.Standard) :
    Json.Lossless printer Managed.Report.json Managed.Report.keys Managed.Report.ofJson? ∧
      Json.Lossless printer Sections.Report.json Sections.Report.keys Sections.Report.ofJson? ∧
      Json.Lossless printer Managed.LayoutReport.json Managed.LayoutReport.keys
        Managed.LayoutReport.ofJson? :=
  ⟨Json.lossless hp (fun _ => ⟨_, rfl, rfl⟩) Managed.Report.ofJson?_json,
    Json.lossless hp (fun _ => ⟨_, rfl, rfl⟩) Sections.Report.ofJson?_json,
    Json.lossless hp (fun _ => ⟨_, rfl, rfl⟩) Managed.LayoutReport.ofJson?_json⟩

theorem reports_lossless_writer :
    (∀ j, ∃ text, Json.writer.pretty j = .ok text ∧ Json.Spells (.value j) text.toList) ∧
      Command.toJson Json.writer (Managed.Report.json ⟨1, 0, [0x41], [⟨0, 0x41, true⟩], []⟩) =
        .ok "\x7b
  \"length\": 1,
  \"occupied\": 0,
  \"units\": [
    65
  ],
  \"writes\": [
    \x7b
      \"index\": 0,
      \"unit\": 65,
      \"applied\": true
    \x7d
  ],
  \"reads\": []
\x7d
" ∧ ∀ a b, Command.toJson Json.writer (Sections.Report.json a) =
        Command.toJson Json.writer (Sections.Report.json b) → a = b :=
  ⟨Json.writer_standard.spells, by decide +kernel,
    (reports_lossless Json.writer_standard).2.1.injective⟩

end Interop
