import Interop.Json.Writer
import Interop.Proofs.Json.Grammar

namespace Interop.Json

open Text

theorem induction {p : Json → Prop} (bool : ∀ b, p (.bool b)) (number : ∀ n, p (.number n))
    (string : ∀ s, p (.string s)) (array : ∀ items, (∀ j ∈ items, p j) → p (.array items))
    (object : ∀ members, (∀ m ∈ members, p m.2) → p (.object members)) : ∀ j, p j
  | .bool b => bool b
  | .number n => number n
  | .string s => string s
  | .array items => array items fun j _ => induction bool number string array object j
  | .object members =>
      object members fun m _ => induction bool number string array object m.2
termination_by j => sizeOf j
decreasing_by
  · have hj := List.sizeOf_lt_of_mem ‹_›
    simp only [Json.array.sizeOf_spec]
    omega
  · have hm := List.sizeOf_lt_of_mem ‹_›
    have hv : sizeOf m.2 < sizeOf m := by
      cases m
      simp only [Prod.mk.sizeOf_spec]
      omega
    simp only [Json.object.sizeOf_spec]
    omega

theorem toList_wideHex_of_control {n : Nat} (h : n < 0x20) :
    (wideHex 4 n).toList = ['0', '0', (n / 16).digitChar, (n % 16).digitChar] := by
  have hd : ∀ n < 0x20,
      (wideHex 4 n).toList = ['0', '0', (n / 16).digitChar, (n % 16).digitChar] := by decide
  exact hd n h

theorem hexUnit?_of_control {n : Nat} (h : n < 0x20) :
    hexUnit? ['0', '0', (n / 16).digitChar, (n % 16).digitChar] = some (UInt16.ofNat n) := by
  have hd : ∀ n < 0x20, hexUnit? ['0', '0', (n / 16).digitChar, (n % 16).digitChar] =
      some (UInt16.ofNat n) := by decide
  exact hd n h

theorem charText_of_control {c : Char} (h : c.toNat < 0x20) :
    CharText c ('\\' :: 'u' :: (wideHex 4 c.toNat).toList) := by
  have hlt : c.toNat < 2 ^ 16 := by omega
  have hu : (UInt16.ofNat c.toNat).toNat = c.toNat := UInt16.toNat_ofNat_of_lt' hlt
  have hhigh : Utf16.isHigh (UInt16.ofNat c.toNat) = false := by
    rw [Utf16.isHigh_ofNat hlt]
    simp
    omega
  have hlow : Utf16.isLow (UInt16.ofNat c.toNat) = false := by
    rw [Utf16.isLow_ofNat hlt]
    simp
    omega
  have hcode := CharText.code (hexUnit?_of_control h) hhigh hlow
  rwa [hu, Char.ofNat_toNat, ← toList_wideHex_of_control h] at hcode

theorem charText_spell (c : Char) : CharText c (spell c) := by
  unfold spell
  split
  case h_8 _ hquote hslash _ _ _ _ _ =>
    split
    next h => exact charText_of_control h
    next h => exact .plain hquote hslash h
  all_goals exact .escape rfl

theorem stringText_spell (cs : List Char) : StringText cs (cs.flatMap spell) := by
  induction cs with
  | nil => exact .nil
  | cons c cs ih => exact .cons (charText_spell c) ih

theorem toList_quote (s : String) :
    (quote s).toList = '"' :: (s.toList.flatMap spell ++ ['"']) := by
  simp [quote]

theorem space_line (depth : Nat) : Space (line depth).toList := by
  intro c hc
  simp only [line, indent, String.toList_append, String.toList_ofList, List.mem_append,
    List.mem_replicate] at hc
  obtain hc | ⟨-, rfl⟩ := hc
  · exact .inr (List.mem_singleton.1 hc)
  · exact .inl rfl

theorem space_nil : Space [] := List.forall_mem_nil _

def itemText (depth : Nat) (j : Json) : List Char := (line depth).toList ++ (write depth j).toList

def memberText (depth : Nat) (m : String × Json) : List Char :=
  (line depth).toList ++ ((quote m.1).toList ++ (':' :: ' ' :: (write depth m.2).toList))

theorem toList_writeItems (depth : Nat) (done : String) (items : List Json) :
    (writeItems depth done items).toList =
      done.toList ++ items.flatMap fun j => ',' :: itemText depth j := by
  induction items generalizing done with
  | nil => simp [writeItems]
  | cons item items ih =>
      rw [writeItems, ih, List.flatMap_cons]
      simp only [String.toList_append, itemText, List.append_assoc, List.cons_append]
      rfl

theorem toList_writeMembers (depth : Nat) (done : String) (members : List (String × Json)) :
    (writeMembers depth done members).toList =
      done.toList ++ members.flatMap fun m => ',' :: memberText depth m := by
  induction members generalizing done with
  | nil => simp [writeMembers]
  | cons member members ih =>
      rw [writeMembers, ih, List.flatMap_cons]
      simp only [String.toList_append, memberText, List.append_assoc, List.cons_append]
      rfl

theorem toList_write_array (depth : Nat) (item : Json) (items : List Json) :
    (write depth (.array (item :: items))).toList =
      '[' :: (itemText (depth + 1) item ++
        ((items.flatMap fun j => ',' :: itemText (depth + 1) j) ++ (line depth).toList) ++
        [']']) := by
  simp only [write, String.toList_append, toList_writeItems, itemText, List.append_assoc]
  rfl

theorem toList_write_object (depth : Nat) (member : String × Json)
    (members : List (String × Json)) :
    (write depth (.object (member :: members))).toList =
      '\x7b' :: (memberText (depth + 1) member ++
        ((members.flatMap fun m => ',' :: memberText (depth + 1) m) ++
          (line depth).toList) ++ ['\x7d']) := by
  simp only [write, String.toList_append, toList_writeMembers, memberText, List.append_assoc]
  rfl

variable {depth : Nat} {last : List Char}

theorem spells_itemText {j : Json} (h : Spells (.value j) (write depth j).toList)
    (hlast : Space last) : Spells (.item j) (itemText depth j ++ last) := by
  rw [itemText, List.append_assoc]
  exact .item (space_line depth) h hlast

theorem spells_items (item : Json) (items : List Json)
    (h : ∀ j ∈ item :: items, Spells (.value j) (write depth j).toList) (hlast : Space last) :
    Spells (.items (item :: items))
      (itemText depth item ++ ((items.flatMap fun j => ',' :: itemText depth j) ++ last)) := by
  induction items generalizing item with
  | nil => exact .lastItem (spells_itemText (h item List.mem_cons_self) hlast)
  | cons next items ih =>
      have hitem := spells_itemText (h item List.mem_cons_self) space_nil
      have hitems := ih next fun j hj => h j (List.mem_cons_of_mem item hj)
      rw [List.append_nil] at hitem
      simpa only [List.flatMap_cons, List.cons_append, List.append_assoc] using
        Spells.items hitem hitems

theorem spells_memberText {m : String × Json} (h : Spells (.value m.2) (write depth m.2).toList)
    (hlast : Space last) : Spells (.member m) (memberText depth m ++ last) := by
  have hvalue : Spells (.item m.2) ([' '] ++ ((write depth m.2).toList ++ last)) :=
    .item (by decide) h hlast
  have hmember := Spells.member (space_line depth) (stringText_spell m.1.toList) space_nil hvalue
  simpa only [memberText, toList_quote, List.cons_append, List.append_assoc, List.nil_append] using
    hmember

theorem spells_members (member : String × Json) (members : List (String × Json))
    (h : ∀ m ∈ member :: members, Spells (.value m.2) (write depth m.2).toList)
    (hlast : Space last) :
    Spells (.members (member :: members))
      (memberText depth member ++
        ((members.flatMap fun m => ',' :: memberText depth m) ++ last)) := by
  induction members generalizing member with
  | nil => exact .lastMember (spells_memberText (h member List.mem_cons_self) hlast)
  | cons next members ih =>
      have hmember := spells_memberText (h member List.mem_cons_self) space_nil
      have hmembers := ih next fun m hm => h m (List.mem_cons_of_mem member hm)
      rw [List.append_nil] at hmember
      simpa only [List.flatMap_cons, List.cons_append, List.append_assoc] using
        Spells.members hmember hmembers

theorem spells_write (j : Json) (depth : Nat) : Spells (.value j) (write depth j).toList := by
  induction j using Json.induction generalizing depth with
  | bool b =>
      cases b with
      | true => simpa [write] using Spells.bool true
      | false => simpa [write] using Spells.bool false
  | number n => simpa [write] using Spells.number n
  | string s =>
      rw [write, toList_quote]
      exact .string (stringText_spell s.toList)
  | array items ih =>
      cases items with
      | nil => simpa [write] using Spells.emptyArray space_nil
      | cons item items =>
          rw [toList_write_array]
          exact .array (spells_items item items (fun j hj => ih j hj _) (space_line depth))
  | object members ih =>
      cases members with
      | nil => simpa [write] using Spells.emptyObject space_nil
      | cons member members =>
          rw [toList_write_object]
          exact .object (spells_members member members (fun m hm => ih m hm _) (space_line depth))

theorem writer_standard : writer.Standard where
  spells j := ⟨_, rfl, spells_write j 0⟩

end Interop.Json
