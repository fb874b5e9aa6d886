import Interop.Proofs.Json.Reader
import Interop.Proofs.Text.Digits

namespace Interop.Json

open Text

variable {α : Type} {j : Json} {c close : Char} {cs w ws rest : List Char}

theorem readChars_close (rest : List Char) : readChars ('"' :: rest) = some ([], rest) := by
  rw [readChars.eq_def]
  rfl

theorem readChars_plain (hquote : c ≠ '"') (hslash : c ≠ '\\') (hc : ¬ c.toNat < 0x20)
    (rest : List Char) : readChars (c :: rest) = prepend c (readChars rest) := by
  rw [readChars.eq_def]
  simp only [hquote, hslash, hc, if_false]

theorem readChars_escape {e : Char} (h : unescape? e = some c) (rest : List Char) :
    readChars ('\\' :: e :: rest) = prepend c (readChars rest) := by
  unfold unescape? at h
  split at h
  case h_9 => cases h
  all_goals
    cases h
    rfl

theorem CharText.readChars (h : CharText c w) (rest : List Char) :
    readChars (w ++ rest) = prepend c (readChars rest) := by
  cases h with
  | plain hquote hslash hcontrol => exact readChars_plain hquote hslash hcontrol rest
  | escape h => exact readChars_escape h rest
  | code hu hhigh hlow => simp [Json.readChars, hu, hhigh, hlow]
  | codes hu hv hhigh hlow => simp [Json.readChars, hu, hv, hhigh, hlow]

theorem StringText.readChars (h : StringText cs w) (rest : List Char) :
    readChars (w ++ '"' :: rest) = some (cs, rest) := by
  induction h with
  | nil => exact readChars_close rest
  | cons hc _ ih =>
      rw [List.append_assoc, hc.readChars, ih]
      rfl

def Ends (rest : List Char) : Prop := ∀ c ∈ rest.head?, c.isDigit = false

theorem ends_nil : Ends [] := fun _ h => by cases h

theorem ends_cons (hc : c.isDigit = false) (rest : List Char) : Ends (c :: rest) := by
  intro d hd
  rw [List.head?_cons, Option.mem_some_iff] at hd
  exact hd ▸ hc

theorem Ends.takeWhile (h : Ends rest) : rest.takeWhile Char.isDigit = [] := by
  cases rest with
  | nil => rfl
  | cons c rest => rw [List.takeWhile_cons_of_neg (by simp [h c rfl])]

theorem Ends.dropWhile (h : Ends rest) : rest.dropWhile Char.isDigit = rest := by
  cases rest with
  | nil => rfl
  | cons c rest => rw [List.dropWhile_cons_of_neg (by simp [h c rfl])]

theorem readNatural_toDigits (n : Nat) (h : Ends rest) :
    readNatural (Nat.toDigits 10 n ++ rest) = some (n, rest) := by
  have ht : (Nat.toDigits 10 n ++ rest).takeWhile Char.isDigit = Nat.toDigits 10 n := by
    rw [List.takeWhile_append_of_pos isDigit_of_mem_toDigits, h.takeWhile, List.append_nil]
  have hd : (Nat.toDigits 10 n ++ rest).dropWhile Char.isDigit = rest := by
    rw [List.dropWhile_append_of_pos isDigit_of_mem_toDigits, h.dropWhile]
  rw [readNatural, ht, hd]
  by_cases hn : n = 0
  · subst hn
    rfl
  · have h0 := head?_toDigits (Nat.pos_of_ne_zero hn)
    split
    next he => exact absurd he Nat.toDigits_ne_nil
    next he => rw [he] at h0; exact absurd rfl h0
    next he => rw [he] at h0; exact absurd rfl h0
    next => rw [Nat.ofDigitChars_ten_toDigits]

theorem readNumber_integer (i : Int) (h : Ends rest) :
    readNumber ((integer i).toList ++ rest) = some (i, rest) := by
  cases i with
  | negSucc n =>
      rw [toList_integer_negSucc]
      exact congrArg (Option.map _) (readNatural_toDigits (n + 1) h)
  | ofNat n =>
      have hr := readNatural_toDigits n h
      obtain ⟨c, cs, hc, hdigit⟩ := exists_toDigits n
      have hne : c ≠ '-' := ne_of_isDigit hdigit (by decide)
      rw [hc, List.cons_append] at hr
      rw [toList_integer_ofNat, hc, List.cons_append, readNumber, hr]
      · rfl
      · exact fun rest he => hne (List.cons.inj he).1

theorem ne_of_numeral {d : Char} (hc : c.isDigit = true ∨ c = '-') (hd : d.isDigit = false)
    (hsign : d ≠ '-') : c ≠ d := by
  rcases hc with hc | rfl
  · exact ne_of_isDigit hc hd
  · exact hsign.symm

theorem isBlank_numeral (hc : c.isDigit = true ∨ c = '-') : isBlank c = false := by
  simp only [isBlank, Bool.or_eq_false_iff, beq_eq_false_iff_ne]
  refine ⟨⟨⟨?_, ?_⟩, ?_⟩, ?_⟩ <;> exact ne_of_numeral hc (by decide) (by decide)

theorem Space.isBlank (h : Space w) : ∀ c ∈ w, isBlank c = true := by
  intro c hc
  obtain rfl | rfl := h c hc <;> rfl

theorem Space.skipBlanks (h : Space w) (rest : List Char) :
    skipBlanks (w ++ rest) = skipBlanks rest :=
  List.dropWhile_append_of_pos h.isBlank

theorem skipBlanks_cons (hc : isBlank c = false) (cs : List Char) :
    skipBlanks (c :: cs) = c :: cs :=
  List.dropWhile_cons_of_neg (by simp [hc])

theorem Space.ends (h : Space w) (hr : Ends rest) : Ends (w ++ rest) := by
  cases w with
  | nil => exact hr
  | cons c w =>
      refine ends_cons ?_ (w ++ rest)
      obtain rfl | rfl := h c List.mem_cons_self <;> rfl

theorem Space.readValue (h : Space w) (fuel : Nat) (cs : List Char) :
    readValue fuel (w ++ cs) = readValue fuel cs := by
  cases fuel with
  | zero => rfl
  | succ fuel =>
      rw [Json.readValue, Json.readValue, Json.skipBlanks, List.dropWhile_append_of_pos h.isBlank]
      rfl

theorem readValue_number (hc : c.isDigit = true ∨ c = '-') (fuel : Nat) (cs : List Char) :
    readValue (fuel + 1) (c :: cs) =
      (readNumber (c :: cs)).map fun (n, rest) => (.number n, rest) := by
  rw [readValue, skipBlanks_cons (isBlank_numeral hc)]
  split
  case h_6 => rfl
  all_goals
    rename_i he
    exact absurd (List.cons.inj he).1 (ne_of_numeral hc (by decide) (by decide))

section Sequence

variable (item : Nat → List Char → Option (α × List Char)) (close : Char)

def Opens (w : List Char) : Prop := ∀ rest, ∃ c cs, skipBlanks (w ++ rest) = c :: cs ∧ c ≠ close

/-- `item` reads this off the text and leaves what follows it, but for blanks. -/
structure Yields (a : α) (w : List Char) : Prop where
  opens : Opens close w
  read : ∀ depth rest, w.length ≤ depth → Ends rest →
    ∃ rest', item depth (w ++ rest) = some (a, rest') ∧ skipBlanks rest' = skipBlanks rest

/-- All of this is read off the text, up to the closing bracket. -/
structure YieldsAll (as : List α) (w : List Char) : Prop where
  opens : Opens close w
  length : as.length ≤ w.length
  read : ∀ depth fuel rest, w.length ≤ depth → as.length ≤ fuel →
    readItems (item depth) close fuel (w ++ close :: rest) = some (as, rest)

variable {item close} {a : α} {as : List α}

theorem Opens.length_pos (h : Opens close w) : 0 < w.length := by
  obtain ⟨c, cs, hc, hne⟩ := h [close]
  cases w with
  | cons => exact Nat.zero_lt_succ _
  | nil =>
      by_cases hb : isBlank close = true
      · rw [List.nil_append, skipBlanks, List.dropWhile_cons_of_pos hb] at hc
        cases hc
      · rw [List.nil_append, skipBlanks_cons (by simpa using hb)] at hc
        exact absurd (List.cons.inj hc).1.symm hne

theorem Opens.append (h : Opens close w) (ws : List Char) : Opens close (w ++ ws) := by
  intro rest
  rw [List.append_assoc]
  exact h (ws ++ rest)

theorem Yields.last (h : Yields item close a w) (hclose : close.isDigit = false)
    (hcomma : close ≠ ',') (hblank : isBlank close = false) : YieldsAll item close [a] w where
  opens := h.opens
  length := h.opens.length_pos
  read depth fuel rest hdepth hfuel := by
    obtain ⟨fuel, rfl⟩ := Nat.exists_eq_succ_of_ne_zero (Nat.ne_of_gt hfuel)
    obtain ⟨rest', hr, hs⟩ := h.read depth (close :: rest) hdepth (ends_cons hclose rest)
    rw [skipBlanks_cons hblank] at hs
    simp only [readItems, hr, hs, if_neg hcomma, if_true]

theorem Yields.cons (h : Yields item close a w) (hs : YieldsAll item close as ws) :
    YieldsAll item close (a :: as) (w ++ ',' :: ws) where
  opens := h.opens.append _
  length := by
    have hl := hs.length
    simp only [List.length_append, List.length_cons]
    omega
  read depth fuel rest hdepth hfuel := by
    rw [List.length_append, List.length_cons] at hdepth
    obtain ⟨fuel, rfl⟩ := Nat.exists_eq_succ_of_ne_zero (Nat.ne_of_gt (Nat.zero_lt_of_lt hfuel))
    obtain ⟨rest', hr, hb⟩ :=
      h.read depth (',' :: (ws ++ close :: rest)) (by omega) (ends_cons rfl _)
    rw [skipBlanks_cons (show isBlank ',' = false from rfl)] at hb
    have hrest := hs.read depth fuel rest (by omega) (Nat.le_of_succ_le_succ hfuel)
    rw [List.append_assoc, List.cons_append]
    simp only [readItems, hr, hb, if_true, hrest, Option.map_some]

theorem YieldsAll.readAll (h : YieldsAll item close as w) (depth : Nat) (hdepth : w.length ≤ depth)
    (rest : List Char) : readAll (item depth) close (w ++ close :: rest) = some (as, rest) := by
  obtain ⟨c, cs, hc, hne⟩ := h.opens (close :: rest)
  have hl := h.length
  rw [Json.readAll, hc]
  simp only [if_neg hne]
  exact h.read depth _ rest hdepth (by rw [List.length_append]; omega)

end Sequence

/-- What reading makes of a part. -/
def Decodes : Part → List Char → Prop
  | .value j, w => (∃ c cs, w = c :: cs ∧ isBlank c = false ∧ c ≠ ']') ∧
      ∀ fuel rest, w.length ≤ fuel → Ends rest → readValue fuel (w ++ rest) = some (j, rest)
  | .item j, w => Yields readValue ']' j w
  | .items js, w => YieldsAll readValue ']' js w
  | .member m, w => Yields (fun depth => readMember (readValue depth)) '\x7d' m w
  | .members ms, w => YieldsAll (fun depth => readMember (readValue depth)) '\x7d' ms w

theorem readAll_space (h : Space w) (hblank : isBlank close = false)
    (item : List Char → Option (α × List Char)) (rest : List Char) :
    readAll item close (w ++ close :: rest) = some ([], rest) := by
  rw [readAll, h.skipBlanks, skipBlanks_cons hblank]
  simp

theorem decodes_array {js : List Json}
    (h : ∀ depth rest, w.length ≤ depth →
      readAll (readValue depth) ']' (w ++ ']' :: rest) = some (js, rest)) :
    Decodes (.value (.array js)) ('[' :: (w ++ [']'])) := by
  refine ⟨⟨'[', _, rfl, rfl, by decide⟩, fun fuel rest hfuel _ => ?_⟩
  simp only [List.length_cons, List.length_append] at hfuel
  obtain ⟨fuel, rfl⟩ := Nat.exists_eq_succ_of_ne_zero (Nat.ne_of_gt (Nat.zero_lt_of_lt hfuel))
  rw [List.cons_append, List.append_assoc, List.singleton_append, readValue, skipBlanks_cons rfl]
  simp only [h fuel rest (by omega), Option.map_some]

theorem decodes_object {ms : List (String × Json)}
    (h : ∀ depth rest, w.length ≤ depth →
      readAll (readMember (readValue depth)) '\x7d' (w ++ '\x7d' :: rest) = some (ms, rest)) :
    Decodes (.value (.object ms)) ('\x7b' :: (w ++ ['\x7d'])) := by
  refine ⟨⟨'\x7b', _, rfl, rfl, by decide⟩, fun fuel rest hfuel _ => ?_⟩
  simp only [List.length_cons, List.length_append] at hfuel
  obtain ⟨fuel, rfl⟩ := Nat.exists_eq_succ_of_ne_zero (Nat.ne_of_gt (Nat.zero_lt_of_lt hfuel))
  rw [List.cons_append, List.append_assoc, List.singleton_append, readValue, skipBlanks_cons rfl]
  simp only [h fuel rest (by omega), Option.map_some]

theorem Decodes.item {a b : List Char} (ha : Space a) (h : Decodes (.value j) w) (hb : Space b) :
    Decodes (.item j) (a ++ (w ++ b)) where
  opens rest := by
    obtain ⟨c, cs, rfl, hc, hne⟩ := h.1
    refine ⟨c, cs ++ (b ++ rest), ?_, hne⟩
    rw [List.append_assoc, ha.skipBlanks, List.append_assoc]
    exact skipBlanks_cons hc _
  read depth rest hdepth hr := by
    simp only [List.length_append] at hdepth
    refine ⟨b ++ rest, ?_, hb.skipBlanks rest⟩
    rw [List.append_assoc, ha.readValue, List.append_assoc]
    exact h.2 depth (b ++ rest) (by omega) (hb.ends hr)

theorem Decodes.member {key : String} {a k b : List Char} (ha : Space a)
    (hk : StringText key.toList k) (hb : Space b) (h : Decodes (.item j) w) :
    Decodes (.member (key, j)) (a ++ ('"' :: (k ++ '"' :: (b ++ ':' :: w)))) where
  opens rest := by
    refine ⟨'"', k ++ '"' :: (b ++ ':' :: w) ++ rest, ?_, by decide⟩
    rw [List.append_assoc, ha.skipBlanks]
    exact skipBlanks_cons rfl _
  read depth rest hdepth hr := by
    simp only [List.length_append, List.length_cons] at hdepth
    obtain ⟨rest', hv, hs⟩ := h.read depth rest (by omega) hr
    refine ⟨rest', ?_, hs⟩
    rw [List.append_assoc, readMember, ha.skipBlanks, List.cons_append,
      skipBlanks_cons (show isBlank '"' = false from rfl)]
    simp only [List.append_assoc, List.cons_append, hk.readChars, hb.skipBlanks,
      skipBlanks_cons (show isBlank ':' = false from rfl), hv, Option.map_some,
      String.ofList_toList]

/-- Whatever spelling and layout a value has, reading gives the value. -/
theorem Spells.decodes {p : Part} (h : Spells p w) : Decodes p w := by
  induction h with
  | bool b =>
      refine ⟨?_, fun fuel rest hfuel _ => ?_⟩
      · cases b with
        | false => exact ⟨'f', _, rfl, rfl, by decide⟩
        | true => exact ⟨'t', _, rfl, rfl, by decide⟩
      · obtain ⟨fuel, rfl⟩ := Nat.exists_eq_succ_of_ne_zero
          (show fuel ≠ 0 by rintro rfl; cases b <;> cases hfuel)
        cases b with
        | false => rfl
        | true => rfl
  | number n =>
      obtain ⟨c, cs, hc, hn⟩ := exists_head_integer n
      refine ⟨⟨c, cs, hc, isBlank_numeral hn, ne_of_numeral hn (by decide) (by decide)⟩,
        fun fuel rest hfuel hr => ?_⟩
      rw [hc, List.length_cons] at hfuel
      obtain ⟨fuel, rfl⟩ := Nat.exists_eq_succ_of_ne_zero (Nat.ne_of_gt (Nat.zero_lt_of_lt hfuel))
      have hnumber := readNumber_integer n hr
      rw [hc, List.cons_append] at hnumber
      rw [hc, List.cons_append, readValue_number hn, hnumber]
      rfl
  | string hs =>
      refine ⟨⟨'"', _, rfl, rfl, by decide⟩, fun fuel rest hfuel _ => ?_⟩
      obtain ⟨fuel, rfl⟩ := Nat.exists_eq_succ_of_ne_zero (Nat.ne_of_gt (Nat.zero_lt_of_lt hfuel))
      rw [List.cons_append, List.append_assoc, List.singleton_append, readValue,
        skipBlanks_cons rfl]
      simp only [hs.readChars, Option.map_some, String.ofList_toList]
  | emptyArray hw => exact decodes_array fun _ rest _ => readAll_space hw rfl _ rest
  | array _ ih => exact decodes_array fun depth rest hdepth => ih.readAll depth hdepth rest
  | emptyObject hw => exact decodes_object fun _ rest _ => readAll_space hw rfl _ rest
  | object _ ih => exact decodes_object fun depth rest hdepth => ih.readAll depth hdepth rest
  | item ha _ hb ih => exact ih.item ha hb
  | lastItem _ ih => exact ih.last rfl (by decide) rfl
  | items _ _ ih ihs => exact ih.cons ihs
  | member ha hk hb _ ih => exact Decodes.member ha hk hb ih
  | lastMember _ ih => exact ih.last rfl (by decide) rfl
  | members _ _ ih ihs => exact ih.cons ihs

/-- A text of a value is read as the value, also with a line feed behind it. -/
theorem Spells.read {text : String} (h : Spells (.value j) text.toList) {behind : String}
    (hb : Space behind.toList) : read (text ++ behind) = some j := by
  have hl : text.toList.length ≤ (text ++ behind).length := by
    rw [String.length_toList, String.length_append]
    omega
  have hends : Ends behind.toList := by
    simpa using hb.ends ends_nil
  have hskip := hb.skipBlanks []
  rw [List.append_nil] at hskip
  rw [Json.read, String.toList_append, h.decodes.2 _ _ hl hends]
  exact if_pos hskip

end Interop.Json
