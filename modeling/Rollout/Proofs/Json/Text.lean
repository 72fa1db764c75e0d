import Rollout.Proofs.Json.Scalar

/-!
Written JSON reads back. The reader takes a written value off the front of a text and leaves the
rest, whatever stands there, as long as it can follow a value; whole texts, items and entries are
cases of that. Numbers with fractions are left out, since their digits are rounded on both ways.
-/

namespace Rollout.Json

open Text (utf8)

/-- Values without numbers other than the whole ones that 64 bits hold, all of which have a text. -/
inductive IsPlain : Json → Prop where
  | null : IsPlain .null
  | bool (value : Bool) : IsPlain (.bool value)
  | integer {value : Int} (hlow : -0x8000000000000000 ≤ value)
      (hhigh : value < 0x10000000000000000) : IsPlain (.integer value)
  | string (value : String) : IsPlain (.string value)
  | array {items : List Json} (hitems : ∀ item ∈ items, IsPlain item) : IsPlain (.array items)
  | object {entries : List (String × Json)} (hentries : ∀ entry ∈ entries, IsPlain entry.2) :
      IsPlain (.object entries)

namespace Reader

theorem after?_append (word : String) (rest : List UInt8) :
    after? word (utf8 word.toList ++ rest) = some rest := by
  simp only [after?, Text.toList_toUTF8]
  rw [if_pos (by simp), List.drop_left]

/-- A text that neither a blank nor a closing bracket stands before. -/
def Opens (text : List UInt8) : Prop :=
  ∃ b rest, text = b :: rest ∧ ¬ (b = 32 ∨ b = 10 ∨ b = 13 ∨ b = 9) ∧ b ≠ 93 ∧ b ≠ 125

theorem Opens.append {text : List UInt8} (hopens : Opens text) (rest : List UInt8) :
    Opens (text ++ rest) := by
  obtain ⟨b, more, rfl, hb⟩ := hopens
  exact ⟨b, more ++ rest, rfl, hb⟩

theorem Opens.skipBlanks {text : List UInt8} (hopens : Opens text) :
    Reader.skipBlanks text = text := by
  obtain ⟨b, more, rfl, hblank, -⟩ := hopens
  rw [Reader.skipBlanks, if_neg hblank]

/-! ### Numbers -/

theorem ne_of_isDigit {b other : UInt8} (hdigit : isDigit b) (hother : isDigit other = false) :
    b ≠ other := by
  rintro rfl
  rw [hother] at hdigit
  cases hdigit

theorem opens_of_isDigit {b : UInt8} (hdigit : isDigit b) (rest : List UInt8) :
    Opens (b :: rest) := by
  have hne : ∀ other : UInt8, isDigit other = false → b ≠ other := fun _ => ne_of_isDigit hdigit
  refine ⟨b, rest, rfl, ?_, hne 93 rfl, hne 125 rfl⟩
  rintro (heq | heq | heq | heq)
  · exact hne 32 rfl heq
  · exact hne 10 rfl heq
  · exact hne 13 rfl heq
  · exact hne 9 rfl heq

/-- A number begins with a digit. -/
theorem exists_utf8_toDigits (n : Nat) :
    ∃ b rest, utf8 (Nat.toDigits 10 n) = b :: rest ∧ isDigit b := by
  obtain ⟨c, text, htext⟩ := List.exists_cons_of_ne_nil (@Nat.toDigits_ne_nil n 10)
  have hdigit : c.isDigit := Text.isDigit_of_mem_toDigits n c (htext ▸ List.mem_cons_self)
  obtain ⟨b, hwritten, hisDigit, -⟩ := exists_byte_of_isDigit hdigit
  exact ⟨b, utf8 text, by rw [htext, Text.utf8_cons, hwritten]; rfl, hisDigit⟩

theorem opens_write {value : Json} (hplain : IsPlain value) : Opens (utf8 (write value)) := by
  cases hplain with
  | null => exact ⟨110, _, rfl, by decide⟩
  | bool value => cases value <;> exact ⟨_, _, rfl, by decide⟩
  | @integer value =>
      simp only [Json.integer, write, Number.write, Text.toList_toString]
      split
      · obtain ⟨b, rest, hdigits, hdigit⟩ := exists_utf8_toDigits value.natAbs
        rw [hdigits]
        exact opens_of_isDigit hdigit rest
      · exact ⟨45, _, rfl, by decide⟩
  | string value => exact ⟨34, _, rfl, by decide⟩
  | array => exact ⟨91, _, rfl, by decide⟩
  | object => exact ⟨123, _, rfl, by decide⟩

/-- The reader takes a value off the front of any text that it is written in. -/
def Takes (value : Json) : Prop :=
  ∀ (fuel : Nat) (rest : List UInt8), (utf8 (write value)).length ≤ fuel → Ends rest →
    value? fuel (utf8 (write value) ++ rest) = some (value, rest)

theorem exists_fuel {value : Json} (hplain : IsPlain value) {fuel : Nat}
    (hfuel : (utf8 (write value)).length ≤ fuel) : ∃ less, fuel = less + 1 := by
  obtain ⟨b, rest, htext, -⟩ := opens_write hplain
  rw [htext, List.length_cons] at hfuel
  exact Nat.exists_eq_add_one.mpr (by omega)

theorem value?_digit {b : UInt8} (hdigit : isDigit b) (fuel : Nat) (text : List UInt8) :
    value? (fuel + 1) (b :: text) = number? false (b :: text) := by
  have hne : ∀ other : UInt8, isDigit other = false → b ≠ other := fun _ => ne_of_isDigit hdigit
  rw [value?, (opens_of_isDigit hdigit text).skipBlanks]
  split
  · next heq => cases heq
  · next heq => exact absurd (List.cons.inj heq).1 (hne 34 rfl)
  · next heq => exact absurd (List.cons.inj heq).1 (hne 91 rfl)
  · next heq => exact absurd (List.cons.inj heq).1 (hne 123 rfl)
  · next heq => exact absurd (List.cons.inj heq).1 (hne 45 rfl)
  · next heq =>
      cases heq
      rw [if_pos hdigit]

theorem takes_integer {value : Int} (hlow : -0x8000000000000000 ≤ value)
    (hhigh : value < 0x10000000000000000) : Takes (.integer value) := by
  intro fuel rest hfuel hends
  obtain ⟨fuel, rfl⟩ := exists_fuel (.integer hlow hhigh) hfuel
  have hwrite : write (.integer value) = (toString value).toList := rfl
  rw [hwrite, Text.toList_toString]
  split
  · next hsign =>
      obtain ⟨b, more, hdigits, hdigit⟩ := exists_utf8_toDigits value.natAbs
      have habs : (value.natAbs : Int) = value := Int.natAbs_of_nonneg hsign
      have hsize : UInt64.size = 0x10000000000000000 := rfl
      have hnumber := number?_toDigits false value.natAbs hends
      rw [ofLiteral?_toDigits (by omega), habs] at hnumber
      rw [hdigits, List.cons_append] at hnumber ⊢
      rw [value?_digit hdigit, hnumber]
      rfl
  · next hsign =>
      have habs : -(value.natAbs : Int) = value := by omega
      have hmark : String.utf8EncodeChar '-' = [45] := by decide
      have hnumber := number?_toDigits true value.natAbs hends
      rw [ofLiteral?_neg_toDigits (by omega) (by omega), habs] at hnumber
      rw [Text.utf8_cons, hmark, List.singleton_append, List.cons_append, value?]
      exact hnumber

/-! ### Items and entries -/

section Items

variable {items : List Json}

theorem utf8_writeItems_cons (item next : Json) (others : List Json) :
    utf8 (writeItems (item :: next :: others)) =
      utf8 (write item) ++ 44 :: utf8 (writeItems (next :: others)) := by
  have hmark : String.utf8EncodeChar ',' = [44] := by decide
  simp [writeItems, hmark]

theorem items?_writeItems (hne : items ≠ []) (htakes : ∀ item ∈ items, Takes item)
    {fuel : Nat} (hfuel : (utf8 (writeItems items)).length < fuel) (rest : List UInt8) :
    items? fuel (utf8 (writeItems items) ++ 93 :: rest) = some (items, rest) := by
  induction items generalizing fuel with
  | nil => exact absurd rfl hne
  | cons item others ih =>
      obtain ⟨fuel, rfl⟩ := Nat.exists_eq_add_one.mpr (Nat.zero_lt_of_lt hfuel)
      have hitem := htakes item List.mem_cons_self
      cases others with
      | nil =>
          rw [writeItems] at hfuel ⊢
          have htaken := hitem fuel (93 :: rest) (by omega) (.inr (.inl rfl))
          simp [items?, htaken, skipBlanks]
      | cons next others =>
          rw [utf8_writeItems_cons, List.length_append, List.length_cons] at hfuel
          have htaken := hitem fuel (44 :: (utf8 (writeItems (next :: others)) ++ 93 :: rest))
            (by omega) (.inl rfl)
          have hothers := ih (by simp) (fun item hmem => htakes item (List.mem_cons_of_mem _ hmem))
            (show (utf8 (writeItems (next :: others))).length < fuel by omega)
          simp [utf8_writeItems_cons, items?, htaken, skipBlanks, hothers]

theorem opens_writeItems {item : Json} (hplain : IsPlain item) (others : List Json) :
    Opens (utf8 (writeItems (item :: others))) := by
  cases others with
  | nil => exact opens_write hplain
  | cons next others =>
      rw [utf8_writeItems_cons]
      exact (opens_write hplain).append _

theorem value?_array {fuel : Nat} {text rest : List UInt8} (hopens : Opens text)
    (hitems : items? fuel text = some (items, rest)) :
    value? (fuel + 1) (91 :: text) = some (.array items, rest) := by
  have hmark : skipBlanks (91 :: text) = 91 :: text := rfl
  rw [value?, hmark]
  simp only [hopens.skipBlanks]
  obtain ⟨b, more, rfl, -, hclosing, -⟩ := hopens
  split
  · next heq => exact absurd (List.cons.inj heq).1 hclosing
  · rw [hitems]
    rfl

theorem takes_array (hplain : ∀ item ∈ items, IsPlain item) (htakes : ∀ item ∈ items, Takes item) :
    Takes (.array items) := by
  intro fuel rest hfuel _
  have hopening : String.utf8EncodeChar '[' = [91] := by decide
  have hclosing : String.utf8EncodeChar ']' = [93] := by decide
  have hwritten : utf8 (write (.array items)) = 91 :: (utf8 (writeItems items) ++ [93]) := by
    simp [write, hopening, hclosing]
  rw [hwritten] at hfuel ⊢
  simp only [List.length_cons, List.length_append, List.length_nil] at hfuel
  obtain ⟨fuel, rfl⟩ : ∃ less, fuel = less + 1 := Nat.exists_eq_add_one.mpr (by omega)
  rw [List.cons_append, List.append_assoc]
  cases items with
  | nil => rfl
  | cons item others =>
      have hopens := opens_writeItems (hplain item List.mem_cons_self) others
      exact value?_array (hopens.append _)
        (items?_writeItems (by simp) htakes (by omega) rest)

end Items

section Entries

variable {entries : List (String × Json)}

theorem utf8_writeEntries_singleton (key : String) (value : Json) (rest : List UInt8) :
    utf8 (writeEntries [(key, value)]) ++ rest =
      34 :: quoted key (58 :: (utf8 (write value) ++ rest)) := by
  have hmark : String.utf8EncodeChar ':' = [58] := by decide
  rw [writeEntries, Text.utf8_append, List.append_assoc, utf8_quote, Text.utf8_cons, hmark]
  rfl

theorem utf8_writeEntries_cons (key : String) (value : Json) (next : String × Json)
    (others : List (String × Json)) (rest : List UInt8) :
    utf8 (writeEntries ((key, value) :: next :: others)) ++ rest =
      34 :: quoted key (58 :: (utf8 (write value) ++
        44 :: (utf8 (writeEntries (next :: others)) ++ rest))) := by
  have hmark : String.utf8EncodeChar ':' = [58] := by decide
  have hcomma : String.utf8EncodeChar ',' = [44] := by decide
  rw [writeEntries, Text.utf8_append, List.append_assoc, Text.utf8_append, List.append_assoc,
    utf8_quote]
  · simp [hmark, hcomma]
  · simp

theorem entries?_writeEntries (hne : entries ≠ []) (htakes : ∀ entry ∈ entries, Takes entry.2)
    {fuel : Nat} (hfuel : (utf8 (writeEntries entries)).length < fuel) (rest : List UInt8) :
    entries? fuel (utf8 (writeEntries entries) ++ 125 :: rest) = some (some entries, rest) := by
  induction entries generalizing fuel with
  | nil => exact absurd rfl hne
  | cons entry others ih =>
      obtain ⟨key, value⟩ := entry
      obtain ⟨fuel, rfl⟩ := Nat.exists_eq_add_one.mpr (Nat.zero_lt_of_lt hfuel)
      have hvalue : Takes value := htakes (key, value) List.mem_cons_self
      cases others with
      | nil =>
          have hlength := congrArg List.length (utf8_writeEntries_singleton key value [])
          simp only [quoted, List.append_nil, List.length_append, List.length_cons] at hlength
          have htaken := hvalue fuel (125 :: rest) (by omega) (.inr (.inr rfl))
          rw [utf8_writeEntries_singleton]
          simp [entries?, skipBlanks, string?_quoted, htaken]
      | cons next others =>
          have hlength := congrArg List.length (utf8_writeEntries_cons key value next others [])
          simp only [quoted, List.append_nil, List.length_append, List.length_cons] at hlength
          have htaken := hvalue fuel (44 :: (utf8 (writeEntries (next :: others)) ++ 125 :: rest))
            (by omega) (.inl rfl)
          have hothers := ih (by simp) (fun item hmem => htakes item (List.mem_cons_of_mem _ hmem))
            (show (utf8 (writeEntries (next :: others))).length < fuel by omega)
          rw [utf8_writeEntries_cons]
          simp [entries?, skipBlanks, string?_quoted, htaken, hothers]

theorem value?_object {fuel : Nat} {text rest : List UInt8} (hopens : Opens text)
    (hentries : entries? fuel text = some (some entries, rest)) :
    value? (fuel + 1) (123 :: text) = some (.object entries, rest) := by
  have hmark : skipBlanks (123 :: text) = 123 :: text := rfl
  rw [value?, hmark]
  simp only [hopens.skipBlanks]
  obtain ⟨b, more, rfl, -, -, hclosing⟩ := hopens
  split
  · next heq => exact absurd (List.cons.inj heq).1 hclosing
  · rw [hentries]
    rfl

theorem takes_object (htakes : ∀ entry ∈ entries, Takes entry.2) : Takes (.object entries) := by
  intro fuel rest hfuel _
  have hopening : String.utf8EncodeChar '\x7b' = [123] := by decide
  have hclosing : String.utf8EncodeChar '\x7d' = [125] := by decide
  have hwritten :
      utf8 (write (.object entries)) = 123 :: (utf8 (writeEntries entries) ++ [125]) := by
    simp [write, hopening, hclosing]
  rw [hwritten] at hfuel ⊢
  simp only [List.length_cons, List.length_append, List.length_nil] at hfuel
  obtain ⟨fuel, rfl⟩ : ∃ less, fuel = less + 1 := Nat.exists_eq_add_one.mpr (by omega)
  rw [List.cons_append, List.append_assoc]
  cases entries with
  | nil => rfl
  | cons entry others =>
      have hopens : Opens (utf8 (writeEntries (entry :: others))) := by
        cases others <;> exact ⟨34, _, rfl, by decide⟩
      exact value?_object (hopens.append _)
        (entries?_writeEntries (by simp) htakes (by omega) rest)

end Entries

/-! ### All values -/

/-- The values that are words of their own. -/
theorem takes_word {value : Json} (word : String) (hplain : IsPlain value)
    (hwrite : write value = word.toList)
    (hvalue : ∀ fuel rest, value? (fuel + 1) (utf8 word.toList ++ rest) =
      (after? word (utf8 word.toList ++ rest)).map fun rest => (value, rest)) : Takes value := by
  intro fuel rest hfuel _
  obtain ⟨fuel, rfl⟩ := exists_fuel hplain hfuel
  rw [hwrite, hvalue, after?_append]
  rfl

theorem takes_string (value : String) : Takes (.string value) := by
  intro fuel rest hfuel _
  obtain ⟨fuel, rfl⟩ := exists_fuel (.string value) hfuel
  have hmark : ∀ text, skipBlanks (34 :: text) = 34 :: text := fun _ => rfl
  rw [write, utf8_quote, value?, hmark]
  simp only [string?_quoted, Option.bind_eq_bind, Option.bind_some]
  rfl

theorem takes_of_isPlain {value : Json} (hplain : IsPlain value) : Takes value := by
  induction hplain with
  | null => exact takes_word "null" .null rfl fun _ _ => rfl
  | bool value =>
      cases value with
      | true => exact takes_word "true" (.bool true) rfl fun _ _ => rfl
      | false => exact takes_word "false" (.bool false) rfl fun _ _ => rfl
  | integer hlow hhigh => exact takes_integer hlow hhigh
  | string value => exact takes_string value
  | array hitems ih => exact takes_array hitems ih
  | object hentries ih => exact takes_object ih

end Reader

/-- The value written in a list of bytes. -/
def ofList? (bytes : List UInt8) : Option Json := do
  let (value, rest) ← Reader.value? (2 * bytes.length + 2) bytes
  if (Reader.skipBlanks rest).isEmpty then some value else none

theorem ofBytes?_toUTF8 (text : String) : ofBytes? text.toUTF8 = ofList? (utf8 text.toList) := by
  rw [ofBytes?, Text.toList_toUTF8]
  rfl

/-- Reading a written value gives it back. -/
theorem ofBytes?_render {value : Json} (hplain : IsPlain value) :
    ofBytes? (render value).toUTF8 = some value := by
  have htaken : Reader.value? (2 * (utf8 (write value)).length + 2) (utf8 (write value) ++ []) =
      some (value, []) := Reader.takes_of_isPlain hplain _ [] (by omega) trivial
  rw [List.append_nil] at htaken
  rw [ofBytes?_toUTF8, render, String.toList_ofList]
  simp [ofList?, htaken, Reader.skipBlanks]

end Rollout.Json
