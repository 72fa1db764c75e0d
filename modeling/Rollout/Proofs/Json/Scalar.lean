import Mathlib.Data.List.TakeDrop
import Rollout.Json.Reader
import Rollout.Json.Writer
import Rollout.Proofs.Text.Bytes

/-!
Strings and whole numbers of written JSON. A string is read one written character at a time, and
the reader gathers a whole number digit by digit, which 64 bits never run out of.
-/

namespace Rollout.Json

open Text (utf8)

namespace Reader

/-! ### Strings -/

theorem hexDigit?_digit {n : Nat} (hlt : n < 16) :
    ∃ b, String.utf8EncodeChar (Text.Hex.digit n) = [b] ∧ hexDigit? b = some n := by
  have hall : ∀ n < 16, String.utf8EncodeChar (Text.Hex.digit n) =
      [UInt8.ofNat (Text.Hex.digit n).toNat] ∧
        hexDigit? (UInt8.ofNat (Text.Hex.digit n).toNat) = some n := by decide
  exact ⟨_, hall n hlt⟩

/-- Four hexadecimal digits are read back. -/
theorem hex4?_unitEscape {unit : Nat} (hlt : unit < 0x10000) (rest : List UInt8) :
    ∃ digits, utf8 (unitEscape unit) = 92 :: 117 :: digits ∧
      hex4? (digits ++ rest) = some (unit, rest) := by
  obtain ⟨a, ha, hareads⟩ := hexDigit?_digit (n := unit / 4096 % 16) (by omega)
  obtain ⟨b, hb, hbreads⟩ := hexDigit?_digit (n := unit / 256 % 16) (by omega)
  obtain ⟨c, hc, hcreads⟩ := hexDigit?_digit (n := unit / 16 % 16) (by omega)
  obtain ⟨d, hd, hdreads⟩ := hexDigit?_digit (n := unit % 16) (by omega)
  have hunit : ((unit / 4096 % 16 * 16 + unit / 256 % 16) * 16 + unit / 16 % 16) * 16 + unit % 16 =
      unit := by omega
  refine ⟨[a, b, c, d], ?_, ?_⟩
  · have hmark : String.utf8EncodeChar '\\' = [92] := by decide
    have hletter : String.utf8EncodeChar 'u' = [117] := by decide
    simp [unitEscape, hmark, hletter, ha, hb, hc, hd]
  · simp [hex4?, hareads, hbreads, hcreads, hdreads, hunit]

theorem pushChar_toNat (seen : List UInt8) (c : Char) :
    Piece.pushChar (some seen) c.toNat = some ((String.utf8EncodeChar c).reverse ++ seen) := by
  have hbytes : (String.singleton c).toUTF8.toList = String.utf8EncodeChar c := by
    rw [Text.toList_toUTF8, String.toList_singleton]
    exact List.append_nil _
  rw [Piece.pushChar, Char.ofNat_toNat, hbytes]
  rfl

theorem string?_letter (letter : UInt8) {byte : UInt8} (hletter : letterEscape? letter = some byte)
    (hne : letter ≠ 117) (fuel : Nat) (piece : Piece) (rest : List UInt8) :
    string? (fuel + 1) piece (92 :: letter :: rest) = string? fuel (piece.push [byte]) rest := by
  rw [string?]
  · rw [hletter]
    rfl
  · exact hne

theorem string?_byte {b : UInt8} (hquote : b ≠ 34) (hbackslash : b ≠ 92) (hlow : ¬ b < 32)
    (fuel : Nat) (piece : Piece) (rest : List UInt8) :
    string? (fuel + 1) piece (b :: rest) = string? fuel (piece.push [b]) rest := by
  rw [string?]
  · rw [if_neg hlow]
  · exact hquote
  · exact fun _ heq _ => hbackslash heq
  · exact fun _ _ heq _ => hbackslash heq

theorem string?_unitEscape {unit : Nat} (hlt : unit < 0x10000)
    (hwhole : ¬ (0xD800 ≤ unit ∧ unit ≤ 0xDFFF)) (fuel : Nat) (piece : Piece)
    (rest : List UInt8) : string? (fuel + 1) piece (utf8 (unitEscape unit) ++ rest) =
      string? fuel (piece.pushChar unit) rest := by
  obtain ⟨digits, hwritten, hreads⟩ := hex4?_unitEscape hlt rest
  simp [hwritten, string?, hreads, hwhole]

/-- Two units that stand for a character together. -/
theorem string?_surrogates (high low : Nat) (hhigh : 0xD800 ≤ high ∧ high < 0xDC00)
    (hlow : 0xDC00 ≤ low ∧ low ≤ 0xDFFF) (fuel : Nat) (piece : Piece) (rest : List UInt8) :
    string? (fuel + 1) piece (utf8 (unitEscape high ++ unitEscape low) ++ rest) =
      string? fuel (piece.pushChar (0x10000 + (high - 0xD800) * 1024 + (low - 0xDC00))) rest := by
  obtain ⟨second, hsecond, hsecondReads⟩ := hex4?_unitEscape (show low < 0x10000 by omega) rest
  obtain ⟨first, hfirst, hfirstReads⟩ :=
    hex4?_unitEscape (show high < 0x10000 by omega) (utf8 (unitEscape low) ++ rest)
  have hlowReads : lowSurrogate? high (utf8 (unitEscape low) ++ rest) =
      some (0x10000 + (high - 0xD800) * 1024 + (low - 0xDC00), rest) := by
    simp [hsecond, lowSurrogate?, hsecondReads, hlow]
  have hrange : 0xD800 ≤ high ∧ high ≤ 0xDFFF := by omega
  simp [hfirst, string?, hfirstReads, hrange, hhigh.2, hlowReads]

/-- A printable ASCII character is one byte, which stands for itself. -/
theorem string?_printable {c : Char} (hrange : ' ' ≤ c ∧ c ≤ '~') (hquote : c ≠ '"')
    (hbackslash : c ≠ '\\') (fuel : Nat) (piece : Piece) (rest : List UInt8) :
    string? (fuel + 1) piece (utf8 [c] ++ rest) =
      string? fuel (piece.push (String.utf8EncodeChar c)) rest := by
  have hlow : 32 ≤ c.toNat := hrange.1
  have hhigh : c.toNat ≤ 126 := hrange.2
  obtain ⟨b, hwritten, hvalue⟩ := Text.exists_byte_of_ascii (c := c) (by omega)
  have hother : ∀ other : Char, c ≠ other → b.toNat ≠ other.toNat := fun other hne heq =>
    hne (Char.toNat_inj.mp (hvalue.symm.trans heq))
  rw [Text.utf8_cons, Text.utf8_nil, List.append_nil, hwritten]
  refine string?_byte ?quote ?backslash ?low fuel piece rest
  case quote =>
    rintro rfl
    exact hother '"' hquote rfl
  case backslash =>
    rintro rfl
    exact hother '\\' hbackslash rfl
  case low =>
    intro hlt
    have hlt' : b.toNat < 32 := hlt
    omega

/-- A written character is taken in one step. -/
theorem string?_escapeChar (c : Char) (fuel : Nat) (seen rest : List UInt8) :
    string? (fuel + 1) (some seen) (utf8 (escapeChar c) ++ rest) =
      string? fuel (some ((String.utf8EncodeChar c).reverse ++ seen)) rest := by
  have hvalid : c.toNat < 0xD800 ∨ (0xDFFF < c.toNat ∧ c.toNat < 0x110000) := c.valid
  unfold escapeChar
  split_ifs with hquote hbackslash hrange hlt
  · subst hquote
    exact string?_letter 34 rfl (by decide) fuel (some seen) rest
  · subst hbackslash
    exact string?_letter 92 rfl (by decide) fuel (some seen) rest
  · exact string?_printable hrange hquote hbackslash fuel (some seen) rest
  · rw [← pushChar_toNat]
    exact string?_unitEscape hlt (by omega) fuel (some seen) rest
  · have hpair := string?_surrogates (0xD800 + (c.toNat - 0x10000) / 1024)
      (0xDC00 + (c.toNat - 0x10000) % 1024) (by omega) (by omega) fuel (some seen) rest
    have hjoined : 0x10000 + (0xD800 + (c.toNat - 0x10000) / 1024 - 0xD800) * 1024 +
        (0xDC00 + (c.toNat - 0x10000) % 1024 - 0xDC00) = c.toNat := by omega
    rw [hjoined, pushChar_toNat] at hpair
    exact hpair

/-- The text of a string is read up to its closing quote. -/
theorem string?_flatMap_escapeChar (text : List Char) {fuel : Nat} (hfuel : text.length < fuel)
    (seen rest : List UInt8) :
    string? fuel (some seen) (utf8 (text.flatMap escapeChar) ++ 34 :: rest) =
      some (Piece.text? (some ((utf8 text).reverse ++ seen)), rest) := by
  induction text generalizing fuel seen with
  | nil =>
      obtain ⟨fuel, rfl⟩ := Nat.exists_eq_add_of_lt hfuel
      rfl
  | cons c text ih =>
      obtain ⟨fuel, rfl⟩ := Nat.exists_eq_add_of_lt (Nat.zero_lt_of_lt hfuel)
      rw [List.length_cons] at hfuel
      rw [Nat.zero_add, List.flatMap_cons, Text.utf8_append, List.append_assoc, string?_escapeChar,
        ih (by omega), Text.utf8_cons, List.reverse_append, List.append_assoc]

theorem utf8_escapeChar_ne_nil (c : Char) : utf8 (escapeChar c) ≠ [] := by
  obtain ⟨first, rest, hescape⟩ : ∃ first rest, escapeChar c = first :: rest := by
    unfold escapeChar unitEscape
    split_ifs <;> exact ⟨_, _, rfl⟩
  simp [hescape, String.utf8EncodeChar_ne_nil]

theorem length_le_utf8_escaped (text : List Char) :
    text.length ≤ (utf8 (text.flatMap escapeChar)).length := by
  induction text with
  | nil => exact Nat.le_refl 0
  | cons c text ih =>
      have hc := List.length_pos_iff.mpr (utf8_escapeChar_ne_nil c)
      rw [List.flatMap_cons, Text.utf8_append, List.length_append, List.length_cons]
      omega

/-- What follows the opening quote of a written string, up to the rest of the text. -/
def quoted (s : String) (rest : List UInt8) : List UInt8 :=
  utf8 (s.toList.flatMap escapeChar) ++ 34 :: rest

theorem utf8_quote (s : String) (rest : List UInt8) :
    utf8 (quote s) ++ rest = 34 :: quoted s rest := by
  have hmark : String.utf8EncodeChar '"' = [34] := by decide
  simp [quote, quoted, hmark]

theorem string?_quoted (s : String) (rest : List UInt8) :
    string? ((quoted s rest).length + 1) (some []) (quoted s rest) = some (some s, rest) := by
  have hlength := length_le_utf8_escaped s.toList
  have htext : Piece.text? (some ((utf8 s.toList).reverse ++ [])) = some s := by
    rw [Piece.text?, Option.bind_some, List.append_nil, List.reverse_reverse, Text.fromUTF8?_utf8]
  rw [quoted, string?_flatMap_escapeChar s.toList (by rw [List.length_append]; omega), htext]

/-! ### Whole numbers -/

/-- Nothing follows, or something that no value goes on with. -/
def Ends : List UInt8 → Prop
  | [] => True
  | b :: _ => b = 44 ∨ b = 93 ∨ b = 125

/-- A decimal digit is one byte. -/
theorem exists_byte_of_isDigit {c : Char} (hdigit : c.isDigit) : ∃ b : UInt8,
    String.utf8EncodeChar c = [b] ∧ isDigit b ∧ b.toNat = c.toNat := by
  simp only [Char.isDigit, Bool.and_eq_true, decide_eq_true_eq] at hdigit
  have hlow : 48 ≤ c.toNat := hdigit.1
  have hhigh : c.toNat ≤ 57 := hdigit.2
  obtain ⟨b, hwritten, hvalue⟩ := Text.exists_byte_of_ascii (c := c) (by omega)
  refine ⟨b, hwritten, ?_, hvalue⟩
  simp only [isDigit, Bool.and_eq_true, decide_eq_true_eq, UInt8.le_iff_toNat_le, hvalue]
  exact ⟨hlow, hhigh⟩

theorem isDigit_of_mem_utf8 {text : List Char} (hdigits : ∀ c ∈ text, c.isDigit) :
    ∀ b ∈ utf8 text, isDigit b := by
  intro b hb
  obtain ⟨c, hc, hbyte⟩ := List.mem_flatMap.mp hb
  obtain ⟨byte, hwritten, hdigit, -⟩ := exists_byte_of_isDigit (hdigits c hc)
  rw [hwritten, List.mem_singleton] at hbyte
  rw [hbyte]
  exact hdigit

theorem le_ofDigitChars (text : List Char) (significand : Nat) :
    significand ≤ Nat.ofDigitChars 10 text significand := by
  induction text generalizing significand with
  | nil => exact Nat.le_refl _
  | cons c text ih =>
      have htail := ih (10 * significand + (c.toNat - '0'.toNat))
      rw [Nat.ofDigitChars_cons]
      omega

section Gathering

-- Closed, so that reducing the match on it does not run into the bound of 64 bits.
attribute [local irreducible] Number.extend?

theorem gatherWhole_cons (significand : Nat) (b : UInt8) (rest : List UInt8) :
    Number.gatherWhole significand (b :: rest) =
      match Number.extend? significand b with
      | some extended => Number.gatherWhole extended rest
      | none => (significand, rest.length + 1) := rfl

end Gathering

/-- A significand that fits 64 bits is gathered to its last digit. -/
theorem gatherWhole_utf8 {text : List Char} (hdigits : ∀ c ∈ text, c.isDigit) {significand : Nat}
    (hlt : Nat.ofDigitChars 10 text significand < UInt64.size) :
    Number.gatherWhole significand (utf8 text) = (Nat.ofDigitChars 10 text significand, 0) := by
  induction text generalizing significand with
  | nil => rfl
  | cons c text ih =>
      obtain ⟨b, hwritten, -, hvalue⟩ := exists_byte_of_isDigit (hdigits c List.mem_cons_self)
      have hzero : '0'.toNat = 48 := rfl
      rw [Nat.ofDigitChars_cons, hzero] at hlt ⊢
      have hle := le_ofDigitChars text (10 * significand + (c.toNat - 48))
      have hextended : Number.extend? significand b =
          some (10 * significand + (c.toNat - 48)) := by
        simp only [Number.extend?, Number.digitValue, hvalue, Nat.mul_comm significand]
        rw [if_pos (Nat.lt_of_le_of_lt hle hlt)]
      rw [Text.utf8_cons, hwritten, List.singleton_append, gatherWhole_cons, hextended]
      exact ih (fun d hd => hdigits d (List.mem_cons_of_mem c hd)) hlt

theorem digits_append {bytes rest : List UInt8} (hdigits : ∀ b ∈ bytes, isDigit b)
    (hends : Ends rest) : digits (bytes ++ rest) = (bytes, rest) := by
  have hrest : rest.takeWhile isDigit = [] ∧ rest.dropWhile isDigit = rest := by
    cases rest with
    | nil => exact ⟨rfl, rfl⟩
    | cons b rest => rcases hends with rfl | rfl | rfl <;> exact ⟨rfl, rfl⟩
  rw [digits, List.span_eq_takeWhile_dropWhile, List.takeWhile_append_of_pos hdigits,
    List.dropWhile_append_of_pos hdigits, hrest.1, hrest.2, List.append_nil]

section Whole

variable {n : Nat} {rest : List UInt8}

/-- A number of more than one digit does not begin with a zero. -/
theorem head_utf8_toDigits (n : Nat) : ((utf8 (Nat.toDigits 10 n)).isEmpty ||
    ((utf8 (Nat.toDigits 10 n)).head? == some 48 && 1 < (utf8 (Nat.toDigits 10 n)).length)) =
      false := by
  rcases Nat.eq_zero_or_pos n with rfl | hpositive
  · decide
  · have hhead := Text.head?_toDigits hpositive
    obtain ⟨c, text, htext⟩ := List.exists_cons_of_ne_nil (@Nat.toDigits_ne_nil n 10)
    have hdigit : c.isDigit := Text.isDigit_of_mem_toDigits n c (htext ▸ List.mem_cons_self)
    obtain ⟨b, hwritten, -, hvalue⟩ := exists_byte_of_isDigit hdigit
    have hne : b ≠ 48 := by
      rintro rfl
      have hzero : c = '0' := Char.toNat_inj.mp hvalue.symm
      exact hhead (by rw [htext, hzero]; rfl)
    simp [htext, hwritten, hne]

/-- Decimal digits are a number without fraction and exponent, and without a leading zero. -/
theorem number?_toDigits (negative : Bool) (n : Nat) (hends : Ends rest) :
    number? negative (utf8 (Nat.toDigits 10 n) ++ rest) =
      some (match Number.ofLiteral? negative (utf8 (Nat.toDigits 10 n)) [] none with
        | some value => .number value
        | none => .unreadable, rest) := by
  have hdigits := digits_append (isDigit_of_mem_utf8 (Text.isDigit_of_mem_toDigits n)) hends
  have hfraction : fraction? rest = some ([], rest) := by
    cases rest with
    | nil => rfl
    | cons b rest => rcases hends with rfl | rfl | rfl <;> rfl
  have hexponent : exponent? rest = some (none, rest) := by
    cases rest with
    | nil => rfl
    | cons b rest => rcases hends with rfl | rfl | rfl <;> rfl
  simp only [number?, hdigits, head_utf8_toDigits, hfraction, hexponent, Option.bind_eq_bind,
    Option.bind_some, Bool.false_eq_true, if_false]
  rfl

theorem gatherWhole_toDigits (hlt : n < UInt64.size) :
    Number.gatherWhole 0 (utf8 (Nat.toDigits 10 n)) = (n, 0) := by
  have hvalue : Nat.ofDigitChars 10 (Nat.toDigits 10 n) 0 = n := Nat.ofDigitChars_ten_toDigits
  have hgather := gatherWhole_utf8 (Text.isDigit_of_mem_toDigits n) (hvalue.symm ▸ hlt)
  rwa [hvalue] at hgather

theorem ofLiteral?_toDigits (hlt : n < UInt64.size) :
    Number.ofLiteral? false (utf8 (Nat.toDigits 10 n)) [] none = some (.integer n) := by
  simp [Number.ofLiteral?, gatherWhole_toDigits hlt]

theorem ofLiteral?_neg_toDigits (hpositive : 0 < n) (hle : n ≤ 0x8000000000000000) :
    Number.ofLiteral? true (utf8 (Nat.toDigits 10 n)) [] none = some (.integer (-n)) := by
  have hgather := gatherWhole_toDigits (Nat.lt_of_le_of_lt hle (by decide))
  simp [Number.ofLiteral?, hgather, hpositive, hle]

end Whole

end Reader

end Rollout.Json
