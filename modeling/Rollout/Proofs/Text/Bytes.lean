/-!
Texts as the bytes that stand for them, and the texts of whole numbers.
-/

namespace Rollout.Text

/-! ### Characters -/

/-- The bytes of a text. -/
def utf8 (text : List Char) : List UInt8 := text.flatMap String.utf8EncodeChar

@[simp] theorem utf8_nil : utf8 [] = [] := rfl

@[simp] theorem utf8_cons (c : Char) (text : List Char) :
    utf8 (c :: text) = String.utf8EncodeChar c ++ utf8 text := List.flatMap_cons

@[simp] theorem utf8_append (first second : List Char) :
    utf8 (first ++ second) = utf8 first ++ utf8 second := List.flatMap_append

/-- An ASCII character is one byte, its number. -/
theorem exists_byte_of_ascii {c : Char} (hascii : c.toNat < 128) :
    ∃ b : UInt8, String.utf8EncodeChar c = [b] ∧ b.toNat = c.toNat := by
  have hle : c.val.toNat ≤ 127 := Nat.le_of_lt_succ hascii
  refine ⟨UInt8.ofNat c.toNat, ?_, ?_⟩
  · simp only [String.utf8EncodeChar, if_pos hle]
    rfl
  · rw [UInt8.toNat_ofNat', Nat.mod_eq_of_lt (by omega)]

theorem toList_loop (bytes : ByteArray) (i : Nat) (seen : List UInt8) :
    ByteArray.toList.loop bytes i seen = seen.reverse ++ bytes.data.toList.drop i := by
  fun_induction ByteArray.toList.loop bytes i seen with
  | case1 i seen hlt ih =>
      have hget : bytes.get! i = bytes.data.toList.get ⟨i, hlt⟩ := by
        simp [ByteArray.get!, hlt]
      have hdrop : bytes.data.toList.drop i =
          bytes.data.toList.get ⟨i, hlt⟩ :: bytes.data.toList.drop (i + 1) :=
        List.drop_eq_getElem_cons hlt
      rw [ih, hdrop, hget, List.reverse_cons, List.append_assoc]
      rfl
  | case2 i seen hge =>
      have hnone : bytes.data.toList.drop i = [] :=
        List.drop_eq_nil_of_le (Nat.le_of_not_lt hge)
      rw [hnone, List.append_nil]

theorem toUTF8_eq (text : String) : text.toUTF8 = ⟨(utf8 text.toList).toArray⟩ := by
  have hlist : (String.ofList text.toList).toUTF8 = (utf8 text.toList).toByteArray :=
    String.toByteArray_ofList
  rw [String.ofList_toList] at hlist
  rw [hlist]
  exact ByteArray.ext List.data_toByteArray

theorem toList_toUTF8 (text : String) : text.toUTF8.toList = utf8 text.toList := by
  rw [toUTF8_eq, ByteArray.toList, toList_loop]
  rfl

/-- A text is told by its bytes. -/
theorem fromUTF8?_utf8 (text : String) :
    String.fromUTF8? ⟨(utf8 text.toList).toArray⟩ = some text := by
  have hvalid : text.toUTF8.IsValidUTF8 := text.isValidUTF8
  rw [← toUTF8_eq, String.fromUTF8?, dif_pos hvalid]
  rfl

/-! ### Decimal digits -/

/-- Only zero begins with the digit zero. -/
theorem head?_toDigits {n : Nat} (hpositive : 0 < n) : (Nat.toDigits 10 n).head? ≠ some '0' := by
  induction n using Nat.base_induction 10 (by decide) with
  | single m hm =>
      have hdigit := Nat.toNat_digitChar_of_lt_ten hm
      rw [Nat.toDigits_of_lt_base hm]
      intro hhead
      have hzero : m.digitChar = '0' := by simpa using hhead
      rw [hzero] at hdigit
      have hvalue : '0'.toNat = 48 := rfl
      omega
  | digit m k hk hm ih =>
      obtain ⟨c, rest, hdigits⟩ := List.exists_cons_of_ne_nil (@Nat.toDigits_ne_nil m 10)
      rw [← Nat.toDigits_append_toDigits (by decide) hm hk, hdigits]
      rw [hdigits] at ih
      exact ih hm

theorem isDigit_of_mem_toDigits (n : Nat) : ∀ c ∈ Nat.toDigits 10 n, c.isDigit := fun _ hc =>
  Nat.isDigit_of_mem_toDigits (by decide) (by decide) hc

theorem toList_toString (value : Int) : (toString value).toList =
    if 0 ≤ value then Nat.toDigits 10 value.natAbs else '-' :: Nat.toDigits 10 value.natAbs := by
  rw [Int.toString_eq_repr, Int.repr_eq_if]
  split
  · have habs : value.toNat = value.natAbs := by omega
    rw [habs, Nat.repr_eq_ofList_toDigits, String.toList_ofList]
  · have habs : (-value).toNat = value.natAbs := by omega
    rw [habs, Nat.repr_eq_ofList_toDigits, String.toList_append, String.toList_ofList,
      String.toList_ofList]
    rfl

end Rollout.Text
