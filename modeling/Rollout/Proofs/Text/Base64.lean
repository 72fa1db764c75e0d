import Rollout.Text.Encoding

/-!
Decoding gives back the bytes that were encoded.
-/

namespace Rollout.Text.Base64

theorem value?_digit {n : Nat} (hlt : n < 64) : value? (digit n) = some n := by
  have hall : ∀ n < 64, value? (digit n) = some n := by decide
  exact hall n hlt

theorem digit_ne_padding {n : Nat} (hlt : n < 64) : digit n ≠ '=' := by
  have hall : ∀ n < 64, digit n ≠ '=' := by decide
  exact hall n hlt

theorem ofNat_eq {x : UInt8} {n : Nat} (heq : n % 256 = x.toNat) : UInt8.ofNat n = x := by
  apply UInt8.toNat_inj.mp
  simpa using heq

/-- Four digits without padding are three bytes. -/
theorem decode?_digits {a b c d : Nat} (ha : a < 64) (hb : b < 64) (hc : c < 64) (hd : d < 64)
    (rest : List Char) : decode? (digit a :: digit b :: digit c :: digit d :: rest) =
      (decode? rest).map fun bytes =>
        let n := ((a * 64 + b) * 64 + c) * 64 + d
        UInt8.ofNat (n / 65536) :: UInt8.ofNat (n / 256) :: UInt8.ofNat n :: bytes := by
  have hpadding := digit_ne_padding hd
  have hread : decode? (digit a :: digit b :: digit c :: digit d :: rest) = do
      let n :=
        (((← value? (digit a)) * 64 + (← value? (digit b))) * 64 + (← value? (digit c))) * 64 +
          (← value? (digit d))
      return UInt8.ofNat (n / 65536) :: UInt8.ofNat (n / 256) :: UInt8.ofNat n ::
        (← decode? rest) := by
    rw [decode?]
    · exact fun _ hd _ => hpadding hd
    · exact fun hd _ => hpadding hd
  rw [hread, value?_digit ha, value?_digit hb, value?_digit hc, value?_digit hd]
  cases decode? rest <;> rfl

/-- Three digits with padding are two bytes. -/
theorem decode?_padded {a b c : Nat} (ha : a < 64) (hb : b < 64) (hc : c < 64)
    (hbits : ((a * 64 + b) * 64 + c) % 4 = 0) :
    decode? [digit a, digit b, digit c, '='] =
      some [UInt8.ofNat (((a * 64 + b) * 64 + c) / 1024),
        UInt8.ofNat (((a * 64 + b) * 64 + c) / 4)] := by
  have hread : decode? [digit a, digit b, digit c, '='] = (do
      let n := ((← value? (digit a)) * 64 + (← value? (digit b))) * 64 + (← value? (digit c))
      if n % 4 = 0 then some [UInt8.ofNat (n / 1024), UInt8.ofNat (n / 4)] else none) := by
    rw [decode?]
    exact digit_ne_padding hc
  rw [hread, value?_digit ha, value?_digit hb, value?_digit hc]
  exact if_pos hbits

theorem decode?_encode (bytes : List UInt8) : decode? (encode bytes) = some bytes := by
  fun_induction encode bytes with
  | case1 => rfl
  | case2 x n =>
      have hx := x.toNat_lt
      have hvalue : n / 64 * 64 + n % 64 = n := by omega
      have hhigh := value?_digit (n := n / 64) (by omega)
      have hlow := value?_digit (n := n % 64) (by omega)
      simp [decode?, hhigh, hlow, hvalue, n]
  | case3 x y n =>
      have hx := x.toNat_lt
      have hy := y.toNat_lt
      have hvalue : (n / 4096 * 64 + n / 64 % 64) * 64 + n % 64 = n := by omega
      have hfirst : UInt8.ofNat (n / 1024) = x := ofNat_eq (by omega)
      have hsecond : UInt8.ofNat (n / 4) = y := ofNat_eq (by omega)
      rw [decode?_padded (by omega) (by omega) (by omega) (by omega), hvalue, hfirst, hsecond]
  | case4 x y z rest n ih =>
      have hx := x.toNat_lt
      have hy := y.toNat_lt
      have hz := z.toNat_lt
      have hvalue : ((n / 262144 * 64 + n / 4096 % 64) * 64 + n / 64 % 64) * 64 + n % 64 = n := by
        omega
      have hfirst : UInt8.ofNat (n / 65536) = x := ofNat_eq (by omega)
      have hsecond : UInt8.ofNat (n / 256) = y := ofNat_eq (by omega)
      have hthird : UInt8.ofNat n = z := ofNat_eq (by omega)
      rw [decode?_digits (by omega) (by omega) (by omega) (by omega), ih]
      simp only [Option.map_some, hvalue, hfirst, hsecond, hthird]

end Rollout.Text.Base64
