import Mathlib.Algebra.Group.Nat.Defs
import Rollout.Kube.Time.Reader

/-!
Times read back as they are written, as long as their year is not before the year zero. What is read
is the beginning of the second, since fractions of it are not written. A written year before the
year zero has a minus sign and three or four digits, where the reader asks for six.
-/

namespace Rollout.Kube.Time

/-! ### Numbers in a fixed number of places -/

theorem toNat_place (n : Nat) : (Char.ofNat (48 + n % 10)).toNat = 48 + n % 10 := by
  have hvalid : (48 + n % 10).isValidChar := Or.inl (by omega)
  rw [Char.ofNat, dif_pos hvalid]
  rfl

theorem isDigit_place (n : Nat) : (Char.ofNat (48 + n % 10)).isDigit := by
  have hall : ∀ d < 10, (Char.ofNat (48 + d)).isDigit := by decide
  exact hall _ (Nat.mod_lt n (by decide))

theorem digits?_add (first second value : Nat) (text : List Char) :
    digits? (first + second) value text =
      (digits? first value text).bind fun read => digits? second read.1 read.2 := by
  induction first generalizing value text with
  | zero => simp [digits?]
  | succ count ih =>
      rw [Nat.succ_add]
      cases text with
      | nil => rfl
      | cons c rest =>
          simp only [digits?]
          split
          · exact ih _ rest
          · rfl

theorem digits?_padded (count value n : Nat) (rest : List Char) :
    digits? count value (padded count n ++ rest) =
      some (value * 10 ^ count + n % 10 ^ count, rest) := by
  induction count generalizing n rest with
  | zero => simp [padded, digits?, Nat.mod_one]
  | succ count ih =>
      have hplace : (value * 10 ^ count + n / 10 % 10 ^ count) * 10 + n % 10 =
          value * 10 ^ (count + 1) + n % 10 ^ (count + 1) := by
        rw [Nat.pow_succ', Nat.mod_mul, Nat.add_mul, Nat.mul_assoc, Nat.mul_comm (10 ^ count) 10]
        omega
      rw [padded, List.append_assoc, digits?_add, ih]
      simp only [Option.bind_some, List.cons_append, List.nil_append, digits?, isDigit_place,
        if_true, toNat_place, Nat.add_sub_cancel_left, hplace]

theorem digits?_padded_of_lt (count : Nat) {n : Nat} (hlt : n < 10 ^ count) (rest : List Char) :
    digits? count 0 (padded count n ++ rest) = some (n, rest) := by
  rw [digits?_padded, Nat.zero_mul, Nat.zero_add, Nat.mod_eq_of_lt hlt]

/-- A number that is followed by something else has no further places. -/
theorem digits?_eq_none (count more n : Nat) {c : Char} (hdigit : c.isDigit = false)
    (rest : List Char) : digits? (count + (more + 1)) 0 (padded count n ++ c :: rest) = none := by
  rw [digits?_add, digits?_padded]
  simp [digits?, hdigit]

/-! ### Dates -/

theorem exists_padded (n : Nat) : ∃ c rest, padded 4 n = c :: rest ∧ c.isDigit := by
  refine ⟨_, _, rfl, ?_⟩
  exact isDigit_place _

theorem year?_of_nonneg {year : Int} (hlow : 0 ≤ year) (hhigh : year ≤ 9999) (rest : List Char) :
    year? (yearText year ++ rest) = some (year, rest) := by
  have hread := digits?_padded_of_lt 4 (n := year.natAbs) (by omega) rest
  have habs : (year.natAbs : Int) = year := Int.natAbs_of_nonneg hlow
  rw [yearText, if_pos hlow]
  obtain ⟨c, digits, hpadded, hdigit⟩ := exists_padded year.natAbs
  rw [hpadded] at hread ⊢
  unfold year?
  split
  · next heq =>
      cases heq
      exact absurd hdigit (by decide)
  · next heq =>
      cases heq
      exact absurd hdigit (by decide)
  · rw [hread, Option.map_some, habs]

theorem year?_of_neg {year : Int} (hneg : year < 0) (rest : List Char) :
    year? (yearText year ++ '-' :: rest) = none := by
  have hsign : ¬ 0 ≤ year := by omega
  rw [yearText, if_neg hsign]
  simp only [year?, List.cons_append]
  split
  · rw [digits?_eq_none 3 2 _ (by decide)]
    rfl
  · rw [digits?_eq_none 4 1 _ (by decide)]
    rfl

theorem date?_of_nonneg {year : Int} {month day : Nat} (hdate : IsDate year month day)
    (hlow : 0 ≤ year) (rest : List Char) :
    date? (yearText year ++ '-' :: padded 2 month ++ '-' :: padded 2 day ++ rest) =
      some ((year, month, day), rest) := by
  obtain ⟨-, hhigh, -, hmonth, -, hday⟩ := hdate
  have hdays : daysIn year month ≤ 31 := by
    unfold daysIn
    split
    · split <;> omega
    · split <;> omega
  have hmonthText := digits?_padded_of_lt 2 (n := month) (by omega)
    ('-' :: (padded 2 day ++ rest))
  have hdayText := digits?_padded_of_lt 2 (n := day) (by omega) rest
  simp [date?, year?_of_nonneg hlow hhigh, hmonthText, hdayText]

/-! ### Clock readings -/

theorem reading?_clock {hour minute second : Nat} (hclock : IsClock hour minute second)
    {c : Char} (hfraction : c ≠ '.' ∧ c ≠ ',') (rest : List Char) :
    reading? (padded 2 hour ++ ':' :: padded 2 minute ++ ':' :: padded 2 second ++ c :: rest) =
      some ({ hour, minute, second }, c :: rest) := by
  obtain ⟨hhour, hminute, hsecond⟩ := hclock
  have hhourText := digits?_padded_of_lt 2 (n := hour) (by omega)
    (':' :: (padded 2 minute ++ ':' :: (padded 2 second ++ c :: rest)))
  have hminuteText := digits?_padded_of_lt 2 (n := minute) (by omega)
    (':' :: (padded 2 second ++ c :: rest))
  have hsecondText := digits?_padded_of_lt 2 (n := second) (by omega) (c :: rest)
  have hnone : fraction? (c :: rest) = some ([], c :: rest) := by
    simp [fraction?, hfraction.1, hfraction.2]
  simp [reading?, part?, hhourText, hminuteText, hsecondText, hnone]

theorem ofLocal?_utc {year : Int} {month day hour minute second : Nat}
    (hdate : IsDate year month day) (hclock : IsClock hour minute second)
    (hcovered : IsCovered year month day hour minute second) :
    ofLocal? (year, month, day) (hour, minute, second) 0 0 =
      some ⟨year, month, day, hour, minute, second, 0, hdate, hclock, hcovered, by decide⟩ := by
  obtain ⟨hhour, hminute, hsecond⟩ := hclock
  have hbound : (hour * 60 + minute) * 60 + second < 86400 := by omega
  have hday : ((((hour * 60 + minute) * 60 + second : Nat) : Int) - 0).fdiv 86400 = 0 := by
    rw [Int.fdiv_eq_ediv_of_nonneg _ (by decide)]
    omega
  have hrest : (((((hour * 60 + minute) * 60 + second : Nat) : Int) - 0).fmod 86400).toNat =
      (hour * 60 + minute) * 60 + second := by
    rw [Int.fmod_eq_emod_of_nonneg _ (by decide)]
    omega
  have hhourBack : ((hour * 60 + minute) * 60 + second) / 3600 = hour := by omega
  have hminuteBack : ((hour * 60 + minute) * 60 + second) / 60 % 60 = minute := by omega
  have hsecondBack : ((hour * 60 + minute) * 60 + second) % 60 = second := by omega
  simp only [ofLocal?, if_pos (And.intro hdate (And.intro hhour (And.intro hminute hsecond))), hday,
    hrest, hhourBack, hminuteBack, hsecondBack]
  exact dif_pos ⟨hdate, ⟨hhour, hminute, hsecond⟩, hcovered, by decide⟩

/-! ### Whole times -/

/-- Whether the written form of a time can be read. -/
def IsReadable (time : Time) : Prop := 0 ≤ time.year

theorem ofText?_toText {time : Time} (hreadable : time.IsReadable) :
    ofText? time.toText = some time.dropFraction := by
  obtain ⟨year, month, day, hour, minute, second, _, hdate, hclock, hcovered, _⟩ := time
  have hdateText := date?_of_nonneg hdate hreadable ('T' :: (padded 2 hour ++ ':' ::
    padded 2 minute ++ ':' :: padded 2 second ++ ['Z']))
  have hclockText := reading?_clock hclock (c := 'Z') (by decide) []
  have hzone : offset? ['Z'] = some (0, []) := rfl
  have hplain : areAnnotations [] := by decide
  have hsecond : second ≠ 60 := by omega
  have hnanosecond : Reading.nanosecond { hour, minute, second } = 0 := Nat.zero_mul _
  simp only [List.append_assoc, List.cons_append] at hdateText hclockText
  simp [ofText?, toText, hdateText, hclockText, hzone, hplain, Reading.clock, hsecond, hnanosecond,
    ofLocal?_utc hdate hclock hcovered, dropFraction]

theorem isReadable_of_ofText? {time other : Time} (hread : ofText? time.toText = some other) :
    time.IsReadable := by
  rcases Int.lt_or_le time.year 0 with hneg | hreadable
  case inr => exact hreadable
  have hyear := year?_of_neg hneg (padded 2 time.month ++ '-' :: (padded 2 time.day ++
    'T' :: (padded 2 time.hour ++ ':' :: (padded 2 time.minute ++ ':' ::
      (padded 2 time.second ++ ['Z'])))))
  simp [ofText?, toText, date?, hyear] at hread

end Rollout.Kube.Time
