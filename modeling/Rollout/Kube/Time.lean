/-!
Points in time to the nanosecond, in UTC. The calendar is the Gregorian one, carried on before its
introduction, with years from -9999 to 9999; the first and the last day of it are left out but for
the seconds that every offset from UTC keeps inside of it. Times are written to the second, without
the fraction of it that has passed, and with the zone designator `Z`.
-/

namespace Rollout.Kube

namespace Time

def isLeap (year : Int) : Bool := year % 4 == 0 && (year % 100 != 0 || year % 400 == 0)

def daysIn (year : Int) (month : Nat) : Nat :=
  if month = 2 then (if isLeap year then 29 else 28)
  else if month = 4 ∨ month = 6 ∨ month = 9 ∨ month = 11 then 30
  else 31

/-- A day of the calendar. -/
abbrev IsDate (year : Int) (month day : Nat) : Prop :=
  -9999 ≤ year ∧ year ≤ 9999 ∧ 1 ≤ month ∧ month ≤ 12 ∧ 1 ≤ day ∧ day ≤ daysIn year month

/-- A second of a day. -/
abbrev IsClock (hour minute second : Nat) : Prop := hour < 24 ∧ minute < 60 ∧ second < 60

/-- A number that grows with time. -/
def rank (year : Int) (month day hour minute second : Nat) : Int :=
  ((((year * 13 + month) * 32 + day) * 24 + hour) * 60 + minute) * 60 + second

/-- A moment between the first and the last one that are told apart. -/
abbrev IsCovered (year : Int) (month day hour minute second : Nat) : Prop :=
  rank (-9999) 1 2 1 59 59 ≤ rank year month day hour minute second ∧
    rank year month day hour minute second ≤ rank 9999 12 30 22 0 0

/-- Nanoseconds that do not fill a second. -/
abbrev IsFraction (nanosecond : Nat) : Prop := nanosecond < 1000000000

theorem isFraction_zero : IsFraction 0 := by decide

end Time

structure Time where
  year : Int
  month : Nat
  day : Nat
  hour : Nat
  minute : Nat
  second : Nat
  /-- The fraction of a second that has passed. -/
  nanosecond : Nat := 0
  isDate : Time.IsDate year month day
  isClock : Time.IsClock hour minute second
  isCovered : Time.IsCovered year month day hour minute second
  isFraction : Time.IsFraction nanosecond
deriving DecidableEq

namespace Time

/-- The beginning of the year 1970, which stands for a time that is left out. -/
def epoch : Time where
  year := 1970
  month := 1
  day := 1
  hour := 0
  minute := 0
  second := 0
  isDate := by decide
  isClock := by decide
  isCovered := by decide
  isFraction := isFraction_zero

/-- The beginning of the second. -/
def dropFraction (time : Time) : Time :=
  { time with nanosecond := 0, isFraction := isFraction_zero }

/-- The day after a day. -/
def nextDay (date : Int × Nat × Nat) : Int × Nat × Nat :=
  let (year, month, day) := date
  if day < daysIn year month then (year, month, day + 1)
  else if month < 12 then (year, month + 1, 1)
  else (year + 1, 1, 1)

/-- The day before a day. -/
def previousDay (date : Int × Nat × Nat) : Int × Nat × Nat :=
  let (year, month, day) := date
  if 1 < day then (year, month, day - 1)
  else if 1 < month then (year, month - 1, daysIn year (month - 1))
  else (year - 1, 12, 31)

/-- The day that many days later, or earlier for a negative number. -/
def addDays (days : Int) (date : Int × Nat × Nat) : Int × Nat × Nat :=
  Nat.repeat (if 0 ≤ days then nextDay else previousDay) days.natAbs date

/-- The time of a date and a clock reading, some nanoseconds into the second. -/
def of? (date : Int × Nat × Nat) (clock : Nat × Nat × Nat) (nanosecond : Nat) : Option Time :=
  let (year, month, day) := date
  let (hour, minute, second) := clock
  if h : IsDate year month day ∧ IsClock hour minute second ∧
      IsCovered year month day hour minute second ∧ IsFraction nanosecond then
    some ⟨year, month, day, hour, minute, second, nanosecond, h.1, h.2.1, h.2.2.1, h.2.2.2⟩
  else none

/-- The time that a place with an offset from UTC reads as its own date and clock. -/
def ofLocal? (date : Int × Nat × Nat) (clock : Nat × Nat × Nat) (nanosecond : Nat) (offset : Int) :
    Option Time :=
  let (year, month, day) := date
  let (hour, minute, second) := clock
  if IsDate year month day ∧ IsClock hour minute second then
    let seconds : Int := ((hour * 60 + minute) * 60 + second : Nat) - offset
    let rest := (seconds.fmod 86400).toNat
    of? (addDays (seconds.fdiv 86400) date) (rest / 3600, rest / 60 % 60, rest % 60) nanosecond
  else none

/-- A number with leading zeros. -/
def padded : Nat → Nat → List Char
  | 0, _ => []
  | count + 1, n => padded count (n / 10) ++ [Char.ofNat (48 + n % 10)]

/-- A year in four places, one of which a minus sign takes if there is room for it. -/
def yearText (year : Int) : List Char :=
  if 0 ≤ year then padded 4 year.natAbs
  else '-' :: padded (if year.natAbs < 1000 then 3 else 4) year.natAbs

def toText (time : Time) : String :=
  String.ofList (yearText time.year ++ '-' :: padded 2 time.month ++ '-' :: padded 2 time.day ++
    'T' :: padded 2 time.hour ++ ':' :: padded 2 time.minute ++ ':' :: padded 2 time.second ++
    ['Z'])

end Time

end Rollout.Kube
