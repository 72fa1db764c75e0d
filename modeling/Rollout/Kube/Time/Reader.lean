import Rollout.Kube.Time
import Rollout.Text.Pieces

/-!
Reading times. A time is a date, a `T` or a space, a clock reading, the offset from UTC, and perhaps
annotations in brackets, which name a time zone or a calendar and change nothing. An offset with a
fraction of a second is rounded to whole seconds.
-/

namespace Rollout.Kube.Time

/-- A number of exactly `count` digits. -/
def digits? : Nat → Nat → List Char → Option (Nat × List Char)
  | 0, value, rest => some (value, rest)
  | count + 1, value, c :: rest =>
    if c.isDigit then digits? count (value * 10 + (c.toNat - 48)) rest else none
  | _ + 1, _, [] => none

/-- A year of four digits, or a sign and six digits. The year zero has no minus sign. -/
def year? (text : List Char) : Option (Int × List Char) :=
  match text with
  | '+' :: rest => (digits? 6 0 rest).map fun read => (read.1, read.2)
  | '-' :: rest => do
    let (year, rest) ← digits? 6 0 rest
    if year = 0 then none else some (-(year : Int), rest)
  | rest => (digits? 4 0 rest).map fun read => (read.1, read.2)

/-- Year, month and day, with hyphens or without. -/
def date? (text : List Char) : Option ((Int × Nat × Nat) × List Char) := do
  let (year, rest) ← year? text
  match rest with
  | '-' :: rest =>
    let (month, rest) ← digits? 2 0 rest
    match rest with
    | '-' :: rest =>
      let (day, rest) ← digits? 2 0 rest
      return ((year, month, day), rest)
    | _ => none
  | rest =>
    let (month, rest) ← digits? 2 0 rest
    let (day, rest) ← digits? 2 0 rest
    return ((year, month, day), rest)

/-- The digits of a fraction, one to nine of them; empty when there is no fraction. -/
def fraction? (text : List Char) : Option (List Char × List Char) :=
  match text with
  | c :: rest =>
    if c = '.' ∨ c = ',' then
      let places := rest.takeWhile Char.isDigit
      if places.isEmpty || 9 < places.length then none
      else some (places, rest.dropWhile Char.isDigit)
    else some ([], text)
  | [] => some ([], [])

/-- Two digits, after a colon or without one; they may be missing. -/
def part? (colons : Bool) (text : List Char) : Option (Option Nat × List Char) :=
  match colons, text with
  | true, ':' :: rest => (digits? 2 0 rest).map fun read => (some read.1, read.2)
  | true, rest => some (none, rest)
  | false, rest =>
    match digits? 2 0 rest with
    | some (value, after) => some (some value, after)
    | none => some (none, rest)

/-- Hours, minutes and seconds, and the digits of a fraction of a second. -/
structure Reading where
  hour : Nat
  minute : Nat := 0
  second : Nat := 0
  fraction : List Char := []

/-- Hours and what may follow them: minutes, then seconds, then a fraction. -/
def reading? (text : List Char) : Option (Reading × List Char) := do
  let (hour, rest) ← digits? 2 0 text
  let colons := rest.head? = some ':'
  let (minute, rest) ← part? colons rest
  match minute with
  | none => return ({ hour }, rest)
  | some minute =>
    let (second, rest) ← part? colons rest
    match second with
    | none => return ({ hour, minute }, rest)
    | some second =>
      let (fraction, rest) ← fraction? rest
      return ({ hour, minute, second, fraction }, rest)

/-- The second of the day that is read. A leap second counts as the one before it. -/
def Reading.clock (reading : Reading) : Nat × Nat × Nat :=
  (reading.hour, reading.minute, if reading.second = 60 then 59 else reading.second)

/-- The nanoseconds of the second that is read. -/
def Reading.nanosecond (reading : Reading) : Nat :=
  let value := reading.fraction.foldl (fun value c => value * 10 + (c.toNat - 48)) 0
  value * Nat.pow 10 (9 - reading.fraction.length)

/-- The seconds of an offset. Half a second is rounded up, and no offset reaches 26 hours. -/
def Reading.seconds? (reading : Reading) : Option Nat :=
  let half := match reading.fraction with
    | first :: _ => if '5' ≤ first then 1 else 0
    | [] => 0
  let seconds := (reading.hour * 60 + reading.minute) * 60 + reading.second + half
  if reading.hour < 26 ∧ reading.minute < 60 ∧ reading.second < 60 ∧ seconds < 26 * 3600 then
    some seconds
  else none

/-- An offset from UTC in seconds: `Z`, or a sign and a reading. -/
def offset? (text : List Char) : Option (Int × List Char) := do
  match text with
  | c :: rest =>
    if c = 'Z' ∨ c = 'z' then return (0, rest)
    else if c = '+' ∨ c = '-' then
      let (reading, rest) ← reading? rest
      let seconds ← reading.seconds?
      return (if c = '-' then -(seconds : Int) else seconds, rest)
    else none
  | [] => none

/-! ### Annotations -/

/-- Whether a word begins with a character of one class and goes on with characters of another. -/
def isWord (starts continues : Char → Bool) : List Char → Bool
  | c :: rest => starts c && rest.all continues
  | [] => false

/-- The name of a time zone, its parts separated by slashes. -/
def isZoneName (text : List Char) : Bool :=
  let starts (c : Char) : Bool := c.isAlpha || c = '_' || c = '.'
  (Text.pieces '/' text).all (isWord starts fun c => starts c || c.isDigit || c = '+' || c = '-')

/-- An offset that stands for a time zone: a sign, hours and perhaps minutes. -/
def isZoneOffset (text : List Char) : Bool :=
  let read : Option (Nat × Option Nat × List Char) := do
    let (hour, rest) ← digits? 2 0 (text.drop 1)
    let (minute, rest) ← part? (rest.head? = some ':') rest
    return (hour, minute, rest)
  (text.head? == some '+' || text.head? == some '-') &&
    match read with
    | some (hour, minute, []) => decide (hour < 26 ∧ minute.getD 0 < 60)
    | _ => false

/-- A time zone in an opened bracket; an exclamation mark says that it matters. -/
def isZone (text : List Char) : Bool :=
  match text with
  | '[' :: '!' :: zone => isZoneName zone || isZoneOffset zone
  | '[' :: zone => isZoneName zone || isZoneOffset zone
  | _ => false

/-- A key and its values in an opened bracket. One that says that it matters is not understood. -/
def isKeyed (text : List Char) : Bool :=
  let starts (c : Char) : Bool := c.isLower || c = '_'
  match text with
  | '[' :: keyed =>
    match Text.pieces '=' keyed with
    | [key, values] =>
      isWord starts (fun c => starts c || c.isDigit || c = '-') key &&
        (Text.pieces '-' values).all (isWord Char.isAlphanum Char.isAlphanum)
    | _ => false
  | _ => false

/-- Whether a text is a list of annotations: perhaps a time zone, then keys with values. -/
def areAnnotations (text : List Char) : Bool :=
  let opened := Text.pieces ']' text
  opened.getLast? == some [] &&
    match opened.dropLast with
    | first :: others => (isZone first || isKeyed first) && others.all isKeyed
    | [] => true

/-- Reads a time. -/
def ofText? (text : String) : Option Time := do
  let (date, rest) ← date? text.toList
  match rest with
  | c :: rest =>
    if c = 'T' ∨ c = 't' ∨ c = ' ' then
      let (reading, rest) ← reading? rest
      let (offset, rest) ← offset? rest
      if areAnnotations rest then ofLocal? date reading.clock reading.nanosecond offset else none
    else none
  | [] => none

end Rollout.Kube.Time
