import DocQuery.Calendar.Date
import DocQuery.Number.Decimal

/-!
# Dates and times as written

A stamp is a year and a month, an optional day, an optional separator and an optional time of day
with an optional zone: `2016-03`, `2016-03-01`, `2016-03-01T10:30:00.5+02:00`.

* `Stamp.read?`: the stamp that is the whole text. Each part has a fixed width but the fraction.
* `Stamp.millis?`: its instant. Missing parts are the start of their period; there is none when the
  month has no such day or the zone is a day or more away.
* `nanosOfFraction`: the fraction of a second in nanoseconds.
-/

namespace DocQuery

/-! ## Parts -/

/-- Takes a number of exactly `width` digits between `low` and `high` from the front of a text. -/
def field? (width low high : Nat) (text : Text) : Option (Nat × Text) :=
  let digits := text.take width
  let n := digitsValue digits
  if digits.length = width && digits.all Char.isDigit && low ≤ n && n ≤ high then
    some (n, text.drop width)
  else none

/-- Takes one given character from the front of a text. -/
def mark? (c : Char) : Text → Option Text
  | [] => none
  | d :: rest => if d = c then some rest else none

/-- Takes a point with one or more digits behind it from the front of a text, if it begins with a
point. -/
def readFraction? : Text → Option (Option Text × Text)
  | '.' :: rest =>
    let (digits, rest) := rest.span Char.isDigit
    if digits.isEmpty then none else some (some digits, rest)
  | text => some (none, text)

/-- The nanoseconds that the digits behind the point of a second write. Digits past the ninth are
dropped. -/
def nanosOfFraction (digits : Text) : Nat :=
  digitsValue (digits.take 9) * powerOfTen (9 - (digits.take 9).length)

/-- A zone: universal time, or ahead of it or behind it by hours and minutes. -/
inductive Zone where
  | utc
  | offset (behind : Bool) (hours minutes : Nat)
deriving DecidableEq, Repr

/-- The seconds that clocks in a zone are ahead of universal time. -/
def Zone.seconds : Zone → Int
  | utc => 0
  | offset behind hours minutes => signed behind ((hours * 60 + minutes) * 60)

/-- A second with the digits of its fraction. -/
structure Seconds where
  second : Nat
  fraction : Option Text
deriving DecidableEq, Repr

/-- The nanoseconds beyond the full second. -/
def Seconds.nanos (s : Seconds) : Nat := (s.fraction.map nanosOfFraction).getD 0

/-- A time of day with an optional second and an optional zone. -/
structure Clock where
  hour : Nat
  minute : Nat
  seconds : Option Seconds
  zone : Option Zone
deriving DecidableEq, Repr

/-- The second of the day. -/
def Clock.secondOfDay (c : Clock) : Nat :=
  (c.hour * 60 + c.minute) * 60 + (c.seconds.map Seconds.second).getD 0

/-- A date and a time as written. -/
structure Stamp where
  year : Nat
  month : Nat
  day : Option Nat
  /-- What stands between the date and the time, or after the date. -/
  separator : Option Char
  clock : Option Clock
deriving DecidableEq, Repr

/-! ## Reading -/

/-- Takes a colon and a second from the front of a text, if it begins with a colon. -/
def readSeconds? : Text → Option (Option Seconds × Text)
  | ':' :: rest => do
    let (second, rest) ← field? 2 0 59 rest
    let (fraction, rest) ← readFraction? rest
    return (some ⟨second, fraction⟩, rest)
  | text => some (none, text)

/-- Hours and minutes of a zone up to the end of the text. -/
def readOffset? (behind : Bool) (text : Text) : Option Zone := do
  let (hours, rest) ← field? 2 0 99 text
  let rest ← mark? ':' rest
  let (minutes, rest) ← field? 2 0 99 rest
  if rest.isEmpty then some (.offset behind hours minutes) else none

/-- The zone that is the rest of a text, which may be empty. -/
def readZone? : Text → Option (Option Zone)
  | [] => some none
  | ['Z'] => some (some .utc)
  | '+' :: rest => (readOffset? false rest).map some
  | '-' :: rest => (readOffset? true rest).map some
  | _ => none

/-- The time of day that is the rest of a text, which may be empty. -/
def readClock? : Text → Option (Option Clock)
  | [] => some none
  | text => do
    let (hour, rest) ← field? 2 0 23 text
    let rest ← mark? ':' rest
    let (minute, rest) ← field? 2 0 59 rest
    let (seconds, rest) ← readSeconds? rest
    let zone ← readZone? rest
    return some ⟨hour, minute, seconds, zone⟩

/-- Takes a hyphen and a day from the front of a text, if it begins with a hyphen. -/
def readDay? : Text → Option (Option Nat × Text)
  | '-' :: rest => (field? 2 1 31 rest).map fun (day, rest) => (some day, rest)
  | text => some (none, text)

/-- Takes a separator from the front of a text, if there is one. -/
def readSeparator : Text → Option Char × Text
  | 'T' :: rest => (some 'T', rest)
  | ' ' :: rest => (some ' ', rest)
  | text => (none, text)

/-- The stamp that is the whole text. -/
def Stamp.read? (text : Text) : Option Stamp := do
  let (year, rest) ← field? 4 1000 2999 text
  let rest ← mark? '-' rest
  let (month, rest) ← field? 2 1 12 rest
  let (day, rest) ← readDay? rest
  let (separator, rest) := readSeparator rest
  let clock ← readClock? rest
  return ⟨year, month, day, separator, clock⟩

/-! ## Meaning -/

namespace Stamp

/-- The date, on the first day of the month if no day is written. -/
def date (s : Stamp) : Date := ⟨s.year, s.month, s.day.getD 1⟩

/-- The second of the day, the first one if no time is written. -/
def secondOfDay (s : Stamp) : Nat := (s.clock.map Clock.secondOfDay).getD 0

/-- The nanoseconds beyond the full second. -/
def nanos (s : Stamp) : Nat := ((s.clock.bind Clock.seconds).map Seconds.nanos).getD 0

/-- The zone, universal time if none is written. -/
def zone (s : Stamp) : Zone := (s.clock.bind Clock.zone).getD .utc

/-- The instant in milliseconds since the epoch. -/
def millis? (s : Stamp) : Option Int :=
  if s.date.IsValid ∧ s.zone.seconds.natAbs < 86400 then
    some (instant s.date s.secondOfDay s.nanos s.zone.seconds)
  else none

end Stamp

end DocQuery
