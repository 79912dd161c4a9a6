import DocQuery.Calendar.Stamp

/-!
# Complete date-times

A complete date-time has all parts down to the second and a zone with less than sixty minutes:
`2016-03-01T10:30:00.5+02:00`.

* `Rfc3339.read?`: the complete date-time that is the whole text.
* `Rfc3339.millis?`: its instant in milliseconds since the epoch.
-/

namespace DocQuery.Rfc3339

/-- Takes what may stand between the date and the time from the front of a text. -/
def separator? : Text → Option Text
  | c :: rest => if c = 'T' || c = 't' || c = ' ' then some rest else none
  | [] => none

/-- Hours and minutes of a zone up to the end of the text. -/
def offset? (behind : Bool) (text : Text) : Option Zone := do
  let (hours, rest) ← field? 2 0 99 text
  let rest ← mark? ':' rest
  let (minutes, rest) ← field? 2 0 59 rest
  if rest.isEmpty then some (.offset behind hours minutes) else none

/-- The zone that is the rest of a text. -/
def zone? : Text → Option Zone
  | '+' :: rest => offset? false rest
  | '-' :: rest => offset? true rest
  | text => if text = ['Z'] || text = ['z'] then some .utc else none

/-- A complete date-time by its parts. -/
structure Parts where
  date : Date
  hour : Nat
  minute : Nat
  second : Nat
  /-- The digits behind the point, if there is one. -/
  fraction : Option Text
  zone : Zone
deriving DecidableEq, Repr

/-- The complete date-time that is the whole text, given what may stand between the date and the
time and the last second that a minute may have. -/
def read? (separator? : Text → Option Text) (lastSecond : Nat) (text : Text) : Option Parts := do
  let (year, rest) ← field? 4 0 9999 text
  let rest ← mark? '-' rest
  let (month, rest) ← field? 2 1 12 rest
  let rest ← mark? '-' rest
  let (day, rest) ← field? 2 1 31 rest
  let rest ← separator? rest
  let (hour, rest) ← field? 2 0 23 rest
  let rest ← mark? ':' rest
  let (minute, rest) ← field? 2 0 59 rest
  let rest ← mark? ':' rest
  let (second, rest) ← field? 2 0 lastSecond rest
  let (fraction, rest) ← readFraction? rest
  let zone ← zone? rest
  return ⟨⟨year, month, day⟩, hour, minute, second, fraction, zone⟩

namespace Parts

/-- The day is one of its month and the zone less than a day away from universal time. -/
def IsPossible (p : Parts) : Prop := p.date.IsValid ∧ p.zone.seconds.natAbs < 86400

instance (p : Parts) : Decidable p.IsPossible := by unfold IsPossible; infer_instance

/-- The nanoseconds beyond the full second. -/
def nanos (p : Parts) : Nat := (p.fraction.map nanosOfFraction).getD 0

end Parts

/-- The instant of the complete date-time that is the whole text. -/
def millis? (text : Text) : Option Int := do
  let p ← read? separator? 59 text
  if p.IsPossible then
    some (instant p.date ((p.hour * 60 + p.minute) * 60 + p.second) p.nanos p.zone.seconds)
  else none

end DocQuery.Rfc3339
