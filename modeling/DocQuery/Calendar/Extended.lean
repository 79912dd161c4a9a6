import DocQuery.Calendar.Rfc3339

/-!
# Dates of extended documents

The date of an extended document is a complete date-time with three differences: any character of
ASCII may stand between the date and the time, the last minute of a month may have a leap second,
and a part of a millisecond is dropped towards the epoch.

* `ExtendedDate.millis?`: its instant in milliseconds since the epoch. A leap second stands for the
  last nanosecond before it.
-/

namespace DocQuery.ExtendedDate

open Rfc3339

/-- Takes any character of ASCII from the front of a text. -/
def anySeparator? : Text → Option Text
  | c :: rest => if c.toNat < 128 then some rest else none
  | [] => none

/-- Whether a date-time stands on a leap second. -/
def isLeap (p : Parts) : Bool := p.second = 60

/-- The second since the epoch in universal time. It is the one before a leap second. -/
def secondOf (p : Parts) : Int :=
  p.date.dayNumber * 86400 +
    ((p.hour * 60 + p.minute) * 60 + if isLeap p then 59 else p.second : Nat) - p.zone.seconds

/-- The nanoseconds beyond that second. A leap second is the last one of them. -/
def nanosOf (p : Parts) : Nat := if isLeap p then 999999999 else p.nanos

/-- Whether the second is the last one before the month or the last one of the month. A zone is less
than a day away from universal time, so that no other month can end there. -/
def endsMonth (p : Parts) : Bool :=
  let first := (Date.mk p.date.year p.date.month 1).dayNumber
  secondOf p + 1 = first * 86400 ||
    secondOf p + 1 = (first + monthLength p.date.year p.date.month) * 86400

/-- The instant of the complete date-time that is the whole text. -/
def millis? (text : Text) : Option Int := do
  let p ← read? anySeparator? 60 text
  if p.IsPossible ∧ (isLeap p = true → endsMonth p = true) then
    some ((secondOf p * 1000000000 + nanosOf p).tdiv 1000000)
  else none

end DocQuery.ExtendedDate
