import RouteHelpers.Text.Basic

/-!
Dates and points in time, as manifests and option files can hold them.
-/

namespace RouteHelpers

/-- A time of day, to the microsecond, with the offset from universal time in seconds if one was
given. -/
structure TimeOfDay where
  hour : Nat
  minute : Nat
  second : Nat
  microsecond : Nat
  offset : Option Int
  deriving DecidableEq, Repr, Inhabited

/-- A date, or a point in time when a time of day is given. -/
structure Timestamp where
  year : Nat
  month : Nat
  day : Nat
  time : Option TimeOfDay
  deriving DecidableEq, Repr, Inhabited

namespace Timestamp

/-- A number with zeros on its left up to a width. -/
private def digits (width n : Nat) : String :=
  Text.repeated (width - (toString n).length) "0" ++ toString n

/-- An offset as sign, hours, minutes and, where needed, seconds. -/
private def offsetText (offset : Int) : String :=
  let n := offset.natAbs
  let sign := if offset < 0 then "-" else "+"
  let seconds := if n % 60 = 0 then "" else ":" ++ digits 2 (n % 60)
  sign ++ digits 2 (n / 3600) ++ ":" ++ digits 2 (n / 60 % 60) ++ seconds

/-- The date with dashes; for a point in time, a separator and the time with colons follow. -/
def isoText (separator : String) (t : Timestamp) : String :=
  let date := digits 4 t.year ++ "-" ++ digits 2 t.month ++ "-" ++ digits 2 t.day
  match t.time with
  | none => date
  | some d =>
    let fraction := if d.microsecond = 0 then "" else "." ++ digits 6 d.microsecond
    date ++ separator ++ digits 2 d.hour ++ ":" ++ digits 2 d.minute ++ ":" ++ digits 2 d.second ++
      fraction ++ (d.offset.map offsetText).getD ""

/-- The name of an offset as a value of its own. -/
private def zoneLiteral (offset : Int) : String :=
  if offset = 0 then "datetime.timezone.utc"
  else
    let days := Int.fdiv offset 86400
    let seconds := Int.fmod offset 86400
    let parts := (if days = 0 then [] else ["days=" ++ toString days]) ++
      (if seconds = 0 then [] else ["seconds=" ++ toString seconds])
    "datetime.timezone(datetime.timedelta(" ++ Text.joinWith ", " parts ++ "))"

/-- A date or point in time as messages show it inside other values. -/
def literal (t : Timestamp) : String :=
  let date := [toString t.year, toString t.month, toString t.day]
  match t.time with
  | none => "datetime.date(" ++ Text.joinWith ", " date ++ ")"
  | some d =>
    let time := [toString d.hour, toString d.minute] ++
      (if d.second = 0 && d.microsecond = 0 then [] else [toString d.second]) ++
      (if d.microsecond = 0 then [] else [toString d.microsecond])
    let zone := (d.offset.map fun o => ["tzinfo=" ++ zoneLiteral o]).getD []
    "datetime.datetime(" ++ Text.joinWith ", " (date ++ time ++ zone) ++ ")"

/-! ### Comparison -/

/-- The number of a day, one more for each day that it is later. A year is taken to begin in March, so
that the day a leap year adds is its last. -/
private def dayNumber (t : Timestamp) : Nat :=
  let year := if t.month ≤ 2 then t.year - 1 else t.year
  let month := (t.month + 9) % 12
  365 * year + year / 4 - year / 100 + year / 400 + (153 * month + 2) / 5 + t.day

/-- The microseconds from a fixed point to a point in time; nothing for one without an offset. -/
private def instant? (t : Timestamp) : Option Int := do
  let d ← t.time
  let offset ← d.offset
  let seconds := ((dayNumber t * 24 + d.hour) * 60 + d.minute) * 60 + d.second
  some ((Int.ofNat seconds - offset) * 1000000 + Int.ofNat d.microsecond)

/-- Whether two dates or points in time are the same. Points with offsets are compared across these. -/
def isSame (a b : Timestamp) : Bool :=
  match a.instant?, b.instant? with
  | some x, some y => x == y
  | none, none => a == b
  | _, _ => false

end Timestamp
end RouteHelpers
