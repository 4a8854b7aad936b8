import NightRecon.Lib.Datetime

/-!
# Writing ISO-8601 timestamps

The documented text of `datetime.isoformat`.

* `calendarDate` — the year, month and day of a day number;
* `isoformat` — the text of a date and time, with its UTC offset.
-/

namespace NightRecon.Lib.Datetime

/-- The month and the day of a day of the year, both counted from one.  `days` counts from zero. -/
def monthAndDay (year : Nat) : Nat → Nat → Nat → Nat × Nat
  | 0, month, days => (month, days + 1)
  | fuel + 1, month, days =>
      if days < daysInMonth year month then (month, days + 1)
      else monthAndDay year fuel (month + 1) (days - daysInMonth year month)

/-- The year, month and day of a day number: 400-year, 100-year and 4-year cycles are taken off
one after another. -/
def calendarDate (ordinal : Nat) : Nat × Nat × Nat :=
  let n := ordinal - 1
  let n400 := n / 146097
  let n := n % 146097
  let n100 := n / 36524
  let n := n % 36524
  let n4 := n / 1461
  let n := n % 1461
  let n1 := n / 365
  let days := n % 365
  let year := n400 * 400 + n100 * 100 + n4 * 4 + n1 + 1
  -- the last day of a 400-year or 4-year cycle
  if n1 = 4 ∨ n100 = 4 then (year - 1, 12, 31) else (year, monthAndDay year 11 1 days)

/-- A number in at least `width` digits. -/
def padded (width n : Nat) : List Char :=
  let digits := (toString n).toList
  List.replicate (width - digits.length) '0' ++ digits

/-- Hours, minutes and seconds, with microseconds when there are some. -/
def clockText (micros : Nat) : List Char :=
  let seconds := micros / 1000000
  let fraction := micros % 1000000
  padded 2 (seconds / 3600) ++ ':' :: padded 2 (seconds / 60 % 60) ++ ':' :: padded 2 (seconds % 60) ++
    if fraction = 0 then [] else '.' :: padded 6 fraction

/-- A UTC offset; its seconds are written when there are some. -/
def offsetText (offset : Int) : List Char :=
  let micros := offset.natAbs
  (if offset < 0 then '-' else '+') ::
    if micros % 60000000 = 0 then
      padded 2 (micros / 3600000000) ++ ':' :: padded 2 (micros / 60000000 % 60)
    else clockText micros

/-- `datetime.isoformat`. -/
def isoformat (d : DateTime) : String :=
  let date := calendarDate (d.wall / dayMicros).toNat
  String.ofList (padded 4 date.1 ++ '-' :: padded 2 date.2.1 ++ '-' :: padded 2 date.2.2 ++
    'T' :: clockText (d.wall % dayMicros).toNat ++ (d.offset.elim [] offsetText))

example : (fromisoformat "2024-02-29T23:05:07.000120-03:30").map isoformat =
    some "2024-02-29T23:05:07.000120-03:30" := by
  decide +kernel

end NightRecon.Lib.Datetime
