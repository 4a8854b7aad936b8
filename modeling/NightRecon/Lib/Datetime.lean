import NightRecon.Lib.Text

/-!
# ISO-8601 timestamps

The documented reading of `datetime.fromisoformat`: a calendar or week date, one separator
character, a time of day with an optional fraction, and an optional UTC offset.  All arithmetic
is on integers, in microseconds; the day count is that of the proleptic Gregorian calendar, with
day 1 the first of January of year 1.

* `fromisoformat` — a text read as a `DateTime`: wall-clock reading and optional UTC offset;
* `Timestamp` — a text that reads as a timestamp with an offset, together with its reading; two
  timestamps compare by `Timestamp.time`, the instant they denote;
* `Timestamp.ofText` — the check that builds one (`ofText_text`);
* `DateTime.addSeconds` — adding a duration, within years 1 to 9999.
-/

namespace NightRecon.Lib.Datetime

open NightRecon.Lib.Text

/-! ## The calendar -/

def isLeap (year : Nat) : Bool := year % 4 == 0 && (year % 100 != 0 || year % 400 == 0)

/-- Days before the first of January of `year`. -/
def daysBeforeYear (year : Nat) : Nat :=
  let y := year - 1
  y * 365 + y / 4 - y / 100 + y / 400

def daysInMonth (year month : Nat) : Nat :=
  if month = 2 then (if isLeap year then 29 else 28)
  else if month = 4 ∨ month = 6 ∨ month = 9 ∨ month = 11 then 30 else 31

def daysBeforeMonth (year month : Nat) : Nat :=
  (List.range (month - 1)).foldl (fun days m => days + daysInMonth year (m + 1)) 0

/-- The last representable day, 9999-12-31. -/
def maxOrdinal : Nat := 3652059

/-- The day number of a calendar date. -/
def ymdOrdinal (year month day : Nat) : Option Nat :=
  if 1 ≤ year ∧ 1 ≤ month ∧ month ≤ 12 ∧ 1 ≤ day ∧ day ≤ daysInMonth year month then
    some (daysBeforeYear year + daysBeforeMonth year month + day)
  else none

/-- The day number of the Monday that starts ISO week 1. -/
def isoWeek1Monday (year : Nat) : Nat :=
  let firstday := daysBeforeYear year + 1
  let firstweekday := (firstday + 6) % 7
  if 3 < firstweekday then firstday - firstweekday + 7 else firstday - firstweekday

/-- The day number of an ISO week date. -/
def isoWeekOrdinal (year week day : Nat) : Option Nat :=
  let firstWeekday := (daysBeforeYear year + 1) % 7
  let long := firstWeekday == 4 || (firstWeekday == 3 && isLeap year)
  let n := isoWeek1Monday year + (week - 1) * 7 + (day - 1)
  if 1 ≤ year ∧ 1 ≤ week ∧ (week ≤ 52 ∨ (week = 53 ∧ long)) ∧ 1 ≤ day ∧ day ≤ 7 ∧
      1 ≤ n ∧ n ≤ maxOrdinal then
    some n
  else none

/-! ## Reading digits -/

/-- Exactly `n` decimal digits off the front. -/
def takeDigits (n : Nat) (l : List Char) : Option (Nat × List Char) :=
  let ds := l.take n
  if ds.length = n ∧ ds.all isDigit then some (digitsVal ds, l.drop n) else none

/-! ## The date part -/

/-- Where the date part ends: `YYYY-MM-DD`, `YYYYMMDD`, and the week forms, whose end depends on
what follows. -/
def separatorIndex (s : List Char) : Option Nat :=
  if s.length < 7 then none
  else if s.length = 7 then some 7
  else if s.getD 4 ' ' = '-' then
    if s.getD 5 ' ' = 'W' then
      if s.getD 8 ' ' = '-' then
        if s.length = 9 then none
        else if isDigit (s.getD 10 ' ') then some 8 else some 10
      else some 8
    else some 10
  else if s.getD 4 ' ' = 'W' then
    -- `YYYYWww` or `YYYYWwwD`, told apart by the run of digits
    let idx := 7 + ((s.drop 7).takeWhile isDigit).length
    if idx < 9 then some idx else if idx % 2 = 0 then some 7 else some 8
  else some 8

/-- A week date after its year: `Www`, `Www-D` or `WwwD`. -/
def readWeek (year : Nat) (dashed : Bool) (l : List Char) : Option Nat := do
  let (week, rest) ← takeDigits 2 l
  match dashed, rest with
  | _, [] => isoWeekOrdinal year week 1
  | true, '-' :: d => do
      let (day, rest) ← takeDigits 1 d
      if rest = [] then isoWeekOrdinal year week day else none
  | true, _ => none
  | false, d => do
      let (day, rest) ← takeDigits 1 d
      if rest = [] then isoWeekOrdinal year week day else none

/-- A date, as its day number. -/
def readDate (l : List Char) : Option Nat := do
  let (year, rest) ← takeDigits 4 l
  match rest with
  | '-' :: 'W' :: w => readWeek year true w
  | 'W' :: w => readWeek year false w
  | '-' :: r => do
      let (month, r) ← takeDigits 2 r
      match r with
      | '-' :: r => do
          let (day, r) ← takeDigits 2 r
          if r = [] then ymdOrdinal year month day else none
      | _ => none
  | r => do
      let (month, r) ← takeDigits 2 r
      let (day, r) ← takeDigits 2 r
      if r = [] then ymdOrdinal year month day else none

/-! ## The time part -/

/-- A time of day or an offset: hours, minutes, seconds and microseconds. -/
structure Clock where
  hour : Nat
  minute : Nat
  second : Nat
  micro : Nat

/-- The length of a clock reading in microseconds. -/
def Clock.micros (c : Clock) : Int :=
  ((c.hour * 60 + c.minute) * 60 + c.second) * 1000000 + c.micro

/-- A fraction of a second, cut to microseconds. -/
def readFraction : List Char → Option Nat
  | [] => some 0
  | c :: ds =>
      if (c = '.' ∨ c = ',') ∧ ds ≠ [] ∧ ds.all isDigit then
        some (digitsVal ((ds ++ List.replicate 6 '0').take 6))
      else none

/-- A two-digit component, after its colon when the reading uses colons. -/
def readComponent (colons : Bool) (l : List Char) : Option (Nat × List Char) :=
  match colons, l with
  | true, ':' :: r => takeDigits 2 r
  | true, _ => none
  | false, r => takeDigits 2 r

/-- `HH[:MM[:SS[.f+]]]` or `HH[MM[SS[.f+]]]`. -/
def readClock (l : List Char) : Option Clock := do
  let (hour, r) ← takeDigits 2 l
  if r = [] then
    return ⟨hour, 0, 0, 0⟩
  let colons := r.head? == some ':'
  let (minute, r) ← readComponent colons r
  if r = [] then
    return ⟨hour, minute, 0, 0⟩
  let (second, r) ← readComponent colons r
  let micro ← readFraction r
  return ⟨hour, minute, second, micro⟩

/-- One day in microseconds. -/
def dayMicros : Int := 86400000000

/-- A UTC offset, after its sign; it must stay below one day. -/
def readOffset (sign : Int) (l : List Char) : Option Int := do
  let c ← readClock l
  if c.micros < dayMicros then some (sign * c.micros) else none

/-- A time of day followed by an optional `Z` or signed offset. -/
def readTime (l : List Char) : Option (Int × Option Int) := do
  let isZone : Char → Bool := fun c => c == '+' || c == '-' || c == 'Z'
  let clock ← readClock (l.takeWhile fun c => !isZone c)
  if 24 ≤ clock.hour ∨ 60 ≤ clock.minute ∨ 60 ≤ clock.second then
    none
  else
    match l.dropWhile fun c => !isZone c with
    | [] => some (clock.micros, none)
    | 'Z' :: rest => if rest = [] then some (clock.micros, some 0) else none
    | '-' :: rest => (readOffset (-1) rest).map fun o => (clock.micros, some o)
    | _ :: rest => (readOffset 1 rest).map fun o => (clock.micros, some o)

/-! ## Timestamps -/

/-- A wall-clock reading and its UTC offset, in microseconds. -/
structure DateTime where
  wall : Int
  offset : Option Int
  deriving DecidableEq

/-- `datetime.fromisoformat`. -/
def fromisoformat (s : String) : Option DateTime := do
  let l := s.toList
  let i ← separatorIndex l
  let day ← readDate (l.take i)
  match l.drop (i + 1) with
  | [] => some ⟨day * dayMicros, none⟩
  | t => do
      let (clock, offset) ← readTime t
      some ⟨day * dayMicros + clock, offset⟩

/-- `value.replace("Z", "+00:00")`. -/
def replaceZ (s : String) : String :=
  String.ofList (s.toList.flatMap fun c => if c = 'Z' then "+00:00".toList else [c])

/-- Adding whole seconds to a wall-clock reading; `none` when the result leaves years 1 to 9999. -/
def addSeconds (wall : Int) (seconds : Nat) : Option Int :=
  let w := wall + seconds * 1000000
  if seconds / 86400 ≤ 999999999 ∧ w < (maxOrdinal + 1) * dayMicros then some w else none

/-- **A text that denotes an instant**: it is nonblank and trimmed, and reads as a date and time
with a UTC offset. -/
structure Timestamp where
  text : String
  wall : Int
  offset : Int
  required : requiredText text
  parsed : fromisoformat (replaceZ text) = some ⟨wall, some offset⟩
  deriving DecidableEq

namespace Timestamp

/-- The instant a timestamp denotes. -/
def time (t : Timestamp) : Int := t.wall - t.offset

/-- The instant `seconds` after a timestamp. -/
def after (t : Timestamp) (seconds : Nat) : Option Int :=
  (addSeconds t.wall seconds).map fun w => w - t.offset

/-- The timestamp with a given text. -/
def ofText (s : String) : Option Timestamp :=
  if hr : requiredText s then
    match hp : fromisoformat (replaceZ s) with
    | some ⟨wall, some offset⟩ => some ⟨s, wall, offset, hr, hp⟩
    | _ => none
  else none

/-- A timestamp is determined by its text. -/
theorem ext_text {s t : Timestamp} (h : s.text = t.text) : s = t := by
  obtain ⟨sx, sw, so, _, hs⟩ := s
  obtain ⟨tx, tw, tz, _, ht⟩ := t
  simp only at h
  subst h
  rw [hs] at ht
  simp only [Option.some.injEq, DateTime.mk.injEq] at ht
  obtain ⟨rfl, rfl⟩ := ht
  rfl

@[simp] theorem ofText_text (t : Timestamp) : ofText t.text = some t := by
  have hex : ∃ u, ofText t.text = some u ∧ u.text = t.text := by
    unfold ofText
    rw [dif_pos t.required]
    split
    · exact ⟨_, rfl, rfl⟩
    · next h => exact absurd t.parsed (h _ _)
  obtain ⟨u, hu, htext⟩ := hex
  rw [hu, ext_text htext]

theorem text_of_ofText {s : String} {t : Timestamp} (h : ofText s = some t) : t.text = s := by
  unfold ofText at h
  split at h
  · split at h
    · simp only [Option.some.injEq] at h
      rw [← h]
    · simp at h
  · simp at h

/-- A text known to denote an instant. -/
def read (s : String) (h : (ofText s).isSome = true) : Timestamp := (ofText s).get h

theorem ofText_eq_read {s : String} (h : (ofText s).isSome = true) : ofText s = some (read s h) :=
  (Option.some_get h).symm

end Timestamp

example : (Timestamp.ofText "2026-03-01T12:30:00Z").map Timestamp.time =
    (Timestamp.ofText "20260301T133000.0+01:00").map Timestamp.time := by decide +kernel

end NightRecon.Lib.Datetime
