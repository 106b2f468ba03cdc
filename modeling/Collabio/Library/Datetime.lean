import Mathlib.Tactic
import Collabio.Library.Text

/-!
# Dates, times and ISO 8601 texts

The proleptic Gregorian calendar of Python's `datetime`: a date carries the
proof that it exists, a datetime has an optional offset from UTC.

* `fromisoformat` — `datetime.fromisoformat`, for the calendar and week date
  forms, an arbitrary separator character, and ASCII digits;
* `instant`       — the point in time of a datetime, in microseconds;
* `addDays`       — `+ timedelta(days=n)`, which fails past the year 9999;
* `isoformatSeconds` — `isoformat()` of a UTC datetime without microseconds.
-/

namespace Datetime

/-! ## Calendar -/

def isLeap (year : Nat) : Bool := year % 4 == 0 && (year % 100 != 0 || year % 400 == 0)

def daysInMonth (year month : Nat) : Nat :=
  match month with
  | 2 => if isLeap year then 29 else 28
  | 4 | 6 | 9 | 11 => 30
  | _ => 31

/-- A date of the years 1 to 9999. -/
structure Date where
  year  : Nat
  month : Nat
  day   : Nat
  valid : 1 ≤ year ∧ year ≤ 9999 ∧ 1 ≤ month ∧ month ≤ 12 ∧
    1 ≤ day ∧ day ≤ daysInMonth year month
  deriving DecidableEq, Repr

/-- The constructor `date(year, month, day)`, which rejects dates that do not exist. -/
def Date.make? (year month day : Nat) : Option Date :=
  if h : _ then some ⟨year, month, day, h⟩ else none

def daysBeforeYear (year : Nat) : Nat :=
  let y := year - 1
  y * 365 + y / 4 - y / 100 + y / 400

def daysBeforeMonth (year month : Nat) : Nat :=
  ((List.range (month - 1)).map fun m => daysInMonth year (m + 1)).sum

/-- `_ymd2ord`: day 1 is the first of January of year 1. -/
def ymdToOrdinal (year month day : Nat) : Nat :=
  daysBeforeYear year + daysBeforeMonth year month + day

def Date.toOrdinal (d : Date) : Nat := ymdToOrdinal d.year d.month d.day

/-- The month that day `n` (from 0) of a year falls into, and its day. -/
def monthOfDay (year : Nat) : Nat → Nat → Nat → Nat × Nat
  | 0, month, n => (month, n + 1)
  | fuel + 1, month, n =>
    if daysInMonth year month ≤ n then monthOfDay year fuel (month + 1) (n - daysInMonth year month)
    else (month, n + 1)

/-- `_ord2ymd`, by 400-, 100-, 4- and 1-year cycles. -/
def ordinalToYmd (ordinal : Nat) : Nat × Nat × Nat :=
  let n := ordinal - 1
  let n400 := n / 146097
  let n := n % 146097
  let n100 := n / 36524
  let n := n % 36524
  let n4 := n / 1461
  let n := n % 1461
  let n1 := n / 365
  let year := n400 * 400 + 1 + n100 * 100 + n4 * 4 + n1
  if n1 = 4 ∨ n100 = 4 then (year - 1, 12, 31)
  else
    let (month, day) := monthOfDay year 11 1 (n % 365)
    (year, month, day)

/-- `date.fromordinal`. -/
def Date.ofOrdinal? (ordinal : Nat) : Option Date :=
  let (year, month, day) := ordinalToYmd ordinal
  Date.make? year month day

/-- `_isoweek_to_gregorian`. -/
def isoweekToGregorian (year week day : Nat) : Option Date :=
  let firstday := ymdToOrdinal year 1 1
  let firstWeekday := (firstday + 6) % 7
  let lastWeek := if firstWeekday = 3 ∨ (firstWeekday = 2 ∧ isLeap year) then 53 else 52
  let week1Monday := if 3 < firstWeekday then firstday - firstWeekday + 7 else firstday - firstWeekday
  if 1 ≤ year ∧ 1 ≤ week ∧ week ≤ lastWeek ∧ 1 ≤ day ∧ day ≤ 7 then
    Date.ofOrdinal? (week1Monday + (week - 1) * 7 + (day - 1))
  else none

/-! ## Datetimes -/

/-- `utcoffset` is in microseconds; a naive datetime has none. -/
structure DateTime where
  date        : Date
  hour        : Nat
  minute      : Nat
  second      : Nat
  microsecond : Nat
  utcoffset   : Option Int
  deriving DecidableEq, Repr

/-- The point in time, in microseconds; a naive datetime counts as UTC. -/
def DateTime.instant (t : DateTime) : Int :=
  (((t.date.toOrdinal * 24 + t.hour) * 60 + t.minute) * 60 + t.second) * 1000000 +
    t.microsecond - t.utcoffset.getD 0

/-- `t + timedelta(days=n)`; `none` is the OverflowError. -/
def DateTime.addDays (t : DateTime) (n : Nat) : Option DateTime :=
  (Date.ofOrdinal? (t.date.toOrdinal + n)).map fun date => { t with date }

/-! ## Reading -/

/-- Exactly `n` digits. -/
def parseDigits (n : Nat) (l : List Char) : Option (Nat × List Char) :=
  if (l.take n).length = n then (Text.decimal? (l.take n)).map (·, l.drop n) else none

/-- A separator that is there if and only if `hasSep`. -/
def parseSeparator (c : Char) (hasSep : Bool) (l : List Char) : Option (List Char) :=
  if (l.head? == some c) = hasSep then some (if hasSep then l.drop 1 else l) else none

/-- `_find_isoformat_datetime_separator`. -/
def findSeparator (s : List Char) : Option Nat :=
  if s.length = 7 then some 7
  else if s[4]? = some '-' then
    if s[5]? = some 'W' then
      if s[8]? = some '-' then
        if s.length = 9 then none
        else if (s[10]?.any Text.isAsciiDigit) then some 8
        else some 10
      else some 8
    else some 10
  else if s[4]? = some 'W' then
    let idx := 7 + ((s.drop 7).takeWhile Text.isAsciiDigit).length
    if idx < 9 then some idx
    else if idx % 2 = 0 then some 7
    else some 8
  else some 8

/-- `_parse_isoformat_date`. -/
def parseDate (s : List Char) : Option Date := do
  let (year, rest) ← parseDigits 4 s
  let hasSep := rest.head? == some '-'
  let rest ← parseSeparator '-' hasSep rest
  if rest.head? = some 'W' then
    let (week, rest) ← parseDigits 2 (rest.drop 1)
    if rest = [] then isoweekToGregorian year week 1
    else
      let rest ← parseSeparator '-' hasSep rest
      let (day, _) ← parseDigits 1 rest
      isoweekToGregorian year week day
  else
    let (month, rest) ← parseDigits 2 rest
    let rest ← parseSeparator '-' hasSep rest
    let (day, _) ← parseDigits 2 rest
    Date.make? year month day

/-- The digits after a decimal mark, as microseconds; digits past the sixth are cut. -/
def parseFraction : List Char → Option Nat
  | [] => some 0
  | mark :: digits =>
    if (mark = '.' ∨ mark = ',') ∧ digits ≠ [] ∧ digits.all Text.isAsciiDigit then
      Text.decimal? ((digits ++ ['0', '0', '0', '0', '0']).take 6)
    else none

/-- `_parse_hh_mm_ss_ff`: hours, then minutes, seconds and fraction, each optional. -/
def parseClock (s : List Char) : Option (Nat × Nat × Nat × Nat) := do
  let (hour, rest) ← parseDigits 2 s
  if rest = [] then return (hour, 0, 0, 0)
  let hasSep := rest.head? == some ':'
  let rest ← parseSeparator ':' hasSep rest
  let (minute, rest) ← parseDigits 2 rest
  if rest = [] then return (hour, minute, 0, 0)
  let rest ← parseSeparator ':' hasSep rest
  let (second, rest) ← parseDigits 2 rest
  let microsecond ← parseFraction rest
  return (hour, minute, second, microsecond)

/-- The offset after `+` or `-`: less than a day either way. -/
def parseOffset (negative : Bool) (s : List Char) : Option Int := do
  let (hours, minutes, seconds, microseconds) ← parseClock s
  let offset := ((hours * 60 + minutes) * 60 + seconds) * 1000000 + microseconds
  if offset < 24 * 60 * 60 * 1000000 then
    return if negative then -(offset : Int) else offset
  else none

/-- `_parse_isoformat_time`: a clock time and an optional offset. -/
def parseTime (date : Date) (s : List Char) : Option DateTime := do
  let isZone := fun c => c == '+' || c == '-' || c == 'Z'
  let (hour, minute, second, microsecond) ← parseClock (s.takeWhile (!isZone ·))
  let utcoffset ← match s.dropWhile (!isZone ·) with
    | [] => some none
    | 'Z' :: rest => if rest = [] then some (some 0) else none
    | sign :: rest => (parseOffset (sign == '-') rest).map some
  if hour < 24 ∧ minute < 60 ∧ second < 60 then
    return { date, hour, minute, second, microsecond, utcoffset }
  else none

/-- `datetime.fromisoformat`; `none` is the ValueError. -/
def fromisoformat (s : List Char) : Option DateTime :=
  if s.length < 7 then none
  else do
    let separator ← findSeparator s
    let date ← parseDate (s.take separator)
    match s.drop (separator + 1) with
    | [] => return { date, hour := 0, minute := 0, second := 0, microsecond := 0, utcoffset := none }
    | time => parseTime date time

/-! ## Writing -/

/-- `n` in at least `width` digits. -/
def padded (width n : Nat) : List Char :=
  List.replicate (width - (Text.natChars n).length) '0' ++ Text.natChars n

/-- `t.replace(microsecond=0).isoformat()` of a UTC datetime, without its offset. -/
def isoformatSeconds (t : DateTime) : List Char :=
  padded 4 t.date.year ++ '-' :: padded 2 t.date.month ++ '-' :: padded 2 t.date.day ++
    'T' :: padded 2 t.hour ++ ':' :: padded 2 t.minute ++ ':' :: padded 2 t.second

example : (fromisoformat "2026-02-28T23:59:59.5+00:00".toList).map (·.instant) =
    (fromisoformat "2026-W09-6T22:59:59,500-01:00".toList).map (·.instant) := by decide +kernel

end Datetime
