/-!
# Dates and times in TOML

A date or time is written as in RFC 3339: a local date `YYYY-MM-DD`, a local time
`HH:MM[:SS[.fraction]]`, or a date and a time joined by `T` or a space, the time
followed by an offset `Z` or `±HH:MM` or by nothing. Letters may be of either case.

A text is checked in the order it is read: it is cut into runs of digits and single
characters, each part is taken in turn, and the first one that is not what is wanted
is reported, as in "invalid date, expected `-` (MM-DD)". Only once a date (or a time)
has all its parts are the widths of its numbers checked and then their ranges: a month
from 01 to 12, a day up to the length of its month (29 days for February of a leap
year), an hour up to 23, a minute up to 59, a second up to 60, and an offset of at
most 23 hours and 59 minutes. Anything left over makes an invalid datetime.
-/

namespace ReflectCheck.Toml

/-- A part of a written date or time. -/
inductive DatetimeToken where
  /-- A run of decimal digits. -/
  | digits (ds : List Char)
  /-- `-`. -/
  | dash
  /-- `:`. -/
  | colon
  /-- `.`. -/
  | dot
  /-- `T` or `t`, between a date and a time. -/
  | tee
  /-- A space, between a date and a time. -/
  | space
  /-- `Z` or `z`, the offset of universal time. -/
  | zulu
  /-- `+`. -/
  | plus
  /-- Any other character. -/
  | other
  deriving DecidableEq, Inhabited

/-- Why a text is no date or time: what was being read (a date, a time, an offset) and
    what was wanted, when known. -/
structure DatetimeError where
  /-- What was being read. -/
  what : Option String
  /-- What was wanted. -/
  wanted : Option String
  deriving DecidableEq, Inhabited

namespace DatetimeError

/-- The message: `invalid WHAT, expected WANTED`, with `datetime` when nothing more
    precise is known. -/
def message (e : DatetimeError) : String :=
  "invalid " ++ e.what.getD "datetime" ++
    (match e.wanted with
      | some w => ", expected " ++ w
      | none => "")

end DatetimeError

namespace Datetime

/-- The token of a single character that is no digit. -/
def tokenOf (c : Char) : DatetimeToken :=
  if c = '-' then .dash
  else if c = ':' then .colon
  else if c = '.' then .dot
  else if c = 'T' || c = 't' then .tee
  else if c = ' ' then .space
  else if c = 'Z' || c = 'z' then .zulu
  else if c = '+' then .plus
  else .other

/-- The tokens of a text, in order: each run of digits is one token. -/
def tokens (cs : List Char) : List DatetimeToken :=
  (cs.foldl (fun acc c =>
    if c.isDigit then
      match acc with
      | .digits ds :: rest => .digits (ds ++ [c]) :: rest
      | _ => .digits [c] :: acc
    else tokenOf c :: acc) []).reverse

/-- The number digits write. -/
def value (ds : List Char) : Nat := ds.foldl (fun a c => 10 * a + (c.toNat - 48)) 0

/-- The failure of reading `what`, wanting `wanted`. -/
def fail {α : Type} (what : Option String) (wanted : String) : Except DatetimeError α :=
  .error ⟨what, some wanted⟩

/-- Take a run of digits, or fail wanting `wanted`. -/
def takeDigits (what : Option String) (wanted : String) :
    List DatetimeToken → Except DatetimeError (List Char × List DatetimeToken)
  | .digits ds :: rest => .ok (ds, rest)
  | _ => fail what wanted

/-- Take the token `t`, or fail wanting `wanted`. -/
def takeToken (t : DatetimeToken) (what : Option String) (wanted : String) :
    List DatetimeToken → Except DatetimeError (List DatetimeToken)
  | u :: rest => if u = t then .ok rest else fail what wanted
  | [] => fail what wanted

/-- Whether a year is a leap year of the Gregorian calendar. -/
def isLeapYear (y : Nat) : Bool := y % 4 = 0 && (y % 100 ≠ 0 || y % 400 = 0)

/-- The number of days of a month of a year, and how the wanted range is named. -/
def monthLength (y m : Nat) : Nat × String :=
  if m = 2 then
    if isLeapYear y then (29, "day between 01 and 29") else (28, "day between 01 and 28")
  else if m = 4 || m = 6 || m = 9 || m = 11 then (30, "day between 01 and 30")
  else (31, "day between 01 and 31")

/-- Check the year, month and day of a date, once all three were read. -/
def checkDate (year month day : List Char) : Except DatetimeError Unit :=
  let date := some "date"
  if year.length ≠ 4 then fail date "a four-digit year (YYYY)"
  else if month.length ≠ 2 then fail date "a two-digit month (MM)"
  else if day.length ≠ 2 then fail date "a two-digit day (DD)"
  else
    let m := value month
    let d := value day
    let (most, wanted) := monthLength (value year) m
    if m < 1 || 12 < m then fail date "month between 01 and 12"
    else if d < 1 || most < d then fail date wanted
    else .ok ()

/-- Read a time `HH:MM[:SS[.fraction]]` and check it; the tokens after it. -/
def checkTime (ts : List DatetimeToken) : Except DatetimeError (List DatetimeToken) := do
  let time := some "time"
  let (hour, r1) ← takeDigits time "hour" ts
  let r2 ← takeToken .colon time "`:` (HH:MM)" r1
  let (minute, r3) ← takeDigits time "minute" r2
  let (second, r4) ← match r3 with
    | .colon :: r => do
      let (s, r') ← takeDigits time "second" r
      pure (some s, r')
    | _ => pure (none, r3)
  let r5 ← match second, r4 with
    | some _, .dot :: r => do
      let (_, r') ← takeDigits time "nanosecond" r
      pure r'
    | _, _ => pure r4
  if hour.length ≠ 2 then fail time "a two-digit hour (HH)"
  else if minute.length ≠ 2 then fail time "a two-digit minute (MM)"
  else if (second.map fun s => s.length != 2).getD false then fail time "a two-digit second (SS)"
  else if 23 < value hour then fail time "hour between 00 and 23"
  else if 59 < value minute then fail time "minute between 00 and 59"
  else if 60 < (second.map value).getD 0 then fail time "second between 00 and 60"
  else pure r5

/-- Read the offset after a date and time, if there is one; the tokens after it. -/
def checkOffset : List DatetimeToken → Except DatetimeError (List DatetimeToken)
  | [] => .ok []
  | .zulu :: rest => .ok rest
  | t :: rest =>
    if t = .plus || t = .dash then do
      let offset := some "offset"
      let (hours, r1) ← takeDigits offset "hour" rest
      let r2 ← takeToken .colon offset "`:` (HH:MM)" r1
      let (minutes, r3) ← takeDigits offset "minute" r2
      if hours.length ≠ 2 then fail offset "a two-digit hour (HH)"
      else if minutes.length ≠ 2 then fail offset "a two-digit minute (MM)"
      else if 23 < value hours then fail offset "hours between 00 and 23"
      else if 59 < value minutes then fail offset "minutes between 00 and 59"
      else pure r3
    else fail (some "offset") "`Z`, +OFFSET, -OFFSET"

/-- Fail unless every token was used. -/
def finish (ts : List DatetimeToken) : Except DatetimeError Unit :=
  if ts.isEmpty then .ok () else .error ⟨none, none⟩

/-- Check the text of a date, a time, or a date and a time. -/
def check (cs : List Char) : Except DatetimeError Unit :=
  let date := some "date"
  let ts := tokens cs
  match ts with
  | .digits year :: .dash :: rest => do
    let (month, r1) ← takeDigits date "month" rest
    let r2 ← takeToken .dash date "`-` (MM-DD)" r1
    let (day, r3) ← takeDigits date "day" r2
    checkDate year month day
    match r3 with
    | [] => pure ()
    | t :: r4 =>
      if t = .tee || t = .space then do
        let r5 ← checkTime r4
        finish (← checkOffset r5)
      else fail (some "date-time") "`T` between date and time"
  | .digits _ :: .colon :: _ => do finish (← checkTime ts)
  | .digits _ :: _ => fail none "`-` (YYYY-MM) or `:` (HH:MM)"
  | _ => fail none "year or hour"

end Datetime

end ReflectCheck.Toml
