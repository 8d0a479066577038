/-! Points in time in the notation of RFC 3339. -/

namespace AttributeRelease

/-- A date and time of day of the Gregorian calendar, and how far the clock is ahead of UTC. -/
structure Timestamp where
  year : Nat
  month : Nat
  day : Nat
  hour : Nat
  minute : Nat
  second : Nat
  nanosecond : Nat := 0
  offsetMinutes : Int := 0
  deriving DecidableEq

namespace Timestamp

/-- Midnight of the first of January 1970. -/
def epoch : Timestamp := ⟨1970, 1, 1, 0, 0, 0, 0, 0⟩

instance : Inhabited Timestamp := ⟨epoch⟩

def isLeapYear (year : Nat) : Bool := (year % 4 == 0 && year % 100 != 0) || year % 400 == 0

def daysInMonth (year month : Nat) : Nat :=
  if month == 2 then (if isLeapYear year then 29 else 28)
  else if month == 4 || month == 6 || month == 9 || month == 11 then 30
  else 31

/-- Days from the first of January 1970 to a date. Years are counted from March, so that a leap
day is the last of its year, in cycles of 400. -/
def dayNumber (year month day : Nat) : Int :=
  let shifted : Int := if month ≤ 2 then (year : Int) - 1 else year
  let cycle := shifted.fdiv 400
  let yearOfCycle := shifted - cycle * 400
  let monthFromMarch : Int := if month ≤ 2 then (month : Int) + 9 else (month : Int) - 3
  let dayOfYear := (153 * monthFromMarch + 2).fdiv 5 + (day : Int) - 1
  let dayOfCycle := yearOfCycle * 365 + yearOfCycle.fdiv 4 - yearOfCycle.fdiv 100 + dayOfYear
  cycle * 146097 + dayOfCycle - 719468

/-- Whole seconds from the epoch. -/
def unixSeconds (time : Timestamp) : Int :=
  dayNumber time.year time.month time.day * 86400 +
    ((time.hour : Int) * 3600 + time.minute * 60 + time.second) - time.offsetMinutes * 60

/-- The last second of a month in UTC, where a leap second may follow. -/
def endsMonth (time : Timestamp) : Bool :=
  let next := time.unixSeconds + 1
  let nextMonth :=
    if time.month == 12 then dayNumber (time.year + 1) 1 1
    else dayNumber time.year (time.month + 1) 1
  next == dayNumber time.year time.month 1 * 86400 || next == nextMonth * 86400

private def number? (count : Nat) (chars : List Char) : Option (Nat × List Char) :=
  let digits := chars.take count
  if digits.length == count && digits.all Char.isDigit then
    some (digits.foldl (fun value digit => value * 10 + (digit.toNat - 48)) 0, chars.drop count)
  else none

private def skip? (expected : Char) : List Char → Option (List Char)
  | [] => none
  | char :: rest => if char == expected then some rest else none

private def fraction? : List Char → Option (Nat × List Char)
  | '.' :: rest =>
    let digits := rest.takeWhile Char.isDigit
    if digits.isEmpty then none
    else
      let kept := (digits ++ List.replicate 9 '0').take 9
      some (kept.foldl (fun value digit => value * 10 + (digit.toNat - 48)) 0,
        rest.dropWhile Char.isDigit)
  | chars => some (0, chars)

private def offset? : List Char → Option (Int × List Char)
  | [] => none
  | sign :: rest =>
    if sign == 'Z' || sign == 'z' then some (0, rest)
    else if sign == '+' || sign == '-' then do
      let (hours, rest) ← number? 2 rest
      let rest ← skip? ':' rest
      let (minutes, rest) ← number? 2 rest
      if hours > 23 || minutes > 59 then none
      let size : Int := hours * 60 + minutes
      some (if sign == '-' then -size else size, rest)
    else none

/-- Any ASCII character may stand between date and time. A leap second is taken for the last
nanosecond before it, and only accepted where one can be. -/
def ofText? (text : String) : Option Timestamp := do
  let (year, rest) ← number? 4 text.toList
  let (month, rest) ← number? 2 (← skip? '-' rest)
  let (day, rest) ← number? 2 (← skip? '-' rest)
  let separator ← rest.head?
  let (hour, rest) ← number? 2 (rest.drop 1)
  let (minute, rest) ← number? 2 (← skip? ':' rest)
  let (second, rest) ← number? 2 (← skip? ':' rest)
  let (nanosecond, rest) ← fraction? rest
  let (offsetMinutes, rest) ← offset? rest
  if !rest.isEmpty || separator.toNat ≥ 128 then none
  if month < 1 || month > 12 || day < 1 || day > daysInMonth year month then none
  if hour > 23 || minute > 59 || second > 60 then none
  if second == 60 then
    let time : Timestamp := ⟨year, month, day, hour, minute, 59, 999999999, offsetMinutes⟩
    if time.endsMonth then some time else none
  else some ⟨year, month, day, hour, minute, second, nanosecond, offsetMinutes⟩

private def padded (width value : Nat) : String :=
  let digits := Nat.toDigits 10 value
  .ofList (List.replicate (width - digits.length) '0' ++ digits)

private def dropTrailingZeros (digits : List Char) : List Char :=
  (digits.reverse.dropWhile (· == '0')).reverse

private def fractionText (nanosecond : Nat) : String :=
  if nanosecond == 0 then ""
  else "." ++ .ofList (dropTrailingZeros (padded 9 nanosecond).toList)

private def offsetText (minutes : Int) : String :=
  if minutes == 0 then "Z"
  else
    (if minutes < 0 then "-" else "+") ++ padded 2 (minutes.natAbs / 60) ++ ":" ++
      padded 2 (minutes.natAbs % 60)

/-- The fraction is as short as it can be, and UTC is written `Z`. -/
def text (time : Timestamp) : String :=
  padded 4 time.year ++ "-" ++ padded 2 time.month ++ "-" ++ padded 2 time.day ++ "T" ++
    padded 2 time.hour ++ ":" ++ padded 2 time.minute ++ ":" ++ padded 2 time.second ++
    fractionText time.nanosecond ++ offsetText time.offsetMinutes

end Timestamp

end AttributeRelease
