import Scaffold.Number.Numeral

/-!
# Dates and times

A moment is a date, or a date with a time of day, which may have an offset from universal time. The
parts of a written moment may be out of range.
-/

namespace Scaffold.Yaml

structure Date where
  year : Nat
  month : Nat
  day : Nat
deriving DecidableEq, Repr

structure Clock where
  hour : Nat
  minute : Nat
  second : Nat
  microsecond : Nat
deriving DecidableEq, Repr

/-- A date or a time; the offset is in seconds. -/
inductive Moment
  | date (d : Date)
  | time (d : Date) (c : Clock) (offset : Option Int)
deriving DecidableEq, Repr

namespace Moment

/-- The number of seconds in a day. -/
def daySeconds : Int := 86400

/-- A number of seconds as messages show it, in whole days and what is left. -/
def shownSeconds (seconds : Int) : String :=
  let days := seconds / daySeconds
  let rest := seconds % daySeconds
  let parts := (if days = 0 then [] else [s!"days={days}"]) ++
    (if rest = 0 then [] else [s!"seconds={rest}"])
  "datetime.timedelta(" ++ (if parts.isEmpty then "0" else String.intercalate ", " parts) ++ ")"

/-- What is wrong with the parts of a moment. -/
inductive Error
  | year (n : Nat)
  | month
  | day
  | hour
  | minute
  | second
  | offset (seconds : Int)
deriving DecidableEq, Repr

def Error.message : Error → String
  | year n => s!"year {n} is out of range"
  | month => "month must be in 1..12"
  | day => "day is out of range for month"
  | hour => "hour must be in 0..23"
  | minute => "minute must be in 0..59"
  | second => "second must be in 0..59"
  | offset seconds =>
    "offset must be a timedelta strictly between -timedelta(hours=24) and timedelta(hours=24), " ++
      s!"not {shownSeconds seconds}."

def isLeapYear (year : Nat) : Bool := year % 4 == 0 && (year % 100 != 0 || year % 400 == 0)

/-- The number of days in a month. -/
def monthDays (year month : Nat) : Nat :=
  if month = 2 then (if isLeapYear year then 29 else 28)
  else if [4, 6, 9, 11].contains month then 30 else 31

def checkDate (d : Date) : Except Error Unit :=
  if d.year = 0 then .error (.year d.year)
  else if d.month = 0 ∨ 12 < d.month then .error .month
  else if d.day = 0 ∨ monthDays d.year d.month < d.day then .error .day
  else .ok ()

def checkClock (c : Clock) : Except Error Unit :=
  if 23 < c.hour then .error .hour
  else if 59 < c.minute then .error .minute
  else if 59 < c.second then .error .second
  else .ok ()

/-- Checks an offset, which is less than a day. -/
def checkOffset : Option Int → Except Error Unit
  | none => .ok ()
  | some s => if -daySeconds < s ∧ s < daySeconds then .ok () else .error (.offset s)

/-- A moment all of whose parts are in range. -/
def check (m : Moment) : Except Error Moment :=
  match m with
  | date d => (checkDate d).map fun _ => m
  | time d c offset => do
    checkOffset offset
    checkDate d
    checkClock c
    return m

/-- Numbers at the end of which a zero is not shown, nor one before it. -/
def shownFields (first : List Nat) (second microsecond : Nat) : String :=
  let last := if microsecond ≠ 0 then [second, microsecond]
    else if second ≠ 0 then [second] else []
  String.intercalate ", " ((first ++ last).map toString)

/-- An offset as messages show it. -/
def shownOffset (seconds : Int) : String :=
  if seconds = 0 then "datetime.timezone.utc" else s!"datetime.timezone({shownSeconds seconds})"

/-- A moment as messages show it. -/
def shown : Moment → String
  | date d => s!"datetime.date({d.year}, {d.month}, {d.day})"
  | time d c offset =>
    let fields := shownFields [d.year, d.month, d.day, c.hour, c.minute] c.second c.microsecond
    let zone := match offset with
      | none => ""
      | some s => s!", tzinfo={shownOffset s}"
    s!"datetime.datetime({fields}{zone})"

/-- The number that at least `least` and at most `most` digits stand for, and what follows. -/
def digits? (least most : Nat) (cs : List Char) : Option (Nat × List Char) :=
  let n := min most (cs.takeWhile Char.isDigit).length
  if least ≤ n then some (Number.ofDecimalDigits (cs.take n), cs.drop n) else none

/-- What follows the character `c`. -/
def after? (c : Char) : List Char → Option (List Char)
  | d :: cs => if c = d then some cs else none
  | [] => none

def isGap (c : Char) : Bool := c == ' ' || c == '\t'

/-- A date, and what follows. -/
def scanDate? (cs : List Char) : Option (Date × List Char) := do
  let (year, cs) ← digits? 4 4 cs
  let (month, cs) ← digits? 1 2 (← after? '-' cs)
  let (day, cs) ← digits? 1 2 (← after? '-' cs)
  return (⟨year, month, day⟩, cs)

/-- The microseconds after the point that may be next, and what follows. -/
def scanFraction (cs : List Char) : Nat × List Char :=
  match cs with
  | '.' :: ds =>
    let fraction := (ds.takeWhile Char.isDigit ++ List.replicate 6 '0').take 6
    (Number.ofDecimalDigits fraction, ds.dropWhile Char.isDigit)
  | _ => (0, cs)

/-- The time of day, and what follows. -/
def scanClock? (cs : List Char) : Option (Clock × List Char) := do
  let (hour, cs) ← digits? 1 2 cs
  let (minute, cs) ← digits? 2 2 (← after? ':' cs)
  let (second, cs) ← digits? 2 2 (← after? ':' cs)
  let (microsecond, cs) := scanFraction cs
  return (⟨hour, minute, second, microsecond⟩, cs)

/-- The offset that is all there is, if it is there at all. -/
def scanOffset? (cs : List Char) : Option (Option Int) :=
  match cs.dropWhile isGap with
  | [] => if cs.isEmpty then some none else none
  | ['Z'] => some (some 0)
  | sign :: rest => do
    if sign ≠ '+' ∧ sign ≠ '-' then none
    let (hours, rest) ← digits? 1 2 rest
    let (minutes, rest) ← if rest.isEmpty then some (0, []) else digits? 2 2 (← after? ':' rest)
    if !rest.isEmpty then none
    let seconds : Int := hours * 3600 + minutes * 60
    return some (if sign = '-' then -seconds else seconds)

/-- What follows the letter or the gap between a date and a time. -/
def afterDate? : List Char → Option (List Char)
  | c :: cs =>
    if isGap c then some (cs.dropWhile isGap)
    else if c = 'T' ∨ c = 't' then some cs else none
  | [] => none

/-- The moment that a text writes, with a line feed at its end or not. Its parts may be out of
range. -/
def ofText? (text : String) : Option Moment := do
  let cs := text.toList
  let cs := if cs.getLast? = some '\n' then cs.dropLast else cs
  let (d, cs) ← scanDate? cs
  if cs.isEmpty then return date d
  let (c, cs) ← scanClock? (← afterDate? cs)
  return time d c (← scanOffset? cs)

end Moment

end Scaffold.Yaml
