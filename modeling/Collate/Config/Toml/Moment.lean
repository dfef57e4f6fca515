import Collate.Number.Integer

namespace Collate.Config.Toml

structure Date where
  year : Nat
  month : Nat
  day : Nat
deriving DecidableEq, Inhabited

/-- A time of day; the fraction is in billionths of a second. -/
structure Time where
  hour : Nat
  minute : Nat
  second : Nat
  fraction : Nat
deriving DecidableEq, Inhabited

inductive Offset where
  | universal
  | minutes (isBehind : Bool) (count : Nat)
deriving DecidableEq, Inhabited

structure Moment where
  date : Option Date
  time : Option Time
  offset : Option Offset
deriving DecidableEq, Inhabited

private def digits? (count : Nat) (characters : List Char) :
    Option (Nat × List Char) :=
  let written := characters.take count
  if written.length = count then
    (Number.natural? written).map fun value => (value, characters.drop count)
  else none

private def after? (mark : Char) : List Char → Option (List Char)
  | character :: rest => if character = mark then some rest else none
  | [] => none

private def isLeapYear (year : Nat) : Bool :=
  year % 4 = 0 && (year % 100 ≠ 0 || year % 400 = 0)

private def daysOf (year month : Nat) : Nat :=
  if month = 2 then if isLeapYear year then 29 else 28
  else if month = 4 || month = 6 || month = 9 || month = 11 then 30
  else 31

private def date? (characters : List Char) : Option (Date × List Char) := do
  let (year, rest) ← digits? 4 characters
  let (month, rest) ← digits? 2 (← after? '-' rest)
  let (day, rest) ← digits? 2 (← after? '-' rest)
  if 1 ≤ month && month ≤ 12 && 1 ≤ day && day ≤ daysOf year month then
    return ({ year, month, day }, rest)
  else none

private def billionths (written : List Char) : Nat :=
  let digits := written.take 9
  ((Number.natural? digits).getD 0) * Nat.pow 10 (9 - digits.length)

private def fraction? : List Char → Option (Nat × List Char)
  | '.' :: rest =>
      let written := rest.takeWhile Char.isDigit
      if written.isEmpty then none
      else some (billionths written, rest.dropWhile Char.isDigit)
  | rest => some (0, rest)

private def time? (characters : List Char) : Option (Time × List Char) := do
  let (hour, rest) ← digits? 2 characters
  let (minute, rest) ← digits? 2 (← after? ':' rest)
  let (second, rest) ← digits? 2 (← after? ':' rest)
  let (fraction, rest) ← fraction? rest
  if hour ≤ 23 && minute ≤ 59 && second ≤ 60 then
    return ({ hour, minute, second, fraction }, rest)
  else none

private def offset? : List Char → Option (Option Offset)
  | [] => some none
  | ['Z'] => some (some .universal)
  | ['z'] => some (some .universal)
  | sign :: rest => do
      if sign ≠ '+' && sign ≠ '-' then none
      else
        let (hours, rest) ← digits? 2 rest
        let (minutes, rest) ← digits? 2 (← after? ':' rest)
        if rest.isEmpty && hours ≤ 23 && minutes ≤ 59 then
          return some (.minutes (sign = '-') (60 * hours + minutes))
        else none

/-- A moment from its text, where a `T` or a blank stands between a date and a
time. -/
def Moment.ofText? (characters : List Char) : Option Moment :=
  match date? characters with
  | some (date, []) => some { date := some date, time := none, offset := none }
  | some (date, mark :: rest) => do
      if mark = 'T' || mark = 't' || mark = ' ' then
        let (time, rest) ← time? rest
        let offset ← offset? rest
        return { date := some date, time := some time, offset }
      else none
  | none =>
      match time? characters with
      | some (time, []) =>
          some { date := none, time := some time, offset := none }
      | _ => none

def isDate (characters : List Char) : Bool :=
  match date? characters with
  | some (_, []) => true
  | _ => false

private def padded (count value : Nat) : String :=
  let digits := Nat.toDigits 10 value
  String.ofList (List.replicate (count - digits.length) '0' ++ digits)

private def Date.text (date : Date) : String :=
  padded 4 date.year ++ "-" ++ padded 2 date.month ++ "-" ++ padded 2 date.day

private def fractionText (fraction : Nat) : String :=
  if fraction = 0 then ""
  else
    "." ++ String.ofList
      ((padded 9 fraction).toList.reverse.dropWhile (· = '0')).reverse

private def Time.text (time : Time) : String :=
  padded 2 time.hour ++ ":" ++ padded 2 time.minute ++ ":" ++
    padded 2 time.second ++ fractionText time.fraction

private def Offset.text : Offset → String
  | .universal => "Z"
  | .minutes isBehind count =>
      (if isBehind && 0 < count then "-" else "+") ++ padded 2 (count / 60) ++
        ":" ++ padded 2 (count % 60)

def Moment.text (moment : Moment) : String :=
  let parts :=
    (moment.date.map Date.text).toList ++ (moment.time.map Time.text).toList
  "T".intercalate parts ++ (moment.offset.map Offset.text).getD ""

end Collate.Config.Toml
