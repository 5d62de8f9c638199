import Faults.Format.Integer
import Faults.Log.Moment

/-!
# Timestamps

A timestamp is a local time written by a pattern.  A pattern is a text in which a
percent sign introduces fields; everything else stands for itself.

* Most letters stand for a number (`number?`), which is padded to its usual width by
  zeros or by spaces.  A `0`, a `_` or a `-` before such a letter asks for zeros, for
  spaces or for no padding.
* Other letters stand for names, for the half of the day, for a character that is
  awkward to write, or for several fields with signs between them (`combination?`).
* A fraction of a second has a fixed number of digits, with or without a point in
  front, or as many as it needs.
* The distance to universal time is written with more or less detail.

A percent sign before anything else makes the pattern invalid.
-/

namespace Faults

/-- A number that belongs to a moment. -/
inductive TimePart where
  | year
  /-- The first two digits of the year. -/
  | century
  /-- The last two digits of the year. -/
  | shortYear
  /-- The year in which most days of the week lie. -/
  | weekYear
  /-- The last two digits of that year. -/
  | shortWeekYear
  | quarter
  | month
  | day
  | dayOfYear
  /-- The week of the year in which most of its days lie. -/
  | week
  /-- The week of the year, where weeks begin on Sundays. -/
  | weekFromSunday
  /-- The week of the year, where weeks begin on Mondays. -/
  | weekFromMonday
  /-- The weekday, from Sunday as 0. -/
  | weekdayFromSunday
  /-- The weekday, from Monday as 1. -/
  | weekdayFromMonday
  | hour
  /-- The hour on a dial of twelve. -/
  | dialHour
  | minute
  | second
  | nanosecond
  /-- The seconds since the beginning of 1970, in universal time. -/
  | epoch
  deriving DecidableEq, Repr

namespace TimePart

def value (m : LocalTime) : TimePart → Int
  | year => m.year
  | century => (m.year / 100 : Nat)
  | shortYear => (m.year % 100 : Nat)
  | weekYear => m.weekYear
  | shortWeekYear => (m.weekYear % 100 : Nat)
  | quarter => m.quarter
  | month => m.month
  | day => m.day
  | dayOfYear => m.dayOfYear
  | week => m.week
  | weekFromSunday => m.weekFromSunday
  | weekFromMonday => m.weekFromMonday
  | weekdayFromSunday => m.weekday
  | weekdayFromMonday => (Moment.sinceMonday m.dayNumber + 1 : Nat)
  | hour => m.hour
  | dialHour => m.dialHour
  | minute => m.minute
  | second => m.second
  | nanosecond => m.nanosecond
  | epoch => m.secondsSinceEpoch - m.offset

/-- The number of characters that padding fills. -/
def width : TimePart → Nat
  | quarter | weekdayFromSunday | weekdayFromMonday => 1
  | dayOfYear => 3
  | year | weekYear => 4
  | nanosecond | epoch => 9
  | _ => 2

end TimePart

/-- How a number is brought to its width. -/
inductive Padding where
  | bare
  | zeros
  | spaces
  deriving DecidableEq, Repr

/-- How the distance to universal time is written, behind its sign. -/
inductive OffsetForm where
  /-- The full hours. -/
  | hours
  /-- Hours and minutes, to the nearest minute. -/
  | minutes (colon : Bool)
  | seconds
  /-- Hours and minutes, and the seconds if there are any. -/
  | exact
  deriving DecidableEq, Repr

/-- A field of a timestamp, or a character that stands for itself. -/
inductive TimeField where
  | literal (c : Char)
  | number (part : TimePart) (padding : Padding)
  | monthName
  /-- The first three letters of the name of the month. -/
  | shortMonthName
  | weekdayName
  /-- The first three letters of the name of the weekday. -/
  | shortWeekdayName
  /-- The half of the day. -/
  | halfDay (letters : LetterCase)
  /-- So many digits of the fraction of a second. -/
  | fraction (digits : Nat)
  /-- A point and as many digits of the fraction of a second as it needs. -/
  | exactFraction
  | offset (form : OffsetForm)
  deriving DecidableEq, Repr

namespace Timestamp

/-! ## Writing -/

def monthNames : List String :=
  ["January", "February", "March", "April", "May", "June", "July", "August", "September",
   "October", "November", "December"]

def weekdayNames : List String :=
  ["Sunday", "Monday", "Tuesday", "Wednesday", "Thursday", "Friday", "Saturday"]

def nameAt (names : List String) (place : Nat) : Text :=
  (names.getD place "").toList

def padded (width : Nat) (n : Int) : Padding → Text
  | .bare => Format.Integer.decimal {} n
  | .zeros => Format.Integer.decimal { width, zeroPad := true } n
  | .spaces => Format.Integer.decimal { width } n

/-- The two letters for a half of the day. -/
def halfDayText (afternoon : Bool) : LetterCase → Text
  | .lower => if afternoon then ['p', 'm'] else ['a', 'm']
  | .upper => if afternoon then ['P', 'M'] else ['A', 'M']

/-- The first digits of a fraction of a second. -/
def fractionText (nanosecond digits : Nat) : Text :=
  padded digits (nanosecond / Nat.pow 10 (9 - digits) : Nat) .zeros

/-- A point and the thousandths, the millionths or the billionths of a second,
whichever are the first to be exact; nothing for a full second. -/
def exactFractionText (nanosecond : Nat) : Text :=
  if nanosecond = 0 then []
  else if nanosecond % 1000000 = 0 then '.' :: fractionText nanosecond 3
  else if nanosecond % 1000 = 0 then '.' :: fractionText nanosecond 6
  else '.' :: fractionText nanosecond 9

/-- The parts of a distance to universal time. -/
def offsetParts (seconds : Nat) : OffsetForm → List Nat
  | .hours => [seconds / 3600]
  | .minutes _ => [(seconds + 30) / 60 / 60, (seconds + 30) / 60 % 60]
  | .seconds => [seconds / 3600, seconds / 60 % 60, seconds % 60]
  | .exact =>
    if seconds % 60 = 0 then [seconds / 3600, seconds / 60 % 60]
    else [seconds / 3600, seconds / 60 % 60, seconds % 60]

/-- A distance to universal time: its sign, and its parts of two digits each. -/
def offsetText (offset : Int) (form : OffsetForm) : Text :=
  let separator := if form = .minutes false then [] else [':']
  let parts := (offsetParts offset.natAbs form).map fun part => padded 2 (part : Nat) .zeros
  (if offset < 0 then '-' else '+') :: separator.intercalate parts

def fieldText (m : LocalTime) : TimeField → Text
  | .literal c => [c]
  | .number part padding => padded part.width (part.value m) padding
  | .monthName => nameAt monthNames (m.month - 1)
  | .shortMonthName => (nameAt monthNames (m.month - 1)).take 3
  | .weekdayName => nameAt weekdayNames m.weekday
  | .shortWeekdayName => (nameAt weekdayNames m.weekday).take 3
  | .halfDay letters => halfDayText (12 ≤ m.hour) letters
  | .fraction digits => fractionText m.nanosecond digits
  | .exactFraction => exactFractionText m.nanosecond
  | .offset form => offsetText m.offset form

/-- A time written by the fields of a pattern. -/
def text (fields : List TimeField) (m : LocalTime) : Text :=
  fields.flatMap (fieldText m)

/-! ## Reading -/

/-- The number that a letter stands for, and its usual padding. -/
def number? : Char → Option (TimePart × Padding)
  | 'Y' => some (.year, .zeros)
  | 'C' => some (.century, .zeros)
  | 'y' => some (.shortYear, .zeros)
  | 'G' => some (.weekYear, .zeros)
  | 'g' => some (.shortWeekYear, .zeros)
  | 'q' => some (.quarter, .bare)
  | 'm' => some (.month, .zeros)
  | 'd' => some (.day, .zeros)
  | 'e' => some (.day, .spaces)
  | 'j' => some (.dayOfYear, .zeros)
  | 'V' => some (.week, .zeros)
  | 'U' => some (.weekFromSunday, .zeros)
  | 'W' => some (.weekFromMonday, .zeros)
  | 'w' => some (.weekdayFromSunday, .bare)
  | 'u' => some (.weekdayFromMonday, .bare)
  | 'H' => some (.hour, .zeros)
  | 'k' => some (.hour, .spaces)
  | 'I' => some (.dialHour, .zeros)
  | 'l' => some (.dialHour, .spaces)
  | 'M' => some (.minute, .zeros)
  | 'S' => some (.second, .zeros)
  | 'f' => some (.nanosecond, .zeros)
  | 's' => some (.epoch, .bare)
  | _ => none

/-- Numbers padded by zeros, with a sign between them. -/
def separated (sign : Char) (parts : List TimePart) : List TimeField :=
  (parts.map (.number · .zeros)).intersperse (.literal sign)

/-- The date, the most significant part first. -/
def date : List TimeField :=
  separated '-' [.year, .month, .day]

def timeOfDay : List TimeField :=
  separated ':' [.hour, .minute, .second]

/-- The fields that a letter stands for, if it does not stand for a number. -/
def combination? : Char → Option (List TimeField)
  | 'B' => some [.monthName]
  | 'b' | 'h' => some [.shortMonthName]
  | 'A' => some [.weekdayName]
  | 'a' => some [.shortWeekdayName]
  | 'P' => some [.halfDay .lower]
  | 'p' => some [.halfDay .upper]
  | 'F' => some date
  | 'D' | 'x' => some (separated '/' [.month, .day, .shortYear])
  | 'v' =>
    some [.number .day .spaces, .literal '-', .shortMonthName, .literal '-', .number .year .zeros]
  | 'R' => some (separated ':' [.hour, .minute])
  | 'T' | 'X' => some timeOfDay
  | 'r' =>
    some (separated ':' [.dialHour, .minute, .second] ++ [.literal ' ', .halfDay .upper])
  | 'c' =>
    some ([.shortWeekdayName, .literal ' ', .shortMonthName, .literal ' ', .number .day .spaces,
      .literal ' '] ++ timeOfDay ++ [.literal ' ', .number .year .zeros])
  | '+' =>
    some (date ++ [.literal 'T'] ++ timeOfDay ++ [.exactFraction, .offset (.minutes true)])
  | 'Z' => some [.offset .exact]
  | 'z' => some [.offset (.minutes false)]
  | 'n' => some [.literal '\n']
  | 't' => some [.literal '\t']
  | '%' => some [.literal '%']
  | _ => none

def letter? (c : Char) : Option (List TimeField) :=
  match number? c with
  | some (part, padding) => some [.number part padding]
  | none => combination? c

/-- The number that a letter stands for, with other padding than usual. -/
def repadded? (padding : Padding) (c : Char) : Option (List TimeField) :=
  (number? c).map fun (part, _) => [.number part padding]

/-- The fields behind a percent sign, and how many characters they take up. -/
def directive? : Text → Option (List TimeField × Nat)
  | '-' :: c :: _ => (repadded? .bare c).map (·, 2)
  | '0' :: c :: _ => (repadded? .zeros c).map (·, 2)
  | '_' :: c :: _ => (repadded? .spaces c).map (·, 2)
  | '.' :: 'f' :: _ => some ([.exactFraction], 2)
  | '.' :: '3' :: 'f' :: _ => some ([.literal '.', .fraction 3], 3)
  | '.' :: '6' :: 'f' :: _ => some ([.literal '.', .fraction 6], 3)
  | '.' :: '9' :: 'f' :: _ => some ([.literal '.', .fraction 9], 3)
  | '3' :: 'f' :: _ => some ([.fraction 3], 2)
  | '6' :: 'f' :: _ => some ([.fraction 6], 2)
  | '9' :: 'f' :: _ => some ([.fraction 9], 2)
  | ':' :: 'z' :: _ => some ([.offset (.minutes true)], 2)
  | ':' :: ':' :: 'z' :: _ => some ([.offset .seconds], 3)
  | ':' :: ':' :: ':' :: 'z' :: _ => some ([.offset .hours], 4)
  | c :: _ => (letter? c).map (·, 1)
  | [] => none

/-- The fields of a pattern, unless it is invalid.  `skipped` characters of it
belong to the field before. -/
def fieldsFrom? : (skipped : Nat) → Text → Option (List TimeField)
  | _, [] => some []
  | n + 1, _ :: rest => fieldsFrom? n rest
  | 0, '%' :: rest => do
    let (fields, length) ← directive? rest
    return fields ++ (← fieldsFrom? length rest)
  | 0, c :: rest => (fieldsFrom? 0 rest).map (.literal c :: ·)

/-- The fields of a pattern, unless it is invalid. -/
def fields? (pattern : Text) : Option (List TimeField) :=
  fieldsFrom? 0 pattern

end Timestamp

end Faults
