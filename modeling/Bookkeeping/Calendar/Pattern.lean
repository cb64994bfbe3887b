import Bookkeeping.Calendar.Date
import Bookkeeping.Text.Numeral
import Bookkeeping.Text.Pad

/-!
# Date patterns

A pattern writes a date and time: `%` with a letter stands for a part of it, everything else for
itself.  `pieces?` reads a pattern, and `DateTime.format` writes a time by it.  A pattern that is
not well formed, or that asks for a time zone, writes nothing at all.
-/

namespace Bookkeeping

namespace Calendar

/-- What fills a number up to its width. -/
inductive Padding where
  | none
  | space
  | zero
deriving DecidableEq

/-- The parts of a date and time that are written as numbers. -/
inductive Numeral where
  | year | century | yearOfCentury
  | isoYear | isoYearOfCentury
  | quarter | month | day | dayOfYear
  | weekFromSunday | weekFromMonday | isoWeek
  | daysFromSunday | weekdayNumber
  | hour | hour12 | minute | second | nanosecond
  | timestamp
deriving DecidableEq

/-- The parts of a date and time that are written as words. -/
inductive Name where
  | month | shortMonth
  | weekday | shortWeekday
  | halfDay | lowerHalfDay
deriving DecidableEq

/-- A piece of a pattern. -/
inductive Piece where
  | literal (text : String)
  | numeral (part : Numeral) (padding : Padding)
  | name (part : Name)
deriving DecidableEq

/-! ## Numbers and words -/

/-- Two digits; a count of tens above nine goes on in the order of characters. -/
def twoDigits (n : Nat) (padding : Padding) : String :=
  let tens :=
    match n / 10, padding with
    | 0, .none => ""
    | 0, .space => " "
    | t, _ => String.singleton (Char.ofNat (48 + t))
  tens ++ String.singleton (Char.ofNat (48 + n % 10))

/-- A number of at least `width` digits; `signed` asks for a sign also on positive numbers, which
then has a column of its own. -/
def digitsIn (width : Nat) (n : Int) (padding : Padding) (signed : Bool) : String :=
  let sign := if n < 0 then "-" else if signed then "+" else ""
  let digits := Text.natText n.natAbs
  let width := if signed then width + 1 else width
  match padding with
  | .none => sign ++ digits
  | .space => Text.padLeft width (sign ++ digits)
  | .zero =>
    sign ++ String.ofList (List.replicate (width - sign.length - digits.length) '0') ++ digits

/-- A year of at least four digits; years beyond four digits and before the year 0 have a sign. -/
def yearText (year : Int) (padding : Padding) : String :=
  digitsIn 4 year padding (year < 0 || 9999 < year)

def monthNames : List String :=
  ["January", "February", "March", "April", "May", "June", "July", "August", "September",
   "October", "November", "December"]

def weekdayNames : List String :=
  ["Monday", "Tuesday", "Wednesday", "Thursday", "Friday", "Saturday", "Sunday"]

/-- The first three letters. -/
def shortName (s : String) : String := String.ofList (s.toList.take 3)

namespace Numeral

/-- The part of a time as a number in digits. -/
def text (part : Numeral) (padding : Padding) (t : DateTime) : String :=
  let d := t.date
  match part with
  | year => yearText d.year padding
  | century => twoDigits (d.year / 100 % 256).toNat padding
  | yearOfCentury => twoDigits (d.year % 100).toNat padding
  | isoYear => yearText d.isoWeek.1 padding
  | isoYearOfCentury => twoDigits (d.isoWeek.1 % 100).toNat padding
  | quarter => Text.natText ((d.month - 1) / 3 + 1)
  | month => twoDigits d.month padding
  | day => twoDigits d.day padding
  | dayOfYear => digitsIn 3 d.dayOfYear padding false
  | weekFromSunday => twoDigits (d.weekFrom ((d.weekday + 1) % 7)) padding
  | weekFromMonday => twoDigits (d.weekFrom d.weekday) padding
  | isoWeek => twoDigits d.isoWeek.2 padding
  | daysFromSunday => Text.natText ((d.weekday + 1) % 7)
  | weekdayNumber => Text.natText (d.weekday + 1)
  | hour => twoDigits t.hour padding
  | hour12 => twoDigits ((t.hour + 11) % 12 + 1) padding
  | minute => twoDigits t.minute padding
  | second => twoDigits t.second padding
  | nanosecond => digitsIn 9 0 padding false
  | timestamp => digitsIn 9 t.sinceEpoch padding false

end Numeral

namespace Name

/-- The part of a time as a word. -/
def text (part : Name) (t : DateTime) : String :=
  let monthName := monthNames.getD (t.date.month - 1) ""
  let weekdayName := weekdayNames.getD t.date.weekday ""
  match part with
  | month => monthName
  | shortMonth => shortName monthName
  | weekday => weekdayName
  | shortWeekday => shortName weekdayName
  | halfDay => if t.hour < 12 then "AM" else "PM"
  | lowerHalfDay => if t.hour < 12 then "am" else "pm"

end Name

/-- The text that a piece stands for. -/
def Piece.text (t : DateTime) : Piece → String
  | literal s => s
  | numeral part padding => part.text padding t
  | name part => part.text t

/-! ## Reading patterns -/

/-- The number that a letter stands for, with its usual padding. -/
def numeral? : Char → Option (Numeral × Padding)
  | 'Y' => some (.year, .zero)
  | 'C' => some (.century, .zero)
  | 'y' => some (.yearOfCentury, .zero)
  | 'G' => some (.isoYear, .zero)
  | 'g' => some (.isoYearOfCentury, .zero)
  | 'q' => some (.quarter, .none)
  | 'm' => some (.month, .zero)
  | 'd' => some (.day, .zero)
  | 'e' => some (.day, .space)
  | 'j' => some (.dayOfYear, .zero)
  | 'U' => some (.weekFromSunday, .zero)
  | 'W' => some (.weekFromMonday, .zero)
  | 'V' => some (.isoWeek, .zero)
  | 'w' => some (.daysFromSunday, .none)
  | 'u' => some (.weekdayNumber, .none)
  | 'H' => some (.hour, .zero)
  | 'k' => some (.hour, .space)
  | 'I' => some (.hour12, .zero)
  | 'l' => some (.hour12, .space)
  | 'M' => some (.minute, .zero)
  | 'S' => some (.second, .zero)
  | 'f' => some (.nanosecond, .zero)
  | 's' => some (.timestamp, .none)
  | _ => none

/-- The word that a letter stands for. -/
def name? : Char → Option Name
  | 'B' => some .month
  | 'b' | 'h' => some .shortMonth
  | 'A' => some .weekday
  | 'a' => some .shortWeekday
  | 'p' => some .halfDay
  | 'P' => some .lowerHalfDay
  | _ => none

/-- `month/day/year` in two digits each. -/
def shortDate : List Piece :=
  [.numeral .month .zero, .literal "/", .numeral .day .zero, .literal "/",
   .numeral .yearOfCentury .zero]

/-- The hour, the minute and the second in two digits each, with colons. -/
def clock (first : Numeral) : List Piece :=
  [.numeral first .zero, .literal ":", .numeral .minute .zero, .literal ":",
   .numeral .second .zero]

/-- The pieces that a letter stands for when it is short for several, or for fixed text. -/
def composite? : Char → Option (List Piece)
  | 'D' | 'x' => some shortDate
  | 'F' => some
      [.numeral .year .zero, .literal "-", .numeral .month .zero, .literal "-",
       .numeral .day .zero]
  | 'v' => some
      [.numeral .day .space, .literal "-", .name .shortMonth, .literal "-", .numeral .year .zero]
  | 'R' => some [.numeral .hour .zero, .literal ":", .numeral .minute .zero]
  | 'T' | 'X' => some (clock .hour)
  | 'r' => some (clock .hour12 ++ [.literal " ", .name .halfDay])
  | 'c' => some
      ([.name .shortWeekday, .literal " ", .name .shortMonth, .literal " ",
        .numeral .day .space, .literal " "] ++ clock .hour ++
        [.literal " ", .numeral .year .zero])
  | 'n' => some [.literal "\n"]
  | 't' => some [.literal "\t"]
  | '%' => some [.literal "%"]
  | _ => none

/-- The pieces that a letter after `%` stands for. -/
def directive? (c : Char) : Option (List Piece) :=
  match numeral? c, name? c with
  | some (part, padding), _ => some [.numeral part padding]
  | none, some part => some [.name part]
  | none, none => composite? c

/-- The piece that a letter stands for after `%` and a padding of its own; only numbers take one. -/
def padded? (padding : Padding) (c : Char) : Option (List Piece) :=
  (numeral? c).map fun (part, _) => [.numeral part padding]

/-- The pieces of a pattern, none if it is not well formed or asks for a time zone.  Times are
whole seconds, so fractions of seconds are fixed text. -/
def pieces? : List Char → Option (List Piece)
  | [] => some []
  | '%' :: '-' :: c :: rest => (padded? .none c).bind fun ps => (pieces? rest).map (ps ++ ·)
  | '%' :: '_' :: c :: rest => (padded? .space c).bind fun ps => (pieces? rest).map (ps ++ ·)
  | '%' :: '0' :: c :: rest => (padded? .zero c).bind fun ps => (pieces? rest).map (ps ++ ·)
  | '%' :: '.' :: 'f' :: rest => pieces? rest
  | '%' :: '.' :: '3' :: 'f' :: rest => (pieces? rest).map (.literal ".000" :: ·)
  | '%' :: '.' :: '6' :: 'f' :: rest => (pieces? rest).map (.literal ".000000" :: ·)
  | '%' :: '.' :: '9' :: 'f' :: rest => (pieces? rest).map (.literal ".000000000" :: ·)
  | '%' :: '3' :: 'f' :: rest => (pieces? rest).map (.literal "000" :: ·)
  | '%' :: '6' :: 'f' :: rest => (pieces? rest).map (.literal "000000" :: ·)
  | '%' :: '9' :: 'f' :: rest => (pieces? rest).map (.literal "000000000" :: ·)
  | '%' :: c :: rest => (directive? c).bind fun ps => (pieces? rest).map (ps ++ ·)
  | ['%'] => none
  | c :: rest => (pieces? rest).map (.literal (String.singleton c) :: ·)

end Calendar

namespace DateTime

/-- The time written by a pattern; nothing if the pattern cannot be followed. -/
def format (pattern : String) (t : DateTime) : String :=
  match Calendar.pieces? pattern.toList with
  | some pieces => String.join (pieces.map (·.text t))
  | none => ""

/-- The time as values show it. -/
def text (t : DateTime) : String := t.format "%Y/%m/%d %H:%M:%S"

end DateTime

namespace Date

/-- The first second of the date written by a pattern. -/
def format (pattern : String) (d : Date) : String := (DateTime.midnight d).format pattern

end Date

end Bookkeeping
