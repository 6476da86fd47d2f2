import SuiteRunner.Time.Calendar

/-!
  SuiteRunner.Time.Pattern
  ────────────────────────────────
  **MOMENTS WRITTEN BY A PATTERN.**

  A pattern is a text with directives: a percent sign, perhaps a mark for the padding of a number,
  and a letter.  A text in which a percent sign begins no directive is no pattern; nor is one with
  the directive `%#z`, which is for reading only and has no text.  All moments are written in
  universal time.
-/

namespace SuiteRunner.Time

/-- How a number is filled up to its width. -/
inductive Padding where
  | none
  | zero
  | space
  deriving DecidableEq, Repr

/-- A piece of a pattern. -/
inductive Piece where
  | literal (text : String)
  /-- A number, with its usual padding, its width and how to find it. -/
  | number (padding : Padding) (width : Nat) (value : Moment → Int)
  | text (value : Moment → String)

/-! ## §1. Words and numbers. -/

/-- The days of the week. -/
def weekdayNames : List String :=
  ["Sunday", "Monday", "Tuesday", "Wednesday", "Thursday", "Friday", "Saturday"]

/-- The months. -/
def monthNames : List String := ["January", "February", "March", "April", "May", "June", "July",
  "August", "September", "October", "November", "December"]

/-- The first three letters of a word. -/
def abbreviated (word : String) : String := String.ofList (word.toList.take 3)

/-- The name of a moment's day. -/
def weekdayName (m : Moment) : String := (weekdayNames[weekday m.days]?).getD ""

/-- The name of a moment's month. -/
def monthName (m : Moment) : String := (monthNames[m.date.month - 1]?).getD ""

/-- A number filled up to a width. -/
def padded (padding : Padding) (width : Nat) (n : Int) : String :=
  let digits := Nat.toDigits 10 n.natAbs
  let fill (c : Char) : List Char := List.replicate (width - digits.length) c
  let sign := if n < 0 then "-" else ""
  match padding with
  | .none => sign ++ String.ofList digits
  | .zero => sign ++ String.ofList (fill '0' ++ digits)
  | .space => String.ofList (fill ' ') ++ sign ++ String.ofList digits

/-- An hour of a clock with twelve hours. -/
def twelveHour (m : Moment) : Int := if m.hour % 12 = 0 then 12 else (m.hour % 12 : Nat)

/-- Seconds since 1970. -/
def epochSeconds (m : Moment) : Int := m.days * 86400 + (m.hour * 3600 + m.minute * 60 + m.second : Nat)

/-- The nanoseconds of a moment beyond its second. -/
def nanosOfSecond (m : Moment) : Nat := m.millisecond * 1000000 + m.nanosecond

/-- The first digits after the point, of the nine that the parts of a second have. -/
def decimals (width : Nat) (m : Moment) : String :=
  padded .zero width (nanosOfSecond m / Nat.pow 10 (9 - width) : Nat)

/-- A point and the parts of a second, in as many threes of digits as it takes; nothing for a
whole second. -/
def fraction (m : Moment) : String :=
  if nanosOfSecond m = 0 then ""
  else if nanosOfSecond m % 1000000 = 0 then "." ++ decimals 3 m
  else if nanosOfSecond m % 1000 = 0 then "." ++ decimals 6 m
  else "." ++ decimals 9 m

/-- Two digits. -/
def two (n : Nat) : String := padded .zero 2 n

/-- The time of day. -/
def clockText (m : Moment) : String := two m.hour ++ ":" ++ two m.minute ++ ":" ++ two m.second

/-- The date with hyphens. -/
def dateText (m : Moment) : String :=
  padded .zero 4 m.date.year ++ "-" ++ two m.date.month ++ "-" ++ two m.date.day

/-- The date and the time of day, with the parts of a second and the offset. -/
def Moment.isoText (m : Moment) : String :=
  dateText m ++ "T" ++ clockText m ++ fraction m ++ "+00:00"

/-- The last two digits of a year. -/
def shortYear (year : Int) : Int := year % 100

/-- A century. -/
def century (year : Int) : Int := year.fdiv 100

/-! ## §2. Directives. -/

/-- The piece that a letter stands for. -/
def pieceOf? (c : Char) : Option Piece :=
  let num (padding : Padding) (width : Nat) (value : Moment → Int) := some (Piece.number padding width value)
  let txt (value : Moment → String) := some (Piece.text value)
  let week (m : Moment) (first : Nat) : Int := weekOfYear m.date.ordinal (weekday m.days) first
  match c with
  | 'A' => txt weekdayName
  | 'a' => txt fun m => abbreviated (weekdayName m)
  | 'B' => txt monthName
  | 'b' | 'h' => txt fun m => abbreviated (monthName m)
  | 'C' => num .zero 2 fun m => century m.date.year
  | 'c' => txt fun m => abbreviated (weekdayName m) ++ " " ++ abbreviated (monthName m) ++ " "
      ++ padded .space 2 m.date.day ++ " " ++ clockText m ++ " " ++ padded .zero 4 m.date.year
  | 'D' | 'x' => txt fun m =>
      two m.date.month ++ "/" ++ two m.date.day ++ "/" ++ padded .zero 2 (shortYear m.date.year)
  | 'd' => num .zero 2 fun m => m.date.day
  | 'e' => num .space 2 fun m => m.date.day
  | 'F' => txt dateText
  | 'f' => num .zero 9 fun m => nanosOfSecond m
  | 'G' => num .zero 4 fun m => (thursdayWeek m.date m.days).1
  | 'g' => num .zero 2 fun m => shortYear (thursdayWeek m.date m.days).1
  | 'H' => num .zero 2 fun m => m.hour
  | 'I' => num .zero 2 twelveHour
  | 'j' => num .zero 3 fun m => m.date.ordinal
  | 'k' => num .space 2 fun m => m.hour
  | 'l' => num .space 2 twelveHour
  | 'M' => num .zero 2 fun m => m.minute
  | 'm' => num .zero 2 fun m => m.date.month
  | 'n' => some (.literal "\n")
  | 'P' => txt fun m => if m.hour < 12 then "am" else "pm"
  | 'p' => txt fun m => if m.hour < 12 then "AM" else "PM"
  | 'R' => txt fun m => two m.hour ++ ":" ++ two m.minute
  | 'r' => txt fun m => padded .zero 2 (twelveHour m) ++ ":" ++ two m.minute ++ ":" ++ two m.second
      ++ (if m.hour < 12 then " AM" else " PM")
  | 'S' => num .zero 2 fun m => m.second
  | 's' => num .none 0 epochSeconds
  | 'T' | 'X' => txt clockText
  | 't' => some (.literal "\t")
  | 'U' => num .zero 2 fun m => week m 0
  | 'u' => num .none 1 fun m => ((weekday m.days + 6) % 7 + 1 : Nat)
  | 'V' => num .zero 2 fun m => (thursdayWeek m.date m.days).2
  | 'v' => txt fun m => padded .space 2 m.date.day ++ "-" ++ abbreviated (monthName m) ++ "-"
      ++ padded .zero 4 m.date.year
  | 'W' => num .zero 2 fun m => week m 1
  | 'w' => num .none 1 fun m => weekday m.days
  | 'Y' => num .zero 4 fun m => m.date.year
  | 'y' => num .zero 2 fun m => shortYear m.date.year
  | 'Z' => txt fun _ => "UTC"
  | 'z' => txt fun _ => "+0000"
  | '+' => txt Moment.isoText
  | '%' => some (.literal "%")
  | _ => none

/-- The directives of more than one character, after the percent sign. -/
def longPiece? (cs : List Char) : Option (Piece × List Char) :=
  match cs with
  | '.' :: '3' :: 'f' :: rest => some (.text fun m => "." ++ decimals 3 m, rest)
  | '.' :: '6' :: 'f' :: rest => some (.text fun m => "." ++ decimals 6 m, rest)
  | '.' :: '9' :: 'f' :: rest => some (.text fun m => "." ++ decimals 9 m, rest)
  | '.' :: 'f' :: rest => some (.text fraction, rest)
  | '3' :: 'f' :: rest => some (.text (decimals 3), rest)
  | '6' :: 'f' :: rest => some (.text (decimals 6), rest)
  | '9' :: 'f' :: rest => some (.text (decimals 9), rest)
  | ':' :: ':' :: ':' :: 'z' :: rest => some (.text fun _ => "+00", rest)
  | ':' :: ':' :: 'z' :: rest => some (.text fun _ => "+00:00:00", rest)
  | ':' :: 'z' :: rest => some (.text fun _ => "+00:00", rest)
  | _ => none

/-- The padding that a mark asks for. -/
def paddingOf? (c : Char) : Option Padding :=
  if c = '-' then some .none
  else if c = '0' then some .zero
  else if c = '_' then some .space
  else none

/-- A directive after its percent sign.  Only numbers have padding that can be changed. -/
def directive? (cs : List Char) : Option (Piece × List Char) :=
  match longPiece? cs with
  | some found => some found
  | none =>
    match cs with
    | [] => none
    | c :: rest =>
      match paddingOf? c, rest with
      | some padding, d :: rest =>
        match pieceOf? d with
        | some (.number _ width value) => some (.number padding width value, rest)
        | _ => none
      | some _, [] => none
      | none, rest => (pieceOf? c).map fun p => (p, rest)

/-- The pieces of a text, at most `fuel` of them. -/
def pieces? : Nat → List Char → Option (List Piece)
  | _, [] => some []
  | 0, _ => none
  | fuel + 1, c :: rest => do
    if c = '%' then
      let (p, rest) ← directive? rest
      let ps ← pieces? fuel rest
      some (p :: ps)
    else
      let ps ← pieces? fuel rest
      some (.literal (String.ofList [c]) :: ps)

/-- **The pieces of a pattern.** -/
def Piece.ofText? (text : String) : Option (List Piece) := pieces? text.toList.length text.toList

/-- The text of a piece for a moment. -/
def Piece.render (m : Moment) : Piece → String
  | .literal s => s
  | .number padding width value => padded padding width (value m)
  | .text value => value m

/-- The text of a moment by a pattern. -/
def Moment.format? (m : Moment) (pattern : String) : Option String :=
  (Piece.ofText? pattern).map fun ps => String.join (ps.map (Piece.render m))

/-- The stamp of a moment: date, the letter T, time of day and milliseconds. -/
def Moment.stamp (m : Moment) : String :=
  padded .zero 4 m.date.year ++ two m.date.month ++ two m.date.day ++ "T" ++ two m.hour
    ++ two m.minute ++ two m.second ++ padded .zero 3 m.millisecond

end SuiteRunner.Time
