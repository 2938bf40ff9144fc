import Unbundled.Date.Calendar
import Unbundled.Text.Affix
import Unbundled.Text.Chars

namespace Unbundled.HttpDate

def dayNames : List String := ["Sun", "Mon", "Tue", "Wed", "Thu", "Fri", "Sat"]

def monthNames : List String :=
  ["Jan", "Feb", "Mar", "Apr", "May", "Jun", "Jul", "Aug", "Sep", "Oct", "Nov", "Dec"]

def minYear : Int := -262143

def maxYear : Int := 262142

def daySeconds : Int := 86400

def knownDay (n : Int) : Bool :=
  Date.number ⟨minYear, 1, 1⟩ ≤ n && n ≤ Date.number ⟨maxYear, 12, 31⟩

def padded (width n : Nat) : String :=
  let digits := toString n
  String.ofList (List.replicate (width - digits.length) '0') ++ digits

/-- A year has a sign if four digits do not do. -/
def yearText (y : Int) : String :=
  if 0 ≤ y ∧ y ≤ 9999 then padded 4 y.toNat
  else (if y < 0 then "-" else "+") ++ padded 4 y.natAbs

/-- A moment of a year that is known. The nanoseconds of a leap second may follow any second. -/
structure DateTime extends Instant where
  known : knownDay (seconds / daySeconds) = true
  nanos_lt : nanos < 2000000000
deriving Repr, DecidableEq

def DateTime.text (t : DateTime) : String :=
  let day := t.seconds / daySeconds
  let time := (t.seconds % daySeconds).toNat
  let date := Date.ofNumber day
  dayNames[Date.weekday day]?.getD "" ++ ", " ++ padded 2 date.day ++ " "
    ++ monthNames[date.month - 1]?.getD "" ++ " " ++ yearText date.year ++ " "
    ++ padded 2 (time / 3600) ++ ":" ++ padded 2 (time / 60 % 60) ++ ":"
    ++ padded 2 (time % 60 + t.nanos / 1000000000) ++ " GMT"

/-- A leap second behind a second that is not the last one of its minute. -/
def LeapsInside (t : Instant) : Prop := 1000000000 ≤ t.nanos ∧ t.seconds % 60 ≠ 59

instance (t : Instant) : Decidable (LeapsInside t) := inferInstanceAs (Decidable (_ ∧ _))

/-- The moment that a count of seconds stands for. Only the last second of a minute may be
followed by a leap second here. -/
def DateTime.ofInstant? (t : Instant) : Option DateTime :=
  if h : knownDay (t.seconds / daySeconds) = true ∧ t.nanos < 2000000000 ∧ ¬LeapsInside t then
    some ⟨t, h.1, h.2.1⟩
  else none

def text? (t : Instant) : Option String := (DateTime.ofInstant? t).map DateTime.text

abbrev Reader := StateT (List Char) Option

def blanks : Reader Unit := modify (·.dropWhile Text.isWhiteSpace)

def gap : Reader Unit := do
  match (← get).head? with
  | some c => if Text.isWhiteSpace c then blanks else failure
  | none => failure

def char (c : Char) : Reader Unit := do
  match ← get with
  | d :: cs => if d = c then set cs else failure
  | [] => failure

def digitsValue (ds : List Char) : Nat := ds.foldl (fun n d => n * 10 + (d.toNat - 48)) 0

/-- At least `least` digits and at most `most`, and how many there are. -/
def digits (least : Nat) (most : Option Nat) : Reader (Nat × Nat) := do
  let cs ← get
  let ds := cs.takeWhile Char.isDigit
  let ds := most.elim ds ds.take
  if ds.length < least then failure
  set (cs.drop ds.length)
  return (ds.length, digitsValue ds)

def twoDigits (most : Nat) : Reader Nat := do
  let (_, n) ← digits 2 (some 2)
  if n ≤ most then return n else failure

def name? (names : List String) (cs : List Char) : Option Nat :=
  names.findIdx? fun n => Text.lower n = Text.lower (String.ofList (cs.take 3))

def weekday? : Reader (Option Nat) := do
  let cs ← get
  match name? dayNames cs with
  | none => return none
  | some d =>
    set (cs.drop 3)
    char ','
    return some d

def month : Reader Nat := do
  let cs ← get
  match name? monthNames cs with
  | none => failure
  | some m =>
    set (cs.drop 3)
    return m + 1

/-- A year. Of two digits it is the one closest to 2000 before 2050; of three digits it
counts from 1900. -/
def year : Reader Int := do
  let (length, n) ← digits 2 none
  return match length with
    | 2 => if n < 50 then 2000 + n else 1900 + n
    | 3 => 1900 + n
    | _ => n

def seconds : Reader Nat := do
  match (← get).dropWhile Text.isWhiteSpace with
  | ':' :: cs =>
    set cs
    twoDigits 60
  | _ => return 0

/-- The hours that a named zone is ahead. A zone of one letter other than `J` counts as
unknown, which is no offset. -/
def zoneHours? (name : String) : Option Int :=
  match name with
  | "gmt" | "ut" => some 0
  | "edt" => some (-4)
  | "est" | "cdt" => some (-5)
  | "cst" | "mdt" => some (-6)
  | "mst" | "pdt" => some (-7)
  | "pst" => some (-8)
  | name => if name.length = 1 ∧ name ≠ "j" then some 0 else none

def zone : Reader Int := do
  let cs ← get
  let name := cs.takeWhile Char.isAlpha
  if name.isEmpty then
    let sign : Int ← match cs with
      | '+' :: _ => pure 1
      | '-' :: _ => pure (-1)
      | _ => failure
    set (cs.drop 1)
    let hours ← twoDigits 23
    let minutes ← twoDigits 59
    return sign * (hours * 3600 + minutes * 60)
  else
    set (cs.drop name.length)
    match zoneHours? (Text.lower (String.ofList name)) with
    | some h => return h * 3600
    | none => failure

/-- What follows a comment, behind its opening parenthesis; `depth` more are open. -/
def afterComment : Nat → List Char → Option (List Char)
  | _, [] | _, ['\\'] => none
  | 0, ')' :: cs => some cs
  | depth + 1, ')' :: cs => afterComment depth cs
  | depth, '(' :: cs => afterComment (depth + 1) cs
  | depth, '\\' :: _ :: cs => afterComment depth cs
  | depth, _ :: cs => afterComment depth cs

def withoutComments : Nat → List Char → List Char
  | 0, cs => cs
  | fuel + 1, cs =>
    match cs.dropWhile Text.isWhiteSpace with
    | '(' :: rest => (afterComment 0 rest).elim cs (withoutComments fuel)
    | _ => cs

/-- A date and a time as they are written, before it is known whether there is such a day. -/
structure Reading where
  weekday : Option Nat
  date : Date
  seconds : Nat
  nanos : Nat
  offset : Int
deriving Repr, DecidableEq, Inhabited

def reading : Reader Reading := do
  blanks
  let weekday ← weekday?
  blanks
  let (_, day) ← digits 1 (some 2)
  gap
  let month ← month
  gap
  let year ← year
  gap
  let hour ← twoDigits 23
  blanks
  char ':'
  blanks
  let minute ← twoDigits 59
  let second ← seconds
  gap
  let offset ← zone
  modify fun cs => withoutComments cs.length cs
  unless (← get).isEmpty do failure
  -- a leap second counts as nanoseconds of the second before it
  return ⟨weekday, ⟨year, month, day⟩, hour * 3600 + minute * 60 + min second 59,
    second / 60 * 1000000000, offset⟩

/-- The instant that is meant, if the day exists, is in a year that is known, and is the
given day of the week. -/
def Reading.instant? (r : Reading) : Option Instant :=
  let day := r.date.number
  let seconds := day * daySeconds + r.seconds - r.offset
  if r.date.isValid ∧ knownDay day ∧ r.weekday.all (· = Date.weekday day)
      ∧ knownDay (seconds / daySeconds) then
    some ⟨seconds, r.nanos⟩
  else none

def parse? (value : String) : Option Instant := do
  let (r, _) ← reading.run (Text.trim value).toList
  r.instant?

end Unbundled.HttpDate
