import Unbundled.Date.Http

namespace Unbundled.HttpDate

def oneOf (names : List String) : Reader Nat := do
  let cs ← get
  match names.findIdx? fun n => Text.dropPrefix? n.toList cs |>.isSome with
  | none => failure
  | some i =>
    set (cs.drop (names[i]?.getD "").length)
    return i

def number (width : Nat) : Reader Nat := do
  let (_, n) ← digits width (some width)
  return n

def time : Reader Nat := do
  let hour ← twoDigits 23
  char ':'
  let minute ← twoDigits 59
  char ':'
  let second ← twoDigits 59
  return hour * 3600 + minute * 60 + second

def chars (s : String) : Reader Unit := s.toList.forM char

def longDayNames : List String :=
  ["Sunday", "Monday", "Tuesday", "Wednesday", "Thursday", "Friday", "Saturday"]

/-- Such as `Sun, 06 Nov 1994 08:49:37 GMT`. -/
def commonForm : Reader (Date × Nat) := do
  let _ ← oneOf dayNames
  chars ", "
  let day ← number 2
  char ' '
  let month ← oneOf monthNames
  char ' '
  let year ← number 4
  char ' '
  let seconds ← time
  chars " GMT"
  return (⟨year, month + 1, day⟩, seconds)

/-- Such as `Sunday, 06-Nov-94 08:49:37 GMT`. -/
def dashedForm : Reader (Date × Nat) := do
  let _ ← oneOf longDayNames
  chars ", "
  let day ← number 2
  char '-'
  let month ← oneOf monthNames
  char '-'
  let year ← number 2
  modify (·.drop 1)
  let seconds ← time
  chars " GMT"
  return (⟨if year < 70 then 2000 + year else 1900 + year, month + 1, day⟩, seconds)

/-- Such as `Sun Nov  6 08:49:37 1994`. -/
def plainForm : Reader (Date × Nat) := do
  let _ ← oneOf dayNames
  char ' '
  let month ← oneOf monthNames
  char ' '
  let day ← if (← get).head? = some ' ' then do
      char ' '
      number 1
    else number 2
  char ' '
  let seconds ← time
  char ' '
  let year ← number 4
  return (⟨year, month + 1, day⟩, seconds)

def readWhole (form : Reader (Date × Nat)) (cs : List Char) : Option (Date × Nat) :=
  match form.run cs with
  | some (d, []) => some d
  | _ => none

/-- The instant of a date from 1970 on. A day that a month does not have counts on into the
next month, and the day of the week does not matter. -/
def parseExact? (value : String) : Option Instant := do
  let cs := (Text.trim value).toList
  let (d, seconds) ← (readWhole commonForm cs).orElse fun _ =>
    (readWhole dashedForm cs).orElse fun _ => readWhole plainForm cs
  if 1970 ≤ d.year ∧ 1 ≤ d.day ∧ d.day ≤ 31 then
    some ⟨d.number * daySeconds + seconds, 0⟩
  else none

end Unbundled.HttpDate
