import Unbundled.Script.State

/-!
The page a script is written on: the text so far, how far lines are indented, and the
comments that have not been written yet. A comment is written once, by the first node
that asks for the comments at its position.
-/

namespace Unbundled.Script

structure Page where
  out : String := ""
  lineStart : Bool := true
  indent : Nat := 0
  comments : Comments := {}
deriving Inhabited

abbrev Print := StateM Page Unit

namespace Print

def skip : Print := pure ()

def write (s : String) : Print := modify fun p =>
  if s.isEmpty then p
  else
    let out := if p.lineStart then p.out ++ String.ofList (List.replicate (4 * p.indent) ' ')
      else p.out
    { p with out := out ++ s, lineStart := false }

def space : Print := write " "

/-- Ends the line, unless nothing has been written on it. -/
def line : Print := modify fun p =>
  if p.lineStart then p else { p with out := p.out.push '\n', lineStart := true }

def indented (body : Print) : Print := do
  modify fun p => { p with indent := p.indent + 1 }
  body
  modify fun p => { p with indent := p.indent - 1 }

def comment (spaced : Bool) (c : Comment) : Print := do
  if spaced then space
  if c.isBlock then
    write "/*"
    write c.text
    write "*/"
    space
  else
    write "//"
    write c.text
    line

def commentList (spaced : Bool) : List Comment → Print
  | [] => skip
  | c :: cs => do
    comment spaced c
    commentList spaced cs

def placedAt (pos : Nat) (cs : List (Nat × Comment)) : List Comment :=
  (cs.filter fun c => c.1 = pos).map (·.2)

def elsewhere (pos : Nat) (cs : List (Nat × Comment)) : List (Nat × Comment) :=
  cs.filter fun c => c.1 ≠ pos

def leading (pos : Nat) : Print := do
  if pos ≠ 0 then
    let cs := placedAt pos (← get).comments.leading
    unless cs.isEmpty do
      modify fun p => { p with comments.leading := elsewhere pos p.comments.leading }
      commentList false cs

def trailing (pos : Nat) (spaced : Bool) : Print := do
  if pos ≠ 0 then
    let cs := placedAt pos (← get).comments.trailing
    unless cs.isEmpty do
      modify fun p => { p with comments.trailing := elsewhere pos p.comments.trailing }
      commentList spaced cs

def commentBeforeEnd (s : Span) : StateM Page Bool := do
  return s.hi ≠ 0 && (← get).comments.leading.any fun c => c.1 = s.hi - 1

def onlyIf (b : Bool) (body : Print) : Print := if b then body else skip

def modifier (b : Bool) (word : String) : Print := onlyIf b (write (word ++ " "))

end Print

structure Layout where
  lines : Bool := false
  indented : Bool := false
  padded : Bool := false
  delimiter : Option String := none
  spaced : Bool := false
  endLine : Bool := true
  lastComma : Bool := false

namespace Layout

def commas : Layout := { delimiter := some ",", spaced := true }
def braced : Layout := { commas with padded := true }
def statements : Layout := { lines := true, indented := true }
def elements : Layout := { commas with lines := true, indented := true }

def flat (l : Layout) : Layout := { l with lines := false, indented := false }

end Layout

namespace Print

/-- What stands between an item that ends at `hi` and the next one. -/
def separate (l : Layout) (parentHi hi : Nat) : Print := do
  if let some d := l.delimiter then
    onlyIf (hi ≠ parentHi) (trailing hi false)
    write d
  if l.lines then line
  else if l.spaced then space

def laterItems (l : Layout) (parentHi : Nat) : Nat → List (Span × Print) → StateM Page Nat
  | hi, [] => return hi
  | hi, (s, item) :: items => do
    separate l parentHi hi
    item
    laterItems l parentHi s.hi items

def items (l : Layout) (parentHi : Nat) : List (Span × Print) → Print
  | [] => skip
  | (s, item) :: rest => do
    item
    let hi ← laterItems l parentHi s.hi rest
    onlyIf l.lastComma (write ", ")
    onlyIf (l.delimiter.isSome && hi ≠ parentHi) (trailing hi false)

def series (l : Layout) (parent : Span) (is : List (Span × Print)) : Print := do
  if is.isEmpty then
    if l.lines then line
    else onlyIf l.padded space
  else
    if l.lines then line
    else onlyIf l.padded space
    if l.indented then indented (items l parent.hi is) else items l parent.hi is
    if l.lines then onlyIf l.endLine line
    else onlyIf l.padded space

end Print

end Unbundled.Script
