import JiraMarkup.Markdown.Character
import JiraMarkup.Markdown.Tree

/-!
# Lines of Markdown

What the start of a line says about the block that it begins or ends. Each
scanner looks at the text from a position inside a line on, and gives the text
behind what it found.
-/

namespace JiraMarkup.Markdown

/-! ## Line ends -/

/-- The text behind a line end, which may also be the end of the text. -/
def lineEnd? : Text → Option Text
  | [] => some []
  | '\n' :: t => some t
  | '\r' :: '\n' :: t => some t
  | '\r' :: t => some t
  | _ => none

def blankLine? (t : Text) : Option Text := lineEnd? (t.dropWhile isInlineSpace)

def startsWithLineEnd (t : Text) : Bool := (lineEnd? t).isSome

def takeFeedLine : Text → Text × Text
  | [] => ([], [])
  | c :: t =>
    if c = '\n' then (['\n'], t)
    else let (line, rest) := takeFeedLine t; (c :: line, rest)

def takeAnyLine (t : Text) : Text × Text × Text :=
  let behind := t.dropWhile (!isLineBreak ·)
  let rest := (lineEnd? behind).getD []
  (t.takeWhile (!isLineBreak ·), behind.take (behind.length - rest.length), rest)

/-! ## Columns -/

/-- A position in a line. A tab reaches to the next multiple of four columns,
and may have been used up only in part. -/
structure Cursor where
  rest : Text
  column : Nat
  pending : Nat

namespace Cursor

def ofLine (t : Text) : Cursor := ⟨t, 0, 0⟩

/-- Skips up to `n` columns of spaces and tabs from a text on; gives the number
that was not there. -/
def skipFrom (n column : Nat) : Text → Nat × Cursor
  | ' ' :: t => if n = 0 then (0, ⟨' ' :: t, column, 0⟩) else skipFrom (n - 1) (column + 1) t
  | '\t' :: t =>
    let width := 4 - column % 4
    if n = 0 then (0, ⟨'\t' :: t, column, 0⟩)
    else if width ≤ n then skipFrom (n - width) (column + width) t
    else (0, ⟨t, column + width, width - n⟩)
  | t => (n, ⟨t, column, 0⟩)

def skip (n : Nat) (c : Cursor) : Nat × Cursor :=
  if n ≤ c.pending then (0, { c with pending := c.pending - n })
  else skipFrom (n - c.pending) c.column c.rest

def skipExactly (n : Nat) (c : Cursor) : Bool × Cursor :=
  let (missing, c) := c.skip n
  (missing == 0, c)

def skipAll (c : Cursor) : Cursor := ⟨c.rest.dropWhile isSpaceOrTab, c.column, 0⟩

def atLineEnd (c : Cursor) : Bool := startsWithLineEnd c.rest

def advance (c : Cursor) : Cursor := { c with rest := c.rest.drop 1, column := c.column + 1 }

end Cursor

/-! ## Leaf blocks -/

def runLength (mark : Char) (t : Text) : Nat := (t.takeWhile (· == mark)).length

def thematicBreak? (t : Text) : Option Text :=
  match t with
  | [] => none
  | mark :: _ =>
    let line := t.takeWhile (!isLineBreak ·)
    if (mark == '*' || mark == '-' || mark == '_') &&
        line.all (fun c => c == mark || isSpaceOrTab c) &&
        3 ≤ (line.filter (· == mark)).length then
      lineEnd? (t.dropWhile (!isLineBreak ·))
    else none

def hashHeading? (t : Text) : Option (Nat × Text) :=
  let level := runLength '#' t
  let rest := t.drop level
  if 1 ≤ level && level ≤ 6 && (rest.head?.all isSpace) then some (level, rest) else none

def hashContent (t : Text) : Text :=
  let trimmed := t.reverse.dropWhile (fun c => c == ' ' || isLineBreak c)
  let opened := trimmed.dropWhile (· == '#')
  match opened with
  | [] => []
  | ' ' :: _ => (opened.dropWhile (· == ' ')).reverse
  | _ => trimmed.reverse

def underline? : Text → Option (Nat × Text)
  | [] => none
  | mark :: t =>
    if mark = '=' || mark = '-' then
      (blankLine? (t.dropWhile (· == mark))).map ((if mark = '=' then 1 else 2), ·)
    else none

/-- The mark and the length of a fence. The line behind one of backticks holds
no other backtick. -/
def fence? (t : Text) : Option (Char × Nat) :=
  match t with
  | [] => none
  | mark :: _ =>
    let n := runLength mark t
    if 3 ≤ n && (mark == '~' || mark == '\x60' && !(takeFeedLine (t.drop n)).1.contains '\x60') then
      some (mark, n)
    else none

/-- The line end behind a closing fence; the end of the text closes as well. -/
def closingFence? (mark : Char) (n : Nat) (t : Text) : Option Text :=
  if t.isEmpty then some []
  else
    let m := runLength mark t
    let rest := (t.drop m).dropWhile (· == ' ')
    if n ≤ m && startsWithLineEnd rest then some rest else none

/-! ## List markers -/

structure Marker where
  mark : Char
  number : Nat
  width : Nat

def Marker.isBullet (m : Marker) : Bool := m.mark == '-' || m.mark == '+' || m.mark == '*'

def marker? (t : Text) : Option Marker :=
  match t with
  | [] => none
  | c :: _ =>
    if c = '-' || c = '+' || c = '*' then some ⟨c, 0, 1⟩
    else
      let digits := t.takeWhile Char.isDigit
      match t.drop digits.length with
      | mark :: _ =>
        if 1 ≤ digits.length && digits.length ≤ 9 && (mark = '.' || mark = ')') then
          some ⟨mark, digits.foldl (fun n d => 10 * n + (d.toNat - '0'.toNat)) 0, digits.length + 1⟩
        else none
      | [] => none

def itemStart? (t : Text) : Option (Marker × Text) := do
  let m ← marker? t
  let rest := t.drop m.width
  if (blankLine? rest).isSome then return (m, rest)
  guard (rest.head?.any isSpaceOrTab)
  return (m, rest.drop 1)

def isEmptyItem (t : Text) : Bool :=
  match blankLine? t with
  | some rest => (blankLine? rest).isSome
  | none => false

/-! ## Tables -/

def splitBars : (escaped : Bool) → Text → List Text
  | _, [] => [[]]
  | escaped, c :: t =>
    if c = '|' && !escaped then [] :: splitBars false t
    else match splitBars (c == '\\') t with
      | [] => [[c]]
      | cell :: cells => (c :: cell) :: cells

/-- The cells of a row. A bar at either end of the row is only a border. -/
def cellsOf (line : Text) : List Text :=
  let cells := match splitBars false line with
    | [] :: cells => cells
    | cells => cells
  let cells := cells.map (·.dropWhile isInlineSpace)
  if cells.getLast? == some [] then cells.dropLast else cells

def headerColumns? (line : Text) : Option Nat :=
  let segments := splitBars false line
  let bars := segments.length - 1
  if bars = 0 then none
  else
    let bars := if (line.dropWhile isInlineSpace).head? = some '|' then bars - 1 else bars
    some (if (segments.getLast?.getD []).all isInlineSpace then bars else bars + 1)

structure DelimiterRow where
  columns : List Alignment
  active : Alignment
  fresh : Bool
  hyphen : Bool
  barSeen : Bool
  hyphenSeen : Bool

def DelimiterRow.read (r : DelimiterRow) : Text → Option DelimiterRow
  | [] => some r
  | c :: t =>
    if c = ' ' then r.read t
    else if c = ':' then
      let active := match r.fresh, r.active with
        | true, .unset => .left
        | false, .left => .center
        | false, .unset => .right
        | _, active => active
      DelimiterRow.read { r with active := active, fresh := false } t
    else if c = '-' then
      DelimiterRow.read { r with fresh := false, hyphen := true, hyphenSeen := true } t
    else if c = '|' && r.hyphen then
      DelimiterRow.read
        { r with columns := r.active :: r.columns, active := .unset, fresh := true,
                 hyphen := false, barSeen := true } t
    else none

def delimiterRow? (c : Cursor) : Option (List Alignment × Text) := do
  let (missing, c) := c.skip 4
  guard (missing != 0)
  let (line, _, rest) := takeAnyLine c.rest
  guard !c.rest.isEmpty
  let (bar, line) := match line with
    | '|' :: line => (true, line)
    | line => (false, line)
  let row ← DelimiterRow.read ⟨[], .unset, true, false, bar, false⟩ line
  guard (row.barSeen && row.hyphenSeen)
  return ((if row.fresh then row.columns else row.active :: row.columns).reverse, rest)

end JiraMarkup.Markdown
