import JiraMarkup.Rewrite

/-!
# Line markup

What makes a line a list item, a heading or the head of a table. A run of
markers in front of an item says how deep it stands, and becomes two spaces for
each marker and the bullet of Markdown. `hN.` in front of a line, for a digit
`N` up to 6, becomes `N + 1` hashes. A header row `||a||b||` becomes the two rows
that open a Markdown table: the row itself with single bars, and a separator row
with as many bars.
-/

namespace JiraMarkup

/-! ## List items -/

def listMarker (marker : Char) (bullet : String) : Pattern := fun t =>
  let body := t.dropWhile isIndent
  let depth := (body.takeWhile (· == marker)).length
  let behind := body.dropWhile (· == marker)
  if depth = 0 || !behind.head?.any isBlank then none
  else some ⟨List.replicate (2 * depth) ' ' ++ bullet.toList, behind.dropWhile isBlank⟩

def bulletItem : Rewrite := ⟨.textStart, listMarker '*' "* "⟩

def numberedItem : Rewrite := ⟨.textStart, listMarker '#' "1. "⟩

/-! ## Headings -/

def headingLevel? (digit : Char) : Option Nat :=
  if '0' ≤ digit ∧ digit ≤ '6' then some (digit.toNat - '0'.toNat) else none

/-- A heading is one line: it must reach the end of the text. -/
def headingLine : Pattern
  | 'h' :: digit :: '.' :: title =>
    match headingLevel? digit with
    | some level =>
      if title.any isLineEnd then none else some ⟨List.replicate (level + 1) '#', title⟩
    | none => none
  | _ => none

def heading : Rewrite := ⟨.textStart, headingLine⟩

/-! ## Tables -/

def singleBars : Rewrite := ⟨.anywhere, fun t => (after? "||" t).map (⟨['|'], ·⟩)⟩

def headerCell : Pattern
  | '|' :: t =>
    if (t.takeWhile (· != '|')).isEmpty then none
    else some ⟨"| --- ".toList, t.dropWhile (· != '|')⟩
  | _ => none

def separatorCells : Rewrite := ⟨.anywhere, headerCell⟩

def tableHead (row : Text) : Text :=
  let header := singleBars.apply row
  '\n' :: header ++ '\n' :: separatorCells.apply header

/-- The row that a line holds between spaces and tabs: it begins and ends with
a double bar, and the two do not overlap. -/
def headerRow? (line : Text) : Option Text :=
  let trimmed := line.dropWhile isIndent
  let row := (trimmed.reverse.dropWhile isIndent).reverse
  if 4 ≤ row.length ∧ "||".toList <+: row ∧ "||".toList <:+ row then some row else none

def headerLine : Pattern := fun t =>
  (headerRow? (t.takeWhile (!isLineEnd ·))).map fun row =>
    ⟨tableHead row, t.dropWhile (!isLineEnd ·)⟩

/-- Only a text that is one header row and nothing more. -/
def soleTableHeader : Rewrite :=
  ⟨.textStart, fun t => (headerLine t).filter (·.rest.isEmpty)⟩

def tableHeaders : Rewrite := ⟨.lineStart, headerLine⟩

def tableIndent : Rewrite :=
  ⟨.textStart, fun t => (after? "|" (t.dropWhile isIndent)).map (⟨['|'], ·⟩)⟩

end JiraMarkup
