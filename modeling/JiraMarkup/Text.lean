/-!
# Text

A text is a list of characters. Markup is read by the line, and only a line
feed ends one; blanks are the ASCII ones, so that a no-break space in pasted
text counts as a letter. A document is a sequence of lines: a line rule rewrites
each line in its place, and a document rule rewrites the joined text, which is
then split again.
-/

namespace JiraMarkup

abbrev Text := List Char

/-! ## Character classes -/

/-- The blanks that end a marker. Neither the vertical tab nor any space
outside ASCII is one. -/
def isBlank (c : Char) : Bool :=
  c == ' ' || c == '\t' || c == '\n' || c == '\x0c' || c == '\r'

def isIndent (c : Char) : Bool := c == ' ' || c == '\t'

def isLineEnd (c : Char) : Bool := c == '\n'

/-! ## Lines -/

/-- The lines of a text; the empty text has one empty line. -/
def splitLines : Text → List Text
  | [] => [[]]
  | c :: t =>
    if c = '\n' then [] :: splitLines t
    else match splitLines t with
      | [] => [[c]]
      | l :: ls => (c :: l) :: ls

def joinLines : List Text → Text
  | [] => []
  | [l] => l
  | l :: ls => l ++ '\n' :: joinLines ls

def words : Text → List Text
  | [] => []
  | c :: t =>
    if isBlank c then words t
    else match t, words t with
      | d :: _, w :: ws => if isBlank d then [c] :: w :: ws else (c :: w) :: ws
      | _, ws => [c] :: ws

/-! ## Search -/

def after? (mark : String) (t : Text) : Option Text := mark.toList.isPrefixOf? t

/-- Splits around the first `mark` that begins before any character of `stop`. -/
def breakFirst? (stop : Char → Bool) (mark : String) : Text → Option (Text × Text)
  | [] => none
  | c :: t =>
    match after? mark (c :: t) with
    | some rest => some ([], rest)
    | none =>
      if stop c then none
      else (breakFirst? stop mark t).map fun (a, b) => (c :: a, b)

def breakLast? (stop : Char → Bool) (mark : String) : Text → Option (Text × Text)
  | [] => none
  | c :: t =>
    if stop c then none
    else match breakLast? stop mark t with
      | some (a, b) => some (c :: a, b)
      | none => (after? mark (c :: t)).map ([], ·)

def occurs (mark : String) (t : Text) : Bool := (breakFirst? (fun _ => false) mark t).isSome

/-! ## Documents -/

structure Document where
  lines : List Text
deriving DecidableEq, Inhabited

namespace Document

def ofText (t : Text) : Document := ⟨splitLines t⟩

def toText (d : Document) : Text := joinLines d.lines

def size (d : Document) : Nat := d.lines.length

def mapLines (f : Text → Text) (d : Document) : Document := ⟨d.lines.map f⟩

def mapText (f : Text → Text) (d : Document) : Document := ofText (f d.toText)

/-- Joins the lines and splits them again: lines that hold line feeds become
several, and the document without lines gets one. -/
def resplit (d : Document) : Document := d.mapText id

end Document

/-! ## Ranges of code points

Properties of characters are kept as ranges of code points, written in
hexadecimal: `lo-hi`, or `lo` alone for a single one. -/

namespace Ranges

def hexDigit? (c : Char) : Option Nat :=
  if '0' ≤ c ∧ c ≤ '9' then some (c.toNat - '0'.toNat)
  else if 'a' ≤ c ∧ c ≤ 'f' then some (c.toNat - 'a'.toNat + 10)
  else if 'A' ≤ c ∧ c ≤ 'F' then some (c.toNat - 'A'.toNat + 10)
  else none

def ofHex (digits : List Char) : Nat :=
  digits.foldl (fun n c => 16 * n + (hexDigit? c).getD 0) 0

def ofString (s : String) : List (Nat × Nat) :=
  (words s.toList).map fun range =>
    match breakFirst? (fun _ => false) "-" range with
    | some (lo, hi) => (ofHex lo, ofHex hi)
    | none => (ofHex range, ofHex range)

def contains (ranges : List (Nat × Nat)) (c : Char) : Bool :=
  ranges.any fun (lo, hi) => lo ≤ c.toNat && c.toNat ≤ hi

end Ranges

end JiraMarkup
