import JiraMarkup.Decimal.Shortest

/-!
# TOML values

Values know where they stand, so that a complaint about one can point to it. A
position is the number of characters left from it to the end of the document.
-/

namespace JiraMarkup.Toml

abbrev Position := Nat

structure Key where
  name : Text
  position : Position

inductive Magnitude where
  | finite (b : Decimal.Binary)
  | infinite
  | notANumber
  /-- Written with digits, and too large for double precision. -/
  | tooLarge

inductive Value where
  | string (content : Text)
  | integer (n : Int)
  | float (negative : Bool) (magnitude : Magnitude)
  | boolean (b : Bool)
  | dateTime
  | array (items : List (Position × Value))
  | table (entries : List (Key × Position × Value))

abbrev Entry := Key × Position × Value

abbrev Table := List Entry

def Value.string? : Value → Option Text
  | string content => some content
  | _ => none

def Table.get? (t : Table) (name : String) : Option Value :=
  (t.find? (·.1.name == name.toList)).map (·.2.2)

/-! ## Faults -/

inductive Cause where
  | expectedKey
  | expectedEquals
  | expectedValue
  | expectedLineEnd
  | unclosedHeader
  | unclosedArray
  | unclosedTable
  | nestedTooDeep
  | controlCharacter
  | unclosedString
  | invalidEscape
  | invalidKey
  | invalidScalar
  | duplicateKey
  | notExtensible
deriving DecidableEq

structure Fault where
  cause : Cause
  position : Position
deriving DecidableEq

/-- The line and the column of a position, both from one. At the end of a text
the column is the one behind the last character, even if that ends the line.
In front of a character outside ASCII the column counts bytes. -/
def lineColumn (document : Text) (position : Position) : Nat × Nat :=
  if document.isEmpty then (1, 1)
  else
    let index := document.length - position
    let shown := min index (document.length - 1)
    let before := document.take shown
    let line := (before.reverse.takeWhile (· != '\n')).reverse
    let plain := index != shown || document[shown]?.all (·.toNat < 128)
    let width := if plain then line.length else (String.ofList line).utf8ByteSize
    ((before.filter (· == '\n')).length + 1, width + (index - shown) + 1)

end JiraMarkup.Toml
