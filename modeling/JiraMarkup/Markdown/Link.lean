import JiraMarkup.Markdown.Entity
import JiraMarkup.Markdown.Line
import JiraMarkup.Text.CaseFold

/-!
# Links

The parts of a link: its destination, its title, and the label by which it
refers to a definition elsewhere in the document.
-/

namespace JiraMarkup.Markdown

/-! ## Destinations -/

def angleDestination? : Text → Option (Text × Text)
  | [] => none
  | '\\' :: c :: t =>
    if isAsciiPunctuation c then
      (angleDestination? t).map fun (a, rest) => ('\\' :: c :: a, rest)
    else (angleDestination? (c :: t)).map fun (a, rest) => ('\\' :: a, rest)
  | c :: t =>
    if c = '>' then some ([], t)
    else if c = '<' || isLineBreak c then none
    else (angleDestination? t).map fun (a, rest) => (c :: a, rest)

/-- A destination without brackets around it, and the text behind it. Its
parentheses are balanced and at most `limit + 1` deep. -/
def bareDestination? (limit : Nat) : (depth : Nat) → Text → Option (Text × Text)
  | depth, [] => if depth = 0 then some ([], []) else none
  | depth, '\\' :: c :: t =>
    if isAsciiPunctuation c then
      (bareDestination? limit depth t).map fun (a, rest) => ('\\' :: c :: a, rest)
    else (bareDestination? limit depth (c :: t)).map fun (a, rest) => ('\\' :: a, rest)
  | depth, c :: t =>
    if c ≤ ' ' || c = ')' && depth = 0 then if depth = 0 then some ([], c :: t) else none
    else if c = '(' && limit < depth then none
    else
      let depth := if c = '(' then depth + 1 else if c = ')' then depth - 1 else depth
      (bareDestination? limit depth t).map fun (a, rest) => (c :: a, rest)

def destination? (limit : Nat) : Text → Option (Text × Text)
  | '<' :: t => angleDestination? t
  | t => bareDestination? limit 0 t

/-! ## Titles -/

def titleUpTo? (opening closing : Char) : Text → Option (Text × Text)
  | [] => none
  | '\\' :: c :: t =>
    if isAsciiPunctuation c then
      (titleUpTo? opening closing t).map fun (a, rest) => ('\\' :: c :: a, rest)
    else (titleUpTo? opening closing (c :: t)).map fun (a, rest) => ('\\' :: a, rest)
  | c :: t =>
    if c = closing then some ([], t)
    else if c = opening then none
    else (titleUpTo? opening closing t).map fun (a, rest) => (c :: a, rest)

def unindent : (afterBreak : Bool) → Text → Text
  | _, [] => []
  | afterBreak, c :: t =>
    if afterBreak && isSpaceOrTab c then unindent true t else c :: unindent (isLineBreak c) t

def title? (t : Text) : Option (Text × Text) :=
  (match t with
    | '"' :: t => titleUpTo? '"' '"' t
    | '\x27' :: t => titleUpTo? '\x27' '\x27' t
    | '(' :: t => titleUpTo? '(' ')' t
    | _ => none).map fun (title, rest) => (unindent false title, rest)

/-! ## Labels -/

def labelSource? : (room : Nat) → Text → Option (Text × Text)
  | _, [] => none
  | 0, _ => none
  | room + 1, '\\' :: c :: t =>
    (labelSource? (room - 1) t).map fun (a, rest) => ('\\' :: c :: a, rest)
  | room + 1, c :: t =>
    if c = ']' then some ([], t)
    else if c = '[' then none
    else (labelSource? room t).map fun (a, rest) => (c :: a, rest)

def normalLabel (source : Text) : Text :=
  foldCase ([' '].intercalate (words (source.map fun c => if isSpace c then ' ' else c)))

/-- A label of at most a thousand characters that are not all white space; the
text begins behind the opening bracket. -/
def label? (t : Text) : Option (Text × Text) := do
  let (source, rest) ← labelSource? 1000 t
  guard !source.all isSpace
  return (normalLabel source, rest)

/-! ## Links with a destination -/

def linkSpace (t : Text) : Text :=
  let t := t.dropWhile isInlineSpace
  ((lineEnd? t).getD t).dropWhile isInlineSpace

structure Target where
  destination : Text
  title : Text

def inlineTarget? (inTable : Bool) (t : Text) : Option (Target × Text) := do
  let inner ← after? "(" t
  let (destination, rest) ← destination? 5 (linkSpace inner)
  let rest := linkSpace rest
  let (title, rest) := match title? rest with
    | some (title, rest) => (title, linkSpace rest)
    | none => ([], rest)
  let rest ← after? ")" rest
  return (⟨unescape inTable 0 destination, unescape inTable 0 title⟩, rest)

/-! ## Definitions -/

structure Definition where
  label : Text
  target : Target

def lookUp (definitions : List Definition) (label : Text) : Option Target :=
  (definitions.find? (·.label == label)).map (·.target)

/-- White space with at most one line end, and whether there was one. It is
followed by something. -/
def definitionSpace? (t : Text) : Option (Bool × Text) :=
  let t := t.dropWhile isInlineSpace
  match lineEnd? t with
  | none => some (false, t)
  | some rest =>
    let rest := rest.dropWhile isInlineSpace
    if startsWithLineEnd rest then none else some (true, rest)

/-- The definition that begins the source of a paragraph, and the lines behind
it. A title on a line of its own that is not well formed is text again. -/
def definition? (content : Text) : Option (Definition × Text) := do
  let (label, rest) ← (after? "[" content).bind label?
  let rest ← after? ":" rest
  let (_, rest) ← definitionSpace? rest
  let (source, behind) ← destination? 1 rest
  guard (behind.length < rest.length)
  let destination := unescape false 0 source
  let untitled := (blankLine? behind).map (⟨label, destination, []⟩, ·)
  match definitionSpace? behind with
  | none => untitled
  | some (newLine, start) =>
    guard (start.length < behind.length)
    let titled := do
      let (title, rest) ← title? start
      let rest ← blankLine? rest
      return (⟨label, destination, unescape false 0 title⟩, rest)
    if newLine then titled.or untitled else titled

end JiraMarkup.Markdown
