import JiraMarkup.BlockMarkup

/-!
# Inline styles

The styles of a line are rewritten one after another, each throughout the
line, and a later one reads what an earlier one wrote: their order is part of
what they mean.
-/

namespace JiraMarkup

/-! ## Patterns -/

/-- A span from `mark` to the last `mark` of the line, with at least one
character in between, the first of which `starts`. -/
def longSpan (mark : Char) (starts : Char → Bool) (wrap : Text → Text) : Pattern
  | m :: c :: t =>
    if m = mark && starts c then
      (breakLast? isLineEnd (String.singleton mark) t).map fun (span, rest) =>
        ⟨wrap (c :: span), rest⟩
    else none
  | _ => none

def shortSpan (mark : Char) (wrap : Text → Text) : Pattern
  | m :: t =>
    if m = mark then
      (after? (String.singleton mark) (t.dropWhile (· != mark))).map
        (⟨wrap (t.takeWhile (· != mark)), ·⟩)
    else none
  | [] => none

def between (opening closing : String) (t : Text) : Text :=
  opening.toList ++ t ++ closing.toList

def bold : Pattern := longSpan '*' (!isBlank ·) (between "**" "**")

def italic : Pattern := longSpan '_' (!isBlank ·) (between "*" "*")

def monospace : Pattern := fun t => do
  let inner ← after? "\x7b\x7b" t
  let span := inner.takeWhile (· != '}')
  guard !span.isEmpty
  let rest ← after? "\x7d\x7d" (inner.dropWhile (· != '}'))
  return ⟨between "`" "`" span, rest⟩

def insert : Pattern := shortSpan '+' (between "<ins>+" "+</ins>")

def superscript : Pattern := shortSpan '^' (between "<sup>" "</sup>")

def subscript : Pattern := shortSpan '~' (between "<sub>" "</sub>")

/-- The text up to the first dash of the line that stands between a non-blank
and a blank, and the text from that blank on. -/
def struckEnd? : Text → Option (Text × Text)
  | c :: '-' :: b :: t =>
    if !isBlank c && isBlank b then some ([c], b :: t)
    else if c = '\n' then none
    else (struckEnd? ('-' :: b :: t)).map fun (a, rest) => (c :: a, rest)
  | c :: t => if c = '\n' then none else (struckEnd? t).map fun (a, rest) => (c :: a, rest)
  | [] => none

/-- The struck text behind the opening dash, and the text behind the closing
one. A dash at the end of the first word closes only if no later dash of the
line does. -/
def struck? (t : Text) : Option (Text × Text) :=
  let word := t.takeWhile (!isBlank ·)
  let behind := t.dropWhile (!isBlank ·)
  if word.isEmpty then none
  else match struckEnd? behind with
    | some (more, rest) => some (word ++ more, rest)
    | none =>
      if 3 ≤ word.length && word.getLast? == some '-' && !behind.isEmpty then
        some (word.dropLast, behind)
      else none

/-- The blanks on both sides belong to the span. -/
def strikethrough : Pattern := fun t => do
  let before := t.takeWhile isBlank
  guard !before.isEmpty
  let inner ← after? "-" (t.dropWhile isBlank)
  let (span, behind) ← struck? inner
  return ⟨before ++ between "~~" "~~" span ++ behind.takeWhile isBlank,
    behind.dropWhile isBlank⟩

def preformatted : Pattern := fun t => (after? "\x7bnoformat\x7d" t).map (⟨"```".toList, ·⟩)

/-- A link without a name reaches to the last bracket before any bar. -/
def unnamedLink : Pattern
  | '[' :: c :: t =>
    if c = '|' then none
    else (breakLast? (· == '|') "]" t).map fun (span, rest) =>
      ⟨between "<" ">" (c :: span), rest⟩
  | _ => none

def image : Pattern := longSpan '!' (!isLineEnd ·) (between "![](" ")")

def namedLink : Pattern
  | '[' :: c :: t =>
    if c = '\n' then none
    else match breakFirst? isLineEnd "|" t with
      | some (name, d :: target) =>
        if d = '\n' then none
        else (breakLast? isLineEnd "]" target).map fun (target, rest) =>
          ⟨between "[" "]" (c :: name) ++ between "(" ")" (d :: target), rest⟩
      | _ => none
  | _ => none

def blockquote : Pattern := fun t => do
  let behind ← after? "bq." t
  guard (behind.head?.any isBlank)
  return ⟨"> ".toList, behind.dropWhile isBlank⟩

def color : Pattern := fun t => do
  let name ← after? "\x7bcolor:" t
  guard !(name.takeWhile (· != '}')).isEmpty
  let inner ← after? "\x7d" (name.dropWhile (· != '}'))
  let (span, rest) ← breakLast? isLineEnd "\x7bcolor\x7d" inner
  return ⟨span, rest⟩

def panelTitle : Pattern := fun t => (panel? t).map fun p => ⟨p.title, p.rest⟩

/-! ## The chain of styles -/

structure InlineStyle where
  name : String
  rewrite : Rewrite

def inlineChain : List InlineStyle :=
  [⟨"bold", .anywhere, bold⟩,
    ⟨"italic", .anywhere, italic⟩,
    ⟨"monospace", .anywhere, monospace⟩,
    ⟨"insert", .anywhere, insert⟩,
    ⟨"superscript", .anywhere, superscript⟩,
    ⟨"subscript", .anywhere, subscript⟩,
    ⟨"strikethrough", .anywhere, strikethrough⟩,
    ⟨"preformatted", .anywhere, preformatted⟩,
    ⟨"unnamed_link", .anywhere, unnamedLink⟩,
    ⟨"image", .anywhere, image⟩,
    ⟨"named_link", .anywhere, namedLink⟩,
    ⟨"blockquote", .textStart, blockquote⟩,
    ⟨"color", .anywhere, color⟩,
    ⟨"panel", .anywhere, panelTitle⟩]

def restyle (chain : List InlineStyle) (line : Text) : Text :=
  chain.foldl (fun line style => style.rewrite.apply line) line

/-- The names of the styles that match when the chain comes to them. -/
def firingStyles : List InlineStyle → Text → List String
  | [], _ => []
  | style :: chain, line =>
    let later := firingStyles chain (style.rewrite.apply line)
    if style.rewrite.fires line then style.name :: later else later

def inlineStyles (line : Text) : Text := restyle inlineChain line

end JiraMarkup
