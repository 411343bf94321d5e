import JiraMarkup.Rewrite

/-!
# Block markup

`{panel:title=X}Y{panel}` frames a text of one line under a title, which becomes
a table. One newline inside each of the two tags belongs to the tag.

`{code:lang|title=…}` and `{code}` frame a code block, which becomes a fenced
one. The tag may name a language and attributes, and the attributes are
dropped. A tag opens a block only if `{code}` follows it, and the reading of a
tag is the first that does, in this order: the longest language first, and in
each value the earliest next attribute or end of the tag.
-/

namespace JiraMarkup

/-! ## Panels -/

/-- `{panel:title=` -/
def panelOpening : String := "\x7bpanel:title="

def panelClosing : String := "\x7bpanel\x7d"

structure Panel where
  title : Text
  body : Text
  rest : Text

def panelBody? : Text → Option (Text × Text)
  | [] => none
  | c :: t =>
    match after? panelClosing (c :: t) with
    | some rest => some ([], rest)
    | none =>
      if c = '\n' then (after? panelClosing t).map ([], ·)
      else (panelBody? t).map fun (body, rest) => (c :: body, rest)

def dropNewline : Text → Text
  | '\n' :: t => t
  | t => t

def panel? (t : Text) : Option Panel := do
  let inner ← after? panelOpening t
  let opened ← after? "\x7d" (inner.dropWhile (· != '}'))
  let (body, rest) ← panelBody? (dropNewline opened)
  return ⟨inner.takeWhile (· != '}'), body, rest⟩

def panelTable : Rewrite :=
  ⟨.anywhere, fun t => (panel? t).map fun p =>
    ⟨"\n| ".toList ++ p.title ++ " |\n| --- |\n| ".toList ++ p.body ++ " |".toList, p.rest⟩⟩

/-! ## Code blocks -/

def codeOpening : String := "\x7bcode"

def codeClosing : String := "\x7bcode\x7d"

def codeAttributes : List String :=
  ["title", "borderStyle", "borderColor", "borderWidth", "bgColor", "titleBGColor"]

def dropSeparator : Text → Text
  | ':' :: t => t
  | '|' :: t => t
  | t => t

def attributeName? (t : Text) : Option Text :=
  codeAttributes.findSome? fun name => after? (name ++ "=") (dropSeparator t)

/-- Whether the tag can still end on this line with `{code}` behind it. -/
def tagCanEnd (t : Text) : Bool :=
  match breakFirst? isLineEnd "\x7d" t with
  | some (_, body) => occurs codeClosing body
  | none => false

/-- The text behind an attribute's name and the first character of its value,
which may be any but a newline, provided the tag can end behind it. -/
def attribute? (t : Text) : Option Text :=
  match attributeName? t with
  | some (c :: value) => if c != '\n' && tagCanEnd value then some value else none
  | _ => none

def tagEnd? : Text → Option Text
  | '}' :: body => if occurs codeClosing body then some body else none
  | _ => none

/-- Reads a value up to the end of the tag, over the attributes behind it; the
first `skip` characters belong to an attribute read already. -/
def valueEnd? : (skip : Nat) → Text → Option Text
  | _, [] => none
  | n + 1, _ :: t => valueEnd? n t
  | 0, c :: t =>
    match attribute? (c :: t) with
    | some value => valueEnd? (t.length - value.length) t
    | none =>
      match tagEnd? (c :: t) with
      | some body => some body
      | none => if c = '\n' then none else valueEnd? 0 t

def attributesEnd? (t : Text) : Option Text :=
  match attribute? t with
  | some value => valueEnd? 0 value
  | none => tagEnd? t

/-- The longest language of lower-case letters behind which the tag ends, and
the body. -/
def language? : Text → Option (Text × Text)
  | [] => none
  | c :: t =>
    if 'a' ≤ c ∧ c ≤ 'z' then
      match language? t with
      | some (language, body) => some (c :: language, body)
      | none => (attributesEnd? t).map ([c], ·)
    else none

def openingTag? (t : Text) : Option (Text × Text) :=
  ((after? ":" t).bind language?).or ((attributesEnd? t).map ([], ·))

def trimNewlines (body : Text) : Text := (dropNewline (dropNewline body).reverse).reverse

def fence (language body : Text) : Text :=
  "```".toList ++ language ++ '\n' :: trimNewlines body ++ "\n```".toList

def codeSpan : Pattern := fun t => do
  let tag ← after? codeOpening t
  let (language, opened) ← openingTag? tag
  let (body, rest) ← breakFirst? (fun _ => false) codeClosing opened
  return ⟨fence language body, rest⟩

def codeBlock : Rewrite := ⟨.anywhere, codeSpan⟩

end JiraMarkup
