import JiraMarkup.Markdown.Line

/-!
# HTML in Markdown

Tags, comments and the like that pass through as they are: inside a line, or
as the start of a block. The scanners begin behind the opening angle bracket
and give the text behind the construct.
-/

namespace JiraMarkup.Markdown

/-! ## Tags -/

def isTagNameChar (c : Char) : Bool := c.isAlphanum || c == '-'

/-- Skips white space inside a tag; a tag of a single line may not go on
behind a line end. -/
def tagSpace? (multiline : Bool) (t : Text) : Option Text :=
  let rest := t.dropWhile (if multiline then isSpace else isInlineSpace)
  if startsWithLineEnd rest then none else some rest

def attributeValue? (multiline : Bool) : Text → Option Text
  | [] => none
  | q :: t =>
    if q = '"' || q = '\x27' then
      let value := t.takeWhile (· != q)
      if multiline || !value.any isLineBreak then after? (String.singleton q) (t.dropWhile (· != q))
      else none
    else
      let bare := fun c => !isSpace c && !"\"\x27=<>\x60".toList.contains c
      if bare q then some (t.dropWhile bare) else none

def htmlAttribute? (multiline : Bool) : Text → Option Text
  | [] => none
  | c :: t =>
    if c.isAlpha || c == '_' || c == ':' then
      let rest := t.dropWhile fun c => c.isAlphanum || c == '_' || c == '.' || c == ':' || c == '-'
      let spaced := rest.dropWhile (if multiline then isSpace else isInlineSpace)
      match spaced with
      | '=' :: value =>
        attributeValue? multiline (value.dropWhile (if multiline then isSpace else isInlineSpace))
      | _ => if !multiline && spaced.head?.any isLineBreak then none else some rest
    else none

def htmlAttributes? (multiline : Bool) : (fuel : Nat) → Text → Option Text
  | 0, _ => none
  | fuel + 1, t =>
    match tagSpace? multiline t with
    | none => none
    | some rest =>
      if rest.head? = some '/' || rest.head? = some '>' then some rest
      else if rest.length = t.length then none
      else (htmlAttribute? multiline rest).bind (htmlAttributes? multiline fuel)

def htmlTag? (multiline : Bool) : Text → Option Text
  | '/' :: c :: t =>
    if c.isAlpha then after? ">" ((t.dropWhile isTagNameChar).dropWhile isInlineSpace) else none
  | c :: t =>
    if c.isAlpha then do
      let rest ← htmlAttributes? multiline (t.length + 1) (t.dropWhile isTagNameChar)
      let rest := rest.dropWhile isInlineSpace
      after? ">" ((after? "/" rest).getD rest)
    else none
  | [] => none

/-! ## Comments and declarations inside a line -/

def comment? (t : Text) : Option Text := do
  let body ← after? "!--" t
  match body.dropWhile (· == '-') with
  | '>' :: rest => return rest
  | body => (breakFirst? (fun _ => false) "-->" body).map (·.2)

/-- The first run of closing brackets must end it. -/
def characterData? (t : Text) : Option Text := do
  let body ← after? "![CDATA[" t
  let behind := body.dropWhile (· != ']')
  guard !behind.isEmpty
  after? ">" (behind.dropWhile (· == ']'))

def declaration? : Text → Option Text
  | '!' :: c :: t => if c.isAlpha then after? ">" (t.dropWhile (· != '>')) else none
  | _ => none

def instruction? (t : Text) : Option Text := do
  let body ← after? "?" t
  (breakFirst? (fun _ => false) "?>" body).map (·.2)

def inlineHtml? (t : Text) : Option Text :=
  (comment? t).or ((characterData? t).or ((declaration? t).or
    ((instruction? t).or (htmlTag? true t))))

/-! ## Autolinks -/

def addressLink? : Text → Option (Text × Text)
  | [] => none
  | c :: t =>
    let scheme := t.takeWhile fun c => c.isAlphanum || c == '.' || c == '-' || c == '+'
    if c.isAlpha && 1 ≤ scheme.length && scheme.length ≤ 31 then do
      let path ← after? ":" (t.drop scheme.length)
      let body := path.takeWhile fun c => ' ' < c && c != '<' && c != '>'
      let rest ← after? ">" (path.drop body.length)
      return (c :: scheme ++ ':' :: body, rest)
    else none

def isMailboxChar (c : Char) : Bool :=
  c.isAlphanum || ".!#$%&\x27*+/=?^_\x60\x7b|\x7d~-".toList.contains c

def domainLabel? (t : Text) : Option (Text × Text) :=
  let label := t.takeWhile fun c => c.isAlphanum || c == '-'
  if label.isEmpty || 63 < label.length || label.head? = some '-' || label.getLast? = some '-' then
    none
  else some (label, t.drop label.length)

def domain? : (fuel : Nat) → Text → Option (Text × Text)
  | 0, _ => none
  | fuel + 1, t =>
    match domainLabel? t with
    | none => none
    | some (label, '.' :: rest) =>
      (domain? fuel rest).map fun (domain, rest) => (label ++ '.' :: domain, rest)
    | some found => some found

def mailLink? (t : Text) : Option (Text × Text) := do
  let mailbox := t.takeWhile isMailboxChar
  guard !mailbox.isEmpty
  let rest ← after? "@" (t.drop mailbox.length)
  let (domain, rest) ← domain? (rest.length + 1) rest
  let rest ← after? ">" rest
  return (mailbox ++ '@' :: domain, rest)

/-! ## Blocks -/

def blockTags : List String :=
  ["address", "article", "aside", "base", "basefont", "blockquote", "body", "caption", "center",
    "col", "colgroup", "dd", "details", "dialog", "dir", "div", "dl", "dt", "fieldset",
    "figcaption", "figure", "footer", "form", "frame", "frameset", "h1", "h2", "h3", "h4", "h5",
    "h6", "head", "header", "hr", "html", "iframe", "legend", "li", "link", "main", "menu",
    "menuitem", "nav", "noframes", "ol", "optgroup", "option", "p", "param", "search", "section",
    "summary", "table", "tbody", "td", "tfoot", "th", "thead", "title", "tr", "track", "ul"]

def lower (t : Text) : Text := t.map Char.toLower

def rawEnd? (t : Text) : Option String :=
  let tag := ["pre", "style", "script", "textarea"].find? fun name =>
    lower (t.take name.length) == name.toList &&
      (t.drop name.length).head?.all fun c => isSpace c || c == '>'
  match tag with
  | some name => some ("</" ++ name ++ ">")
  | none =>
    if (after? "!--" t).isSome then some "-->"
    else if (after? "?" t).isSome then some "?>"
    else if (after? "![CDATA[" t).isSome then some "]]>"
    else match t with
      | '!' :: c :: _ => if c.isAlpha then some ">" else none
      | _ => none

def startsBlockTag (t : Text) : Bool :=
  let t := (after? "/" t).getD t
  let name := t.takeWhile Char.isAlphanum
  let rest := t.drop name.length
  blockTags.any (·.toList == lower name) &&
    (rest.head?.all (fun c => isSpace c || c == '>') || (after? "/>" rest).isSome)

def isLoneTag (t : Text) : Bool := (htmlTag? false t).any fun rest => (blankLine? rest).isSome

end JiraMarkup.Markdown
