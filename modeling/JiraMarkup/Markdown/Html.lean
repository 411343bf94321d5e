import JiraMarkup.Markdown.Tree

/-!
# HTML

Markdown trees as HTML. Output grows at its head: the last character written
stands first, so that an element can see whether it begins a line.
-/

namespace JiraMarkup.Markdown.Html

abbrev Output := List Char

def put (t : Text) (out : Output) : Output := t.reverse ++ out

def puts (s : String) (out : Output) : Output := put s.toList out

def freshLine : Output → Output
  | [] => []
  | c :: out => if c = '\n' then c :: out else '\n' :: c :: out

/-! ## Escapes -/

def escapeChar (c : Char) : Text :=
  match c with
  | '&' => "&amp;".toList
  | '<' => "&lt;".toList
  | '>' => "&gt;".toList
  | _ => [c]

def escapeText (t : Text) : Text := t.flatMap escapeChar

def escapeAttribute (t : Text) : Text :=
  t.flatMap fun c => if c = '"' then "&quot;".toList else escapeChar c

def isPlainByte (b : UInt8) : Bool :=
  let c := Char.ofNat b.toNat
  c.isAlphanum || "!#$%()*+,-./:;=?@_~".toList.contains c

def percent (b : UInt8) : Text :=
  let digit := fun n => (Nat.digitChar n).toUpper
  ['%', digit (b.toNat / 16), digit (b.toNat % 16)]

def escapeByte (b : UInt8) : Text :=
  if b == 0x26 then "&amp;".toList
  else if b == 0x27 then "&#x27;".toList
  else if isPlainByte b then [Char.ofNat b.toNat]
  else percent b

def escapeAddress (t : Text) : Text :=
  t.flatMap fun c => (String.singleton c).toUTF8.toList.flatMap escapeByte

/-! ## Inline elements -/

def titleAttribute (title : Text) : Text :=
  if title.isEmpty then [] else "\" title=\"".toList ++ escapeAttribute title

mutual

def description : Inline → Text
  | .text t => escapeAttribute t
  | .code t => escapeAttribute t
  | .html t => escapeAttribute t
  | .softBreak => [' ']
  | .hardBreak => [' ']
  | .emphasis content => descriptions content
  | .strong content => descriptions content
  | .strikethrough content => descriptions content
  | .link _ _ content => descriptions content
  | .image _ _ content => descriptions content

def descriptions : List Inline → Text
  | [] => []
  | i :: is => description i ++ descriptions is

end

mutual

def inline : Inline → Text
  | .text t => escapeText t
  | .softBreak => ['\n']
  | .hardBreak => "<br />\n".toList
  | .code t => "<code>".toList ++ escapeText t ++ "</code>".toList
  | .html t => t
  | .emphasis content => "<em>".toList ++ inlines content ++ "</em>".toList
  | .strong content => "<strong>".toList ++ inlines content ++ "</strong>".toList
  | .strikethrough content => "<del>".toList ++ inlines content ++ "</del>".toList
  | .link destination title content =>
    "<a href=\"".toList ++ escapeAddress destination ++ titleAttribute title ++ "\">".toList ++
      inlines content ++ "</a>".toList
  | .image destination title content =>
    "<img src=\"".toList ++ escapeAddress destination ++ "\" alt=\"".toList ++
      descriptions content ++ titleAttribute title ++ "\" />".toList

def inlines : List Inline → Text
  | [] => []
  | i :: is => inline i ++ inlines is

end

/-! ## Blocks -/

def cellTag (tag : String) (alignment : Alignment) (content : List Inline) : Text :=
  let style := match alignment with
    | .unset => ""
    | .left => " style=\"text-align: left\""
    | .center => " style=\"text-align: center\""
    | .right => " style=\"text-align: right\""
  ("<" ++ tag ++ style ++ ">").toList ++ inlines content ++ ("</" ++ tag ++ ">").toList

def cells (tag : String) : List Alignment → List (List Inline) → Text
  | [], _ => []
  | a :: as, [] => cellTag tag a [] ++ cells tag as []
  | a :: as, c :: cs => cellTag tag a c ++ cells tag as cs

def codeTag (info : Text) : Text :=
  let language := info.takeWhile (· != ' ')
  if language.isEmpty then "<pre><code>".toList
  else "<pre><code class=\"language-".toList ++ escapeAttribute language ++ "\">".toList

mutual

/-- Writes a block; in a tight item a paragraph has no tags. -/
def block (tight : Bool) : Block (List Inline) → Output → Output
  | .paragraph content, out =>
    if tight then put (inlines content) out
    else freshLine out |> puts "<p>" |> put (inlines content) |> puts "</p>\n"
  | .heading level content, out =>
    freshLine out |> puts s!"<h{level}>" |> put (inlines content) |> puts s!"</h{level}>\n"
  | .rule, out => freshLine out |> puts "<hr />\n"
  | .code info content, out =>
    freshLine out |> put (codeTag info) |> put (escapeText content) |> puts "</code></pre>\n"
  | .html content, out => put content out
  | .quote content, out =>
    freshLine out |> puts "<blockquote>\n" |> blocks false content |> puts "</blockquote>\n"
  | .list start tight items, out =>
    match start with
    | none => freshLine out |> puts "<ul>\n" |> blocks tight items |> puts "</ul>\n"
    | some n =>
      let tag := if n = 1 then "<ol>\n" else s!"<ol start=\"{n}\">\n"
      freshLine out |> puts tag |> blocks tight items |> puts "</ol>\n"
  | .item content, out =>
    freshLine out |> puts "<li>" |> blocks tight content |> puts "</li>\n"
  | .table alignments head rows, out =>
    out |> puts "<table><thead><tr>" |> put (cells "th" alignments head)
      |> puts "</tr></thead><tbody>\n"
      |> put (rows.flatMap fun row =>
          "<tr>".toList ++ cells "td" alignments row ++ "</tr>\n".toList)
      |> puts "</tbody></table>\n"

def blocks (tight : Bool) : List (Block (List Inline)) → Output → Output
  | [], out => out
  | b :: bs, out => blocks tight bs (block tight b out)

end

def render (document : List (Block (List Inline))) : Text := (blocks false document []).reverse

end JiraMarkup.Markdown.Html
