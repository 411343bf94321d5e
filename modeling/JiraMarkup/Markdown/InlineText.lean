import JiraMarkup.Markdown.Emphasis
import JiraMarkup.Markdown.HtmlTag
import JiraMarkup.Markdown.Link

/-!
# Inline elements

The source of a block of running text is read from left to right. Code spans,
inline HTML and links are settled as soon as their end is reached; emphasis is
matched inside a link when the link closes, and at the end for all the rest.
-/

namespace JiraMarkup.Markdown

structure Context where
  extensions : Extensions
  definitions : List Definition
  /-- In a cell of a table a backslash escapes a bar before all else. -/
  inTable : Bool

/-! ## Code spans -/

def codeEnd? (n : Nat) : (skip : Nat) → Text → Option (Text × Text)
  | _, [] => none
  | k + 1, c :: t => (codeEnd? n k t).map fun (a, rest) => (c :: a, rest)
  | 0, c :: t =>
    let m := runLength '\x60' (c :: t)
    if m = n && 0 < n then some ([], t.drop (n - 1))
    else (codeEnd? n (m - 1) t).map fun (a, rest) => (c :: a, rest)

/-- A line end and the indentation behind it count as one space. -/
def codeLines (inTable : Bool) : (afterBreak : Bool) → Text → Text
  | _, [] => []
  | _, '\r' :: '\n' :: t => ' ' :: codeLines inTable true t
  | _, '\\' :: '|' :: t =>
    if inTable then '|' :: codeLines inTable false t
    else '\\' :: '|' :: codeLines inTable false t
  | afterBreak, c :: t =>
    if isLineBreak c then ' ' :: codeLines inTable true t
    else if afterBreak && isSpaceOrTab c then codeLines inTable true t
    else c :: codeLines inTable false t

/-- Drops one space at each end, if there is one at both and other text too. -/
def codeContent (inTable : Bool) (source : Text) : Text :=
  let content := codeLines inTable false source
  if content.head? = some ' ' && content.getLast? = some ' ' && !content.all (· == ' ') then
    (content.drop 1).dropLast
  else content

/-! ## Reading -/

structure Bracket where
  image : Bool
  /-- Links do not nest: inside a link an earlier bracket opens none. -/
  active : Bool
  source : Text

def Bracket.asText (b : Bracket) : Piece := .inline (.text (if b.image then "![" else "[").toList)

structure Reader where
  pieces : List Piece
  /-- The open brackets, innermost first, with the pieces before each. -/
  brackets : List (Bracket × List Piece)
  /-- The end of the text that is being read, last character first. -/
  pending : Text
  before : Option Char

namespace Reader

def flush (r : Reader) : Reader :=
  if r.pending.isEmpty then r
  else { r with pieces := .inline (.text r.pending.reverse) :: r.pieces, pending := [] }

def push (r : Reader) (p : Piece) (before : Option Char) : Reader :=
  let r := r.flush
  { r with pieces := p :: r.pieces, before := before }

def pushText (r : Reader) (t : Text) : Reader :=
  { r with pending := t.reverse ++ r.pending, before := t.getLast?.or r.before }

def openBracket (r : Reader) (image : Bool) (source : Text) : Reader :=
  let r := r.flush
  { r with pieces := [], brackets := (⟨image, true, source⟩, r.pieces) :: r.brackets,
           before := some '[' }

def dropBracket (r : Reader) : Reader :=
  match r.brackets with
  | [] => r
  | (b, outer) :: brackets =>
    { r with pieces := r.pieces ++ b.asText :: outer, brackets := brackets }

def dropBrackets (r : Reader) : List Piece :=
  r.brackets.foldl (fun pieces (b, outer) => pieces ++ b.asText :: outer) r.pieces

def breakLine (r : Reader) : Reader :=
  let kept := r.pending.dropWhile isInlineSpace
  let spaces := r.pending.length - kept.length
  let element := if 2 ≤ spaces then Inline.hardBreak else .softBreak
  { r with pending := kept }.push (.inline element) none

end Reader

def dropIndentation (t : Text) : Text := t.dropWhile isSpaceOrTab

def linkTarget? (ctx : Context) (source rest : Text) : Option (Target × Text) :=
  let shortcut := do
    let (label, behind) ← label? source
    guard (behind.length = rest.length)
    lookUp ctx.definitions label
  match inlineTarget? ctx.inTable rest with
  | some found => some found
  | none =>
    match after? "[]" rest with
    | some behind => shortcut.map (·, behind)
    | none =>
      match (after? "[" rest).bind label? with
      | some (label, behind) => (lookUp ctx.definitions label).map (·, behind)
      | none => shortcut.map (·, rest)

def closeBracket (ctx : Context) (r : Reader) (rest : Text) : Reader × Text :=
  match r.brackets with
  | [] => (r.pushText [']'], rest)
  | (b, outer) :: brackets =>
    let r := r.flush
    if !b.active then (r.dropBracket.pushText [']'], rest)
    else match linkTarget? ctx b.source rest with
      | none => (r.dropBracket.pushText [']'], rest)
      | some (target, behind) =>
        let content := matchRuns r.pieces.reverse
        let element :=
          if b.image then Inline.image target.destination target.title content
          else .link target.destination target.title content
        let brackets :=
          if b.image then brackets
          else brackets.map fun (b, pieces) => ({ b with active := b.active && b.image }, pieces)
        -- the link ends in its last bracket, which is the character before `behind`
        let last := if behind.length = rest.length then ']'
          else ((rest.take (rest.length - behind.length)).getLast?).getD ']'
        ({ r with pieces := .inline element :: outer, brackets := brackets, before := some last },
          behind)

def readCode (ctx : Context) (r : Reader) (n : Nat) (rest : Text) : Reader × Text :=
  match codeEnd? n 0 rest with
  | some (source, behind) =>
    (r.push (.inline (.code (codeContent ctx.inTable source))) (some '\x60'), behind)
  | none => (r.pushText (List.replicate n '\x60'), rest)

def readEscape (ctx : Context) (r : Reader) : Text → Reader × Text
  | [] => (r.pushText ['\\'], [])
  | '\\' :: '|' :: t =>
    if ctx.inTable then (r.pushText ['|'], t) else (r.pushText ['\\'], '|' :: t)
  | c :: t =>
    if c = '\x60' then
      -- the first backtick is escaped; the others may still begin a code span
      let n := runLength c t
      let r := r.pushText [c]
      if n = 0 then (r, t)
      else match codeEnd? n 0 (t.drop n) with
        | some _ => readCode ctx r n (t.drop n)
        | none => (r.pushText (List.replicate n c), t.drop n)
    else if isAsciiPunctuation c then (r.pushText [c], t)
    else if isLineBreak c then
      (r.push (.inline .hardBreak) none, dropIndentation ((lineEnd? (c :: t)).getD t))
    else (r.pushText ['\\'], c :: t)

def readAngle (r : Reader) (rest : Text) : Reader × Text :=
  match addressLink? rest with
  | some (address, behind) => (r.push (.inline (.link address [] [.text address])) (some '>'), behind)
  | none =>
    match mailLink? rest with
    | some (address, behind) =>
      (r.push (.inline (.link ("mailto:".toList ++ address) [] [.text address])) (some '>'), behind)
    | none =>
      match inlineHtml? rest with
      | some behind =>
        let source := '<' :: rest.take (rest.length - behind.length)
        (r.push (.inline (.html source)) (some '>'), behind)
      | none => (r.pushText ['<'], rest)

def readRun (r : Reader) (mark : Char) (t : Text) : Reader × Text :=
  let n := runLength mark t + 1
  let rest := t.drop (n - 1)
  let run := Run.between r.before mark n rest.head?
  if (run.canOpen || run.canClose) && (mark != '~' || n ≤ 2) then
    (r.push (.run run) (some mark), rest)
  else (r.pushText (List.replicate n mark), rest)

def readChar (ctx : Context) (r : Reader) (c : Char) (t : Text) : Reader × Text :=
  match c with
  | '\n' => (r.breakLine, dropIndentation t)
  | '\r' => (r.breakLine, dropIndentation ((lineEnd? (c :: t)).getD t))
  | '\\' => readEscape ctx r t
  | '\x60' =>
    let n := runLength c t + 1
    readCode ctx r n (t.drop (n - 1))
  | '<' => readAngle r t
  | '&' =>
    match entity? t with
    | some (chars, rest) => (r.push (.inline (.text chars)) (some ';'), rest)
    | none => (r.pushText [c], t)
  | '!' =>
    match t with
    | '[' :: t => (r.openBracket true t, t)
    | _ => (r.pushText [c], t)
  | '[' => (r.openBracket false t, t)
  | ']' => closeBracket ctx r t
  | '*' => readRun r c t
  | '_' => readRun r c t
  | '~' => if ctx.extensions.strikethrough then readRun r c t else (r.pushText [c], t)
  | _ => (r.pushText [c], t)

def readAll (ctx : Context) : (fuel : Nat) → Reader → Text → Reader
  | fuel + 1, r, c :: t => let (r, rest) := readChar ctx r c t; readAll ctx fuel r rest
  | _, r, _ => r

def readInlines (ctx : Context) (source : Text) : List Inline :=
  let r := readAll ctx source.length ⟨[], [], [], none⟩ source
  let r := { r with pending := r.pending.dropWhile isInlineSpace }.flush
  matchRuns r.dropBrackets.reverse

end JiraMarkup.Markdown
