import JiraMarkup.Markdown.HtmlTag
import JiraMarkup.Markdown.Link

/-!
# Block structure

A document is read block by block. The blocks that hold others are open at the
same time, one inside the other; each line first says which of them it
continues. A block without blocks inside is read to its end at once.
-/

namespace JiraMarkup.Markdown

/-! ## Open blocks -/

inductive Container where
  | quote
  /-- Items with one mark, numbered from `first` unless the mark is a bullet's. -/
  | list (tight : Bool) (mark : Char) (first : Nat)
  | item (indent : Nat)

structure Frame where
  container : Container
  /-- Last block first. -/
  content : List (Block Text)

def Frame.close (f : Frame) : Block Text :=
  match f.container with
  | .quote => .quote f.content.reverse
  | .item _ => .item f.content.reverse
  | .list tight mark first =>
    .list (if mark = '.' || mark = ')' then some first else none) tight f.content.reverse

structure Outline where
  extensions : Extensions
  /-- The open blocks, innermost first. -/
  frames : List Frame
  content : List (Block Text)
  definitions : List Definition
  lastLineBlank : Bool
  /-- An item has begun, and nothing has been read of it but its marker. -/
  itemIsEmpty : Bool

namespace Outline

def append (o : Outline) (b : Block Text) : Outline :=
  match o.frames with
  | [] => { o with content := b :: o.content }
  | f :: frames => { o with frames := { f with content := b :: f.content } :: frames }

def openFrame (o : Outline) (c : Container) : Outline := { o with frames := ⟨c, []⟩ :: o.frames }

def pop (o : Outline) : Outline :=
  match o.frames with
  | [] => o
  | f :: frames => ({ o with frames := frames }).append f.close

def popTo (o : Outline) (depth : Nat) : Outline :=
  (o.frames.take (o.frames.length - depth)).foldl (fun o _ => o.pop) o

/-- Closes an item that begins with two blank lines: what follows is outside. -/
def finishEmptyItem (o : Outline) : Outline :=
  let closed := match o.frames with
    | ⟨.item _, _⟩ :: _ => if o.itemIsEmpty && o.lastLineBlank then o.pop else o
    | _ => o
  { closed with itemIsEmpty := false }

def Frame.loosen (f : Frame) : Frame :=
  match f.container with
  | .list _ mark first => { f with container := .list false mark first }
  | _ => f

/-- Closes a list that waits for another item, and makes the list of the
current item loose if a blank line came before. -/
def finishList (o : Outline) : Outline :=
  let o := o.finishEmptyItem
  let o := match o.frames with
    | ⟨.list .., _⟩ :: _ => o.pop
    | _ => o
  if o.lastLineBlank then
    let frames := match o.frames with
      | f :: g :: frames => f :: Frame.loosen g :: frames
      | frames => frames
    { o with frames := frames, lastLineBlank := false }
  else o

def continueList (o : Outline) (m : Marker) : Outline :=
  let o := o.finishEmptyItem
  let fresh := fun (o : Outline) =>
    { o.finishList.openFrame (.list true m.mark m.number) with lastLineBlank := false }
  match o.frames with
  | ⟨.list tight mark first, content⟩ :: frames =>
    if mark = m.mark then
      { o with frames := ⟨.list (tight && !o.lastLineBlank) mark first, content⟩ :: frames,
               lastLineBlank := false }
    else fresh o
  | _ => fresh o

/-! ## Continued blocks -/

def continued : List Container → Cursor → Nat × Cursor
  | [], c => (0, c)
  | .list .. :: containers, c =>
    let (n, c) := continued containers c
    (n + 1, c)
  | .quote :: containers, c =>
    let (_, inner) := c.skip 3
    match inner.rest with
    | '>' :: _ =>
      let (n, c) := continued containers (inner.advance.skip 1).2
      (n + 1, c)
    | _ => (0, c)
  | .item indent :: containers, c =>
    let (met, inner) := c.skipExactly indent
    if met || inner.atLineEnd then
      let (n, c) := continued containers inner
      (n + 1, c)
    else (0, c)

def continueLine (o : Outline) (line : Text) : Bool × Cursor :=
  let (n, c) := continued (o.frames.reverse.map (·.container)) (.ofLine line)
  (n == o.frames.length, c)

/-! ## Interruptions -/

/-- Whether a text that follows running text begins a block of its own. In a
table, or where the line leaves an open block, every item does; in a paragraph
only a bullet or the number one, and not an empty item. -/
def interrupts (anyItem : Bool) (t : Text) : Bool :=
  startsWithLineEnd t || (thematicBreak? t).isSome || (hashHeading? t).isSome ||
    (fence? t).isSome || t.head? == some '>' ||
    (itemStart? t).any (fun (m, rest) =>
      anyItem || (m.isBullet || m.number == 1) && !isEmptyItem rest) ||
    (match t with
      | '<' :: t => (rawEnd? t).isSome || startsBlockTag t
      | _ => false)

def tableHead? (o : Outline) (header next : Text) : Option (List Alignment × Text) := do
  guard o.extensions.tables
  let columns ← headerColumns? header
  let (all, c) := o.continueLine next
  guard all
  let (alignments, rest) ← delimiterRow? c
  guard (alignments.length = columns)
  return (alignments, rest)

def interruptsParagraph (o : Outline) (all : Bool) (t : Text) : Bool :=
  interrupts (!all) t || t.head? == some '|' &&
    (let (header, ending, next) := takeAnyLine t
     !ending.isEmpty && (o.tableHead? header next).isSome)

/-! ## Running text -/

structure TextLine where
  line : Text
  ending : Text
  rest : Text

def TextLine.ofText (t : Text) : TextLine :=
  let (line, ending, rest) := takeAnyLine t
  ⟨line, ending, rest⟩

inductive Sequel where
  | other
  | underline (level : Nat) (rest : Text)

def continuation (o : Outline) (t : Text) : Except Sequel Text :=
  let (all, c) := o.continueLine t
  let (missing, inner) := c.skip 4
  let sequel := if all then underline? inner.rest else none
  match sequel with
  | some (level, rest) =>
    if missing = 0 then .ok c.rest else .error (.underline level rest)
  | none =>
    if missing != 0 && o.interruptsParagraph all inner.rest || inner.skipAll.atLineEnd then
      .error .other
    else .ok c.rest

def paragraphLines (o : Outline) : (fuel : Nat) → Text → List TextLine × Sequel
  | 0, _ => ([], .other)
  | fuel + 1, t =>
    match o.continuation t with
    | .error sequel => ([], sequel)
    | .ok line =>
      let line := TextLine.ofText line
      let (lines, sequel) := paragraphLines o fuel line.rest
      (line :: lines, sequel)

def joinSource : List TextLine → Text
  | [] => []
  | [l] => l.line
  | l :: ls => l.line ++ l.ending ++ joinSource ls

def takeDefinitions : (fuel : Nat) → List TextLine → List Definition × List TextLine
  | 0, lines => ([], lines)
  | fuel + 1, lines =>
    match definition? (joinSource lines) with
    | none => ([], lines)
    | some (d, rest) =>
      -- a definition ends with its line
      let kept := if rest.isEmpty then 0 else (splitCount rest)
      let (ds, lines) := takeDefinitions fuel (lines.drop (lines.length - kept))
      (d :: ds, lines)
where
  splitCount : Text → Nat
    | [] => 1
    | '\r' :: '\n' :: t => splitCount t + 1
    | c :: t => if isLineBreak c then splitCount t + 1 else splitCount t

/-! ## Tables -/

def tableRows (o : Outline) : (fuel : Nat) → Text → List (List Text) × Text
  | 0, t => ([], t)
  | fuel + 1, t =>
    let (all, c) := o.continueLine t
    let row := c.skipAll.rest
    if !all || interrupts true row then ([], t)
    else
      let line := TextLine.ofText row
      let (rows, rest) := tableRows o fuel line.rest
      (cellsOf line.line :: rows, rest)

/-! ## Code -/

/-- A line of code behind the columns left over from a tab; a carriage return
in front of its line feed is dropped. -/
def codeLine (pending : Nat) (line : Text) : Text :=
  let line := match line.reverse with
    | last :: '\r' :: front => (last :: front).reverse
    | _ => line
  List.replicate pending ' ' ++ line

def fencedLines (o : Outline) (mark : Char) (n indent : Nat) :
    (fuel : Nat) → Text → Text × Text
  | 0, t => ([], t)
  | fuel + 1, t =>
    let (all, c) := o.continueLine t
    if !all then ([], t)
    else
      let c := (c.skip indent).2
      let (missing, closing) := c.skip (4 - indent)
      match (if missing = 0 then none else closingFence? mark n closing.rest) with
      | some rest => ([], (blankLine? rest).getD rest)
      | none =>
        let (line, rest) := takeFeedLine c.rest
        let (lines, rest) := fencedLines o mark n indent fuel rest
        (codeLine c.pending line ++ lines, rest)

def indentedLines (o : Outline) : (fuel : Nat) → Cursor → List (Bool × Text) × Text
  | 0, c => ([], c.rest)
  | fuel + 1, c =>
    let blank := (blankLine? c.rest).isSome
    let (line, rest) := takeFeedLine c.rest
    let (all, next) := o.continueLine rest
    let (met, next) := next.skipExactly 4
    if !all || !(met || next.atLineEnd) || next.rest.isEmpty then
      ([(blank, codeLine c.pending line)], rest)
    else
      let (lines, rest) := indentedLines o fuel next
      ((blank, codeLine c.pending line) :: lines, rest)

/-! ## HTML -/

/-- The lines of an HTML block. With an end it goes on through the line that
holds the end, without one up to a blank line. -/
def htmlLines (o : Outline) (ending : Option String) : (fuel : Nat) → Cursor → Text × Text
  | 0, c => ([], c.rest)
  | fuel + 1, c =>
    let (line, rest) := takeFeedLine c.rest
    let shown := codeLine c.pending line
    let (all, next) := o.continueLine rest
    let ends := match ending with
      | some mark => occurs mark line
      | none => next.atLineEnd
    if !all || ends then (shown, rest)
    else if next.rest.isEmpty || ending.isNone && (blankLine? next.rest).isSome then
      (shown, next.rest)
    else
      let (lines, rest) := htmlLines o ending fuel next
      (shown ++ lines, rest)

/-! ## Blocks -/

def readText (o : Outline) : (fuel : Nat) → TextLine → Outline × Text
  | 0, first => (o, first.rest)
  | fuel + 1, first =>
    let (more, sequel) := o.paragraphLines (first.rest.length + 1) first.rest
    let lines := first :: more
    let (definitions, kept) := takeDefinitions lines.length lines
    let o := { o with definitions := o.definitions ++ definitions }
    match kept with
    | [] =>
      let rest := ((lines.getLast?).getD first).rest
      match sequel with
      | .underline _ _ =>
        -- an underline of nothing is text, unless it is a thematic break
        let (_, c) := o.continueLine rest
        let inner := (c.skip 4).2
        if (thematicBreak? inner.rest).isSome then (o.finishList, rest)
        else readText o fuel (.ofText c.skipAll.rest)
      | .other => (o.finishList, rest)
    | head :: body =>
      let head := { head with line := head.line.dropWhile isSpaceOrTab }
      match o.tableHead? head.line head.rest with
      | some (alignments, rest) =>
        let (rows, rest) := o.tableRows (rest.length + 1) rest
        (o.finishList.append (.table alignments (cellsOf head.line) rows), rest)
      | none =>
        let rest := ((body.getLast?).getD head).rest
        let source := joinSource (head :: body)
        match sequel with
        | .underline level rest => (o.finishList.append (.heading level source), rest)
        | .other => (o.finishList.append (.paragraph source), rest)

def readLeaf (o : Outline) (c : Cursor) : Outline × Text :=
  let (missing, inner) := c.skip 4
  let indent := 4 - missing
  let t := inner.rest
  let fuel := t.length + 1
  if missing = 0 then
    let o := o.finishList
    let (lines, rest) := o.indentedLines fuel inner
    let kept := (lines.reverse.dropWhile (·.1)).reverse
    let blankAtEnd := kept.length != lines.length
    ({ o.append (.code [] (kept.flatMap (·.2))) with lastLineBlank := blankAtEnd }, rest)
  else
    let html := match t with
      | '<' :: behind =>
        match rawEnd? behind with
        | some ending => some (some ending)
        | none => if startsBlockTag behind || isLoneTag behind then some none else none
      | _ => none
    match html with
    | some ending =>
      let o := o.finishList
      let (lines, rest) := o.htmlLines ending fuel { inner with pending := max c.pending indent }
      (o.append (.html lines), rest)
    | none =>
      match thematicBreak? t with
      | some rest => (o.finishList.append .rule, rest)
      | none =>
        match hashHeading? t with
        | some (level, behind) =>
          let line := TextLine.ofText behind
          let content := hashContent (line.line.dropWhile isInlineSpace)
          (o.finishList.append (.heading level content), line.rest)
        | none =>
          match fence? t with
          | some (mark, n) =>
            let o := o.finishList
            let (info, rest) := takeFeedLine (t.drop n)
            let info := ((info.dropWhile isInlineSpace).reverse.dropWhile isSpace).reverse
            let (lines, rest) := o.fencedLines mark n indent fuel rest
            (o.append (.code (unescape false 0 info) lines), rest)
          | none => o.readText fuel (.ofText t)

/-- Opens the blocks that begin at a position. Nothing is left to read of the
line if an item begins and the rest is blank. -/
def openBlocks : (fuel : Nat) → Outline → Cursor → Outline × Except Text Cursor
  | 0, o, c => (o, .ok c)
  | fuel + 1, o, c =>
    let (missing, inner) := c.skip 4
    let indent := 4 - missing
    if missing = 0 then (o, .ok c)
    else match inner.rest with
      | '>' :: _ => openBlocks fuel (o.finishList.openFrame .quote) (inner.advance.skip 1).2
      | t =>
        match (if (thematicBreak? t).isSome then none else itemStart? t) with
        | none => (o, .ok c)
        | some (m, _) =>
          let behind := { inner with rest := t.drop m.width, column := inner.column + m.width }
          let o := o.continueList m
          match blankLine? behind.rest with
          | some rest =>
            ({ o.openFrame (.item (indent + m.width + 1)) with itemIsEmpty := true }, .error rest)
          | none =>
            let spaced := (behind.skip 1).2
            let (missing, content) := spaced.skip 4
            let (extra, spaced) := if missing = 0 then (0, spaced) else (4 - missing, content)
            openBlocks fuel (o.openFrame (.item (indent + m.width + 1 + extra))) spaced

def readBlock (o : Outline) (t : Text) : Outline × Text :=
  let (n, c) := continued (o.frames.reverse.map (·.container)) (.ofLine t)
  let (o, position) := openBlocks (t.length + 1) (o.popTo n) c
  match position with
  | .error rest => (o, rest)
  | .ok c =>
    match blankLine? c.rest with
    | some rest =>
      match o.frames with
      | [] => (o, rest)
      | ⟨.quote, _⟩ :: _ => (o, rest)
      | _ => ({ o with lastLineBlank := true }, rest)
    | none => o.readLeaf c

def readBlocks : (fuel : Nat) → Outline → Text → Outline
  | fuel + 1, o, c :: t => let (o, rest) := o.readBlock (c :: t); readBlocks fuel o rest
  | _, o, _ => o

end Outline

def outline (extensions : Extensions) (t : Text) : List (Block Text) × List Definition :=
  let o := Outline.readBlocks t.length ⟨extensions, [], [], [], false, false⟩ t
  let o := o.popTo 0
  (o.content.reverse, o.definitions)

end JiraMarkup.Markdown
