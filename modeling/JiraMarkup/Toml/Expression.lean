import JiraMarkup.Toml.Value

/-!
# TOML expressions

The lines of a TOML document: headers, and keys with values. Here only their
shape is read; the content of keys and scalars is kept as written.
-/

namespace JiraMarkup.Toml

inductive Quotes where
  | basic
  | literal
  | multilineBasic
  | multilineLiteral
deriving DecidableEq

inductive Scalar where
  | quoted (quotes : Quotes) (closed : Bool) (body : Text)
  | bare (token : Text)

def Scalar.opening : Scalar → Nat
  | quoted .basic .. => 1
  | quoted .literal .. => 1
  | quoted .multilineBasic .. => 3
  | quoted .multilineLiteral .. => 3
  | bare _ => 0

structure RawKey where
  scalar : Scalar
  position : Position

inductive RawValue where
  | scalar (s : Scalar)
  | array (items : List (Position × RawValue))
  | table (entries : List (List RawKey × Position × RawValue))

inductive Expression where
  | header (ofArray : Bool) (path : List RawKey) (position : Position)
  | entry (path : List RawKey) (position : Position) (value : RawValue)

/-! ## Blanks and comments -/

def isGap (c : Char) : Bool := c == ' ' || c == '\t'

def skipGap (t : Text) : Text := t.dropWhile isGap

def isControl (c : Char) : Bool := c < ' ' && c != '\t' || c == '\x7f'

def newline? : Text → Option Text
  | '\n' :: t => some t
  | '\r' :: '\n' :: t => some t
  | _ => none

def fail {α : Type} (cause : Cause) (t : Text) : Except Fault α := .error ⟨cause, t.length⟩

def commentEnd : Text → Except Fault Text
  | [] => .ok []
  | c :: t =>
    if (newline? (c :: t)).isSome then .ok (c :: t)
    else if isControl c then fail .controlCharacter (c :: t)
    else commentEnd t

def skipComment (t : Text) : Except Fault Text :=
  match skipGap t with
  | '#' :: t => commentEnd t
  | t => .ok t

def skipLines : (fuel : Nat) → Text → Except Fault Text
  | 0, t => .ok t
  | fuel + 1, t => do
    let t ← skipComment t
    match newline? t with
    | some t => skipLines fuel t
    | none => return t

/-! ## Scalars -/

def lineString (quote : Char) (escapes : Bool) : Text → Text × Bool × Text
  | [] => ([], false, [])
  | c :: t =>
    if c = quote then ([], true, t)
    else if (newline? (c :: t)).isSome then ([], false, c :: t)
    else if escapes && c = '\\' then
      match t with
      | d :: t =>
        if (newline? (d :: t)).isSome then
          let (body, closed, rest) := lineString quote escapes (d :: t)
          (c :: body, closed, rest)
        else
          let (body, closed, rest) := lineString quote escapes t
          (c :: d :: body, closed, rest)
      | [] => ([c], false, [])
    else
      let (body, closed, rest) := lineString quote escapes t
      (c :: body, closed, rest)

/-- The body of a string that may hold line ends. Up to two quotes may stand
right before the closing three. -/
def multilineString (quote : Char) (escapes : Bool) : Text → Text × Bool × Text
  | [] => ([], false, [])
  | c :: t =>
    if c = quote && t.take 2 == [quote, quote] && t[2]? != some quote then ([], true, t.drop 2)
    else if c = quote && t.take 4 == [quote, quote, quote, quote] then
      ([quote, quote], true, t.drop 4)
    else if c = quote && t.take 3 == [quote, quote, quote] then ([quote], true, t.drop 3)
    else if escapes && c = '\\' then
      match t with
      | d :: t =>
        let (body, closed, rest) := multilineString quote escapes t
        (c :: d :: body, closed, rest)
      | [] => ([c], false, [])
    else
      let (body, closed, rest) := multilineString quote escapes t
      (c :: body, closed, rest)

def quoted? (t : Text) : Option (Scalar × Text) :=
  let scalar := fun quotes (found : Text × Bool × Text) =>
    some (Scalar.quoted quotes found.2.1 found.1, found.2.2)
  match t with
  | '"' :: '"' :: '"' :: t => scalar .multilineBasic (multilineString '"' true t)
  | '\x27' :: '\x27' :: '\x27' :: t => scalar .multilineLiteral (multilineString '\x27' false t)
  | '"' :: t => scalar .basic (lineString '"' true t)
  | '\x27' :: t => scalar .literal (lineString '\x27' false t)
  | _ => none

def isDelimiter (c : Char) : Bool := isGap c || "\r\n=,[]\x7b\x7d#\"\x27".toList.contains c

def isDateShaped (token : Text) : Bool :=
  token.length == 10 &&
    token.zipIdx.all fun (c, i) => if i = 4 ∨ i = 7 then c == '-' else c.isDigit

/-- A bare value and the text behind it. A date may be followed by a time
behind one space. -/
def bareValue (t : Text) : Text × Text :=
  let token := t.takeWhile (!isDelimiter ·)
  let rest := t.dropWhile (!isDelimiter ·)
  match rest with
  | ' ' :: d :: behind =>
    if isDateShaped token && d.isDigit then
      (token ++ ' ' :: (d :: behind).takeWhile (!isDelimiter ·),
        (d :: behind).dropWhile (!isDelimiter ·))
    else (token, rest)
  | _ => (token, rest)

/-! ## Keys -/

def rawKey (t : Text) : Except Fault (RawKey × Text) :=
  match quoted? t with
  | some (s, rest) => .ok (⟨s, t.length⟩, rest)
  | none =>
    let isKeyChar := fun c => !isDelimiter c && c != '.'
    let token := t.takeWhile isKeyChar
    if token.isEmpty then fail .expectedKey t
    else .ok (⟨.bare token, t.length⟩, t.dropWhile isKeyChar)

def rawPath : (fuel : Nat) → Text → Except Fault (List RawKey × Text)
  | 0, t => fail .expectedKey t
  | fuel + 1, t => do
    let (key, rest) ← rawKey t
    match skipGap rest with
    | '.' :: more =>
      let (path, rest) ← rawPath fuel (skipGap more)
      return (key :: path, rest)
    | rest => return ([key], rest)

/-! ## Values -/

def depthLimit : Nat := 80

mutual

def rawValue (depth : Nat) : (fuel : Nat) → Text → Except Fault (RawValue × Text)
  | 0, t => fail .expectedValue t
  | fuel + 1, t =>
    match quoted? t with
    | some (s, rest) => .ok (.scalar s, rest)
    | none =>
      match t with
      | '[' :: inner =>
        if depth = 0 then fail .nestedTooDeep t
        else do
          let (items, rest) ← rawItems (depth - 1) fuel inner
          return (.array items, rest)
      | '{' :: inner =>
        if depth = 0 then fail .nestedTooDeep t
        else do
          let (entries, rest) ← rawEntries (depth - 1) fuel inner
          return (.table entries, rest)
      | _ =>
        let (token, rest) := bareValue t
        if token.isEmpty then fail .expectedValue t else .ok (.scalar (.bare token), rest)
termination_by structural fuel => fuel

def rawItems (depth : Nat) :
    (fuel : Nat) → Text → Except Fault (List (Position × RawValue) × Text)
  | 0, t => fail .unclosedArray t
  | fuel + 1, t => do
    let t ← skipLines t.length t
    match t with
    | ']' :: rest => return ([], rest)
    | [] => fail .unclosedArray t
    | _ =>
      let (item, rest) ← rawValue depth fuel t
      let rest ← skipLines rest.length rest
      match rest with
      | ',' :: rest =>
        let (items, rest) ← rawItems depth fuel rest
        return ((t.length, item) :: items, rest)
      | ']' :: rest => return ([(t.length, item)], rest)
      | rest => fail .unclosedArray rest
termination_by structural fuel => fuel

def rawEntries (depth : Nat) :
    (fuel : Nat) → Text → Except Fault (List (List RawKey × Position × RawValue) × Text)
  | 0, t => fail .unclosedTable t
  | fuel + 1, t => do
    let t ← skipLines t.length t
    match t with
    | '}' :: rest => return ([], rest)
    | [] => fail .unclosedTable t
    | _ =>
      let (path, position, value, rest) ← rawEntry depth fuel t
      let rest ← skipLines rest.length rest
      match rest with
      | ',' :: rest =>
        let (entries, rest) ← rawEntries depth fuel rest
        return ((path, position, value) :: entries, rest)
      | '}' :: rest => return ([(path, position, value)], rest)
      | rest => fail .unclosedTable rest
termination_by structural fuel => fuel

def rawEntry (depth : Nat) :
    (fuel : Nat) → Text → Except Fault (List RawKey × Position × RawValue × Text)
  | 0, t => fail .expectedKey t
  | fuel + 1, t => do
    let (path, rest) ← rawPath (t.length + 1) t
    match rest with
    | '=' :: rest =>
      let rest := skipGap rest
      let (value, behind) ← rawValue depth fuel rest
      return (path, rest.length, value, behind)
    | rest => fail .expectedEquals rest
termination_by structural fuel => fuel

end

/-! ## Lines -/

def finishLine (t : Text) : Except Fault Text := do
  let t ← skipComment t
  match newline? t with
  | some rest => return rest
  | none => if t.isEmpty then return [] else fail .expectedLineEnd t

def header (t : Text) : Except Fault (Expression × Text) := do
  let (ofArray, inner) := match after? "[[" t with
    | some inner => (true, inner)
    | none => (false, t.drop 1)
  let (path, rest) ← rawPath (inner.length + 1) (skipGap inner)
  match after? (if ofArray then "]]" else "]") rest with
  | some rest => return (.header ofArray path t.length, rest)
  | none => fail .unclosedHeader rest

def expressions : (fuel : Nat) → Text → Except Fault (List Expression)
  | 0, _ => .ok []
  | fuel + 1, t => do
    let t ← skipLines t.length t
    match t with
    | [] => return []
    | '[' :: _ =>
      let (expression, rest) ← header t
      let rest ← finishLine rest
      return expression :: (← expressions fuel rest)
    | _ =>
      let (path, position, value, rest) ← rawEntry depthLimit (4 * t.length + 4) t
      let rest ← finishLine rest
      return .entry path position value :: (← expressions fuel rest)

end JiraMarkup.Toml
