import JiraMarkup.Toml.Expression

/-!
# TOML scalars

What the keys and the scalars of a document stand for: strings with their
escapes, numbers, and dates, of which only the form matters.
-/

namespace JiraMarkup.Toml

/-! ## Strings -/

def codePoint? (n : Nat) (t : Text) : Option (Char × Text) :=
  let digits := t.take n
  let code := Ranges.ofHex digits
  if digits.length = n && digits.all (Ranges.hexDigit? · |>.isSome) && code.isValidChar then
    some (Char.ofNat code, t.drop n)
  else none

def escaped? : Text → Option (Char × Text)
  | 'b' :: t => some ('\x08', t)
  | 't' :: t => some ('\t', t)
  | 'n' :: t => some ('\n', t)
  | 'f' :: t => some ('\x0c', t)
  | 'r' :: t => some ('\r', t)
  | 'e' :: t => some ('\x1b', t)
  | '"' :: t => some ('"', t)
  | '\\' :: t => some ('\\', t)
  | 'x' :: t => codePoint? 2 t
  | 'u' :: t => codePoint? 4 t
  | 'U' :: t => codePoint? 8 t
  | _ => none

/-- The text behind a backslash at the end of a line, the line ends and the
blanks at the start of the next line. -/
def joinedLine? (t : Text) : Option Text :=
  (newline? (skipGap t)).map (·.dropWhile fun c => isGap c || c == '\n' || c == '\r')

/-- Reads the body of a string; fails with the text from the fault on. -/
def readBody (multiline escapes : Bool) : (fuel : Nat) → Text → Except (Cause × Text) Text
  | 0, _ => .ok []
  | _, [] => .ok []
  | fuel + 1, c :: t =>
    if escapes && c = '\\' then
      match (if multiline then joinedLine? t else none) with
      | some rest => readBody multiline escapes fuel rest
      | none =>
        match escaped? t with
        | some (d, rest) => (d :: ·) <$> readBody multiline escapes fuel rest
        | none => .error (.invalidEscape, t)
    else if multiline && c = '\r' && t.head? = some '\n' || multiline && c = '\n' then
      (c :: ·) <$> readBody multiline escapes fuel t
    else if isControl c then .error (.controlCharacter, c :: t)
    else (c :: ·) <$> readBody multiline escapes fuel t

def Quotes.isMultiline (q : Quotes) : Bool := q == .multilineBasic || q == .multilineLiteral

def Quotes.hasEscapes (q : Quotes) : Bool := q == .basic || q == .multilineBasic

/-- The content of a quoted scalar. A line end right behind the opening of a
multi-line string does not count. -/
def readQuoted (q : Quotes) (closed : Bool) (body : Text) (position : Position) :
    Except Fault Text :=
  let behind := position - (Scalar.quoted q closed body).opening - body.length
  let content := if q.isMultiline then (newline? body).getD body else body
  match readBody q.isMultiline q.hasEscapes content.length content with
  | .error (cause, rest) => .error ⟨cause, behind + rest.length⟩
  | .ok s => if closed then .ok s else .error ⟨.unclosedString, behind⟩

/-! ## Numbers -/

def digits? (isDigit : Char → Bool) : Text → Option Text
  | [] => none
  | [c] => if isDigit c then some [c] else none
  | c :: '_' :: t => if isDigit c then (digits? isDigit t).map (c :: ·) else none
  | c :: t => if isDigit c then (digits? isDigit t).map (c :: ·) else none

def ofDigits (base : Nat) (t : Text) : Nat :=
  t.foldl (fun n c => base * n + (Ranges.hexDigit? c).getD 0) 0

def sign : Text → Bool × Text
  | '+' :: t => (false, t)
  | '-' :: t => (true, t)
  | t => (false, t)

def wholeDigits? (t : Text) : Option Text :=
  match digits? Char.isDigit t with
  | some ('0' :: _ :: _) => none
  | found => found

def prefixedInteger? : Text → Option Nat
  | '0' :: 'x' :: t => (digits? (Ranges.hexDigit? · |>.isSome) t).map (ofDigits 16)
  | '0' :: 'o' :: t => (digits? (fun c => '0' ≤ c ∧ c ≤ '7') t).map (ofDigits 8)
  | '0' :: 'b' :: t => (digits? (fun c => c = '0' ∨ c = '1') t).map (ofDigits 2)
  | _ => none

def integer? (token : Text) : Option Int :=
  match prefixedInteger? token with
  | some n => some n
  | none =>
    let (negative, t) := sign token
    (wholeDigits? t).map fun digits =>
      let n : Int := ofDigits 10 digits
      if negative then -n else n

def isExponentMark (c : Char) : Bool := c == 'e' || c == 'E'

def exponent? : Text → Option Int
  | [] => some 0
  | _ :: t =>
    let (negative, t) := sign t
    (digits? Char.isDigit t).map fun digits =>
      let n : Int := ofDigits 10 digits
      if negative then -n else n

def decimal? (token : Text) : Option Magnitude := do
  let mantissa := token.takeWhile (!isExponentMark ·)
  let exponent ← exponent? (token.dropWhile (!isExponentMark ·))
  let whole ← wholeDigits? (mantissa.takeWhile (· != '.'))
  let fraction ← match mantissa.dropWhile (· != '.') with
    | [] => if mantissa.length = token.length then none else some []
    | _ :: t => digits? Char.isDigit t
  match Decimal.nearest? (ofDigits 10 (whole ++ fraction)) (exponent - fraction.length) with
  | some b => return .finite b
  | none => return .tooLarge

def float? (token : Text) : Option Value :=
  let (negative, t) := sign token
  if t = "inf".toList then some (.float negative .infinite)
  else if t = "nan".toList then some (.float negative .notANumber)
  else (decimal? t).map (.float negative)

/-! ## Dates and times -/

def field? (n low high : Nat) (t : Text) : Option (Nat × Text) :=
  let digits := t.take n
  let value := ofDigits 10 digits
  if digits.length = n && digits.all Char.isDigit && low ≤ value && value ≤ high then
    some (value, t.drop n)
  else none

def isLeapYear (year : Nat) : Bool := year % 4 = 0 && (year % 100 != 0 || year % 400 = 0)

def daysIn (year month : Nat) : Nat :=
  if month = 2 then if isLeapYear year then 29 else 28
  else if month = 4 || month = 6 || month = 9 || month = 11 then 30
  else 31

def date? (t : Text) : Option Text := do
  let (year, t) ← field? 4 0 9999 t
  let (month, t) ← (after? "-" t).bind (field? 2 1 12)
  let (_, t) ← (after? "-" t).bind (field? 2 1 (daysIn year month))
  return t

def time? (t : Text) : Option Text := do
  let (_, t) ← field? 2 0 23 t
  let (_, t) ← (after? ":" t).bind (field? 2 0 59)
  match after? ":" t with
  | none => return t
  | some t =>
    let (_, t) ← field? 2 0 60 t
    match t with
    | '.' :: d :: t => if d.isDigit then return t.dropWhile Char.isDigit else none
    | '.' :: [] => none
    | t => return t

def isOffset : Text → Bool
  | ['Z'] => true
  | ['z'] => true
  | s :: t =>
    (s == '+' || s == '-') &&
      (do let (_, t) ← field? 2 0 23 t
          let (_, t) ← (after? ":" t).bind (field? 2 0 59)
          guard t.isEmpty).isSome
  | [] => false

def isDateTime (token : Text) : Bool :=
  match date? token with
  | none => time? token == some []
  | some [] => true
  | some (c :: t) =>
    (c == 'T' || c == 't' || c == ' ') && (time? t).any fun rest => rest.isEmpty || isOffset rest

/-! ## Scalars -/

def bare? (token : Text) : Option Value :=
  if token = "true".toList then some (.boolean true)
  else if token = "false".toList then some (.boolean false)
  else if isDateTime token then some .dateTime
  else ((integer? token).map .integer).or (float? token)

def Scalar.read (s : Scalar) (position : Position) : Except Fault Value :=
  match s with
  | quoted q closed body => .string <$> readQuoted q closed body position
  | bare token =>
    match bare? token with
    | some v => .ok v
    | none => .error ⟨.invalidScalar, position⟩

def isBareKeyChar (c : Char) : Bool := c.isAlphanum || c == '_' || c == '-'

/-- A key of one line; without quotes only letters, digits, dashes and
underscores of ASCII. -/
def RawKey.read (k : RawKey) : Except Fault Key :=
  match k.scalar with
  | .quoted q closed body =>
    if q.isMultiline then .error ⟨.invalidKey, k.position⟩
    else (⟨·, k.position⟩) <$> readQuoted q closed body k.position
  | .bare token =>
    if token.all isBareKeyChar then .ok ⟨token, k.position⟩
    else .error ⟨.invalidKey, k.position - (token.takeWhile isBareKeyChar).length⟩

end JiraMarkup.Toml
