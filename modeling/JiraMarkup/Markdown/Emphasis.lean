import JiraMarkup.Markdown.Character
import JiraMarkup.Markdown.Tree

/-!
# Emphasis

Runs of `*`, `_` and `~` open and close emphasis according to the characters
around them. A closing run is matched with the nearest opening run that suits
it, and whatever opened in between stays text.
-/

namespace JiraMarkup.Markdown

/-! ## Delimiter runs -/

structure Run where
  mark : Char
  length : Nat
  canOpen : Bool
  canClose : Bool

def Run.between (before : Option Char) (mark : Char) (length : Nat) (behind : Option Char) : Run :=
  let intraword := mark == '*' || mark == '~' && 1 < length
  let opens := match behind with
    | none => false
    | some next =>
      !isWhiteSpace next && match before with
        | none => true
        | some prev =>
          mark == '*' && !isPunctuation next || mark == '~' && 1 < length ||
            mark == '~' && prev == '~' && !isPunctuation next ||
            isWhiteSpace prev || isPunctuation prev
  let closes := match before with
    | none => false
    | some prev =>
      !isWhiteSpace prev && match behind with
        | none => true
        | some next =>
          intraword && !isPunctuation prev || mark == '~' && prev == '~' ||
            isWhiteSpace next || isPunctuation next
  ⟨mark, length, opens, closes⟩

/-! ## Matching -/

inductive Piece where
  | inline (element : Inline)
  | run (run : Run)

structure Opener where
  mark : Char
  count : Nat
  length : Nat
  both : Bool
  /-- Last element first. -/
  content : List Inline

structure Matching where
  /-- The innermost opener first. -/
  openers : List Opener
  outside : List Inline
  /-- No opener below this depth closes a `~`. -/
  tildeFloor : Nat

namespace Matching

def marks (mark : Char) (count : Nat) : Inline := .text (List.replicate count mark)

def append (m : Matching) (element : Inline) : Matching :=
  match m.openers with
  | [] => { m with outside := element :: m.outside }
  | o :: openers => { m with openers := { o with content := element :: o.content } :: openers }

def Opener.asText (o : Opener) : List Inline := o.content ++ [marks o.mark o.count]

/-- Whether a run closes an opener. Where one of the two could both open and
close, their lengths must not add up to a multiple of three, unless both are
multiples of three. -/
def suits (r : Run) (o : Opener) : Bool :=
  r.mark == o.mark && (r.mark != '~' || r.length == o.length) &&
    (!(r.canOpen && r.canClose) && !o.both || (r.length + o.length) % 3 != 0 || r.length % 3 == 0)

def find? (r : Run) : (above : Nat) → List Opener → Option (List Inline × Opener × List Opener)
  | 0, _ => none
  | _, [] => none
  | above + 1, o :: below =>
    if suits r o then some (o.content, o, below)
    else (find? r above below).map fun (content, found, below) =>
      (Opener.asText o ++ content, found, below)

def wrap (mark : Char) (count : Nat) (content : List Inline) : List Inline :=
  if h : count = 0 then content
  else
    let element :=
      if mark = '~' then Inline.strikethrough content
      else if count = 1 then Inline.emphasis content
      else Inline.strong content
    wrap mark (count - if count = 1 then 1 else 2) [element]
termination_by count
decreasing_by split <;> omega

def close (r : Run) : (count : Nat) → (fuel : Nat) → Matching → Nat × Matching
  | count, 0, m => (count, m)
  | count, fuel + 1, m =>
    if count = 0 then (0, m)
    else
      let floor := if r.mark = '~' then min m.tildeFloor m.openers.length else 0
      match find? r (m.openers.length - floor) m.openers with
      | none =>
        (count, if r.mark = '~' then { m with tildeFloor := m.openers.length } else m)
      | some (content, o, below) =>
        let n := min count o.count
        let elements := wrap r.mark n content.reverse
        let m := { m with openers := below, tildeFloor := min m.tildeFloor below.length }
        let m :=
          if n < o.count then
            { m with openers := { o with count := o.count - n, content := elements } :: below }
          else elements.foldl append m
        close r (count - n) fuel m

def step (m : Matching) : Piece → Matching
  | .inline element => m.append element
  | .run r =>
    let (count, m) := if r.canClose then close r r.length (r.length + 1) m else (r.length, m)
    if count = 0 then m
    else if r.canOpen then
      { m with openers := ⟨r.mark, count, r.length, r.canOpen && r.canClose, []⟩ :: m.openers }
    else m.append (marks r.mark count)

def finish (m : Matching) : List Inline := ((m.openers.flatMap Opener.asText) ++ m.outside).reverse

end Matching

def matchRuns (pieces : List Piece) : List Inline :=
  (pieces.foldl Matching.step ⟨[], [], 0⟩).finish

end JiraMarkup.Markdown
