import JiraMarkup.Text

/-!
# Rewrites

A pattern is tried at the head of a text. A rewrite says where a pattern may
begin and replaces every match, from left to right; the search goes on behind
each match, so that what was written is not read again.
-/

namespace JiraMarkup

structure Match where
  output : Text
  rest : Text

/-- A pattern finds nothing in the empty text, and the rest of a match is
shorter than the text. -/
abbrev Pattern := Text → Option Match

inductive Anchor where
  | anywhere
  | lineStart
  | textStart

def Anchor.opensAfter : Anchor → Char → Bool
  | anywhere, _ => true
  | lineStart, c => isLineEnd c
  | textStart, _ => false

structure Rewrite where
  anchor : Anchor
  pattern : Pattern

namespace Rewrite

def tryAt (r : Rewrite) (opened : Bool) (t : Text) : Option Match :=
  if opened then r.pattern t else none

/-- Copies the text with its matches replaced, less the first `skip`
characters, which belong to the match before. -/
def scan (r : Rewrite) : (opened : Bool) → (skip : Nat) → Text → Text
  | _, _, [] => []
  | _, n + 1, c :: t => scan r (r.anchor.opensAfter c) n t
  | opened, 0, c :: t =>
    match r.tryAt opened (c :: t) with
    | some m => m.output ++ scan r (r.anchor.opensAfter c) (t.length - m.rest.length) t
    | none => c :: scan r (r.anchor.opensAfter c) 0 t

def apply (r : Rewrite) (t : Text) : Text := r.scan true 0 t

def firesFrom (r : Rewrite) : (opened : Bool) → Text → Bool
  | _, [] => false
  | opened, c :: t =>
    (r.tryAt opened (c :: t)).isSome || firesFrom r (r.anchor.opensAfter c) t

def fires (r : Rewrite) (t : Text) : Bool := r.firesFrom true t

end Rewrite

end JiraMarkup
