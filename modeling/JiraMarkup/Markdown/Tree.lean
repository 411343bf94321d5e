import JiraMarkup.Text

/-!
# Markdown trees

A Markdown document is a list of blocks. The blocks that hold running text are
generic in what they hold: the source of the text at first, its inline
elements when it has been read.
-/

namespace JiraMarkup.Markdown

inductive Inline where
  | text (content : Text)
  | softBreak
  | hardBreak
  | code (content : Text)
  | html (content : Text)
  | emphasis (content : List Inline)
  | strong (content : List Inline)
  | strikethrough (content : List Inline)
  | link (destination title : Text) (content : List Inline)
  | image (destination title : Text) (content : List Inline)

inductive Alignment where
  | unset
  | left
  | center
  | right
deriving DecidableEq

inductive Block (α : Type) where
  | paragraph (content : α)
  | heading (level : Nat) (content : α)
  | rule
  /-- Indented code has no info string. -/
  | code (info : Text) (content : Text)
  | html (content : Text)
  | quote (content : List (Block α))
  /-- Bulleted if there is no number to start from. In a tight list the items'
  own paragraphs are bare. -/
  | list (start : Option Nat) (tight : Bool) (items : List (Block α))
  | item (content : List (Block α))
  | table (alignments : List Alignment) (head : List α) (rows : List (List α))

structure Extensions where
  tables : Bool
  strikethrough : Bool
deriving DecidableEq

end JiraMarkup.Markdown
