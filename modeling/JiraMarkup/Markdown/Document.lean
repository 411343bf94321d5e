import JiraMarkup.Markdown.BlockStructure
import JiraMarkup.Markdown.Html
import JiraMarkup.Markdown.InlineText

/-!
# Markdown documents

A document is read in two passes, since a link may refer to a definition that
stands behind it: first the blocks with their definitions, then the text of
every block.
-/

namespace JiraMarkup.Markdown

mutual

def Block.map {α β : Type} (f cell : α → β) : Block α → Block β
  | .paragraph content => .paragraph (f content)
  | .heading level content => .heading level (f content)
  | .rule => .rule
  | .code info content => .code info content
  | .html content => .html content
  | .quote content => .quote (mapBlocks f cell content)
  | .list start tight items => .list start tight (mapBlocks f cell items)
  | .item content => .item (mapBlocks f cell content)
  | .table alignments head rows =>
    .table alignments (head.map cell) (rows.map (·.map cell))

def mapBlocks {α β : Type} (f cell : α → β) : List (Block α) → List (Block β)
  | [] => []
  | b :: bs => b.map f cell :: mapBlocks f cell bs

end

def parse (extensions : Extensions) (t : Text) : List (Block (List Inline)) :=
  let (blocks, definitions) := outline extensions t
  mapBlocks (readInlines ⟨extensions, definitions, false⟩)
    (readInlines ⟨extensions, definitions, true⟩) blocks

def toHtml (extensions : Extensions) (t : Text) : Text := Html.render (parse extensions t)

end JiraMarkup.Markdown
