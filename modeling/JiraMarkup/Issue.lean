import JiraMarkup.Dialect

/-!
# Issues

An issue for the new tracker: the converted description with a footer that
names the ticket it came from.
-/

namespace JiraMarkup

def ticketMark : String := "\x7b\x7bTICKET\x7d\x7d"

/-- The footer for a ticket: the first mark is replaced, and only that one. -/
def footerFor (key footer : Text) : Text :=
  match breakFirst? (fun _ => false) ticketMark footer with
  | some (a, b) => a ++ key ++ b
  | none => footer

def issueBody (markdown key footer : Text) : Text :=
  markdown ++ "\n\n".toList ++ footerFor key footer

structure Issue where
  key : Text
  title : Text
  body : Text
deriving DecidableEq

namespace Issue

def ofTicket (dialect : Dialect) (key title description footer : Text) : Issue :=
  ⟨key, title, issueBody (dialect.convert description) key footer⟩

def preview (issue : Issue) : Text :=
  "------\n".toList ++ issue.title ++ '\n' :: List.replicate issue.title.length '=' ++
    "\n\n".toList ++ issue.body ++ ['\n']

end Issue

end JiraMarkup
