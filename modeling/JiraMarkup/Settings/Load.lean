import JiraMarkup.File
import JiraMarkup.Settings

/-!
# Settings files

Settings are read from a file, and a file that is missing stands for the
defaults. The program comes with a settings file that says what these are, and
the footer that another file leaves out is taken from it.
-/

namespace JiraMarkup.Settings

/-! ## Faults -/

inductive DocumentFault where
  | form (fault : Toml.Fault)
  | setting (fault : Fault)

def DocumentFault.position : DocumentFault → Toml.Position
  | form fault => fault.position
  | setting fault => fault.position

inductive LoadError where
  | unreadable (e : ReadError)
  | malformed (document : Text) (fault : DocumentFault)

/-- What a reader of documents says of a fault in words of its own. -/
structure Wording where
  /-- how many bytes the fault takes up, from where it starts -/
  extent : Text → DocumentFault → Nat
  /-- what the fault is, where its cause has no message -/
  explain : Text → DocumentFault → String

def Wording.plain : Wording := ⟨fun _ _ => 1, fun _ _ => "not a settings file"⟩

namespace LoadError

def detail? : LoadError → Option String
  | malformed _ (.setting fault) => fault.cause.message?
  | _ => none

def report (wording : Wording) (document : Text) (fault : DocumentFault) : String :=
  let (line, column) := Toml.lineColumn document fault.position
  let content := String.ofList (((splitLines document)[line - 1]?).getD [])
  let gutter := "".pushn ' ' ((toString line).length + 1) ++ "|"
  -- The mark stays on the line, but never vanishes.
  let width := max 1 (min (wording.extent document fault) (content.utf8ByteSize - (column - 1)))
  let explanation := ((malformed document fault).detail?).getD (wording.explain document fault)
  "TOML parse error at line " ++ toString line ++ ", column " ++ toString column ++ "\n" ++
    gutter ++ "\n" ++
    toString line ++ " | " ++ content ++ "\n" ++
    gutter.pushn ' ' column ++ "".pushn '^' width ++ "\n" ++
    explanation ++ "\n"

def cause (wording : Wording) : LoadError → String
  | unreadable e => e.message
  | malformed document fault => report wording document fault

def message (wording : Wording) (path : Path) (e : LoadError) : String :=
  let doing := match e with
    | unreadable _ => "read"
    | malformed .. => "parse"
  "Failed to " ++ doing ++ " config file at " ++ String.ofList path ++ ": " ++ e.cause wording

end LoadError

/-! ## Reading -/

def ofDocument (document : Text) : Except LoadError Settings := do
  let table ← (Toml.parse document).mapError fun fault => .malformed document (.form fault)
  (ofTable table).mapError fun fault => .malformed document (.setting fault)

def load : Except FileError ByteArray → Except LoadError Settings
  | .error .notFound => .ok default
  | contents => do ofDocument (← (readText contents).mapError .unreadable)

/-! ## The bundled file -/

def bundledDocument : Text :=
  "[converter]\ndialect = \"legacy\"\n\n[issue]\nfooter = \"\"\"\n".toList ++ defaultFooter ++
    "\"\"\"\n\n[preview]\ntables = true\nstrikethrough = true\n".toList

def setting? (t : Toml.Table) (sectionName name : String) : Option Toml.Value :=
  match t.get? sectionName with
  | some (.table entries) => Toml.Table.get? entries name
  | _ => none

def bundledFooter? : Option Text := do
  let t ← (Toml.parse bundledDocument).toOption
  let footer ← setting? t "issue" "footer"
  footer.string?

def bundledFooter : Text := bundledFooter?.getD ("JIRA: " ++ ticketMark).toList

def compiledDefault : Settings :=
  (ofDocument bundledDocument).toOption.getD ⟨.legacy, bundledFooter, ⟨true, true⟩⟩

end JiraMarkup.Settings
