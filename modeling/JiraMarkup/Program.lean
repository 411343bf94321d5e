import JiraMarkup.Issue
import JiraMarkup.Log
import JiraMarkup.Markdown.Document
import JiraMarkup.Options
import JiraMarkup.Settings.Load

/-!
# The program

A run reads the settings and the markup, and then writes what it made of them
to one place. It reads all before it writes, and the first failure ends it.
-/

namespace JiraMarkup.Program

/-! ## Hosts -/

class Host (m : Type → Type) where
  readFile : Path → m (Except FileError ByteArray)
  readInput : m (Except FileError ByteArray)
  writeFile : Path → ByteArray → m (Except FileError Unit)
  writeOutput : ByteArray → m (Except FileError Unit)
  log : String → m Unit
  complain : String → m Unit

inductive Failure where
  | settings (path : Path) (e : Settings.LoadError)
  | input (path : Option Path) (e : ReadError)
  | output (path : Option Path) (e : FileError)

/-- A failure, and then what caused it. Of settings the message has told the cause before. -/
def Failure.message (wording : Settings.Wording) : Failure → String
  | settings path e => e.message wording path ++ ": " ++ e.cause wording
  | input (some path) e => "reading " ++ String.ofList path ++ ": " ++ e.message
  | input none e => "reading stdin: " ++ e.message
  | output (some path) e => "writing " ++ String.ofList path ++ ": " ++ e.message
  | output none e => e.message

inductive Status where
  | success
  | failure
  | misuse
deriving DecidableEq

def Status.code : Status → UInt32
  | success => 0
  | failure => 1
  | misuse => 2

/-! ## Output -/

/-- The settings of a run: what the options say goes before the file. -/
def settingsFor (o : Options) (s : Settings) : Settings :=
  { s with dialect := o.dialect.getD s.dialect }

def markdownFor (o : Options) (s : Settings) (markup : Text) : Text :=
  match o.ticket with
  | none => s.dialect.convert markup
  | some ticket =>
    let issue := Issue.ofTicket s.dialect ticket.key (ticket.title.getD []) markup s.footer
    if ticket.title.isSome then issue.preview else issue.body

def render (o : Options) (s : Settings) (markup : Text) : Text :=
  let markdown := markdownFor o s markup
  if o.html then Markdown.toHtml s.extensions markdown else markdown

/-! ## Runs -/

def filterFor (spec : Option Text) (o : Options) : Log.Filter :=
  (spec.bind Log.Filter.parse?).getD (.upTo (if o.verbose then .debug else .warn))

section Run

variable {m : Type → Type} [Monad m] [Host m]

def log (filter : Log.Filter) (e : Log.Event) : m Unit :=
  if filter.shows e then Host.log e.line else pure ()

def logAll (filter : Log.Filter) : List Log.Event → m Unit
  | [] => pure ()
  | e :: events => do log filter e; logAll filter events

def readSettings (filter : Log.Filter) (path : Path) : m (Except Failure Settings) := do
  let contents ← Host.readFile path
  match contents with
  | .error .notFound => log filter (.noSettings path)
  | _ => pure ()
  return (Settings.load contents).mapError (.settings path)

def readMarkup : Option Path → m (Except Failure Text)
  | some path => do return (readText (← Host.readFile path)).mapError (.input (some path))
  | none => do return (readText (← Host.readInput)).mapError (.input none)

/-- Shows a text, and ends its last line. -/
def display (t : Text) : m (Except FileError Unit) := do
  match ← Host.writeOutput (encodeUtf8 t) with
  | .error e => return .error e
  | .ok () => if t.getLast? = some '\n' then return .ok () else Host.writeOutput (encodeUtf8 ['\n'])

def deliver (filter : Log.Filter) (t : Text) : Option Path → m (Except Failure Unit)
  | none => do return (← display t).mapError (.output none)
  | some path => do
    match ← Host.writeFile path (encodeUtf8 t) with
    | .ok () => log filter (.wrote path); return .ok ()
    | .error e => return .error (.output (some path) e)

def convert (filter : Log.Filter) (o : Options) : ExceptT Failure m Unit := do
  let settings := settingsFor o (← ExceptT.mk (readSettings filter o.settings))
  ExceptT.lift (log filter (.converting settings.dialect))
  let markup ← ExceptT.mk (readMarkup o.input)
  ExceptT.lift (logAll filter ((settings.dialect.records (.ofText markup)).map .record))
  ExceptT.mk (deliver filter (render o settings markup) o.output)

def run (wording : Settings.Wording) (filter : Option Text) (args : List Text) : m Status := do
  match Options.parse args with
  | .error .help =>
    -- Nobody is told if the help cannot be shown.
    let _ ← Host.writeOutput Options.help.toUTF8
    return .success
  | .error .misuse => Host.complain Options.usage; return .misuse
  | .ok o =>
    match ← (convert (filterFor filter o) o).run with
    | .ok () => return .success
    | .error e => Host.complain ("Error: " ++ e.message wording ++ "\n"); return .failure

end Run

end JiraMarkup.Program
