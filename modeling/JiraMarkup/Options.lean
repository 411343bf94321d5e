import JiraMarkup.Dialect
import JiraMarkup.File

/-!
# Options

What a command line asks for. Arguments are read from left to right, and the
first that asks for help or cannot be read decides.
-/

namespace JiraMarkup

structure Ticket where
  key : Text
  title : Option Text
deriving DecidableEq

structure Options where
  input : Option Path
  output : Option Path
  settings : Path
  /-- Goes before the dialect of the settings. -/
  dialect : Option Dialect
  ticket : Option Ticket
  html : Bool
  verbose : Bool
deriving DecidableEq

namespace Options

inductive Stop where
  | help
  | misuse
deriving DecidableEq

/-! ## Names -/

inductive Parameter where
  | output
  | settings
  | dialect
  | ticket
  | title
deriving DecidableEq

inductive Switch where
  | html
  | verbose
  | help
deriving DecidableEq

inductive Flag where
  | parameter (p : Parameter)
  | switch (s : Switch)
deriving DecidableEq

structure Spelling where
  flag : Flag
  name : String
  letter : Option Char

def spellings : List Spelling :=
  [⟨.parameter .output, "output", some 'o'⟩,
    ⟨.parameter .settings, "config", some 'c'⟩,
    ⟨.parameter .dialect, "dialect", none⟩,
    ⟨.parameter .ticket, "ticket", none⟩,
    ⟨.parameter .title, "title", none⟩,
    ⟨.switch .html, "html", none⟩,
    ⟨.switch .verbose, "verbose", some 'v'⟩,
    ⟨.switch .help, "help", some 'h'⟩]

def named? (name : Text) : Option Flag := (spellings.find? (·.name.toList == name)).map (·.flag)

def lettered? (c : Char) : Option Flag := (spellings.find? (·.letter == some c)).map (·.flag)

/-! ## Values -/

structure Draft where
  input : Option Path := none
  output : Option Path := none
  settings : Option Path := none
  dialect : Option Dialect := none
  ticket : Option Text := none
  title : Option Text := none
  html : Bool := false
  verbose : Bool := false
deriving DecidableEq

def fill {α : Type} : Option α → Option α → Except Stop (Option α)
  | none, some value => .ok (some value)
  | _, _ => .error .misuse

def path? (value : Text) : Option Path := if value.isEmpty then none else some value

namespace Draft

def setInput (d : Draft) (value : Text) : Except Stop Draft :=
  (fun input => { d with input }) <$> fill d.input (path? value)

def set (d : Draft) (value : Text) : Parameter → Except Stop Draft
  | .output => (fun output => { d with output }) <$> fill d.output (path? value)
  | .settings => (fun settings => { d with settings }) <$> fill d.settings (path? value)
  | .dialect =>
    (fun dialect => { d with dialect }) <$>
      fill d.dialect (Dialect.ofName (String.ofList value)).toOption
  | .ticket => (fun ticket => { d with ticket }) <$> fill d.ticket (some value)
  | .title => (fun title => { d with title }) <$> fill d.title (some value)

def turnOn (d : Draft) : Switch → Except Stop Draft
  | .html => if d.html then .error .misuse else .ok { d with html := true }
  | .verbose => if d.verbose then .error .misuse else .ok { d with verbose := true }
  | .help => .error .help

/-- A title needs a ticket to be the title of. -/
def finish (d : Draft) : Except Stop Options :=
  let options := fun ticket =>
    { input := d.input.filter (· != ['-'])
      output := d.output
      settings := d.settings.getD "jira2md.toml".toList
      dialect := d.dialect
      ticket := ticket
      html := d.html
      verbose := d.verbose : Options }
  match d.ticket, d.title with
  | some key, title => .ok (options (some ⟨key, title⟩))
  | none, none => .ok (options none)
  | none, some _ => .error .misuse

end Draft

/-! ## Arguments -/

abbrev Progress := Draft × Option Parameter

def readName (d : Draft) (t : Text) : Except Stop Progress :=
  let name := t.takeWhile (· != '=')
  match named? name, t.drop name.length with
  | some (.switch s), [] => (·, none) <$> d.turnOn s
  | some (.parameter p), [] => .ok (d, some p)
  | some (.parameter p), _ :: value => (·, none) <$> d.set value p
  | _, _ => .error .misuse

/-- Reads letters, the last of which may have its value behind it. -/
def readLetters (d : Draft) : Text → Except Stop Progress
  | [] => .ok (d, none)
  | c :: t =>
    match lettered? c with
    | some (.switch s) => do readLetters (← d.turnOn s) t
    | some (.parameter p) =>
      match t with
      | [] => .ok (d, some p)
      | '=' :: value => (·, none) <$> d.set value p
      | value => (·, none) <$> d.set value p
    | none => .error .misuse

/-- Whether an argument is no flag; a hyphen alone is none. -/
def isPlain (arg : Text) : Bool := arg.head? != some '-' || arg == ['-']

def read (progress : Progress) : List Text → Except Stop Draft
  | [] => if progress.2.isSome then .error .misuse else .ok progress.1
  | arg :: args =>
    match progress with
    | (d, some p) => if isPlain arg then do read (← d.set arg p, none) args else .error .misuse
    | (d, none) =>
      if isPlain arg then do read (← d.setInput arg, none) args
      else match after? "--" arg with
        | some [] => args.foldlM Draft.setInput d
        | some name => do read (← readName d name) args
        | none => do read (← readLetters d arg.tail) args

def parse (args : List Text) : Except Stop Options := do (← read ({}, none) args).finish

/-! ## Help -/

def usage : String := "Usage: jira2md [OPTIONS] [INPUT]\n"

def help : String :=
  "Convert Jira wiki markup to GitHub-flavored Markdown\n\n" ++ usage ++ "
Arguments:
  [INPUT]  Input file with Jira markup (reads stdin when omitted or \x60-\x60)

Options:
  -o, --output <OUTPUT>    Output file (defaults to stdout)
  -c, --config <CONFIG>    Config file [default: jira2md.toml]
      --dialect <DIALECT>  Rule chain to use: legacy or corrected (overrides the config file)
      --ticket <TICKET>    Jira key; wraps the output into a GitHub issue body with the footer
      --title <TITLE>      Issue title; with --ticket, prints the dry-run preview
      --html               Render the result to HTML
  -v, --verbose            Log each conversion stage to stderr
  -h, --help               Print help
"

end Options

end JiraMarkup
