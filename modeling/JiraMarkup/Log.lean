import JiraMarkup.Dialect
import JiraMarkup.File

/-!
# The log

A run logs what it does. A filter picks the events to show by the part of the
program that they come from, its target, and by their level.
-/

namespace JiraMarkup.Log

inductive Level where
  | error
  | warn
  | info
  | debug
  | trace
deriving DecidableEq

namespace Level

def verbosity : Level → Nat
  | error => 1
  | warn => 2
  | info => 3
  | debug => 4
  | trace => 5

def name : Level → String
  | error => "ERROR"
  | warn => "WARN"
  | info => "INFO"
  | debug => "DEBUG"
  | trace => "TRACE"

def all : List Level := [error, warn, info, debug, trace]

end Level

/-! ## Events -/

inductive Event where
  | noSettings (path : Path)
  | converting (dialect : Dialect)
  | record (r : Record)
  | wrote (path : Path)
deriving DecidableEq

namespace Event

def level : Event → Level
  | noSettings _ => .debug
  | converting _ => .debug
  | record (.styleApplied _) => .trace
  | record (.stageApplied ..) => .debug
  | wrote _ => .info

def target : Event → String
  | noSettings _ => "jira2md::config"
  | converting _ => "jira2md"
  | record (.styleApplied _) => "jira2md::inline"
  | record (.stageApplied ..) => "jira2md::pipeline"
  | wrote _ => "jira2md"

def message : Event → String
  | noSettings path => "no config file, using defaults path=" ++ String.ofList path
  | converting dialect => "converting dialect=" ++ dialect.name
  | record (.styleApplied style) => "inline substitution applied rule=" ++ Quoted.quote style
  | record (.stageApplied stage linesIn linesOut) =>
    "stage applied stage=" ++ Quoted.quote stage ++ " lines_in=" ++ toString linesIn ++
      " lines_out=" ++ toString linesOut
  | wrote path => "wrote output path=" ++ String.ofList path

def line (e : Event) : String := e.level.name ++ " " ++ e.target ++ ": " ++ e.message

end Event

/-! ## Filters -/

structure Directive where
  target : Text
  /-- None to show nothing. -/
  level : Option Level

def Directive.shows (d : Directive) (l : Level) : Bool :=
  d.level.any (l.verbosity ≤ ·.verbosity)

abbrev Filter := List Directive

namespace Filter

def upTo (l : Level) : Filter := [⟨[], some l⟩]

/-- The directive for a target: the one that says most of it, the last of equals. -/
def directive? (target : Text) (f : Filter) : Option Directive :=
  (f.filter (·.target.isPrefixOf target)).foldl (fun best d =>
    match best with
    | some b => if b.target.length ≤ d.target.length then some d else some b
    | none => some d) none

def shows (f : Filter) (e : Event) : Bool :=
  (f.directive? e.target.toList).any (·.shows e.level)

/-! ## Writing filters -/

def level? (t : Text) : Option (Option Level) :=
  let digits := (after? "+" t).getD t
  let name := t.map Char.toUpper
  if !digits.isEmpty && digits.all Char.isDigit then
    match Nat.ofDigitChars 10 digits 0 with
    | 0 => some none
    | n => (Level.all.find? (·.verbosity == n)).map some
  else if name = "OFF".toList then some none
  else (Level.all.find? (·.name.toList == name)).map some

def beginsTarget (c : Char) : Bool :=
  c.isAlphanum || c == '-' || c == ':' || c == '_' || 128 ≤ c.toNat

def levelAfter? : Text → Option (Option Level)
  | [] => some (some .trace)
  | '=' :: [] => some (some .trace)
  | '=' :: t => level? t
  | _ => none

/-- The directives of one part of a filter: none if it is for spans, which no
event here is in. -/
def part? (t : Text) : Option Filter :=
  let target := t.takeWhile fun c => c != '=' && c != '['
  match t.drop target.length with
  | [] =>
    if (t.dropWhile (·.isWhitespace)).head?.any beginsTarget then
      some [(level? t).elim ⟨t, some .trace⟩ (⟨[], ·⟩)]
    else none
  | '[' :: rest =>
    if target.head?.all beginsTarget then
      (rest.dropWhile (· != ']')).tail? |>.bind levelAfter? |>.map fun _ => []
    else none
  | rest =>
    if target.head?.any beginsTarget then (levelAfter? rest).map fun l => [⟨target, l⟩]
    else none

/-- Reads `target=level` parts between commas; a level alone is for all
targets, and a target alone for all levels. -/
def parse? (t : Text) : Option Filter :=
  ((t.splitOn ',').filter (!·.isEmpty)).mapM part? |>.map List.flatten

end Filter

end JiraMarkup.Log
