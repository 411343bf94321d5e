import JiraMarkup.Toml.Scalar

/-!
# TOML documents

Expressions are put together to one table. A header opens a table once, dotted
keys add to the tables that dotted keys opened in the same place, and a table
written inline is complete.
-/

namespace JiraMarkup.Toml

inductive Origin where
  | header
  | implied
  | dotted
deriving DecidableEq

inductive Node where
  | value (v : Value)
  | table (origin : Origin) (entries : List (Key × Position × Node))
  /-- Tables with one header, the last one first. -/
  | tables (items : List (Position × List (Key × Position × Node)))

abbrev Nodes := List (Key × Position × Node)

def update (key : Key) (position : Position)
    (f : Option Node → Except Fault Node) : Nodes → Except Fault Nodes
  | [] => (fun n => [(key, position, n)]) <$> f none
  | (k, p, n) :: nodes =>
    if k.name = key.name then (fun n => (k, p, n) :: nodes) <$> f (some n)
    else if key.name < k.name then
      (fun new => (key, position, new) :: (k, p, n) :: nodes) <$> f none
    else ((k, p, n) :: ·) <$> update key position f nodes

/-- Works on the table at the end of a path of dotted keys, to set `last` in
it. Such a path may lead through tables that only headers named, but it has to
end in one that dotted keys opened. -/
def alongDotted (last : Key) (finish : Nodes → Except Fault Nodes) :
    List Key → Nodes → Except Fault Nodes
  | [], nodes => finish nodes
  | key :: path, nodes =>
    update key key.position (fun
      | none => .table .dotted <$> alongDotted last finish path []
      | some (.table .dotted inner) => .table .dotted <$> alongDotted last finish path inner
      | some (.table .implied inner) =>
        if path.isEmpty then .error ⟨.duplicateKey, last.position⟩
        else .table .implied <$> alongDotted last finish path inner
      | some (.table .header _) => .error ⟨.duplicateKey, key.position⟩
      | some (.tables ((p, inner) :: items)) =>
        if path.isEmpty then .error ⟨.duplicateKey, last.position⟩
        else (fun inner => .tables ((p, inner) :: items)) <$> alongDotted last finish path inner
      | some _ => .error ⟨.notExtensible, key.position⟩) nodes

def alongHeader (finish : Nodes → Except Fault Nodes) : List Key → Nodes → Except Fault Nodes
  | [], nodes => finish nodes
  | key :: path, nodes =>
    update key key.position (fun
      | none => .table .implied <$> alongHeader finish path []
      | some (.table origin inner) => .table origin <$> alongHeader finish path inner
      | some (.tables ((p, inner) :: items)) =>
        (fun inner => .tables ((p, inner) :: items)) <$> alongHeader finish path inner
      | some _ => .error ⟨.notExtensible, key.position⟩) nodes

def splitPath : List Key → List Key × Option Key
  | [] => ([], none)
  | [key] => ([], some key)
  | key :: path => let (front, last) := splitPath path; (key :: front, last)

def addValue (path : List Key) (position : Position) (n : Node) (nodes : Nodes) :
    Except Fault Nodes :=
  match splitPath path with
  | (_, none) => .ok nodes
  | (front, some key) =>
    alongDotted key (update key position fun
      | none => .ok n
      | some _ => .error ⟨.duplicateKey, key.position⟩) front nodes

def openTable (ofArray : Bool) (path : List Key) (position : Position) (nodes : Nodes) :
    Except Fault Nodes :=
  match splitPath path with
  | (_, none) => .ok nodes
  | (front, some key) =>
    alongHeader (update key position fun found =>
      match ofArray, found with
      | true, none => .ok (.tables [(position, [])])
      | true, some (.tables items) => .ok (.tables ((position, []) :: items))
      | false, none => .ok (.table .header [])
      | false, some (.table .implied inner) => .ok (.table .header inner)
      | _, _ => .error ⟨.duplicateKey, key.position⟩) front nodes

mutual

def Node.toValue : Node → Value
  | .value v => v
  | .table _ entries => .table (toEntries entries)
  | .tables items => .array (toItems items).reverse

def toEntries : Nodes → List Entry
  | [] => []
  | (k, p, n) :: nodes => (k, p, n.toValue) :: toEntries nodes

def toItems : List (Position × Nodes) → List (Position × Value)
  | [] => []
  | (p, nodes) :: items => (p, .table (toEntries nodes)) :: toItems items

end

mutual

def RawValue.read (position : Position) : RawValue → Except Fault Value
  | .scalar s => s.read position
  | .array items => .array <$> readItems items
  | .table entries => (fun nodes => .table (toEntries nodes)) <$> readEntries [] entries

def readItems : List (Position × RawValue) → Except Fault (List (Position × Value))
  | [] => .ok []
  | (p, v) :: items => do
    let value ← v.read p
    return (p, value) :: (← readItems items)

def readEntries (nodes : Nodes) :
    List (List RawKey × Position × RawValue) → Except Fault Nodes
  | [] => .ok nodes
  | (path, p, v) :: entries => do
    let path ← path.mapM RawKey.read
    let value ← v.read p
    readEntries (← addValue path p (.value value) nodes) entries

end

def assemble (current : List Key) (nodes : Nodes) : List Expression → Except Fault Nodes
  | [] => .ok nodes
  | .header ofArray path position :: rest => do
    let path ← path.mapM RawKey.read
    assemble path (← openTable ofArray path position nodes) rest
  | .entry path position value :: rest => do
    let path ← path.mapM RawKey.read
    let value ← value.read position
    let nodes ← alongHeader (addValue path position (.value value)) current nodes
    assemble current nodes rest

/-- The table that a text denotes. Faults of form come before all others. -/
def parse (document : Text) : Except Fault Table := do
  let text := match document with
    | '\ufeff' :: t => t
    | t => t
  let expressions ← expressions (text.length + 1) text
  let nodes ← assemble [] [] expressions
  return toEntries nodes

end JiraMarkup.Toml
