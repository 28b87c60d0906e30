import SnippetCheck.Toml.Basic

/-! Tables while a document is read. A table remembers what made it, because that decides who may
add to it: a header's own table only its header, a table that dotted keys made only dotted keys, and
a table that is there only as the parent of others may still be given a header, once. -/

namespace SnippetCheck.Toml

/-- What made a table. -/
inductive Origin where
  /-- A header of its own. -/
  | header
  /-- The header of a table inside it. -/
  | parent
  /-- A dotted key. -/
  | dotted
deriving DecidableEq, Repr

/-- An entry's content while the document is read. -/
inductive Node where
  | value (v : Toml)
  | table (origin : Origin) (entries : List (String × Node))
  /-- Tables in an array, each with a header of its own. -/
  | tables (elements : List (List (String × Node)))

abbrev Entries := List (String × Node)

/-- The entries with another content for `key`, at the end if the key is new. -/
def alter? (f : Option Node → Option Node) (key : String) : Entries → Option Entries
  | [] => (f none).map fun n => [(key, n)]
  | (k, n) :: es =>
    if k = key then (f (some n)).map fun n => (k, n) :: es
    else (alter? f key es).map ((k, n) :: ·)

def alterLast? (f : Entries → Option Entries) : List Entries → Option (List Entries)
  | [] => none
  | [last] => (f last).map fun last => [last]
  | e :: es => (alterLast? f es).map (e :: ·)

/-- The entries with a value behind a dotted key. The keys before the last one lead through tables
that have no header, and the table that gets the value must have been made by a dotted key. -/
def insert? (v : Toml) : List String → Entries → Option Entries
  | [] => fun _ => none
  | [key] => alter? (fun n => if n.isNone then some (.value v) else none) key
  | key :: next :: keys =>
    let onPath := !keys.isEmpty
    alter? (fun
      | none => (insert? v (next :: keys) []).map (.table .dotted)
      | some (.value _) => none
      | some (.table origin es) =>
        if origin = .dotted ∨ (origin = .parent ∧ onPath) then
          (insert? v (next :: keys) es).map (.table origin)
        else none
      | some (.tables els) =>
        if onPath then (alterLast? (insert? v (next :: keys)) els).map .tables else none) key

def insertAll? (pairs : List (List String × Toml)) (es : Entries) : Option Entries :=
  pairs.foldlM (fun es (key, v) => insert? v key es) es

/-- The entries with another content at the path of a header. The path leads through tables of any
origin and through the last table of an array; tables that it lacks are made. -/
def place? (f : Option Node → Option Node) : List String → Entries → Option Entries
  | [] => fun _ => none
  | [key] => alter? f key
  | key :: keys =>
    alter? (fun
      | none => (place? f keys []).map (.table .parent)
      | some (.value _) => none
      | some (.table origin es) => (place? f keys es).map (.table origin)
      | some (.tables els) => (alterLast? (place? f keys) els).map .tables) key

def giveHeader? (pairs : List (List String × Toml)) : Option Node → Option Node
  | none => (insertAll? pairs []).map (.table .header)
  | some (.table .parent es) => (insertAll? pairs es).map (.table .header)
  | some _ => none

def addElement? (pairs : List (List String × Toml)) : Option Node → Option Node
  | none => (insertAll? pairs []).map fun es => .tables [es]
  | some (.tables els) => (insertAll? pairs []).map fun es => .tables (els ++ [es])
  | some _ => none

mutual

def Node.toToml : Node → Toml
  | .value v => v
  | .table _ es => .table (ofEntries es)
  | .tables els => .array (ofElements els)

def ofEntries : List (String × Node) → List (String × Toml)
  | [] => []
  | (k, n) :: es => (k, n.toToml) :: ofEntries es

def ofElements : List (List (String × Node)) → List Toml
  | [] => []
  | es :: els => .table (ofEntries es) :: ofElements els

end

end SnippetCheck.Toml
