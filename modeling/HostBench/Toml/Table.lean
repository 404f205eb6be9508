/-
  Tables while a document is read: entries are added under paths, and the tables on the way are
  opened where the document has not named them yet.
-/
import HostBench.Toml.Value

namespace HostBench.Toml

mutual

/-- What a key leads to while a document is read. -/
inductive Node where
  /-- A finished value. -/
  | value (v : Value)
  /-- A table that may still grow. -/
  | table (t : Table)
  /-- An array of tables, the last of which may still grow. -/
  | tables (ts : List Table)

/-- A table that may still grow. `implicit` says that no header has named it, `dotted` that parts of
a key have opened it. -/
inductive Table where
  | mk (implicit dotted : Bool) (entries : List (String × Node))

end

namespace Table

/-- The entries in the order in which their keys came up. -/
def entries : Table → List (String × Node)
  | mk _ _ es => es

/-- No header has named the table. -/
def implicit : Table → Bool
  | mk i _ _ => i

/-- Parts of a key have opened the table. -/
def dotted : Table → Bool
  | mk _ d _ => d

/-- A table that a header names, without entries. -/
def empty : Table := mk false false []

/-- The table with other entries. -/
def withEntries (t : Table) (es : List (String × Node)) : Table := mk t.implicit t.dotted es

/-- Replaces the node of a key in its place, or adds it at the end. -/
def put (t : Table) (key : String) (n : Node) : Table :=
  if t.entries.any (·.1 == key) then
    t.withEntries (t.entries.map fun e => if e.1 == key then (key, n) else e)
  else t.withEntries (t.entries ++ [(key, n)])

/-- The table without a key. -/
def remove (t : Table) (key : String) : Table :=
  t.withEntries (t.entries.filter (·.1 != key))

/-- Changes the table that a path leads to and opens the tables that are missing on the way. The
path of an entry (`dotted`) may not enter a table that a header has named. -/
def within (dotted : Bool) (change : Table → Option Table) : List String → Table → Option Table
  | [], t => change t
  | key :: path, t =>
    match t.entries.lookup key with
    | none => (within dotted change path (mk true dotted [])).map fun s => t.put key (.table s)
    | some (.value _) => none
    | some (.tables ts) =>
      match ts.getLast? with
      | none => none
      | some last => (within dotted change path last).map fun s =>
          t.put key (.tables (ts.dropLast ++ [s]))
    | some (.table s) =>
      if dotted && !s.implicit then none
      else (within dotted change path s).map fun s => t.put key (.table s)

/-- Adds an entry; its key has to be new, and the tables of its path have to be open to entries. -/
def insert (t : Table) (path : List String) (v : Value) : Option Table :=
  let parents := path.dropLast
  let key := path.getLastD ""
  t.within true (fun s =>
    if s.dotted == parents.isEmpty then none
    else if s.entries.any (·.1 == key) then none
    else some (s.put key (.value v))) parents

end Table

mutual

/-- The finished value of a node. -/
def Node.toValue : Node → Value
  | .value v => v
  | .table t => .table (Table.toEntries t)
  | .tables ts => .array (tableValues ts)

/-- The finished entries of a table. -/
def Table.toEntries : Table → List (String × Value)
  | .mk _ _ es => entryValues es

/-- The finished values of entries. -/
def entryValues : List (String × Node) → List (String × Value)
  | [] => []
  | (key, n) :: rest => (key, n.toValue) :: entryValues rest

/-- The finished values of the tables of an array. -/
def tableValues : List Table → List Value
  | [] => []
  | t :: rest => .table t.toEntries :: tableValues rest

end

end HostBench.Toml
