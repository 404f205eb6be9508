/-
  TOML documents: the table that the statements of a text build.
-/
import HostBench.Toml.Statement

namespace HostBench.Toml

/-- A document in the making: the tables that are complete, the table that entries go to, and the
path of its header. -/
structure Draft where
  root : Table
  current : Table
  path : List String
  isElement : Bool

namespace Draft

/-- A document before its first header. -/
def empty : Draft := ⟨.empty, .empty, [], false⟩

/-- The complete tables with the current one in its place: an element ends its array, every other
table comes last in its parent. -/
def close (d : Draft) : Option Table :=
  match d.path.getLast? with
  | none => some d.current
  | some key => d.root.within false (fun parent =>
      if d.isElement then
        match parent.entries.lookup key with
        | some (.tables ts) => some (parent.put key (.tables (ts ++ [d.current])))
        | _ => none
      else some (parent.put key (.table d.current))) d.path.dropLast

/-- The table at a path. -/
def find? : List String → Table → Option Table
  | [], t => some t
  | key :: path, t =>
    match t.entries.lookup key with
    | some (.table s) => find? path s
    | some (.tables ts) => ts.getLast?.bind (find? path)
    | _ => none

/-- Begins the table of a header. A table that so far only lies on the way to others is taken up
again; every other one has been named before. -/
def openTable (root : Table) (path : List String) : Option Draft :=
  let parents := path.dropLast
  let key := path.getLastD ""
  (root.within false (fun parent =>
    match parent.entries.lookup key with
    | none => some parent
    | some (.table t) => if t.implicit && !t.dotted then some parent else none
    | some _ => none) parents).bind fun root =>
  let found := (find? path root).getD .empty
  (root.within false (fun parent => some (parent.remove key)) parents).map fun root =>
    ⟨root, .mk false false found.entries, path, false⟩

/-- Begins one more table of an array. -/
def openElement (root : Table) (path : List String) : Option Draft :=
  let parents := path.dropLast
  let key := path.getLastD ""
  (root.within false (fun parent =>
    match parent.entries.lookup key with
    | none => some (parent.put key (.tables []))
    | some (.tables _) => some parent
    | some _ => none) parents).map fun root => ⟨root, .empty, path, true⟩

/-- Takes in one statement. -/
def add (d : Draft) : Statement → Option Draft
  | .entry path v => (d.current.insert path v).map fun t => { d with current := t }
  | .table path => d.close.bind fun root => openTable root path
  | .element path => d.close.bind fun root => openElement root path

end Draft

/-- The characters after a byte order mark at the beginning. -/
def dropMark : List Char → List Char
  | '\ufeff' :: rest => rest
  | s => s

/-- The top-level entries of a document in document order, if it is well formed. -/
def document? (text : String) : Option (List (String × Value)) := do
  let statements ← statements? (dropMark text.toList)
  let draft ← statements.foldlM Draft.add .empty
  let root ← draft.close
  return root.toEntries

end HostBench.Toml
