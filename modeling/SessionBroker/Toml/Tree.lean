import SessionBroker.Json.Value

/-!
# Tables of a configuration text

A configuration text fills a tree of tables line by line. A table may be written out once, under a
header of its own. Tables that only lead to others come into being without one: those on the way to a
header may still get theirs, those on the way of a dotted key may not.
-/

namespace SessionBroker.Toml

/-- How a table came into being. -/
inductive TableKind
  | header
  | implied
  | dotted
deriving DecidableEq, Repr

inductive Node
  | value (json : Json)
  | table (kind : TableKind) (entries : List (String × Node))
  /-- The tables under a header in double brackets. -/
  | tables (items : List (List (String × Node)))

abbrev Entries := List (String × Node)

/-- Replaces the node under a key that is there. -/
def replace (key : String) (node : Node) (e : Entries) : Entries :=
  e.map fun entry => if entry.1 = key then (key, node) else entry

/-- Changes the table at the end of a path of headers. Tables that are missing on the way are implied;
a list of tables stands for its last one. -/
def changeAt (change : Entries → Option Entries) : List String → Entries → Option Entries
  | [], e => change e
  | key :: rest, e => match e.lookup key with
    | none => do
      let inner ← changeAt change rest []
      some (e ++ [(key, .table .implied inner)])
    | some (.table kind inner) => do
      let inner ← changeAt change rest inner
      some (replace key (.table kind inner) e)
    | some (.tables items) => do
      let inner ← changeAt change rest (items.getLast?.getD [])
      some (replace key (.tables (items.dropLast ++ [inner])) e)
    | some (.value _) => none

/-- Adds a value under a dotted key. The tables on the way must not have headers, and the last of them
must come from dotted keys too. -/
def addValue (json : Json) : List String → Entries → Option Entries
  | [], _ => none
  | [key], e => if (e.lookup key).isSome then none else some (e ++ [(key, .value json)])
  | key :: next :: rest, e => match e.lookup key with
    | none => do
      let inner ← addValue json (next :: rest) []
      some (e ++ [(key, .table .dotted inner)])
    | some (.table kind inner) =>
      if kind = .header || (rest.isEmpty && kind ≠ .dotted) then none
      else do
        let inner ← addValue json (next :: rest) inner
        some (replace key (.table kind inner) e)
    | some (.tables items) =>
      if rest.isEmpty then none
      else do
        let inner ← addValue json (next :: rest) (items.getLast?.getD [])
        some (replace key (.tables (items.dropLast ++ [inner])) e)
    | some (.value _) => none

/-- Opens the table of a header. -/
def openTable (key : String) (e : Entries) : Option Entries :=
  match e.lookup key with
  | none => some (e ++ [(key, .table .header [])])
  | some (.table .implied inner) => some (replace key (.table .header inner) e)
  | _ => none

/-- Opens one more table of a header in double brackets. -/
def appendTable (key : String) (e : Entries) : Option Entries :=
  match e.lookup key with
  | none => some (e ++ [(key, .tables [[]])])
  | some (.tables items) => some (replace key (.tables (items ++ [[]])) e)
  | _ => none

mutual

def Node.json : Node → Json
  | .value json => json
  | .table _ entries => Json.object (entriesJson entries)
  | .tables items => .arr (itemsJson items)

def entriesJson : List (String × Node) → List (String × Json)
  | [] => []
  | (key, node) :: rest => (key, node.json) :: entriesJson rest

def itemsJson : List (List (String × Node)) → List Json
  | [] => []
  | entries :: rest => Json.object (entriesJson entries) :: itemsJson rest

end

end SessionBroker.Toml
