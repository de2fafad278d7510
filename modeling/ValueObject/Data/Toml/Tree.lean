/-
# ValueObject.Data.Toml.Tree -- tables as a TOML text builds them up

A TOML text states its tables piece by piece, and what may still be added to a table depends on how
it came to be:

* a table with a **header** of its own gets no second header, and dotted keys do not reach into it;
* a table that is only **implied** by the header of a table inside it may get its header later;
* a table that **dotted** keys made may be extended by dotted keys, and gets no header.

A value that is written out, an inline table or a list among them, is closed. Every step here
refuses what these rules forbid.
-/

import ValueObject.Data.Datum

namespace ValueObject.Data.Toml

/-- How a table came to be. -/
inductive Origin where
  | header
  | implied
  | dotted
  deriving DecidableEq, Repr

/-- A value under construction. `tables` is a list of tables with headers of their own; the last
one is open. -/
inductive Node where
  | closed (d : Datum)
  | table (origin : Origin) (entries : List (String × Node))
  | tables (items : List Node)

/-- The entries of a table under construction. -/
abbrev Entries := List (String × Node)

/-- Changes what stands under a key, or puts it there. -/
def alter (key : String) (f : Option Node → Option Node) : Entries → Option Entries
  | [] => (f none).map fun n => [(key, n)]
  | (k, n) :: rest =>
    if k = key then (f (some n)).map fun n => (k, n) :: rest
    else (alter key f rest).map ((k, n) :: ·)

/-- Changes the last of some nodes. -/
def alterLast (f : Node → Option Node) : List Node → Option (List Node)
  | [] => none
  | [n] => (f n).map ([·])
  | n :: rest => (alterLast f rest).map (n :: ·)

/-- Changes the entries of a table. -/
def Node.alterTable (f : Origin → Entries → Option Entries) : Node → Option Node
  | .table origin entries => (f origin entries).map (.table origin)
  | _ => none

/-- Changes the entries of a table, or of the open one of several. -/
def Node.alterOpen (f : Entries → Option Entries) : Node → Option Node
  | .closed _ => none
  | .table origin entries => (f entries).map (.table origin)
  | .tables items => (alterLast (Node.alterTable fun _ => f) items).map .tables

/-- **Defines a value under a dotted key.** `extensible` says that the table may be extended this
way: it is the table of the statement itself, or one that dotted keys made. -/
def define (extensible : Bool) : List String → Datum → Entries → Option Entries
  | [], _, _ => none
  | [key], d, entries =>
    if extensible then
      alter key (fun n => if n.isNone then some (.closed d) else none) entries
    else none
  | key :: rest, d, entries =>
    alter key
      (fun
        | none => (define true rest d []).map (.table .dotted)
        | some (.table .header _) => none
        | some (.table origin sub) =>
          (define (origin == .dotted) rest d sub).map (.table origin)
        | some n => n.alterOpen (define false rest d))
      entries

/-- Follows a path of headers, making implied tables on the way, and changes the last entry. -/
def alterPath (f : Option Node → Option Node) : List String → Entries → Option Entries
  | [], _ => none
  | [key], entries => alter key f entries
  | key :: rest, entries =>
    alter key
      (fun
        | none => (alterPath f rest []).map (.table .implied)
        | some n => n.alterOpen (alterPath f rest))
      entries

/-- **Opens a table** by its header. -/
def openTable : List String → Entries → Option Entries :=
  alterPath fun
    | none => some (.table .header [])
    | some (.table .implied entries) => some (.table .header entries)
    | some _ => none

/-- **Opens one more table of a list** by its header. -/
def openItem : List String → Entries → Option Entries :=
  alterPath fun
    | none => some (.tables [.table .header []])
    | some (.tables items) => some (.tables (items ++ [.table .header []]))
    | some _ => none

/-- **Defines a value** in the table that the header opened last. -/
def defineUnder (header key : List String) (d : Datum) (entries : Entries) : Option Entries :=
  match header with
  | [] => define true key d entries
  | path :: rest =>
    alterPath (fun n => n.bind (Node.alterOpen (define true key d))) (path :: rest) entries

/-! ## What was built -/

mutual

/-- The datum of a node. -/
def Node.toDatum : Node → Datum
  | .closed d => d
  | .table _ entries => .table (entriesToData entries)
  | .tables items => .list (nodesToData items)

/-- The data of entries. -/
def entriesToData : List (String × Node) → List (String × Datum)
  | [] => []
  | (key, n) :: rest => (key, n.toDatum) :: entriesToData rest

/-- The data of nodes. -/
def nodesToData : List Node → List Datum
  | [] => []
  | n :: rest => n.toDatum :: nodesToData rest

end

end ValueObject.Data.Toml
