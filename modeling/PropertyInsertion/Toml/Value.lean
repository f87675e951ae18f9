import PropertyInsertion.Text.Basic

/-!
# TOML values and tables

A TOML file is a table. Tables remember how they came about, because that decides whether later lines
of the file may add to them: a table in braces is complete, a table under its own header is complete
up to its subtables, and a table that dotted keys add to is never opened by a header.
-/

namespace PropertyInsertion.Toml

/-- How a table came about. -/
inductive Origin where
  /-- Written in braces. -/
  | braces
  /-- Opened by its own header. -/
  | header
  /-- Named on the way to a header of a table further in. -/
  | passage
  /-- Named on the way to a dotted key, be it after having been a passage. -/
  | dotted
deriving DecidableEq, Repr

/-- A TOML value. Numbers with a point or exponent and dates are kept as they are written. -/
inductive Value where
  | string (text : Text)
  | boolean (value : Bool)
  | integer (value : Int)
  | float (written : Text)
  | datetime (written : Text)
  | array (items : List Value)
  | table (origin : Origin) (entries : List (Text × Value))
  /-- The tables that headers in double brackets opened under one name. -/
  | tables (rows : List (List (Text × Value)))
deriving Repr

abbrev Entries := List (Text × Value)

namespace Entries

def get? (entries : Entries) (key : Text) : Option Value :=
  entries.lookup key

def replace (entries : Entries) (key : Text) (value : Value) : Entries :=
  entries.map fun entry => if entry.1 = key then (key, value) else entry

/-- The entries with a value under a key that is new or has a value already. -/
def put (entries : Entries) (key : Text) (value : Value) : Entries :=
  match entries.get? key with
  | some _ => entries.replace key value
  | none => entries ++ [(key, value)]

def changeLast (change : Entries → Option Entries) (rows : List Entries) : Option (List Entries) :=
  match rows.getLast? with
  | some last => (change last).map fun changed => rows.dropLast ++ [changed]
  | none => none

/-- The value under a dotted key added. Neither a complete value nor a table under a header is added
to. The last of several rows gets no value itself, only tables that dotted keys begin in it. -/
def insert (value : Value) : List Text → Entries → Option Entries
  | [], _ => none
  | [key], entries => if (entries.get? key).isSome then none else some (entries ++ [(key, value)])
  | key :: next :: path, entries =>
    let addTo (origin : Origin) (inner : Entries) : Option Entries :=
      (insert value (next :: path) inner).map fun inner => entries.put key (.table origin inner)
    match entries.get? key with
    | none => addTo .dotted []
    | some (.table .dotted inner) | some (.table .passage inner) => addTo .dotted inner
    | some (.tables rows) =>
      if path.isEmpty then none
      else (changeLast (insert value (next :: path)) rows).map fun rows =>
        entries.put key (.tables rows)
    | some _ => none

/-- The change made to the table that a header's path leads to; tables on the way are made if they
are missing, and of several rows the last is taken. -/
def change (step : Text → Entries → Option Entries) : List Text → Entries → Option Entries
  | [], _ => none
  | [key], entries => step key entries
  | key :: next :: path, entries =>
    let addTo (origin : Origin) (inner : Entries) : Option Entries :=
      (change step (next :: path) inner).map fun inner => entries.put key (.table origin inner)
    match entries.get? key with
    | none => addTo .passage []
    | some (.table .braces _) => none
    | some (.table origin inner) => addTo origin inner
    | some (.tables rows) =>
      (changeLast (change step (next :: path)) rows).map fun rows => entries.put key (.tables rows)
    | some _ => none

/-- The table of a header opened. A table is opened once, but subtables may come before it. -/
def openTable : List Text → Entries → Option Entries :=
  change fun key entries =>
    match entries.get? key with
    | none => some (entries ++ [(key, .table .header [])])
    | some (.table .passage inner) => some (entries.put key (.table .header inner))
    | some _ => none

/-- One more row opened for a header in double brackets. -/
def openRow : List Text → Entries → Option Entries :=
  change fun key entries =>
    match entries.get? key with
    | none => some (entries ++ [(key, .tables [[]])])
    | some (.tables rows) => some (entries.put key (.tables (rows ++ [[]])))
    | some _ => none

/-- A value added under a dotted key of the table that was opened last. -/
def insertBelow (value : Value) (path : List Text) (header : List Text) (entries : Entries) :
    Option Entries :=
  if header.isEmpty then insert value path entries
  else
    change (fun key entries =>
      match entries.get? key with
      | some (.table origin inner) =>
        (insert value path inner).map fun inner => entries.put key (.table origin inner)
      | some (.tables rows) =>
        (changeLast (insert value path) rows).map fun rows => entries.put key (.tables rows)
      | _ => none) header entries

end Entries

end PropertyInsertion.Toml
