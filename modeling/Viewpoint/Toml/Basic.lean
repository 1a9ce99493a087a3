/-!
# TOML values

The format of settings files. A file is written in steps, each of which adds to a tree of tables,
and what a step may add to depends on how a table came to be: a table has at most one header, which
a table of dotted keys cannot have, and a table in braces is complete.

* `Toml.Entries.assign` gives a dotted key its value.
* `Toml.Entries.open?` opens the table of a header, `Toml.Entries.openNext?` the next table of a
  list.
-/

namespace Viewpoint

/-- How a table came to be. -/
inductive TableOrigin where
  /-- By a header of its own; the file itself is such a table. -/
  | header
  /-- As a part of the path of a header. -/
  | implied
  /-- As a part of a dotted key. -/
  | dotted
  /-- As a value in braces. -/
  | braces
  deriving DecidableEq

/-- A value of a settings file. -/
inductive Toml where
  | str (value : String)
  | int (value : Int)
  /-- A number with a fraction or an exponent, or a name for one, as written. -/
  | float (text : String)
  | bool (value : Bool)
  /-- A date, a time or both, as written. -/
  | moment (text : String)
  | array (items : List Toml)
  /-- The tables of a repeated header, latest first. -/
  | tables (items : List Toml)
  | table (origin : TableOrigin) (entries : List (String × Toml))

namespace Toml

/-- The entries of a table, in the order in which they were added. -/
abbrev Entries := List (String × Toml)

namespace Entries

/-- Puts a value under a key, in place of what was there. -/
def put (entries : Entries) (key : String) (value : Toml) : Entries :=
  if entries.any (·.1 = key) then
    entries.map fun entry => if entry.1 = key then (key, value) else entry
  else entries ++ [(key, value)]

/-- Changes the entries of the table at the end of a path. Tables that are missing on the way are
made with the given origin; what a table there becomes when it is entered depends on its origin,
and some may not be entered. A list of tables stands for its latest one. -/
def changeAt (made : TableOrigin) (entered? : TableOrigin → Option TableOrigin)
    (change : TableOrigin → Entries → Option Entries) :
    List String → TableOrigin → Entries → Option Entries
  | [], origin, entries => change origin entries
  | key :: path, _, entries =>
    match entries.lookup key with
    | none => do
      let inner ← changeAt made entered? change path made []
      pure (entries ++ [(key, .table made inner)])
    | some (.table origin inner) => do
      let origin ← entered? origin
      let inner ← changeAt made entered? change path origin inner
      pure (entries.put key (.table origin inner))
    | some (.tables (.table origin inner :: earlier)) => do
      let inner ← changeAt made entered? change path origin inner
      pure (entries.put key (.tables (.table origin inner :: earlier)))
    | some _ => none

/-- Adds a value under a new key. -/
def add? (entries : Entries) (key : String) (value : Toml) : Option Entries :=
  match entries.lookup key with
  | none => some (entries ++ [(key, value)])
  | some _ => none

/-- What a table becomes when a dotted key leads through it. It must not have a header of its own,
and cannot get one any more. -/
def enteredByKey? : TableOrigin → Option TableOrigin
  | .implied | .dotted => some .dotted
  | .header | .braces => none

/-- Gives a key its value. The last table that a dotted key leads through is one of dotted keys; it
may go through a table with a header on the way only if that is the latest of a list. -/
def assign (entries : Entries) (path : List String) (key : String) (value : Toml) :
    Option Entries :=
  if path.isEmpty then entries.add? key value
  else
    changeAt .dotted enteredByKey?
      (fun origin inner => if origin = .dotted then inner.add? key value else none)
      path .header entries

/-- What a table becomes when a header leads through it. A table in braces is complete. -/
def enteredByHeader? : TableOrigin → Option TableOrigin
  | .braces => none
  | origin => some origin

/-- Changes the table that a header leads to. -/
def changeUnder (entries : Entries) (path : List String) (change : Entries → Option Entries) :
    Option Entries :=
  changeAt .implied enteredByHeader? (fun _ inner => change inner) path .header entries

/-- Opens the table of a header. It is a new one or was a part of the path of another header. -/
def open? (entries : Entries) (path : List String) (key : String) : Option Entries :=
  entries.changeUnder path fun inner =>
    match inner.lookup key with
    | none => some (inner ++ [(key, .table .header [])])
    | some (.table .implied own) => some (inner.put key (.table .header own))
    | some _ => none

/-- Opens the next table of the list of tables that a header in double brackets names. -/
def openNext? (entries : Entries) (path : List String) (key : String) : Option Entries :=
  entries.changeUnder path fun inner =>
    match inner.lookup key with
    | none => some (inner ++ [(key, .tables [.table .header []])])
    | some (.tables items) => some (inner.put key (.tables (.table .header [] :: items)))
    | some _ => none

end Entries

end Toml

end Viewpoint
