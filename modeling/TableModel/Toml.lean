import TableModel.Text

/-!
# TOML values and tables

A document is a tree of tables. How a table came about decides what may still be added to it, so
each table keeps its `TableForm`: a header may open a table that so far was only implied by longer
headers; dotted keys may go on with tables that dotted keys made; a table written as a value is
complete. Two functions say all of that: `putKey` adds a value under a dotted key, and `putSection`
adds what stands under a header.
-/

namespace TableModel

/-- How a table came about: it is written as a value, in braces; it has a header of its own; it is
part of the path of a header; or it is part of a dotted key. -/
inductive TableForm where
  | inline
  | header
  | implied
  | dotted
  deriving DecidableEq, Repr

/-- A TOML value. Integers and floats are numbers as they are written, and so are dates and times.
The tables of an array that is written with a header for each of them are kept apart from an array
of tables, which is closed when it ends. -/
inductive Toml where
  | string (text : Text)
  | bool (b : Bool)
  | number (literal : Text)
  | dateTime (literal : Text)
  | array (items : List Toml)
  | table (form : TableForm) (members : List (Text × Toml))
  | tables (items : List (List (Text × Toml)))

namespace Toml

/-- The members of a table, each key once. -/
abbrev Members := List (Text × Toml)

/-- The members with a value under a key, which replaces what stood there. -/
def set (key : Text) (value : Toml) : Members → Members
  | [] => [(key, value)]
  | member :: rest =>
    if member.1 = key then (key, value) :: rest else member :: set key value rest

def changeLast (change : Members → Option Members) : List Members → Option (List Members)
  | [] => none
  | [last] => (change last).map ([·])
  | first :: rest => (changeLast change rest).map (first :: ·)

/-- The members with a value under a dotted key: the path to its table, and the key in there. The
value must be new, and its table must have been made by dotted keys, if the path leads to one. -/
def putKey (key : Text) (value : Toml) : List Text → Members → Option Members
  | [], members => if (members.lookup key).isSome then none else some (members ++ [(key, value)])
  | step :: path, members =>
    match members.lookup step with
    | none => do return members ++ [(step, .table .dotted (← putKey key value path []))]
    | some (.table .dotted inner) => do
      return set step (.table .dotted (← putKey key value path inner)) members
    | some (.table .implied inner) =>
      if path.isEmpty then none
      else do return set step (.table .implied (← putKey key value path inner)) members
    | some (.tables items) =>
      if path.isEmpty then none
      else do return set step (.tables (← changeLast (putKey key value path) items)) members
    | some _ => none

/-- The members changed under the path of a header, where `change` says what becomes of what stands
at its end. -/
def putSection (change : Option Toml → Option Toml) : List Text → Members → Option Members
  | [], _ => none
  | [key], members => do return set key (← change (members.lookup key)) members
  | step :: path, members =>
    match members.lookup step with
    | none => do return set step (.table .implied (← putSection change path [])) members
    | some (.table .inline _) => none
    | some (.table form inner) => do
      return set step (.table form (← putSection change path inner)) members
    | some (.tables items) => do
      return set step (.tables (← changeLast (putSection change path) items)) members
    | some _ => none

/-- A value with the dotted key it is given to: the path to the table of the key, and the key in
there. -/
structure Entry where
  path : List Text
  key : Text
  value : Toml

def putEntries (entries : List Entry) (members : Members) : Option Members :=
  entries.foldlM (fun members entry => putKey entry.key entry.value entry.path members) members

/-- What a header of a table makes of what stands at its path. -/
def openTable (entries : List Entry) : Option Toml → Option Toml
  | none => (putEntries entries []).map (.table .header)
  | some (.table .implied members) => (putEntries entries members).map (.table .header)
  | some _ => none

/-- What a header of an array's table makes of what stands at its path. -/
def appendTable (entries : List Entry) : Option Toml → Option Toml
  | none => (putEntries entries []).map fun members => .tables [members]
  | some (.tables items) => (putEntries entries []).map fun members => .tables (items ++ [members])
  | some _ => none

end Toml

end TableModel
