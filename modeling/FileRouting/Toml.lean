import FileRouting.Text

/-!
# TOML documents

A TOML document is a sequence of statements that fill a tree of tables.  A
header such as `[a.b]` opens a table, `[[a.b]]` adds an element to an array of
tables, and each pair that follows sets a key in the table opened last.  The
tables that a dotted key or a header passes on its way come into being if they
are missing.

No table may be defined twice, and each way of making a table limits how it may
be extended later.  A tree therefore keeps, for each table, how it came into
being.
-/

namespace FileRouting

/-- How a table came into being. -/
inductive TableOrigin where
  /-- On the way of a header to a deeper table. -/
  | implied
  /-- On the way of a dotted key. -/
  | dotted
  /-- By a header of its own. -/
  | header
  /-- Between braces, after which nothing can be added. -/
  | braces
  deriving DecidableEq, Repr

/-- A TOML value.  Floating-point numbers and dates are kept as written. -/
inductive Toml where
  | string (value : Text)
  | integer (value : Int)
  | float (literal : Text)
  | bool (value : Bool)
  | dateTime (literal : Text)
  | array (items : List Toml)
  | table (origin : TableOrigin) (members : List (Text × Toml))
  | tables (elements : List (List (Text × Toml)))

namespace Toml

/-- The keys of a table with their values. -/
abbrev Members := List (Text × Toml)

namespace Members

/-- Sets a key, in place if it is there already. -/
def set (key : Text) (value : Toml) : Members → Members
  | [] => [(key, value)]
  | (other, held) :: later =>
      if key = other then (key, value) :: later
      else (other, held) :: set key value later

/-- Changes the last element of an array of tables. -/
def changeLast (change : Members → Option Members) :
    List Members → Option (List Members)
  | [] => none
  | [last] => (change last).map fun last => [last]
  | first :: later =>
      (changeLast change later).map fun later => first :: later

/-- Sets a key that is not there yet, below the tables that the keys before it
name.  The table that takes the value has to be the first one or one that a
dotted key made. -/
def assign (value : Toml) : List Text → Members → Option Members
  | [], _ => none
  | [key], members =>
      match members.lookup key with
      | none => some (members.set key value)
      | some _ => none
  | key :: later, members =>
      match members.lookup key with
      | none =>
          (assign value later []).map fun inner =>
            members.set key (.table .dotted inner)
      | some (.table .dotted inner) =>
          (assign value later inner).map fun inner =>
            members.set key (.table .dotted inner)
      | some (.table .implied inner) =>
          if later.length = 1 then none
          else
            (assign value later inner).map fun inner =>
              members.set key (.table .implied inner)
      | some (.tables elements) =>
          if later.length = 1 then none
          else
            (changeLast (assign value later) elements).map fun elements =>
              members.set key (.tables elements)
      | some _ => none

/-- Changes the table that the keys of a header lead to.  An array of tables
stands for its last element. -/
def changeAt (change : Members → Option Members) :
    List Text → Members → Option Members
  | [], members => change members
  | key :: later, members =>
      match members.lookup key with
      | none =>
          (changeAt change later []).map fun inner =>
            members.set key (.table .implied inner)
      | some (.table .braces _) => none
      | some (.table origin inner) =>
          (changeAt change later inner).map fun inner =>
            members.set key (.table origin inner)
      | some (.tables elements) =>
          (changeLast (changeAt change later) elements).map fun elements =>
            members.set key (.tables elements)
      | some _ => none

/-- Opens the table of a header.  Only a table that no header and no key has
defined may be opened. -/
def openTable (key : Text) (members : Members) : Option Members :=
  match members.lookup key with
  | none => some (members.set key (.table .header []))
  | some (.table .implied inner) =>
      some (members.set key (.table .header inner))
  | some _ => none

/-- Adds an element to an array of tables. -/
def openElement (key : Text) (members : Members) : Option Members :=
  match members.lookup key with
  | none => some (members.set key (.tables [[]]))
  | some (.tables elements) =>
      some (members.set key (.tables (elements ++ [[]])))
  | some _ => none

end Members

/-- A statement of a document. -/
inductive Statement where
  | pair (keys : List Text) (value : Toml)
  | tableHeader (keys : List Text)
  /-- A header that adds an element to an array of tables. -/
  | elementHeader (keys : List Text)

/-- A document while it is filled: its tables, and the keys of the table opened
last. -/
structure Filling where
  members : Members
  opened : List Text

namespace Filling

/-- Applies a change below all but the last key of a header, which then leads to
the table opened last. -/
def openAt (change : Text → Members → Option Members) (keys : List Text)
    (filling : Filling) : Option Filling :=
  match keys.getLast? with
  | none => none
  | some last =>
      (Members.changeAt (change last) keys.dropLast filling.members).map
        fun members => ⟨members, keys⟩

/-- Carries out one statement. -/
def perform (filling : Filling) : Statement → Option Filling
  | .pair keys value =>
      (Members.changeAt (Members.assign value keys) filling.opened
          filling.members).map
        fun members => ⟨members, filling.opened⟩
  | .tableHeader keys => filling.openAt Members.openTable keys
  | .elementHeader keys => filling.openAt Members.openElement keys

end Filling

/-- The top table of a document. -/
def ofStatements? (statements : List Statement) : Option Members :=
  (statements.foldlM Filling.perform ⟨[], []⟩).map Filling.members

/-- A table between braces. -/
def ofPairs? (pairs : List (List Text × Toml)) : Option Toml :=
  (pairs.foldlM (fun members (keys, value) => Members.assign value keys members)
    []).map fun members => .table .braces members

end Toml

end FileRouting
