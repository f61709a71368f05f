import CatalogSearch.Keyed
import CatalogSearch.Number.Double

/-!
# TOML documents

A document is a table of items. An item is a value, a table, or an array of tables that headers
built; a table remembers whether a header defined it and whether dotted keys did, because each of
these decides who may add to it later.
-/
namespace CatalogSearch

inductive Toml where
  | str (value : String)
  | int (value : Int)
  | float (value : Double)
  | bool (value : Bool)
  | moment (text : String)
  | arr (items : List Toml)
  | table (members : List (String × Toml))
  deriving Inhabited, Repr

namespace Toml

/-- An entry of a document under construction. -/
inductive Item where
  | value (value : Toml)
  /-- A table; `implicit` unless a header names it, `dotted` if dotted keys made it. -/
  | table (implicit dotted : Bool) (members : List (String × Item))
  /-- Tables under one double-bracket header, last first. -/
  | tables (rows : List (List (String × Item)))
  deriving Inhabited

abbrev Members : Type := List (String × Item)

def append (key : String) (item : Item) (members : Members) : Members :=
  members ++ [(key, item)]

def replace (key : String) (item : Item) (members : Members) : Members :=
  members.map fun m => if m.1 = key then (key, item) else m

/-- Give a value to a key of a table that a header or dotted keys made. -/
def define (viaDots : Bool) (key : String) (value : Toml) (dotted : Bool) (members : Members) :
    Option Members :=
  if dotted != viaDots || (Keyed.find? key members).isSome then none
  else some (append key (.value value) members)

/-- Give a value to a dotted key below a table. Tables on the way are made as needed; one that a
header defined is closed to dotted keys. -/
def defineAt (value : Toml) (viaDots : Bool) :
    List String → Bool → Members → Option Members
  | [], _, _ => none
  | [key], dotted, members => define viaDots key value dotted members
  | key :: rest, _, members =>
    match Keyed.find? key members with
    | none => (defineAt value true rest true []).map fun inner =>
      append key (.table true true inner) members
    | some (.table implicit dotted inner) =>
      if !implicit then none
      else (defineAt value true rest dotted inner).map fun inner =>
        replace key (.table implicit dotted inner) members
    | some (.tables (row :: rows)) => (defineAt value true rest false row).map fun row =>
      replace key (.tables (row :: rows)) members
    | _ => none

/-- Change the table at a path, making tables on the way; `change` gets the table's last key and
the members around it. -/
def changeAt (change : String → Members → Option Members) :
    List String → Members → Option Members
  | [], _ => none
  | [key], members => change key members
  | key :: rest, members =>
    match Keyed.find? key members with
    | none => (changeAt change rest []).map fun inner =>
      append key (.table true false inner) members
    | some (.table implicit dotted inner) => (changeAt change rest inner).map fun inner =>
      replace key (.table implicit dotted inner) members
    | some (.tables (row :: rows)) => (changeAt change rest row).map fun row =>
      replace key (.tables (row :: rows)) members
    | _ => none

/-- Open the table of a header. A table that an earlier header or dotted keys defined cannot be
opened again. -/
def openTable (key : String) (members : Members) : Option Members :=
  match Keyed.find? key members with
  | none => some (append key (.table false false []) members)
  | some (.table true false inner) => some (replace key (.table false false inner) members)
  | _ => none

def openRow (key : String) (members : Members) : Option Members :=
  match Keyed.find? key members with
  | none => some (append key (.tables [[]]) members)
  | some (.tables rows) => some (replace key (.tables ([] :: rows)) members)
  | _ => none

/-- Give a value to a dotted key below the table that the last header opened. -/
def assign (keys : List String) (value : Toml) (header : List String) (members : Members) :
    Option Members :=
  match header with
  | [] => defineAt value false keys false members
  | _ => changeAt (fun key around =>
      match Keyed.find? key around with
      | some (.table implicit dotted inner) => (defineAt value false keys dotted inner).map
        fun inner => replace key (.table implicit dotted inner) around
      | some (.tables (row :: rows)) => (defineAt value false keys false row).map fun row =>
        replace key (.tables (row :: rows)) around
      | _ => none) header members

mutual

def Item.finish : Item → Toml
  | .value v => v
  | .table _ _ members => .table (finishMembers members)
  | .tables rows => .arr (finishRows rows).reverse

def finishMembers : Members → List (String × Toml)
  | [] => []
  | (key, item) :: rest => (key, item.finish) :: finishMembers rest

def finishRows : List Members → List Toml
  | [] => []
  | row :: rest => .table (finishMembers row) :: finishRows rest

end

end Toml

end CatalogSearch
