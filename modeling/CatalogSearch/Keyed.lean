/-!
# Keyed lists

A list of entries under text keys, kept in ascending order of the keys by code point. Every key
stands at most once, so two keyed lists with the same entries are equal.
-/
namespace CatalogSearch.Keyed

variable {α : Type}

/-- Put an entry in its place; an entry with the same key is replaced. -/
def insert (key : String) (value : α) : List (String × α) → List (String × α)
  | [] => [(key, value)]
  | (k, v) :: rest =>
    if key < k then (key, value) :: (k, v) :: rest
    else if key = k then (key, value) :: rest
    else (k, v) :: insert key value rest

def find? (key : String) : List (String × α) → Option α
  | [] => none
  | (k, v) :: rest => if k = key then some v else find? key rest

def erase (key : String) : List (String × α) → List (String × α)
  | [] => []
  | (k, v) :: rest => if k = key then rest else (k, v) :: erase key rest

def contains (key : String) (entries : List (String × α)) : Bool :=
  (find? key entries).isSome

def keys (entries : List (String × α)) : List String :=
  entries.map (·.1)

def values (entries : List (String × α)) : List α :=
  entries.map (·.2)

/-- The keyed list of some entries; of two with one key the later counts. -/
def ofList (entries : List (String × α)) : List (String × α) :=
  entries.foldl (fun acc e => insert e.1 e.2 acc) []

/-- Replace the value under a key, if there is one. -/
def adjust (key : String) (f : α → α) : List (String × α) → List (String × α)
  | [] => []
  | (k, v) :: rest => if k = key then (k, f v) :: rest else (k, v) :: adjust key f rest

end CatalogSearch.Keyed
