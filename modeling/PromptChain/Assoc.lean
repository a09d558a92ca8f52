/-
**Maps that keep the order of insertion.**

A map from texts to values is a list of pairs. Setting a key that is there keeps its place; a new
key goes to the end (`Assoc.set`).
-/

namespace PromptChain

/-- A map from texts, in the order of insertion. -/
abbrev Assoc (α : Type) := List (String × α)

namespace Assoc

variable {α : Type}

def get? (map : Assoc α) (key : String) : Option α := map.lookup key

def has (map : Assoc α) (key : String) : Bool := map.any fun entry => entry.1 == key

/-- Sets a key: in its place if it is there, else at the end. -/
def set (map : Assoc α) (key : String) (value : α) : Assoc α :=
  match map with
  | [] => [(key, value)]
  | entry :: rest =>
    if entry.1 = key then (key, value) :: rest else entry :: set rest key value

/-- Sets every key of a second map, in its order. -/
def setAll (map values : Assoc α) : Assoc α :=
  values.foldl (fun result entry => set result entry.1 entry.2) map

def erase (map : Assoc α) (key : String) : Assoc α := map.filter fun entry => entry.1 != key

def keys (map : Assoc α) : List String := map.map Prod.fst

/-- A map from pairs; of two pairs with one key the second counts, in the place of the first. -/
def ofPairs (pairs : List (String × α)) : Assoc α := setAll [] pairs

end Assoc

end PromptChain
