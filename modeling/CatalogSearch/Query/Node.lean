import CatalogSearch.Text.Quoted

/-!
# Queries

What a user's search text means: everything, some words, a phrase, or a choice between
alternatives; and the fields that words and phrases are looked for in.
-/
namespace CatalogSearch

inductive MatchMode where
  /-- Every word must occur somewhere in the search fields. -/
  | allWords
  /-- The words must occur side by side in one field. -/
  | phrase
  deriving DecidableEq, Repr

inductive Query where
  | matchAll
  | weighted (text : String) (mode : MatchMode)
  | any (alternatives : List Query)
  deriving Repr, Inhabited, BEq

namespace Query

def allWords (text : String) : Query := .weighted text .allWords

def phrase (text : String) : Query := .weighted text .phrase

def isMatchAll : Query → Bool
  | .matchAll => true
  | _ => false

inductive Field where
  | title | description | publisher | keyword | theme | identifier
  deriving DecidableEq, Repr

def Field.name : Field → String
  | .title => "title"
  | .description => "description"
  | .publisher => "publisher"
  | .keyword => "keyword"
  | .theme => "theme"
  | .identifier => "identifier"

/-- How much a hit in a field counts. -/
def Field.boost : Field → Nat
  | .title => 5
  | .description => 3
  | .publisher => 3
  | .keyword => 2
  | .theme => 1
  | .identifier => 1

/-- The search fields in the order of their weight. -/
def searchFields : List Field :=
  [.title, .description, .publisher, .keyword, .theme, .identifier]

mutual

/-- A query on one line, as a log shows it. -/
def describe : Query → String
  | .matchAll => "MatchAll"
  | .weighted text mode =>
    "WeightedMatch \x7b text: " ++ Text.quoted text ++ ", mode: " ++
      (match mode with
        | .allWords => "And"
        | .phrase => "Phrase") ++ " \x7d"
  | .any alternatives => "Or([" ++ describeAll alternatives ++ "])"

def describeAll : List Query → String
  | [] => ""
  | [q] => describe q
  | q :: rest => describe q ++ ", " ++ describeAll rest

end

end Query

end CatalogSearch
