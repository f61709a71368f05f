import CatalogSearch.Domain.ScriptTable
import CatalogSearch.Text.CodeRow

/-!
# Direction and joining in labels

Labels may mix letters that run from left to right and from right to left only in ways that do not
make two names look alike. Two joining controls that cannot be seen are allowed only where they
change how their neighbours look.
-/
namespace CatalogSearch.Domain

open Text (CodeRow)

def marks : List CodeRow := CodeRow.ofLines markLines

def transparent : List CodeRow := CodeRow.ofLines transparentLines

def joiningBoth : List CodeRow := CodeRow.ofLines joiningBothLines

def joiningNext : List CodeRow := CodeRow.ofLines joiningNextLines

def joiningPrevious : List CodeRow := CodeRow.ofLines joiningPreviousLines

def rightToLeft : List CodeRow := CodeRow.ofLines rightToLeftLines

def arabicNumbers : List CodeRow := CodeRow.ofLines arabicNumberLines

def europeanNumbers : List CodeRow := CodeRow.ofLines europeanNumberLines

def neutrals : List CodeRow := CodeRow.ofLines neutralLines

inductive Direction where
  | left | right | arabicNumber | europeanNumber | mark | neutral
  deriving DecidableEq, Repr

def Direction.of (c : Char) : Direction :=
  if CodeRow.has c rightToLeft then .right
  else if CodeRow.has c arabicNumbers then .arabicNumber
  else if CodeRow.has c europeanNumbers then .europeanNumber
  else if CodeRow.has c transparent then .mark
  else if CodeRow.has c neutrals then .neutral
  else .left

/-- Does a label make its domain name one of mixed direction? -/
def runsRight (label : List Char) : Bool :=
  label.any fun c => Direction.of c = .right || Direction.of c = .arabicNumber

/-- May a label stand in a domain name of mixed direction? Its first character sets the direction;
what goes against it may not occur, and the last character but for marks must go with it or be a
digit. -/
def isOrdered (label : List Char) : Bool :=
  let ways := label.map Direction.of
  let last := (ways.reverse.dropWhile (· = .mark)).headD .neutral
  match ways with
  | [] => true
  | .left :: _ =>
    ways.all (fun d => d ≠ .right && d ≠ .arabicNumber) && (last = .left || last = .europeanNumber)
  | .right :: _ =>
    ways.all (fun d => d ≠ .left) &&
      (last = .right || last = .europeanNumber || last = .arabicNumber) &&
      !(ways.contains .europeanNumber && ways.contains .arabicNumber)
  | _ => false

/-- Does the first character that joining does not look through join what follows `before`, which
is given last first? -/
def joinsNext (before : List Char) : Bool :=
  match before.dropWhile fun c => CodeRow.has c transparent with
  | [] => false
  | c :: _ => CodeRow.has c joiningBoth || CodeRow.has c joiningNext

/-- Does the first character that joining does not look through join what stands before it? -/
def joinsPrevious (after : List Char) : Bool :=
  match after.dropWhile fun c => CodeRow.has c transparent with
  | [] => false
  | c :: _ => CodeRow.has c joiningBoth || CodeRow.has c joiningPrevious

end CatalogSearch.Domain
