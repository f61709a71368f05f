/-!
# Failures

Why a job stops. A failure of the index or of a sync run can carry contexts, each of which says
what was being done, and a failed page carries the failure that it failed with. The levels of a
failure are its texts from the outermost inwards.
-/
namespace CatalogSearch

/-- One document that the index refused. -/
structure ItemError where
  documentId : String
  status : Nat
  errorType : String
  errorReason : String
  causedBy : Option String
  deriving DecidableEq, Repr, Inhabited

inductive IndexError where
  | timeout (detail : String)
  /-- The index could not be reached or refused service. -/
  | unavailable (detail : String)
  /-- The index or the document does not exist. -/
  | notFound (detail : String)
  /-- Any other answer that reports no success. -/
  | status (code : Nat) (body : String)
  | malformed (detail : String)
  deriving DecidableEq, Repr, Inhabited

def IndexError.message : IndexError → String
  | .timeout detail => s!"index request timed out: {detail}"
  | .unavailable detail => s!"index unavailable: {detail}"
  | .notFound detail => s!"not found in index: {detail}"
  | .status code body => s!"index returned HTTP {code}: {body}"
  | .malformed detail => s!"malformed index response: {detail}"

/-- Why a job stops. -/
inductive Failure where
  | index (error : IndexError)
  /-- A page kept failing until no retry was left. -/
  | retriesExhausted (page attempts : Nat) (source : Failure)
  /-- A page failed in a way that is not worth a retry. -/
  | pageFailed (page : Nat) (source : Failure)
  /-- No record has this id or slug. -/
  | recordNotFound (key : String)
  /-- A single record cannot be synced into a fresh index. -/
  | recreateNotAllowed
  /-- The index refused the one document that was to be written. -/
  | documentRejected (item : ItemError)
  /-- Any other failure. -/
  | message (text : String)
  /-- What was being done when the cause struck. -/
  | context (text : String) (cause : Failure)
  deriving DecidableEq, Repr, Inhabited

def chainText (texts : List String) : String :=
  String.intercalate ": " texts

namespace Failure

/-- The texts of a failure, outermost first. -/
def levels : Failure → List String
  | .index error => [error.message]
  | .retriesExhausted page attempts source =>
    s!"page {page} failed after {attempts} attempts: {chainText source.levels}" :: source.levels
  | .pageFailed page source =>
    s!"page {page} failed with a non-retryable error: {chainText source.levels}" :: source.levels
  | .recordNotFound key => [s!"no dataset found with id or slug '{key}'"]
  | .recreateNotAllowed => ["recreating the index is not allowed when syncing a single dataset"]
  | .documentRejected item =>
    [s!"index rejected dataset {item.documentId}: status {item.status} {item.errorType} " ++
      s!"({item.errorReason})"]
  | .message text => [text]
  | .context text cause => text :: cause.levels

/-- The outermost text. -/
def text (f : Failure) : String :=
  f.levels.headD ""

/-- All texts on one line, outermost first. -/
def full (f : Failure) : String :=
  chainText f.levels

/-- The failure without its contexts. -/
def root : Failure → Failure
  | .context _ cause => cause.root
  | f => f

/-- Does the failure, whatever its contexts, say that the index or a document is absent? -/
def isNotFound (f : Failure) : Bool :=
  match f.root with
  | .index (.notFound _) => true
  | _ => false

/-- The first failure of the index at any level, going inwards. -/
def indexError? : Failure → Option IndexError
  | .index error => some error
  | .retriesExhausted _ _ source => source.indexError?
  | .pageFailed _ source => source.indexError?
  | .context _ cause => cause.indexError?
  | _ => none

def timeout (detail : String) : Failure := .index (.timeout detail)

def unavailable (detail : String) : Failure := .index (.unavailable detail)

def notFound (detail : String) : Failure := .index (.notFound detail)

def malformed (detail : String) : Failure := .index (.malformed detail)

end Failure

def withContext {α : Type} (text : String) : Except Failure α → Except Failure α
  | .ok a => .ok a
  | .error f => .error (.context text f)

end CatalogSearch
