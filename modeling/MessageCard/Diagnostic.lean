import MessageCard.Path

/-!
What is reported about a document: why, where, and whether it stopped the compilation; and
the form in which a report is shown.
-/

namespace MessageCard

/-- Where a tag was read. -/
inductive TagField
  | element
  | noteChild
deriving DecidableEq, Repr

/-- The field, in words. -/
def TagField.name : TagField → String
  | element => "element.tag"
  | noteChild => "note.elements.tag"

/-- Why something is reported. -/
inductive Cause
  | malformedDocument (message : String)
  | schemaViolation (message : String)
  | unknownTag (field : TagField) (tag : String) (allowed : String)
  | notImplemented (tag : String)
  | depthExceeded (limit : Nat)
deriving DecidableEq, Repr

/-- The wording of a cause. -/
def Cause.message : Cause → String
  | malformedDocument message => message
  | schemaViolation message => message
  | unknownTag field tag allowed =>
      field.name ++ " " ++ tag ++ " is not allowed, allowed values are " ++ allowed
  | notImplemented tag => "element.tag " ++ tag ++ " is not implemented yet"
  | depthExceeded limit => "nesting depth exceeds the limit of " ++ toString limit

/-- A range of bytes of a source. -/
structure Span where
  start : Nat
  stop : Nat
deriving DecidableEq, Repr

/-- A report about a document. -/
structure Diagnostic where
  cause : Cause
  path : Option Path
  span : Option Span
  sourceId : Nat
  isWarning : Bool
  notes : List String
deriving DecidableEq, Repr

/-- How grave a report is. -/
inductive Severity
  | error
  | warning
deriving DecidableEq, Repr

/-- A report in the form in which it is shown: labels mark ranges of sources, notes follow. -/
structure Report where
  severity : Severity
  message : String
  labels : List (Nat × Span)
  notes : List String
deriving DecidableEq, Repr

namespace Diagnostic

/-- A report that lets the compilation go on. -/
def warning (cause : Cause) (path : Path) (sourceId : Nat) : Diagnostic :=
  { cause, path := some path, span := none, sourceId, isWarning := true, notes := [] }

/-- A report that ends the compilation. -/
def fatal (cause : Cause) (path : Path) (sourceId : Nat) : Diagnostic :=
  { warning cause path sourceId with isWarning := false }

/-- The report of a bare cause, which has no place. -/
def ofCause (cause : Cause) : Diagnostic :=
  { cause, path := none, span := none, sourceId := 0, isWarning := false, notes := [] }

/-- Whether the report ends the compilation. -/
def isFatal (diagnostic : Diagnostic) : Bool :=
  !diagnostic.isWarning

/-- The wording of the report. -/
def message (diagnostic : Diagnostic) : String :=
  diagnostic.cause.message

/-- The form in which the report is shown: its path comes first among the notes. -/
def report (diagnostic : Diagnostic) : Report where
  severity := if diagnostic.isWarning then .warning else .error
  message := diagnostic.message
  labels := (diagnostic.span.map (diagnostic.sourceId, ·)).toList
  notes := (diagnostic.path.map fun path => "at " ++ path.text).toList ++ diagnostic.notes

end Diagnostic

end MessageCard
