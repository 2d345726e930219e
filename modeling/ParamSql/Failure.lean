/-!
# Failures

Why an operation did not succeed. A failure names its cause; `Failure.message` gives the wording and
`Failure.kind` tells what sort of failure it was. An interruption ends whatever is going on from
outside, and is not an error of any operation.
-/

namespace ParamSql

inductive TransactionCall where
  | inTransaction
  | begin
  | commit
  | rollback
  deriving DecidableEq, Repr

def TransactionCall.name : TransactionCall → String
  | inTransaction => "in_transaction"
  | begin => "begin"
  | commit => "commit"
  | rollback => "rollback"

inductive Failure where
  | noDialect
  /-- The selection, as shown, is none of the known names. -/
  | unknownDialect (shown : String) (known : List String)
  | noSanitizer
  | emptyAggregate
  | dataSource (key : String)
  | transaction (call : TransactionCall)
  /-- A value of this kind was given where several were expected. -/
  | notIterable (kind : String)
  | numberTooLong
  | abandoned (reason : String)
  | unknownBuilder (name : String)
  | interrupted (reason : String)
  deriving DecidableEq, Repr

namespace Failure

inductive Kind where
  | configuration
  | building
  | collaborator
  | argument
  | user
  | interruption
  deriving DecidableEq, Repr

def kind : Failure → Kind
  | noDialect | unknownDialect .. | noSanitizer => .configuration
  | emptyAggregate => .building
  | dataSource _ | transaction _ => .collaborator
  | notIterable _ => .argument
  | numberTooLong | abandoned _ | unknownBuilder _ => .user
  | interrupted _ => .interruption

def message : Failure → String
  | noDialect => "No dialect defined! A statement builder must be bound to a dialect."
  | unknownDialect shown known =>
    "Unknown dialect " ++ shown ++ ". Known dialects: " ++ ", ".intercalate known
  | noSanitizer => "No sanitizer defined; cannot sanitize the requested field list."
  | emptyAggregate => "Aggregate definition is empty."
  | dataSource key => "data source failed: " ++ key
  | transaction call => call.name ++ " failed"
  | notIterable kind => "'" ++ kind ++ "' object is not iterable"
  | numberTooLong => "Exceeds the limit (4300 digits) for integer string conversion"
  | abandoned reason => reason
  | unknownBuilder name => "No builder is named " ++ name
  | interrupted reason => reason

def isInterruption (f : Failure) : Bool := f.kind == .interruption

end Failure
end ParamSql
