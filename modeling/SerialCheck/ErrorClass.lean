import SerialCheck.Text.Casing
import SerialCheck.Text.Search

/-!
# Classes of database errors

An error belongs to the first class of a fixed list one of whose patterns occurs in it, letter
case aside. Lock conflicts come first, so no other pattern can hide one.
-/
namespace SerialCheck

/-- What an error report is about. -/
inductive ErrorClass where
  /-- Transactions that wait for each other. -/
  | deadlock
  /-- A lock that was not granted in time. -/
  | lockTimeout
  /-- A conflict between concurrent transactions. -/
  | serializationFailure
  /-- A table that changed under the statement. -/
  | schemaChanged
  /-- A statement after a failed one. -/
  | transactionAborted
  /-- A violated constraint. -/
  | constraintViolation
  /-- A value that does not fit its type. -/
  | dataError
  /-- A statement that is not valid for the schema. -/
  | syntaxError
  /-- A failure of the connection. -/
  | connectionError
  /-- Anything else. -/
  | unknown
  deriving Repr, DecidableEq

namespace ErrorClass

/-- The name of a class. -/
def name : ErrorClass → String
  | .deadlock => "DEADLOCK"
  | .lockTimeout => "LOCK_TIMEOUT"
  | .serializationFailure => "SERIALIZATION_FAILURE"
  | .schemaChanged => "SCHEMA_CHANGED"
  | .transactionAborted => "TRANSACTION_ABORTED"
  | .constraintViolation => "CONSTRAINT_VIOLATION"
  | .dataError => "DATA_ERROR"
  | .syntaxError => "SYNTAX_ERROR"
  | .connectionError => "CONNECTION_ERROR"
  | .unknown => "UNKNOWN"

/-- What a class means to a reader. -/
def explanation : ErrorClass → String
  | .deadlock => "Deadlock detected - the engine aborted one of the waiting transactions"
  | .lockTimeout => "Could not acquire lock before the lock timeout"
  | .serializationFailure => "Serialization failure - concurrent transactions conflicted"
  | .schemaChanged => "Schema changed concurrently with the statement"
  | .transactionAborted => "Statement ignored because an earlier statement failed"
  | .constraintViolation => "Constraint violation"
  | .dataError => "Invalid data for the target type"
  | .syntaxError => "Statement is not valid for the current schema"
  | .connectionError => "Database connection error"
  | .unknown => "Unexpected database error"

/-- Concurrent execution can legitimately produce errors of the class. -/
def isBenign : ErrorClass → Bool
  | .deadlock | .lockTimeout | .serializationFailure | .schemaChanged => true
  | _ => false

/-- Errors of the class are conflicts over locks, on which the engine aborts a transaction. -/
def isLockConflict : ErrorClass → Bool
  | .deadlock | .lockTimeout | .serializationFailure => true
  | _ => false

/-- What to look for in an error. -/
inductive Pattern where
  /-- A word or phrase. -/
  | phrase (text : String)
  /-- Two phrases in this order on one line. -/
  | inLine (first second : String)

/-- The pattern occurs in a lower-case text. -/
def Pattern.occursIn (text : String) : Pattern → Bool
  | .phrase words => Text.contains text words
  | .inLine first second => Text.containsInLine text first second

/-- The patterns of each class, in the order in which the classes are tried. -/
def patterns : List (ErrorClass × List Pattern) := [
  (.deadlock, [.phrase "deadlock detected", .phrase "deadlock found"]),
  (.lockTimeout, [.inLine "lock" "timeout", .phrase "could not obtain lock"]),
  (.serializationFailure, [.phrase "could not serialize access"]),
  (.schemaChanged,
    [.phrase "cached plan must not change result type",
      .phrase "information schema is changed"]),
  (.transactionAborted, [.phrase "current transaction is aborted"]),
  (.constraintViolation,
    [.phrase "violates unique constraint", .phrase "violates not-null constraint",
      .phrase "violates check constraint", .phrase "violates foreign key constraint",
      .phrase "duplicate key value"]),
  (.dataError,
    [.phrase "invalid input syntax", .phrase "out of range", .phrase "division by zero",
      .phrase "value too long", .phrase "numeric field overflow"]),
  (.syntaxError, [.phrase "syntax error", .phrase "does not exist"]),
  (.connectionError,
    [.inLine "connection" "refused", .phrase "could not connect",
      .phrase "server closed the connection", .phrase "connection already closed"])]

/-- The first class of the list one of whose patterns occurs in a lower-case text. -/
def firstMatch (text : String) : List (ErrorClass × List Pattern) → ErrorClass
  | [] => .unknown
  | (kind, candidates) :: rest =>
    if candidates.any (·.occursIn text) then kind else firstMatch text rest

/-- The class of an error report. -/
def ofReport (report : String) : ErrorClass := firstMatch (Text.lower report) patterns

end ErrorClass

/-- The error report is about a conflict over locks. -/
def isLockConflict (report : String) : Bool := (ErrorClass.ofReport report).isLockConflict

end SerialCheck
