import MetricLayer.Value.Basic

/-!
# Failures

What can go wrong while a request is checked, compiled and run. A failure that callers may act
on has a stable code, a status, a message and a retry advice; the other faults are defects of
the input or of the environment.
-/
namespace MetricLayer

/-- One step of the way from a record to the place of an issue. -/
inductive LocationStep where
  | key (name : String)
  | index (i : Int)
  deriving DecidableEq, Repr

/-- What is wrong with one field of a record. -/
inductive Complaint where
  | missing
  | intType
  | intParsing
  | intParsingSize
  | intFromFloat
  | finiteNumber
  | stringType
  | stringUnicode
  | boolType
  | boolParsing
  | floatType
  | floatParsing
  | listType
  | dictType
  | modelType (record : String)
  | bodyType
  | tooShort
  | enumeration
  | malformedBody
  deriving DecidableEq, Repr

namespace Complaint

/-- The stable name of a complaint. -/
def code : Complaint → String
  | missing => "missing"
  | intType => "int_type"
  | intParsing => "int_parsing"
  | intParsingSize => "int_parsing_size"
  | intFromFloat => "int_from_float"
  | finiteNumber => "finite_number"
  | stringType => "string_type"
  | stringUnicode => "string_unicode"
  | boolType => "bool_type"
  | boolParsing => "bool_parsing"
  | floatType => "float_type"
  | floatParsing => "float_parsing"
  | listType => "list_type"
  | dictType => "dict_type"
  | modelType _ => "model_type"
  | bodyType => "model_attributes_type"
  | tooShort => "too_short"
  | enumeration => "enum"
  | malformedBody => "json_invalid"

/-- The wording of a complaint. -/
def message : Complaint → String
  | missing => "Field required"
  | intType => "Input should be a valid integer"
  | intParsing => "Input should be a valid integer, unable to parse string as an integer"
  | intParsingSize => "Unable to parse input string as an integer, exceeded maximum size"
  | intFromFloat => "Input should be a valid integer, got a number with a fractional part"
  | finiteNumber => "Input should be a finite number"
  | stringType => "Input should be a valid string"
  | stringUnicode =>
    "Input should be a valid string, unable to parse raw data as a unicode string"
  | boolType => "Input should be a valid boolean"
  | boolParsing => "Input should be a valid boolean, unable to interpret input"
  | floatType => "Input should be a valid number"
  | floatParsing => "Input should be a valid number, unable to parse string as a number"
  | listType => "Input should be a valid list"
  | dictType => "Input should be a valid dictionary"
  | modelType record => "Input should be a valid dictionary or instance of " ++ record
  | bodyType => "Input should be a valid dictionary or object to extract fields from"
  | tooShort => "List should have at least 1 item after validation, not 0"
  | enumeration =>
    "Input should be 'SUM', 'AVG', 'COUNT', 'MIN', 'MAX', 'MEDIAN', 'STDDEV' or 'VARIANCE'"
  | malformedBody => "JSON decode error"

end Complaint

/-- A complaint and its place. -/
structure Issue where
  location : List LocationStep
  complaint : Complaint
  deriving DecidableEq, Repr

/-- The failures of a database. The first three are raised before a driver is reached. -/
inductive DatabaseError where
  | timeout
  | argument
  | invalidRequest
  | operational
  | programming
  | data
  | integrity
  | internal
  | interface
  | notSupported
  deriving DecidableEq, Repr

namespace DatabaseError

/-- The name of a database failure. -/
def name : DatabaseError → String
  | timeout => "TimeoutError"
  | argument => "ArgumentError"
  | invalidRequest => "InvalidRequestError"
  | operational => "OperationalError"
  | programming => "ProgrammingError"
  | data => "DataError"
  | integrity => "IntegrityError"
  | internal => "InternalError"
  | interface => "InterfaceError"
  | notSupported => "NotSupportedError"

/-- Every database failure. -/
def all : List DatabaseError :=
  [timeout, argument, invalidRequest, operational, programming, data, integrity, internal,
    interface, notSupported]

/-- The failure of a given name. -/
def ofName? (s : String) : Option DatabaseError :=
  all.find? (·.name == s)

/-- Failures reported by the driver, with a message of its own. -/
def fromDriver : DatabaseError → Bool
  | timeout | argument | invalidRequest => false
  | _ => true

end DatabaseError

/-- The failures that callers may act on. -/
inductive Failure where
  | invalidReference (kind ref : String) (detail : Option String)
  | unsupportedDialect (name : String) (available : List String)
  | unsupportedAggregate (function dialect : String)
  | noResolvableDimensions (names warnings : List String)
  | unknownConnection (id : Int)
  | unauthorizedConnection (id : Int)
  | poolAcquisition (id : Int) (reason : String)
  | poolExhausted (id : Int) (reason : String)
  | executionFailed (sql reason : String)
  | introspectionFailed (table : Option String) (reason : String)
  | unsafeSql (reason sql : String)
  deriving DecidableEq, Repr

namespace Failure

/-- The stable name of a failure. -/
def code : Failure → String
  | invalidReference .. => "INVALID_REFERENCE"
  | unsupportedDialect .. => "UNSUPPORTED_DIALECT"
  | unsupportedAggregate .. => "UNSUPPORTED_AGGREGATE"
  | noResolvableDimensions .. => "NO_RESOLVABLE_DIMENSIONS"
  | unknownConnection _ => "UNKNOWN_CONNECTION"
  | unauthorizedConnection _ => "UNAUTHORIZED_CONNECTION"
  | poolAcquisition .. => "POOL_ACQUISITION_FAILED"
  | poolExhausted .. => "POOL_EXHAUSTED"
  | executionFailed .. => "EXECUTION_FAILED"
  | introspectionFailed .. => "INTROSPECTION_FAILED"
  | unsafeSql .. => "UNSAFE_SQL"

/-- The response status of a failure. -/
def status : Failure → Nat
  | invalidReference .. => 404
  | unsupportedDialect .. => 400
  | unsupportedAggregate .. => 400
  | noResolvableDimensions .. => 422
  | unknownConnection _ => 404
  | unauthorizedConnection _ => 403
  | poolAcquisition .. => 502
  | poolExhausted .. => 503
  | executionFailed .. => 502
  | introspectionFailed .. => 502
  | unsafeSql .. => 400

/-- Whether trying again later may succeed. -/
def retryable : Failure → Bool
  | poolExhausted .. => true
  | _ => false

/-- The statement a failure is about. -/
def sql? : Failure → Option String
  | executionFailed sql _ => some sql
  | unsafeSql _ sql => some sql
  | _ => none

/-- What a lookup of the given table, or of the table list, is called. An empty name counts as
none. -/
def lookupTarget : Option String → String
  | some t => if t.isEmpty then "the table catalog" else "table '" ++ t ++ "'"
  | none => "the table catalog"

/-- The wording of a failure. -/
def message : Failure → String
  | invalidReference kind ref detail =>
    "Unknown " ++ kind ++ " '" ++ ref ++ "'" ++
      (match detail with | some d => ": " ++ d | none => "")
  | unsupportedDialect name available =>
    "Unsupported dialect '" ++ name ++ "'. Available: " ++ ", ".intercalate available
  | unsupportedAggregate function dialect =>
    "Aggregate '" ++ function ++ "' is not supported by the " ++ dialect ++ " dialect"
  | noResolvableDimensions names _ =>
    "None of the requested dimensions could be joined to the requested facts: " ++
      ", ".intercalate names
  | unknownConnection id => s!"Unknown connection '{id}'"
  | unauthorizedConnection id => s!"Connection '{id}' is not owned by the requesting user"
  | poolAcquisition id reason => s!"Could not obtain a connection for '{id}': {reason}"
  | poolExhausted id reason => s!"Could not obtain a connection for '{id}': {reason}"
  | executionFailed _ reason => "Query execution failed: " ++ reason
  | introspectionFailed table reason =>
    "Could not read columns of " ++ lookupTarget table ++ ": " ++ reason
  | unsafeSql reason _ => "Refusing to execute SQL: " ++ reason

end Failure

/-- What is wrong with a catalog document. A refused document is too large, too deep or uses
anchors. -/
inductive CatalogFlaw where
  | refused (message : String)
  | malformed
  | inconsistent (path : Option String) (message : String)
  | invalid (path : String) (issues : List Issue)
  deriving DecidableEq, Repr

/-- Everything that can end an operation. -/
inductive Fault where
  /-- A failure that callers may act on. -/
  | failure (f : Failure)
  /-- A record with fields that are not valid. -/
  | invalid (issues : List Issue)
  /-- A catalog document that is not accepted. -/
  | catalog (flaw : CatalogFlaw)
  /-- A value outside the domain of an operation. -/
  | badValue (message : String)
  /-- A name that was matched without regard to case but is not a known name. -/
  | unknownName
  /-- A place that a value does not have. -/
  | outOfBounds
  /-- A value of a kind that an operation does not take. -/
  | illTyped
  /-- A key that stands twice where it may stand once. -/
  | repeatedKey
  /-- A database failure that no layer has turned into a failure for callers. -/
  | database (e : DatabaseError)
  /-- A file that does not exist. -/
  | missingFile
  /-- An address of a database of an unknown kind. -/
  | unknownDatabase
  /-- An operation on a service that was never started. -/
  | notReady (message : String)
  deriving DecidableEq, Repr

namespace Fault

/-- The text of an issue: its place and its wording. -/
def issueText (i : Issue) : String :=
  let step : LocationStep → String
    | .key name => name
    | .index i => toString i
  ".".intercalate (i.location.map step) ++ ": " ++ i.complaint.message

/-- The wording of what is wrong with a catalog, after the place it is wrong at. -/
def catalogText : CatalogFlaw → String
  | .refused m => m
  | .malformed => "Invalid YAML"
  | .inconsistent path m => (path.elim "" (· ++ ": ")) ++ m
  | .invalid path issues => path ++ ": " ++ "; ".intercalate (issues.map issueText)

/-- The wording of a fault for the log. -/
def message : Fault → String
  | failure f => f.message
  | invalid issues => "; ".intercalate (issues.map issueText)
  | catalog flaw => catalogText flaw
  | badValue m => m
  | unknownName => "Unknown name"
  | outOfBounds => "Out of bounds"
  | illTyped => "A value of the wrong kind"
  | repeatedKey => "A key that stands twice"
  | database e => e.name
  | missingFile => "No such file"
  | unknownDatabase => "No such kind of database"
  | notReady m => m

end Fault
end MetricLayer
