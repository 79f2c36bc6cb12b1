import MetricLayer.Sql.Dialect

/-!
# The read-only guard

A statement is sent to a database only if it is a single query that writes nothing. What a text
holds is for a parser to say. A text that it cannot parse is let through if it holds no separator
before its end: the database then reports what is wrong with it.
-/
namespace MetricLayer.Sql

/-- A statement as a parser sees it: its kind in capitals, whether it is a query, and the kind of
the first statement inside it that writes, if there is one. -/
structure Parsed where
  kind : String
  isQuery : Bool := false
  write : Option String := none
  deriving DecidableEq, Repr

/-- A parser of texts in a dialect, or in no particular one. -/
structure Parser where
  /-- The statements of a text, with gaps where nothing stands between separators. -/
  parse : Option Dialect → String → Except String (List (Option Parsed))
  /-- For each token of a text, whether it is a separator of statements. -/
  tokenize : Option Dialect → String → Except String (List Bool)
  /-- Why a text cannot be written anew, if it cannot. -/
  flaw? : Dialect → String → Option String

/-- The dialect of a name, if the parser knows it. -/
def dialect? (name : String) : Option Dialect :=
  (Dialect.ofName name).toOption

/-- Why the statements of a text are not a single query, if they are not. -/
def refusal? : List Parsed → Option String
  | [s] =>
    if !s.isQuery then some (s.kind ++ " statements are not allowed")
    else s.write.map (· ++ " inside a query is not allowed")
  | ss => some s!"expected one statement, found {ss.length}"

/-- Why a text that cannot be parsed may be more than one statement, if it may. -/
def unparsedRefusal? (tokens : Except String (List Bool)) : Option String :=
  match tokens with
  | .error _ => some "SQL could not be tokenized"
  | .ok separators =>
    if separators.dropLast.any id then some "unparseable SQL with more than one statement"
    else none

/-- Refuses a text that is not a single query. -/
def ensureSelect (parser : Parser) (sql dialect : String) : Except Fault Unit :=
  let refused? := match parser.parse (dialect? dialect) sql with
    | .ok statements => refusal? (statements.filterMap id)
    | .error _ => unparsedRefusal? (parser.tokenize (dialect? dialect) sql)
  match refused? with
  | some reason => .error (.failure (.unsafeSql reason sql))
  | none => .ok ()

/-- The problems that a parser finds in a text. -/
def problems (parser : Parser) (sql dialect : String) : List String :=
  match dialect? dialect with
  | none => ["Unknown dialect '" ++ dialect ++ "', skipping SQL validation"]
  | some d => (parser.flaw? d sql).toList

end MetricLayer.Sql
