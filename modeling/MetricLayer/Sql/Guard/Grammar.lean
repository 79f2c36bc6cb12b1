import MetricLayer.Sql.Guard.Token

/-!
# The grammar of statements

A recogniser of statements. It answers what kind of statement a list of tokens is, and which
writing statements stand inside a query. Aliases may follow any expression; precedence does not
matter, because only membership is asked.
-/
namespace MetricLayer.Sql.Grammar

/-- A place in a list of tokens, and the writing statements passed so far. -/
structure Place where
  tokens : List Token
  writes : List String := []

/-- A recogniser moves a place forward or refuses. -/
abbrev Rule := Place → Option Place

def token (p : Token → Bool) : Rule := fun pl =>
  match pl.tokens with
  | t :: rest => if p t then some { pl with tokens := rest } else none
  | [] => none

def symbol (s : String) : Rule := token (· == .symbol s)
def word (w : String) : Rule := token (· == .word w)
def words (ws : List String) : Rule := fun pl => ws.foldlM (fun pl w => word w pl) pl

def one (rs : List Rule) : Rule := fun pl => rs.findSome? fun r => r pl
def all (rs : List Rule) : Rule := fun pl => rs.foldlM (fun pl r => r pl) pl
def optional (r : Rule) : Rule := fun pl => some ((r pl).getD pl)

/-- Any number of repetitions; the fuel bounds them. -/
def many (r : Rule) : Nat → Rule
  | 0, pl => some pl
  | fuel + 1, pl =>
    match r pl with
    | some next => if next.tokens.length < pl.tokens.length then many r fuel next else some pl
    | none => some pl

def repeated (r : Rule) : Rule := fun pl => many r pl.tokens.length pl

/-- Items with commas between them. -/
def commas (r : Rule) : Rule := fun pl =>
  (r pl).bind (repeated (all [symbol ",", r]))

/-- Words that no name or alias can be. -/
def reserved : List String := [
  "SELECT", "FROM", "WHERE", "GROUP", "HAVING", "ORDER", "LIMIT", "OFFSET", "UNION", "INTERSECT",
  "EXCEPT", "JOIN", "INNER", "LEFT", "RIGHT", "FULL", "CROSS", "NATURAL", "OUTER", "ON", "USING",
  "AND", "OR", "NOT", "IN", "IS", "LIKE", "ILIKE", "BETWEEN", "AS", "CASE", "WHEN", "THEN",
  "ELSE", "END", "SET", "VALUES", "WITH", "DISTINCT", "INTO", "RETURNING", "BY", "FETCH", "FOR",
  "INSERT", "UPDATE", "DELETE", "DROP", "CREATE", "ALTER", "XOR", "WINDOW", "QUALIFY"]

def isName : Token → Bool
  | .quoted => true
  | .word w => !reserved.contains w
  | _ => false

/-- A name, plain or quoted. -/
def name : Rule := token isName

/-- Any word or quoted name. -/
def anyName : Rule := token fun
  | .quoted | .word _ => true
  | _ => false

/-- Names with points between them; a text may stand for a name after a point. -/
def path : Rule := all [name, repeated (all [symbol ".", one [anyName, token (· == .text)]])]

/-- The path of a table, in which texts may stand for names. -/
def tablePath : Rule :=
  let part := one [name, token (· == .text)]
  all [part, repeated (all [symbol ".", part])]

/-- Everything up to the parenthesis that closes the one already passed. -/
def closeGroup : Nat → List Token → Option (List Token)
  | _, [] => none
  | depth, .symbol "(" :: rest => closeGroup (depth + 1) rest
  | 0, .symbol ")" :: rest => some rest
  | depth + 1, .symbol ")" :: rest => closeGroup depth rest
  | depth, _ :: rest => closeGroup depth rest

/-- A group in parentheses, whatever it holds. -/
def group : Rule := fun pl => do
  let pl ← symbol "(" pl
  let rest ← closeGroup 0 pl.tokens
  return { pl with tokens := rest }

/-- An alias, with or without `AS`. -/
def aliasName : Rule :=
  let afterAs := token fun
    | .symbol _ | .separator _ => false
    | t => t != .word "SELECT"
  one [all [word "AS", one [afterAs, group]], name, token (· == .text)]

/-- The name of a type with its parameters. -/
def typeName : Rule :=
  all [name, repeated name, optional group, repeated (all [symbol "[", symbol "]"])]

/-- Operators between two expressions. -/
def operators : List Rule :=
  (["=", "==", "<>", "!=", "<", "<=", ">", ">=", "<=>", "+", "-", "*", "/", "%", "||", "&&", "&",
    "|", "^", "<<", ">>", "->", "->>", ":="]).map symbol ++
  (["AND", "OR", "XOR", "DIV", "MOD", "LIKE", "ILIKE", "RLIKE", "REGEXP"]).map word ++
  ([["NOT", "LIKE"], ["NOT", "ILIKE"], ["IS", "DISTINCT", "FROM"],
    ["IS", "NOT", "DISTINCT", "FROM"]]).map words

/-- Tests that follow an expression and take no other. -/
def closedTests : List Rule :=
  ([["IS", "NULL"], ["IS", "NOT", "NULL"], ["IS", "TRUE"], ["IS", "FALSE"],
    ["IS", "NOT", "TRUE"], ["IS", "NOT", "FALSE"], ["ISNULL"], ["NOTNULL"]]).map words

/-- A named, numbered or positional parameter. -/
def parameter : Rule :=
  one [all [symbol ":", one [anyName, token (· == .number)]], symbol "?",
    all [symbol "@", anyName], all [symbol "$", token (· == .number)]]

/-- Functions whose arguments may have words between them. -/
def wordedCalls : List String := ["EXTRACT", "SUBSTRING", "TRIM", "POSITION", "OVERLAY"]

def argumentWords : List String := ["FROM", "FOR", "IN", "PLACING"]

/-- What may follow the arguments of a function. -/
def callTail : Rule :=
  repeated (one [all [words ["WITHIN", "GROUP"], group], all [word "FILTER", group],
    all [word "OVER", one [group, name]]])

mutual

/-- An expression. -/
def expression : Nat → Rule
  | 0 => fun _ => none
  | fuel + 1 => fun pl =>
    (operand fuel pl).bind (repeated (one (
      closedTests ++ [
        all [optional (word "NOT"), word "IN", group],
        all [optional (word "NOT"), word "BETWEEN", operand fuel],
        all [symbol "::", typeName],
        all [words ["AT", "TIME", "ZONE"], operand fuel],
        all [symbol "[", expression fuel, symbol "]"]] ++
      operators.map fun op => all [op, operand fuel])))

/-- An expression without operators after it. -/
def operand : Nat → Rule
  | 0 => fun _ => none
  | fuel + 1 => one [
      all [one [word "NOT", symbol "-", symbol "+", symbol "~"], operand fuel],
      token (· == .number),
      all [symbol ".", token (· == .number)],
      all [token (· == .text), repeated (token (· == .text)),
        repeated (all [symbol ".", one [anyName, token (· == .text)]])],
      all [word "CASE", optional (expression fuel),
        all [word "WHEN", expression fuel, word "THEN", expression fuel],
        repeated (all [word "WHEN", expression fuel, word "THEN", expression fuel]),
        optional (all [word "ELSE", expression fuel]), word "END"],
      all [one [word "CAST", word "TRY_CAST"], symbol "(", expression fuel, word "AS", typeName,
        symbol ")"],
      all [word "EXISTS", symbol "(", query fuel, symbol ")"],
      all [word "INTERVAL", one [token (· == .text), token (· == .number)], optional name],
      parameter,
      all [symbol "(", optional (one [query fuel, items fuel]), symbol ")"],
      all [one (wordedCalls.map word), symbol "(",
        optional (one [word "LEADING", word "TRAILING", word "BOTH"]),
        optional (expression fuel),
        repeated (all [one (argumentWords.map word), expression fuel]), symbol ")"],
      all [path, symbol "(", optional (one [word "DISTINCT", word "ALL"]),
        optional (one [query fuel, items fuel]), optional (all [words ["ORDER", "BY"], items fuel]),
        symbol ")", callTail],
      all [one [word "LEFT", word "RIGHT", word "INSERT", word "VALUES"], symbol "(", items fuel,
        symbol ")"],
      all [path, symbol ".", symbol "*"],
      path,
      symbol "*"]

/-- Expressions with aliases and sort directions, separated by commas. -/
def items : Nat → Rule
  | 0 => fun _ => none
  | fuel + 1 =>
    let item := all [expression fuel, optional (one [word "ASC", word "DESC"]),
      optional (one [words ["NULLS", "FIRST"], words ["NULLS", "LAST"]]), optional aliasName]
    all [commas item, repeated (symbol ",")]

/-- A table, a subquery or a table function, with its alias. -/
def table : Nat → Rule
  | 0 => fun _ => none
  | fuel + 1 => all [
      one [all [symbol "(", query fuel, symbol ")"], all [symbol "(", tables fuel, symbol ")"],
        all [path, symbol "(", optional (items fuel), symbol ")"], tablePath],
      optional (all [aliasName, optional group])]

/-- Tables with commas and joins between them. -/
def tables : Nat → Rule
  | 0 => fun _ => none
  | fuel + 1 =>
    let kind := one [word "INNER", word "CROSS",
      all [optional (word "NATURAL"), one [word "LEFT", word "RIGHT", word "FULL"],
        optional (word "OUTER")], word "NATURAL"]
    let condition := one [all [word "ON", expression fuel], all [word "USING", group]]
    all [table fuel, repeated (one [all [symbol ",", table fuel],
      all [optional kind, word "JOIN", table fuel, optional condition]])]

/-- The clauses after the columns of a query. -/
def clauses : Nat → Rule
  | 0 => fun _ => none
  | fuel + 1 => all ([
      all [word "INTO", tablePath],
      all [word "FROM", tables fuel],
      all [word "WHERE", expression fuel],
      all [words ["GROUP", "BY"], items fuel],
      all [word "HAVING", expression fuel],
      all [words ["ORDER", "BY"], items fuel],
      all [word "LIMIT", expression fuel, optional (all [symbol ",", expression fuel])],
      all [word "OFFSET", expression fuel, optional (one [word "ROWS", word "ROW"])],
      all [words ["FOR", "UPDATE"]]].map optional)

/-- A query: selections combined by set operations, after common table expressions. -/
def query : Nat → Rule
  | 0 => fun _ => none
  | fuel + 1 =>
    let selection := one [
      all [word "SELECT", optional (one [all [word "DISTINCT", optional (all [word "ON", group])],
        word "ALL"]), optional (items fuel), clauses fuel],
      all [symbol "(", query fuel, symbol ")"]]
    let combine := all [one [word "UNION", word "INTERSECT", word "EXCEPT"],
      optional (one [word "ALL", word "DISTINCT"]), one [selection, values fuel]]
    all [optional (common fuel), selection, repeated combine, clauses fuel]

/-- Rows of values. -/
def values : Nat → Rule
  | 0 => fun _ => none
  | fuel + 1 =>
    all [word "VALUES", commas (one [all [symbol "(", optional (items fuel), symbol ")"],
      expression fuel])]

/-- Common table expressions. -/
def common : Nat → Rule
  | 0 => fun _ => none
  | fuel + 1 =>
    let body := one [all [symbol "(", query fuel, symbol ")"],
      all [symbol "(", values fuel, symbol ")"],
      all [symbol "(", write fuel, symbol ")"]]
    all [word "WITH", optional (word "RECURSIVE"),
      commas (all [anyName, optional group, word "AS",
        optional (all [optional (word "NOT"), word "MATERIALIZED"]), body])]

/-- A statement that writes rows or tables. It is noted among the writes. -/
def write : Nat → Rule
  | 0 => fun _ => none
  | fuel + 1 => fun pl =>
    let returning := optional (all [word "RETURNING", items fuel])
    let noted (kind : String) : Rule := fun pl =>
      some { pl with writes := pl.writes ++ [kind] }
    let assignments := commas (all [path, symbol "=", one [word "DEFAULT", expression fuel]])
    one [
      all [noted "DELETE", words ["DELETE", "FROM"], table fuel,
        optional (all [word "USING", tables fuel]), clauses fuel, returning],
      all [noted "UPDATE", word "UPDATE", tables fuel, word "SET", assignments, clauses fuel,
        returning],
      all [noted "INSERT", words ["INSERT", "INTO"], tablePath, optional (all [word "AS", name]),
        optional group, one [values fuel, query fuel, words ["DEFAULT", "VALUES"]], returning],
      all [noted "DROP", word "DROP", optional (word "TEMPORARY"),
        one ((["TABLE", "VIEW", "INDEX", "SCHEMA", "DATABASE", "FUNCTION", "SEQUENCE"]).map word),
        optional (words ["IF", "EXISTS"]), commas tablePath,
        optional (one [word "CASCADE", word "RESTRICT"])],
      all [noted "CREATE", word "CREATE", optional (words ["OR", "REPLACE"]),
        optional (one [word "TEMPORARY", word "TEMP", word "UNIQUE"]),
        one ((["TABLE", "VIEW", "SCHEMA", "DATABASE", "INDEX", "SEQUENCE"]).map word),
        optional (words ["IF", "NOT", "EXISTS"]), tablePath,
        optional (all [word "ON", tablePath]), optional group,
        optional (all [word "AS", query fuel])]] pl

end

/-- What a statement is. -/
inductive Kind where
  /-- A query, with the writing statements inside it. -/
  | query (writes : List String)
  | other (name : String)
  deriving DecidableEq, Repr

/-- Everything that is left. -/
def anything : Rule := fun pl => some { pl with tokens := [] }

/-- Statements other than queries and expressions, with their names. The first rule that takes
all tokens decides. -/
def commands (fuel : Nat) : List (Rule × String) :=
  let setting := all [optional (one [word "SESSION", word "GLOBAL", word "LOCAL"]),
    one [path, parameter], one [symbol "=", symbol ":=", word "TO"], expression fuel]
  [ (all [word "COMMIT", optional (one [word "WORK", word "TRANSACTION"])], "COMMIT"),
    (all [word "ROLLBACK", optional (one [word "WORK", word "TRANSACTION"])], "ROLLBACK"),
    (all [word "SET", commas setting], "SET"),
    (all [word "SET", anything], "COMMAND"),
    (all [word "USE", path], "USE"),
    (all [word "TRUNCATE", optional (word "TABLE"), commas tablePath,
      optional (one [words ["RESTART", "IDENTITY"], words ["CONTINUE", "IDENTITY"]]),
      optional (one [word "CASCADE", word "RESTRICT"])], "TRUNCATETABLE"),
    (all [words ["ALTER", "TABLE"], optional (words ["IF", "EXISTS"]), tablePath,
      commas (one [
        all [word "ADD", optional (word "COLUMN"), name, typeName,
          optional (words ["NOT", "NULL"])],
        all [word "DROP", optional (word "COLUMN"), name],
        all [word "RENAME", one [all [word "TO", path],
          all [optional (word "COLUMN"), name, word "TO", name]]],
        all [word "ALTER", optional (word "COLUMN"), name, anything]])], "ALTER"),
    (all [word "ALTER", anything], "COMMAND"),
    (values fuel, "VALUES"),
    (all [one [token (· == .number), token (· == .text)]], "LITERAL"),
    (path, "COLUMN"),
    (all [path, aliasName], "ALIAS") ]

/-- The kind of a statement, if its tokens are one. -/
def kind? (tokens : List Token) : Option Kind :=
  let fuel := 8 * tokens.length + 16
  let whole (r : Rule) : Option Place := (r ⟨tokens, []⟩).filter (·.tokens.isEmpty)
  match whole (query fuel) with
  | some pl => some (.query pl.writes)
  | none =>
    match whole (all [optional (common fuel), write fuel]) with
    | some pl => some (.other (pl.writes.getLastD ""))
    | none => ((commands fuel).find? fun c => (whole c.1).isSome).map fun c => .other c.2

end MetricLayer.Sql.Grammar
