import MetricLayer.Sql.Select

/-!
# Building statements

A builder collects the clauses of a statement and the values of its parameters. Parameters are
named in the order they are bound. A statement taken from a builder keeps its table, condition
and limit; its columns, joins and groups stay those of the builder, so that what is added later
shows in it.
-/
namespace MetricLayer.Sql

/-- The name of the parameter at a position. -/
def paramName (i : Nat) : String := "p" ++ toString i

/-- A statement under construction, with the values bound so far. -/
structure Builder where
  columns : List Expr := []
  source : Option Source := none
  joins : List Join := []
  condition : Option Expr := none
  groups : List Expr := []
  limit : Option Int := none
  values : List Value := []

/-- The parts of a statement that are fixed when it is taken from a builder. -/
structure Cut where
  source : Option Source
  condition : Option Expr
  limit : Option Int

namespace Builder

/-- The bound parameters, in the order of binding. -/
def params (b : Builder) : List (String × Value) :=
  b.values.mapIdx fun i v => (paramName i, v)

/-- Binds a value to a new parameter. -/
def bind (b : Builder) (v : Value) : Expr × Builder :=
  (.param (paramName b.values.length) v, { b with values := b.values ++ [v] })

/-- Binds several values, in order. -/
def bindAll (b : Builder) : List Value → List Expr × Builder
  | [] => ([], b)
  | v :: vs =>
    let (e, b) := b.bind v
    let (es, b) := b.bindAll vs
    (e :: es, b)

def select (b : Builder) (es : List Expr) : Builder :=
  { b with columns := b.columns ++ es }

def selectAs (b : Builder) (e : Expr) (label : String) : Builder :=
  b.select [.aliased e label]

def fromTable (b : Builder) (s : Source) : Builder :=
  { b with source := some s }

def join (b : Builder) (j : Join) : Builder :=
  { b with joins := b.joins ++ [j] }

/-- Adds a condition that must hold besides the earlier ones. -/
def restrict (b : Builder) (e : Expr) : Builder :=
  { b with condition := some (match b.condition with
      | some c => .binary c "AND" e
      | none => e) }

/-- Adds an expression to group by, unless an alike one is there already. -/
def groupOn (b : Builder) (e : Expr) : Builder :=
  if b.groups.any fun g => e.alike g then b else { b with groups := b.groups ++ [e] }

def groupBy (b : Builder) (es : List Expr) : Builder :=
  es.foldl groupOn b

def limitTo (b : Builder) (n : Option Int) : Builder :=
  { b with limit := n }

/-- Takes the statement built so far. -/
def cut (b : Builder) : Cut :=
  ⟨b.source, b.condition, b.limit⟩

end Builder

/-- The statement taken as `c`, after its builder has come to `b`. -/
def Cut.within (c : Cut) (b : Builder) : Select :=
  ⟨b.columns, c.source, b.joins, c.condition, b.groups, c.limit⟩

/-- The statement of a builder as it stands. -/
def Builder.statement (b : Builder) : Select :=
  b.cut.within b

/-- One use of a builder. -/
inductive Step where
  | select (es : List Expr)
  | selectAs (e : Expr) (label : String)
  | source (s : Source)
  | join (j : Join)
  | restrict (e : Expr)
  /-- Requires an expression to equal a new parameter. -/
  | restrictTo (e : Expr) (v : Value)
  | groupBy (es : List Expr)
  | limit (n : Option Int)
  | bind (v : Value)
  /-- Writes into a copy of the parameters. -/
  | amendCopy (key : String) (v : Value)
  | build

/-- What a step answers. -/
inductive Reply where
  | nothing
  | name (param : String)
  | index (i : Nat)
  deriving DecidableEq, Repr

/-- A builder and the statements taken from it so far. -/
structure Session where
  builder : Builder := {}
  taken : List Cut := []

namespace Session

/-- Runs one step. -/
def step (s : Session) : Step → Reply × Session
  | .select es => (.nothing, { s with builder := s.builder.select es })
  | .selectAs e label => (.nothing, { s with builder := s.builder.selectAs e label })
  | .source t => (.nothing, { s with builder := s.builder.fromTable t })
  | .join j => (.nothing, { s with builder := s.builder.join j })
  | .restrict e => (.nothing, { s with builder := s.builder.restrict e })
  | .restrictTo e v =>
    let (p, b) := s.builder.bind v
    (.nothing, { s with builder := b.restrict (equality e p) })
  | .groupBy es => (.nothing, { s with builder := s.builder.groupBy es })
  | .limit n => (.nothing, { s with builder := s.builder.limitTo n })
  | .bind v =>
    (.name (paramName s.builder.values.length), { s with builder := (s.builder.bind v).2 })
  | .amendCopy _ _ => (.nothing, s)
  | .build => (.index s.taken.length, { s with taken := s.taken ++ [s.builder.cut] })

/-- Runs steps in order. -/
def run (s : Session) (steps : List Step) : Session :=
  steps.foldl (fun s t => (s.step t).2) s

/-- The statements taken, as they are at the end of the session. -/
def statements (s : Session) : List Select :=
  s.taken.map (·.within s.builder)

end Session
end MetricLayer.Sql
