import MetricLayer.Service.Semantic
import MetricLayer.Value.JsonText

/-!
# Replies of tools

The text a tool answers with. A result shows its statement under a heading of comment lines,
then its rows, one JSON object a line. Only the first rows of a long result are shown.
-/
namespace MetricLayer.Tools

open Service

/-- How many rows a reply shows. -/
def maxRowsShown : Nat := 200

/-- A titled comment line, if it is to be said. -/
def comment (title : String) (body : String) (isSaid : Bool) : List String :=
  if isSaid then ["-- " ++ title ++ ": " ++ body] else []

/-- The lines of a result. -/
def resultLines (r : QueryResult) : List String :=
  let c := r.compiled
  ["-- Dialect: " ++ c.dialect.name] ++
    comment "Tables" (", ".intercalate c.resolved.tables) (!c.resolved.tables.isEmpty) ++
    comment "Params" (Json.write (.record c.params)) (!c.params.isEmpty) ++
    ["", c.sql, "", s!"-- {r.rows.length} row(s)"] ++
    (r.rows.take maxRowsShown).map (fun row => Json.write (.record row)) ++
    (if maxRowsShown < r.rows.length then
      [s!"-- ... {r.rows.length - maxRowsShown} more row(s) not shown"] else []) ++
    (if c.warnings.isEmpty then [] else ["", "-- Warnings: " ++ "; ".intercalate c.warnings])

/-- The text of a result. It has none if a value that has to be shown has a mapping key that
JSON cannot write. -/
def resultText (r : QueryResult) : Except Fault String :=
  if Json.isWritable (.record r.compiled.params) &&
      (r.rows.take maxRowsShown).all (fun row => Json.isWritable (.record row)) then
    .ok ("\n".intercalate (resultLines r))
  else .error .illTyped

/-- The line of a new mapping. -/
def mappingLine (m : Mapping) : String :=
  s!"  fact {m.factId} -> dimension {m.dimensionId} on " ++ m.joinTable ++ "." ++
    m.dimensionColumn

/-- The text of inferred mappings. -/
def autoMapText (r : AutoMapResult) : String :=
  "\n".intercalate <|
    [s!"Created {r.created.length} mapping(s), skipped {r.skipped} pair(s)."] ++
    r.created.map mappingLine ++
    (if r.failures.isEmpty then [] else "Failures:" :: r.failures.map ("  " ++ ·))

/-- What a dialect supports, by name. -/
def capabilities (c : Capabilities) : List (String × Bool) :=
  [("supports_median", c.median), ("supports_ilike", c.ilike), ("supports_schemas", c.schemas)]

/-- The names of what a dialect supports. -/
def capabilityNames (c : Capabilities) : List String :=
  ((capabilities c).filter (·.2)).map (·.1)

/-- The line of a dialect. -/
def dialectLine (d : Dialect) : String :=
  let names := capabilityNames d.capabilities
  "  " ++ d.name ++ ": " ++ (if names.isEmpty then "(none)" else ", ".intercalate names)

/-- The text of the available dialects. -/
def dialectsText : String :=
  "\n".intercalate (["Available dialects:", ""] ++ Dialect.all.map dialectLine)

end MetricLayer.Tools
