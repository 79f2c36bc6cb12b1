import MetricLayer.Service.Lookup

/-!
# Inferring mappings

Every pair of a fact and a dimension on different tables that is not mapped yet gets a mapping
if the tables share a column. A pair that fails is recorded, and the other pairs go on.
-/
namespace MetricLayer.Service

/-- What became of the pairs of a connection. -/
structure AutoMapResult where
  created : List Mapping := []
  skipped : Nat := 0
  failures : List String := []
  deriving DecidableEq, Repr

/-- The wording of a fault that concerns one pair only; none if it ends everything. -/
def pairFailure? : Fault → Option String
  | .failure f => some f.message
  | .badValue m => some m
  | .database e => some e.name
  | _ => none

/-- The mapping of a pair by a shared column, if there is one. -/
def inferMapping (a : Asker) (f : Fact) (d : Dimension) : LookupM (Option Mapping) := do
  let dimensionColumns ← columns a d.table
  if !dimensionColumns.contains d.column then return none
  let factColumns ← columns a f.table
  return (Join.commonColumn factColumns dimensionColumns).map fun c =>
    ⟨none, f.id, d.id, d.table, c, c⟩

/-- Stores mappings. -/
def storeMappings (ms : List Mapping) : ServiceM (List Mapping) := fun w =>
  let (r, store) := w.store.addMappings ms
  (r, { w with store := store })

/-- Infers and stores the mapping of one pair. -/
def mapPair (a : Asker) (f : Fact) (d : Dimension) : LookupM (List Mapping) := do
  match ← inferMapping a f d with
  | none => return []
  | some m => within (storeMappings [m])

/-- Goes through pairs. `existing` holds the pairs that are mapped. -/
def mapPairs (a : Asker) (existing : List (Int × Int)) (r : AutoMapResult) :
    List (Fact × Dimension) → LookupM AutoMapResult
  | [] => return r
  | (f, d) :: rest => do
    if existing.contains (f.id, d.id) || f.table == d.table then
      mapPairs a existing { r with skipped := r.skipped + 1 } rest
    else
      match ← outcome (mapPair a f d) with
      | .ok [] => mapPairs a existing r rest
      | .ok created =>
        mapPairs a ((f.id, d.id) :: existing) { r with created := r.created ++ created } rest
      | .error e =>
        match pairFailure? e with
        | some m =>
          let failure := f.name ++ " / " ++ d.name ++ ": " ++ m
          mapPairs a existing { r with failures := r.failures ++ [failure] } rest
        | none => throw e

/-- The pairs of facts and dimensions, dimension by dimension. -/
def allPairs (facts : List Fact) (dimensions : List Dimension) : List (Fact × Dimension) :=
  dimensions.flatMap fun d => facts.map fun f => (f, d)

/-- The tables of facts and dimensions, each once, sorted. -/
def tablesOf (facts : List Fact) (dimensions : List Dimension) : List String :=
  (facts.map (·.table) ++ dimensions.map (·.table)).eraseDups.mergeSort fun s t => s ≤ t

/-- Whether a fault of the first lookups is left to the lookups of each pair. -/
def isLookupFailure : Fault → Bool
  | .failure (.introspectionFailed _ _) => true
  | _ => false

/-- Infers mappings for all pairs of a connection. -/
def autoMapPairs (a : Asker) : LookupM AutoMapResult := do
  let store ← within (view (·.store))
  let facts ← within (lift (store.factsOn a.connectionId))
  let dimensions := store.dimensionsOn a.connectionId
  if facts.isEmpty || dimensions.isEmpty then return {}
  let existing := (store.mappingsOf (facts.map (·.id)) (some (dimensions.map (·.id)))).map
    (·.pair)
  match ← outcome (columnsFor a (tablesOf facts dimensions)) with
  | .error e => if !isLookupFailure e then throw e
  | .ok _ => pure ()
  mapPairs a existing {} (allPairs facts dimensions)

end MetricLayer.Service
