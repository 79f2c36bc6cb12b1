import MetricLayer.Catalog.Load
import MetricLayer.Settings
import MetricLayer.Store.Basic

/-!
# Starting

Where the metadata comes from when a program starts: the store at an address if one is set,
else a catalog file, else nothing.
-/
namespace MetricLayer.Program

/-- What a program finds outside of itself. -/
structure Surroundings where
  environment : List (String × String) := []
  /-- The text of a file, if it exists. -/
  file : String → Option String := fun _ => none
  /-- What the metadata store at an address holds. -/
  database : String → Relational := fun _ => {}

/-- The kinds of database that a metadata store may be of. -/
def databaseKinds : List String :=
  ["mariadb", "mssql", "mysql", "oracle", "postgresql", "sqlite"]

/-- The kind of database an address names. What follows a plus sign there is its driver. -/
def databaseKind (url : String) : Except Fault String :=
  let (scheme, rest) := url.toList.span fun c => Text.isWordChar c || c == '+'
  if scheme.isEmpty || !(['/', '/'].isPrefixOf (rest.drop 1) && rest.head? == some ':') then
    .error (.database .argument)
  else
    let kind := String.ofList (scheme.takeWhile (· != '+'))
    if databaseKinds.contains kind then .ok kind else .error .unknownDatabase

/-- A setting that counts as not given if it is empty. -/
def given? (setting : Option String) : Option String :=
  setting.filter (!·.isEmpty)

/-- The metadata store of the settings. -/
def openStore (outside : Surroundings) (settings : Settings) : Except Fault Store :=
  match given? settings.metadataUrl, given? settings.catalogPath with
  | some url, _ => (databaseKind url).map fun _ => .relational (outside.database url)
  | none, some path =>
    match outside.file path with
    | some s => (Catalog.loadFile outside.environment s).map .memory
    | none => .error .missingFile
  | none, none => .ok .empty

end MetricLayer.Program
