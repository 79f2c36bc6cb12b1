import MetricLayer.Catalog.Build
import MetricLayer.Catalog.Limit
import MetricLayer.Yaml.Document

/-!
# Loading a catalog

A catalog is a document whose root is a mapping of sections. The limits on its text are checked
before it is read, the number of its nodes before it is built. A document without a value is an
empty catalog.
-/
namespace MetricLayer.Catalog

/-- The fault of a document without a value. -/
def documentFault : Yaml.Flaw → Fault
  | .malformed => .catalog .malformed
  | .halfPair => .badValue "surrogates not allowed"
  | .badValue m => .badValue m
  | .unknownName => .unknownName
  | .outOfBounds => .outOfBounds
  | .illTyped => .illTyped
  | .repeatedKey => .repeatedKey

/-- The texts of keys, if all of them are texts. -/
def keyNames? (keys : List Value) : Option (List String) :=
  keys.mapM fun | .str s => some s | _ => none

/-- Requires every key to name a section. -/
def checkSections (data : List (Value × Value)) : Except Fault Unit :=
  let isSection : Value → Bool := fun | .str s => sections.contains s | _ => false
  match (data.map (·.1)).filter fun k => !isSection k with
  | [] => .ok ()
  | keys =>
    match keyNames? keys with
    | some names =>
      .error (.catalog (.inconsistent none ("Unknown section(s): " ++
        ", ".intercalate (names.mergeSort fun s t => s ≤ t))))
    | none => .error .illTyped

/-- Loads the catalog of a text. -/
def load (env : List (String × String)) (s : String) : Except Fault Memory := do
  checkText s
  let document ← (Yaml.Document.read maxLevels s).mapError documentFault
  match document.value with
  | .map data =>
    if document.endless then throw (tooManyNodes maxNodes)
    checkNodes maxNodes (.map data)
    checkSections data
    build env data
  | .null => if document.endless then throw (tooManyNodes maxNodes) else return {}
  | _ => throw (.catalog (.inconsistent none "Catalog root must be a mapping"))

/-- Loads the catalog of a file's text. -/
def loadFile (env : List (String × String)) (s : String) : Except Fault Memory :=
  load env (String.ofList (Text.unifyLineEnds s.toList))

end MetricLayer.Catalog
