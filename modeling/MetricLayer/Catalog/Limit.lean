import MetricLayer.Fault
import MetricLayer.Number.Read
import MetricLayer.Text.Blank
import MetricLayer.Text.Word

/-!
# Limits of catalog documents

A document that is too long, that seems to define an anchor, or that has too many nodes is
refused. Nodes are counted with a list of those still to be visited, up to the limit.
-/
namespace MetricLayer.Catalog

/-- The longest document, in characters. -/
def maxLength : Nat := 5000000

/-- The greatest number of nodes. -/
def maxNodes : Nat := 50000

/-- The greatest number of levels. -/
def maxLevels : Nat := 20

/-- A document that is refused. -/
def refuse (message : String) : Fault := .catalog (.refused message)

/-- Whether an anchor may follow a character. -/
def precedesAnchor (c : Char) : Bool :=
  Text.isBlank c || c == '-' || c == ':'

/-- Whether a text seems to define an anchor: an ampersand at its start or behind a blank, a
dash or a colon, and a word character after it. -/
def seemsAnchored (allowed : Bool) : List Char → Bool
  | [] => false
  | c :: rest =>
    (c == '&' && allowed && rest.head?.elim false Text.isWordChar) ||
      seemsAnchored (precedesAnchor c) rest

/-- Requires a text to be short enough and to define no anchors. -/
def checkText (s : String) : Except Fault Unit :=
  if maxLength < s.length then
    .error (refuse ("YAML document exceeds maximum size (" ++ Number.withCommas s.length ++
      " chars > " ++ Number.withCommas maxLength ++ " limit)"))
  else if seemsAnchored true s.toList then
    .error (refuse "YAML anchors/aliases are not supported in catalogs")
  else .ok ()

/-- The values directly inside a list or a mapping. The keys of a mapping are not counted, and a
tuple or a set counts as one value. -/
def parts : Value → List Value
  | .list vs => vs
  | .map es => es.map (·.2)
  | _ => []

/-- Whether the values still to be visited, and those inside them, are at most `limit`. -/
def isWithin (limit : Nat) (rest : List Value) : Bool :=
  match limit, rest with
  | _, [] => true
  | 0, _ :: _ => false
  | limit + 1, v :: rest => isWithin limit (parts v ++ rest)

/-- The fault of a document with too many nodes. -/
def tooManyNodes (limit : Int) : Fault :=
  refuse ("YAML document exceeds maximum node count (" ++ Number.signedWithCommas limit ++ ")")

/-- Requires a value to have at most `limit` nodes. There is always one, so a negative limit
refuses what zero refuses. -/
def checkNodes (limit : Int) (v : Value) : Except Fault Unit :=
  if isWithin limit.toNat [v] then .ok () else .error (tooManyNodes limit)

end MetricLayer.Catalog
