import MetricLayer.Text.Utf8
import MetricLayer.Value.Json

/-!
# Addresses

The path and the query of a requested address. Both are percent-encoded; an encoded slash
separates segments like a plain one.
-/
namespace MetricLayer.Http

/-- The bytes of a percent-encoded text. A percent sign without two digits stands for itself. -/
def unescapeBytes : List UInt8 → List UInt8
  | 0x25 :: h :: l :: rest =>
    match Json.hexValue? (Char.ofNat h.toNat), Json.hexValue? (Char.ofNat l.toNat) with
    | some h, some l => UInt8.ofNat (16 * h + l) :: unescapeBytes rest
    | _, _ => 0x25 :: unescapeBytes (h :: l :: rest)
  | b :: rest => b :: unescapeBytes rest
  | [] => []
termination_by bs => bs.length

/-- The text of a percent-encoded text. -/
def unescape (s : String) : String :=
  Text.ofBytes (unescapeBytes s.toUTF8.toList)

/-- What stands before and after the first occurrence of a character. -/
def cutAt (c : Char) (s : String) : String × Option String :=
  match s.toList.span (· != c) with
  | (before, _ :: after) => (String.ofList before, some (String.ofList after))
  | (before, []) => (String.ofList before, none)

/-- A parameter: a name and a value, where a plus sign stands for a space. -/
def parameter (s : String) : String × String :=
  let (name, value) := cutAt '=' (s.replace "+" " ")
  (unescape name, unescape (value.getD ""))

/-- A requested address. -/
structure Address where
  /-- The path, no longer encoded. -/
  path : String
  /-- The query, still encoded. -/
  query : String := ""

/-- The address of a request line. A fragment is not part of it. -/
def Address.read (s : String) : Address :=
  let (whole, _) := cutAt '#' s
  let (path, query) := cutAt '?' whole
  ⟨unescape path, query.getD ""⟩

/-- The parts between the slashes of a path, after the first slash. A line feed at its end is
not seen. -/
def segmentsOf (path : String) : List String :=
  let path := if path.endsWith "\n" then (path.dropEnd 1).copy else path
  (if path.startsWith "/" then (path.drop 1).copy else path).splitOn "/"

/-- The parameters of the query. -/
def Address.parameters (a : Address) : List (String × String) :=
  ((a.query.splitOn "&").filter (!·.isEmpty)).map parameter

/-- The parameters by name, in the order the names first come up: one value, or the list of all
of them. -/
def Address.grouped (a : Address) : List (Value × Value) :=
  (a.parameters.map (·.1)).eraseDups.map fun name =>
    match (a.parameters.filter (·.1 == name)).map (·.2) with
    | [v] => (.str name, .str v)
    | vs => (.str name, .list (vs.map .str))

/-- The path without slashes at its end, if it has some. -/
def Address.shortPath? (a : Address) : Option String :=
  if a.path.endsWith "/" then
    some (String.ofList (a.path.toList.reverse.dropWhile (· == '/')).reverse)
  else none

end MetricLayer.Http
