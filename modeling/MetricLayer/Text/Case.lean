import MetricLayer.Text.CaseTable
import MetricLayer.Text.Word

/-!
# Letter case

Lower and upper case of whole texts, and the caseless comparison of single characters. Whole
texts follow the full mappings: an expansion may lengthen the text, and a capital sigma at the
end of a word becomes a final sigma.
-/
namespace MetricLayer.Text

/-- The image of a code point under a list of case runs. -/
def mapRuns (runs : List (Nat × Nat × Nat × Int)) (n : Nat) : Nat :=
  match runs.find? fun r => r.1 ≤ n && n ≤ r.2.1 && (n - r.1) % r.2.2.1 == 0 with
  | some r => ((n : Int) + r.2.2.2).toNat
  | none => n

/-- The characters a code point expands to, if its case form is not a single character. -/
def expansion? (table : List (Nat × List Nat)) (n : Nat) : Option (List Nat) :=
  (table.find? (·.1 == n)).map (·.2)

/-- The lower-case form of a character, its first character if there are several. -/
def lowerChar (c : Char) : Char :=
  if c.toNat < 128 then c.toLower
  else
    match expansion? lowerExpansions c.toNat with
    | some (n :: _) => Char.ofNat n
    | _ => Char.ofNat (mapRuns lowerRuns c.toNat)

/-- The upper-case form of a character, its first character if there are several. -/
def upperChar (c : Char) : Char :=
  if c.toNat < 128 then c.toUpper
  else
    match expansion? upperExpansions c.toNat with
    | some (n :: _) => Char.ofNat n
    | _ => Char.ofNat (mapRuns upperRuns c.toNat)

/-- Characters that a case mapping changes. -/
def hasCase (c : Char) : Bool :=
  c != lowerChar c || c != upperChar c

/-- Characters that count as letters of a word around a capital sigma. -/
def isCased (c : Char) : Bool :=
  if c.toNat < 128 then c.isAlpha else inRanges casedRanges c.toNat

/-- Characters that are skipped around a capital sigma. -/
def isCaseIgnorable (c : Char) : Bool :=
  inRanges caseIgnorableRanges c.toNat

/-- Whether the nearest character that is not skipped is cased. -/
def touchesCased (cs : List Char) : Bool :=
  match cs.dropWhile isCaseIgnorable with
  | c :: _ => isCased c
  | [] => false

/-- Lower-cases the rest of a text, given the characters before it in reverse. -/
def lowerFrom : List Char → List Char → List Char
  | _, [] => []
  | before, c :: rest =>
    let image :=
      if c.toNat < 128 then [c.toLower]
      else if c.toNat == 0x3a3 then
        [Char.ofNat (if touchesCased before && !touchesCased rest then 0x3c2 else 0x3c3)]
      else
        match expansion? lowerExpansions c.toNat with
        | some ns => ns.map Char.ofNat
        | none => [Char.ofNat (mapRuns lowerRuns c.toNat)]
    image ++ lowerFrom (c :: before) rest

/-- The lower-case form of a text. -/
def lower (s : String) : String :=
  String.ofList (lowerFrom [] s.toList)

/-- The upper-case form of one character, as a text. -/
def upperImage (c : Char) : List Char :=
  if c.toNat < 128 then [c.toUpper]
  else
    match expansion? upperExpansions c.toNat with
    | some ns => ns.map Char.ofNat
    | none => [Char.ofNat (mapRuns upperRuns c.toNat)]

/-- The upper-case form of a text. -/
def upper (s : String) : String :=
  String.ofList (s.toList.flatMap upperImage)

/-- Whether `c` matches the pattern character `p` when case is ignored. A pattern character
without case matches itself only; another matches what has the same lower-case form, or a
lower-case variant that shares an upper-case form with it. -/
def matchesCaseless (p c : Char) : Bool :=
  if hasCase p then
    let low := lowerChar p
    let image := lowerChar c
    image == low || ((expansion? caseVariants low.toNat).getD []).contains image.toNat
  else c == p

end MetricLayer.Text
