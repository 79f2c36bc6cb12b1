import MetricLayer.Yaml.Quoted

/-!
# Tokens

The marks and scalars of a document, and the readers of those that stand for themselves: names
of anchors and aliases, tags, and directives.
-/
namespace MetricLayer.Yaml

/-- A version of the language. -/
structure Version where
  major : Nat
  minor : Nat
  deriving DecidableEq, Repr

/-- Whether a version is the one before the current version, or older. -/
def Version.isOlder (v : Version) : Bool := v.minor ≤ 1

/-- The version of a document that does not name one. -/
def currentVersion : Version := ⟨1, 2⟩

/-- A line of instructions before a document. -/
inductive Directive where
  | version (v : Version)
  | tag (handle scope : String)
  | other
  deriving DecidableEq, Repr

/-- A tag as it is written: its handle, if it has one, and the rest. -/
structure WrittenTag where
  handle : Option String
  suffix : String
  deriving DecidableEq, Repr

/-- A mark or a scalar. The marks of block collections have no characters of their own: they
stand for changes of the indentation. -/
inductive Mark where
  | directive (d : Directive)
  | documentStart
  | documentEnd
  | streamEnd
  | blockSequence
  | blockMapping
  | blockEnd
  | flowSequence
  | flowSequenceEnd
  | flowMapping
  | flowMappingEnd
  | blockEntry
  | flowEntry
  | key
  | value
  | alias (name : String)
  | anchor (name : String)
  | tag (t : WrittenTag)
  | scalar (text : String) (plain : Bool)
  deriving DecidableEq, Repr

/-- A mark and the line it starts on. -/
structure Token where
  mark : Mark
  line : Nat
  deriving DecidableEq, Repr

/-- Characters that cannot be part of the name of an anchor. -/
def endsName (c : Char) : Bool :=
  isGap c || isLineEnd c || c == ',' || c == '[' || c == ']' || c == '{' || c == '}' ||
    c == '\ufeff'

/-- Reads the name of an anchor or an alias after its indicator. -/
def readName (c : Cursor) : Except Flaw (String × Cursor) :=
  let (name, c) := c.step.span fun ch => !endsName ch
  if name.isEmpty || c.next == some '\ufeff' then .error .malformed
  else .ok (String.ofList name, c)

/-- Characters of tag handles. -/
def isHandleChar (c : Char) : Bool :=
  c.isAlphanum || c == '-' || c == '_'

/-- Characters of tags and their scopes, next to letters and digits. -/
def tagMarks : List Char := "-;/?:@&=+$,_.!~*'()[]#".toList

/-- Whether a character may stand in a tag. -/
def isTagChar (older : Bool) (c : Char) : Bool :=
  c.isAlphanum || (tagMarks.contains c && !(older && c == '#'))

/-- Reads a handle: two exclamation marks with characters of handles between them, or one
before a space. -/
def readHandle (c : Cursor) : Except Flaw (String × Cursor) :=
  if c.next != some '!' then .error .malformed
  else if c.second == some ' ' then .ok ("!", c.step)
  else
    let (name, c) := c.step.span isHandleChar
    if c.next == some '!' then .ok ("!" ++ String.ofList name ++ "!", c.step)
    else .error .malformed

/-- The bytes of escapes `%XX` at the start of a text. -/
def escapedBytes : Nat → List Char → List UInt8
  | 0, _ => []
  | fuel + 1, cs =>
    match cs with
    | '%' :: rest =>
      match code? 2 rest with
      | some n => UInt8.ofNat n :: escapedBytes fuel (rest.drop 2)
      | none => []
    | _ => []

/-- Reads a tag or a scope, in front of a text kept in reverse. -/
def readTagText (older : Bool) : Nat → List Char → Cursor → Except Flaw (String × Cursor)
  | 0, _, _ => .error .malformed
  | fuel + 1, acc, c =>
    let (run, c) := c.span (isTagChar older)
    let acc := run.reverse ++ acc
    if c.next == some '%' then
      let bytes := escapedBytes fuel c.rest
      match String.fromUTF8? ⟨bytes.toArray⟩ with
      | some s =>
        if s.isEmpty then .error .malformed
        else readTagText older fuel (s.toList.reverse ++ acc) (c.advance (3 * bytes.length))
      | none => .error .malformed
    else if acc.isEmpty then .error .malformed
    else .ok (String.ofList acc.reverse, c)

/-- Whether an exclamation mark follows before the end of the word. -/
def hasHandleEnd : List Char → Bool
  | [] => false
  | c :: rest => if endsWord (some c) then false else c == '!' || hasHandleEnd rest

/-- Reads a tag. -/
def readTag (older : Bool) (fuel : Nat) (c : Cursor) : Except Flaw (WrittenTag × Cursor) := do
  let double := c.second == some '!'
  let handle := if double then "!!" else "!"
  let c := if double then c.step else c
  let (t, c) ←
    if c.second == some '<' then do
      let (suffix, c) ← readTagText older fuel [] (c.advance 2)
      if c.next != some '>' then throw .malformed
      pure (⟨none, suffix⟩, c.step)
    else if standsAlone c.second then pure (⟨none, handle⟩, c.step)
    else if hasHandleEnd c.rest.tail then do
      let (handle, c) ← readHandle c
      let (suffix, c) ← readTagText older fuel [] c
      pure (⟨some handle, suffix⟩, c)
    else do
      let (suffix, c) ← readTagText older fuel [] c.step
      pure (⟨some handle, suffix⟩, c)
  if endsWord c.next then return (t, c) else throw .malformed

/-- Reads a number of a version. -/
def readVersionNumber (c : Cursor) : Except Flaw (Nat × Cursor) :=
  let (ds, c) := c.span Char.isDigit
  if ds.isEmpty then .error .malformed else .ok (Number.plainNat ds, c)

/-- Reads the version of a directive. -/
def readVersion (c : Cursor) : Except Flaw (Version × Cursor) := do
  let (major, c) ← readVersionNumber (c.skip (· == ' '))
  if c.next != some '.' then throw .malformed
  let (minor, c) ← readVersionNumber c.step
  if endsWord c.next then return (⟨major, minor⟩, c) else throw .malformed

/-- Reads the handle and the scope of a directive. -/
def readScope (older : Bool) (fuel : Nat) (c : Cursor) :
    Except Flaw (Directive × Cursor) := do
  let (handle, c) ← readHandle (c.skip (· == ' '))
  if c.next != some ' ' then throw .malformed
  let (scope, c) ← readTagText older fuel [] (c.skip (· == ' '))
  if endsWord c.next then return (.tag handle scope, c) else throw .malformed

/-- Characters of the names of directives. -/
def isDirectiveChar (c : Char) : Bool :=
  c.isAlphanum || c == '-' || c == '_' || c == ':' || c == '.'

/-- Reads a directive and the rest of its line. -/
def readDirective (older : Bool) (fuel : Nat) (c : Cursor) :
    Except Flaw (Directive × Cursor) := do
  let (name, c) := c.step.span isDirectiveChar
  if name.isEmpty || !endsWord c.next then throw .malformed
  let (d, c) ← match String.ofList name with
    | "YAML" => do
      let (v, c) ← readVersion c
      pure (.version v, c)
    | "TAG" => readScope older fuel c
    | _ => pure (.other, c.skip fun ch => !isLineEnd ch)
  let c := c.skip (· == ' ')
  let c := if c.next == some '#' then c.skip fun ch => !isLineEnd ch else c
  if !endsLine c.next then throw .malformed
  match c.lineBreak? with
  | some (_, c) => return (d, c)
  | none => return (d, c)

end MetricLayer.Yaml
