import MetricLayer.Yaml.Block
import MetricLayer.Yaml.Plain
import MetricLayer.Yaml.Token

/-!
# The layout of a document

The tokens of a document, found one after the other. Indentation opens and closes block
collections. A scalar may turn out to be a mapping key only when a colon follows it on the same
line; so tokens wait until that is settled, and a key is marked as such afterwards.
-/
namespace MetricLayer.Yaml

/-- A place where a mapping key may have started. -/
structure PossibleKey where
  /-- The number of the token that starts it. -/
  number : Nat
  /-- Whether nothing else can stand there. -/
  required : Bool
  index : Nat
  line : Nat
  column : Nat

/-- The longest distance between the start of a key and its colon. -/
def maxKeyLength : Nat := 1024

/-- Whether a key may still end at a cursor. -/
def PossibleKey.isFresh (c : Cursor) (k : PossibleKey) : Bool :=
  k.line == c.line && c.index - k.index ≤ maxKeyLength

/-- What is left of a document, and what is known about its layout. -/
structure Layout where
  cursor : Cursor
  /-- A bound on the characters of the document. -/
  size : Nat
  version : Version := currentVersion
  done : Bool := false
  /-- The open brackets, innermost first: true for those of mappings. -/
  flow : List Bool := []
  /-- The tokens found and not yet taken. -/
  waiting : List Token := []
  /-- How many tokens are taken. -/
  taken : Nat := 0
  /-- The column of the innermost block collection, -1 outside of all. -/
  indent : Int := -1
  indents : List Int := []
  /-- Whether a key may start here. -/
  keyAllowed : Bool := true
  /-- The possible keys by the number of open brackets around them. -/
  keys : List (Nat × PossibleKey) := []

namespace Layout

/-- The layout of a whole document before anything is read. -/
def start (text : List Char) : Layout :=
  { cursor := { rest := text }, size := text.length + 1 }

def inFlow (l : Layout) : Bool := !l.flow.isEmpty

/-- The number of open brackets. -/
def level (l : Layout) : Nat := l.flow.length

/-- Adds a token that starts here. -/
def push (l : Layout) (m : Mark) : Layout :=
  { l with waiting := l.waiting ++ [⟨m, l.cursor.line⟩] }

/-- Adds a mark of one character. -/
def pushChar (l : Layout) (m : Mark) : Layout :=
  { l.push m with cursor := l.cursor.step }

/-- Forgets the possible key at the current level. -/
def forgetKey (l : Layout) : Except Flaw Layout :=
  match l.keys.find? (·.1 == l.level) with
  | none => .ok l
  | some (level, key) =>
    if key.required then .error .malformed
    else .ok { l with keys := l.keys.filter (·.1 != level) }

/-- Notes that a key may start here. -/
def noteKey (l : Layout) : Except Flaw Layout :=
  if !l.keyAllowed then .ok l
  else do
    let l ← l.forgetKey
    let c := l.cursor
    let key : PossibleKey :=
      ⟨l.taken + l.waiting.length, !l.inFlow && l.indent == c.column, c.index, c.line, c.column⟩
    return { l with keys := (l.level, key) :: l.keys }

/-- Forgets the keys that can no longer end here. -/
def dropStaleKeys (l : Layout) : Except Flaw Layout :=
  if l.keys.all fun k => k.2.isFresh l.cursor then .ok l
  else if l.keys.any fun k => !k.2.isFresh l.cursor && k.2.required then .error .malformed
  else .ok { l with keys := l.keys.filter fun k => k.2.isFresh l.cursor }

/-- Opens a block collection if the column is deeper than all open ones. -/
def openBlock (l : Layout) (column : Nat) : Option Layout :=
  if l.indent < column then
    some { l with indents := l.indent :: l.indents, indent := column }
  else none

/-- Closes the block collections that are deeper than a column. -/
def closeBlocks (l : Layout) (column : Int) : Layout :=
  if l.inFlow then l else go l l.indents
where
  go (l : Layout) : List Int → Layout
    | [] => if column < l.indent then { l.push .blockEnd with indent := -1, indents := [] } else l
    | outer :: rest =>
      if column < l.indent then
        go { l.push .blockEnd with indent := outer, indents := rest } rest
      else l

/-- Passes blanks, comments and line breaks. A line break allows a key outside of brackets. -/
def toNextToken : Nat → Layout → Layout
  | 0, l => l
  | fuel + 1, l =>
    let c := l.cursor
    let c := if c.index == 0 && c.next == some '\ufeff' then c.step else c
    let c := c.skip fun ch => ch == ' ' || (ch == '\t' && l.inFlow)
    let c := if c.next == some '#' then c.skip fun ch => !isLineEnd ch else c
    match c.lineBreak? with
    | some (_, c) =>
      toNextToken fuel { l with cursor := c, keyAllowed := l.keyAllowed || !l.inFlow }
    | none => { l with cursor := c }

/-! ### One token -/

def takeStreamEnd (l : Layout) : Except Flaw Layout := do
  let l ← (l.closeBlocks (-1)).forgetKey
  return { l.push .streamEnd with keyAllowed := false, keys := [], done := true }

def takeDirective (l : Layout) : Except Flaw Layout := do
  let l ← (l.closeBlocks (-1)).forgetKey
  let (d, c) ← readDirective l.version.isOlder l.size l.cursor
  let version := match d with
    | .version v => v
    | _ => l.version
  return { l.push (.directive d) with keyAllowed := false, cursor := c, version }

def takeDocumentMark (l : Layout) (m : Mark) : Except Flaw Layout := do
  let l ← (l.closeBlocks (-1)).forgetKey
  return { l.push m with keyAllowed := false, cursor := l.cursor.advance 3 }

def takeFlowStart (l : Layout) (isMapping : Bool) : Except Flaw Layout := do
  let l ← l.noteKey
  let m : Mark := if isMapping then .flowMapping else .flowSequence
  return { l.pushChar m with flow := isMapping :: l.flow, keyAllowed := true }

def takeFlowEnd (l : Layout) (m : Mark) : Except Flaw Layout := do
  let l ← l.forgetKey
  return { l.pushChar m with flow := l.flow.tail, keyAllowed := false }

def takeFlowEntry (l : Layout) : Except Flaw Layout := do
  let l ← l.forgetKey
  return { l.pushChar .flowEntry with keyAllowed := true }

/-- Opens a block collection here, where one is allowed, if the column is deeper. -/
def startBlock (l : Layout) (m : Mark) : Except Flaw Layout :=
  if l.inFlow then .ok l
  else if !l.keyAllowed then .error .malformed
  else
    match l.openBlock l.cursor.column with
    | some l => .ok (l.push m)
    | none => .ok l

def takeBlockEntry (l : Layout) : Except Flaw Layout := do
  let l ← (← l.startBlock .blockSequence).forgetKey
  return { l.pushChar .blockEntry with keyAllowed := true }

def takeKey (l : Layout) : Except Flaw Layout := do
  let l ← (← l.startBlock .blockMapping).forgetKey
  return { l.pushChar .key with keyAllowed := !l.inFlow }

/-- A colon after a possible key makes it one; any other colon stands for itself. -/
def takeValue (l : Layout) : Except Flaw Layout := do
  match l.keys.find? (·.1 == l.level) with
  | some (level, key) =>
    let (before, after) := l.waiting.splitAt (key.number - l.taken)
    let l := { l with keys := l.keys.filter (·.1 != level), keyAllowed := false }
    let start (l : Layout) (ms : List Mark) : Layout :=
      { l with waiting := before ++ ms.map (⟨·, key.line⟩) ++ after }
    if l.inFlow then return (start l [.key]).pushChar .value
    else
      match l.openBlock key.column with
      | some l => return (start l [.blockMapping, .key]).pushChar .value
      | none => return (start l [.key]).pushChar .value
  | none =>
    let l ← l.startBlock .blockMapping
    return { l.pushChar .value with keyAllowed := !l.inFlow }

def takeName (l : Layout) (mark : String → Mark) : Except Flaw Layout := do
  let l ← l.noteKey
  let (name, c) ← readName l.cursor
  return { l.push (mark name) with keyAllowed := false, cursor := c }

def takeTag (l : Layout) : Except Flaw Layout := do
  let l ← l.noteKey
  let (t, c) ← readTag l.version.isOlder l.size l.cursor
  return { l.push (.tag t) with keyAllowed := false, cursor := c }

def takeBlockText (l : Layout) (folded : Bool) : Except Flaw Layout := do
  let l ← l.forgetKey
  let (text, c) ← readBlock folded (l.indent + 1).toNat l.size l.cursor.step
  return { l.push (.scalar text false) with keyAllowed := true, cursor := c }

def takeQuoted (l : Layout) (double : Bool) : Except Flaw Layout := do
  let l ← l.noteKey
  let (text, c) ← readQuoted double l.size [] l.cursor.step
  return { l.push (.scalar text false) with keyAllowed := false, cursor := c }

def takePlain (l : Layout) : Except Flaw Layout := do
  let l ← l.noteKey
  let t := readPlain ⟨l.inFlow, l.version.isOlder⟩ (l.indent + 1).toNat l.size l.cursor
  return { l.push (.scalar t.text true) with keyAllowed := t.broken, cursor := t.after }

/-- Whether a colon here separates a key from its value. -/
def isValueHere (l : Layout) : Bool :=
  let alone := standsAlone l.cursor.second
  match l.flow with
  | [] => alone
  | isMapping :: _ =>
    if l.version.isOlder then true
    else if !isMapping then alone
    else
      match l.waiting.getLast? with
      | some ⟨.value, _⟩ => alone
      | _ => true

/-- Characters that start no plain text by themselves. -/
def indicators : List Char := "-?:,[]{}#&*!|>'\"%@`".toList

/-- Whether a plain text starts with a character. -/
def isPlainHere (l : Layout) (c : Char) : Bool :=
  let after := l.cursor.second
  if !isGap c && !isBreak c && !indicators.contains c then true
  else if c == ':' && l.inFlow && !l.version.isOlder then !(after.elim false isGap)
  else !standsAlone after && (c == '-' || (!l.inFlow && (c == '?' || c == ':')))

/-- Takes the token that starts with a character. -/
def takeFrom (l : Layout) (c : Char) : Except Flaw Layout :=
  let alone := standsAlone l.cursor.second
  let lineStart := l.cursor.column == 0
  match c with
  | '%' => if lineStart then l.takeDirective else .error .malformed
  | '[' => l.takeFlowStart false
  | '{' => l.takeFlowStart true
  | ']' => l.takeFlowEnd .flowSequenceEnd
  | '}' => l.takeFlowEnd .flowMappingEnd
  | ',' => l.takeFlowEntry
  | '*' => l.takeName .alias
  | '&' => l.takeName .anchor
  | '!' => l.takeTag
  | '\'' => l.takeQuoted false
  | '"' => l.takeQuoted true
  | '|' => if l.inFlow then .error .malformed else l.takeBlockText false
  | '>' => if l.inFlow then .error .malformed else l.takeBlockText true
  | _ =>
    if lineStart && c == '-' && l.cursor.isMark '-' then l.takeDocumentMark .documentStart
    else if lineStart && c == '.' && l.cursor.isMark '.' then l.takeDocumentMark .documentEnd
    else if c == '-' && alone then l.takeBlockEntry
    else if c == '?' && (l.inFlow || alone) then l.takeKey
    else if c == ':' && l.isValueHere then l.takeValue
    else if l.isPlainHere c then l.takePlain
    else .error .malformed

/-- Finds the next tokens. -/
def findMore (l : Layout) : Except Flaw Layout := do
  let l ← (toNextToken l.size l).dropStaleKeys
  let l := l.closeBlocks l.cursor.column
  match l.cursor.next with
  | none => l.takeStreamEnd
  | some c => l.takeFrom c

/-- Whether the first waiting token may still become a key. -/
def isUnsettled (l : Layout) : Bool :=
  l.keys.any fun k => k.2.number == l.taken

/-- Finds tokens until the first one is settled. -/
def settle : Nat → Layout → Except Flaw Layout
  | 0, _ => .error .malformed
  | fuel + 1, l =>
    if l.done then .ok l
    else if l.waiting.isEmpty then
      match l.findMore with
      | .ok l => settle fuel l
      | .error e => .error e
    else
      match l.dropStaleKeys with
      | .error e => .error e
      | .ok l =>
        if l.isUnsettled then
          match l.findMore with
          | .ok l => settle fuel l
          | .error e => .error e
        else .ok l

/-- The next token, which keeps waiting. -/
def peek (l : Layout) : Except Flaw (Token × Layout) := do
  let l ← settle (l.size + 2) l
  match l.waiting with
  | t :: _ => return (t, l)
  | [] => return (⟨.streamEnd, l.cursor.line⟩, l)

/-- Takes the next token, which was peeked. -/
def drop (l : Layout) : Layout :=
  { l with waiting := l.waiting.tail, taken := l.taken + 1 }

end Layout
end MetricLayer.Yaml
