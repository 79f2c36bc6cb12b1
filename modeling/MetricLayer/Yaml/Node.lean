import MetricLayer.Yaml.Layout
import MetricLayer.Yaml.Tag

/-!
# Nodes

The tree of a document: scalars, sequences and mappings with their tags. An alias stands for
the node of its anchor; inside that node it makes the tree endless.
-/
namespace MetricLayer.Yaml

/-- A node of a document. -/
inductive Node where
  | scalar (tag : Tag) (text : String)
  | sequence (tag : Tag) (items : List Node)
  | mapping (tag : Tag) (entries : List (Node × Node))
  /-- An alias inside the node of its own anchor. -/
  | endless
  deriving Inhabited

/-- An anchor: its name, its number, and its node once that is complete. -/
structure Anchor where
  name : String
  number : Nat
  node : Option Node := none

/-- What is known while a document is read. -/
structure Reading where
  layout : Layout
  /-- The scopes of tag handles. -/
  handles : List (String × String) := []
  /-- The anchors so far, the latest first. -/
  anchors : List Anchor := []

/-- A step of reading. -/
abbrev ReadM := StateT Reading (Except Flaw)

namespace ReadM

variable {α : Type}

def malformed : ReadM α := fun _ => .error .malformed

/-- The next token, which is not taken. -/
def peek : ReadM Token := fun r =>
  match r.layout.peek with
  | .ok (t, layout) => .ok (t, { r with layout })
  | .error e => .error e

/-- The mark of the next token, which is not taken. -/
def peekMark : ReadM Mark := do return (← peek).mark

/-- Takes the token that was peeked. -/
def drop : ReadM Unit := modify fun r => { r with layout := r.layout.drop }

/-- Whether the language of the document is the older one. -/
def isOlder : ReadM Bool := do return (← get).layout.version.isOlder

/-- Requires a mark, and takes it. -/
def expect (m : Mark) : ReadM Unit := do
  if (← peekMark) == m then drop else malformed

/-- The node of an alias. -/
def aliased (name : String) : ReadM Node := do
  match (← get).anchors.find? (·.name == name) with
  | none => malformed
  | some a => return a.node.getD .endless

/-- Notes an anchor whose node is not complete, and gives its number. -/
def openAnchor (name : String) : ReadM Nat := do
  let number := (← get).anchors.length
  modify fun r => { r with anchors := { name, number } :: r.anchors }
  return number

/-- Notes the node of an anchor. -/
def closeAnchor (number : Nat) (n : Node) : ReadM Unit :=
  modify fun r => { r with anchors := r.anchors.map fun a =>
    if a.number == number then { a with node := some n } else a }

/-- The scopes of handles that no directive sets. -/
def defaultHandles : List (String × String) := [("!", "!"), ("!!", commonScope)]

/-- The full name of a tag. -/
def tagName (t : WrittenTag) : ReadM String := do
  match t.handle with
  | none => return t.suffix
  | some handle =>
    match ((← get).handles ++ defaultHandles).find? (·.1 == handle) with
    | some (_, scope) => return scope ++ t.suffix
    | none => malformed

/-- The kind of a plain scalar in the version of the document. -/
def plainTag (text : String) : ReadM Tag := do
  let v := (← get).layout.version
  if v == currentVersion then return Tag.ofPlain false text
  else if v == ⟨1, 1⟩ then return Tag.ofPlain true text
  else throw .unknownName

end ReadM

open ReadM

/-- The anchor and the tag in front of a node. -/
structure Properties where
  anchor : Option String := none
  tag : Option String := none

/-- Whether a node has neither. -/
def Properties.isEmpty (p : Properties) : Bool := p.anchor.isNone && p.tag.isNone

/-- Reads an anchor, if there is one. -/
def readAnchor : ReadM (Option String) := do
  match ← peekMark with
  | .anchor name => do drop; return some name
  | _ => return none

/-- Reads a tag, if there is one. -/
def readTagName : ReadM (Option WrittenTag) := do
  match ← peekMark with
  | .tag t => do drop; return some t
  | _ => return none

/-- Reads an anchor and a tag, in either order. -/
def readProperties : ReadM Properties := do
  let anchor ← readAnchor
  let tag ← readTagName
  let anchor ← if anchor.isNone && tag.isSome then readAnchor else pure anchor
  return { anchor, tag := ← tag.mapM tagName }

/-- The tag of a node whose kind is not written. -/
def Properties.tagOr (p : Properties) (implied : ReadM Tag) : ReadM Tag :=
  match p.tag with
  | none => implied
  | some name => if name == "!" then implied else pure (Tag.ofName name)

/-- A scalar that is not written. -/
def emptyNode (levels : Nat) : ReadM Node := do
  if levels == 0 then malformed else return .scalar (← plainTag "") ""

/-- The tag of a written scalar. Quotes make a text, unless the tag leaves that open. -/
def scalarTag (p : Properties) (text : String) (plain : Bool) : ReadM Tag :=
  if plain || p.tag.isSome then p.tagOr (plainTag text) else pure .text

mutual

/-- Reads a node with at most `levels` levels. Block collections may be read where `block` is
set, and sequences without an indentation of their own where `indentless` is set. The fuel
bounds the nodes. -/
def readNode (block indentless : Bool) : Nat → Nat → ReadM Node
  | 0, _ => malformed
  | fuel + 1, levels => do
    match ← peekMark with
    | .alias name => do drop; aliased name
    | _ =>
      let p ← readProperties
      if levels == 0 then malformed
      else
        let number ← p.anchor.mapM openAnchor
        let n ← readContent block indentless p fuel (levels - 1)
        match number with
        | some number => do closeAnchor number n; return n
        | none => return n
termination_by structural fuel => fuel

/-- Reads what follows the anchor and the tag of a node. The parts of a collection have at most
`levels` levels. -/
def readContent (block indentless : Bool) (p : Properties) : Nat → Nat → ReadM Node
  | 0, _ => malformed
  | fuel + 1, levels => do
    match ← peekMark with
    | .scalar text plain => do
      drop
      return .scalar (← scalarTag p text plain) text
    | .flowSequence => do
      drop
      return .sequence (← p.tagOr (pure .sequence)) (← readFlowItems true [] fuel levels)
    | .flowMapping => do
      drop
      return .mapping (← p.tagOr (pure .mapping)) (← readFlowEntries true [] fuel levels)
    | m =>
      if indentless && m == .blockEntry then
        return .sequence (← p.tagOr (pure .sequence)) (← readBlockItems true [] fuel levels)
      else if block && m == .blockSequence then
        drop
        return .sequence (← p.tagOr (pure .sequence)) (← readBlockItems false [] fuel levels)
      else if block && m == .blockMapping then
        drop
        return .mapping (← p.tagOr (pure .mapping)) (← readBlockEntries [] fuel levels)
      else if p.isEmpty then malformed
      else return .scalar (← p.tagOr (plainTag "")) ""
termination_by structural fuel => fuel

/-- Reads the items of a block sequence. One without an indentation of its own ends where no
item follows. -/
def readBlockItems (indentless : Bool) (acc : List Node) : Nat → Nat → ReadM (List Node)
  | 0, _ => malformed
  | fuel + 1, levels => do
    match ← peekMark with
    | .blockEntry =>
      drop
      let m ← peekMark
      if m == .blockEntry || m == .blockEnd || (indentless && (m == .key || m == .value)) then
        readBlockItems indentless ((← emptyNode levels) :: acc) fuel levels
      else readBlockItems indentless ((← readNode true false fuel levels) :: acc) fuel levels
    | .blockEnd =>
      if indentless then return acc.reverse else do drop; return acc.reverse
    | _ => if indentless then return acc.reverse else malformed
termination_by structural fuel => fuel

/-- Reads the part of a block entry before or after its colon. -/
def readBlockPart : Nat → Nat → ReadM Node
  | 0, _ => malformed
  | fuel + 1, levels => do
    let m ← peekMark
    if m == .key || m == .value || m == .blockEnd then emptyNode levels
    else readNode true true fuel levels
termination_by structural fuel => fuel

/-- Reads the value of a block entry, if there is one. -/
def readBlockValue : Nat → Nat → ReadM Node
  | 0, _ => malformed
  | fuel + 1, levels => do
    match ← peekMark with
    | .value => do drop; readBlockPart fuel levels
    | _ => emptyNode levels
termination_by structural fuel => fuel

/-- Reads the entries of a block mapping. -/
def readBlockEntries (acc : List (Node × Node)) : Nat → Nat → ReadM (List (Node × Node))
  | 0, _ => malformed
  | fuel + 1, levels => do
    match ← peekMark with
    | .key =>
      drop
      let k ← readBlockPart fuel levels
      readBlockEntries ((k, ← readBlockValue fuel levels) :: acc) fuel levels
    | .value =>
      if ← isOlder then malformed
      else
        let k ← emptyNode levels
        readBlockEntries ((k, ← readBlockValue fuel levels) :: acc) fuel levels
    | .blockEnd => do drop; return acc.reverse
    | _ => malformed
termination_by structural fuel => fuel

/-- Reads the part of an entry in brackets before or after its colon. -/
def readFlowPart (close : Mark) (isKey : Bool) : Nat → Nat → ReadM Node
  | 0, _ => malformed
  | fuel + 1, levels => do
    let m ← peekMark
    if m == .flowEntry || m == close || (isKey && m == .value) then emptyNode levels
    else readNode false false fuel levels
termination_by structural fuel => fuel

/-- Reads the value of an entry in brackets, if there is one. -/
def readFlowValue (close : Mark) : Nat → Nat → ReadM Node
  | 0, _ => malformed
  | fuel + 1, levels => do
    match ← peekMark with
    | .value => do drop; readFlowPart close false fuel levels
    | _ => emptyNode levels
termination_by structural fuel => fuel

/-- Reads the items of a sequence in brackets. A key makes an item a mapping of one entry. -/
def readFlowItems (first : Bool) (acc : List Node) : Nat → Nat → ReadM (List Node)
  | 0, _ => malformed
  | fuel + 1, levels => do
    if (← peekMark) == .flowSequenceEnd then
      drop
      return acc.reverse
    else
      if !first then expect .flowEntry
      match ← peekMark with
      | .key =>
        if levels == 0 then malformed
        else
          drop
          let k ← readFlowPart .flowSequenceEnd true fuel (levels - 1)
          let v ← readFlowValue .flowSequenceEnd fuel (levels - 1)
          readFlowItems false (.mapping .mapping [(k, v)] :: acc) fuel levels
      | .flowSequenceEnd => do drop; return acc.reverse
      | _ => readFlowItems false ((← readNode false false fuel levels) :: acc) fuel levels
termination_by structural fuel => fuel

/-- Reads the entries of a mapping in brackets. -/
def readFlowEntries (first : Bool) (acc : List (Node × Node)) :
    Nat → Nat → ReadM (List (Node × Node))
  | 0, _ => malformed
  | fuel + 1, levels => do
    if (← peekMark) == .flowMappingEnd then
      drop
      return acc.reverse
    else
      if !first then expect .flowEntry
      match ← peekMark with
      | .key =>
        drop
        let k ← readFlowPart .flowMappingEnd true fuel levels
        readFlowEntries false ((k, ← readFlowValue .flowMappingEnd fuel levels) :: acc) fuel levels
      | .value =>
        if ← isOlder then malformed
        else
          let k ← emptyNode levels
          readFlowEntries false ((k, ← readFlowValue .flowMappingEnd fuel levels) :: acc) fuel
            levels
      | .flowMappingEnd => do drop; return acc.reverse
      | _ =>
        let k ← readNode false false fuel levels
        readFlowEntries false ((k, ← emptyNode levels) :: acc) fuel levels
termination_by structural fuel => fuel

end

/-- Takes the directives in front of a document. There may be one version, and one scope for
each handle. -/
def readDirectives (versioned : Bool) : Nat → ReadM Unit
  | 0 => malformed
  | fuel + 1 => do
    match ← peekMark with
    | .directive (.version v) =>
      if versioned || v.major != 1 then malformed
      else do drop; readDirectives true fuel
    | .directive (.tag handle scope) =>
      if (← get).handles.any (·.1 == handle) then malformed
      else
        drop
        modify fun r => { r with handles := (handle, scope) :: r.handles }
        readDirectives versioned fuel
    | .directive .other => do drop; readDirectives versioned fuel
    | _ => return

/-- Passes further marks of the end of a document. -/
def dropDocumentEnds : Nat → ReadM Unit
  | 0 => malformed
  | fuel + 1 => do
    if (← peekMark) == .documentEnd then
      drop
      dropDocumentEnds fuel
    else return

/-- Reads the end of the only document. The mark of its end stands alone on its line. -/
def readEnd (fuel : Nat) : ReadM Unit := do
  let t ← peek
  if t.mark == .documentEnd then
    drop
    let after ← peek
    if after.mark != .streamEnd && after.line == t.line then malformed
    else if ← isOlder then dropDocumentEnds fuel
  expect .streamEnd

/-- Reads the root of the only document; none if there is no document. -/
def readRoot (maxLevels fuel : Nat) : ReadM (Option Node) := do
  match ← peekMark with
  | .streamEnd => return none
  | .directive _ | .documentStart =>
    readDirectives false fuel
    expect .documentStart
    let n ← match ← peekMark with
      | .directive _ | .documentStart | .documentEnd | .streamEnd => emptyNode maxLevels
      | _ => readNode true false fuel maxLevels
    readEnd fuel
    return some n
  | _ =>
    let n ← readNode true false fuel maxLevels
    readEnd fuel
    return some n

/-- Whether a character may stand in a document at all. -/
def isPrintable (c : Char) : Bool :=
  let n := c.toNat
  n == 0x09 || n == 0x0a || n == 0x0d || (0x20 ≤ n && n ≤ 0x7e) || n == 0x85 ||
    (0xa0 ≤ n && n ≤ 0xd7ff) || (0xe000 ≤ n && n ≤ 0xfffd) || 0x10000 ≤ n

/-- The tree of a document: its root, none if there is no document, and the version of its
language. -/
structure Tree where
  root : Option Node
  version : Version

/-- Reads a tree with at most `maxLevels` levels. -/
def Tree.read (maxLevels : Nat) (s : String) : Except Flaw Tree :=
  if !s.all isPrintable then .error .malformed
  else
    let layout := Layout.start s.toList
    match (readRoot maxLevels (10 * layout.size + 100)).run { layout } with
    | .ok (root, r) => .ok ⟨root, r.layout.version⟩
    | .error e => .error e

end MetricLayer.Yaml
