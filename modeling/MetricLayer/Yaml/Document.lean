import Std.Data.HashSet
import MetricLayer.Yaml.Node
import MetricLayer.Yaml.ScalarValue

/-!
# Documents

The value of a document. The values of a collection come before those of the collections in it,
so of several flaws the one that is least deep counts, and of those the first.

A mapping has no key twice, unless it takes entries over from other mappings: its own entries
then replace those it took over.
-/
namespace MetricLayer.Yaml

/-- A flaw and how deep it is. -/
structure Placed where
  depth : Nat
  flaw : Flaw

/-- A value, or the flaw that counts. -/
abbrev Built := Except Placed

/-- Of two flaws the one that counts. -/
def foremost : Option Placed → Placed → Placed
  | some p, q => if q.depth < p.depth then q else p
  | none, q => q

/-- The entries of a mapping: those it takes over, and its own. -/
structure Merged where
  taken : List (Node × Node) := []
  own : List (Node × Node) := []

/-- All entries of a mapping. -/
def Merged.all (m : Merged) : List (Node × Node) := m.taken ++ m.own

/-- Whether a key asks for the entries of other mappings. -/
def Node.isMerge : Node → Bool
  | .scalar tag _ => tag == .merge
  | _ => false

/-- A key, where the sign of a default value counts as a text. -/
def Node.asKey : Node → Node
  | .scalar .default s => .scalar .text s
  | n => n

mutual

/-- Takes over the entries that a mapping asks for; it may ask once. -/
def mergeEntries (m : Merged) : List (Node × Node) → Except Flaw Merged
  | [] => .ok { m with own := m.own.reverse }
  | (k, v) :: rest =>
    if !k.isMerge then mergeEntries { m with own := (k.asKey, v) :: m.own } rest
    else if !m.taken.isEmpty then .error .malformed
    else
      match entriesOfMerge v with
      | .ok taken => mergeEntries { m with taken } rest
      | .error e => .error e

/-- The entries of a mapping, or of the mappings of a sequence, the last ones first. -/
def entriesOfMerge : Node → Except Flaw (List (Node × Node))
  | .mapping _ es => (mergeEntries {} es).map (·.all)
  | .sequence _ ns => entriesOfAll [] ns
  | _ => .error .malformed

/-- The entries of several mappings, the last ones first. -/
def entriesOfAll (acc : List (Node × Node)) : List Node → Except Flaw (List (Node × Node))
  | [] => .ok acc
  | .mapping _ es :: rest =>
    match mergeEntries {} es with
    | .ok m => entriesOfAll (m.all ++ acc) rest
    | .error e => .error e
  | _ :: _ => .error .malformed

end

mutual

/-- A text that is the same for keys that are alike. Lists, mappings and sets cannot be compared,
nor can a tuple with one of them in it. -/
def keyText : Value → Except Flaw String
  | .null => .ok "z"
  | .str s => .ok ("s" ++ s)
  | .bool b => .ok (if b then "i1" else "i0")
  | .int i => .ok ("i" ++ toString i)
  | .float x => .ok (match x.toInt? with | some i => "i" ++ toString i | none => "f" ++ x.text)
  | .date d => .ok ("d" ++ d.text)
  | .moment d t => .ok ("m" ++ momentText " " d t)
  | .bytes bs => .ok ("b" ++ String.join (bs.map fun b => hexText 2 b.toNat))
  | .tuple vs => (partTexts vs).map fun ts => "t" ++ String.join ts
  | .list _ | .map _ | .set _ => .error .illTyped

/-- The texts of the parts of a tuple, each with its length. -/
def partTexts : List Value → Except Flaw (List String)
  | [] => .ok []
  | v :: vs => do
    let t ← keyText v
    return (toString t.length ++ ":" ++ t) :: (← partTexts vs)

end

/-- A key as a mapping keeps it: a list becomes a tuple, a mapping or a set is no key. -/
def mappingKey : Value → Except Flaw Value
  | .list vs => .ok (.tuple vs)
  | .map _ | .set _ => .error .malformed
  | v => .ok v

/-- The items of a sequence as a pair of key and value. -/
def singleEntry : Node → Except Flaw (Node × Node)
  | .mapping _ [e] => .ok e
  | _ => .error .malformed

/-- What the entries of a mapping give: the entries, and the foremost flaw inside them. -/
structure Entries where
  found : List (Value × Value) := []
  seen : Std.HashSet String := {}
  flaw : Option Placed := none

/-- Adds an entry whose key is checked. A key that is there already is refused if keys have to
differ, and else its value is replaced. -/
def Entries.add (distinct : Bool) (es : Entries) (key : String) (k v : Value) :
    Except Flaw Entries :=
  if es.seen.contains key then
    if distinct then .error .malformed
    else .ok { es with found := (Value.put es.found.reverse k v).reverse }
  else .ok { es with found := (k, v) :: es.found, seen := es.seen.insert key }

/-- The entries, unless there is a flaw inside them. -/
def Entries.result (es : Entries) : Built (List (Value × Value)) :=
  match es.flaw with
  | some p => .error p
  | none => .ok es.found.reverse

/-- The value of a collection by its tag. -/
def ofEntriesTagged (tag : Tag) (depth : Nat) (es : List (Value × Value)) : Built Value :=
  match tag with
  | .mapping => .ok (.map es)
  | .set => .ok (.set (es.map (·.1)))
  | _ => .error ⟨depth, .malformed⟩

/-- Notes a flaw inside a collection; one at its own depth ends it. -/
def noteFlaw (depth : Nat) (flaw : Option Placed) (p : Placed) : Built (Option Placed) :=
  if p.depth ≤ depth then .error p else .ok (some (foremost flaw p))

/-- A part of a collection, null in place of one with a flaw inside it, which is noted. -/
def setAside (depth : Nat) (flaw : Option Placed) : Built Value → Built (Value × Option Placed)
  | .ok v => .ok (v, flaw)
  | .error p => (noteFlaw depth flaw p).map fun f => (.null, f)

/-- Adds a pair to a list of pairs. -/
def Entries.addPair (depth : Nat) (es : Entries) (k v : Built Value) : Built Entries := do
  let (k, flaw) ← setAside depth es.flaw k
  let (v, flaw) ← setAside depth flaw v
  return { es with found := (k, v) :: es.found, flaw }

/-- Adds an entry to an ordered mapping, where no key stands twice. A collection is no key,
whatever is in it. -/
def Entries.addOrdered (depth : Nat) (es : Entries) (k v : Built Value) : Built Entries := do
  let k ← k.mapError fun p => if depth < p.depth then ⟨depth, .illTyped⟩ else p
  let text ← (keyText k).mapError (⟨depth, ·⟩)
  if es.seen.contains text then throw ⟨depth, .repeatedKey⟩
  let (v, flaw) ← setAside depth es.flaw v
  return { found := (k, v) :: es.found, seen := es.seen.insert text, flaw }

/-- The value of a node at a given depth. The fuel bounds the nesting. -/
def Node.build (older : Bool) : Nat → Nat → Node → Built Value
  | 0, depth, _ => .error ⟨depth, .malformed⟩
  | fuel + 1, depth, n =>
    let part := Node.build older fuel
    match n with
    | .endless => .ok .null
    | .scalar tag s => (scalarValue older tag s).mapError (⟨depth, ·⟩)
    | .sequence tag ns =>
      let inner := depth + 1
      match tag with
      | .sequence => do
        let (vs, flaw) ← ns.foldlM (fun (vs, flaw) n => do
          let (v, flaw) ← setAside inner flaw (part inner n)
          return (v :: vs, flaw)) (([] : List Value), none)
        match flaw with
        | some p => throw p
        | none => return .list vs.reverse
      | .pairs => do
        let es ← ns.foldlM (fun es n => do
          let (k, v) ← (singleEntry n).mapError (⟨inner, ·⟩)
          es.addPair inner (part inner k) (part inner v)) ({} : Entries)
        return .list ((← es.result).map fun e => .tuple [e.1, e.2])
      | .orderedMapping => do
        let es ← ns.foldlM (fun es n => do
          let (k, v) ← (singleEntry n).mapError (⟨inner, ·⟩)
          es.addOrdered inner (part inner k) (part inner v)) ({} : Entries)
        return .map (← es.result)
      | _ => .error ⟨depth, .malformed⟩
    | .mapping tag ns => do
      let inner := depth + 1
      if tag != .mapping && tag != .set then throw ⟨depth, .malformed⟩
      let m ← (mergeEntries {} ns).mapError (⟨inner, ·⟩)
      let es ← m.all.foldlM (fun es (k, v) => do
        let key ← match part inner k with
          | .ok key => (mappingKey key).mapError (⟨inner, ·⟩)
          | .error p => throw ⟨inner, p.flaw⟩
        let (v, flaw) ← setAside inner es.flaw (part inner v)
        let text ← (keyText key).mapError (⟨inner, ·⟩)
        let es ← (es.add m.taken.isEmpty text key v).mapError (⟨inner, ·⟩)
        return { es with flaw }) ({} : Entries)
      ofEntriesTagged tag depth (← es.result)

mutual

/-- Whether an alias makes the tree endless. -/
def Node.isEndless : Node → Bool
  | .endless => true
  | .scalar .. => false
  | .sequence _ ns => anyEndless ns
  | .mapping _ es => anyEntryEndless es

def anyEndless : List Node → Bool
  | [] => false
  | n :: ns => n.isEndless || anyEndless ns

def anyEntryEndless : List (Node × Node) → Bool
  | [] => false
  | (k, v) :: rest => k.isEndless || v.isEndless || anyEntryEndless rest

end

/-- The value of a document, null if there is none, and whether it goes on forever inside
itself. -/
structure Document where
  value : Value := .null
  endless : Bool := false

/-- Reads a document with at most `maxLevels` levels. -/
def Document.read (maxLevels : Nat) (s : String) : Except Flaw Document := do
  let t ← Tree.read maxLevels s
  match t.root with
  | none => return {}
  | some n =>
    let value ← (n.build t.version.isOlder (s.length + 1) 0).mapError (·.flaw)
    return { value, endless := n.isEndless }

end MetricLayer.Yaml
