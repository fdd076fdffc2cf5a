import TestImpact.Yaml.Node

/-!
# Making values of nodes

Values are made level by level: a scalar at once, and a list or mapping after all that stand beside
it. Before a mapping is filled its merge signs are carried out: the entries that they bring in are
put in front of its own, and the mappings that they name change with it. A node may have no value: a
scalar that its kind does not allow, a mapping with a key that is no scalar, a tag that is unknown.
The first defect in the order of making is reported, as by the safe constructor of `PyYAML`, version
6.0 or later.
-/

namespace TestImpact.Yaml

namespace Node

def kind : Node → Kind
  | scalar k _ | list k _ | map k _ => k

def withKind (k : Kind) : Node → Node
  | scalar _ text => scalar k text
  | list _ items => list k items
  | map _ entries => map k entries

def entries : Node → List (Nat × Nat)
  | map _ es => es
  | _ => []

/-- How many nodes are named in a node. -/
def size : Node → Nat
  | scalar .. => 0
  | list _ items => items.length
  | map _ es => es.length

end Node

/-- What has been made of a node; the nodes in it are given by their places. -/
inductive Made where
  | leaf (value : Data)
  /-- A list, set or mapping that is still to be filled. -/
  | waiting
  | list (items : List Nat)
  | pairs (entries : List (Nat × Nat))
  | set (members : List Data)
  | map (entries : List (Data × Nat))
  deriving Inhabited

/-- Values of a document that are being made. The queue holds the places that are to be filled, the
last one first. -/
structure Building where
  digitLimit : Number.DigitLimit
  nodes : Array Node
  made : Array (Option Made)
  queue : List Nat
  deriving Inhabited

namespace Building

def node (b : Building) (place : Nat) : Node := b.nodes.getD place default

def kindAt (b : Building) (place : Nat) : Kind := (b.node place).kind

def setNode (b : Building) (place : Nat) (node : Node) : Building :=
  { b with nodes := b.nodes.setIfInBounds place node }

def setMade (b : Building) (place : Nat) (made : Made) : Building :=
  { b with made := b.made.setIfInBounds place (some made) }

/-! ### Merging -/

/-- Signs of default values among keys are texts. -/
def settleKeys (b : Building) (entries : List (Nat × Nat)) : Building :=
  entries.foldl (fun b (key, _) =>
    if b.kindAt key = .default then b.setNode key ((b.node key).withKind .text) else b) b

/-- Ends the merging of a mapping: what was brought in is put in front. -/
def endMerge (b : Building) (place : Nat) (brought : List (Nat × Nat)) : Building :=
  let node := b.node place
  let b := b.settleKeys node.entries
  if brought.isEmpty then b else b.setNode place (.map node.kind (brought ++ node.entries))

/-- Carries out the merge signs of a mapping from an entry on, after others that brought in entries.
Each sign is dropped before what it names is merged, so the signs in the document bound the steps.
Of several mappings under one sign the first one counts most. -/
def mergeFrom : Nat → Nat → Nat → List (Nat × Nat) → Building → Except Defect Building
  | 0, _, _, _, _ => .error .malformed
  | n + 1, place, index, brought, b =>
    let node := b.node place
    match (node.entries.drop index).findIdx? fun (key, _) => b.kindAt key = .merge with
    | none => .ok (b.endMerge place brought)
    | some step =>
      let index := index + step
      let source := ((node.entries[index]?).map (·.2)).getD 0
      let b := b.setNode place (.map node.kind (node.entries.eraseIdx index))
      match b.node source with
      | .map .. => do
        let b ← mergeFrom n source 0 [] b
        mergeFrom n place index (brought ++ (b.node source).entries) b
      | .list _ items => do
        let add (done : Building × List (List (Nat × Nat))) (item : Nat) :
            Except Defect (Building × List (List (Nat × Nat))) :=
          match done.1.node item with
          | .map .. => do
            let b ← mergeFrom n item 0 [] done.1
            return (b, (b.node item).entries :: done.2)
          | _ => .error .malformed
        let (b, all) ← items.foldlM add (b, [])
        mergeFrom n place index (brought ++ all.flatten) b
      | .scalar .. => .error .malformed

/-- A mapping with its merge signs carried out. -/
def merge (b : Building) (place : Nat) : Except Defect Building :=
  mergeFrom (b.nodes.foldl (fun n node => n + node.size) 2) place 0 [] b

/-! ### Making -/

/-- Whether a value of this kind is filled after the values beside it are made. -/
def isFilledLater : Kind → Bool
  | .list | .map | .set | .orderedMap | .pairs => true
  | _ => false

/-- The text of a node that should be a scalar. A mapping has the text of its default value, which
may be the mapping itself. -/
def scalarText (b : Building) : Nat → Nat → Except Defect String
  | 0, _ => .error (.fault .tooDeep)
  | n + 1, place =>
    match b.node place with
    | .scalar _ text => .ok text
    | .map _ entries =>
      match entries.find? fun (key, _) => b.kindAt key = .default with
      | some (_, value) => scalarText b n value
      | none => .error .malformed
    | .list .. => .error .malformed

/-- The value of a node of a kind that scalars have. -/
def scalarValue (b : Building) (place : Nat) : Except Defect Data := do
  let node := b.node place
  let text ← b.scalarText (b.nodes.size + 1) place
  match node.kind, node with
  | .time, .map .. =>
    .error (.fault (.badType "expected string or bytes-like object, got 'list'"))
  | kind, _ => Scalar.value b.digitLimit kind text.toList

/-- Makes the value of a node, unless it was made before. -/
def make (b : Building) (place : Nat) : Except Defect Building :=
  if (b.made.getD place none).isSome then .ok b
  else if isFilledLater (b.kindAt place) then
    .ok { b.setMade place .waiting with queue := place :: b.queue }
  else (b.scalarValue place).map fun value => b.setMade place (.leaf value)

/-- Makes a key, which has to be a scalar. -/
def makeKey (b : Building) (place : Nat) : Except Defect (Building × Data) := do
  let b ← b.make place
  match b.made.getD place none with
  | some (.leaf key) => .ok (b, key)
  | _ => .error .malformed

/-- Sets an entry. A key that is there keeps its place and its form. -/
def putEntry (key : Data) (value : Nat) : List (Data × Nat) → List (Data × Nat)
  | [] => [(key, value)]
  | (k, v) :: entries =>
    if k.same key then (k, value) :: entries else (k, v) :: putEntry key value entries

/-- Makes the entries of a mapping in order, each key before its value. -/
def makeEntries (b : Building) (place : Nat) : Except Defect (Building × List (Data × Nat)) := do
  let b ← b.merge place
  let add (done : Building × List (Data × Nat)) (entry : Nat × Nat) :
      Except Defect (Building × List (Data × Nat)) := do
    let (b, key) ← done.1.makeKey entry.1
    let b ← b.make entry.2
    return (b, putEntry key entry.2 done.2)
  (b.node place).entries.foldlM add (b, [])

/-- Makes a list of mappings with one entry each. -/
def makePairs (b : Building) (items : List Nat) : Except Defect (Building × List (Nat × Nat)) := do
  let add (done : Building × List (Nat × Nat)) (item : Nat) :
      Except Defect (Building × List (Nat × Nat)) :=
    match done.1.node item with
    | .map _ [(key, value)] => do
      let b ← done.1.make key
      let b ← b.make value
      return (b, (key, value) :: done.2)
    | _ => .error .malformed
  let (b, entries) ← items.foldlM add (b, [])
  return (b, entries.reverse)

/-- Fills a list, set or mapping. -/
def fill (b : Building) (place : Nat) : Except Defect Building :=
  match b.kindAt place, b.node place with
  | .list, .list _ items => do
    let b ← items.foldlM make b
    return b.setMade place (.list items)
  | .orderedMap, .list _ items | .pairs, .list _ items => do
    let (b, entries) ← b.makePairs items
    return b.setMade place (.pairs entries)
  | .map, .map .. => do
    let (b, entries) ← b.makeEntries place
    return b.setMade place (.map entries)
  | .set, .map .. => do
    let (b, entries) ← b.makeEntries place
    return b.setMade place (.set (entries.map (·.1)))
  | _, _ => .error .malformed

/-- Fills what is in the queue, and then what was put there meanwhile; the first argument bounds the
levels. -/
def fillAll : Nat → Building → Except Defect Building
  | 0, b => .ok b
  | n + 1, b =>
    if b.queue.isEmpty then .ok b
    else do
      let b ← b.queue.reverse.foldlM fill { b with queue := [] }
      fillAll n b

end Building

/-- Makes the values of all nodes that a document shows. -/
def Document.build (limit : Number.DigitLimit) (d : Document) : Except Defect Building := do
  let start : Building := ⟨limit, d.nodes, Array.replicate d.nodes.size none, []⟩
  let b ← start.make d.root
  b.fillAll (d.nodes.size + 1)

end TestImpact.Yaml
