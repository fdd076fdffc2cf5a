import TestImpact.Yaml.Scalar
import TestImpact.Yaml.Token.Basic

/-!
# Nodes of a YAML document

A document is a graph of nodes: scalars, lists and mappings, each with its kind. Lists and mappings
name the nodes in them by their places in the document, so an alias is the place of the node of its
anchor, and a node may hold itself. `Document.ofTokens?` reads the tokens of a text that holds at
most one document, with the grammar of `PyYAML`, version 6.0 or later.
-/

namespace TestImpact.Yaml

/-- A node; the nodes in it are given by their places. -/
inductive Node where
  | scalar (kind : Kind) (text : String)
  | list (kind : Kind) (items : List Nat)
  | map (kind : Kind) (entries : List (Nat × Nat))
  deriving Inhabited

/-- Nodes with the place of the outermost one. -/
structure Document where
  nodes : Array Node
  root : Nat
  deriving Inhabited

namespace Node

/-- What tags start with that name the kinds of values. -/
def kindLead : String := "tag:yaml.org,2002:"

/-- The kinds that a tag may name. -/
def tagKinds : List (String × Kind) :=
  [("null", .null), ("bool", .bool), ("int", .int), ("float", .float), ("str", .text),
   ("binary", .bytes), ("timestamp", .time), ("seq", .list), ("map", .map), ("set", .set),
   ("omap", .orderedMap), ("pairs", .pairs), ("merge", .merge), ("value", .default)]

/-- The kind that a tag names. -/
def kindOfTag (tag : String) : Kind :=
  match Text.dropLead? kindLead.toList tag.toList with
  | some name => (tagKinds.lookup (String.ofList name)).getD .unknown
  | none => .unknown

/-- Whether a tag leaves the kind to what the node looks like. -/
def leavesKind (tag : Option String) : Bool := tag.all (· = "!")

/-- A node without text. -/
def absent : Node := .scalar .null ""

def ofScalar (tag : Option String) (text : String) (plain : Bool) : Node :=
  match tag with
  | some "!" => .scalar (Scalar.kindOf text.toList) text
  | some tag => .scalar (kindOfTag tag) text
  | none => .scalar (if plain then Scalar.kindOf text.toList else .text) text

/-- The kind of a list or mapping. -/
def collectionKind (tag : Option String) (own : Kind) : Kind :=
  if leavesKind tag then own else (tag.map kindOfTag).getD own

end Node

namespace Document

open Node

/-! ### Reading -/

/-- What is read next, the nodes that were met, and the places of the nodes that have anchors. -/
structure Reading where
  tokens : List Token
  nodes : Array Node
  anchors : List (String × Nat)
  deriving Inhabited

def Reading.start (tokens : List Token) : Reading := ⟨tokens, #[], []⟩

/-- The place of a node with the state after it. -/
abbrev Step := Except Defect (Nat × Reading)

/-- Adds a node. -/
def add (node : Node) (s : Reading) : Nat × Reading :=
  (s.nodes.size, { s with nodes := s.nodes.push node })

/-- Adds a node that has an anchor or none; the name of an anchor has to be new. -/
def addAt (anchor : Option String) (node : Node) (s : Reading) : Step :=
  let (place, s) := add node s
  match anchor with
  | none => .ok (place, s)
  | some name =>
    if s.anchors.any (·.1 = name) then .error .malformed
    else .ok (place, { s with anchors := (name, place) :: s.anchors })

/-- Puts another node in a place. -/
def fill (place : Nat) (node : Node) (s : Reading) : Nat × Reading :=
  (place, { s with nodes := s.nodes.setIfInBounds place node })

/-- The handles of tags, with what they stand for. -/
abbrev Handles := List (String × String)

def standardHandles : Handles := [("!", "!"), ("!!", kindLead)]

/-- The anchor and the tag in front of a node, in either order. -/
def properties : List Token → Option String × Option (Option String × String) × List Token
  | .anchor a :: .tag h s :: r => (some a, some (h, s), r)
  | .anchor a :: r => (some a, none, r)
  | .tag h s :: .anchor a :: r => (some a, some (h, s), r)
  | .tag h s :: r => (none, some (h, s), r)
  | r => (none, none, r)

/-- The tag that a handle and a text write. -/
def tagText (handles : Handles) : Option (Option String × String) → Except Defect (Option String)
  | none => .ok none
  | some (none, rest) => .ok (some rest)
  | some (some handle, rest) =>
    match handles.lookup handle with
    | some lead => .ok (some (lead ++ rest))
    | none => .error .malformed

/-- Where a node stands, which decides how it may start. -/
inductive Place where
  | flow
  | block
  /-- After a key or its colon: entries of a list need not be further in. -/
  | field
  deriving DecidableEq, Repr

/-- Whether a token ends the entry of a list that stands at the indentation of its mapping. -/
def endsField : Token → Bool
  | .key | .value | .blockEnd => true
  | _ => false

def endsItem : Token → Bool
  | .blockEntry | .blockEnd => true
  | _ => false

def endsInlineItem (t : Token) : Bool := endsField t || t = .blockEntry

mutual

/-- Reads one node. The first argument bounds the steps that are left. -/
def readNode (handles : Handles) : Nat → Place → Reading → Step
  | 0, _, _ => .error .malformed
  | n + 1, place, s =>
    match s.tokens with
    | .alias name :: r =>
      match s.anchors.lookup name with
      | some node => .ok (node, { s with tokens := r })
      | none => .error .malformed
    | start => do
      let (anchor, tag, rest) := properties start
      let tag ← tagText handles tag
      let s := { s with tokens := rest }
      let listKind := collectionKind tag .list
      let mapKind := collectionKind tag .map
      match rest with
      | .blockEntry :: _ =>
        if place = .field then do
          let (id, s) ← addAt anchor (.list listKind []) s
          let (items, s) ← readInline handles n [] s
          .ok (fill id (.list listKind items) s)
        else emptyNode anchor tag s
      | .scalar text plain :: r => addAt anchor (ofScalar tag text plain) { s with tokens := r }
      | .flowListStart :: r => do
        let (id, s) ← addAt anchor (.list listKind []) { s with tokens := r }
        let (items, s) ← readFlowList handles n [] true s
        .ok (fill id (.list listKind items) s)
      | .flowMapStart :: r => do
        let (id, s) ← addAt anchor (.map mapKind []) { s with tokens := r }
        let (entries, s) ← readFlowMap handles n [] true s
        .ok (fill id (.map mapKind entries) s)
      | .blockListStart :: r =>
        if place = .flow then emptyNode anchor tag s
        else do
          let (id, s) ← addAt anchor (.list listKind []) { s with tokens := r }
          let (items, s) ← readBlockList handles n [] s
          .ok (fill id (.list listKind items) s)
      | .blockMapStart :: r =>
        if place = .flow then emptyNode anchor tag s
        else do
          let (id, s) ← addAt anchor (.map mapKind []) { s with tokens := r }
          let (entries, s) ← readBlockMap handles n [] s
          .ok (fill id (.map mapKind entries) s)
      | _ => emptyNode anchor tag s

/-- A node that has an anchor or a tag may be empty. -/
def emptyNode (anchor tag : Option String) (s : Reading) : Step :=
  if anchor.isSome || tag.isSome then addAt anchor (ofScalar tag "" true) s
  else .error .malformed

/-- Reads a node unless the next token ends its place. -/
def readUnless (handles : Handles) :
    Nat → (Token → Bool) → Place → Reading → Step
  | 0, _, _, _ => .error .malformed
  | n + 1, ends, place, s =>
    match s.tokens with
    | t :: _ => if ends t then .ok (add absent s) else readNode handles n place s
    | [] => .error .malformed

/-- Reads the entries of a list up to the end of its block. -/
def readBlockList (handles : Handles) :
    Nat → List Nat → Reading → Except Defect (List Nat × Reading)
  | 0, _, _ => .error .malformed
  | n + 1, done, s =>
    match s.tokens with
    | .blockEntry :: r =>
      match readUnless handles n endsItem .block { s with tokens := r } with
      | .ok (item, s) => readBlockList handles n (item :: done) s
      | .error e => .error e
    | .blockEnd :: r => .ok (done.reverse, { s with tokens := r })
    | _ => .error .malformed

/-- Reads the entries of a list that has no block of its own. -/
def readInline (handles : Handles) :
    Nat → List Nat → Reading → Except Defect (List Nat × Reading)
  | 0, _, _ => .error .malformed
  | n + 1, done, s =>
    match s.tokens with
    | .blockEntry :: r =>
      match readUnless handles n endsInlineItem .block { s with tokens := r } with
      | .ok (item, s) => readInline handles n (item :: done) s
      | .error e => .error e
    | _ => .ok (done.reverse, s)

/-- Reads what follows a sign, or nothing if the sign is not there. -/
def readAfter (handles : Handles) :
    Nat → Token → (Token → Bool) → Place → Reading → Step
  | 0, _, _, _, _ => .error .malformed
  | n + 1, sign, ends, place, s =>
    match s.tokens with
    | t :: r =>
      if t = sign then readUnless handles n ends place { s with tokens := r }
      else .ok (add absent s)
    | [] => .error .malformed

/-- Reads the entries of a mapping up to the end of its block. -/
def readBlockMap (handles : Handles) :
    Nat → List (Nat × Nat) → Reading → Except Defect (List (Nat × Nat) × Reading)
  | 0, _, _ => .error .malformed
  | n + 1, done, s =>
    match s.tokens with
    | .key :: r =>
      match readUnless handles n endsField .field { s with tokens := r } with
      | .error e => .error e
      | .ok (key, s) =>
        match readAfter handles n .value endsField .field s with
        | .error e => .error e
        | .ok (value, s) => readBlockMap handles n ((key, value) :: done) s
    | .blockEnd :: r => .ok (done.reverse, { s with tokens := r })
    | _ => .error .malformed

/-- Reads the items of a list in brackets. A key in a list makes a mapping of one entry. -/
def readFlowList (handles : Handles) :
    Nat → List Nat → Bool → Reading → Except Defect (List Nat × Reading)
  | 0, _, _, _ => .error .malformed
  | n + 1, done, first, s =>
    match s.tokens with
    | .flowListEnd :: r => .ok (done.reverse, { s with tokens := r })
    | tokens =>
      match (if first then some tokens else afterComma tokens) with
      | none => .error .malformed
      | some (.flowListEnd :: r) => .ok (done.reverse, { s with tokens := r })
      | some (.key :: r) =>
        let ends (t : Token) : Bool := t = .flowEntry || t = .flowListEnd
        match readUnless handles n (fun t => t = .value || ends t) .flow { s with tokens := r } with
        | .error e => .error e
        | .ok (key, s) =>
          match readAfter handles n .value ends .flow s with
          | .error e => .error e
          | .ok (value, s) =>
            let (item, s) := add (.map .map [(key, value)]) s
            readFlowList handles n (item :: done) false s
      | some tokens =>
        match readNode handles n .flow { s with tokens } with
        | .error e => .error e
        | .ok (item, s) => readFlowList handles n (item :: done) false s

/-- What stands after a comma. -/
def afterComma : List Token → Option (List Token)
  | .flowEntry :: r => some r
  | _ => none

/-- Reads the entries of a mapping in braces. An entry without a colon has an empty value. -/
def readFlowMap (handles : Handles) :
    Nat → List (Nat × Nat) → Bool → Reading → Except Defect (List (Nat × Nat) × Reading)
  | 0, _, _, _ => .error .malformed
  | n + 1, done, first, s =>
    match s.tokens with
    | .flowMapEnd :: r => .ok (done.reverse, { s with tokens := r })
    | tokens =>
      let ends (t : Token) : Bool := t = .flowEntry || t = .flowMapEnd
      match (if first then some tokens else afterComma tokens) with
      | none => .error .malformed
      | some (.flowMapEnd :: r) => .ok (done.reverse, { s with tokens := r })
      | some (.key :: r) =>
        match readUnless handles n (fun t => t = .value || ends t) .flow { s with tokens := r } with
        | .error e => .error e
        | .ok (key, s) =>
          match readAfter handles n .value ends .flow s with
          | .error e => .error e
          | .ok (value, s) => readFlowMap handles n ((key, value) :: done) false s
      | some tokens =>
        match readNode handles n .flow { s with tokens } with
        | .error e => .error e
        | .ok (key, s) =>
          let (value, s) := add absent s
          readFlowMap handles n ((key, value) :: done) false s

end

/-- The directives in front of a document: the handles that they set, and the tokens after them. A
version is given at most once and a handle is set at most once. -/
def readDirectives (version : Bool) (handles : Handles) :
    List Token → Except Defect (Handles × List Token)
  | .directive (.version major _) :: r =>
    if version || major ≠ 1 then .error .malformed else readDirectives true handles r
  | .directive (.tagHandle handle lead) :: r =>
    if handles.any (·.1 = handle) then .error .malformed
    else readDirectives version ((handle, lead) :: handles) r
  | .directive .other :: r => readDirectives version handles r
  | r => .ok (handles, r)

/-- Whether a token ends a document that has no node. -/
def endsDocument : Token → Bool
  | .directive _ | .documentStart | .documentEnd | .streamEnd => true
  | _ => false

/-- Nothing may follow the document but marks of its end. -/
def atEnd (tokens : List Token) : Bool :=
  match tokens.dropWhile (· = .documentEnd) with
  | [.streamEnd] => true
  | _ => false

/-- A document that has been read to its end, if nothing follows it. -/
def finish (root : Nat) (s : Reading) : Except Defect (Option Document) :=
  if atEnd s.tokens then .ok (some ⟨s.nodes, root⟩) else .error .malformed

/-- Reads a document with a start mark. -/
def readMarked (tokens : List Token) : Except Defect (Option Document) := do
  let (handles, rest) ← readDirectives false [] tokens
  match rest with
  | .documentStart :: r =>
    let size := 2 * r.length + 2
    let (root, s) ← readUnless (handles ++ standardHandles) size endsDocument .block (.start r)
    finish root s
  | _ => .error .malformed

/-- The only document of a text, if there is one. -/
def ofTokens? (tokens : List Token) : Except Defect (Option Document) :=
  match tokens with
  | [.streamEnd] => .ok none
  | .directive _ :: _ | .documentStart :: _ => readMarked tokens
  | _ => do
    let size := 2 * tokens.length + 2
    let (root, s) ← readNode standardHandles size .block (.start tokens)
    finish root s

end Document

end TestImpact.Yaml
