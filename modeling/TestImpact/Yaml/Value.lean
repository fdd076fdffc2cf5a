import TestImpact.Data.Knot
import TestImpact.Yaml.Building
import TestImpact.Yaml.Token.Lexer

/-!
# Values of YAML documents

The value of a document, as the safe loader of `PyYAML` (version 6.0 or later) makes it. Nodes that
do not lead back to themselves get their values from the inside out, each once; the others are
followed until one is met again.
-/

namespace TestImpact.Yaml

namespace Made

/-- The places that a value shows. -/
def parts : Made → List Nat
  | leaf _ | waiting | set _ => []
  | list items => items
  | pairs entries => entries.flatMap fun (key, value) => [key, value]
  | map entries => entries.map (·.2)

def isMap : Made → Bool
  | map _ => true
  | _ => false

/-- The value, given those of its parts. -/
def toData (part : Nat → Data) : Made → Data
  | leaf value => value
  | waiting => .null
  | list items => .list (items.map part)
  | pairs entries => .list (entries.map fun (key, value) => .tuple [part key, part value])
  | set members => .set members
  | map entries => .map (entries.map fun (key, value) => (key, part value))

end Made

namespace Building

def madeAt (b : Building) (place : Nat) : Made := (b.made.getD place none).getD .waiting

/-- Gives a node its value if all its parts have theirs. -/
def settle (b : Building) (done : Array (Option Data)) (place : Nat) : Array (Option Data) :=
  let made := b.madeAt place
  let part (p : Nat) : Option Data := done.getD p none
  if (part place).isSome || !made.parts.all fun p => (part p).isSome then done
  else done.setIfInBounds place (some (made.toData fun p => (part p).getD .null))

/-- The values of all nodes that do not lead back to themselves. The inner nodes come last, so one
pass settles all but what stands behind an alias; the first argument bounds the passes. -/
def settleAll (b : Building) : Nat → Array (Option Data) → Array (Option Data)
  | 0, done => done
  | n + 1, done =>
    let next := (List.range b.nodes.size).reverse.foldl b.settle done
    if next.countP (·.isSome) = done.countP (·.isSome) then done else settleAll b n next

/-- The places that can be reached from some others in a number of steps. -/
def reached (b : Building) : Nat → List Nat → List Nat → List Nat
  | 0, _, seen => seen
  | n + 1, front, seen =>
    let next := (front.flatMap fun p => (b.madeAt p).parts).eraseDups.filter (!seen.contains ·)
    if next.isEmpty then seen else reached b n next (seen ++ next)

/-- Whether a node leads back to itself. -/
def isCircular (b : Building) (place : Nat) : Bool :=
  (b.reached b.nodes.size [place] []).contains place

/-- The value of a node inside others, which are only named when they are met again. The first
argument bounds the depth. -/
def view (b : Building) (settled : Array (Option Data)) : Nat → List Nat → Nat → Data
  | 0, _, _ => .null
  | n + 1, around, place =>
    let made := b.madeAt place
    match settled.getD place none with
    | some value => value
    | none =>
      if around.contains place then .again place made.isMap
      else
        let value := made.toData (view b settled n (place :: around))
        if b.isCircular place then .knot place value else value

end Building

/-- The value of a document. -/
def Document.value (limit : Number.DigitLimit) (d : Document) : Except Defect Data := do
  let b ← d.build limit
  let size := b.nodes.size
  let settled := b.settleAll (size + 1) (Array.replicate size none)
  return b.view settled (size + 2) [] d.root

/-- How deep lists and mappings may stand in each other. -/
def maxNesting : Nat := 485

/-- How deep the lists and mappings of a text stand in each other. -/
def nesting (tokens : List Token) : Nat :=
  let step (now : Nat × Nat) (t : Token) : Nat × Nat :=
    match t with
    | .flowListStart | .flowMapStart | .blockListStart | .blockMapStart =>
      (now.1 + 1, max now.2 (now.1 + 1))
    | .flowListEnd | .flowMapEnd | .blockEnd => (now.1 - 1, now.2)
    | _ => now
  (tokens.foldl step (0, 0)).2

/-- The value that a YAML text writes; a text without a document is null. -/
def load (limit : Number.DigitLimit) (s : String) : Except Defect Data := do
  let tokens ← tokens limit s.toList
  if maxNesting < nesting tokens then .error (.fault .tooDeep)
  else
    match ← Document.ofTokens? tokens with
    | none => .ok .null
    | some d => d.value limit

end TestImpact.Yaml
