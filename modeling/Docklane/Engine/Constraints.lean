import Docklane.Engine.Docker
import Docklane.Text.Unicode

/-!
# Placement constraints

The part of `dockerengine/capacity.go` that reads the placement constraints of a service and
decides which nodes satisfy them. The capacity check, the placement check and the label plans all
go through it.
-/

namespace Docklane.Engine

open Unicode
open Control (Labels)

/-- The address functions of the `net` package. `parseIP` gives every address in its long form. -/
structure Net where
  parseIP : String → Option (List UInt8)
  /-- the addresses of a subnet -/
  parseCIDR : String → Option (List UInt8 → Bool)

inductive ConstraintOp where
  | equal
  | notEqual
  deriving DecidableEq, Repr

def ConstraintOp.text : ConstraintOp → Text
  | equal => "==".toList
  | notEqual => "!=".toList

structure ParsedConstraint where
  key : Text
  op : ConstraintOp
  value : Text
  deriving DecidableEq

/-- The loop over the two operators: the first one that is contained, and what is around it. -/
def splitConstraint (raw : Text) : Option (ConstraintOp × Text × Text) :=
  [ConstraintOp.equal, .notEqual].findSome? fun op => (cut op.text raw).map fun parts => (op, parts)

/-- What a comparison with an operator comes to. -/
def ConstraintOp.decide (op : ConstraintOp) (matched : Bool) : Bool :=
  match op with
  | equal => matched
  | notEqual => !matched

section

variable (U : Unicode) (net : Net)

def nodeLabelsKey : Text := "node.labels.".toList

def engineLabelsKey : Text := "engine.labels.".toList

def supportedConstraintKey (key : Text) : Bool :=
  let lower := U.toLower key
  lower = "node.id".toList || lower = "node.hostname".toList || lower = "node.ip".toList ||
    lower = "node.role".toList || lower = "node.platform.os".toList ||
    lower = "node.platform.arch".toList || nodeLabelsKey.isPrefixOf lower ||
    engineLabelsKey.isPrefixOf lower

def parseCapacityConstraint (raw : String) : Option ParsedConstraint :=
  (splitConstraint raw.toList).bind fun (op, left, right) =>
    let key := U.trimSpace left
    let value := U.trimSpace right
    if key = [] ∨ value = [] ∨ supportedConstraintKey U key = false then none
    else some ⟨key, op, value⟩

/-- The constraints that are understood, and the texts of the others. -/
def parseCapacityConstraints (placement : Option Placement) : List ParsedConstraint × List String :=
  match placement with
  | none => ([], [])
  | some placement =>
    (placement.constraints.filterMap (parseCapacityConstraint U),
      placement.constraints.filter fun raw => (parseCapacityConstraint U raw).isNone)

def matchIPConstraint (constraint : ParsedConstraint) (address : String) : Bool :=
  match net.parseIP address with
  | none => constraint.op = .notEqual
  | some nodeIP =>
    match net.parseIP (String.ofList constraint.value) with
    | some ip => constraint.op.decide (ip = nodeIP)
    | none =>
      match net.parseCIDR (String.ofList constraint.value) with
      | some subnet => constraint.op.decide (subnet nodeIP)
      | none => false

/-- `labels[key[n:]]`. The byte `n` is where the name of the label begins. -/
def labelOf (labels : Labels) (key : Text) (n : Nat) : String :=
  match splitBytes key n with
  | some (_, name) => lookup labels (String.ofList name)
  | none => ""

/-- The value of the node that a key stands for, if it stands for one. -/
def constraintValue (key : Text) (node : Node) : Option String :=
  let lower := U.toLower key
  if lower = "node.id".toList then some node.id
  else if lower = "node.hostname".toList then some node.description.hostname
  else if lower = "node.role".toList then some node.spec.role
  else if lower = "node.platform.os".toList then some node.description.platform.os
  else if lower = "node.platform.arch".toList then some node.description.platform.architecture
  else if nodeLabelsKey.isPrefixOf lower then
    some (labelOf node.spec.labels key nodeLabelsKey.length)
  else if engineLabelsKey.isPrefixOf lower then
    some (labelOf node.description.engineLabels key engineLabelsKey.length)
  else none

def constraintMatchesNode (constraint : ParsedConstraint) (node : Node) : Bool :=
  if U.toLower constraint.key = "node.ip".toList then matchIPConstraint net constraint node.addr
  else
    match constraintValue U constraint.key node with
    | none => false
    | some value => constraint.op.decide (U.equalFold value.toList constraint.value)

def matchesConstraints (node : Node) (constraints : List ParsedConstraint) : Bool :=
  constraints.all fun constraint => constraintMatchesNode U net constraint node

def normalizeArchitecture (value : String) : Text :=
  let lower := U.toLower value.toList
  if lower = "x86_64".toList then "amd64".toList
  else if lower = "aarch64".toList then "arm64".toList
  else lower

def matchesPlatforms (node : Node) (platforms : List Platform) : Bool :=
  platforms = [] || platforms.any fun platform =>
    let platformOS := U.toLower platform.os.toList
    let platformArch := normalizeArchitecture U platform.architecture
    (platformOS = [] || platformOS = U.toLower node.description.platform.os.toList) &&
      (platformArch = [] ||
        platformArch = normalizeArchitecture U node.description.platform.architecture)

/-- `placement.Platforms`, which is empty without a placement. -/
def platformsOf (placement : Option Placement) : List Platform :=
  placement.elim [] (·.platforms)

end

end Docklane.Engine
