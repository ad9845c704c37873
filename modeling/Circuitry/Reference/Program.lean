import Circuitry.NameMap
import Circuitry.Number.Layout
import Circuitry.Numbered
import Circuitry.Reference.Semiring
import Circuitry.Text.Quoted

/-!
Programs: what the reference backend compiles circuits to.

A program lists layers in the order of evaluation.  A layer refers to its inputs by their position
in the list, and so does a parameter node within its graph.
-/

namespace Circuitry.Reference

/-- How a tensor is filled. -/
inductive Initializer
  | constant (value : Binary64)
  | normal (mean deviation : Binary64)
  | uniform (low high : Binary64)
  deriving DecidableEq, Repr

/-- What a parameter node computes. -/
inductive ParameterOp
  | tensor (shape : List UInt64) (learnable : Bool)
  | constant (shape : List UInt64) (value : Binary64)
  | softmax (axis : UInt64)
  | exp
  deriving DecidableEq, Repr

/-- What a layer computes. -/
inductive LayerOp
  | categorical (scope : List UInt64) (outputUnits categories : UInt64)
  | gaussian (scope : List UInt64) (outputUnits : UInt64)
  | sum (inputUnits outputUnits arity : UInt64)
  | hadamard (units arity : UInt64)
  | kronecker (inputUnits outputUnits arity : UInt64)
  deriving DecidableEq, Repr

namespace LayerOp

/-- The name of an operation. -/
def name : LayerOp → String
  | categorical _ _ _ => "categorical"
  | gaussian _ _ => "gaussian"
  | sum _ _ _ => "sum"
  | hadamard _ _ => "hadamard"
  | kronecker _ _ _ => "kronecker"

/-- Whether a layer reads variables and not other layers. -/
def isInput : LayerOp → Bool
  | categorical _ _ _ => true
  | gaussian _ _ => true
  | _ => false

end LayerOp

/-- A node of a compiled parameter graph. -/
structure ParameterNode where
  op : ParameterOp
  inputs : List Nat
  initializer : Option Initializer
  deriving DecidableEq, Repr

/-- A compiled parameter graph. -/
structure Parameter where
  nodes : List ParameterNode
  output : Nat
  deriving DecidableEq, Repr

/-- A compiled layer. -/
structure Layer where
  op : LayerOp
  inputs : List Nat
  parameters : NameMap Parameter
  deriving DecidableEq

/-- A compiled circuit. -/
structure Program where
  name : Option String
  semiring : Semiring
  layers : List Layer
  outputs : List Nat
  deriving DecidableEq

/-! ## Equality of content

Floating-point numbers are compared as numbers, so a program with a value that is no number does
not agree even with itself. -/

/-- Whether two lists have the same length and agree item by item. -/
def listAgrees {α : Type} (same : α → α → Bool) (left right : List α) : Bool :=
  left.length == right.length && (left.zip right).all fun pair => same pair.1 pair.2

/-- Whether two initializers fill alike. -/
def Initializer.agrees : Initializer → Initializer → Bool
  | constant left, constant right => left.equal right
  | normal leftMean leftDeviation, normal rightMean rightDeviation =>
    leftMean.equal rightMean && leftDeviation.equal rightDeviation
  | uniform leftLow leftHigh, uniform rightLow rightHigh =>
    leftLow.equal rightLow && leftHigh.equal rightHigh
  | _, _ => false

/-- Whether two parameter operations compute alike. -/
def ParameterOp.agrees : ParameterOp → ParameterOp → Bool
  | constant leftShape leftValue, constant rightShape rightValue =>
    leftShape == rightShape && leftValue.equal rightValue
  | left, right => left == right

/-- Whether two parameter nodes have the same content. -/
def ParameterNode.agrees (left right : ParameterNode) : Bool :=
  left.op.agrees right.op && left.inputs == right.inputs &&
    match left.initializer, right.initializer with
    | none, none => true
    | some leftInitializer, some rightInitializer => leftInitializer.agrees rightInitializer
    | _, _ => false

/-- Whether two parameter graphs have the same content. -/
def Parameter.agrees (left right : Parameter) : Bool :=
  listAgrees ParameterNode.agrees left.nodes right.nodes && left.output == right.output

/-- Whether two layers have the same content. -/
def Layer.agrees (left right : Layer) : Bool :=
  left.op == right.op && left.inputs == right.inputs &&
    NameMap.agrees Parameter.agrees left.parameters right.parameters

/-- Whether two programs have the same content. -/
def Program.agrees (left right : Program) : Bool :=
  left.name == right.name && left.semiring == right.semiring &&
    listAgrees Layer.agrees left.layers right.layers && left.outputs == right.outputs

/-! ## Handles -/

/-- A program with its number. -/
abbrev Handle := Numbered Program

def Handle.outline (handle : Handle) : String :=
  Text.record "RefCircuit"
    [("id", toString handle.number),
     ("name", Text.optional (handle.content.name.map Text.quoted)),
     ("layers", toString handle.content.layers.length)]

end Circuitry.Reference
