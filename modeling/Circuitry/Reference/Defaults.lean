import Circuitry.Catalogue.Kind
import Circuitry.Reference.Assembly

/-!
The default rules of the reference backend, one for each standard kind.

A rule checks what its node carries and copies it into the program.  A rule fails only for the
faults listed here.
-/

namespace Circuitry.Reference

/-- What a default rule can find wrong with a node. -/
inductive Fault
  | noCategories
  | unitsOverflow (inputUnits arity : UInt64)
  | axisOutOfRange (axis : UInt64) (shape : List UInt64)
  | deviationNotPositive (deviation : Binary64)
  | emptyRange (low high : Binary64)
  deriving DecidableEq, Repr

def Fault.message : Fault → String
  | .noCategories => "categorical layer needs at least one category"
  | .unitsOverflow inputUnits arity =>
    "kronecker layer output size " ++ Text.word inputUnits ++ "^" ++ Text.word arity
      ++ " overflows"
  | .axisOutOfRange axis shape =>
    "softmax axis " ++ Text.word axis ++ " out of range for shape " ++ Text.words shape
  | .deviationNotPositive deviation =>
    "normal initializer needs a positive stddev, got " ++ Layout.plain.write deviation
  | .emptyRange low high =>
    "uniform initializer needs a < b, got [" ++ Layout.plain.write low ++ ", "
      ++ Layout.plain.write high ++ "]"

/-! ## The rules -/

/-- A categorical layer needs a category. -/
def LayerOp.ofCategorical (layer : CategoricalLayer) : Except Fault LayerOp :=
  if layer.categories = 0 then .error .noCategories
  else .ok (.categorical layer.scope layer.outputUnits layer.categories)

/-- A Gaussian layer is always accepted. -/
def LayerOp.ofGaussian (layer : GaussianLayer) : Except Fault LayerOp :=
  .ok (.gaussian layer.scope layer.outputUnits)

/-- A sum layer is always accepted. -/
def LayerOp.ofSum (layer : SumLayer) : Except Fault LayerOp :=
  .ok (.sum layer.inputUnits layer.outputUnits layer.arity)

/-- A Hadamard layer is always accepted. -/
def LayerOp.ofHadamard (layer : HadamardLayer) : Except Fault LayerOp :=
  .ok (.hadamard layer.inputUnits layer.arity)

/-- A Kronecker layer needs a number of output units that fits. -/
def LayerOp.ofKronecker (layer : KroneckerLayer) : Except Fault LayerOp :=
  match layer.outputUnits? with
  | some outputUnits => .ok (.kronecker layer.inputUnits outputUnits layer.arity)
  | none => .error (.unitsOverflow layer.inputUnits layer.arity)

/-- A tensor parameter is always accepted. -/
def ParameterOp.ofTensor (parameter : TensorParameter) : Except Fault ParameterOp :=
  .ok (.tensor parameter.shape parameter.learnable)

/-- A constant parameter is always accepted. -/
def ParameterOp.ofConstant (parameter : ConstantParameter) : Except Fault ParameterOp :=
  .ok (.constant parameter.shape parameter.value)

/-- A softmax parameter needs an axis of its shape. -/
def ParameterOp.ofSoftmax (parameter : SoftmaxParameter) : Except Fault ParameterOp :=
  if parameter.axis.toNat < parameter.shape.length then .ok (.softmax parameter.axis)
  else .error (.axisOutOfRange parameter.axis parameter.shape)

/-- An exponential parameter is always accepted. -/
def ParameterOp.ofExp (_ : ExpParameter) : Except Fault ParameterOp :=
  .ok .exp

/-- A constant initializer is always accepted. -/
def Initializer.ofConstant (initializer : ConstantInitializer) : Except Fault Initializer :=
  .ok (.constant initializer.value)

/-- A normal initializer is refused when its deviation is at most zero. -/
def Initializer.ofNormal (initializer : NormalInitializer) : Except Fault Initializer :=
  if initializer.deviation.lessEqual (.zero false) then
    .error (.deviationNotPositive initializer.deviation)
  else .ok (.normal initializer.mean initializer.deviation)

/-- A uniform initializer is refused when its lower end is at least the upper one. -/
def Initializer.ofUniform (initializer : UniformInitializer) : Except Fault Initializer :=
  if initializer.high.lessEqual initializer.low then
    .error (.emptyRange initializer.low initializer.high)
  else .ok (.uniform initializer.low initializer.high)

/-! ## Adding the rules -/

/-- Adds a rule that fails with a fault in words of its own. -/
def addDefaultRule (category : Category) (kind : Kind)
    (rule : kind.Payload → Except Fault (Value category)) : Script Kind target Unit :=
  Script.addRule category kind fun payload =>
    Script.ofExcept ((rule payload).mapError fun fault => .pipeline fault.message)

/-- Adds the default rules one after the other. -/
def addDefaultRules : Script Kind target Unit := do
  addDefaultRule .layer .categoricalLayer LayerOp.ofCategorical
  addDefaultRule .layer .gaussianLayer LayerOp.ofGaussian
  addDefaultRule .layer .sumLayer LayerOp.ofSum
  addDefaultRule .layer .hadamardLayer LayerOp.ofHadamard
  addDefaultRule .layer .kroneckerLayer LayerOp.ofKronecker
  addDefaultRule .parameter .tensorParameter ParameterOp.ofTensor
  addDefaultRule .parameter .constantParameter ParameterOp.ofConstant
  addDefaultRule .parameter .softmaxParameter ParameterOp.ofSoftmax
  addDefaultRule .parameter .expParameter ParameterOp.ofExp
  addDefaultRule .initializer .constantInitializer Initializer.ofConstant
  addDefaultRule .initializer .normalInitializer Initializer.ofNormal
  addDefaultRule .initializer .uniformInitializer Initializer.ofUniform

end Circuitry.Reference
