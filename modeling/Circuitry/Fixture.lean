import Circuitry.Catalogue.Kind
import Circuitry.Graph.Circuit

/-!
Ready-made circuits: small circuits that exercise sharing, parameters, and kinds without a rule.
-/

namespace Circuitry

/-- A circuit that can be finished any number of times. -/
structure Fixture where
  builder : CircuitBuilder Kind
  outputs : List Nat

namespace Fixture

def categorical (var outputUnits categories : UInt64) : Node Kind :=
  ⟨.categoricalLayer, (⟨[var], outputUnits, categories⟩ : CategoricalLayer)⟩

def gaussian (var outputUnits : UInt64) : Node Kind :=
  ⟨.gaussianLayer, (⟨[var], outputUnits⟩ : GaussianLayer)⟩

def sum (inputUnits outputUnits arity : UInt64) : Node Kind :=
  ⟨.sumLayer, (⟨inputUnits, outputUnits, arity⟩ : SumLayer)⟩

def hadamard (inputUnits arity : UInt64) : Node Kind :=
  ⟨.hadamardLayer, (⟨inputUnits, arity⟩ : HadamardLayer)⟩

def kronecker (inputUnits arity : UInt64) : Node Kind :=
  ⟨.kroneckerLayer, (⟨inputUnits, arity⟩ : KroneckerLayer)⟩

def mixing (units arity : UInt64) : Node Kind :=
  ⟨.mixingLayer, (⟨units, arity⟩ : MixingLayer)⟩

/-- A learnable tensor parameter. -/
def tensor (shape : List UInt64) : Node Kind :=
  ⟨.tensorParameter, (⟨shape, true⟩ : TensorParameter)⟩

def softmax (shape : List UInt64) (axis : UInt64) : Node Kind :=
  ⟨.softmaxParameter, (⟨shape, axis⟩ : SoftmaxParameter)⟩

def exponential (shape : List UInt64) : Node Kind :=
  ⟨.expParameter, (⟨shape⟩ : ExpParameter)⟩

/-- A normal initializer with mean zero and deviation one. -/
def standardNormal : Node Kind :=
  ⟨.normalInitializer, (⟨.ofInt 0, .ofInt 1⟩ : NormalInitializer)⟩

/-- A uniform initializer between minus one and one. -/
def symmetricUniform : Node Kind :=
  ⟨.uniformInitializer, (⟨.ofInt (-1), .ofInt 1⟩ : UniformInitializer)⟩

/-- The usual weight of a sum layer: the softmax of a tensor with normal values. -/
def softmaxWeight (outputUnits inputUnits : UInt64) : ParameterGraph Kind where
  entries :=
    #[⟨tensor [outputUnits, inputUnits], [], some standardNormal⟩,
      ⟨softmax [outputUnits, inputUnits] 1, [0], none⟩]
  output := 1

/-- A positive weight: the exponential of a tensor with uniform values. -/
def positiveWeight (outputUnits inputUnits : UInt64) : ParameterGraph Kind where
  entries :=
    #[⟨tensor [outputUnits, inputUnits], [], some symmetricUniform⟩,
      ⟨exponential [outputUnits, inputUnits], [0], none⟩]
  output := 1

/-- A mixture of a Hadamard product and a summed Kronecker product over two variables. -/
def mixture : Fixture where
  builder :=
    { name := some "mixture-of-products"
      layers :=
        #[⟨categorical 0 2 3, [], []⟩,
          ⟨categorical 1 2 3, [], []⟩,
          ⟨hadamard 2 2, [0, 1], []⟩,
          ⟨kronecker 2 2, [0, 1], []⟩,
          ⟨sum 4 2 1, [3], [("weight", softmaxWeight 2 4)]⟩,
          ⟨sum 2 1 2, [2, 4], [("weight", softmaxWeight 1 4)]⟩] }
  outputs := [5]

/-- A Gaussian layer scaled by a positive weight. -/
def scaledGaussian : Fixture where
  builder :=
    { layers :=
        #[⟨gaussian 0 3, [], []⟩,
          ⟨sum 3 1 1, [0], [("weight", positiveWeight 1 3)]⟩] }
  outputs := [1]

/-- A circuit whose output is of a kind without any rule. -/
def unregisteredOutput : Fixture where
  builder :=
    { layers :=
        #[⟨categorical 0 1 2, [], []⟩,
          ⟨⟨.unregisteredLayer, ()⟩, [0], []⟩] }
  outputs := [1]

/-- A circuit whose output is of a kind with a rule for its supertype only. -/
def mixingOutput : Fixture where
  builder :=
    { layers :=
        #[⟨categorical 0 2 2, [], []⟩,
          ⟨mixing 2 1, [0], []⟩] }
  outputs := [1]

/-- A product of two sums over one shared leaf. -/
def sharedLeaf : Fixture where
  builder :=
    { name := some "product_of_sums"
      layers :=
        #[⟨⟨.leaf, ()⟩, [], []⟩,
          ⟨⟨.plainSum, ()⟩, [0], []⟩,
          ⟨⟨.plainSum, ()⟩, [0], []⟩,
          ⟨⟨.plainProduct, ()⟩, [1, 2], []⟩] }
  outputs := [3]

end Fixture

end Circuitry
