import Circuitry.Number.Layout
import Circuitry.Text.Outline

/-!
What the nodes of the catalogue carry: scopes, numbers of units, shapes and hyperparameters.

Sizes are words of 64 bits.
-/

namespace Circuitry

/-- An input layer over categorical variables. -/
structure CategoricalLayer where
  scope : List UInt64
  outputUnits : UInt64
  categories : UInt64
  deriving DecidableEq, Repr

/-- An input layer over continuous variables with a normal density. -/
structure GaussianLayer where
  scope : List UInt64
  outputUnits : UInt64
  deriving DecidableEq, Repr

/-- A weighted sum over the units of its inputs. -/
structure SumLayer where
  inputUnits : UInt64
  outputUnits : UInt64
  arity : UInt64
  deriving DecidableEq, Repr

/-- The product of its inputs, unit by unit. -/
structure HadamardLayer where
  inputUnits : UInt64
  arity : UInt64
  deriving DecidableEq, Repr

/-- The outer product of its inputs. -/
structure KroneckerLayer where
  inputUnits : UInt64
  arity : UInt64
  deriving DecidableEq, Repr

/-- A sum layer that mixes units of equal index. -/
structure MixingLayer where
  units : UInt64
  arity : UInt64
  deriving DecidableEq, Repr

/-- The word of a number, if it fits. -/
def wordOf? (number : Nat) : Option UInt64 :=
  if number < Nat.pow 2 64 then some (UInt64.ofNat number) else none

/-- A word times a power, if the products on the way fit.  The base is squared while the exponent is
halved, and not again once the exponent is one. -/
def timesPower? (factor base : UInt64) (exponent : Nat) : Option UInt64 :=
  if exponent = 0 then some factor
  else if exponent = 1 then wordOf? (factor.toNat * base.toNat)
  else do
    let factor ←
      if exponent % 2 = 1 then wordOf? (factor.toNat * base.toNat) else some factor
    let square ← wordOf? (base.toNat * base.toNat)
    timesPower? factor square (exponent / 2)
termination_by exponent

/-- The power of a word, if the exponent fits 32 bits and the products on the way fit 64. -/
def wordPower? (base exponent : UInt64) : Option UInt64 :=
  if exponent.toNat < Nat.pow 2 32 then timesPower? 1 base exponent.toNat else none

/-- The number of units of an outer product, if it fits. -/
def KroneckerLayer.outputUnits? (layer : KroneckerLayer) : Option UInt64 :=
  wordPower? layer.inputUnits layer.arity

/-- A tensor that an initializer fills. -/
structure TensorParameter where
  shape : List UInt64
  learnable : Bool
  deriving DecidableEq, Repr

/-- A tensor filled with one value. -/
structure ConstantParameter where
  shape : List UInt64
  value : Binary64
  deriving DecidableEq, Repr

/-- Its input normalized along an axis. -/
structure SoftmaxParameter where
  shape : List UInt64
  axis : UInt64
  deriving DecidableEq, Repr

/-- The exponential of its input, element by element. -/
structure ExpParameter where
  shape : List UInt64
  deriving DecidableEq, Repr

/-- Fills a tensor with one value. -/
structure ConstantInitializer where
  value : Binary64
  deriving DecidableEq, Repr

/-- Fills a tensor from a normal distribution. -/
structure NormalInitializer where
  mean : Binary64
  deviation : Binary64
  deriving DecidableEq, Repr

/-- Fills a tensor from a uniform distribution. -/
structure UniformInitializer where
  low : Binary64
  high : Binary64
  deriving DecidableEq, Repr

namespace Text

/-- A word as a decimal number. -/
def word (number : UInt64) : String :=
  toString number.toNat

def words (numbers : List UInt64) : String :=
  bracketed (numbers.map word)

end Text

def CategoricalLayer.fields (layer : CategoricalLayer) : List (String × String) :=
  [("scope", Text.words layer.scope),
   ("num_output_units", Text.word layer.outputUnits),
   ("num_categories", Text.word layer.categories)]

def GaussianLayer.fields (layer : GaussianLayer) : List (String × String) :=
  [("scope", Text.words layer.scope),
   ("num_output_units", Text.word layer.outputUnits)]

def SumLayer.fields (layer : SumLayer) : List (String × String) :=
  [("num_input_units", Text.word layer.inputUnits),
   ("num_output_units", Text.word layer.outputUnits),
   ("arity", Text.word layer.arity)]

def HadamardLayer.fields (layer : HadamardLayer) : List (String × String) :=
  [("num_input_units", Text.word layer.inputUnits),
   ("arity", Text.word layer.arity)]

def KroneckerLayer.fields (layer : KroneckerLayer) : List (String × String) :=
  [("num_input_units", Text.word layer.inputUnits),
   ("arity", Text.word layer.arity)]

def MixingLayer.fields (layer : MixingLayer) : List (String × String) :=
  [("num_units", Text.word layer.units),
   ("arity", Text.word layer.arity)]

def TensorParameter.fields (parameter : TensorParameter) : List (String × String) :=
  [("shape", Text.words parameter.shape),
   ("learnable", Text.boolean parameter.learnable)]

def ConstantParameter.fields (parameter : ConstantParameter) : List (String × String) :=
  [("shape", Text.words parameter.shape),
   ("value", Layout.outline.write parameter.value)]

def SoftmaxParameter.fields (parameter : SoftmaxParameter) : List (String × String) :=
  [("shape", Text.words parameter.shape),
   ("axis", Text.word parameter.axis)]

def ExpParameter.fields (parameter : ExpParameter) : List (String × String) :=
  [("shape", Text.words parameter.shape)]

def ConstantInitializer.fields (initializer : ConstantInitializer) : List (String × String) :=
  [("value", Layout.outline.write initializer.value)]

def NormalInitializer.fields (initializer : NormalInitializer) : List (String × String) :=
  [("mean", Layout.outline.write initializer.mean),
   ("stddev", Layout.outline.write initializer.deviation)]

def UniformInitializer.fields (initializer : UniformInitializer) : List (String × String) :=
  [("a", Layout.outline.write initializer.low),
   ("b", Layout.outline.write initializer.high)]

end Circuitry
