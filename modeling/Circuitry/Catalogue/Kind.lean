import Circuitry.Catalogue.Payload
import Circuitry.Vocabulary

/-!
The catalogue of node kinds.

The standard kinds come first, then kinds that no standard rule knows, then the kinds of the
recording backend, and last sample kinds whose supertypes form chains and cycles, cross the
categories, or are written with type arguments.
-/

namespace Circuitry

inductive Kind
  | categoricalLayer
  | gaussianLayer
  | sumLayer
  | hadamardLayer
  | kroneckerLayer
  | tensorParameter
  | constantParameter
  | softmaxParameter
  | expParameter
  | constantInitializer
  | normalInitializer
  | uniformInitializer
  | unregisteredLayer
  | mixingLayer
  | leaf
  | plainSum
  | plainProduct
  | weightedSum
  | weight
  | ones
  | alpha
  | beta
  | gamma
  | cycleA
  | cycleB
  | selfCycle
  | crossLayer
  | paramChild
  | initChild
  | initOfSum
  /-- A layer kind that specializes the kind it is an argument-taking name of. -/
  | wrapped (inner : Kind)
  | borrowedAlpha
  | boxedAlpha
  /-- A layer kind in a chain of supertypes. -/
  | chain (depth : Nat)
  deriving DecidableEq, Repr

namespace Kind

def standardPath (name : String) : String := "cirkit_rs::symbolic::nodes::" ++ name

def fixturePath (name : String) : String := "cirkit_rs_backend_tests::circuits::" ++ name

def recordingPath (name : String) : String := "oracle_driver::recording_support::" ++ name

def samplePath (name : String) : String := "oracle_driver::kinds::" ++ name

def name : Kind → String
  | categoricalLayer => standardPath "CategoricalLayer"
  | gaussianLayer => standardPath "GaussianLayer"
  | sumLayer => standardPath "SumLayer"
  | hadamardLayer => standardPath "HadamardLayer"
  | kroneckerLayer => standardPath "KroneckerLayer"
  | tensorParameter => standardPath "TensorParameter"
  | constantParameter => standardPath "ConstantParameter"
  | softmaxParameter => standardPath "SoftmaxParameter"
  | expParameter => standardPath "ExpParameter"
  | constantInitializer => standardPath "ConstantInitializer"
  | normalInitializer => standardPath "NormalInitializer"
  | uniformInitializer => standardPath "UniformInitializer"
  | unregisteredLayer => fixturePath "UnregisteredLayer"
  | mixingLayer => fixturePath "MixingLayer"
  | leaf => recordingPath "Leaf"
  | plainSum => recordingPath "SumLayer"
  | plainProduct => recordingPath "ProductLayer"
  | weightedSum => recordingPath "WeightedSumLayer"
  | weight => recordingPath "Weight"
  | ones => recordingPath "Ones"
  | alpha => samplePath "Alpha"
  | beta => samplePath "Beta"
  | gamma => samplePath "Gamma"
  | cycleA => samplePath "CycleA"
  | cycleB => samplePath "CycleB"
  | selfCycle => samplePath "SelfCycle"
  | crossLayer => samplePath "CrossLayer"
  | paramChild => samplePath "ParamChild"
  | initChild => samplePath "InitChild"
  | initOfSum => samplePath "InitOfSum"
  | wrapped inner => samplePath "Wrap<" ++ inner.name ++ ">"
  | borrowedAlpha => "&" ++ samplePath "Alpha"
  | boxedAlpha => "alloc::boxed::Box<" ++ samplePath "Alpha" ++ ">"
  | chain depth => samplePath "D" ++ toString depth

/-- The word under which the catalogue lists a kind. -/
def label : Kind → String
  | leaf => "rec.Leaf"
  | plainSum => "rec.SumLayer"
  | plainProduct => "rec.ProductLayer"
  | weightedSum => "rec.WeightedSumLayer"
  | weight => "rec.Weight"
  | ones => "rec.Ones"
  | wrapped inner => "Wrap<" ++ inner.label ++ ">"
  | borrowedAlpha => "&Alpha"
  | boxedAlpha => "Box<Alpha>"
  | kind => TypePath.short kind.name

def category : Kind → Category
  | tensorParameter | constantParameter | softmaxParameter | expParameter => .parameter
  | weight | paramChild | boxedAlpha => .parameter
  | constantInitializer | normalInitializer | uniformInitializer => .initializer
  | ones | initChild | initOfSum => .initializer
  | _ => .layer

def supertype : Kind → Option Kind
  | mixingLayer => some sumLayer
  | weightedSum => some plainSum
  | alpha => some beta
  | beta => some gamma
  | cycleA => some cycleB
  | cycleB => some cycleA
  | selfCycle => some selfCycle
  | crossLayer => some tensorParameter
  | paramChild => some tensorParameter
  | initChild => some normalInitializer
  | initOfSum => some sumLayer
  | wrapped inner => some inner
  | chain (depth + 1) => some (chain depth)
  | _ => none

/-! ## Payloads -/

def Payload : Kind → Type
  | categoricalLayer => CategoricalLayer
  | gaussianLayer => GaussianLayer
  | sumLayer => SumLayer
  | hadamardLayer => HadamardLayer
  | kroneckerLayer => KroneckerLayer
  | tensorParameter => TensorParameter
  | constantParameter => ConstantParameter
  | softmaxParameter => SoftmaxParameter
  | expParameter => ExpParameter
  | constantInitializer => ConstantInitializer
  | normalInitializer => NormalInitializer
  | uniformInitializer => UniformInitializer
  | mixingLayer => MixingLayer
  | _ => Unit

def outline : (kind : Kind) → kind.Payload → String
  | categoricalLayer, layer => Text.record "CategoricalLayer" layer.fields
  | gaussianLayer, layer => Text.record "GaussianLayer" layer.fields
  | sumLayer, layer => Text.record "SumLayer" layer.fields
  | hadamardLayer, layer => Text.record "HadamardLayer" layer.fields
  | kroneckerLayer, layer => Text.record "KroneckerLayer" layer.fields
  | tensorParameter, parameter => Text.record "TensorParameter" parameter.fields
  | constantParameter, parameter => Text.record "ConstantParameter" parameter.fields
  | softmaxParameter, parameter => Text.record "SoftmaxParameter" parameter.fields
  | expParameter, parameter => Text.record "ExpParameter" parameter.fields
  | constantInitializer, initializer => Text.record "ConstantInitializer" initializer.fields
  | normalInitializer, initializer => Text.record "NormalInitializer" initializer.fields
  | uniformInitializer, initializer => Text.record "UniformInitializer" initializer.fields
  | mixingLayer, layer => Text.record "MixingLayer" layer.fields
  | wrapped inner, _ => Text.applied "Wrap" ("PhantomData<" ++ inner.name ++ ">")
  | boxedAlpha, _ => "Alpha"
  | kind, _ => TypePath.short kind.name

instance : Vocabulary Kind where
  decideEq := inferInstance
  name := name
  category := category
  supertype := supertype
  Payload := Payload
  outline := outline

/-- The length of the chain of sample kinds. -/
def chainLength : Nat := 67

def all : List Kind :=
  [categoricalLayer, gaussianLayer, sumLayer, hadamardLayer, kroneckerLayer, tensorParameter,
   constantParameter, softmaxParameter, expParameter, constantInitializer, normalInitializer,
   uniformInitializer, unregisteredLayer, mixingLayer, leaf, plainSum, plainProduct, weightedSum,
   weight, ones, alpha, beta, gamma, cycleA, cycleB, selfCycle, crossLayer, paramChild, initChild,
   initOfSum, wrapped sumLayer, wrapped (wrapped leaf), borrowedAlpha, boxedAlpha]
    ++ (List.range chainLength).map chain

/-- The listed kind of a word. -/
def ofLabel? (word : String) : Option Kind :=
  all.find? fun kind => kind.label == word

end Kind

end Circuitry
