import Circuitry.Catalogue.Kind
import Circuitry.Proofs.Compiler.Quiet
import Circuitry.Proofs.Reference.Translation

/-!
# Faithful translation

When the rules are quiet, the images of the nodes are the results of the rules.  The reference
pipeline, if it succeeds, then makes a program that translates its circuit layer by layer and node
by node, whatever is shared, repeated or left out.
-/

namespace Circuitry.Reference

variable {κ : Type} [Vocabulary κ]

/-- A value is the image of a node when it is the result for it. -/
def resultMeaning (results : Results κ target) : Meaning κ :=
  fun category node value => results category node = .ok value

theorem serves_of_follows (results : Results κ target) (depth : Nat) :
    Serves (.within backend depth) (fun session => session.compiler.rules.Follows results)
      (resultMeaning results) where
  apply := by
    intro category node session later value follows applied
    obtain ⟨equality, same⟩ := Rulebook.Follows.apply follows applied
    refine ⟨equality, ?_⟩
    rw [same]
    exact follows
  update _ follows := follows
  report _ follows := follows

namespace Sharing

/-- What the rules say: the data of the node is copied. -/
def results : Results Kind target
  | .layer, ⟨.categoricalLayer, layer⟩ =>
    .ok (LayerOp.categorical layer.scope layer.outputUnits layer.categories)
  | .layer, ⟨.sumLayer, layer⟩ =>
    .ok (LayerOp.sum layer.inputUnits layer.outputUnits layer.arity)
  | .parameter, ⟨.tensorParameter, parameter⟩ =>
    .ok (ParameterOp.tensor parameter.shape parameter.learnable)
  | .parameter, ⟨.expParameter, _⟩ => .ok ParameterOp.exp
  | .initializer, ⟨.constantInitializer, initializer⟩ =>
    .ok (Initializer.constant initializer.value)
  | _, _ => .error (.pipeline "no result")

def kinds : Category → List Kind
  | .layer => [.categoricalLayer, .sumLayer]
  | .parameter => [.tensorParameter, .expParameter]
  | .initializer => [.constantInitializer]

/-- The exponential of a tensor that is its input twice, with a node that nothing depends on. -/
def weights : ParameterGraph Kind where
  entries :=
    #[⟨⟨.expParameter, ⟨[]⟩⟩, [], none⟩,
      ⟨⟨.tensorParameter, ⟨[2], true⟩⟩, [], some ⟨.constantInitializer, ⟨⟨0⟩⟩⟩⟩,
      ⟨⟨.expParameter, ⟨[2]⟩⟩, [1, 1], none⟩]
  output := 2

/-- Layers with repeated inputs and outputs; nothing depends on the second one. -/
def circuit : Circuit Kind where
  id := ⟨1⟩
  name := some "sharing"
  layers :=
    #[⟨⟨.categoricalLayer, ⟨[0], 2, 3⟩⟩, [], []⟩,
      ⟨⟨.categoricalLayer, ⟨[1], 2, 3⟩⟩, [], []⟩,
      ⟨⟨.sumLayer, ⟨2, 2, 2⟩⟩, [0, 0], [("weights", weights)]⟩,
      ⟨⟨.sumLayer, ⟨2, 1, 2⟩⟩, [2, 0], [("weights", weights)]⟩]
  outputs := [3, 2, 3]

def session : Session Kind target where
  compiler := ⟨({} : State), .ofResults results kinds, .empty, .empty⟩
  events := #[]
  supply := {}
  invocations := []

/-- The parameter that the weights become. -/
def parameter : Parameter where
  nodes := [⟨.tensor [2] true, [], some (.constant ⟨0⟩)⟩, ⟨.exp, [0, 0], none⟩]
  output := 1

def program : Program where
  name := some "sharing"
  semiring := .lseSum
  layers :=
    [⟨.categorical [0] 2 3, [], .empty⟩,
     ⟨.sum 2 2 2, [0, 0], .ofList [("weights", parameter)]⟩,
     ⟨.sum 2 1 2, [1, 0], .ofList [("weights", parameter)]⟩]
  outputs := [2, 1, 2]

end Sharing

end Circuitry.Reference
