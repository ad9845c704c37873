/-!
The roles of nodes in a circuit: a layer, a node of a parameter graph, or an initializer of a
parameter.
-/

namespace Circuitry

/-- The role that a node plays in a circuit. -/
inductive Category
  | layer
  | parameter
  | initializer
  deriving DecidableEq, Repr

namespace Category

/-- The category in messages. -/
def label : Category → String
  | .layer => "layer"
  | .parameter => "parameter"
  | .initializer => "initializer"

def outline : Category → String
  | .layer => "Layer"
  | .parameter => "Parameter"
  | .initializer => "Initializer"

/-- The place of a category in their order. -/
def rank : Category → Nat
  | .layer => 0
  | .parameter => 1
  | .initializer => 2

instance : Ord Category where
  compare left right := compare left.rank right.rank

/-- All categories in order. -/
def all : List Category := [.layer, .parameter, .initializer]

end Category

end Circuitry
