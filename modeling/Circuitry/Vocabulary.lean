import Circuitry.Category
import Circuitry.Text.Outline
import Circuitry.Text.Quoted
import Circuitry.TypePath

/-!
Vocabularies: families of node kinds from which circuits are built.

A kind has a name, a category, possibly a declared supertype, and a type of payload that its nodes
carry.  Kinds are told apart exactly; the supertype is information for messages only, and chains
of supertypes may be cyclic.
-/

namespace Circuitry

/-- A family of node kinds. -/
class Vocabulary (κ : Type) where
  decideEq : DecidableEq κ
  /-- The full name of the kind. -/
  name : κ → String
  category : κ → Category
  /-- The kind that this one declares to specialize. -/
  supertype : κ → Option κ
  /-- What a node of the kind carries. -/
  Payload : κ → Type
  /-- The outline of a node of the kind. -/
  outline : (kind : κ) → Payload kind → String

attribute [reducible, instance] Vocabulary.decideEq

namespace Vocabulary

variable {κ : Type} [Vocabulary κ]

/-- The name of a kind without the path in front of it. -/
def shortName (kind : κ) : String :=
  TypePath.short (name kind)

/-- How far the chain of supertypes is followed. -/
def ancestorLimit : Nat := 64

/-- The declared supertypes of a kind, nearest first, at most as many as the limit. -/
def ancestorsWithin : Nat → κ → List κ
  | 0, _ => []
  | limit + 1, kind =>
    match supertype kind with
    | none => []
    | some parent => parent :: ancestorsWithin limit parent

/-- The declared supertypes of a kind, nearest first. -/
def ancestors (kind : κ) : List κ :=
  ancestorsWithin ancestorLimit kind

/-- The outline of a kind as the key of rules. -/
def signature (kind : κ) : String :=
  Text.record "Signature"
    [("name", Text.quoted (name kind)), ("category", (category kind).outline)]

end Vocabulary

/-- A node: a kind and what a node of that kind carries. -/
structure Node (κ : Type) [Vocabulary κ] where
  kind : κ
  payload : Vocabulary.Payload kind

namespace Node

variable {κ : Type} [Vocabulary κ]

def category (node : Node κ) : Category :=
  Vocabulary.category node.kind

def outline (node : Node κ) : String :=
  Vocabulary.outline node.kind node.payload

/-- What a node carries, if it is of a given kind. -/
def payloadAs? (kind : κ) (node : Node κ) : Option (Vocabulary.Payload kind) :=
  if same : node.kind = kind then some (same ▸ node.payload) else none

end Node

end Circuitry
