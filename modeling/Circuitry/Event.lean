import Circuitry.Graph.Circuit

/-!
The events that a compiler reports while it works.

A run of a pipeline is a span: it is opened with the circuit and the backend, and it is closed
after its ending has been reported.  Everything in between happened during the run.
-/

namespace Circuitry

/-- How important an event is. -/
inductive Level
  | trace
  | debug
  | info
  | warn
  deriving DecidableEq, Repr

/-- The level in records. -/
def Level.label : Level → String
  | .trace => "TRACE"
  | .debug => "DEBUG"
  | .info => "INFO"
  | .warn => "WARN"

inductive Detail
  | count (number : Nat)
  | text (text : String)
  deriving DecidableEq, Repr

/-- Something that a compiler or its pipeline reports. -/
inductive Event (κ : Type)
  /-- A rule has been registered. -/
  | registered (category : Category) (kind : κ)
  /-- A rule is about to replace another one. -/
  | overwriting (category : Category) (kind : κ)
  /-- A compilation is answered from the circuits compiled before. -/
  | cacheHit (circuit : CircuitId) (backend : String)
  /-- A run of the pipeline begins. -/
  | opened (circuit : CircuitId) (backend : String)
  /-- A rule is about to be applied to a node. -/
  | compiling (category : Category) (kind : κ)
  /-- The pipeline reports something of its own. -/
  | note (message : String) (details : List (String × Detail))
  /-- A run has succeeded; so many circuits are compiled now. -/
  | compiled (circuits : Nat)
  /-- A failed run had registered circuits, which are dropped. -/
  | rolledBack (dropped : Nat)
  /-- A run has failed with an error. -/
  | failed (error : String)
  /-- A run of the pipeline ends. -/
  | closed
  deriving DecidableEq

namespace Event

variable {κ : Type} [Vocabulary κ]

/-- The level of an event; the ends of a span have none. -/
def level : Event κ → Option Level
  | .overwriting _ _ => some .warn
  | .opened _ _ => some .info
  | .compiling _ _ => some .trace
  | .closed => none
  | _ => some .debug

/-- The message of an event; spans have none. -/
def message : Event κ → Option String
  | .registered _ _ => some "registered compilation rule"
  | .overwriting _ _ => some "overwriting compilation rule"
  | .cacheHit _ _ => some "compiled circuit cache hit"
  | .opened _ _ => none
  | .compiling category _ => some ("compiling " ++ category.label)
  | .note message _ => some message
  | .compiled _ => some "compiled circuit"
  | .rolledBack _ => some "rolled back registrations of failed pipeline run"
  | .failed _ => some "compilation pipeline failed"
  | .closed => none

def details : Event κ → List (String × Detail)
  | .registered category kind =>
    [("category", .text category.label), ("signature", .text (Vocabulary.name kind))]
  | .overwriting category kind =>
    [("category", .text category.label), ("signature", .text (Vocabulary.name kind))]
  | .cacheHit circuit backend =>
    [("circuit", .text circuit.display), ("backend", .text backend)]
  | .opened circuit backend =>
    [("circuit", .text circuit.display), ("backend", .text backend)]
  | .compiling _ kind => [("signature", .text (Vocabulary.name kind))]
  | .note _ details => details
  | .compiled circuits => [("compiled_circuits", .count circuits)]
  | .rolledBack dropped => [("dropped", .count dropped)]
  | .failed error => [("error", .text error)]
  | .closed => []

end Event

end Circuitry
