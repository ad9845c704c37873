import Circuitry.Error

/-!
The names by which an application can select a backend.
-/

namespace Circuitry

/-- The names of the supported backends. -/
def selectableBackends : List String := ["ref"]

/-- Whether a name is that of a supported backend. -/
def isSelectableBackend (name : String) : Bool :=
  selectableBackends.contains name

/-- Checks that a backend is supported. -/
def requireSelectableBackend {κ γ : Type} (name : String) : Except (CompileError κ γ) Unit :=
  if isSelectableBackend name then .ok () else .error (.unsupportedBackend name)

end Circuitry
