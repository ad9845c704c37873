import Circuitry.Proofs.Graph.Order
import Circuitry.Proofs.Reference.Translation

/-!
# Renumbered wirings

In the image of a graph the positions in an order stand for the indices of the nodes, and nothing
else about the wiring changes.  So positions grow from inputs to consumers when the order has inputs
first, and a position can be reached exactly when its index can.
-/

namespace Circuitry.Reference

section Related

variable {α β : Type} {relation : α → β → Prop} {items : List α} {images : List β}

theorem getElem?_related (related : List.Forall₂ relation items images) :
    ∀ place : Nat, Option.Rel relation items[place]? images[place]? := by
  induction related with
  | nil => exact fun _ => .none
  | cons first _ inductionHypothesis =>
      intro place
      cases place with
      | zero => exact .some first
      | succ place =>
          rw [List.getElem?_cons_succ, List.getElem?_cons_succ]
          exact inductionHypothesis place

theorem image_of_getElem? (related : List.Forall₂ relation items images) {place : Nat} {item : α}
    (found : items[place]? = some item) :
    ∃ image, images[place]? = some image ∧ relation item image := by
  have both := getElem?_related related place
  rw [found] at both
  generalize images[place]? = imageFound at both ⊢
  cases both with
  | some holds => exact ⟨_, rfl, holds⟩

theorem item_of_getElem? (related : List.Forall₂ relation items images) {place : Nat} {image : β}
    (found : images[place]? = some image) :
    ∃ item, items[place]? = some item ∧ relation item image := by
  have flipped : List.Forall₂ (flip relation) images items := related.flip
  exact image_of_getElem? flipped found

theorem image_of_mem (related : List.Forall₂ relation items images) {item : α}
    (member : item ∈ items) : ∃ image ∈ images, relation item image := by
  obtain ⟨place, found⟩ := List.getElem?_of_mem member
  obtain ⟨image, imageFound, holds⟩ := image_of_getElem? related found
  exact ⟨image, List.mem_of_getElem? imageFound, holds⟩

theorem item_of_mem (related : List.Forall₂ relation items images) {image : β}
    (member : image ∈ images) : ∃ item ∈ items, relation item image := by
  have flipped : List.Forall₂ (flip relation) images items := related.flip
  exact image_of_mem flipped member

end Related

section RefersTo

variable {order : List Nat} {position other index : Nat}

theorem RefersTo.lt (refers : RefersTo order position index) : position < order.length :=
  (List.getElem?_eq_some_iff.mp refers).1

theorem RefersTo.mem (refers : RefersTo order position index) : index ∈ order :=
  List.mem_of_getElem? refers

theorem RefersTo.position_unique (refers : RefersTo order position index)
    (otherRefers : RefersTo order other index) (nodup : order.Nodup) : position = other :=
  (List.getElem?_inj refers.lt nodup).mp (Eq.trans refers otherRefers.symm)

theorem exists_refersTo (bound : position < order.length) :
    ∃ index, RefersTo order position index :=
  ⟨order[position], List.getElem?_eq_getElem bound⟩

end RefersTo

/-- The wiring has a node for each index in an order of another one, and positions for its links. -/
structure Renumbers (order : List Nat) (wiring original : Wiring) : Prop where
  size : wiring.size = order.length
  inputs : ∀ {position index}, RefersTo order position index →
    List.Forall₂ (RefersTo order) (wiring.inputs position) (original.inputs index)

namespace Renumbers

variable {order : List Nat} {wiring original : Wiring} {roots originalRoots : List Nat}

theorem descending (renumbers : Renumbers order wiring original) (nodup : order.Nodup)
    (inputsFirst : original.InputsFirst order) : wiring.Descending := by
  intro position bound input member
  obtain ⟨index, refers⟩ := exists_refersTo (renumbers.size ▸ bound)
  obtain ⟨link, consumed, linkRefers⟩ := image_of_mem (renumbers.inputs refers) member
  exact inputsFirst.lt_of_input nodup refers consumed linkRefers

theorem position_of_reachable (renumbers : Renumbers order wiring original)
    (rootsRefer : List.Forall₂ (RefersTo order) roots originalRoots) {index : Nat}
    (reachable : original.Reachable originalRoots index) :
    ∃ position, RefersTo order position index ∧ wiring.Reachable roots position := by
  induction reachable with
  | root listed =>
      obtain ⟨position, member, refers⟩ := item_of_mem rootsRefer listed
      exact ⟨position, refers, .root member⟩
  | input _ consumed inductionHypothesis =>
      obtain ⟨consumer, consumerRefers, consumerReachable⟩ := inductionHypothesis
      obtain ⟨position, member, refers⟩ := item_of_mem (renumbers.inputs consumerRefers) consumed
      exact ⟨position, refers, .input consumerReachable member⟩

theorem index_of_reachable (renumbers : Renumbers order wiring original)
    (rootsRefer : List.Forall₂ (RefersTo order) roots originalRoots) {position : Nat}
    (reachable : wiring.Reachable roots position) :
    ∃ index, RefersTo order position index ∧ original.Reachable originalRoots index := by
  induction reachable with
  | root listed =>
      obtain ⟨index, member, refers⟩ := image_of_mem rootsRefer listed
      exact ⟨index, refers, .root member⟩
  | input _ consumed inductionHypothesis =>
      obtain ⟨consumer, consumerRefers, consumerReachable⟩ := inductionHypothesis
      obtain ⟨index, member, refers⟩ := image_of_mem (renumbers.inputs consumerRefers) consumed
      exact ⟨index, refers, .input consumerReachable member⟩

section TopologicalOrder

variable (renumbers : Renumbers order wiring original)
  (ordered : original.TopologicalOrder originalRoots order)
  (rootsRefer : List.Forall₂ (RefersTo order) roots originalRoots)
include renumbers ordered rootsRefer

theorem reachable_of_lt {position : Nat} (bound : position < order.length) :
    wiring.Reachable roots position := by
  obtain ⟨index, refers⟩ := exists_refersTo bound
  obtain ⟨found, foundRefers, reachable⟩ :=
    renumbers.position_of_reachable rootsRefer ((ordered.mem_iff index).mp refers.mem)
  rw [refers.position_unique foundRefers ordered.nodup]
  exact reachable

omit renumbers in
/-- Nothing stands behind the last index that could consume it, so it is a root. -/
theorem last_mem (present : originalRoots ≠ []) : ∃ last ∈ roots, last + 1 = order.length := by
  obtain ⟨root, listed⟩ := List.exists_mem_of_ne_nil originalRoots present
  have nonempty := List.length_pos_of_mem ((ordered.mem_iff root).mpr (.root listed))
  obtain ⟨index, refers⟩ : ∃ index, RefersTo order (order.length - 1) index :=
    exists_refersTo (by omega)
  obtain ⟨last, member, lastRefers⟩ :=
    item_of_mem rootsRefer (ordered.root_of_last refers (by omega))
  have same := refers.position_unique lastRefers ordered.nodup
  exact ⟨last, member, by omega⟩

end TopologicalOrder

end Renumbers

/-- The wiring of the nodes of a compiled parameter. -/
def Parameter.wiring (parameter : Parameter) : Wiring where
  size := parameter.nodes.length
  inputs position := (parameter.nodes[position]?.map (·.inputs)).getD []

theorem Parameter.inputs_wiring {parameter : Parameter} {position : Nat} {node : ParameterNode}
    (found : parameter.nodes[position]? = some node) :
    parameter.wiring.inputs position = node.inputs := by
  change (parameter.nodes[position]?.map (·.inputs)).getD [] = node.inputs
  rw [found]
  rfl

/-- The wiring of the layers of a program. -/
def Program.wiring (program : Program) : Wiring where
  size := program.layers.length
  inputs position := (program.layers[position]?.map (·.inputs)).getD []

theorem Program.inputs_wiring {program : Program} {position : Nat} {layer : Layer}
    (found : program.layers[position]? = some layer) :
    program.wiring.inputs position = layer.inputs := by
  change (program.layers[position]?.map (·.inputs)).getD [] = layer.inputs
  rw [found]
  rfl

variable {κ : Type} [Vocabulary κ] {meaning : Meaning κ}

theorem Parameter.Translates.renumbers {graph : ParameterGraph κ} {parameter : Parameter}
    (translates : parameter.Translates meaning graph) :
    Renumbers graph.topologicalOrder parameter.wiring graph.wiring where
  size := translates.nodes.length_eq.symm
  inputs := by
    intro position index refers
    obtain ⟨node, found, entry, entryFound, nodeTranslates⟩ :=
      image_of_getElem? translates.nodes refers
    rw [Parameter.inputs_wiring found, ParameterGraph.inputs_wiring entryFound]
    exact nodeTranslates.inputs

theorem Program.Translates.renumbers {circuit : Circuit κ} {options : Options} {program : Program}
    (translates : program.Translates meaning circuit options) :
    Renumbers (circuit.order options.prune) program.wiring circuit.wiring where
  size := translates.layers.length_eq.symm
  inputs := by
    intro position index refers
    obtain ⟨layer, found, entry, entryFound, layerTranslates⟩ :=
      image_of_getElem? translates.layers refers
    rw [Program.inputs_wiring found, Circuit.inputs_wiring entryFound]
    exact layerTranslates.inputs

end Circuitry.Reference
