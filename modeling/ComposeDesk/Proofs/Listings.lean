import ComposeDesk.Proofs.Shown
import ComposeDesk.Proofs.Store.Listings

/-!
# Lists at the desk

Whatever was done at the desk before, callers get each list in pages: the parts of
one list that holds what belongs to it, each once, and with every part the size of
the whole.
-/

namespace ComposeDesk.Desk

variable {σ : Type} {desk : Desk σ}

theorem after_versioned {state : DeskState σ} (versioned : state.store.Versioned)
    (calls : List (Call σ)) : (desk.after state calls).store.Versioned :=
  after_keep Store.Changes.versioned versioned calls

theorem blueprints_lists (caller : Identity) (filter : BlueprintFilter) (range : Range)
    (state : DeskState σ) :
    Lists (blueprints caller filter range) state state range
      (state.store.findBlueprints caller.org filter)
      (fun summary item => item = blueprintItem summary) :=
  ⟨_, rfl, forall₂_map_self _ _⟩

/-- Callers get the parts of lists that they ask for, with the size of the list, each
item shown as it is stored. -/
structure Turns (desk : Desk σ) (state : DeskState σ) : Prop where
  composes : ∀ (caller : Identity) (range : Range),
    Lists (desk.composes caller range) state { state with world := (desk.now state.world).2 } range
      (state.store.activeComposes caller.org (desk.now state.world).1 listingWindow)
      ComposeEntry.ShownAs
  clones : ∀ (caller : Identity) (id : Uuid) (range : Range),
    Lists (clones caller id range) state state range (state.store.clonesOf id caller.org)
      CloneRow.ShownAs
  blueprints : ∀ (caller : Identity) (filter : BlueprintFilter) (range : Range),
    Lists (blueprints caller filter range) state state range
      (state.store.findBlueprints caller.org filter)
      (fun summary item => item = blueprintItem summary)
  blueprintComposes : ∀ (caller : Identity) (id : Uuid) (number wanted : Option Int)
      (range : Range) (entry : BlueprintEntry),
    state.store.getBlueprint id caller.org none = .ok entry → entry.wanted number = .ok wanted →
    Lists (desk.blueprintComposes caller id number range) state
      { state with world := (desk.now state.world).2 } range
      (state.store.composesOfBlueprint caller.org id wanted (desk.now state.world).1 listingWindow)
      ComposeEntry.ShownAs

theorem turns_of_legible (desk : Desk σ) {state : DeskState σ} (legible : state.store.Legible) :
    desk.Turns state where
  composes := composes_lists desk legible
  clones := clones_lists legible
  blueprints caller filter range := blueprints_lists caller filter range state
  blueprintComposes _ _ _ _ range _ found asked :=
    blueprintComposes_lists desk legible range found asked

/-- After every run all lists are exact, for every organization and window, and
callers get their pages. -/
theorem listings_exact (desk : Desk σ) (metrics : Metrics) (world : σ) (calls : List (Call σ)) :
    (∀ org now window,
      (desk.after (start metrics world) calls).store.Listings org now window) ∧
    ∀ present : σ, desk.Turns { desk.after (start metrics world) calls with world := present } := by
  have versioned : (desk.after (start metrics world) calls).store.Versioned :=
    after_versioned Store.versioned_empty calls
  have legible : (desk.after (start metrics world) calls).store.Legible :=
    after_legible Store.legible_empty calls
  exact ⟨fun org now window => Store.listings versioned org now window,
    fun present => turns_of_legible desk legible⟩

end ComposeDesk.Desk
