import ComposeDesk.Proofs.Api.Counters
import ComposeDesk.Proofs.Shown

/-!
# Lists in responses

Whatever list is asked for, the response shows the part of it that was asked for and
the size of the whole.  The whole list depends on the store, the time and the filters
alone, so one equation tells the responses to all requests for its parts.
-/

namespace ComposeDesk

variable {σ ε α β : Type}

/-- Where a whole list can be read, so can the part of it that is asked for. -/
theorem mapM_range {f : α → Except ε β} {rows : List α} {items : List β}
    (all : rows.mapM f = .ok items) (range : Range) :
    (range.of rows).1.mapM f = .ok (range.of items).1 ∧
      (range.of rows).2 = (range.of items).2 := by
  have each := forall₂_of_mapM_ok all
  have part := List.forall₂_take range.limit.toNat (List.forall₂_drop range.offset.toNat each)
  exact ⟨mapM_of_forall₂ part, each.length_eq⟩

theorem range_map (range : Range) (f : α → β) (items : List α) :
    range.of (items.map f) = ((range.of items).1.map f, (range.of items).2) := by
  rw [Range.of, Range.of, List.map_take, List.map_drop, List.length_map]

namespace Desk

variable {desk : Desk σ} {state : DeskState σ}

/-- Of rows that can all be shown, a part is shown with the size of the whole. -/
theorem outcome_part {ρ ι : Type} {f : ρ → Except Error ι} {rows : List ρ} {shown : ρ → ι → Prop}
    (each : ∀ row ∈ rows, ∃ item, f row = .ok item ∧ shown row item) (range : Range)
    (state : DeskState σ) :
    outcome (Work.of ((range.of rows).1.mapM f) >>= fun items =>
        (pure (items, (range.of rows).2) : Work σ (List ι × Nat))) state =
      ((rows.mapM f).map range.of, state) := by
  obtain ⟨items, all, -⟩ := mapM_ok each
  obtain ⟨part, size⟩ := mapM_range all range
  rw [outcome_bind, Work.outcome_of, part, all, size]
  rfl

theorem composes_fst (desk : Desk σ) (legible : state.store.Legible) (caller : Identity)
    (range : Range) :
    (outcome (desk.composes caller range) state).1 =
      ((state.store.activeComposes caller.org (desk.now state.world).1 listingWindow).mapM
        composeItem).map range.of := by
  rw [composes, outcome_bind, Work.outcome_outside]
  exact congrArg Prod.fst (outcome_part
    (fun _ held => legible.composeItem (Store.activeComposes_mem held)) range _)

theorem clones_fst (legible : state.store.Legible) (caller : Identity) (id : Uuid)
    (range : Range) :
    (outcome (clones caller id range) state).1 =
      ((state.store.clonesOf id caller.org).mapM cloneItem).map range.of :=
  congrArg Prod.fst (outcome_part
    (fun _ held => legible.cloneItem (Store.clonesOf_mem held)) range state)

theorem blueprints_fst (caller : Identity) (filter : BlueprintFilter) (range : Range)
    (state : DeskState σ) :
    (outcome (blueprints caller filter range) state).1 =
      (Except.ok ((state.store.findBlueprints caller.org filter).map blueprintItem)).map
        range.of := by
  rw [Except.map, range_map]
  rfl

def composesListed (store : Store) (org : String) (now : Timestamp) (id : Uuid)
    (version : Option Int) : Except Error (List ComposeItem) := do
  let entry ← (store.getBlueprint id org none).mapError StoreFault.error
  let wanted ← entry.wanted version
  (store.composesOfBlueprint org id wanted now listingWindow).mapM composeItem

theorem blueprintComposes_fst (desk : Desk σ) (legible : state.store.Legible)
    (caller : Identity) (id : Uuid) (version : Option Int) (range : Range) :
    (outcome (desk.blueprintComposes caller id version range) state).1 =
      (composesListed state.store caller.org (desk.now state.world).1 id version).map range.of := by
  have found : outcome (blueprintOf caller id none : Work σ BlueprintEntry) state =
      ((state.store.getBlueprint id caller.org none).mapError StoreFault.error, state) := rfl
  rw [blueprintComposes_eq, outcome_bind, found, composesListed]
  cases (state.store.getBlueprint id caller.org none).mapError StoreFault.error with
  | error error => rfl
  | ok entry =>
      simp only [bind, Except.bind]
      cases entry.wanted version with
      | error error => rfl
      | ok wanted =>
          exact congrArg Prod.fst (outcome_part (fun _ held =>
            legible.composeItem (Store.composesOfBlueprint_mem held)) range _)

end Desk

namespace Api

/-- The lists that callers can ask for, with what they filter. -/
inductive Listing where
  | composes
  | clones (id : Uuid)
  | blueprints (name search : Option String)
  | blueprintComposes (id : Uuid) (version : Option Int)
deriving DecidableEq

namespace Listing

def path : Listing → String
  | .composes => "/composes"
  | .clones id => "/composes/" ++ id.toText ++ "/clones"
  | .blueprints _ _ => "/blueprints"
  | .blueprintComposes id _ => "/blueprints/" ++ id.toText ++ "/composes"

def resource : Listing → Resource
  | .composes => .composes
  | .clones id => .clonesOf id.toText
  | .blueprints _ _ => .blueprints
  | .blueprintComposes id _ => .blueprintComposes id.toText

def unfiltered : Listing → Listing
  | .composes => .composes
  | .clones id => .clones id
  | .blueprints _ _ => .blueprints none none
  | .blueprintComposes id _ => .blueprintComposes id none

/-- All items as they are shown, or why none are. -/
def items (store : Store) (org : String) (now : Timestamp) : Listing → Except Error (List Json)
  | .composes =>
      ((store.activeComposes org now Desk.listingWindow).mapM Desk.composeItem).map
        (·.map ComposeItem.codec.write)
  | .clones id =>
      ((store.clonesOf id org).mapM Desk.cloneItem).map (·.map CloneItem.codec.write)
  | .blueprints name search =>
      .ok (((store.findBlueprints org ⟨name, search⟩).map Desk.blueprintItem).map
        BlueprintItem.codec.write)
  | .blueprintComposes id version =>
      (Desk.composesListed store org now id version).map (·.map ComposeItem.codec.write)

end Listing

structure Asked where
  caller : Identity
  listing : Listing
  range : Range
deriving DecidableEq

namespace Request

def listed (request : Request) : Resource → Except Response Asked
  | .composes => do
      let caller ← request.caller
      let query ← queryOf request [.limit, .offset]
      let range ← rangeOf query
      return ⟨caller, .composes, range⟩
  | .clonesOf id => do
      let caller ← request.caller
      let id ← identifier id
      let query ← queryOf request [.limit, .offset]
      let range ← rangeOf query
      return ⟨caller, .clones id, range⟩
  | .blueprints => do
      let caller ← request.caller
      let query ← queryOf request [.name, .search, .limit, .offset]
      let range ← rangeOf query
      return ⟨caller, .blueprints query.name query.search, range⟩
  | .blueprintComposes id => do
      let caller ← request.caller
      let id ← identifier id
      let query ← queryOf request [.version, .limit, .offset]
      let range ← rangeOf query
      return ⟨caller, .blueprintComposes id query.version, range⟩
  | _ => .error (.bare 404)

end Request

def Resource.isList : Resource → Bool
  | .composes | .clonesOf _ | .blueprints | .blueprintComposes _ => true
  | _ => false

def pageDocument (size : Nat) (links : Links) (data : List Json) : Json :=
  .obj [("meta", ListMeta.codec.write ⟨Int64.ofNat size⟩), ("links", Links.codec.write links),
    ("data", .arr data)]

def partOf (path : String) (range : Range) (items : List Json) : Response :=
  ⟨200, .json (pageDocument items.length (linksOf path range items.length) (range.of items).1)⟩

theorem document_page {ι : Type} (type path : String) (codec : Codec ι) (range : Range)
    (items : List ι) :
    Response.document 200 (Page.codec type codec) (pageOf path range (range.of items)) =
      partOf path range (items.map codec.write) := by
  rw [partOf, range_map, List.length_map]
  rfl

def Asked.answer (asked : Asked) (store : Store) (now : Timestamp) : Except Response Response :=
  ((asked.listing.items store asked.caller.org now).mapError Response.ofError).map
    (partOf asked.listing.path asked.range)

section Outcomes

variable {state : DeskState σ} {request : Request}

/-- Work that shows parts of a list is told as a part of the list. -/
theorem outcome_pages {ι : Type} {work : Work σ (List ι × Nat)} {whole : Except Error (List ι)}
    {range : Range} (pages : (outcome work state).1 = whole.map range.of) (type path : String)
    (codec : Codec ι) :
    (outcome (perform work >>= fun listed => (pure (.document 200 (Page.codec type codec)
        (pageOf path range listed)) : Answer σ Response)) state).1 =
      ((whole.map (·.map codec.write)).mapError Response.ofError).map (partOf path range) := by
  rw [outcome_told, pages]
  cases whole with
  | error error => rfl
  | ok items => exact congrArg Except.ok (document_page type path codec range items)

/-- What follows a part of the request that was read. -/
theorem outcome_read_bind {part : Except Response α} {next : α → Answer σ β}
    {other : α → Except Response β} (each : ∀ a, (outcome (next a) state).1 = other a) :
    (outcome (read part >>= next) state).1 = part >>= other := by
  rw [outcome_bind, outcome_read]
  cases part with
  | error response => rfl
  | ok a => exact each a

/-- The response to a request for a list. -/
theorem outcome_listed (desk : Desk σ) (legible : state.store.Legible) {resource : Resource}
    (list : resource.isList = true) :
    (outcome (Answer.resource desk request .get resource) state).1 =
      request.listed resource >>= fun asked =>
        asked.answer state.store (desk.now state.world).1 := by
  cases resource with
  | composes =>
      simp only [Request.listed, bind_assoc, pure_bind]
      refine outcome_read_bind fun caller => ?_
      refine outcome_read_bind fun query => outcome_read_bind fun range => ?_
      exact outcome_pages (Desk.composes_fst desk legible caller range) _ _ _
  | clonesOf segment =>
      simp only [Request.listed, bind_assoc, pure_bind]
      refine outcome_read_bind fun caller => outcome_read_bind fun id => ?_
      refine outcome_read_bind fun query => outcome_read_bind fun range => ?_
      exact outcome_pages (Desk.clones_fst legible caller id range) _ _ _
  | blueprints =>
      simp only [Request.listed, bind_assoc, pure_bind]
      refine outcome_read_bind fun caller => ?_
      refine outcome_read_bind fun query => outcome_read_bind fun range => ?_
      exact outcome_pages
        (Desk.blueprints_fst caller ⟨query.name, query.search⟩ range state) _ _ _
  | blueprintComposes segment =>
      simp only [Request.listed, bind_assoc, pure_bind]
      refine outcome_read_bind fun caller => outcome_read_bind fun id => ?_
      refine outcome_read_bind fun query => outcome_read_bind fun range => ?_
      exact outcome_pages
        (Desk.blueprintComposes_fst desk legible caller id query.version range) _ _ _
  | version | ready | distributions | architectures | compose | composeOf | metadataOf
  | cloneOf | clone | blueprint | exportOf | blueprintCompose => cases list

end Outcomes

end Api

end ComposeDesk
