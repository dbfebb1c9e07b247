import ComposeDesk.Proofs.Api.Addresses
import ComposeDesk.Proofs.Api.Listings
import ComposeDesk.Proofs.Listings

/-!
# Requests for linked parts

The address of a part of a list is read as that list and that part, and a response shows
how many entries the list has, some of them, and its links.
-/

namespace ComposeDesk

variable {σ : Type}

namespace Store

variable {store : Store} {org : String} {now : Timestamp} {window : Int}

/-- All tables have fewer rows than 64 bits can count, as tables in memory have. -/
structure Fits (store : Store) : Prop where
  composes : store.composes.length < 9223372036854775808
  clones : store.clones.length < 9223372036854775808
  blueprints : store.blueprints.length < 9223372036854775808

theorem length_activeComposes_le :
    (store.activeComposes org now window).length ≤ store.composes.length := by
  rw [activeComposes, newestFirst, List.length_mergeSort, List.length_map]
  exact List.length_filter_le _ _

theorem length_composesOfBlueprint_le {id : Uuid} {number : Option Int} :
    (store.composesOfBlueprint org id number now window).length ≤ store.composes.length :=
  Nat.le_trans (List.length_filter_le _ _) length_activeComposes_le

theorem length_clonesOf_le {id : Uuid} :
    (store.clonesOf id org).length ≤ store.clones.length := by
  unfold clonesOf
  split
  · rw [newestFirst, List.length_mergeSort]
    exact List.length_filter_le _ _
  · exact Nat.zero_le _

theorem length_findBlueprints_le {filter : BlueprintFilter} :
    (store.findBlueprints org filter).length ≤ store.blueprints.length := by
  rw [(store.findBlueprints_perm org filter).length_eq]
  exact Nat.le_trans (List.length_filterMap_le _ _) (List.length_filter_le _ _)

end Store

namespace Api

namespace Listing

def segments : Listing → List String
  | .composes => ["composes"]
  | .clones id => ["composes", id.toText, "clones"]
  | .blueprints _ _ => ["blueprints"]
  | .blueprintComposes id _ => ["blueprints", id.toText, "composes"]

def address (listing : Listing) : String :=
  root ++ "v1" ++ listing.path

theorem address_eq (listing : Listing) :
    listing.address =
      "/".intercalate ("" :: "api" :: "image-builder" :: "v1" :: listing.segments) := by
  refine String.toList_inj.mp ?_
  cases listing with
  | composes | blueprints => rfl
  | clones id | blueprintComposes id =>
      simp only [address, path, segments, String.intercalate_cons_cons,
        String.intercalate_singleton, String.toList_append, List.append_assoc]
      rfl

theorem segment_of_mem (listing : Listing) :
    ∀ text ∈ "" :: "api" :: "image-builder" :: "v1" :: listing.segments, Segment text := by
  have fixed : ∀ text ∈ ["", "api", "image-builder", "v1", "composes", "clones", "blueprints"],
      Segment text := by
    decide
  simp only [List.forall_mem_cons] at fixed ⊢
  obtain ⟨empty, api, name, version, composes, clones, blueprints, -⟩ := fixed
  refine ⟨empty, api, name, version, ?_⟩
  cases listing with
  | composes => exact List.forall_mem_singleton.mpr composes
  | blueprints => exact List.forall_mem_singleton.mpr blueprints
  | clones id =>
      simp only [segments, List.forall_mem_cons]
      exact ⟨composes, id.segment_toText, clones, List.forall_mem_nil _⟩
  | blueprintComposes id =>
      simp only [segments, List.forall_mem_cons]
      exact ⟨blueprints, id.segment_toText, composes, List.forall_mem_nil _⟩

/-- The address of a list is one of its resource. -/
theorem route_address (listing : Listing) :
    Route.ofPath? listing.address = some (.resource "v1" listing.resource) := by
  have each := listing.segment_of_mem
  have parts := parts_intercalate (each "" List.mem_cons_self)
    (fun text member => each text (List.mem_cons_of_mem "" member))
  rw [Route.ofPath?, address_eq, parts]
  cases listing with
  | composes | blueprints => rfl
  | clones id =>
      have known : Resource.ofParts? (segments (.clones id)) = some (.clonesOf id.toText) :=
        if_neg id.toText_ne_empty
      exact congrArg (Option.map (Route.resource "v1")) known
  | blueprintComposes id version =>
      have known : Resource.ofParts? (segments (.blueprintComposes id version)) =
          some (.blueprintComposes id.toText) := if_neg id.toText_ne_empty
      exact congrArg (Option.map (Route.resource "v1")) known

theorem ne_mark_of_mem_address (listing : Listing) :
    ∀ c ∈ listing.address.toList, c ≠ '?' ∧ c ≠ '#' := by
  rw [address_eq]
  exact ne_mark_of_mem_intercalate listing.segment_of_mem

end Listing

namespace Request

/-- The same caller asks for another target. -/
def toward (request : Request) (target : String) : Request :=
  { request with target }

end Request

section Link

variable {request : Request} {listing : Listing} {offset limit : Int}

/-- A link to a part of a list, and numbers that can be read back. -/
structure Linked (offset limit : Int) : Prop where
  start : 0 ≤ offset
  near : offset ≤ 9223372036854775807
  size : 0 ≤ limit
  small : limit ≤ 9223372036854775807

theorem path_toward : (request.toward (linkTo listing.path offset limit)).path =
    listing.address :=
  path_of_target (toList_linkTo listing.path offset limit) listing.ne_mark_of_mem_address

theorem query_toward (linked : Linked offset limit) :
    (request.toward (linkTo listing.path offset limit)).query = partQuery offset limit :=
  query_of_target (toList_linkTo listing.path offset limit) listing.ne_mark_of_mem_address
    (ne_hash_of_mem_partQuery linked.start linked.size)

theorem queryOf_toward (linked : Linked offset limit) {known : List Parameter}
    (offsets : known.find? (·.key = "offset") = some .offset)
    (limits : known.find? (·.key = "limit") = some .limit) :
    queryOf (request.toward (linkTo listing.path offset limit)) known =
      .ok ⟨some limit, some offset, none, none, none⟩ := by
  rw [queryOf, query_toward linked, ofText_partQuery offsets limits linked.start linked.size
    linked.near linked.small]
  rfl

theorem rangeOf_link (linked : Linked offset limit) :
    rangeOf ⟨some limit, some offset, none, none, none⟩ = .ok ⟨limit, offset⟩ := by
  have natural : ¬ (limit < 0 ∨ offset < 0) := by
    have := linked.start
    have := linked.size
    omega
  simp only [rangeOf, Query.range?, Option.getD_some, if_neg natural]

/-- What is asked for by following a link: the linked part of the list without filters. -/
theorem listed_toward (linked : Linked offset limit) {caller : Identity}
    (named : request.caller = .ok caller) :
    (request.toward (linkTo listing.path offset limit)).listed listing.resource =
      .ok ⟨caller, listing.unfiltered, ⟨limit, offset⟩⟩ := by
  have same : (request.toward (linkTo listing.path offset limit)).caller = .ok caller := named
  have query : ∀ known : List Parameter, known.find? (·.key = "offset") = some .offset →
      known.find? (·.key = "limit") = some .limit →
      queryOf (request.toward (linkTo listing.path offset limit)) known =
        .ok ⟨some limit, some offset, none, none, none⟩ := fun _ => queryOf_toward linked
  have range := rangeOf_link linked
  cases listing with
  | composes =>
      have numbers := query [.limit, .offset] (by decide) (by decide)
      simp only [Request.listed, Listing.resource, same, numbers, range, bind, Except.bind]
      rfl
  | clones id =>
      have numbers := query [.limit, .offset] (by decide) (by decide)
      simp only [Request.listed, Listing.resource, same, identifier_toText, numbers, range, bind,
        Except.bind]
      rfl
  | blueprints name search =>
      have numbers := query [.name, .search, .limit, .offset] (by decide) (by decide)
      simp only [Request.listed, Listing.resource, same, numbers, range, bind, Except.bind]
      rfl
  | blueprintComposes id version =>
      have numbers := query [.version, .limit, .offset] (by decide) (by decide)
      simp only [Request.listed, Listing.resource, same, identifier_toText, numbers, range, bind,
        Except.bind]
      rfl

theorem range_of_query {known : List Parameter} {query : Query} {range : Range}
    (queried : queryOf request known = .ok query) (ranged : rangeOf query = .ok range) :
    0 ≤ range.limit ∧ range.limit ≤ 9223372036854775807 := by
  have limited := ofText_limited (mapError_eq_ok_iff.mp queried)
  simp only [rangeOf, Query.range?] at ranged
  by_cases negative : query.limit.getD Query.defaultLimit < 0 ∨ query.offset.getD 0 < 0
  · rw [if_pos negative] at ranged
    cases ranged
  · rw [if_neg negative] at ranged
    cases ranged
    refine ⟨Int.not_lt.mp fun small => negative (.inl small), ?_⟩
    cases asked : query.limit with
    | none => exact (by decide : (100 : Int) ≤ 9223372036854775807)
    | some n => exact limited n asked

/-- What a request for a list asks for is asked by its caller, for a part that a number of
64 bits can tell. -/
theorem of_listed_ok {resource : Resource} {asked : Asked}
    (read : request.listed resource = .ok asked) :
    request.caller = .ok asked.caller ∧ 0 ≤ asked.range.limit ∧
      asked.range.limit ≤ 9223372036854775807 := by
  cases resource with
  | composes | blueprints =>
      obtain ⟨caller, named, rest⟩ := bind_eq_ok read
      obtain ⟨query, queried, rest⟩ := bind_eq_ok rest
      obtain ⟨range, ranged, rest⟩ := bind_eq_ok rest
      cases rest
      exact ⟨named, range_of_query queried ranged⟩
  | clonesOf segment | blueprintComposes segment =>
      obtain ⟨caller, named, rest⟩ := bind_eq_ok read
      obtain ⟨id, -, rest⟩ := bind_eq_ok rest
      obtain ⟨query, queried, rest⟩ := bind_eq_ok rest
      obtain ⟨range, ranged, rest⟩ := bind_eq_ok rest
      cases rest
      exact ⟨named, range_of_query queried ranged⟩
  | version | ready | distributions | architectures | compose | composeOf | metadataOf
  | cloneOf | clone | blueprint | exportOf | blueprintCompose => cases read

end Link

namespace Response

def json? (response : Response) : Option Json :=
  match response.content with
  | .json document => some document
  | _ => none

def count? (response : Response) : Option Int := do
  let size ← (← response.json?).get? "meta"
  match ← size.get? "count" with
  | .num (.int count) => some count
  | _ => none

def items? (response : Response) : Option (List Json) := do
  match ← (← response.json?).get? "data" with
  | .arr items => some items
  | _ => none

def link? (response : Response) (name : String) : Option String := do
  let links ← (← response.json?).get? "links"
  match ← links.get? name with
  | .str target => some target
  | _ => none

/-- A response shows some items of a list, and the size of the list. -/
structure Shows (response : Response) (size : Nat) (items : List Json) : Prop where
  status : response.status = 200
  count : response.count? = some (size : Int)
  items : response.items? = some items

end Response

section Views

variable {path : String} {range : Range} {items : List Json}

theorem partOf_shows (small : items.length < 9223372036854775808) :
    (partOf path range items).Shows items.length (range.of items).1 where
  status := rfl
  count := congrArg some (Int64.toInt_ofNat_of_lt small)
  items := rfl

theorem partOf_first :
    (partOf path range items).link? "first" = some (linkTo path 0 range.limit) :=
  rfl

theorem partOf_last : (partOf path range items).link? "last" =
    some (linkTo path (items.length - 1 : Nat) range.limit) :=
  rfl

end Views

theorem Response.Fault.count?_eq {response : Response} (fault : response.Fault) :
    response.count? = none := by
  cases fault <;> rfl

theorem count?_ofError (error : Error) : (Response.ofError error).count? = none := by
  cases error <;> rfl

/-- Where no list is asked for, that is the caller's fault. -/
theorem listed_fails (request : Request) {resource : Resource} (list : resource.isList = true) :
    Fails Response.Fault (request.listed resource) := by
  cases resource with
  | composes | blueprints =>
      refine .bind request.caller_fails fun caller => ?_
      exact .bind (queryOf_fails _ _) fun query => .bind (rangeOf_fails query) fun range => .ok _
  | clonesOf segment | blueprintComposes segment =>
      refine .bind request.caller_fails fun caller => ?_
      refine .bind (Request.identifier_fails segment) fun id => ?_
      exact .bind (queryOf_fails _ _) fun query => .bind (rangeOf_fails query) fun range => .ok _
  | version | ready | distributions | architectures | compose | composeOf | metadataOf
  | cloneOf | clone | blueprint | exportOf | blueprintCompose => cases list

end Api

end ComposeDesk
