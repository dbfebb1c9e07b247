import ComposeDesk.Proofs.Api.Linked

/-!
# Links between parts of lists

A response that shows a part of a list links to the first and to the last part.  The
links are read as addresses of the same list without its filters, so they lead to its
parts where there is no filter, and to parts of a longer list where there is one.
-/

namespace ComposeDesk

variable {σ : Type}

namespace Api

namespace Listing

/-- Whether some entries of the list may be left out. -/
def filters : Listing → Bool
  | .composes | .clones _ => false
  | .blueprints name search => name.isSome || search.isSome
  | .blueprintComposes _ version => version.isSome

theorem unfiltered_eq {listing : Listing} (plain : listing.filters = false) :
    listing.unfiltered = listing := by
  cases listing with
  | composes | clones => rfl
  | blueprints name search =>
      obtain ⟨names, searches⟩ := Bool.or_eq_false_iff.mp plain
      rw [unfiltered, Option.isNone_iff_eq_none.mp (Option.isSome_eq_false_iff.mp names),
        Option.isNone_iff_eq_none.mp (Option.isSome_eq_false_iff.mp searches)]
  | blueprintComposes id version =>
      rw [unfiltered, Option.isNone_iff_eq_none.mp (Option.isSome_eq_false_iff.mp plain)]

theorem path_unfiltered (listing : Listing) : listing.unfiltered.path = listing.path := by
  cases listing <;> rfl

theorem resource_isList (listing : Listing) : listing.resource.isList = true := by
  cases listing <;> rfl

variable {store : Store} {org : String} {now : Timestamp}

/-- Where a list is shown, it is shown without its filters. -/
theorem items_unfiltered (legible : store.Legible) {listing : Listing} {listed : List Json}
    (items : listing.items store org now = .ok listed) :
    ∃ whole, listing.unfiltered.items store org now = .ok whole := by
  cases listing with
  | composes | clones => exact ⟨listed, items⟩
  | blueprints => exact ⟨_, rfl⟩
  | blueprintComposes id version =>
      obtain ⟨composes, shown, -⟩ := map_eq_ok items
      obtain ⟨entry, found, -⟩ := bind_eq_ok shown
      obtain ⟨all, read, -⟩ := mapM_ok fun entry
        (held : entry ∈ store.composesOfBlueprint org id none now Desk.listingWindow) =>
          legible.composeItem (Store.composesOfBlueprint_mem held)
      have whole : Desk.composesListed store org now id none = .ok all := by
        rw [Desk.composesListed, found]
        exact read
      exact ⟨all.map ComposeItem.codec.write,
        congrArg (Except.map (List.map ComposeItem.codec.write)) whole⟩

/-- A list of a store of which the tables fit into memory does so, too. -/
theorem length_items_lt (fits : store.Fits) {listing : Listing} {listed : List Json}
    (items : listing.items store org now = .ok listed) :
    listed.length < 9223372036854775808 := by
  cases listing with
  | composes =>
      obtain ⟨composes, shown, rfl⟩ := map_eq_ok items
      have size := (forall₂_of_mapM_ok shown).length_eq
      rw [List.length_map, ← size]
      exact Nat.lt_of_le_of_lt Store.length_activeComposes_le fits.composes
  | clones id =>
      obtain ⟨clones, shown, rfl⟩ := map_eq_ok items
      have size := (forall₂_of_mapM_ok shown).length_eq
      rw [List.length_map, ← size]
      exact Nat.lt_of_le_of_lt Store.length_clonesOf_le fits.clones
  | blueprints name search =>
      cases items
      rw [List.length_map, List.length_map]
      exact Nat.lt_of_le_of_lt Store.length_findBlueprints_le fits.blueprints
  | blueprintComposes id version =>
      obtain ⟨composes, shown, rfl⟩ := map_eq_ok items
      obtain ⟨entry, -, following⟩ := bind_eq_ok shown
      obtain ⟨wanted, -, read⟩ := bind_eq_ok following
      have size := (forall₂_of_mapM_ok read).length_eq
      rw [List.length_map, ← size]
      exact Nat.lt_of_le_of_lt Store.length_composesOfBlueprint_le fits.composes

end Listing

/-- The time at which a list is made, after the time at which the request came. -/
def listingTime (desk : Desk σ) (world : σ) : Timestamp :=
  (desk.now (desk.now world).2).1

section Following

variable {desk : Desk σ} {state : DeskState σ} {request : Request} {version : String}
  {resource : Resource}

theorem answer_listed (legible : state.store.Legible) (gets : request.verb = .get)
    (route : Route.ofPath? request.path = some (.resource version resource))
    (list : resource.isList = true) :
    (answer desk request state).1 =
      madeOf (request.listed resource >>= fun asked =>
        asked.answer state.store (listingTime desk state.world)) := by
  have arrived : ({ state with world := (desk.now state.world).2 } : DeskState σ).store.Legible :=
    legible
  rw [answer_fst_of_resource desk gets (by decide) (by decide) route,
    outcome_listed desk arrived list]
  rfl

/-- Where a list can be shown, the response shows the part that was asked for. -/
theorem answer_of_listed (legible : state.store.Legible) (gets : request.verb = .get)
    (route : Route.ofPath? request.path = some (.resource version resource))
    (list : resource.isList = true) {asked : Asked} {items : List Json}
    (read : request.listed resource = .ok asked)
    (listed : asked.listing.items state.store asked.caller.org (listingTime desk state.world) =
      .ok items) :
    (answer desk request state).1 = partOf asked.listing.path asked.range items := by
  rw [answer_listed legible gets route list, read]
  show madeOf (asked.answer state.store (listingTime desk state.world)) = _
  rw [Asked.answer, listed]
  rfl

/-- A response that tells a count shows a part of a list. -/
theorem listed_of_count (legible : state.store.Legible) (gets : request.verb = .get)
    (route : Route.ofPath? request.path = some (.resource version resource))
    (list : resource.isList = true) {count : Int}
    (told : (answer desk request state).1.count? = some count) :
    ∃ asked items, request.listed resource = .ok asked ∧
      asked.listing.items state.store asked.caller.org (listingTime desk state.world) =
        .ok items := by
  rw [answer_listed legible gets route list] at told
  cases read : request.listed resource with
  | error response =>
      rw [read] at told
      cases (listed_fails request list response read).count?_eq.symm.trans told
  | ok asked =>
      cases listed : asked.listing.items state.store asked.caller.org
          (listingTime desk state.world) with
      | error error =>
          have failed : madeOf (asked.answer state.store (listingTime desk state.world)) =
              Response.ofError error := by
            rw [Asked.answer, listed]
            rfl
          rw [read] at told
          change (madeOf (asked.answer state.store _)).count? = some count at told
          rw [failed, count?_ofError] at told
          cases told
      | ok items => exact ⟨asked, items, rfl, listed⟩

/-- A link shows the linked part of the list without filters. -/
theorem answer_toward (legible : state.store.Legible) (gets : request.verb = .get)
    {asked : Asked} (named : request.caller = .ok asked.caller) {offset limit : Int}
    (linked : Linked offset limit) {whole : List Json}
    (items : asked.listing.unfiltered.items state.store asked.caller.org
      (listingTime desk state.world) = .ok whole) :
    (answer desk (request.toward (linkTo asked.listing.path offset limit)) state).1 =
      partOf asked.listing.path ⟨limit, offset⟩ whole := by
  have verb : (request.toward (linkTo asked.listing.path offset limit)).verb = .get := gets
  have path : (request.toward (linkTo asked.listing.path offset limit)).path =
      asked.listing.address := path_toward
  have read : (request.toward (linkTo asked.listing.path offset limit)).listed
      asked.listing.resource = .ok ⟨asked.caller, asked.listing.unfiltered, ⟨limit, offset⟩⟩ :=
    listed_toward linked named
  generalize request.toward (linkTo asked.listing.path offset limit) = link at verb path read ⊢
  have route : Route.ofPath? link.path = some (.resource "v1" asked.listing.resource) := by
    rw [path]
    exact asked.listing.route_address
  have shown := answer_of_listed legible verb route asked.listing.resource_isList read items
  rw [Listing.path_unfiltered] at shown
  exact shown

end Following

/-! ## Where links lead -/

section Leads

variable {desk : Desk σ} {state : DeskState σ} {request : Request} {asked : Asked}
  {items whole : List Json} {first last : String}

/-- Where the links of a response lead that shows a part of a list, for the same caller and
while the store and the time are the same. -/
structure Leads (desk : Desk σ) (state : DeskState σ) (request : Request) (asked : Asked)
    (items whole : List Json) (first last : String) : Prop where
  /-- The list that is asked for. -/
  listed : asked.listing.items state.store asked.caller.org (listingTime desk state.world) =
    .ok items
  /-- The same list without its filters. -/
  unfiltered : asked.listing.unfiltered.items state.store asked.caller.org
    (listingTime desk state.world) = .ok whole
  shown : (answer desk request state).1.Shows items.length (asked.range.of items).1
  toFirst : (answer desk request state).1.link? "first" = some first
  toLast : (answer desk request state).1.link? "last" = some last
  /-- The links lead to parts of the list without its filters. -/
  parts : ∀ later : DeskState σ, later.store = state.store →
    listingTime desk later.world = listingTime desk state.world →
      (answer desk (request.toward first) later).1.Shows whole.length
          (whole.take asked.range.limit.toNat) ∧
        (answer desk (request.toward last) later).1.Shows whole.length
          ((whole.drop (items.length - 1)).take asked.range.limit.toNat)

theorem Leads.whole_eq (leads : Leads desk state request asked items whole first last)
    (plain : asked.listing.filters = false) : whole = items := by
  have unfiltered := leads.unfiltered
  rw [Listing.unfiltered_eq plain, leads.listed] at unfiltered
  exact (Except.ok.inj unfiltered).symm

/-- Where no filter leaves an item out, the links lead to the first items and to the last item
of the list that is asked for. -/
theorem Leads.ends (leads : Leads desk state request asked items whole first last)
    (all : whole = items) (enough : 1 ≤ asked.range.limit) (filled : items ≠ [])
    {later : DeskState σ} (same : later.store = state.store)
    (time : listingTime desk later.world = listingTime desk state.world) :
    (answer desk (request.toward first) later).1.Shows items.length
        (items.take (min asked.range.limit.toNat items.length)) ∧
      (answer desk (request.toward last) later).1.Shows items.length
        [items.getLast filled] := by
  obtain ⟨beginning, ending⟩ := leads.parts later same time
  have limited : 1 ≤ asked.range.limit.toNat := by omega
  rw [all] at beginning ending
  rw [List.drop_length_sub_one filled, List.take_of_length_le limited] at ending
  rw [← List.take_eq_take_min]
  exact ⟨beginning, ending⟩

/-- A response with a count leads to parts of the list without its filters. -/
theorem leads_of_count (legible : state.store.Legible) (fits : state.store.Fits)
    (gets : request.verb = .get) {version : String} {resource : Resource}
    (route : Route.ofPath? request.path = some (.resource version resource))
    (list : resource.isList = true) {count : Int}
    (told : (answer desk request state).1.count? = some count) :
    ∃ asked items whole first last, request.listed resource = .ok asked ∧
      count = items.length ∧ Leads desk state request asked items whole first last := by
  obtain ⟨asked, items, read, listed⟩ := listed_of_count legible gets route list told
  have answered := answer_of_listed legible gets route list read listed
  obtain ⟨whole, unfiltered⟩ := Listing.items_unfiltered legible listed
  obtain ⟨named, size, small⟩ := of_listed_ok read
  have below := Listing.length_items_lt fits listed
  have wide := Listing.length_items_lt fits unfiltered
  have shown : (answer desk request state).1.Shows items.length (asked.range.of items).1 := by
    rw [answered]
    exact partOf_shows below
  have number : count = items.length := Option.some.inj (told.symm.trans shown.count)
  have part (later : DeskState σ) (same : later.store = state.store)
      (time : listingTime desk later.world = listingTime desk state.world) (offset : Nat)
      (near : offset < 9223372036854775808) :
      (answer desk (request.toward
        (linkTo asked.listing.path offset asked.range.limit)) later).1.Shows whole.length
        ((whole.drop offset).take asked.range.limit.toNat) := by
    have linked : Linked offset asked.range.limit := ⟨by omega, by omega, size, small⟩
    have legible' : later.store.Legible := same ▸ legible
    have unfiltered' : asked.listing.unfiltered.items later.store asked.caller.org
        (listingTime desk later.world) = .ok whole := by
      rw [same, time]
      exact unfiltered
    rw [answer_toward legible' gets named linked unfiltered']
    exact partOf_shows wide
  refine ⟨asked, items, whole, linkTo asked.listing.path 0 asked.range.limit,
    linkTo asked.listing.path (items.length - 1 : Nat) asked.range.limit, read, number, ?_⟩
  exact {
    listed, unfiltered, shown
    toFirst := by rw [answered]; exact partOf_first
    toLast := by rw [answered]; exact partOf_last
    parts := fun later same time =>
      ⟨part later same time 0 (by omega), part later same time (items.length - 1) (by omega)⟩ }

theorem after_legible (desk : Desk σ) (metrics : Metrics) (world : σ)
    (visits : List (Visit σ)) : (after desk (Desk.start metrics world) visits).store.Legible :=
  after_keep Store.Changes.legible Store.legible_empty visits

/-- After every run of requests, the links of a response with a count lead to parts of the
list without its filters.  Where no filter leaves an item out, these are the beginning and
the last item of the list that is asked for. -/
theorem links_lead (desk : Desk σ) (metrics : Metrics) (world : σ) (visits : List (Visit σ))
    {state : DeskState σ}
    (reached : state.store = (after desk (Desk.start metrics world) visits).store)
    (fits : state.store.Fits) {request : Request} (gets : request.verb = .get)
    {version : String} {resource : Resource}
    (route : Route.ofPath? request.path = some (.resource version resource))
    (list : resource.isList = true) {count : Int}
    (told : (answer desk request state).1.count? = some count) (positive : 1 ≤ count) :
    ∃ asked items whole first last, request.listed resource = .ok asked ∧
      count = items.length ∧ Leads desk state request asked items whole first last ∧
      (asked.listing.filters = false → whole = items) ∧
      (whole = items → 1 ≤ asked.range.limit →
        ∀ later : DeskState σ, later.store = state.store →
          listingTime desk later.world = listingTime desk state.world →
            (answer desk (request.toward first) later).1.Shows items.length
                (items.take (min asked.range.limit.toNat items.length)) ∧
              ∃ item, items.getLast? = some item ∧
                (answer desk (request.toward last) later).1.Shows items.length [item]) := by
  have legible : state.store.Legible := reached ▸ after_legible desk metrics world visits
  obtain ⟨asked, items, whole, first, last, read, number, leads⟩ :=
    leads_of_count legible fits gets route list told
  have filled : items ≠ [] := List.length_pos_iff.mp (by omega)
  refine ⟨asked, items, whole, first, last, read, number, leads, leads.whole_eq, ?_⟩
  intro all enough later same time
  obtain ⟨beginning, ending⟩ := leads.ends all enough filled same time
  exact ⟨beginning, _, List.getLast?_eq_some_getLast filled, ending⟩

def naming (name : String) : Request where
  verb := .post
  target := "/api/image-builder/v1/blueprints"
  identity := some header
  contentType := some "application/json"
  body := Utf8.encode
    (BlueprintRequest.codec.write ⟨name, "", "rhel-9", [], .empty⟩).compact

def browsing (query : String) : Request where
  verb := .get
  target := "/api/image-builder/v1/blueprints" ++ query
  identity := some header
  contentType := none
  body := []

def pair : List (Visit (List Uuid)) :=
  [⟨naming "web", [Desk.uniform 1, Desk.uniform 2]⟩,
    ⟨naming "db", [Desk.uniform 3, Desk.uniform 4]⟩]

def paired : DeskState (List Uuid) :=
  after Desk.sealing (Desk.start .empty []) pair

theorem paired_fits : paired.store.Fits := by
  have sizes : paired.store.composes.length = 0 ∧ paired.store.clones.length = 0 ∧
      paired.store.blueprints.length = 2 := by decide +kernel
  obtain ⟨composes, clones, blueprints⟩ := sizes
  constructor <;> omega

def visitor : Identity :=
  ⟨"1", "", "", "", [], header⟩

/-- How many blueprints the caller is told of, and the link to the first ones. -/
theorem paired_shown {query : String} {name search : Option String} {range : Range}
    (route : Route.ofPath? (browsing query).path = some (.resource "v1" .blueprints))
    (read : ((browsing query).listed .blueprints).toOption =
      some ⟨visitor, .blueprints name search, range⟩) :
    (answer Desk.sealing (browsing query) paired).1.count? =
        some ((paired.store.findBlueprints "1" ⟨name, search⟩).length : Int) ∧
      (answer Desk.sealing (browsing query) paired).1.link? "first" =
        some (linkTo "/blueprints" 0 range.limit) := by
  have legible : paired.store.Legible := after_legible _ _ _ _
  have listed : (Listing.blueprints name search).items paired.store visitor.org
      (listingTime Desk.sealing paired.world) = .ok _ := rfl
  rw [answer_of_listed legible rfl route rfl (eq_ok_of_toOption read) listed]
  refine ⟨(partOf_shows (Listing.length_items_lt paired_fits listed)).count.trans ?_, partOf_first⟩
  rw [List.length_map, List.length_map]
  rfl

theorem paired_all : (paired.store.findBlueprints "1" ⟨none, none⟩).length = 2 := by
  rw [(paired.store.findBlueprints_perm "1" ⟨none, none⟩).length_eq]
  decide +kernel

theorem paired_web : (paired.store.findBlueprints "1" ⟨some "web", none⟩).length = 1 := by
  rw [(paired.store.findBlueprints_perm "1" ⟨some "web", none⟩).length_eq]
  decide +kernel

theorem links_lead_paired :
    (answer Desk.sealing (browsing "?limit=1") paired).1.count? = some 2 ∧
      ∃ first last,
        (answer Desk.sealing (browsing "?limit=1") paired).1.link? "first" = some first ∧
        (answer Desk.sealing (browsing "?limit=1") paired).1.link? "last" = some last ∧
        (answer Desk.sealing ((browsing "?limit=1").toward first) paired).1.count? = some 2 ∧
        (answer Desk.sealing ((browsing "?limit=1").toward last) paired).1.count? = some 2 := by
  have route : Route.ofPath? (browsing "?limit=1").path = some (.resource "v1" .blueprints) := by
    decide +kernel
  have read : ((browsing "?limit=1").listed .blueprints).toOption =
      some ⟨visitor, .blueprints none none, ⟨1, 0⟩⟩ := by decide +kernel
  have told := (paired_shown route read).1
  rw [paired_all] at told
  obtain ⟨asked, items, whole, first, last, listed, number, leads, plain, ends⟩ :=
    links_lead Desk.sealing .empty [] pair rfl paired_fits rfl route rfl told (by decide)
  cases (eq_ok_of_toOption read).symm.trans listed
  obtain ⟨beginning, item, -, ending⟩ := ends (plain rfl) (by decide) paired rfl rfl
  refine ⟨told, first, last, leads.toFirst, leads.toLast, ?_, ?_⟩
  · rw [beginning.count, ← number]
    rfl
  · rw [ending.count, ← number]
    rfl

/-- The first link of a filtered list leads to a longer list. -/
theorem filtered_link_strays :
    ∃ first, (answer Desk.sealing (browsing "?name=web") paired).1.count? = some 1 ∧
      (answer Desk.sealing (browsing "?name=web") paired).1.link? "first" = some first ∧
      (answer Desk.sealing ((browsing "?name=web").toward first) paired).1.count? = some 2 := by
  have route : Route.ofPath? (browsing "?name=web").path = some (.resource "v1" .blueprints) := by
    decide +kernel
  have read : ((browsing "?name=web").listed .blueprints).toOption =
      some ⟨visitor, .blueprints (some "web") none, ⟨100, 0⟩⟩ := by decide +kernel
  have routeFirst : Route.ofPath? (browsing "?offset=0&limit=100").path =
      some (.resource "v1" .blueprints) := by decide +kernel
  have readFirst : ((browsing "?offset=0&limit=100").listed .blueprints).toOption =
      some ⟨visitor, .blueprints none none, ⟨100, 0⟩⟩ := by decide +kernel
  have led : (browsing "?name=web").toward (linkTo "/blueprints" 0 100) =
      browsing "?offset=0&limit=100" := by decide +kernel
  obtain ⟨told, first⟩ := paired_shown route read
  rw [paired_web] at told
  refine ⟨_, told, first, ?_⟩
  rw [led, (paired_shown routeFirst readFirst).1, paired_all]
  rfl

end Leads

end Api

end ComposeDesk
