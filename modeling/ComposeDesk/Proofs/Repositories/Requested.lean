import ComposeDesk.Client.Catalog
import ComposeDesk.Proofs.Keyed
import ComposeDesk.Proofs.Repositories.Represented
import Mathlib.Data.List.Induction
import Mathlib.Tactic.SplitIfs

/-!
# Repositories as they are asked for

A mention means the entries of the catalog with its URL, up to slashes, or with its identifier.
Either the first mention that means none is told, or the entries that are meant are listed, each
once, by the place of their first mention.  Where no two entries have one URL, a mention means one
entry at most, in whatever order the catalog is gone through.  So neither that order nor the order
of replies makes a difference to what is listed and what is pinned.
-/

namespace ComposeDesk

open Repositories

namespace Mention

def name : Mention → String
  | .url text => text
  | .id uuid => uuid

/-- An entry of the catalog is meant: it has the URL, up to slashes at the end, or the
identifier. -/
def Means (catalog : Catalog) (mention : Mention) (known : CatalogRepository) : Prop :=
  known ∈ catalog.map (·.2) ∧
    match mention with
    | .url text => ∃ held, known.url = some held ∧ SameButSlashes held text
    | .id uuid => known.uuid = uuid

/-- All mentions of some URLs and identifiers, URLs first. -/
def all (urls ids : List String) : List Mention :=
  urls.map .url ++ ids.map .id

variable {catalog : Catalog} {mention : Mention} {known : CatalogRepository}

theorem means_of_entry? (keyed : catalog.Keyed) (found : mention.entry? catalog = some known) :
    mention.Means catalog known := by
  refine ⟨entry?_mem found, ?_⟩
  cases mention with
  | url text => exact (findUrl?_some found).2
  | id uuid => exact (keyed.own _ (Catalog.get?_some found)).symm

theorem not_means_of_entry? (keyed : catalog.Keyed) (none : mention.entry? catalog = none)
    (known : CatalogRepository) : ¬ mention.Means catalog known := by
  rintro ⟨held, same⟩
  cases mention with
  | url text =>
      obtain ⟨url, own, alike⟩ := same
      exact findUrl?_eq_none_iff.mp none known held url own alike
  | id uuid =>
      obtain ⟨entry, among, rfl⟩ := List.mem_map.mp held
      have unknown := List.find?_eq_none.mp (Option.map_eq_none_iff.mp none) entry among
      exact unknown (beq_iff_eq.mpr ((keyed.own entry among).trans same))

end Mention

namespace Repositories

variable {catalog : Catalog}

/-- The first name that is not known is told. -/
theorem addAll_error {find : String → Option CatalogRepository} {ordered : List CatalogRepository}
    {names : List String} {fault : RepositoryFault}
    (failed : addAll find ordered names = .error fault) :
    ∃ before name after, names = before ++ name :: after ∧
      (∀ earlier ∈ before, ∃ known, find earlier = some known) ∧ find name = none ∧
      fault = .unresolved name := by
  induction names generalizing ordered with
  | nil => cases failed
  | cons name rest ih =>
      cases found : find name with
      | none =>
          rw [addAll, found] at failed
          cases failed
          exact ⟨[], name, rest, rfl, List.forall_mem_nil _, found, rfl⟩
      | some known =>
          rw [addAll, found] at failed
          obtain ⟨before, other, after, rfl, earlier, none, same⟩ := ih failed
          exact ⟨name :: before, other, after, rfl,
            List.forall_mem_cons.mpr ⟨⟨known, found⟩, earlier⟩, none, same⟩

/-- Listing goes through all mentions, and stops at the first one without an entry. -/
theorem ordered_cases (catalog : Catalog) (urls ids : List String) :
    (∃ before mention after, Mention.all urls ids = before ++ mention :: after ∧
      (∀ earlier ∈ before, ∃ known, earlier.entry? catalog = some known) ∧
      mention.entry? catalog = none ∧
      ordered catalog urls ids = .error (.unresolved mention.name)) ∨
    ∃ found : List CatalogRepository,
      (Mention.all urls ids).map (Mention.entry? catalog) = found.map some ∧
      ordered catalog urls ids = .ok (found.foldl addNew []) := by
  cases listed : ordered catalog urls ids with
  | ok result =>
      obtain ⟨byUrl, byId, urlsKnown, idsKnown, rfl⟩ := ordered_ok_iff.mp listed
      refine .inr ⟨byUrl ++ byId, ?_, rfl⟩
      rw [Mention.all, List.map_append, List.map_append, List.map_map, List.map_map]
      have byUrls := map_eq_of_forall₂ (fun _ _ found => found) urlsKnown
      have byIds := map_eq_of_forall₂ (fun _ _ found => found) idsKnown
      exact congrArg₂ (· ++ ·) byUrls byIds
  | error fault =>
      left
      cases first : addAll (findUrl? catalog) [] urls with
      | error told =>
          rw [ordered, first] at listed
          cases listed
          obtain ⟨before, name, after, rfl, earlier, none, rfl⟩ := addAll_error first
          refine ⟨before.map .url, .url name, after.map .url ++ ids.map .id, ?_, ?_, none, rfl⟩
          · rw [Mention.all, List.map_append, List.map_cons, List.append_assoc, List.cons_append]
          · exact List.forall_mem_map.mpr earlier
      | ok byUrl =>
          rw [ordered, first] at listed
          obtain ⟨before, name, after, rfl, earlier, none, rfl⟩ := addAll_error listed
          obtain ⟨found, urlsKnown, -⟩ := addAll_ok_iff.mp first
          refine ⟨urls.map .url ++ before.map .id, .id name, after.map .id, ?_, ?_, none, rfl⟩
          · rw [Mention.all, List.map_append, List.map_cons, List.append_assoc]
          · refine List.forall_mem_append.mpr ⟨List.forall_mem_map.mpr fun url among => ?_,
              List.forall_mem_map.mpr earlier⟩
            obtain ⟨known, -, found⟩ := exists_of_forall₂ urlsKnown among
            exact ⟨known, found⟩

/-- Entries that are added one by one are all there in the end, each at the place where it came
first. -/
theorem foldl_addNew_order {found : List CatalogRepository}
    (own : ∀ a ∈ found, ∀ b ∈ found, a.uuid = b.uuid → a = b) :
    (∀ known, known ∈ found.foldl addNew [] ↔ known ∈ found) ∧
      (found.foldl addNew []).Pairwise fun a b => found.idxOf a < found.idxOf b := by
  -- The last entry is taken off: what comes before it keeps its places.
  induction found using List.reverseRecOn with
  | nil => exact ⟨fun _ => .rfl, .nil⟩
  | append_singleton front last ih =>
      obtain ⟨members, order⟩ := ih fun a early b before =>
        own a (List.mem_append_left _ early) b (List.mem_append_left _ before)
      have kept : (front.foldl addNew []).Pairwise fun a b =>
          (front ++ [last]).idxOf a < (front ++ [last]).idxOf b := by
        refine order.imp_of_mem fun {a b} first second before => ?_
        rw [List.idxOf_append_of_mem ((members a).mp first),
          List.idxOf_append_of_mem ((members b).mp second)]
        exact before
      rw [List.foldl_append, List.foldl_cons, List.foldl_nil]
      rcases addNew_cases (front.foldl addNew []) last with ⟨held, same⟩ | ⟨new, added⟩
      · obtain ⟨other, among, equal⟩ := List.mem_map.mp held
        have early := (members other).mp among
        cases own other (List.mem_append_left _ early) last List.mem_concat_self equal
        rw [same]
        refine ⟨fun known => ?_, kept⟩
        rw [members, List.mem_append, List.mem_singleton]
        exact ⟨.inl, fun either => either.elim id fun last => last ▸ early⟩
      · rw [added]
        refine ⟨fun known => ?_, ?_⟩
        · rw [List.mem_append, List.mem_append, members]
        · have later : last ∉ front := fun early =>
            new (List.mem_map_of_mem ((members last).mpr early))
          refine List.pairwise_append.mpr ⟨kept, List.pairwise_singleton _ _, ?_⟩
          intro a first b at_end
          have early := (members a).mp first
          rw [List.mem_singleton.mp at_end, List.idxOf_append_of_mem early,
            List.idxOf_append_of_notMem later]
          exact Nat.lt_add_right _ (List.idxOf_lt_length_iff.mpr early)

theorem findIdx_choice {choice : Mention → Option CatalogRepository} {mentions : List Mention}
    {found : List CatalogRepository} (chosen : mentions.map choice = found.map some)
    (known : CatalogRepository) :
    mentions.findIdx (choice · == some known) = found.idxOf known := by
  calc mentions.findIdx (choice · == some known)
    _ = (mentions.map choice).findIdx (· == some known) := by
        rw [List.findIdx_map]
        rfl
    _ = (found.map some).findIdx (· == some known) := by rw [chosen]
    _ = found.findIdx ((· == some known) ∘ some) := List.findIdx_map ..
    _ = found.idxOf known := rfl

/-! ## Listing by mentions -/

/-- What is answered to some mentions. -/
inductive ByMention (catalog : Catalog) (mentions : List Mention) :
    Except RepositoryFault (List CatalogRepository) → Prop where
  /-- The first mention that means no entry is told. -/
  | unresolved {before after : List Mention} {mention : Mention}
      (first : mentions = before ++ mention :: after)
      (earlier : ∀ other ∈ before, ∃ known, other.Means catalog known)
      (unknown : ∀ known, ¬ mention.Means catalog known) :
      ByMention catalog mentions (.error (.unresolved mention.name))
  /-- An entry is chosen for each mention, and those are listed, each once, by the place of
  their first mention. -/
  | listed {choice : Mention → Option CatalogRepository} {result : List CatalogRepository}
      (represented : ∀ mention ∈ mentions,
        ∃ known ∈ result, choice mention = some known ∧ mention.Means catalog known)
      (asked : ∀ known ∈ result, ∃ mention ∈ mentions,
        choice mention = some known ∧ mention.Means catalog known)
      (distinct : (result.map (·.uuid)).Nodup)
      (order : result.Pairwise fun known later =>
        mentions.findIdx (choice · == some known) < mentions.findIdx (choice · == some later)) :
      ByMention catalog mentions (.ok result)

theorem ordered_byMention (keyed : catalog.Keyed) (urls ids : List String) :
    ByMention catalog (Mention.all urls ids) (ordered catalog urls ids) := by
  rcases ordered_cases catalog urls ids with
    ⟨before, mention, after, first, earlier, none, told⟩ | ⟨found, chosen, listed⟩
  · rw [told]
    refine .unresolved first (fun other among => ?_) (Mention.not_means_of_entry? keyed none)
    obtain ⟨known, found⟩ := earlier other among
    exact ⟨known, Mention.means_of_entry? keyed found⟩
  · have member_iff (known : CatalogRepository) :
        known ∈ found ↔ ∃ mention ∈ Mention.all urls ids, mention.entry? catalog = some known := by
      rw [← List.mem_map, chosen]
      simp only [List.mem_map, Option.some.injEq, exists_eq_right]
    have own : ∀ a ∈ found, ∀ b ∈ found, a.uuid = b.uuid → a = b := by
      intro a first b second same
      obtain ⟨_, -, entry⟩ := (member_iff a).mp first
      obtain ⟨_, -, other⟩ := (member_iff b).mp second
      exact keyed.eq_of_uuid (Mention.entry?_mem entry) (Mention.entry?_mem other) same
    obtain ⟨members, order⟩ := foldl_addNew_order own
    have distinct := ordered_nodup listed
    rw [listed]
    refine @ByMention.listed _ _ (Mention.entry? catalog) _ ?_ ?_ distinct ?_
    · intro mention among
      have held : mention.entry? catalog ∈ found.map some := by
        rw [← chosen]
        exact List.mem_map_of_mem among
      obtain ⟨known, inFound, entry⟩ := List.mem_map.mp held
      exact ⟨known, (members known).mpr inFound, entry.symm,
        Mention.means_of_entry? keyed entry.symm⟩
    · intro known held
      obtain ⟨mention, among, entry⟩ := (member_iff known).mp ((members known).mp held)
      exact ⟨mention, among, entry, Mention.means_of_entry? keyed entry⟩
    · refine order.imp fun {a b} before => ?_
      rw [findIdx_choice chosen, findIdx_choice chosen]
      exact before

end Repositories

namespace Catalog

variable {catalog other : Catalog} {repository : CatalogRepository}

theorem insert_of_not_mem (new : repository.uuid ∉ catalog.map (·.1)) :
    insert repository catalog = catalog ++ [(repository.uuid, repository)] := by
  induction catalog with
  | nil => rfl
  | cons entry rest ih =>
      obtain ⟨uuid, held⟩ := entry
      rw [List.map_cons, List.mem_cons, not_or] at new
      rw [insert, if_neg (Ne.symm new.1), ih new.2, List.cons_append]

theorem map_fst_insert_of_mem (held : repository.uuid ∈ catalog.map (·.1)) :
    (insert repository catalog).map (·.1) = catalog.map (·.1) := by
  induction catalog with
  | nil => cases held
  | cons entry rest ih =>
      obtain ⟨uuid, kept⟩ := entry
      rw [insert]
      split_ifs with same
      · rfl
      · rcases List.mem_cons.mp held with here | later
        · exact absurd here.symm same
        · rw [List.map_cons, List.map_cons, ih later]

theorem mem_insert {entry : String × CatalogRepository}
    (among : entry ∈ insert repository catalog) :
    entry = (repository.uuid, repository) ∨ entry ∈ catalog := by
  induction catalog with
  | nil => exact .inl (List.mem_singleton.mp among)
  | cons first rest ih =>
      obtain ⟨uuid, held⟩ := first
      rw [insert] at among
      split_ifs at among with same
      · rw [← same]
        exact (List.mem_cons.mp among).imp_right (List.mem_cons_of_mem _)
      · rcases List.mem_cons.mp among with rfl | later
        · exact .inr List.mem_cons_self
        · exact (ih later).imp_right (List.mem_cons_of_mem _)

theorem Keyed.insert (keyed : catalog.Keyed) (repository : CatalogRepository) :
    (insert repository catalog).Keyed where
  own entry among := by
    rcases mem_insert among with rfl | before
    · rfl
    · exact keyed.own entry before
  distinct := by
    by_cases held : repository.uuid ∈ catalog.map (·.1)
    · rw [map_fst_insert_of_mem held]
      exact keyed.distinct
    · rw [insert_of_not_mem held, List.map_append, List.map_singleton, ← List.concat_eq_append]
      exact List.Nodup.concat held keyed.distinct

/-- A catalog that is made of a reply is keyed, even where the reply repeats identifiers. -/
theorem keyed_ofList (reply : List CatalogRepository) : (ofList reply).Keyed := by
  induction reply using List.reverseRecOn with
  | nil => exact ⟨List.forall_mem_nil _, List.nodup_nil⟩
  | append_singleton front last ih =>
      rw [ofList, List.foldl_append]
      exact ih.insert last

/-- Entries with identifiers of their own are held as they come. -/
theorem ofList_eq_map {reply : List CatalogRepository} (distinct : (reply.map (·.uuid)).Nodup) :
    ofList reply = reply.map fun repository => (repository.uuid, repository) := by
  induction reply using List.reverseRecOn with
  | nil => rfl
  | append_singleton front last ih =>
      rw [List.map_append, List.map_singleton, ← List.concat_eq_append, List.nodup_concat]
        at distinct
      have early := ih distinct.2
      have new : last.uuid ∉ (ofList front).map (·.1) := by
        rw [early, List.map_map]
        exact distinct.1
      have step : ofList (front ++ [last]) = insert last (ofList front) := List.foldl_append
      rw [step, insert_of_not_mem new, early, List.map_append, List.map_singleton]

end Catalog

/-! ## Orders of catalogs and replies -/

/-- No two entries have one URL, up to slashes at the end. -/
def UrlsApart (entries : List CatalogRepository) : Prop :=
  ∀ known ∈ entries, ∀ other ∈ entries, ∀ url ∈ known.url, ∀ same ∈ other.url,
    SameButSlashes url same → known = other

instance (a b : String) : Decidable (SameButSlashes a b) :=
  decidable_of_iff _ sameUrl_iff

instance (entries : List CatalogRepository) : Decidable (UrlsApart entries) :=
  inferInstanceAs (Decidable (∀ known ∈ entries, ∀ other ∈ entries, ∀ url ∈ known.url,
    ∀ same ∈ other.url, SameButSlashes url same → known = other))

/-- Two replies have the same entries in some order, no two of one identifier or one URL. -/
structure CatalogRepository.Shuffled (reply swapped : List CatalogRepository) : Prop where
  moved : reply.Perm swapped
  distinct : (reply.map (·.uuid)).Nodup
  apart : UrlsApart reply

/-- Two catalogs are made of such replies, in whatever order they are gone through. -/
inductive Catalog.Shuffled (catalog other : Catalog) : Prop where
  | of {reply swapped : List CatalogRepository}
      (shuffled : CatalogRepository.Shuffled reply swapped)
      (made : catalog.Perm (Catalog.ofList reply)) (remade : other.Perm (Catalog.ofList swapped)) :
      Catalog.Shuffled catalog other

/-- Two replies have the same snapshots in some order, one at most of each repository. -/
structure SnapshotForDate.Shuffled (found others : List SnapshotForDate) : Prop where
  moved : found.Perm others
  distinct : (found.map (·.repositoryUuid)).Nodup

/-- From related worlds, two sets of services give the same entries and the same snapshots, each
in an order of its own. -/
structure Downstream.Shuffled {σ τ : Type} (related : σ → τ → Prop) (services : Downstream σ)
    (others : Downstream τ) : Prop where
  repositories : ∀ caller urls ids external,
    Accord related Catalog.Shuffled (services.repositories caller urls ids external)
      (others.repositories caller urls ids external)
  snapshotsForDate : ∀ caller date uuids, uuids.Nodup →
    Accord related SnapshotForDate.Shuffled (services.snapshotsForDate caller date uuids)
      (others.snapshotsForDate caller date uuids)

namespace Catalog

variable {catalog other : Catalog}

theorem Keyed.perm (keyed : catalog.Keyed) (moved : other.Perm catalog) : other.Keyed where
  own entry among := keyed.own entry (moved.subset among)
  distinct := (moved.map (·.1)).nodup_iff.mpr keyed.distinct

theorem Shuffled.perm (shuffled : catalog.Shuffled other) : catalog.Perm other := by
  obtain ⟨⟨moved, distinct, -⟩, made, remade⟩ := shuffled
  rw [ofList_eq_map distinct] at made
  rw [ofList_eq_map ((moved.map _).nodup_iff.mp distinct)] at remade
  exact made.trans ((moved.map _).trans remade.symm)

theorem Shuffled.keyed (shuffled : catalog.Shuffled other) : catalog.Keyed := by
  obtain ⟨-, made, -⟩ := shuffled
  exact (keyed_ofList _).perm made

theorem Shuffled.apart (shuffled : catalog.Shuffled other) : UrlsApart (catalog.map (·.2)) := by
  obtain ⟨⟨-, distinct, apart⟩, made, -⟩ := shuffled
  rw [ofList_eq_map distinct] at made
  have entries : (catalog.map (·.2)).Perm _ := made.map (·.2)
  rw [List.map_map, show Prod.snd ∘ (fun known : CatalogRepository => (known.uuid, known)) = id
    from rfl, List.map_id] at entries
  exact fun known held another among =>
    apart known (entries.subset held) another (entries.subset among)

end Catalog

/-- The client of the catalog makes such catalogs of such replies. -/
theorem CatalogClient.repositories_shuffled {ν ω : Type} {related : ν → ω → Prop} {link : Link ν}
    {other : Link ω} {base : String} {caller : Identity} {urls ids : List String} {external : Bool}
    (replies : Accord related CatalogRepository.Shuffled
      (link.fetch .get (Url.join base "repositories/") (query urls ids external) caller .none
        (collection CatalogRepository.codec))
      (other.fetch .get (Url.join base "repositories/") (query urls ids external) caller .none
        (collection CatalogRepository.codec))) :
    Accord related Catalog.Shuffled (repositories link base caller urls ids external)
      (repositories other base caller urls ids external) := by
  unfold repositories
  refine .ite (.pure ?_) (.bind replies fun reply swapped shuffled => .pure ?_)
  · have nothing : CatalogRepository.Shuffled [] [] := ⟨.nil, .nil, List.forall_mem_nil _⟩
    exact .of nothing .nil .nil
  · exact .of shuffled (.refl _) (.refl _)

namespace Repositories

variable {catalog other : Catalog} {urls ids : List String}

theorem sameButSlashes_of_both {first second url : String} (one : SameButSlashes first url)
    (two : SameButSlashes second url) : SameButSlashes first second := by
  rw [← sameUrl_iff, sameUrl, beq_iff_eq] at one two ⊢
  exact one.trans two.symm

/-- Where URLs are apart, one entry at most is found for a URL, in any order. -/
theorem findUrl?_perm (moved : catalog.Perm other) (apart : UrlsApart (catalog.map (·.2)))
    (url : String) : findUrl? catalog url = findUrl? other url := by
  refine find?_perm (moved.map (·.2)) fun a first b second wanted wants => ?_
  split at wanted
  next held own =>
    split at wants
    next kept its =>
      exact apart a first b second held own kept its
        (sameButSlashes_of_both (sameUrl_iff.mp wanted) (sameUrl_iff.mp wants))
    next => cases wants
  next => cases wanted

theorem get?_perm (moved : catalog.Perm other) (keyed : catalog.Keyed) (uuid : String) :
    catalog.get? uuid = other.get? uuid := by
  refine congrArg (Option.map (·.2)) (find?_perm moved fun a first b second wanted wants => ?_)
  exact List.inj_on_of_nodup_map keyed.distinct first second
    ((beq_iff_eq.mp wanted).trans (beq_iff_eq.mp wants).symm)

/-- What is listed does not depend on the order of a catalog whose URLs are apart. -/
theorem ordered_perm (moved : catalog.Perm other) (keyed : catalog.Keyed)
    (apart : UrlsApart (catalog.map (·.2))) (urls ids : List String) :
    ordered catalog urls ids = ordered other urls ids := by
  have byUrl : findUrl? catalog = findUrl? other := funext (findUrl?_perm moved apart)
  have byId : catalog.get? = other.get? := funext (get?_perm moved keyed)
  rw [ordered, ordered, byUrl, byId]

theorem ordered_shuffled (shuffled : catalog.Shuffled other) (urls ids : List String) :
    ordered catalog urls ids = ordered other urls ids :=
  ordered_perm shuffled.perm shuffled.keyed shuffled.apart urls ids

theorem snapshotOf?_shuffled {found others : List SnapshotForDate}
    (shuffled : SnapshotForDate.Shuffled found others) (uuid : String) :
    snapshotOf? found uuid = snapshotOf? others uuid := by
  have turned : found.reverse.Perm others.reverse :=
    found.reverse_perm.trans (shuffled.moved.trans others.reverse_perm.symm)
  refine congrArg (Option.bind · (·.snapshot)) (find?_perm turned ?_)
  intro a first b second wanted wants
  have one := beq_iff_eq.mp (Bool.and_eq_true_iff.mp wanted).1
  have two := beq_iff_eq.mp (Bool.and_eq_true_iff.mp wants).1
  exact List.inj_on_of_nodup_map shuffled.distinct (List.mem_reverse.mp first)
    (List.mem_reverse.mp second) (one.trans two.symm)

/-- Pinning only reads the snapshot of each entry. -/
theorem pin_congr {found others : List SnapshotForDate}
    (same : ∀ uuid, snapshotOf? found uuid = snapshotOf? others uuid) (expected done : Nat)
    (repositories : List CatalogRepository) :
    pin found expected done repositories = pin others expected done repositories := by
  induction repositories generalizing done with
  | nil => rfl
  | cons repository rest ih => rw [pin, pin, same, ih]

/-- What is pinned does not depend on the order of replies. -/
theorem snapshots_shuffled {σ τ : Type} {related : σ → τ → Prop} {services : Downstream σ}
    {others : Downstream τ} (shuffled : services.Shuffled related others) (caller : Identity)
    (urls ids : List String) (external : Bool) (date : String) :
    Agree related (snapshots services caller urls ids external date)
      (snapshots others caller urls ids external date) := by
  refine Accord.agree ?_
  unfold snapshots
  split
  · exact .throw _
  · refine .ite (.pure rfl)
      (.bind ((shuffled.repositories _ _ _ _).adapt _) fun catalog other same => ?_)
    rw [ordered_shuffled same]
    -- The second question is only alike if no identifier is asked for twice, as none is here.
    have listed : Matching (fun left right => left = right ∧ (left.map (·.uuid)).Nodup)
        (ordered other urls ids) (ordered other urls ids) := by
      cases listed : ordered other urls ids with
      | error fault => exact .error fault
      | ok result => exact .ok ⟨rfl, ordered_nodup listed⟩
    refine .bind (.lift listed) ?_
    rintro repositories _ ⟨rfl, distinct⟩
    split
    · exact .throw _
    · refine .bind ((shuffled.snapshotsForDate _ _ _ distinct).adapt _) fun found others moved => ?_
      exact .lift (.of_eq (pin_congr (snapshotOf?_shuffled moved) _ _ _))

/-- Repositories are listed as they are asked for.  Where no two entries of the catalog have one
URL, the order of the catalog makes no difference, nor do the orders of the replies from which
repositories are listed and pinned. -/
theorem ordered_by_request (keyed : catalog.Keyed) (urls ids : List String) :
    ByMention catalog (Mention.all urls ids) (ordered catalog urls ids) ∧
      (UrlsApart (catalog.map (·.2)) → ∀ other : Catalog, catalog.Perm other →
        ordered catalog urls ids = ordered other urls ids) ∧
      (∀ left right : Catalog, left.Shuffled right →
        ordered left urls ids = ordered right urls ids) ∧
      ∀ {σ τ : Type} (related : σ → τ → Prop) (services : Downstream σ) (others : Downstream τ),
        services.Shuffled related others → ∀ caller external date,
          Agree related (snapshots services caller urls ids external date)
            (snapshots others caller urls ids external date) :=
  ⟨ordered_byMention keyed urls ids,
    fun apart _ moved => ordered_perm moved keyed apart urls ids,
    fun _ _ shuffled => ordered_shuffled shuffled urls ids,
    fun _ _ _ shuffled caller external date =>
      snapshots_shuffled shuffled caller urls ids external date⟩

end Repositories

/-- Services that give what a mirror of some repositories gives, from the end of each reply. -/
def Downstream.backwards (known : List CatalogRepository) : Downstream Unit :=
  { Downstream.unreachable with
    repositories := fun _ _ _ _ => pure (Catalog.ofList known.reverse)
    snapshotsForDate := fun _ _ uuids =>
      pure (uuids.reverse.map fun uuid => ⟨uuid, some ⟨"", "https://snap/" ++ uuid, none⟩⟩) }

theorem Downstream.mirroring_shuffled {known : List CatalogRepository}
    (distinct : (known.map (·.uuid)).Nodup) (apart : UrlsApart known) :
    (mirroring known).Shuffled (fun _ _ => True) (backwards known) where
  repositories _ _ _ _ :=
    .pure (.of ⟨known.reverse_perm.symm, distinct, apart⟩ (.refl _) (.refl _))
  snapshotsForDate _ _ uuids once := by
    refine .pure ⟨(uuids.reverse_perm.map _).symm, ?_⟩
    rw [List.map_map]
    exact (List.map_id uuids).symm ▸ once

namespace Repositories

/-- Two repositories come as they are asked for, from a mirror and from its end. -/
theorem ordered_by_request_backwards :
    let known : List CatalogRepository :=
      [.mirrored "a" "https://a", .mirrored "b" "https://b/"]
    let catalog := Catalog.ofList known
    let caller : Identity := ⟨"1", "", "", "User", [], ""⟩
    catalog.Keyed ∧
      ByMention catalog [.url "https://b", .id "a"] (.ok known.reverse) ∧
      ordered catalog ["https://b"] ["a"] = ordered catalog.reverse ["https://b"] ["a"] ∧
      (outcome (snapshots (.mirroring known) caller ["https://b"] ["a"] true "2024-01-02") ()).1 =
        (outcome (snapshots (.backwards known) caller ["https://b"] ["a"] true "2024-01-02") ()).1 := by
  intro known catalog caller
  have keyed : catalog.Keyed := Catalog.keyed_ofList known
  have apart : UrlsApart known := by decide +kernel
  obtain ⟨byMention, anyOrder, -, anyReply⟩ := ordered_by_request keyed ["https://b"] ["a"]
  have listed : ordered catalog ["https://b"] ["a"] = .ok known.reverse := by decide +kernel
  rw [listed] at byMention
  refine ⟨keyed, byMention, anyOrder apart _ catalog.reverse_perm.symm, ?_⟩
  exact (anyReply _ _ _ (Downstream.mirroring_shuffled (by decide +kernel) apart) caller true
    "2024-01-02" () () trivial).1

end Repositories

end ComposeDesk
