import ComposeDesk.Proofs.Itemwise
import ComposeDesk.Repositories
import Mathlib.Data.List.Nodup

/-!
# Catalog entries in the order of mention

Repositories are asked for by URLs and identifiers, and each entry of the catalog
that is mentioned is listed once, where it is mentioned first.  The list is as long
as the mentions only if no two of them mean the same entry; then it is the entries of
the mentions themselves.
-/

namespace ComposeDesk

namespace Repositories

/-- Without the slashes at its end, a text is what comes before them. -/
theorem withoutSlashes_append (url : String) :
    ∃ count, url.toList = withoutSlashes url ++ List.replicate count '/' := by
  refine ⟨(url.toList.reverse.takeWhile (· == '/')).length, ?_⟩
  have slashes : url.toList.reverse.takeWhile (· == '/') =
      List.replicate (url.toList.reverse.takeWhile (· == '/')).length '/' := by
    apply List.eq_replicate_iff.mpr
    constructor
    · rfl
    · intro c member
      have slash := List.all_eq_true.mp (List.all_takeWhile (p := (· == '/'))) c member
      exact beq_iff_eq.mp slash
  have whole := List.takeWhile_append_dropWhile (p := (· == '/')) (l := url.toList.reverse)
  rw [slashes] at whole
  have turned := congrArg List.reverse whole
  rw [List.reverse_append, List.reverse_reverse, List.reverse_replicate] at turned
  exact turned.symm

/-- Slashes at the end make no difference. -/
theorem dropWhile_reverse_append (front : List Char) (count : Nat) :
    (front ++ List.replicate count '/').reverse.dropWhile (· == '/') =
      front.reverse.dropWhile (· == '/') := by
  rw [List.reverse_append, List.reverse_replicate]
  induction count with
  | zero => rfl
  | succ count ih =>
      rw [List.replicate_succ, List.cons_append, List.dropWhile_cons]
      exact ih

/-- One text with slashes after it makes both. -/
def SameButSlashes (a b : String) : Prop :=
  ∃ front first second, a.toList = front ++ List.replicate first '/' ∧
    b.toList = front ++ List.replicate second '/'

theorem sameUrl_iff {a b : String} : sameUrl a b = true ↔ SameButSlashes a b := by
  unfold sameUrl
  rw [beq_iff_eq]
  constructor
  · intro same
    obtain ⟨first, left⟩ := withoutSlashes_append a
    obtain ⟨second, right⟩ := withoutSlashes_append b
    rw [← same] at right
    exact ⟨withoutSlashes a, first, second, left, right⟩
  · rintro ⟨front, first, second, left, right⟩
    unfold withoutSlashes
    rw [left, right, dropWhile_reverse_append, dropWhile_reverse_append]

variable {catalog : Catalog} {known : CatalogRepository}

/-- What is found for a URL is an entry of the catalog with that URL. -/
theorem findUrl?_some {url : String} (found : findUrl? catalog url = some known) :
    known ∈ catalog.map (·.2) ∧ ∃ held, known.url = some held ∧ SameButSlashes held url := by
  unfold findUrl? at found
  constructor
  · exact List.mem_of_find?_eq_some found
  · have matching := List.find?_some found
    split at matching
    · rename_i held form
      exact ⟨held, form, sameUrl_iff.mp matching⟩
    · cases matching

/-- Nothing is found for a URL if no entry of the catalog has it. -/
theorem findUrl?_eq_none_iff {url : String} :
    findUrl? catalog url = none ↔
      ∀ known ∈ catalog.map (·.2), ∀ held, known.url = some held → ¬ SameButSlashes held url := by
  unfold findUrl?
  rw [List.find?_eq_none]
  apply forall₂_congr
  intro known _
  cases form : known.url with
  | none => simp
  | some held => simp [← sameUrl_iff]

end Repositories

/-- What is found for an identifier is an entry of the catalog under it. -/
theorem Catalog.get?_some {catalog : Catalog} {known : CatalogRepository} {uuid : String}
    (found : catalog.get? uuid = some known) : (uuid, known) ∈ catalog := by
  unfold Catalog.get? at found
  obtain ⟨entry, held, rfl⟩ := Option.map_eq_some_iff.mp found
  have same : entry.1 = uuid := by simpa using List.find?_some held
  rw [← same]
  exact List.mem_of_find?_eq_some held

namespace Repositories

variable {ordered found result : List CatalogRepository} {repository : CatalogRepository}

theorem addNew_of_mem (held : repository.uuid ∈ ordered.map (·.uuid)) :
    addNew ordered repository = ordered := by
  obtain ⟨other, member, same⟩ := List.mem_map.mp held
  unfold addNew
  rw [if_pos]
  exact List.any_eq_true.mpr ⟨other, member, beq_iff_eq.mpr same⟩

theorem addNew_of_not_mem (new : repository.uuid ∉ ordered.map (·.uuid)) :
    addNew ordered repository = ordered ++ [repository] := by
  unfold addNew
  rw [if_neg]
  intro held
  obtain ⟨other, member, same⟩ := List.any_eq_true.mp held
  exact new (List.mem_map.mpr ⟨other, member, beq_iff_eq.mp same⟩)

/-- A repository is added at the end, or one of its identifier is there. -/
theorem addNew_cases (ordered : List CatalogRepository) (repository : CatalogRepository) :
    (repository.uuid ∈ ordered.map (·.uuid) ∧ addNew ordered repository = ordered) ∨
      (repository.uuid ∉ ordered.map (·.uuid) ∧
        addNew ordered repository = ordered ++ [repository]) := by
  by_cases held : repository.uuid ∈ ordered.map (·.uuid)
  · exact .inl ⟨held, addNew_of_mem held⟩
  · exact .inr ⟨held, addNew_of_not_mem held⟩

theorem addNew_nodup (distinct : (ordered.map (·.uuid)).Nodup) (repository : CatalogRepository) :
    ((addNew ordered repository).map (·.uuid)).Nodup := by
  rcases addNew_cases ordered repository with ⟨-, same⟩ | ⟨new, added⟩
  · rw [same]
    exact distinct
  · rw [added, List.map_append, List.map_singleton, ← List.concat_eq_append]
    exact List.Nodup.concat new distinct

theorem foldl_addNew_nodup (distinct : (ordered.map (·.uuid)).Nodup)
    (found : List CatalogRepository) :
    ((found.foldl addNew ordered).map (·.uuid)).Nodup := by
  induction found generalizing ordered with
  | nil => exact distinct
  | cons repository rest ih => exact ih (addNew_nodup distinct repository)

/-- Only what is added comes to what was there. -/
theorem mem_foldl_addNew (member : repository ∈ found.foldl addNew ordered) :
    repository ∈ ordered ∨ repository ∈ found := by
  induction found generalizing ordered with
  | nil => exact .inl member
  | cons first rest ih =>
      rcases ih member with before | later
      · rcases addNew_cases ordered first with ⟨-, same⟩ | ⟨-, added⟩
        · rw [same] at before
          exact .inl before
        · rw [added] at before
          rcases List.mem_append.mp before with held | new
          · exact .inl held
          · rw [List.mem_singleton.mp new]
            exact .inr List.mem_cons_self
      · exact .inr (List.mem_cons_of_mem first later)

/-- What was there stays in its place. -/
theorem prefix_foldl_addNew (ordered found : List CatalogRepository) :
    ordered <+: found.foldl addNew ordered := by
  induction found generalizing ordered with
  | nil => exact List.prefix_rfl
  | cons first rest ih =>
      refine List.IsPrefix.trans ?_ (ih (addNew ordered first))
      rcases addNew_cases ordered first with ⟨-, same⟩ | ⟨-, added⟩
      · exact ⟨[], (List.append_nil ordered).trans same.symm⟩
      · rw [added]
        exact List.prefix_append ordered [first]

/-- Whatever is added is there afterwards, or an entry of the same identifier is. -/
theorem exists_uuid_foldl_addNew (ordered : List CatalogRepository) (member : repository ∈ found) :
    ∃ known ∈ found.foldl addNew ordered, known.uuid = repository.uuid := by
  induction found generalizing ordered with
  | nil => cases member
  | cons first rest ih =>
      rcases List.mem_cons.mp member with rfl | later
      · have kept := (prefix_foldl_addNew (addNew ordered repository) rest).subset
        rcases addNew_cases ordered repository with ⟨held, same⟩ | ⟨-, added⟩
        · obtain ⟨known, among, equal⟩ := List.mem_map.mp held
          rw [← same] at among
          exact ⟨known, kept among, equal⟩
        · have last : repository ∈ addNew ordered repository := by
            rw [added]
            exact List.mem_append_right ordered (List.mem_singleton_self repository)
          exact ⟨repository, kept last, rfl⟩
      · exact ih (addNew ordered first) later

theorem length_foldl_addNew_le (ordered found : List CatalogRepository) :
    (found.foldl addNew ordered).length ≤ ordered.length + found.length := by
  induction found generalizing ordered with
  | nil => exact Nat.le_refl _
  | cons first rest ih =>
      have later := ih (addNew ordered first)
      rw [List.foldl_cons, List.length_cons]
      rcases addNew_cases ordered first with ⟨-, same⟩ | ⟨-, added⟩
      · rw [same] at later ⊢
        omega
      · rw [added, List.length_append, List.length_singleton] at later
        rw [added]
        omega

/-- If nothing was there already, all is added as it comes. -/
theorem foldl_addNew_of_length
    (full : (found.foldl addNew ordered).length = ordered.length + found.length) :
    found.foldl addNew ordered = ordered ++ found := by
  induction found generalizing ordered with
  | nil => exact (List.append_nil ordered).symm
  | cons first rest ih =>
      have bound := length_foldl_addNew_le (addNew ordered first) rest
      rw [List.foldl_cons, List.length_cons] at full
      rcases addNew_cases ordered first with ⟨-, same⟩ | ⟨-, added⟩
      · rw [same] at bound full
        omega
      · have size : (ordered ++ [first]).length = ordered.length + 1 := List.length_append
        rw [added] at full
        rw [List.foldl_cons, added, ih (by omega), List.append_assoc, List.singleton_append]

/-! ## What is asked for -/

/-- Names are all known, or the first unknown one is told. -/
theorem addAll_ok_iff {find : String → Option CatalogRepository} {names : List String} :
    addAll find ordered names = .ok result ↔
      ∃ found, names.Forall₂ (fun name known => find name = some known) found ∧
        result = found.foldl addNew ordered := by
  induction names generalizing ordered with
  | nil =>
      constructor
      · intro done
        cases done
        exact ⟨[], .nil, rfl⟩
      · rintro ⟨found, all, rfl⟩
        cases all
        rfl
  | cons name rest ih =>
      cases known : find name with
      | none =>
          constructor
          · intro done
            rw [addAll, known] at done
            cases done
          · rintro ⟨found, all, -⟩
            cases all with
            | cons first _ =>
                rw [known] at first
                cases first
      | some repository =>
          rw [addAll, known]
          simp only [ih]
          constructor
          · rintro ⟨found, all, rfl⟩
            exact ⟨repository :: found, .cons known all, rfl⟩
          · rintro ⟨found, all, rfl⟩
            cases all with
            | cons first later =>
                cases known.symm.trans first
                exact ⟨_, later, rfl⟩

/-- The entries of all URLs and then of all identifiers are listed, each once. -/
theorem ordered_ok_iff {urls ids : List String} :
    Repositories.ordered catalog urls ids = .ok result ↔
      ∃ byUrl byId, urls.Forall₂ (fun url known => findUrl? catalog url = some known) byUrl ∧
        ids.Forall₂ (fun id known => catalog.get? id = some known) byId ∧
        result = (byUrl ++ byId).foldl addNew [] := by
  unfold Repositories.ordered
  constructor
  · intro done
    split at done
    · rename_i first mentioned
      obtain ⟨byUrl, urls, rfl⟩ := addAll_ok_iff.mp mentioned
      obtain ⟨byId, ids, rfl⟩ := addAll_ok_iff.mp done
      exact ⟨byUrl, byId, urls, ids, by rw [List.foldl_append]⟩
    · cases done
  · rintro ⟨byUrl, byId, urls, ids, rfl⟩
    rw [addAll_ok_iff.mpr ⟨byUrl, urls, rfl⟩, List.foldl_append]
    exact addAll_ok_iff.mpr ⟨byId, ids, rfl⟩

/-- No two entries that are listed have one identifier. -/
theorem ordered_nodup {urls ids : List String}
    (done : Repositories.ordered catalog urls ids = .ok result) :
    (result.map (·.uuid)).Nodup := by
  obtain ⟨byUrl, byId, -, -, rfl⟩ := ordered_ok_iff.mp done
  have none : (([] : List CatalogRepository).map (·.uuid)).Nodup := List.nodup_nil
  exact foldl_addNew_nodup none (byUrl ++ byId)

end Repositories

/-- A way to ask for an entry of the catalog. -/
inductive Mention where
  | url (text : String)
  | id (uuid : String)
deriving DecidableEq, Repr

def Mention.entry? (catalog : Catalog) : Mention → Option CatalogRepository
  | .url text => Repositories.findUrl? catalog text
  | .id uuid => catalog.get? uuid

def Mention.url? : Mention → Option String
  | .url text => some text
  | .id _ => none

def Mention.id? : Mention → Option String
  | .url _ => none
  | .id uuid => some uuid

theorem Mention.entry?_mem {catalog : Catalog} {mention : Mention} {known : CatalogRepository}
    (found : mention.entry? catalog = some known) : known ∈ catalog.map (·.2) := by
  cases mention with
  | url text => exact (Repositories.findUrl?_some found).1
  | id uuid => exact List.mem_map.mpr ⟨(uuid, known), Catalog.get?_some found, rfl⟩

namespace Repositories

variable {mentions : List Mention}

/-- Whatever is mentioned is listed, at least under its identifier. -/
theorem exists_of_mention
    (listed : Repositories.ordered catalog (mentions.filterMap Mention.url?)
      (mentions.filterMap Mention.id?) = .ok result)
    {mention : Mention} (member : mention ∈ mentions) :
    ∃ known, mention.entry? catalog = some known ∧ ∃ entry ∈ result, entry.uuid = known.uuid := by
  obtain ⟨byUrl, byId, urls, ids, rfl⟩ := ordered_ok_iff.mp listed
  cases mention with
  | url url =>
      have asked : url ∈ mentions.filterMap Mention.url? :=
        List.mem_filterMap.mpr ⟨.url url, member, rfl⟩
      obtain ⟨known, held, found⟩ := exists_of_forall₂ urls asked
      exact ⟨known, found, exists_uuid_foldl_addNew [] (List.mem_append_left byId held)⟩
  | id id =>
      have asked : id ∈ mentions.filterMap Mention.id? :=
        List.mem_filterMap.mpr ⟨.id id, member, rfl⟩
      obtain ⟨known, held, found⟩ := exists_of_forall₂ ids asked
      exact ⟨known, found, exists_uuid_foldl_addNew [] (List.mem_append_right byUrl held)⟩

/-- Whatever is listed was mentioned. -/
theorem mention_of_mem
    (listed : Repositories.ordered catalog (mentions.filterMap Mention.url?)
      (mentions.filterMap Mention.id?) = .ok result) (member : repository ∈ result) :
    ∃ mention ∈ mentions, mention.entry? catalog = some repository := by
  obtain ⟨byUrl, byId, urls, ids, rfl⟩ := ordered_ok_iff.mp listed
  rcases mem_foldl_addNew member with none | added
  · cases none
  · rcases List.mem_append.mp added with held | held
    · obtain ⟨url, asked, found⟩ := exists_of_forall₂ urls.flip held
      obtain ⟨mention, among, same⟩ := List.mem_filterMap.mp asked
      cases mention with
      | url _ =>
          cases same
          exact ⟨.url url, among, found⟩
      | id _ => cases same
    · obtain ⟨id, asked, found⟩ := exists_of_forall₂ ids.flip held
      obtain ⟨mention, among, same⟩ := List.mem_filterMap.mp asked
      cases mention with
      | url _ => cases same
      | id _ =>
          cases same
          exact ⟨.id id, among, found⟩

end Repositories

end ComposeDesk
