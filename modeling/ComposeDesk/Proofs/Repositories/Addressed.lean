import ComposeDesk.Proofs.Customized
import ComposeDesk.Proofs.Repositories.Filled

/-!
# Empty lists of URLs

A configured repository can come with a list of URLs that has none in it.  With a date such a
list is the same as no list.  Without a date it counts as given: the catalog adds no URL then,
nothing is refused for the lack of one, and the repository can go out without an address.
-/

namespace ComposeDesk

namespace CustomRepository

/-- A list of URLs is left out if it has none. -/
inductive Cleared : CustomRepository → CustomRepository → Prop where
  | kept (repository : CustomRepository) : Cleared repository repository
  | emptied {repository : CustomRepository} (empty : repository.baseurl = some []) :
      Cleared repository { repository with baseurl := none }

/-- Packages can be fetched from a repository: it has a URL, a metalink or a list of
mirrors. -/
inductive Addressed (repository : CustomRepository) : Prop where
  | url {url : String} {more : List String} (held : repository.baseurl = some (url :: more))
  | metalink {link : String} (held : repository.metalink = some link)
  | mirrorlist {list : String} (held : repository.mirrorlist = some list)

/-- A repository has a list of URLs without any, and nothing else. -/
structure Bare (repository : CustomRepository) : Prop where
  listed : repository.baseurl = some []
  unlinked : repository.metalink = none
  unmirrored : repository.mirrorlist = none

variable {given other : CustomRepository}

theorem Cleared.id_eq (cleared : Cleared given other) : given.id = other.id := by
  cases cleared with
  | kept => rfl
  | emptied => rfl

/-- An empty list has no say in how a repository is looked up. -/
theorem Cleared.mention?_eq (cleared : Cleared given other) : given.mention? = other.mention? := by
  cases cleared with
  | kept => rfl
  | emptied empty =>
      unfold mention?
      rw [empty]
      rfl

/-- Packages can be fetched from a repository unless it lacks all three. -/
theorem not_addressed_iff {repository : CustomRepository} :
    ¬ repository.Addressed ↔ (∀ url more, repository.baseurl ≠ some (url :: more)) ∧
      repository.metalink = none ∧ repository.mirrorlist = none := by
  constructor
  · intro lost
    refine ⟨fun url more held => lost (.url held), ?_, ?_⟩
    · cases held : repository.metalink with
      | none => rfl
      | some link => exact absurd (.metalink held) lost
    · cases held : repository.mirrorlist with
      | none => rfl
      | some list => exact absurd (.mirrorlist held) lost
  · rintro ⟨unlisted, unlinked, unmirrored⟩ addressed
    cases addressed with
    | url held => exact unlisted _ _ held
    | metalink held =>
        rw [unlinked] at held
        cases held
    | mirrorlist held =>
        rw [unmirrored] at held
        cases held

end CustomRepository

open CustomRepository

namespace Repositories

variable {catalog : Catalog} {given other sent : CustomRepository}
  {repositories others : List CustomRepository} {results : List CustomRepository}

/-- A repository with a list of URLs keeps it, whatever the catalog knows. -/
theorem fillCustom_listed {urls : List String} (listed : given.baseurl = some urls)
    (catalog : Catalog) :
    ∃ sent, fillCustom catalog given = .ok sent ∧ sent.baseurl = some urls := by
  rw [fillCustom_eq, listed]
  exact ⟨_, rfl, rfl⟩

/-- No repository gets an empty list from the catalog. -/
theorem fillCustom_unlisted (unlisted : given.baseurl = none)
    (filled : fillCustom catalog given = .ok sent) : sent.baseurl ≠ some [] := by
  have completed := (filledCustom filled).baseurl
  rw [unlisted] at completed
  intro empty
  rw [empty] at completed
  cases completed with
  | own said => cases said
  | filled _ offer =>
      obtain ⟨entry, -, url, -, same⟩ := offer
      cases same

/-- A repository with neither a metalink nor a list of mirrors needs a URL of the catalog. -/
theorem refused_of_unoffered (unlisted : given.baseurl = none)
    (unlinked : given.metalink = none) (unmirrored : given.mirrorlist = none)
    (unoffered : ∀ urls, ¬ OffersUrl (catalog.get? given.id) ([·]) urls) :
    ∃ fault, RefusedCustom catalog given fault := by
  cases known : catalog.get? given.id with
  | none =>
      have tells : unresolved? given = some (.unresolved given.id) :=
        if_pos ⟨unlinked, unmirrored⟩
      exact ⟨_, .unknown unlisted known tells⟩
  | some entry =>
      rcases CatalogRepository.built_or_unbuilt entry with ⟨url, built⟩ | ⟨text, unbuilt⟩
      · exact absurd ⟨entry, known, url, built, rfl⟩ (unoffered [url])
      · exact ⟨_, .unusable unlisted known unbuilt⟩

theorem not_addressed_of_bare (bare : given.Bare) (filled : fillCustom catalog given = .ok sent) :
    ¬ sent.Addressed := by
  have completed := filledCustom filled
  obtain ⟨listed, made, empty⟩ := fillCustom_listed bare.listed catalog
  rw [filled] at made
  cases made
  refine not_addressed_iff.mpr ⟨?_, ?_, ?_⟩
  · intro url more held
    rw [empty] at held
    cases held
  · rw [completed.metalink, bare.unlinked]
  · rw [completed.mirrorlist, bare.unmirrored]

theorem addressed_of_not_bare (fine : ¬ given.Bare) (filled : fillCustom catalog given = .ok sent) :
    sent.Addressed := by
  have completed := filledCustom filled
  by_contra lost
  obtain ⟨unlisted, unlinked, unmirrored⟩ := not_addressed_iff.mp lost
  rw [completed.metalink] at unlinked
  rw [completed.mirrorlist] at unmirrored
  have chosen := completed.baseurl
  generalize sent.baseurl = held at chosen unlisted
  cases chosen with
  | @own urls said =>
      cases urls with
      | nil => exact fine ⟨said, unlinked, unmirrored⟩
      | cons url more => exact unlisted url more rfl
  | filled _ offer =>
      obtain ⟨entry, -, url, -, rfl⟩ := offer
      exact unlisted url [] rfl
  | absent unsaid unoffered =>
      -- Without an offer the repository is refused, so it cannot have been filled in.
      obtain ⟨fault, refused⟩ := refused_of_unoffered unsaid unlinked unmirrored unoffered
      rw [fillCustom_error_iff.mpr refused] at filled
      cases filled

/-- What goes out has an address, unless it came with nothing but an empty list. -/
theorem addressed_iff (filled : fillCustom catalog given = .ok sent) :
    sent.Addressed ↔ ¬ given.Bare := by
  constructor
  · exact fun addressed bare => not_addressed_of_bare bare filled addressed
  · exact fun fine => addressed_of_not_bare fine filled

/-- What goes out without the empty lists goes out with them. -/
theorem mapM_fillCustom_ok (cleared : repositories.Forall₂ Cleared others)
    (done : others.mapM (fillCustom catalog) = .ok results) :
    ∃ sent, repositories.mapM (fillCustom catalog) = .ok sent := by
  have single : ∀ repository ∈ repositories, ∃ sent, fillCustom catalog repository = .ok sent ∧
      FilledCustom catalog repository sent := by
    intro repository held
    obtain ⟨other, among, related⟩ := exists_of_forall₂ cleared held
    obtain ⟨sent, -, filled⟩ := exists_of_forall₂ (forall₂_of_mapM_ok done) among
    cases related with
    | kept => exact ⟨sent, filled, filledCustom filled⟩
    | emptied empty =>
        obtain ⟨listed, made, -⟩ := fillCustom_listed empty catalog
        exact ⟨listed, made, filledCustom made⟩
  obtain ⟨sent, made, -⟩ := mapM_ok single
  exact ⟨sent, made⟩

/-- With and without the empty lists the same goes out only if there are none. -/
theorem eq_of_mapM_fillCustom (cleared : repositories.Forall₂ Cleared others)
    (done : repositories.mapM (fillCustom catalog) = .ok results)
    (other : others.mapM (fillCustom catalog) = .ok results) : repositories = others := by
  have each := forall₂_of_mapM_ok done
  have eachOther := forall₂_of_mapM_ok other
  clear done other
  induction cleared generalizing results with
  | nil => rfl
  | cons related _ ih =>
      cases each with
      | cons filled later =>
          cases eachOther with
          | cons filledOther laterOther =>
              rw [ih later laterOther]
              cases related with
              | kept => rfl
              | emptied empty =>
                  -- The empty list goes out on one side, and never on the other.
                  obtain ⟨sent, made, held⟩ := fillCustom_listed empty catalog
                  rw [filled] at made
                  cases made
                  exact absurd held (fillCustom_unlisted rfl filledOther)

end Repositories

namespace Customize

open Repositories

variable {σ : Type}

/-- The repositories of customizations: those to build from, then those to configure. -/
def repositories (services : Downstream σ) (caller : Identity) (date : Option String)
    (customizations : Customizations) :
    Act σ CustomizationFault (Option (List Build.Repository) × Option (List CustomRepository)) := do
  let payload ← payload services caller date customizations.payloadRepositories
  let custom ← custom services caller date customizations.customRepositories
  return (payload, custom)

/-- Customizations are prepared by looking up their repositories first. -/
theorem prepare_eq (services : Downstream σ) (caller : Identity) (distribution : Distribution)
    (date : Option String) (customizations : Customizations) :
    prepare services caller distribution date customizations =
      (do
        let (payload, custom) ← repositories services caller date customizations
        let hardening ← hardening services caller distribution customizations.openscap
        let given ← (givenFiles customizations.files : Except CustomizationFault _)
        return assembled customizations payload custom hardening given) := by
  simp only [repositories, bind_assoc, pure_bind]
  rfl

/-! ## With a date -/

section Dated

variable {services : Downstream σ} {caller : Identity} {date : String} {before after : σ}
  {given others : List CustomRepository}

theorem custom_dated (services : Downstream σ) (caller : Identity) (date : String)
    (given : List CustomRepository) :
    custom services caller (some date) (some given) =
      (do
        let mentions := given.filterMap mention?
        let pinned ← ask (Repositories.snapshots services caller
          (mentions.filterMap Mention.url?) (mentions.filterMap Mention.id?) true date)
        return some pinned.configured) := by
  simp only [urls_eq, ids_eq]
  rfl

/-- Empty lists have no say in what is pinned. -/
theorem custom_dated_cleared (cleared : given.Forall₂ Cleared others) :
    custom services caller (some date) (some given) =
      custom services caller (some date) (some others) := by
  have same : given.filterMap mention? = others.filterMap mention? := by
    have mapped := map_eq_of_forall₂ (fun _ _ related => Cleared.mention?_eq related) cleared
    have picked := congrArg (List.filterMap id) mapped
    rw [List.filterMap_map, List.filterMap_map] at picked
    exact picked
  rw [custom_dated, custom_dated, same]

/-- What is pinned has the URL of a snapshot. -/
theorem addressed_of_dated {given sent : Option (List CustomRepository)}
    (done : outcome (custom services caller (some date) given) before = (.ok sent, after)) :
    ∀ repositories ∈ sent, ∀ repository ∈ repositories, repository.Addressed := by
  cases given with
  | none =>
      cases done
      exact fun _ held => nomatch held
  | some given =>
      obtain ⟨pins, -, rfl⟩ := custom_pinned done
      rintro repositories held repository member
      cases held
      obtain ⟨pin, -, rfl⟩ := List.mem_map.mp member
      exact .url rfl

end Dated

/-! ## Without a date -/

section Undated

variable {services : Downstream σ} {caller : Identity} {before left : σ}
  {given others : List CustomRepository}

/-- Repositories that are not dated are filled in, if there are any. -/
theorem outcome_custom_undated (wanted : given ≠ []) (before : σ) :
    outcome (custom services caller none (some given)) before =
      (((outcome (Repositories.custom services caller given) before).1.mapError .repository).map
        some, (outcome (Repositories.custom services caller given) before).2) := by
  cases given with
  | nil => exact absurd rfl wanted
  | cons repository rest =>
      have mapped : custom services caller none (some (repository :: rest)) =
          some <$> ask (Repositories.custom services caller (repository :: rest)) :=
        bind_pure_comp some _
      rw [mapped, outcome_map, ask, outcome_adapt]

theorem outcome_custom_unanswered {fault : ServiceFault} (wanted : given ≠ [])
    (failed : outcome (services.repositories caller [] (given.map (·.id)) true) before =
      (.error fault, left)) :
    outcome (custom services caller none (some given)) before =
      (.error (.repository (.catalog fault)), left) := by
  rw [outcome_custom_undated wanted, Repositories.custom, outcome_bind, Repositories.ask,
    outcome_adapt, failed]
  rfl

theorem outcome_custom_answered {catalog : Catalog} (wanted : given ≠ [])
    (found : outcome (services.repositories caller [] (given.map (·.id)) true) before =
      (.ok catalog, left)) :
    outcome (custom services caller none (some given)) before =
      (((given.mapM (fillCustom catalog)).mapError .repository).map some, left) := by
  rw [outcome_custom_undated wanted, Repositories.custom, outcome_bind, Repositories.ask,
    outcome_adapt, found]
  rfl

end Undated

/-- How two answers compare of which the second one was looked up without empty lists of URLs.
The same was asked.  Leaving the lists out can lead to a refusal, and never saves from one.
The answers are the same only if no list was left out, or both refuse alike. -/
structure Compared {τ : Type} (same : Prop) (first second : Except CustomizationFault τ × σ) :
    Prop where
  left : first.2 = second.2
  goes : (∃ answer, second.1 = .ok answer) → ∃ answer, first.1 = .ok answer
  agree : first.1 = second.1 ↔ same ∨ ∃ fault, first.1 = .error fault ∧ second.1 = .error fault

namespace Compared

variable {τ υ : Type} {same : Prop} {first second : Except CustomizationFault τ} {left : σ}

theorem of_answers (equal : same → first = second)
    (goes : (∃ answer, second = .ok answer) → ∃ answer, first = .ok answer)
    (only : ∀ answer, first = .ok answer → second = .ok answer → same) :
    Compared same (first, left) (second, left) := by
  refine ⟨rfl, goes, ?_⟩
  constructor
  · intro agree
    cases told : first with
    | error fault => exact .inr ⟨fault, rfl, agree.symm.trans told⟩
    | ok answer => exact .inl (only answer told (agree.symm.trans told))
  · rintro (equally | ⟨fault, told, toldAlike⟩)
    · exact equal equally
    · exact told.trans toldAlike.symm

/-- Two answers that are the same compare well if nothing was left out or both are refusals. -/
theorem refl (fits : ∀ answer, first = .ok answer → same) :
    Compared same (first, left) (first, left) :=
  of_answers (fun _ => rfl) id fun answer told _ => fits answer told

theorem map {f : τ → υ} (injective : Function.Injective f)
    {first second : Except CustomizationFault τ × σ} (compared : Compared same first second) :
    Compared same (first.1.map f, first.2) (second.1.map f, second.2) := by
  obtain ⟨first, left⟩ := first
  obtain ⟨second, other⟩ := second
  obtain rfl : left = other := compared.left
  apply of_answers
  · intro equally
    exact congrArg (Except.map f) (compared.agree.mpr (.inl equally))
  · rintro ⟨answer, told⟩
    obtain ⟨made, done, -⟩ := map_eq_ok told
    obtain ⟨answer, did⟩ := compared.goes ⟨made, done⟩
    exact ⟨f answer, congrArg (Except.map f) did⟩
  · intro answer told toldOther
    obtain ⟨a, did, rfl⟩ := map_eq_ok told
    obtain ⟨b, didOther, alike⟩ := map_eq_ok toldOther
    obtain rfl : b = a := injective alike
    have agree : first = second := did.trans didOther.symm
    rcases compared.agree.mp agree with equally | ⟨fault, failed, -⟩
    · exact equally
    · cases did.symm.trans failed

end Compared

section Undated

variable {services : Downstream σ} {caller : Identity} {before left : σ}
  {given others : List CustomRepository} {catalog : Catalog}

/-- The comparison where the catalog answers. -/
theorem compared_answered (cleared : given.Forall₂ Cleared others) :
    Compared (given = others)
      (((given.mapM (fillCustom catalog)).mapError .repository).map some, left)
      (((others.mapM (fillCustom catalog)).mapError .repository).map some, left) := by
  apply Compared.of_answers
  · rintro rfl
    rfl
  · rintro ⟨answer, told⟩
    obtain ⟨results, done, -⟩ := map_eq_ok told
    obtain ⟨sent, made⟩ := mapM_fillCustom_ok cleared (mapError_eq_ok_iff.mp done)
    rw [made]
    exact ⟨some sent, rfl⟩
  · intro answer told toldOther
    obtain ⟨results, done, rfl⟩ := map_eq_ok told
    obtain ⟨resultsOther, doneOther, same⟩ := map_eq_ok toldOther
    obtain rfl := Option.some_inj.mp same
    exact eq_of_mapM_fillCustom cleared (mapError_eq_ok_iff.mp done)
      (mapError_eq_ok_iff.mp doneOther)

/-- The catalog is asked the same with and without the empty lists. -/
theorem compared_custom (cleared : given.Forall₂ Cleared others) (before : σ) :
    Compared (given = others) (outcome (custom services caller none (some given)) before)
      (outcome (custom services caller none (some others)) before) := by
  by_cases wanted : given = []
  · subst wanted
    cases cleared
    exact .refl fun _ _ => rfl
  · have wantedOther : others ≠ [] := by
      rintro rfl
      cases cleared
      exact wanted rfl
    have ids : given.map (·.id) = others.map (·.id) :=
      map_eq_of_forall₂ (fun _ _ related => Cleared.id_eq related) cleared
    rcases looked : outcome (services.repositories caller [] (given.map (·.id)) true) before
      with ⟨fault | catalog, left⟩
    · have lookedOther := looked
      rw [ids] at lookedOther
      rw [outcome_custom_unanswered wanted looked,
        outcome_custom_unanswered wantedOther lookedOther]
      exact .refl fun _ told => nomatch told
    · have lookedOther := looked
      rw [ids] at lookedOther
      rw [outcome_custom_answered wanted looked, outcome_custom_answered wantedOther lookedOther]
      exact compared_answered cleared

/-- What goes out without a date has an address, unless it came with nothing but an empty
list. -/
theorem addressed_of_undated {sent : List CustomRepository} {after : σ}
    (done : outcome (custom services caller none (some given)) before = (.ok (some sent), after)) :
    given.Forall₂ (fun repository other => other.Addressed ↔ ¬ repository.Bare) sent := by
  by_cases wanted : given = []
  · subst wanted
    cases done
  · rcases looked : outcome (services.repositories caller [] (given.map (·.id)) true) before
      with ⟨fault | catalog, left⟩
    · rw [outcome_custom_unanswered wanted looked] at done
      cases done
    · rw [outcome_custom_answered wanted looked] at done
      obtain ⟨told, -⟩ := Prod.mk.inj done
      obtain ⟨results, made, same⟩ := map_eq_ok told
      obtain rfl := Option.some_inj.mp same
      have each := forall₂_of_mapM_ok (mapError_eq_ok_iff.mp made)
      exact each.imp fun _ _ => addressed_iff

end Undated

section All

variable {services : Downstream σ} {caller : Identity} {date : Option String}
  {given : Customizations} {others : Option (List CustomRepository)}

theorem custom_of_repositories {before after : σ} {payload : Option (List Build.Repository)}
    {sent : Option (List CustomRepository)}
    (done : outcome (repositories services caller date given) before =
      (.ok (payload, sent), after)) :
    ∃ middle, outcome (custom services caller date given.customRepositories) middle =
      (.ok sent, after) := by
  obtain ⟨_, middle, -, done⟩ := outcome_bind_eq_ok done
  obtain ⟨_, _, looked, done⟩ := outcome_bind_eq_ok done
  cases done
  exact ⟨middle, looked⟩

/-- The repositories to build from are looked up before, and are not compared. -/
theorem compared_repositories {same : Prop}
    (each : ∀ middle,
      Compared same (outcome (custom services caller date given.customRepositories) middle)
        (outcome (custom services caller date others) middle)) (before : σ) :
    Compared same (outcome (repositories services caller date given) before)
      (outcome (repositories services caller date { given with customRepositories := others })
        before) := by
  unfold repositories
  rw [outcome_bind, outcome_bind]
  rcases outcome (payload services caller date given.payloadRepositories) before
    with ⟨fault | payload, middle⟩
  · exact .refl fun _ told => nomatch told
  · have injective : Function.Injective fun custom : Option (List CustomRepository) =>
        (payload, custom) := fun _ _ alike => (Prod.mk.inj alike).2
    have paired := (each middle).map injective
    rw [← outcome_map, ← outcome_map] at paired
    simp only [bind_pure_comp]
    exact paired

/-- With a date, an empty list of URLs is the same as none: the same is asked and answered,
and what goes out has an address.  Without a date, an empty list counts as given.  It can go
out where a repository without a list is refused, and then has no address if there is neither
a metalink nor a list of mirrors. -/
theorem empty_lists (services : Downstream σ) (caller : Identity) (given : Customizations)
    (others : Option (List CustomRepository))
    (cleared : Option.Rel (List.Forall₂ Cleared) given.customRepositories others) :
    (∀ date,
      repositories services caller (some date) given =
          repositories services caller (some date) { given with customRepositories := others } ∧
        ∀ before payload sent after,
          outcome (repositories services caller (some date) given) before =
              (.ok (payload, some sent), after) →
            ∀ repository ∈ sent, repository.Addressed) ∧
      ∀ before,
        Compared (given.customRepositories = others)
            (outcome (repositories services caller none given) before)
            (outcome (repositories services caller none
              { given with customRepositories := others }) before) ∧
          ∀ configured payload sent after, given.customRepositories = some configured →
            outcome (repositories services caller none given) before =
                (.ok (payload, some sent), after) →
              configured.Forall₂ (fun repository out => out.Addressed ↔ ¬ repository.Bare)
                sent := by
  refine ⟨fun date => ⟨?_, ?_⟩, fun before => ⟨?_, ?_⟩⟩
  · have same : custom services caller (some date) given.customRepositories =
        custom services caller (some date) others := by
      rcases optionRel_cases cleared with ⟨held, rfl⟩ | ⟨configured, left, held, rfl, each⟩
      · rw [held]
      · rw [held]
        exact custom_dated_cleared each
    unfold repositories
    rw [same]
  · intro before payload sent after done
    obtain ⟨middle, looked⟩ := custom_of_repositories done
    exact addressed_of_dated looked sent rfl
  · apply compared_repositories
    intro middle
    rcases optionRel_cases cleared with ⟨held, rfl⟩ | ⟨configured, left, held, rfl, each⟩
    · rw [held]
      exact .refl fun _ _ => rfl
    · rw [held, Option.some_inj]
      exact compared_custom each middle
  · intro configured payload sent after held done
    obtain ⟨middle, looked⟩ := custom_of_repositories done
    rw [held] at looked
    exact addressed_of_undated looked

end All

def configuring (repository : CustomRepository) : Customizations :=
  { Customizations.empty with customRepositories := some [repository] }

theorem empty_lists_mirrored :
    let caller : Identity := ⟨"1", "", "", "User", [], ""⟩
    let services := Downstream.mirroring [.mirrored "b" "https://b"]
    let listed := configured "b" []
    let unlisted := { listed with baseurl := none }
    repositories services caller (some "2024-01-02") (configuring listed) =
        repositories services caller (some "2024-01-02") (configuring unlisted) ∧
      (outcome (repositories services caller none (configuring listed)) ()).1 ≠
        (outcome (repositories services caller none (configuring unlisted)) ()).1 := by
  intro caller services listed unlisted
  obtain ⟨dated, undated⟩ := empty_lists services caller (configuring listed) (some [unlisted])
    (.some (.cons (.emptied rfl) .nil))
  refine ⟨(dated "2024-01-02").1, ?_⟩
  obtain ⟨compared, -⟩ := undated ()
  intro alike
  rcases compared.agree.mp alike with same | ⟨fault, failed, -⟩
  · cases congrArg (Option.map (List.map (·.baseurl))) same
  · cases failed

/-- An empty list goes out without an address where a repository without a list is refused. -/
theorem empty_list_unaddressed :
    let caller : Identity := ⟨"1", "", "", "User", [], ""⟩
    let services := Downstream.mirroring []
    let listed := configured "missing" []
    outcome (repositories services caller none (configuring listed)) () =
        (.ok (none, some [listed]), ()) ∧
      outcome (repositories services caller none
          (configuring { listed with baseurl := none })) () =
        (.error (.repository (.unresolved "missing")), ()) ∧
      ¬ listed.Addressed := by
  intro caller services listed
  refine ⟨rfl, rfl, ?_⟩
  rw [not_addressed_iff]
  exact ⟨nofun, rfl, rfl⟩

end Customize

end ComposeDesk
