import ComposeDesk.Proofs.Issue
import ComposeDesk.Proofs.Refusal

/-!
# Errors that arise

Each piece of work fails with errors of few kinds only.  Two kinds stand apart from
the ordinary ones: that the quota is exceeded, which the guard alone says, and what
is told of a reply of the build service, which comes of asking the build service.
-/

namespace ComposeDesk

variable {σ ε δ α β : Type}

/-- A result that is a fault is one of a kind. -/
def Fails (fits : ε → Prop) (result : Except ε α) : Prop :=
  ∀ fault, result = .error fault → fits fault

/-- The faults of an act are all of a kind. -/
def Confined (fits : ε → Prop) (act : Act σ ε α) : Prop :=
  ∀ state, Fails fits (outcome act state).1

variable {fits wider : ε → Prop}

namespace Fails

theorem ok (a : α) : Fails fits (.ok a : Except ε α) := nofun

theorem error {fault : ε} (fit : fits fault) : Fails fits (.error fault : Except ε α) := by
  rintro _ ⟨⟩
  exact fit

theorem imp {result : Except ε α} (fails : Fails fits result)
    (more : ∀ fault, fits fault → wider fault) : Fails wider result :=
  fun fault failed => more fault (fails fault failed)

theorem bind {result : Except ε α} {next : α → Except ε β} (first : Fails fits result)
    (rest : ∀ a, Fails fits (next a)) : Fails fits (result >>= next) := by
  cases result with
  | error fault => exact .error (first fault rfl)
  | ok a => exact rest a

theorem map {result : Except ε α} (fails : Fails fits result) (f : α → β) :
    Fails fits (result.map f) :=
  fun fault failed => fails fault (map_eq_error_iff.mp failed)

theorem mapError {tell : ε → δ} {fits : δ → Prop} (told : ∀ fault, fits (tell fault))
    (result : Except ε α) : Fails fits (result.mapError tell) := by
  cases result with
  | ok a => exact .ok a
  | error fault => exact .error (told fault)

theorem mapM {f : α → Except ε β} (each : ∀ a, Fails fits (f a)) (items : List α) :
    Fails fits (items.mapM f) := by
  induction items with
  | nil => exact .ok _
  | cons item rest ih =>
      rw [List.mapM_cons]
      exact (each item).bind fun _ => ih.bind fun _ => .ok _

theorem forM {f : α → Except ε PUnit} (each : ∀ a, Fails fits (f a)) (items : List α) :
    Fails fits (items.forM f) := by
  induction items with
  | nil => exact .ok _
  | cons item rest ih => exact (each item).bind fun _ => ih

end Fails

namespace Confined

theorem pure (a : α) : Confined fits (pure a : Act σ ε α) := fun _ => .ok a

theorem throw {fault : ε} (fit : fits fault) : Confined fits (throw fault : Act σ ε α) :=
  fun _ => .error fit

theorem bind {act : Act σ ε α} {next : α → Act σ ε β} (first : Confined fits act)
    (rest : ∀ a, Confined fits (next a)) : Confined fits (act >>= next) := by
  intro state
  rcases done : outcome act state with ⟨told | a, left⟩
  · rw [outcome_bind_error done]
    exact .error (first state told (congrArg Prod.fst done))
  · rw [outcome_bind_ok done]
    exact rest a left

theorem ite {condition : Prop} [Decidable condition] {act other : Act σ ε α}
    (holds : Confined fits act) (fails : Confined fits other) :
    Confined fits (if condition then act else other) := by
  split
  · exact holds
  · exact fails

theorem mapM {act : α → Act σ ε β} (each : ∀ a, Confined fits (act a)) (items : List α) :
    Confined fits (items.mapM act) := by
  induction items with
  | nil => exact .pure _
  | cons item rest ih =>
      rw [List.mapM_cons]
      exact (each item).bind fun _ => ih.bind fun _ => .pure _

/-- What is done about a fault of one kind fails in ways of another. -/
theorem tryCatch {act : Act σ ε α} {handle : ε → Act σ ε α} (first : Confined fits act)
    (rest : ∀ fault, fits fault → Confined wider (handle fault)) :
    Confined wider (tryCatch act handle) := by
  intro state
  rw [outcome_tryCatch]
  rcases done : outcome act state with ⟨told | a, left⟩
  · exact rest told (first state told (congrArg Prod.fst done)) left
  · exact .ok a

theorem imp {act : Act σ ε α} (confined : Confined fits act)
    (more : ∀ fault, fits fault → wider fault) : Confined wider act :=
  fun state => (confined state).imp more

/-- A fault of another kind does not arise. -/
theorem ne {act : Act σ ε α} (confined : Confined fits act) {fault : ε} (unfit : ¬ fits fault)
    (state : σ) : (outcome act state).1 ≠ .error fault :=
  fun failed => unfit (confined state fault failed)

end Confined

/-! ## Work of the desk -/

namespace Confined

variable {fits : Error → Prop}

theorem outside (act : StateM σ α) : Confined fits (Work.outside act) :=
  fun _ => .ok _

theorem measure (update : Metrics → Metrics) :
    Confined fits (Work.measure update : Work σ Unit) :=
  fun _ => .ok _

theorem look (find : Store → α) : Confined fits (Work.look find : Work σ α) :=
  fun _ => .ok _

theorem of {result : Except Error α} (fails : Fails fits result) :
    Confined fits (Work.of result : Work σ α) :=
  fun _ => fails

variable {tell : ε → Error} (told : ∀ fault, fits (tell fault))

include told in
theorem ask (act : Act σ ε α) : Confined fits (Work.ask tell act) :=
  fun _ => .mapError told _

include told in
theorem check (result : Except ε α) : Confined fits (Work.check tell result : Work σ α) :=
  fun _ => .mapError told result

include told in
theorem change (write : Store → Except ε (Store × α)) :
    Confined fits (Work.change tell write : Work σ α) := by
  intro state
  rw [Work.outcome_change]
  cases write state.store with
  | error fault => exact .error (told fault)
  | ok result => exact .ok _

end Confined

/-- An error that is neither the quota's nor told of a reply of the build service. -/
def Error.Ordinary : Error → Prop
  | .quotaExceeded | .downstream _ _ _ => False
  | _ => True

theorem Error.not_ordinary_quotaExceeded : ¬ Error.Ordinary .quotaExceeded :=
  fun ordinary => ordinary

theorem StoreFault.error_ordinary (fault : StoreFault) : fault.error.Ordinary := by
  cases fault <;> trivial

theorem QuotaFault.error_ordinary (fault : QuotaFault) : fault.error.Ordinary := by
  cases fault <;> trivial

theorem ServiceFault.error_ordinary (fault : ServiceFault) : fault.error.Ordinary := by
  cases fault <;> trivial

theorem RepositoryFault.error_ordinary (fault : RepositoryFault) : fault.error.Ordinary := by
  cases fault with
  | catalog inner => cases inner <;> trivial
  | _ => trivial

theorem UploadFault.error_ordinary (fault : UploadFault) : fault.error.Ordinary := by
  cases fault <;> trivial

theorem PolicyFault.error_ordinary (policy : Uuid) (major : UInt32) (fault : PolicyFault) :
    (fault.error policy major).Ordinary := by
  cases fault <;> trivial

theorem CustomizationFault.error_ordinary (fault : CustomizationFault) :
    fault.error.Ordinary := by
  cases fault with
  | repository inner => exact inner.error_ordinary
  | policy id major _ inner => exact inner.error_ordinary id major
  | _ => trivial

/-- An error of an operation that asks the build service: an ordinary one, one that is
the caller's fault, or, in the words that the operation has for it, that the build
service is not expected to answer so. -/
inductive Error.Worded (words : Option String) : Error → Prop where
  | ordinary {error : Error} (ordinary : error.Ordinary) : Worded words error
  | refused (text detail : String) : Worded words (.downstream 400 text detail)
  | unexpected {text : String} (own : words = some text) (detail : String) :
      Worded words (.downstream 500 text detail)

theorem Error.Worded.ne {words : Option String} {error : Error} (worded : error.Worded words) :
    error ≠ .quotaExceeded := by
  rintro rfl
  cases worded with
  | ordinary ordinary => exact not_ordinary_quotaExceeded ordinary

theorem Refusal.error_worded (words : String) (reply : Reply) (refusal : Refusal) :
    (refusal.error words reply).Worded (some words) := by
  cases refusal with
  | unresolved => exact .refused _ _
  | reasoned => exact .refused _ _
  | unexpected => exact .unexpected rfl _

theorem Confined.worded {work : Work σ α} (confined : Confined Error.Ordinary work)
    {words : Option String} : Confined (Error.Worded words) work :=
  confined.imp fun _ => .ordinary

namespace Desk

variable (desk : Desk σ) (caller : Identity)

theorem allow_confined :
    Confined (fun error => error = .quotaExceeded ∨ error.Ordinary) (desk.allow caller) := by
  refine .bind (.outside _) fun now => .bind (.look _) fun answer => ?_
  refine .bind (.check (fun fault => .inr fault.error_ordinary) _) fun allowed => ?_
  exact .ite (.pure _) (.bind (.measure _) fun _ => .throw (.inl rfl))

theorem soleImage_confined (request : ComposeRequest) :
    Confined Error.Ordinary (soleImage request : Work σ ImageRequest) := by
  unfold soleImage
  split
  · exact .bind (.measure _) fun _ => .pure _
  · exact .throw trivial

theorem distributionFor_fails (name : String) :
    Fails Error.Ordinary (desk.distributionFor caller name) := by
  unfold distributionFor
  split
  · exact .ok _
  · exact .error trivial

theorem architectureFor_fails (distribution : Distribution) (request : ComposeRequest)
    (image : ImageRequest) :
    Fails Error.Ordinary (architectureFor distribution request image) := by
  unfold architectureFor
  split
  · exact .ok _
  · exact .error trivial

theorem orderFor_confined (request : ComposeRequest) (image : ImageRequest) :
    Confined Error.Ordinary (desk.orderFor caller request image) := by
  unfold orderFor
  refine .bind (.of (distributionFor_fails desk caller _)) fun distribution => ?_
  refine .bind (.of (architectureFor_fails distribution request image)) fun architecture => ?_
  refine .bind (.ask RepositoryFault.error_ordinary _) fun repositories => ?_
  refine .bind (.ask UploadFault.error_ordinary _) fun upload => ?_
  refine .bind (.check CustomizationFault.error_ordinary _) fun _ => ?_
  refine .bind (.check CustomizationFault.error_ordinary _) fun _ => ?_
  exact .bind (.ask CustomizationFault.error_ordinary _) fun _ => .pure _

/-- What the answer to an order comes to is an ordinary error, if it is not taken, or the
refusal in words of its own. -/
theorem verdict_fails {refused : Reply → Error} {words : Option String}
    (told : ∀ reply, (refused reply).Worded words) (answer : Except ServiceFault Reply) :
    Fails (Error.Worded words) (verdict refused answer) := by
  unfold verdict
  split
  · exact .error (.ordinary (ServiceFault.error_ordinary _))
  · split
    · split
      · exact .ok _
      · exact .error (.ordinary (ServiceFault.error_ordinary _))
    · exact .error (told _)

theorem place_confined (order : Build.Order) :
    Confined (Error.Worded (some orderWords)) (desk.place order) := by
  intro state
  rw [outcome_place]
  refine verdict_fails (fun reply => ?_) _
  rw [refusedOrder_eq]
  exact Refusal.error_worded _ _ _

theorem record_confined (request : ComposeRequest) (versionId : Option Uuid) (id : Uuid) :
    Confined Error.Ordinary (desk.record caller request versionId id) :=
  .bind (.outside _) fun _ => .change StoreFault.error_ordinary _

theorem placing_confined (request : ComposeRequest) :
    Confined (Error.Worded (some orderWords)) (desk.placing caller request) := by
  refine .bind (soleImage_confined request).worded fun image => ?_
  exact .bind (orderFor_confined desk caller request image).worded (place_confined desk)

/-- Neither placing nor recording exceeds the quota. -/
theorem admitted_confined (request : ComposeRequest) (versionId : Option Uuid) :
    Confined (Error.Worded (some orderWords)) (do
      let id ← desk.placing caller request
      desk.record caller request versionId id
      return (⟨id⟩ : Created) : Work σ Created) := by
  refine .bind (placing_confined desk caller request) fun id => .worded ?_
  exact .bind (record_confined desk caller request versionId id) fun _ => .pure _

theorem blueprintOf_confined (id : Uuid) (number : Option Int) :
    Confined Error.Ordinary (blueprintOf caller id number : Work σ BlueprintEntry) :=
  .bind (.look _) fun _ => .check StoreFault.error_ordinary _

theorem storedBody_fails (entry : BlueprintEntry) : Fails Error.Ordinary (storedBody entry) :=
  .mapError (fun _ => trivial) _

theorem choosing_confined (id : Uuid) (selection : ImageSelection) :
    Confined Error.Ordinary (choosing caller id selection :
      Work σ ((BlueprintEntry × BlueprintBody) × List ImageRequest)) := by
  refine .bind (blueprintOf_confined caller id none) fun entry => ?_
  refine .bind (.of (storedBody_fails entry)) fun body => ?_
  exact .ite (.bind (.throw trivial) fun _ => .pure _) (.pure _)

end Desk

end ComposeDesk
