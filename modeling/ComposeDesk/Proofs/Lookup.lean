import ComposeDesk.Proofs.Outcome
import ComposeDesk.Upload
import ComposeDesk.Customize

/-!
# Looking things up

Resolving repositories, upload targets and customizations asks the catalog, the
provisioning service and the compliance service, and nobody else.  Where those
answer alike, what is resolved is the same.
-/

namespace ComposeDesk

variable {σ τ : Type}

/-- From related worlds, two sets of services answer look-ups alike. -/
structure Downstream.Alike (related : σ → τ → Prop) (services : Downstream σ)
    (others : Downstream τ) : Prop where
  uploadInfo : ∀ caller source,
    Agree related (services.uploadInfo caller source) (others.uploadInfo caller source)
  repositories : ∀ caller urls ids external,
    Agree related (services.repositories caller urls ids external)
      (others.repositories caller urls ids external)
  snapshotsForDate : ∀ caller date uuids,
    Agree related (services.snapshotsForDate caller date uuids)
      (others.snapshotsForDate caller date uuids)
  policyData : ∀ caller major minor policy,
    Agree related (services.policyData caller major minor policy)
      (others.policyData caller major minor policy)

def Downstream.unreachable : Downstream σ where
  build :=
    { compose := fun _ => throw .http
      composeStatus := fun _ => throw .http
      composeMetadata := fun _ => throw .http
      cloneCompose := fun _ _ => throw .http
      cloneStatus := fun _ => throw .http
      openapi := throw .http }
  uploadInfo := fun _ _ => throw .http
  repositories := fun _ _ _ _ => throw .http
  snapshotsForDate := fun _ _ _ => throw .http
  policyData := fun _ _ _ _ => throw .http

variable {related : σ → τ → Prop} {services : Downstream σ} {others : Downstream τ}

namespace Repositories

theorem snapshots_agree (alike : services.Alike related others) (caller : Identity)
    (urls ids : List String) (external : Bool) (date : String) :
    Agree related (snapshots services caller urls ids external date)
      (snapshots others caller urls ids external date) := by
  unfold snapshots
  split
  · exact .throw _
  · refine .ite (.pure _) (.bind ((alike.repositories _ _ _ _).adapt _) fun catalog => ?_)
    refine .bind (.lift _) fun found => ?_
    split
    · exact .throw _
    · exact .bind ((alike.snapshotsForDate _ _ _).adapt _) fun dated => .lift _

theorem resolve_agree (alike : services.Alike related others) (caller : Identity)
    (architecture : Architecture) (type : ImageType) (date : Option String) :
    Agree related (resolve services caller architecture type date)
      (resolve others caller architecture type date) := by
  cases date with
  | none => exact .pure _
  | some date =>
      exact .bind (snapshots_agree alike caller _ _ _ _) fun pinned =>
        .ite (.bind (.throw _) fun _ => .pure _) (.pure _)

theorem payload_agree (alike : services.Alike related others) (caller : Identity)
    (given : List Repository) :
    Agree related (payload services caller given) (payload others caller given) :=
  .bind ((alike.repositories _ _ _ _).adapt _) fun _ => .lift _

theorem custom_agree (alike : services.Alike related others) (caller : Identity)
    (given : List CustomRepository) :
    Agree related (custom services caller given) (custom others caller given) :=
  .bind ((alike.repositories _ _ _ _).adapt _) fun _ => .lift _

end Repositories

namespace UploadTarget

theorem lookUp_agree (alike : services.Alike related others) (caller : Identity)
    (source : String) :
    Agree related (lookUp services caller source) (lookUp others caller source) :=
  (alike.uploadInfo caller source).adapt _

theorem awsAccount_agree (alike : services.Alike related others) (caller : Identity)
    (source : String) :
    Agree related (awsAccount services caller source) (awsAccount others caller source) := by
  refine .bind (lookUp_agree alike caller source) fun info => ?_
  split
  · exact .ite (.pure _) (.throw _)
  · exact .throw _

theorem awsAccounts_agree (alike : services.Alike related others) (caller : Identity)
    (accounts sources : Option (List String)) :
    Agree related (awsAccounts services caller accounts sources)
      (awsAccounts others caller accounts sources) :=
  have asked : Agree related ((sources.getD []).mapM (awsAccount services caller))
      ((sources.getD []).mapM (awsAccount others caller)) :=
    .mapM (awsAccount_agree alike caller) _
  .ite (.bind (.throw _) fun _ => .bind asked fun _ => .pure _) (.bind asked fun _ => .pure _)

theorem azurePlace_agree (alike : services.Alike related others) (caller : Identity)
    (target : AzureTarget) :
    Agree related (azurePlace services caller target) (azurePlace others caller target) := by
  unfold azurePlace
  split
  · exact .pure _
  · refine .bind (lookUp_agree alike caller _) fun info => ?_
    split
    · exact .pure _
    · exact .throw _
  · exact .throw _

theorem resolve_agree (alike : services.Alike related others) (caller : Identity)
    (settings : UploadSettings) (type : ImageType) (target : UploadTarget) :
    Agree related (resolve services caller settings type target)
      (resolve others caller settings type target) := by
  cases target with
  | aws target =>
      have asked := awsAccounts_agree alike caller target.shareWithAccounts
        target.shareWithSources
      exact .ite (.bind (.throw _) fun _ => .bind asked fun _ => .pure _)
        (.bind asked fun _ => .pure _)
  | awsS3 =>
      simp only [resolve]
      split
      · exact .pure _
      · exact .throw _
  | gcp target => exact .ite (.pure _) (.throw _)
  | azure target =>
      have asked := azurePlace_agree alike caller target
      exact .ite (.bind (.throw _) fun _ => .bind asked fun _ => .pure _)
        (.bind asked fun _ => .pure _)
  | oci => exact .ite (.pure _) (.throw _)

end UploadTarget

namespace Customize

theorem payload_agree (alike : services.Alike related others) (caller : Identity)
    (date : Option String) (given : Option (List Repository)) :
    Agree related (payload services caller date given) (payload others caller date given) := by
  unfold payload
  split
  · exact .pure _
  · split
    · exact .bind ((Repositories.snapshots_agree alike caller _ _ _ _).adapt _) fun _ => .pure _
    · exact .ite (.pure _)
        (.bind ((Repositories.payload_agree alike caller _).adapt _) fun _ => .pure _)

theorem custom_agree (alike : services.Alike related others) (caller : Identity)
    (date : Option String) (given : Option (List CustomRepository)) :
    Agree related (custom services caller date given) (custom others caller date given) := by
  unfold custom
  split
  · exact .pure _
  · split
    · exact .bind ((Repositories.snapshots_agree alike caller _ _ _ _).adapt _) fun _ => .pure _
    · exact .ite (.pure _)
        (.bind ((Repositories.custom_agree alike caller _).adapt _) fun _ => .pure _)

theorem hardening_agree (alike : services.Alike related others) (caller : Identity)
    (distribution : Distribution) (given : Option OpenScap) :
    Agree related (hardening services caller distribution given)
      (hardening others caller distribution given) := by
  unfold hardening
  split
  · exact .pure _
  · exact .ite (.pure _) (.pure _)
  · refine .bind (.lift _) fun release => ?_
    refine .bind ((alike.policyData _ _ _ _).adapt _) fun policy => ?_
    split
    · exact .pure _
    · exact .pure _

theorem prepare_agree (alike : services.Alike related others) (caller : Identity)
    (distribution : Distribution) (date : Option String) (customizations : Customizations) :
    Agree related (prepare services caller distribution date customizations)
      (prepare others caller distribution date customizations) := by
  refine .bind (payload_agree alike caller date _) fun payload => ?_
  refine .bind (custom_agree alike caller date _) fun custom => ?_
  refine .bind (hardening_agree alike caller distribution _) fun hardening => ?_
  exact .bind (.lift _) fun _ => .pure _

theorem ofRequest_agree (alike : services.Alike related others) (caller : Identity)
    (distribution : Distribution) (request : ComposeRequest) :
    Agree related (ofRequest services caller distribution request)
      (ofRequest others caller distribution request) := by
  unfold ofRequest
  split
  · exact .pure _
  · exact .bind (prepare_agree alike caller distribution _ _) fun _ => .pure _

end Customize

end ComposeDesk
