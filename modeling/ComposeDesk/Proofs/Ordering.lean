import ComposeDesk.Proofs.Alike
import ComposeDesk.Proofs.Request.Likeness

/-!
# Orders alike but for passwords

Requests that are alike but for passwords are checked alike and become orders that
are alike but for passwords.  Where the build service answers such orders alike, a
submission comes to the same.
-/

namespace ComposeDesk

variable {σ : Type} {related : String → String → Prop} {worlds : σ → σ → Prop}
  {stores : Store → Store → Prop} {meters : Meters}

variable (related) in
structure Build.User.Like (user other : Build.User) : Prop where
  rest : { user with password := none } = { other with password := none }
  password : Option.Rel related user.password other.password

variable (related) in
/-- Customizations for the build service that are the same but for the passwords of
their users. -/
structure Build.Customizations.Like (customizations other : Build.Customizations) : Prop where
  rest : { customizations with users := none } = { other with users := none }
  users : Option.Rel (List.Forall₂ (Build.User.Like related)) customizations.users other.users

variable (related) in
structure Build.Order.Like (order other : Build.Order) : Prop where
  rest : { order with customizations := none } = { other with customizations := none }
  customizations : Option.Rel (Build.Customizations.Like related) order.customizations
    other.customizations

theorem Build.Order.Like.refl (same : ∀ password, related password password)
    (order : Build.Order) : order.Like related order :=
  ⟨rfl, optionRel_refl (fun _ => ⟨rfl, optionRel_refl
    (fun _ => List.forall₂_same.mpr fun _ _ => ⟨rfl, optionRel_refl same _⟩) _⟩) _⟩

namespace Customize

variable {services : Downstream σ} {caller : Identity} {distribution : Distribution}

theorem user_like {user other : User} (like : user.Like related other) :
    (Customize.user user).Like related (Customize.user other) := by
  obtain ⟨name, groups, sshKey, password⟩ := user
  obtain ⟨name', groups', sshKey', password'⟩ := other
  obtain ⟨redacted, bound⟩ := like
  cases redacted
  exact ⟨rfl, bound⟩

/-- Of the users nothing is looked up, so what is looked up is the same. -/
theorem prepare_accord (alike : services.Alike worlds services) (date : Option String)
    {customizations other : Customizations} (like : customizations.Like related other) :
    Accord worlds (Build.Customizations.Like related)
      (prepare services caller distribution date customizations)
      (prepare services caller distribution date other) := by
  obtain ⟨bare, users⟩ := like
  cases customizations
  cases other
  cases bare
  unfold prepare
  refine .bind_agree (payload_agree alike caller date _) fun payload => ?_
  refine .bind_agree (custom_agree alike caller date _) fun custom => ?_
  refine .bind_agree (hardening_agree alike caller distribution _) fun hardening => ?_
  refine .bind_agree (.lift _) fun given => ?_
  refine .pure ⟨rfl, ?_⟩
  rcases optionRel_cases users with ⟨left, right⟩ | ⟨list, others, left, right, all⟩
  · simp only at left right
    rw [left, right]
    exact .none
  · simp only at left right
    rw [left, right]
    exact .some (List.rel_map (fun _ _ one => user_like one) all)

theorem ofRequest_accord (alike : services.Alike worlds services)
    {request other : ComposeRequest} (like : request.Like related other) :
    Accord worlds (Option.Rel (Build.Customizations.Like related))
      (ofRequest services caller distribution request)
      (ofRequest services caller distribution other) := by
  obtain ⟨name, images, customizations, client, imageName, description⟩ := request
  obtain ⟨name', images', customizations', client', imageName', description'⟩ := other
  obtain ⟨rest, bound⟩ := like
  cases rest
  unfold ofRequest
  cases bound with
  | none => exact .pure .none
  | some both =>
      exact .bind (prepare_accord alike _ both) fun _ _ prepared => .pure (.some prepared)

end Customize

namespace ComposeRequest.Like

variable {request other : ComposeRequest}

theorem distribution_eq (like : request.Like related other) :
    request.distribution = other.distribution := by
  have same := congrArg ComposeRequest.distribution like.rest
  exact same

theorem imageRequests_eq (like : request.Like related other) :
    request.imageRequests = other.imageRequests := by
  have same := congrArg ComposeRequest.imageRequests like.rest
  exact same

/-- A part of the customizations that has nothing to do with users is the same. -/
theorem part_eq {α : Type} (like : request.Like related other) (part : Customizations → Option α)
    (apart : ∀ customizations : Customizations, part customizations = part customizations.bare) :
    request.customizations.bind part = other.customizations.bind part := by
  rcases optionRel_cases like.customizations with ⟨left, right⟩ | ⟨_, _, left, right, both⟩
  · rw [left, right]
  · rw [left, right, Option.bind_some, Option.bind_some, apart, both.bare, ← apart]

theorem checkSize_eq (like : request.Like related other) :
    request.checkSize = other.checkSize := by
  have filesystem := like.part_eq (·.filesystem) fun _ => rfl
  have size : request.filesystemSize = other.filesystemSize := by
    unfold filesystemSize
    rw [filesystem]
  unfold checkSize totalSize
  rw [like.imageRequests_eq, size]

theorem checkInstaller_eq (like : request.Like related other) :
    request.checkInstaller = other.checkInstaller := by
  have installer := like.part_eq (·.installer) fun _ => rfl
  unfold checkInstaller
  rw [like.imageRequests_eq, installer]

end ComposeRequest.Like

namespace Desk

variable {desk : Desk σ} {caller : Identity} {request other : ComposeRequest}

theorem soleImage_eq (like : request.Like related other) :
    (soleImage request : Work σ ImageRequest) = soleImage other := by
  unfold soleImage
  rw [like.imageRequests_eq]

theorem architectureFor_eq (like : request.Like related other) (distribution : Distribution)
    (image : ImageRequest) :
    architectureFor distribution request image = architectureFor distribution other image := by
  unfold architectureFor
  rw [like.distribution_eq]

theorem orderFor_accord (asks : desk.AsksAlike worlds desk) (like : request.Like related other)
    (image : ImageRequest) :
    Accord (DeskState.Related meters stores worlds) (Build.Order.Like related)
      (desk.orderFor caller request image) (desk.orderFor caller other image) := by
  unfold orderFor
  rw [like.distribution_eq, like.checkSize_eq, like.checkInstaller_eq]
  refine .bind_agree (Work.of_agree _) fun distribution => ?_
  rw [architectureFor_eq like]
  refine .bind_agree (Work.of_agree _) fun architecture => ?_
  refine .bind_agree (Work.ask_agree
    (Repositories.resolve_agree asks.services caller _ _ _) _) fun repositories => ?_
  refine .bind_agree (Work.ask_agree
    (UploadTarget.resolve_agree asks.services caller _ _ _) _) fun target => ?_
  refine .bind_agree (Work.check_agree _ _) fun _ => ?_
  refine .bind_agree (Work.check_agree _ _) fun _ => ?_
  refine .bind (Work.ask_accord (Customize.ofRequest_accord asks.services like) _) ?_
  intro customizations prepared both
  exact .pure ⟨rfl, both⟩

theorem ordering_accord (lists : Store.Lists stores caller.org) (asks : desk.AsksAlike worlds desk)
    (like : request.Like related other) :
    Accord (DeskState.Related meters stores worlds) (Build.Order.Like related)
      (desk.ordering caller request) (desk.ordering caller other) := by
  unfold ordering
  rw [soleImage_eq like]
  refine .bind_agree (allow_agree lists asks) fun _ => ?_
  refine .bind_agree (soleImage_agree _) fun image => ?_
  exact orderFor_accord asks like image

/-- Where orders that are alike are answered alike, what is placed for requests that
are alike is the same. -/
theorem submission_agree_of_like (lists : Store.Lists stores caller.org)
    (asks : desk.AsksAlike worlds desk)
    (builds : ∀ {order held : Build.Order}, order.Like related held →
      Agree worlds (desk.services.build.compose order) (desk.services.build.compose held))
    (like : request.Like related other) :
    Agree (DeskState.Related meters stores worlds) (desk.submission caller request)
      (desk.submission caller other) := by
  refine Accord.agree (.bind (ordering_accord lists asks like) fun order held both => ?_)
  refine .of_agree (.bind (place_agree (builds both)) fun _ => ?_)
  exact .bind (Work.outside_agree asks.now) fun _ => .pure _

end Desk

end ComposeDesk
