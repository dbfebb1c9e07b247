import ComposeDesk.Proofs.Alike
import ComposeDesk.Proofs.Request.Likeness

/-!
# Drafts side by side

From requests that are alike but for passwords, a desk makes drafts that are alike
but for passwords, as long as passwords that are related come out related when they
are stored.  For updates the same is asked of the stored bodies.
-/

namespace ComposeDesk

variable {σ : Type} {related : String → String → Prop} {worlds : σ → σ → Prop}
  {stores : Store → Store → Prop} {meters : Meters}

variable (related) in
structure BlueprintDraft.Like (draft other : BlueprintDraft) : Prop where
  name : draft.name = other.name
  description : draft.description = other.description
  body : draft.body.Like related other.body

variable (related) in
/-- Versions with stored bodies that are the same but for the passwords of their
users. -/
def BlueprintEntry.BodyLike (entry other : BlueprintEntry) : Prop :=
  Matching (BlueprintBody.Like related) (Desk.storedBody entry) (Desk.storedBody other)

namespace Desk

variable {desk : Desk σ} {caller : Identity}

/-- A password as it comes to be stored; empty ones and hashes stay. -/
def secure (desk : Desk σ) (password : String) : StateM σ String :=
  if password = "" || isCrypted password then return password else desk.crypt password

variable (related worlds) in
def SecuresAlike (desk : Desk σ) : Prop :=
  ∀ password other, related password other →
    Tally worlds related (desk.secure password) (desk.secure other)

/-- The password of a user is secured, if there is one. -/
theorem cryptUser_eq (desk : Desk σ) (user : User) :
    desk.cryptUser user =
      match user.password with
      | none => pure user
      | some password => do
          let hash ← desk.secure password
          return { user with password := some hash } := by
  unfold cryptUser secure
  cases form : user.password with
  | none => rfl
  | some password =>
      simp only
      split
      · rw [pure_bind, ← form]
      · rfl

theorem cryptUser_tally (secures : desk.SecuresAlike related worlds) {user other : User}
    (like : user.Like related other) :
    Tally worlds (User.Like related) (desk.cryptUser user) (desk.cryptUser other) := by
  rw [cryptUser_eq, cryptUser_eq]
  rcases optionRel_cases like.password with ⟨left, right⟩ | ⟨p, q, left, right, bound⟩
  · rw [left, right]
    exact .pure like
  · rw [left, right]
    refine .bind (secures p q bound) fun hash secured both => .pure ⟨?_, .some both⟩
    exact like.redacted

theorem cryptPasswords_tally (secures : desk.SecuresAlike related worlds)
    {customizations other : Customizations} (like : customizations.Like related other) :
    Tally worlds (Customizations.Like related) (desk.cryptPasswords customizations)
      (desk.cryptPasswords other) := by
  unfold cryptPasswords
  rcases optionRel_cases like.users with ⟨left, right⟩ | ⟨users, others, left, right, all⟩
  · rw [left, right]
    exact .pure like
  · rw [left, right]
    exact .bind (.mapM (fun _ _ one => cryptUser_tally secures one) all)
      fun _ _ results => .pure (like.withUsers results)

def draftOf (request : BlueprintRequest) (customizations : Customizations) : BlueprintDraft :=
  ⟨request.name, request.description, { request.body with customizations }⟩

theorem draftOf_like {request other : BlueprintRequest} (like : request.Like related other)
    {customizations secured : Customizations} (both : customizations.Like related secured) :
    (draftOf request customizations).Like related (draftOf other secured) :=
  ⟨like.name, like.description, like.body.distribution, like.body.imageRequests, both⟩

theorem drafting_accord (secures : desk.SecuresAlike related worlds) (keeps : KeepsEmpty related)
    {request other : BlueprintRequest} (like : request.Like related other) :
    Accord (DeskState.Related meters stores worlds) (BlueprintDraft.Like related)
      (desk.drafting request) (desk.drafting other) := by
  unfold drafting
  have named : checkName request.name = checkName other.name := by rw [like.name]
  have users : checkUsers request.customizations = checkUsers other.customizations :=
    checkUsers_eq like.body.customizations keeps
  rw [named, users]
  refine .bind_agree (Work.of_agree _) fun _ => ?_
  refine .bind_agree (Work.of_agree _) fun _ => ?_
  refine .bind (Work.outside_accord (cryptPasswords_tally secures like.body.customizations)) ?_
  intro customizations secured both
  exact .pure (draftOf_like like both)

theorem draftUpdate_accord (secures : desk.SecuresAlike related worlds) (keeps : KeepsEmpty related)
    {id : Uuid} (finds : ∀ {store other : Store}, stores store other →
      Matching (BlueprintEntry.BodyLike related) (store.getBlueprint id caller.org none)
        (other.getBlueprint id caller.org none))
    {request other : BlueprintRequest} (like : request.Like related other) :
    Accord (DeskState.Related meters stores worlds) (BlueprintDraft.Like related)
      (desk.draftUpdate caller id request) (desk.draftUpdate caller id other) := by
  unfold draftUpdate
  have named : checkName request.name = checkName other.name := by rw [like.name]
  rw [named]
  refine .bind_agree (Work.of_agree _) fun _ => ?_
  refine .bind (.bind (Work.look_accord finds) fun _ _ found => Work.check_accord _ found) ?_
  intro entry held bodies
  refine .bind (Work.of_accord bodies) fun stored known both => ?_
  refine .bind (Work.of_accord
    (mergedUsers_matching like.body.customizations keeps both.customizations.getD)) ?_
  intro merged joined alike
  refine .bind (Work.outside_accord (cryptPasswords_tally secures alike)) ?_
  intro customizations secured both
  exact .pure (draftOf_like like both)

end Desk

end ComposeDesk
