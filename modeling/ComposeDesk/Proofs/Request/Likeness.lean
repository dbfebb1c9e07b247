import ComposeDesk.Proofs.Itemwise
import ComposeDesk.Proofs.Outcome
import ComposeDesk.Proofs.Request.Credentials

/-!
# Requests alike but for passwords

Requests and stored bodies that differ in the passwords of their users only, where
the passwords are related in some way.  Redaction takes the difference away, and the
rule on credentials does not see it as long as empty passwords are related to empty
ones only; a merge with stored users keeps it.
-/

namespace ComposeDesk

variable {related : String → String → Prop}

variable (related) in
/-- Users that are the same but for their passwords. -/
structure User.Like (user other : User) : Prop where
  redacted : user.redacted = other.redacted
  password : Option.Rel related user.password other.password

/-- Only empty passwords are related to empty ones. -/
def KeepsEmpty (related : String → String → Prop) : Prop :=
  ∀ password other, related password other → (password = "" ↔ other = "")

namespace User.Like

variable {user other stored held : User}

theorem refl (same : ∀ password, related password password) (user : User) :
    user.Like related user :=
  ⟨rfl, optionRel_refl same _⟩

theorem name_eq (like : user.Like related other) : user.name = other.name := by
  have same := congrArg User.name like.redacted
  exact same

theorem sshKey_eq (like : user.Like related other) : user.sshKey = other.sshKey := by
  have same := congrArg User.sshKey like.redacted
  exact same

theorem hasPassword_eq (like : user.Like related other) (keeps : KeepsEmpty related) :
    user.hasPassword = other.hasPassword := by
  unfold User.hasPassword
  rcases optionRel_cases like.password with ⟨left, right⟩ | ⟨p, q, left, right, bound⟩
  · rw [left, right]
  · rw [left, right]
    simp only [ne_eq, keeps p q bound]

theorem isValid_eq (like : user.Like related other) (keeps : KeepsEmpty related) :
    user.isValid = other.isValid := by
  simp only [User.isValid, User.isNamed, User.hasSshKey, like.hasPassword_eq keeps, like.name_eq,
    like.sshKey_eq]

theorem complaint_eq (like : user.Like related other) : user.complaint = other.complaint := by
  simp only [User.complaint, like.name_eq]

/-- The rule on credentials says the same of both users. -/
theorem validate (like : user.Like related other) (keeps : KeepsEmpty related) :
    Matching (User.Like related) user.validate other.validate := by
  unfold User.validate
  rw [like.isValid_eq keeps, like.complaint_eq]
  split
  · exact .ok like
  · exact .error _

theorem withoutEmpty (like : user.Like related other) (keeps : KeepsEmpty related) :
    user.withoutEmpty.Like related other.withoutEmpty := by
  obtain ⟨name, groups, sshKey, password⟩ := user
  obtain ⟨name', groups', sshKey', password'⟩ := other
  obtain ⟨redacted, bound⟩ := like
  cases redacted
  refine ⟨rfl, ?_⟩
  cases bound with
  | none => exact .none
  | @some p q bound =>
      by_cases empty : p = ""
      · have also := (keeps p q bound).mp empty
        simp [User.withoutEmpty, empty, also]
      · have also : q ≠ "" := fun none => empty ((keeps p q bound).mpr none)
        simpa [User.withoutEmpty, empty, also] using Option.Rel.some bound

/-- Users that inherit from users that are alike stay alike. -/
theorem inherit (like : user.Like related other) (source : stored.Like related held) :
    (user.inherit stored).Like related (other.inherit held) := by
  obtain ⟨name, groups, sshKey, password⟩ := user
  obtain ⟨name', groups', sshKey', password'⟩ := other
  obtain ⟨redacted, bound⟩ := like
  cases redacted
  constructor
  · simp only [User.inherit, User.redacted, source.sshKey_eq]
  · cases bound with
    | none => exact source.password
    | some bound => exact .some bound

theorem completed (like : user.Like related other) {users others : List User}
    (all : users.Forall₂ (User.Like related) others) :
    (user.completed users).Like related (other.completed others) := by
  unfold User.completed
  have found : Option.Rel (User.Like related) (users.find? (·.name = user.name))
      (others.find? (·.name = other.name)) :=
    find?_forall₂ (fun _ _ one => by rw [one.name_eq, like.name_eq]) all
  rcases optionRel_cases found with ⟨left, right⟩ | ⟨stored, held, left, right, source⟩
  · rw [left, right]
    exact like
  · rw [left, right]
    exact like.inherit source

/-- A merge says the same of both users. -/
theorem mergeForUpdate (like : user.Like related other) (keeps : KeepsEmpty related)
    {users others : List User} (all : users.Forall₂ (User.Like related) others) :
    Matching (User.Like related) (user.mergeForUpdate users) (other.mergeForUpdate others) := by
  rw [User.mergeForUpdate_eq, User.mergeForUpdate_eq]
  exact ((like.completed all).withoutEmpty keeps).validate keeps

end User.Like

def Customizations.bare (customizations : Customizations) : Customizations :=
  { customizations with users := none }

variable (related) in
structure Customizations.Like (customizations other : Customizations) : Prop where
  bare : customizations.bare = other.bare
  users : Option.Rel (List.Forall₂ (User.Like related)) customizations.users other.users

namespace Customizations.Like

variable {customizations other : Customizations}

theorem refl (same : ∀ password, related password password) (customizations : Customizations) :
    customizations.Like related customizations :=
  ⟨rfl, optionRel_refl (fun _ => List.forall₂_same.mpr fun _ _ => .refl same _) _⟩

theorem redacted (like : customizations.Like related other) :
    customizations.redacted = other.redacted := by
  have users : customizations.users.map (·.map User.redacted) =
      other.users.map (·.map User.redacted) := by
    rcases optionRel_cases like.users with ⟨left, right⟩ | ⟨users, others, left, right, all⟩
    · rw [left, right]
    · rw [left, right]
      exact congrArg some (map_eq_of_forall₂ (fun _ _ one => one.redacted) all)
  calc customizations.redacted
    _ = { customizations.bare with users := customizations.users.map (·.map User.redacted) } := rfl
    _ = { other.bare with users := other.users.map (·.map User.redacted) } := by
        rw [like.bare, users]
    _ = other.redacted := rfl

theorem getD (like : customizations.Like related other) :
    (customizations.users.getD []).Forall₂ (User.Like related) (other.users.getD []) := by
  rcases optionRel_cases like.users with ⟨left, right⟩ | ⟨users, others, left, right, all⟩
  · rw [left, right]
    exact .nil
  · rw [left, right]
    exact all

/-- With other users that are alike, customizations stay alike. -/
theorem withUsers (like : customizations.Like related other) {users others : List User}
    (all : users.Forall₂ (User.Like related) others) :
    { customizations with users := some users }.Like related
      { other with users := some others } :=
  ⟨like.bare, .some all⟩

end Customizations.Like

variable (related) in
structure ComposeRequest.Like (request other : ComposeRequest) : Prop where
  rest : { request with customizations := none } = { other with customizations := none }
  customizations : Option.Rel (Customizations.Like related) request.customizations
    other.customizations

variable (related) in
structure BlueprintBody.Like (body other : BlueprintBody) : Prop where
  distribution : body.distribution = other.distribution
  imageRequests : body.imageRequests = other.imageRequests
  customizations : body.customizations.Like related other.customizations

variable (related) in
structure BlueprintRequest.Like (request other : BlueprintRequest) : Prop where
  name : request.name = other.name
  description : request.description = other.description
  body : request.body.Like related other.body

theorem ComposeRequest.Like.refl (same : ∀ password, related password password)
    (request : ComposeRequest) : request.Like related request :=
  ⟨rfl, optionRel_refl (Customizations.Like.refl same) _⟩

theorem ComposeRequest.Like.redacted {request other : ComposeRequest}
    (like : request.Like related other) : request.redacted = other.redacted := by
  have customizations : request.customizations.map Customizations.redacted =
      other.customizations.map Customizations.redacted := by
    rcases optionRel_cases like.customizations with ⟨left, right⟩ | ⟨_, _, left, right, alike⟩
    · rw [left, right]
    · rw [left, right]
      exact congrArg some alike.redacted
  calc request.redacted
    _ = { { request with customizations := none } with
          customizations := request.customizations.map Customizations.redacted } := rfl
    _ = { { other with customizations := none } with
          customizations := other.customizations.map Customizations.redacted } := by
        rw [like.rest, customizations]
    _ = other.redacted := rfl

theorem BlueprintBody.Like.refl (same : ∀ password, related password password)
    (body : BlueprintBody) : body.Like related body :=
  ⟨rfl, rfl, .refl same _⟩

theorem BlueprintBody.Like.redacted {body other : BlueprintBody} (like : body.Like related other) :
    body.redacted = other.redacted := by
  unfold BlueprintBody.redacted
  rw [like.distribution, like.imageRequests, like.customizations.redacted]

theorem BlueprintRequest.Like.refl (same : ∀ password, related password password)
    (request : BlueprintRequest) : request.Like related request :=
  ⟨rfl, rfl, .refl same _⟩

namespace Desk

/-- The rule on new users says the same of customizations that are alike. -/
theorem checkUsers_eq {customizations other : Customizations}
    (like : customizations.Like related other) (keeps : KeepsEmpty related) :
    checkUsers customizations = checkUsers other := by
  have all := like.getD
  unfold checkUsers
  generalize customizations.users.getD [] = users, other.users.getD [] = others at all
  induction all with
  | nil => rfl
  | @cons user held rest more one _ ih =>
      rw [List.forM_eq_forM] at ih ⊢
      rw [List.forM_cons, List.forM_cons, ih]
      rcases (one.validate keeps).cases with ⟨fault, left, right⟩ | ⟨_, _, left, right, -⟩
      · rw [left, right]
      · rw [left, right]
        rfl

theorem mergedUsers_matching {customizations other : Customizations}
    (like : customizations.Like related other) (keeps : KeepsEmpty related)
    {stored held : List User} (all : stored.Forall₂ (User.Like related) held) :
    Matching (Customizations.Like related) (mergedUsers stored customizations)
      (mergedUsers held other) := by
  unfold mergedUsers
  rcases optionRel_cases like.users with ⟨left, right⟩ | ⟨users, others, left, right, each⟩
  · rw [left, right]
    exact .ok like
  · rw [left, right]
    have merged : Matching (List.Forall₂ (User.Like related))
        (users.mapM (·.mergeForUpdate stored)) (others.mapM (·.mergeForUpdate held)) :=
      .mapM (fun _ _ one => one.mergeForUpdate keeps all) each
    simp only
    rcases merged.cases with ⟨fault, left, right⟩ | ⟨results, found, left, right, alike⟩
    · rw [left, right]
      exact .error _
    · rw [left, right]
      exact .ok (like.withUsers alike)

end Desk

end ComposeDesk
