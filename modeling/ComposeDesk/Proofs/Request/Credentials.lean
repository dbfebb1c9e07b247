import ComposeDesk.Desk.Blueprint
import ComposeDesk.Proofs.Keyed

/-!
# Credentials of users

What the rule on credentials and the merge of an update make of a user.  A merge
first completes the user from the stored ones, then takes empty credentials away,
and then applies the rule; that it looks at complete users first makes no
difference.
-/

namespace ComposeDesk

/-- A text begins like a hash of one of the schemes that images know. -/
def IsHash (text : String) : Prop :=
  ∃ scheme ∈ ["$2b$", "$5$", "$6$"], scheme.toList <+: text.toList

theorem isCrypted_iff {text : String} : isCrypted text = true ↔ IsHash text := by
  simp only [isCrypted, IsHash, List.any_eq_true, List.isPrefixOf_iff_prefix]

/-- A hash is not empty. -/
theorem IsHash.ne_empty {text : String} (hash : IsHash text) : text ≠ "" := by
  rintro rfl
  obtain ⟨scheme, known, begins⟩ := hash
  have none : scheme.toList = [] := List.prefix_nil.mp begins
  revert scheme
  decide

namespace User

variable {user other : User} {stored : List User}

theorem hasPassword_iff :
    user.hasPassword = true ↔ ∃ password, user.password = some password ∧ password ≠ "" := by
  unfold hasPassword
  cases user.password with
  | none => simp
  | some password => simp

theorem hasSshKey_iff : user.hasSshKey = true ↔ ∃ key, user.sshKey = some key ∧ key ≠ "" := by
  unfold hasSshKey
  cases user.sshKey with
  | none => simp
  | some key => simp

theorem isNamed_iff : user.isNamed = true ↔ ∃ c ∈ user.name.toList, Text.isBlank c = false := by
  simp only [isNamed, List.any_eq_true, Bool.not_eq_true']

theorem validate_ok_iff : user.validate = .ok other ↔ user.isValid = true ∧ other = user := by
  unfold validate
  split
  · rename_i valid
    simp [valid, eq_comm]
  · rename_i invalid
    simp [invalid]

theorem withoutEmpty_hasPassword (user : User) : user.withoutEmpty.hasPassword = user.hasPassword := by
  by_cases empty : user.password = some ""
  · simp [withoutEmpty, hasPassword, empty]
  · simp [withoutEmpty, hasPassword, empty]

theorem withoutEmpty_hasSshKey (user : User) : user.withoutEmpty.hasSshKey = user.hasSshKey := by
  by_cases empty : user.sshKey = some ""
  · simp [withoutEmpty, hasSshKey, empty]
  · simp [withoutEmpty, hasSshKey, empty]

/-- Empty credentials count for nothing. -/
theorem withoutEmpty_isValid (user : User) : user.withoutEmpty.isValid = user.isValid := by
  simp only [isValid, withoutEmpty_hasPassword, withoutEmpty_hasSshKey]
  rfl

theorem withoutEmpty_password {password : String} (given : user.password = some password)
    (some : password ≠ "") : user.withoutEmpty.password = .some password := by
  simp [withoutEmpty, given, some]

/-- The user with missing credentials from the first stored user of the name. -/
def completed (user : User) (stored : List User) : User :=
  match stored.find? (·.name = user.name) with
  | some existing => user.inherit existing
  | none => user

/-- A user with both credentials inherits nothing. -/
theorem inherit_of_both {existing : User} (password : user.hasPassword = true)
    (key : user.hasSshKey = true) : user.inherit existing = user := by
  obtain ⟨_, givenPassword, -⟩ := hasPassword_iff.mp password
  obtain ⟨_, givenKey, -⟩ := hasSshKey_iff.mp key
  cases user with
  | mk name groups sshKey password =>
      cases givenPassword
      cases givenKey
      rfl

theorem completed_of_both (password : user.hasPassword = true) (key : user.hasSshKey = true) :
    user.completed stored = user := by
  unfold completed
  split
  · exact inherit_of_both password key
  · rfl

theorem completed_name (user : User) (stored : List User) :
    (user.completed stored).name = user.name := by
  unfold completed
  split <;> rfl

theorem completed_password_of_given {password : String} (given : user.password = some password) :
    (user.completed stored).password = some password := by
  unfold completed
  split
  · simp [inherit, given]
  · exact given

theorem completed_password_of_held {existing : User}
    (held : stored.find? (·.name = user.name) = some existing) (none : user.password = .none) :
    (user.completed stored).password = existing.password := by
  unfold completed
  rw [held]
  simp [inherit, none]

/-- Without its password, a stored user with a name of its own is completed to itself. -/
theorem completed_redacted (distinct : (stored.map (·.name)).Nodup) (member : user ∈ stored) :
    user.redacted.completed stored = user := by
  have found : stored.find? (fun other => other.name = user.redacted.name) = some user :=
    find?_of_mem distinct member
  unfold completed
  rw [found]
  cases user with
  | mk name groups sshKey password => cases sshKey <;> rfl

/-- A merge completes the user, takes empty credentials away and applies the rule. -/
theorem mergeForUpdate_eq (user : User) (stored : List User) :
    user.mergeForUpdate stored = (user.completed stored).withoutEmpty.validate := by
  unfold mergeForUpdate
  split
  · rename_i both
    obtain ⟨password, key⟩ := Bool.and_eq_true_iff.mp both
    rw [completed_of_both password key]
  · unfold completed
    cases stored.find? (·.name = user.name) with
    | some existing => rfl
    | none =>
        -- The rule is applied twice here, and says the same both times.
        cases valid : user.isValid with
        | true => rw [validate, if_pos valid]
        | false =>
            simp only [validate, withoutEmpty_isValid, valid, Bool.false_eq_true, if_false]
            rfl

theorem mergeForUpdate_ok_iff {merged : User} :
    user.mergeForUpdate stored = .ok merged ↔
      (user.completed stored).isValid = true ∧ merged = (user.completed stored).withoutEmpty := by
  rw [mergeForUpdate_eq, validate_ok_iff, withoutEmpty_isValid]

/-- What is required of a user that is stored with a blueprint: a name, at least one
credential, and no password in clear. -/
structure AtRest (user : User) : Prop where
  named : ∃ c ∈ user.name.toList, Text.isBlank c = false
  credited : (∃ password, user.password = some password ∧ password ≠ "") ∨
    ∃ key, user.sshKey = some key ∧ key ≠ ""
  hashed : ∀ password, user.password = some password → password = "" ∨ IsHash password

theorem isValid_iff :
    user.isValid = true ↔ (∃ c ∈ user.name.toList, Text.isBlank c = false) ∧
      ((∃ password, user.password = some password ∧ password ≠ "") ∨
        ∃ key, user.sshKey = some key ∧ key ≠ "") := by
  rw [isValid, Bool.and_eq_true, Bool.or_eq_true, isNamed_iff, hasPassword_iff, hasSshKey_iff]

theorem AtRest.isValid (rest : user.AtRest) : user.isValid = true :=
  isValid_iff.mpr ⟨rest.named, rest.credited⟩

/-- A password that is left is a hash. -/
theorem AtRest.withoutEmpty_hash (rest : user.AtRest) {password : String}
    (held : user.withoutEmpty.password = some password) : IsHash password := by
  by_cases empty : user.password = some ""
  · simp [withoutEmpty, empty] at held
  · have kept : user.password = some password := by
      simpa [withoutEmpty, empty] using held
    refine (rest.hashed password kept).resolve_left ?_
    rintro rfl
    exact empty kept

/-- A user at rest whose password is left out of an update is stored again, but for
empty credentials. -/
theorem AtRest.mergeForUpdate_redacted (rest : user.AtRest)
    (distinct : (stored.map (·.name)).Nodup) (member : user ∈ stored) :
    user.redacted.mergeForUpdate stored = .ok user.withoutEmpty := by
  have same := completed_redacted distinct member
  exact mergeForUpdate_ok_iff.mpr ⟨by rw [same]; exact rest.isValid, by rw [same]⟩

end User

def ComposeRequest.users (request : ComposeRequest) : List User :=
  match request.customizations with
  | some customizations => customizations.users.getD []
  | none => []

theorem ComposeRequest.redacted_password {request : ComposeRequest} {user : User}
    (member : user ∈ request.redacted.users) : user.password = none := by
  rcases form : request.customizations with _ | customizations
  · simp [users, redacted, form] at member
  · rcases held : customizations.users with _ | given
    · simp [users, redacted, Customizations.redacted, form, held] at member
    · simp only [users, redacted, Customizations.redacted, form, held, Option.map_some,
        Option.getD_some] at member
      obtain ⟨before, -, rfl⟩ := List.mem_map.mp member
      rfl

def BlueprintBody.users (body : BlueprintBody) : List User :=
  body.customizations.users.getD []

def Customizations.withoutEmpty (customizations : Customizations) : Customizations :=
  { customizations with users := customizations.users.map (·.map User.withoutEmpty) }

def BlueprintBody.withoutEmpty (body : BlueprintBody) : BlueprintBody :=
  { body with customizations := body.customizations.withoutEmpty }

end ComposeDesk
