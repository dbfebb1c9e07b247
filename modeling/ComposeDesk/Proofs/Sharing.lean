import ComposeDesk.Proofs.Targets

/-!
# Accounts that an image is shared with

The accounts that are named are followed by those of the sources, which are looked up
one after another until one has no account.  What passes for an account is told by its
size alone, so its digits are up to the provisioning service.
-/

namespace ComposeDesk

/-- A number of an account: twelve decimal digits. -/
def AccountNumber (text : String) : Prop :=
  text.length = 12 ∧ ∀ c ∈ text.toList, c.isDigit = true

instance (text : String) : Decidable (AccountNumber text) :=
  @instDecidableAnd _ _ _ (List.decidableBAll _ text.toList)

/-- Digits take a byte each. -/
theorem utf8ByteSize_of_digits {cs : List Char} (digits : ∀ c ∈ cs, c.isDigit = true) :
    (String.ofList cs).utf8ByteSize = cs.length := by
  induction cs with
  | nil => rfl
  | cons c rest ih =>
      have later := ih fun other member => digits other (List.mem_cons_of_mem c member)
      have plain : c.val ≤ 127 := by
        have bound : c.toNat ≤ 57 := (Char.isDigit_iff_toNat.mp (digits c List.mem_cons_self)).2
        exact UInt32.le_iff_toNat_le.mpr (Nat.le_trans bound (by decide))
      rw [String.ofList_cons, String.utf8ByteSize_append, String.utf8ByteSize_singleton, later,
        Char.utf8Size_eq_one_iff.mpr plain, List.length_cons, Nat.add_comm]

/-- A text of twelve bytes is the number of an account exactly if it has only digits. -/
theorem accountNumber_iff {text : String} (sized : text.utf8ByteSize = 12) :
    AccountNumber text ↔ ∀ c ∈ text.toList, c.isDigit = true := by
  constructor
  · exact And.right
  · intro digits
    refine ⟨?_, digits⟩
    have bytes := utf8ByteSize_of_digits digits
    rw [String.ofList_toList, sized, String.length_toList] at bytes
    exact bytes.symm

namespace UploadTarget

variable {σ : Type} {services : Downstream σ} {caller : Identity}

variable (services caller) in
/-- A source stands for an account: the provisioning service answers with an account of
twelve bytes. -/
structure StandsFor (source account : String) (world left : σ) : Prop where
  answered : ∃ info aws, outcome (services.uploadInfo caller source) world = (.ok info, left) ∧
    info.aws = some aws ∧ aws.accountId = some account
  sized : account.utf8ByteSize = 12

variable (services caller) in
/-- A source does not resolve; each fault names it. -/
inductive Unresolved (source : String) (world left : σ) : UploadFault → Prop where
  | unread {fault : Json.Fault}
      (answered : outcome (services.uploadInfo caller source) world =
        (.error (.decode fault), left)) :
      Unresolved source world left (.sourceDecode source)
  | unanswered {fault : ServiceFault}
      (failed : outcome (services.uploadInfo caller source) world = (.error fault, left))
      (readable : ∀ inner, fault ≠ .decode inner) :
      Unresolved source world left (.sourceRequest source)
  | unsuited {info : UploadInfo}
      (answered : outcome (services.uploadInfo caller source) world = (.ok info, left))
      (unknown : ∀ aws account, info.aws = some aws → aws.accountId = some account →
        account.utf8ByteSize ≠ 12) :
      Unresolved source world left (.awsSourceUnresolved source)

variable {source account : String} {world left : σ} {fault : UploadFault}

theorem awsAccount_ok_iff :
    outcome (awsAccount services caller source) world = (.ok account, left) ↔
      StandsFor services caller source account world left := by
  constructor
  · intro done
    obtain ⟨info, middle, looked, found⟩ := outcome_bind_eq_ok done
    have answered := lookUp_ok_iff.mp looked
    split at found
    · rename_i held known
      obtain ⟨aws, given, named⟩ := Option.bind_eq_some_iff.mp known
      split at found
      · rename_i sized
        cases found
        exact ⟨⟨info, aws, answered, given, named⟩, sized⟩
      · cases found
    · cases found
  · rintro ⟨⟨info, aws, answered, given, named⟩, sized⟩
    rw [awsAccount, outcome_bind_ok (lookUp_ok_iff.mpr answered)]
    simp only [given, Option.bind_some, named, sized, if_true]
    rfl

/-- A source whose account is not found does not resolve. -/
theorem unresolved_of_awsAccount
    (failed : outcome (awsAccount services caller source) world = (.error fault, left)) :
    Unresolved services caller source world left fault := by
  rcases outcome_bind_eq_error failed with refused | ⟨info, middle, looked, missing⟩
  · rw [lookUp, outcome_adapt] at refused
    rcases asked : outcome (services.uploadInfo caller source) world with ⟨inner | info, kept⟩
    · rw [asked] at refused
      cases inner with
      | decode inner =>
          cases refused
          exact .unread asked
      | http | status | token | aborted =>
          cases refused
          exact .unanswered asked (fun _ => nofun)
    · rw [asked] at refused
      cases refused
  · have answered := lookUp_ok_iff.mp looked
    split at missing
    · rename_i held known
      split at missing
      · cases missing
      · rename_i misfit
        cases missing
        refine .unsuited answered fun aws account given named => ?_
        rw [given, Option.bind_some, named] at known
        cases known
        exact misfit
    · rename_i unknown
      cases missing
      refine .unsuited answered fun aws account given named => ?_
      rw [given, Option.bind_some, named] at unknown
      cases unknown

variable (services caller) in
/-- Sources that are looked up in their order each stand for an account. -/
inductive AllStandFor : List String → List String → σ → σ → Prop where
  | nil (world : σ) : AllStandFor [] [] world world
  | cons {source account : String} {sources accounts : List String} {world middle left : σ}
      (first : StandsFor services caller source account world middle)
      (rest : AllStandFor sources accounts middle left) :
      AllStandFor (source :: sources) (account :: accounts) world left

variable {sources accounts given : List String}

theorem AllStandFor.length_eq (all : AllStandFor services caller sources accounts world left) :
    accounts.length = sources.length := by
  induction all with
  | nil => rfl
  | cons _ _ ih => rw [List.length_cons, List.length_cons, ih]

theorem AllStandFor.sized (all : AllStandFor services caller sources accounts world left) :
    ∀ account ∈ accounts, account.utf8ByteSize = 12 := by
  induction all with
  | nil => exact fun _ member => nomatch member
  | cons first _ ih =>
      intro account member
      rcases List.mem_cons.mp member with rfl | later
      · exact first.sized
      · exact ih account later

/-- All sources are reached if all resolve, and what is found is what they stand for. -/
theorem mapM_awsAccount_ok
    (done : outcome (sources.mapM (awsAccount services caller)) world = (.ok accounts, left)) :
    AllStandFor services caller sources accounts world left := by
  induction sources generalizing accounts world with
  | nil =>
      cases done
      exact .nil left
  | cons source rest ih =>
      rw [List.mapM_cons] at done
      obtain ⟨account, middle, first, done⟩ := outcome_bind_eq_ok done
      obtain ⟨others, _, later, made⟩ := outcome_bind_eq_ok done
      cases made
      exact .cons (awsAccount_ok_iff.mp first) (ih later)

/-- The look-ups stop at a source that does not resolve, after sources that do. -/
theorem mapM_awsAccount_error
    (failed : outcome (sources.mapM (awsAccount services caller)) world = (.error fault, left)) :
    ∃ before source after accounts middle, sources = before ++ source :: after ∧
      AllStandFor services caller before accounts world middle ∧
      Unresolved services caller source middle left fault ∧
      reached services caller sources world = before ++ [source] := by
  induction sources generalizing world with
  | nil => cases failed
  | cons source rest ih =>
      rw [List.mapM_cons] at failed
      unfold reached
      rcases outcome_bind_eq_error failed with refused | ⟨account, middle, first, later⟩
      · refine ⟨[], source, rest, [], world, rfl, .nil world, unresolved_of_awsAccount refused, ?_⟩
        rw [refused, List.nil_append]
      · rcases outcome_bind_eq_error later with stopped | ⟨others, kept, _, made⟩
        · obtain ⟨before, last, after, accounts, middle, rfl, all, unresolved, same⟩ := ih stopped
          refine ⟨source :: before, last, after, account :: accounts, middle, rfl,
            .cons (awsAccount_ok_iff.mp first) all, unresolved, ?_⟩
          simp only [first, same, List.cons_append]
        · cases made

/-! ## The list -/

variable (services caller) in
/-- How an image comes to be shared: the sources that are looked up, and what comes of
it. -/
inductive Sharing (given wanted : List String) (world : σ) :
    List String → Except UploadFault (List String) × σ → Prop where
  /-- Nobody is named, and nothing is looked up. -/
  | nobody (unnamed : given = []) (unsourced : wanted = []) :
      Sharing given wanted world [] (.error .missingShareTarget, world)
  /-- Every source stands for an account. -/
  | found {accounts : List String} {left : σ} (someone : given ≠ [] ∨ wanted ≠ [])
      (all : AllStandFor services caller wanted accounts world left) :
      Sharing given wanted world wanted (.ok (given ++ accounts), left)
  /-- A source does not resolve, and none is looked up after it. -/
  | stopped {before after accounts : List String} {source : String} {middle left : σ}
      {fault : UploadFault} (split : wanted = before ++ source :: after)
      (all : AllStandFor services caller before accounts world middle)
      (unresolved : Unresolved services caller source middle left fault) :
      Sharing given wanted world (before ++ [source]) (.error fault, left)

/-- What is shared are the accounts that are named, and then those of the sources. -/
theorem Sharing.of_ok {given wanted asked accounts : List String} {world left : σ}
    (sharing : Sharing services caller given wanted world asked (.ok accounts, left)) :
    ∃ found, accounts = given ++ found ∧ AllStandFor services caller wanted found world left := by
  cases sharing with
  | found _ all => exact ⟨_, rfl, all⟩

theorem awsAccounts_nobody {given wanted : Option (List String)} (unnamed : given.getD [] = [])
    (unsourced : wanted.getD [] = []) :
    outcome (awsAccounts services caller given wanted) world =
      (.error .missingShareTarget, world) := by
  simp only [awsAccounts, unnamed, unsourced]
  rfl

theorem awsAccounts_someone {given wanted : Option (List String)}
    (someone : given.getD [] ≠ [] ∨ wanted.getD [] ≠ []) :
    awsAccounts services caller given wanted = (do
      let found ← (wanted.getD []).mapM (awsAccount services caller)
      return given.getD [] ++ found) := by
  have named : ((given.getD []).isEmpty && (wanted.getD []).isEmpty) = false := by
    rw [Bool.and_eq_false_iff, List.isEmpty_eq_false_iff, List.isEmpty_eq_false_iff]
    exact someone
  simp only [awsAccounts, named]
  rfl

/-- Every run of the look-ups is a way of sharing, and reaches the sources that this way
looks up. -/
theorem awsAccounts_sharing (given wanted : Option (List String)) (world : σ) :
    Sharing services caller (given.getD []) (wanted.getD []) world
      (reached services caller (wanted.getD []) world)
      (outcome (awsAccounts services caller given wanted) world) := by
  by_cases someone : given.getD [] ≠ [] ∨ wanted.getD [] ≠ []
  · rw [awsAccounts_someone someone]
    rcases ran : outcome ((wanted.getD []).mapM (awsAccount services caller)) world with
      ⟨fault | accounts, left⟩
    · rw [outcome_bind_error ran]
      obtain ⟨before, source, after, accounts, middle, split, all, unresolved, same⟩ :=
        mapM_awsAccount_error ran
      rw [same]
      exact .stopped split all unresolved
    · rw [outcome_bind_ok ran, outcome_pure, reached_of_ok ran]
      exact .found someone (mapM_awsAccount_ok ran)
  · obtain ⟨unnamed, unsourced⟩ := not_or.mp someone
    have unnamed := not_not.mp unnamed
    have unsourced := not_not.mp unsourced
    rw [awsAccounts_nobody unnamed unsourced]
    have none : reached services caller (wanted.getD []) world = [] := by
      rw [unsourced]
      rfl
    rw [none]
    exact .nobody unnamed unsourced

/-- The accounts that an image is shared with, for every behaviour of the provisioning
service: what is looked up is what a way of sharing looks up, in its order, and the answer
is that of this way.  Each account that is found takes twelve bytes, and it is the number of
an account exactly if it has only digits. -/
theorem awsAccounts_exact (services : Downstream σ) (caller : Identity)
    (given wanted : Option (List String)) (world : σ) :
    ∃ asked,
      Sharing services caller (given.getD []) (wanted.getD []) world asked
          (outcome (awsAccounts services caller given wanted) world) ∧
        (∀ held, outcome (awsAccounts services.recorded caller given wanted) (world, held) =
          ((outcome (awsAccounts services caller given wanted) world).1,
            ((outcome (awsAccounts services caller given wanted) world).2,
              held ++ asked.map fun source => (caller, source)))) ∧
        ∀ accounts left,
          outcome (awsAccounts services caller given wanted) world = (.ok accounts, left) →
          ∃ found, accounts = given.getD [] ++ found ∧
            found.length = (wanted.getD []).length ∧
            ∀ account ∈ found, account.utf8ByteSize = 12 ∧
              (AccountNumber account ↔ ∀ c ∈ account.toList, c.isDigit = true) := by
  have sharing : Sharing services caller (given.getD []) (wanted.getD []) world _ _ :=
    awsAccounts_sharing given wanted world
  refine ⟨_, sharing, awsAccounts_noted given wanted world, ?_⟩
  intro accounts left done
  rw [done] at sharing
  obtain ⟨found, rfl, all⟩ := sharing.of_ok
  refine ⟨found, rfl, all.length_eq, fun account member => ?_⟩
  have sized := all.sized account member
  exact ⟨sized, accountNumber_iff sized⟩

theorem awsAccounts_exact_provisioned :
    let caller : Identity := ⟨"1", "", "", "User", [], ""⟩
    outcome (awsAccounts provisioned caller (some ["000000000000"]) (some ["1", "1"])) () =
        (.ok ["000000000000", "123456789012", "123456789012"], ()) ∧
      ∃ found, found.length = 2 ∧ ["000000000000", "123456789012", "123456789012"] =
          ["000000000000"] ++ found ∧
        ∀ account ∈ found, AccountNumber account := by
  intro caller
  have done : outcome (awsAccounts provisioned caller (some ["000000000000"]) (some ["1", "1"])) () =
      (.ok ["000000000000", "123456789012", "123456789012"], ()) := by decide
  obtain ⟨asked, -, -, each⟩ := awsAccounts_exact provisioned caller (some ["000000000000"])
    (some ["1", "1"]) ()
  obtain ⟨found, same, two, numbers⟩ := each _ _ done
  refine ⟨done, found, two, same, fun account member => (numbers account member).2.mpr ?_⟩
  have known : ["123456789012", "123456789012"] = found := (List.cons.inj same).2
  rw [← known] at member
  rcases List.mem_cons.mp member with rfl | member
  · simp
  · rw [List.mem_singleton.mp member]
    simp

/-- Letters pass for an account, if there are twelve of them. -/
theorem letters_shared :
    let caller : Identity := ⟨"1", "", "", "User", [], ""⟩
    let services : Downstream Unit :=
      { Downstream.unreachable with
        uploadInfo := fun _ _ => pure ⟨some ⟨some "abcdefghijkl"⟩, none⟩ }
    outcome (awsAccounts services caller none (some ["s"])) () = (.ok ["abcdefghijkl"], ()) ∧
      ¬ AccountNumber "abcdefghijkl" := by
  intro caller services
  constructor
  · decide
  · decide

end UploadTarget

end ComposeDesk
