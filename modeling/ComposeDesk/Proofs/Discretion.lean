import ComposeDesk.Proofs.Refusal
import ComposeDesk.Proofs.Writing

/-!
# Bodies that are not told

A desk is run over two build services that behave the same, but for the bodies of
replies that do not hold what was asked for.  Of such a body the desk reads what the
refusal comes to, and of the reasons those that are for callers.  Whatever else the
two bodies say, the desk is left in the same state and answers the same.  One such
service is that which leaves these bodies out.
-/

namespace ComposeDesk

variable {σ ε δ α β γ : Type}

/-- The same value, or faults that are related. -/
inductive Kindred (kin : ε → ε → Prop) : Except ε α → Except ε α → Prop where
  | ok (a : α) : Kindred kin (.ok a) (.ok a)
  | error {fault other : ε} (both : kin fault other) : Kindred kin (.error fault) (.error other)

theorem Kindred.refl {kin : ε → ε → Prop} (same : ∀ fault, kin fault fault)
    (result : Except ε α) : Kindred kin result result := by
  cases result with
  | ok a => exact .ok a
  | error fault => exact .error (same fault)

theorem Kindred.mapError {kin : ε → ε → Prop} {related : δ → δ → Prop} {tell : ε → δ}
    {result other : Except ε α} (kindred : Kindred kin result other)
    (told : ∀ fault held, kin fault held → related (tell fault) (tell held)) :
    Kindred related (result.mapError tell) (other.mapError tell) := by
  cases kindred with
  | ok a => exact .ok a
  | error both => exact .error (told _ _ both)

/-- From the same state, two acts leave the same state, and answer the same or fail with
faults that are related. -/
def Parallel (kin : ε → ε → Prop) (act other : Act σ ε α) : Prop :=
  ∀ state, Kindred kin (outcome act state).1 (outcome other state).1 ∧
    (outcome act state).2 = (outcome other state).2

namespace Parallel

variable {kin : ε → ε → Prop}

theorem refl (same : ∀ fault, kin fault fault) (act : Act σ ε α) : Parallel kin act act :=
  fun _ => ⟨.refl same _, rfl⟩

theorem throw {fault other : ε} (both : kin fault other) :
    Parallel kin (throw fault : Act σ ε α) (throw other) :=
  fun _ => ⟨.error both, rfl⟩

theorem bind {act other : Act σ ε α} {next following : α → Act σ ε β}
    (first : Parallel kin act other) (rest : ∀ a, Parallel kin (next a) (following a)) :
    Parallel kin (act >>= next) (other >>= following) := by
  intro state
  have alike := first state
  rw [outcome_bind, outcome_bind]
  revert alike
  rcases outcome act state with ⟨result, left⟩
  rcases outcome other state with ⟨told, right⟩
  rintro ⟨kindred, rfl⟩
  cases kindred with
  | error both => exact ⟨.error both, rfl⟩
  | ok a => exact rest a left

theorem ite {condition : Prop} [Decidable condition] {act first other second : Act σ ε α}
    (holds : Parallel kin act other) (fails : Parallel kin first second) :
    Parallel kin (if condition then act else first) (if condition then other else second) := by
  split
  · exact holds
  · exact fails

theorem mapM {act other : α → Act σ ε β} (each : ∀ a, Parallel kin (act a) (other a))
    (items : List α) : Parallel kin (items.mapM act) (items.mapM other) := by
  induction items with
  | nil => exact fun _ => ⟨.ok _, rfl⟩
  | cons item rest ih =>
      rw [List.mapM_cons, List.mapM_cons]
      exact (each item).bind fun _ => ih.bind fun _ => fun _ => ⟨.ok _, rfl⟩

theorem tryCatch {act other : Act σ ε α} {handle treat : ε → Act σ ε α}
    (first : Parallel kin act other)
    (rest : ∀ fault told, kin fault told → Parallel kin (handle fault) (treat told)) :
    Parallel kin (tryCatch act handle) (tryCatch other treat) := by
  intro state
  have alike := first state
  rw [outcome_tryCatch, outcome_tryCatch]
  revert alike
  rcases outcome act state with ⟨result, left⟩
  rcases outcome other state with ⟨told, right⟩
  rintro ⟨kindred, rfl⟩
  cases kindred with
  | ok a => exact ⟨.ok a, rfl⟩
  | error both => exact rest _ _ both left

theorem adapt {related : δ → δ → Prop} {tell : ε → δ} {act other : Act σ ε α}
    (parallel : Parallel kin act other)
    (told : ∀ fault other, kin fault other → related (tell fault) (tell other)) :
    Parallel related (act.adapt tell : Act σ δ α) (other.adapt tell) :=
  fun state => ⟨(parallel state).1.mapError told, (parallel state).2⟩

variable {kin : Error → Error → Prop}

/-- Services that are asked side by side leave the same world; what follows may rely on
what each of them replied. -/
theorem ask_bind (same : ∀ error, kin error error) {replies : γ → γ → Prop}
    {act other : Act σ ε γ} (accord : Accord Eq replies act other) (tell : ε → Error)
    {next following : γ → Work σ α}
    (rest : ∀ world a b, (outcome act world).1 = .ok a → (outcome other world).1 = .ok b →
      replies a b → Parallel kin (next a) (following b)) :
    Parallel kin (Work.ask tell act >>= next) (Work.ask tell other >>= following) := by
  intro state
  obtain ⟨matching, left⟩ := accord state.world state.world rfl
  rw [outcome_bind, outcome_bind, Work.outcome_ask, Work.outcome_ask, left]
  rcases matching.cases with ⟨fault, one, two⟩ | ⟨a, b, one, two, both⟩
  · rw [one, two]
    exact ⟨.error (same _), rfl⟩
  · rw [one, two]
    exact rest state.world a b one two both _

end Parallel

/-- Replies of the same status that are the same where the status is the one that is
hoped for. -/
structure Reply.Resembles (hoped : Nat) (reply other : Reply) : Prop where
  status : reply.status = other.status
  same : reply.status = hoped → reply = other

/-- Replies that are the same where the build service takes what it is asked for, and
otherwise come to the same refusal. -/
structure Reply.Refuses (refusal : Build.ErrorBody → Refusal) (reply other : Reply) : Prop
    extends Reply.Resembles 201 reply other where
  refusal : reply.status ≠ 201 →
    refusal (Build.ErrorBody.ofReply reply) = refusal (Build.ErrorBody.ofReply other)

namespace BuildService

/-- Two build services change the world alike and reply with the same statuses.  Their
replies differ in bodies only: of orders and copies that are refused, which may be for
other reasons, and of replies that do not have the status that is hoped for. -/
structure Resembles (build other : BuildService σ) : Prop where
  compose : ∀ order, Accord Eq (Reply.Refuses Build.ErrorBody.orderRefusal)
    (build.compose order) (other.compose order)
  composeStatus : ∀ id, Accord Eq (Reply.Resembles 200)
    (build.composeStatus id) (other.composeStatus id)
  composeMetadata : ∀ id, Accord Eq (Reply.Resembles 200)
    (build.composeMetadata id) (other.composeMetadata id)
  cloneCompose : ∀ id order, Accord Eq (Reply.Refuses Build.ErrorBody.cloneRefusal)
    (build.cloneCompose id order) (other.cloneCompose id order)
  cloneStatus : ∀ id, Accord Eq (Reply.Resembles 200)
    (build.cloneStatus id) (other.cloneStatus id)
  openapi : Accord Eq (fun reply told : Reply => reply.status = told.status)
    build.openapi other.openapi

/-- The reasons for which two build services refuse the same order, or the same copy, in
the same world, where these are for callers. -/
inductive Reasons (build other : BuildService σ) : String → String → Prop where
  | order {order : Build.Order} {world : σ} {reply told : Reply}
      (replied : (outcome (build.compose order) world).1 = .ok reply)
      (repliedToo : (outcome (other.compose order) world).1 = .ok told)
      (rejected : reply.status ≠ 201) (rejectedToo : told.status ≠ 201)
      (id : (Build.ErrorBody.ofReply reply).id = "24" ∨
        (Build.ErrorBody.ofReply reply).id = "29")
      (idToo : (Build.ErrorBody.ofReply told).id = "24" ∨
        (Build.ErrorBody.ofReply told).id = "29") :
      Reasons build other (Build.ErrorBody.ofReply reply).reason
        (Build.ErrorBody.ofReply told).reason
  | clone {composeId : Uuid} {order : Build.CloneOrder} {world : σ} {reply told : Reply}
      (replied : (outcome (build.cloneCompose composeId order) world).1 = .ok reply)
      (repliedToo : (outcome (other.cloneCompose composeId order) world).1 = .ok told)
      (rejected : reply.status ≠ 201) (rejectedToo : told.status ≠ 201)
      (code : (Build.ErrorBody.ofReply reply).code = "IMAGE-BUILDER-COMPOSER-31")
      (codeToo : (Build.ErrorBody.ofReply told).code = "IMAGE-BUILDER-COMPOSER-31") :
      Reasons build other (Build.ErrorBody.ofReply reply).reason
        (Build.ErrorBody.ofReply told).reason

end BuildService

/-! ## Bodies that are left out -/

/-- A reply, without its body if that does not matter. -/
def Reply.hush (matters : Reply → Bool) (reply : Reply) : Reply :=
  if matters reply then reply else { reply with body := [] }

theorem Reply.hush_status (matters : Reply → Bool) (reply : Reply) :
    (reply.hush matters).status = reply.status := by
  unfold hush
  split <;> rfl

theorem Reply.hush_of_matters {matters : Reply → Bool} {reply : Reply}
    (told : matters reply = true) : reply.hush matters = reply := by
  rw [hush, if_pos told]

/-- Whether the body of a reply tells what is taken, or how callers are refused. -/
def Reply.tells (refusal : Build.ErrorBody → Refusal) (reply : Reply) : Bool :=
  reply.status = 201 || refusal (.ofReply reply) ≠ .unexpected

/-- Without a body nothing is said of a refusal. -/
theorem Build.ErrorBody.ofReply_nil (status : Nat) : ofReply ⟨status, []⟩ = .empty := rfl

theorem Reply.resembles_hush (hoped : Nat) (reply : Reply) :
    reply.Resembles hoped (reply.hush fun reply => reply.status = hoped) where
  status := (hush_status _ reply).symm
  same found := (hush_of_matters (decide_eq_true found)).symm

theorem Reply.refuses_hush {refusal : Build.ErrorBody → Refusal}
    (silent : refusal .empty = .unexpected) (reply : Reply) :
    reply.Refuses refusal (reply.hush (·.tells refusal)) where
  status := (hush_status _ reply).symm
  same taken := by
    refine (hush_of_matters ?_).symm
    simp [tells, taken]
  refusal rejected := by
    by_cases unexpected : refusal (.ofReply reply) = .unexpected
    · have untold : reply.tells refusal = false := by simp [tells, rejected, unexpected]
      have emptied : reply.hush (·.tells refusal) = ⟨reply.status, []⟩ := by simp [hush, untold]
      rw [emptied, Build.ErrorBody.ofReply_nil, unexpected, silent]
    · rw [hush_of_matters (by simp [tells, unexpected])]

/-- What is made of replies one by one. -/
theorem accord_map {related : γ → δ → Prop} {f : γ → δ} (each : ∀ a, related a (f a))
    (act : Act σ ε γ) : Accord Eq related act (f <$> act) := by
  rintro state _ rfl
  rw [outcome_map]
  refine ⟨?_, rfl⟩
  cases (outcome act state).1 with
  | error fault => exact .error fault
  | ok a => exact .ok (each a)

def BuildService.hushed (build : BuildService σ) : BuildService σ where
  compose order := Reply.hush (·.tells Build.ErrorBody.orderRefusal) <$> build.compose order
  composeStatus id := Reply.hush (fun reply => reply.status = 200) <$> build.composeStatus id
  composeMetadata id := Reply.hush (fun reply => reply.status = 200) <$> build.composeMetadata id
  cloneCompose id order :=
    Reply.hush (·.tells Build.ErrorBody.cloneRefusal) <$> build.cloneCompose id order
  cloneStatus id := Reply.hush (fun reply => reply.status = 200) <$> build.cloneStatus id
  openapi := Reply.hush (fun _ => false) <$> build.openapi

theorem BuildService.resembles_hushed (build : BuildService σ) : build.Resembles build.hushed where
  compose _ := accord_map (Reply.refuses_hush rfl) _
  composeStatus _ := accord_map (Reply.resembles_hush 200) _
  composeMetadata _ := accord_map (Reply.resembles_hush 200) _
  cloneCompose _ _ := accord_map (Reply.refuses_hush rfl) _
  cloneStatus _ := accord_map (Reply.resembles_hush 200) _
  openapi := by
    refine accord_map ?_ _
    exact fun reply => (Reply.hush_status _ reply).symm

/-- A reason that is for callers stays. -/
theorem Reply.reason_hush {refusal : Build.ErrorBody → Refusal} {act : Act σ ServiceFault Reply}
    {state : σ} {reply told : Reply} (replied : (outcome act state).1 = .ok reply)
    (hushed : (outcome (Reply.hush (·.tells refusal) <$> act) state).1 = .ok told)
    (expected : refusal (.ofReply reply) ≠ .unexpected) : reply = told := by
  rw [outcome_map, replied] at hushed
  have same := Except.ok.inj hushed
  rw [hush_of_matters (by simp [tells, expected])] at same
  exact same

theorem BuildService.reasons_hushed {build : BuildService σ} {text told : String}
    (both : build.Reasons build.hushed text told) : text = told := by
  cases both with
  | order replied repliedToo _ _ id _ =>
      rw [Reply.reason_hush replied repliedToo]
      rcases id with id | id <;> simp [Build.ErrorBody.orderRefusal, id]
  | clone replied repliedToo _ _ code _ =>
      rw [Reply.reason_hush replied repliedToo]
      simp [Build.ErrorBody.cloneRefusal, code]

/-- Errors that are the same to callers, or two refusals for reasons that are for them. -/
inductive Error.Kin (reasons : String → String → Prop) : Error → Error → Prop where
  | same (error : Error) : Kin reasons error error
  | detail (status : Nat) (text detail other : String) :
      Kin reasons (.downstream status text detail) (.downstream status text other)
  | reason {text told : String} (both : reasons text told) (detail other : String) :
      Kin reasons (.downstream 400 text detail) (.downstream 400 told other)

theorem Error.Kin.status {reasons : String → String → Prop} {error other : Error}
    (kin : error.Kin reasons other) : error.status = other.status := by
  cases kin <;> rfl

/-- Refusals that come to the same are told the same, but for the reasons. -/
theorem Refusal.error_kin {reasons : String → String → Prop} {reply told : Reply}
    (words : String) (refusal : Refusal)
    (both : refusal = .reasoned →
      reasons (Build.ErrorBody.ofReply reply).reason (Build.ErrorBody.ofReply told).reason) :
    (refusal.error words reply).Kin reasons (refusal.error words told) := by
  cases refusal with
  | unresolved => exact .detail _ _ _ _
  | reasoned => exact .reason (both rfl) _ _
  | unexpected => exact .detail _ _ _ _

namespace Desk

def behind (desk : Desk σ) (build : BuildService σ) : Desk σ :=
  { desk with services := { desk.services with build } }

variable {desk : Desk σ} {build : BuildService σ} {caller : Identity}
  {reasons : String → String → Prop}

/-! ## Orders and copies -/

/-- What two answers to an order come to, if they come to the same refusal. -/
theorem verdict_kindred {refusal : Build.ErrorBody → Refusal} {refused : Reply → Error}
    {words : String}
    (told : ∀ reply, refused reply = (refusal (.ofReply reply)).error words reply)
    {answer other : Except ServiceFault Reply}
    (matching : Matching (Reply.Refuses refusal) answer other)
    (both : ∀ reply held, answer = .ok reply → other = .ok held →
      reply.status ≠ 201 → held.status ≠ 201 →
      refusal (.ofReply reply) = .reasoned → refusal (.ofReply held) = .reasoned →
        reasons (Build.ErrorBody.ofReply reply).reason (Build.ErrorBody.ofReply held).reason) :
    Kindred (Error.Kin reasons) (verdict refused answer) (verdict refused other) := by
  rcases matching.cases with ⟨fault, rfl, rfl⟩ | ⟨reply, held, rfl, rfl, refuses⟩
  · exact .refl .same _
  · by_cases taken : reply.status = 201
    · obtain rfl := refuses.same taken
      exact .refl .same _
    · have rejected : held.status ≠ 201 := fun fits => taken (refuses.status.trans fits)
      have same := refuses.refusal taken
      simp only [verdict, if_neg taken, if_neg rejected, told, ← same]
      refine .error (Refusal.error_kin _ _ fun reasoned => ?_)
      exact both reply held rfl rfl taken rejected reasoned (same.symm.trans reasoned)

theorem place_parallel (resembles : desk.services.build.Resembles build) (order : Build.Order) :
    Parallel (Error.Kin (desk.services.build.Reasons build)) (desk.place order)
      ((desk.behind build).place order) := by
  intro state
  obtain ⟨matching, left⟩ := resembles.compose order state.world state.world rfl
  rw [outcome_place, outcome_place]
  refine ⟨verdict_kindred refusedOrder_eq matching ?_, congrArg (DeskState.mk _ _) left⟩
  intro reply told one two rejected rejectedToo reasoned reasonedToo
  exact .order one two rejected rejectedToo (Build.ErrorBody.id_of_reasoned reasoned)
    (Build.ErrorBody.id_of_reasoned reasonedToo)

theorem placeCopy_parallel (resembles : desk.services.build.Resembles build) (composeId : Uuid)
    (order : Build.CloneOrder) :
    Parallel (Error.Kin (desk.services.build.Reasons build)) (desk.placeCopy composeId order)
      ((desk.behind build).placeCopy composeId order) := by
  intro state
  obtain ⟨matching, left⟩ := resembles.cloneCompose composeId order state.world state.world rfl
  rw [outcome_placeCopy, outcome_placeCopy]
  refine ⟨verdict_kindred refusedClone_eq matching ?_, congrArg (DeskState.mk _ _) left⟩
  intro reply told one two rejected rejectedToo reasoned reasonedToo
  exact .clone one two rejected rejectedToo (Build.ErrorBody.code_of_reasoned reasoned)
    (Build.ErrorBody.code_of_reasoned reasonedToo)

theorem submit_parallel (resembles : desk.services.build.Resembles build)
    (request : ComposeRequest) (versionId : Option Uuid) :
    Parallel (Error.Kin (desk.services.build.Reasons build))
      (desk.submit caller request versionId)
      ((desk.behind build).submit caller request versionId) := by
  -- Only the build service differs, which is asked when the order is placed.
  refine .bind (.refl .same _) fun _ => .bind (.refl .same _) fun image => ?_
  refine .bind (.refl .same _) fun order => ?_
  exact .bind (place_parallel resembles order) fun _ => .refl .same _

/-- Errors that are the same to callers are counted the same. -/
theorem composeFor_parallel (resembles : desk.services.build.Resembles build)
    (request : ComposeRequest) (versionId : Option Uuid) :
    Parallel (Error.Kin (desk.services.build.Reasons build))
      (desk.composeFor caller request versionId)
      ((desk.behind build).composeFor caller request versionId) := by
  refine .tryCatch (submit_parallel resembles request versionId) fun error told kin => ?_
  rw [kin.status]
  exact .ite (.bind (.refl .same _) fun _ => .throw kin) (.throw kin)

theorem composeBlueprint_parallel (resembles : desk.services.build.Resembles build) (id : Uuid)
    (selection : ImageSelection) :
    Parallel (Error.Kin (desk.services.build.Reasons build))
      (desk.composeBlueprint caller id selection)
      ((desk.behind build).composeBlueprint caller id selection) := by
  rw [composeBlueprint_eq, composeBlueprint_eq]
  refine .bind (.refl .same _) fun chosen => ?_
  exact .mapM (fun image => composeFor_parallel resembles _ _) _

theorem cloneCompose_parallel (resembles : desk.services.build.Resembles build) (id : Uuid)
    (request : CloneRequest) :
    Parallel (Error.Kin (desk.services.build.Reasons build))
      (desk.cloneCompose caller id request)
      ((desk.behind build).cloneCompose caller id request) := by
  rw [cloneCompose_eq_commit, cloneCompose_eq_commit]
  have copies : Parallel (Error.Kin (desk.services.build.Reasons build))
      (desk.copying caller id request) ((desk.behind build).copying caller id request) :=
    .bind (.refl .same _) fun _ => .bind (placeCopy_parallel resembles id _) fun _ => .refl .same _
  exact .bind copies fun _ => .refl .same _

theorem verdict_of_rejected (refused : Reply → Error) {answer : Except ServiceFault Reply}
    {reply : Reply} (replied : answer = .ok reply) (rejected : reply.status ≠ 201) :
    verdict refused answer = .error (refused reply) := by
  rw [replied, verdict, if_neg rejected]

/-- A submission that is admitted fails with what the refusal of its order comes to. -/
theorem compose_of_rejected {request : ComposeRequest} {order : Build.Order}
    {state middle : DeskState σ} {reply : Reply}
    (ordered : outcome (desk.ordering caller request) state = (.ok order, middle))
    (replied : (outcome (desk.services.build.compose order) middle.world).1 = .ok reply)
    (rejected : reply.status ≠ 201) :
    (outcome (desk.compose caller request) state).1 =
      .error ((Build.ErrorBody.ofReply reply).orderRefusal.error orderWords reply) := by
  obtain ⟨metrics, same⟩ := outcome_composeFor desk caller request none state
  have refused := verdict_of_rejected refusedOrder replied rejected
  rw [compose, same, submit_eq_commit, Work.outcome_commit, outcome_submission_ok ordered,
    answerTo, refused, ← refusedOrder_eq]

/-- A copy of a compose that may be copied fails with what the refusal of its order comes to. -/
theorem cloneCompose_of_rejected {composeId : Uuid} {request : CloneRequest}
    {accounts : List String} {state middle : DeskState σ} {reply : Reply}
    (shared : outcome (desk.sharing caller composeId request) state = (.ok accounts, middle))
    (replied : (outcome (desk.services.build.cloneCompose composeId ⟨request.region, accounts⟩)
      middle.world).1 = .ok reply)
    (rejected : reply.status ≠ 201) :
    (outcome (desk.cloneCompose caller composeId request) state).1 =
      .error ((Build.ErrorBody.ofReply reply).cloneRefusal.error cloneWords reply) := by
  have refused := verdict_of_rejected refusedClone replied rejected
  rw [cloneCompose_eq_commit, Work.outcome_commit, copying, outcome_bind_ok shared, outcome_bind,
    outcome_placeCopy, refused, ← refusedClone_eq]

theorem known_kindred {reply told : Reply} (resembles : reply.Resembles 200 told) (what : String)
    (id : Uuid) (words : String) :
    Kindred (Error.Kin reasons) (known what id words reply) (known what id words told) := by
  by_cases found : reply.status = 200
  · obtain rfl := resembles.same found
    exact .refl .same _
  · unfold known
    rw [← resembles.status, if_neg found, if_neg found]
    split
    · exact .error (.same _)
    · exact .error (.detail _ _ _ _)

theorem known_parallel {act other : Act σ ServiceFault Reply}
    (resembles : Accord Eq (Reply.Resembles 200) act other) (what : String) (id : Uuid)
    (words : String) (next : Reply → Work σ α) :
    Parallel (Error.Kin reasons)
      (Work.ask ServiceFault.error act >>= fun reply =>
        Work.of (known what id words reply) >>= next)
      (Work.ask ServiceFault.error other >>= fun reply =>
        Work.of (known what id words reply) >>= next) := by
  refine .ask_bind .same resembles _ fun world reply told one two both => ?_
  exact .bind (fun _ => ⟨known_kindred both what id words, rfl⟩) fun _ => .refl .same _

theorem composeStatus_parallel (resembles : desk.services.build.Resembles build) (id : Uuid) :
    Parallel (Error.Kin reasons) (desk.composeStatus caller id)
      ((desk.behind build).composeStatus caller id) :=
  .bind (.refl .same _) fun _ => known_parallel (resembles.composeStatus id) _ _ _ _

theorem composeMetadata_parallel (resembles : desk.services.build.Resembles build) (id : Uuid) :
    Parallel (Error.Kin reasons) (desk.composeMetadata caller id)
      ((desk.behind build).composeMetadata caller id) :=
  .bind (.refl .same _) fun _ => known_parallel (resembles.composeMetadata id) _ _ _ _

theorem cloneStatus_parallel (resembles : desk.services.build.Resembles build) (id : Uuid) :
    Parallel (Error.Kin reasons) (desk.cloneStatus caller id)
      ((desk.behind build).cloneStatus caller id) := by
  refine .bind (.refl .same _) fun _ => .bind (.refl .same _) fun row => ?_
  exact known_parallel (resembles.cloneStatus id) _ _ _ _

theorem ready_parallel (resembles : desk.services.build.Resembles build) :
    Parallel (Error.Kin reasons) desk.ready (desk.behind build).ready := by
  refine .ask_bind .same resembles.openapi _ fun world reply told _ _ status => ?_
  unfold Reply.isSuccess
  rw [status]
  exact .ite (.refl .same _) (.throw (.detail _ _ _ _))

end Desk

end ComposeDesk
