import ComposeDesk.Proofs.Client.Policy
import ComposeDesk.Proofs.Customized
import ComposeDesk.Proofs.Submission
import ComposeDesk.Proofs.Watching

/-!
# Hardening by a policy

A compose that names a policy is only ordered if the compliance service has granted the
policy for the release of the distribution.  What goes out then belongs together: the
profile is that of the policy, and a tailoring file that is referred to comes first among
the files, in the directory that comes first.
-/

namespace ComposeDesk

open PolicyClient

namespace Customize

variable {σ ν : Type} {link : Link ν} {addresses : Addresses} {caller : Identity}
  {distribution : Distribution} {major minor : UInt32} {policy : Uuid}

def hardeningBy (policy : Uuid) (data : PolicyData) : Hardening :=
  ⟨some ⟨data.profileId, some policy,
      data.tailoring.map fun _ => ⟨data.profileId, tailoringPath⟩⟩, data.tailoring⟩

/-- Hardening by a policy is up to the data of the policy for the release. -/
theorem outcome_hardening (services : Downstream σ)
    (released : distribution.rhelVersion = .ok (major, minor)) (world : σ) :
    outcome (hardening services caller distribution (some (.policy policy))) world =
      ((((outcome (services.policyData caller major minor policy.toText) world).1.mapError
          (.policy policy major minor)).map (hardeningBy policy)),
        (outcome (services.policyData caller major minor policy.toText) world).2) := by
  have known : outcome (release distribution : Act σ CustomizationFault (UInt32 × UInt32)) world =
      (.ok (major, minor), world) := by
    rw [release, released]
    rfl
  rw [hardening, outcome_bind_ok known, outcome_bind, outcome_adapt]
  rcases outcome (services.policyData caller major minor policy.toText) world
    with ⟨fault | ⟨id, profile, tailoring, _ | text⟩, left⟩
  · rfl
  · rfl
  · rfl

/-- Without a release there is no hardening by a policy. -/
theorem released_of_hardening {services : Downstream σ} {found : Hardening} {world left : σ}
    (done : outcome (hardening services caller distribution (some (.policy policy))) world =
      (.ok found, left)) :
    ∃ major minor, distribution.rhelVersion = .ok (major, minor) := by
  obtain ⟨⟨major, minor⟩, _, known, _⟩ := outcome_bind_eq_ok done
  cases released : distribution.rhelVersion with
  | ok pair => exact ⟨pair.1, pair.2, rfl⟩
  | error fault =>
      rw [release, released] at known
      cases fault <;> cases known

/-- What asking for a policy settles of the hardening by it. -/
inductive HardeningSettled (address : String) (caller : Identity) (policy : Uuid)
    (major minor : UInt32) (book : List Exchange) : Except CustomizationFault Hardening → Prop
  | granted {data : PolicyData}
      (granted : Granted address caller major minor policy.toText book data) :
      HardeningSettled address caller policy major minor book (.ok (hardeningBy policy data))
  | stopped {why : PolicyFault}
      (stopped : Stopped address caller major minor policy.toText book why) :
      HardeningSettled address caller policy major minor book
        (.error (.policy policy major minor why))

theorem HardeningSettled.of_ok {address : String} {book : List Exchange} {found : Hardening}
    (settled : HardeningSettled address caller policy major minor book (.ok found)) :
    ∃ data, Granted address caller major minor policy.toText book data ∧
      found = hardeningBy policy data := by
  cases settled with
  | granted granted => exact ⟨_, granted, rfl⟩

/-- Hardening by a policy adds the exchanges for the policy, and no others. -/
theorem hardening_settles (bodiless : link.Bodiless)
    (released : distribution.rhelVersion = .ok (major, minor)) (session : Session (Booked ν)) :
    ∃ book result left,
      outcome (hardening (link.booked.services addresses) caller distribution
          (some (.policy policy))) session = (result, left) ∧
        left.net.book = session.net.book ++ book ∧
        HardeningSettled addresses.compliance caller policy major minor book result := by
  have settles : Settles addresses.compliance caller major minor policy.toText session.net.book _ :=
    policyData_settles bodiless session.net
  have asked : (link.booked.services addresses).policyData caller major minor policy.toText =
      Session.lift (policyData link.booked addresses.compliance caller major minor
        policy.toText) := rfl
  rw [outcome_hardening _ released, asked, Session.outcome_lift]
  generalize outcome (policyData link.booked addresses.compliance caller major minor
    policy.toText) session.net = ran at settles
  obtain ⟨result, net⟩ := ran
  obtain ⟨book, added, settled⟩ := settles
  refine ⟨book, _, _, rfl, added, ?_⟩
  cases settled with
  | granted granted => exact .granted granted
  | stopped stopped => exact .stopped stopped

/-! ## What goes out -/

/-- What goes out belongs to the data of a policy. -/
inductive Hardened (policy : Uuid) (data : PolicyData) (sent : Build.Customizations) : Prop
  | plain (untailored : data.tailoring = none)
      (openscap : sent.openscap = some ⟨data.profileId, some policy, none⟩)
  | tailored {text : String} {tailoring : Build.Tailoring} {directory : Directory}
      {directories : List Directory} {file : Build.File} {files : List Build.File}
      (given : data.tailoring = some text)
      (openscap : sent.openscap = some ⟨data.profileId, some policy, some tailoring⟩)
      (profile : tailoring.profileId = data.profileId)
      (first : sent.directories = some (directory :: directories))
      (folder : directory.path = "/etc/osbuild")
      (firstFile : sent.files = some (file :: files))
      (located : file.path = tailoring.filepath)
      (inside : ∃ name : String, '/' ∉ name.toList ∧ file.path = directory.path ++ "/" ++ name)
      (content : file.data = some text)

/-- What is put together with the hardening by a policy belongs to the policy. -/
theorem hardened_assembled (customizations : Customizations)
    (payload : Option (List Build.Repository)) (custom : Option (List CustomRepository))
    (given : Option (List Build.File)) (data : PolicyData) :
    Hardened policy data
      (assembled customizations payload custom (hardeningBy policy data) given) := by
  rcases data with ⟨id, profile, tailoring, _ | text⟩
  · exact .plain rfl rfl
  · refine .tailored rfl rfl rfl rfl rfl rfl rfl ⟨"openscap-tailoring.json", ?_, ?_⟩ rfl
    · decide
    · rfl

/-- A policy is granted for the release of a distribution while customizations are
prepared, after what is asked for repositories, and what goes out belongs to it. -/
structure Applied (address : String) (caller : Identity) (distribution : Distribution)
    (policy : Uuid) (before after : List Exchange) (sent : Build.Customizations) : Prop where
  resolved : ∃ major minor data asked granted,
    distribution.rhelVersion = .ok (major, minor) ∧ after = before ++ asked ++ granted ∧
      Granted address caller major minor policy.toText granted data ∧ Hardened policy data sent

/-- Customizations with a policy can only be used if the policy is granted. -/
theorem applied_of_ofRequest (bodiless : link.Bodiless) {request : ComposeRequest}
    {customizations : Customizations} {before after : Session (Booked ν)}
    {result : Option Build.Customizations} (given : request.customizations = some customizations)
    (named : customizations.openscap = some (.policy policy))
    (done : outcome (ofRequest (link.booked.services addresses) caller distribution request)
      before = (.ok result, after)) :
    ∃ sent, result = some sent ∧
      Applied addresses.compliance caller distribution policy before.net.book after.net.book
        sent := by
  obtain ⟨sent, rfl, prepared⟩ := (ofRequest_ok_iff given).mp done
  obtain ⟨found, own, -, rfl⟩ := prepare_ok_iff.mp prepared
  refine ⟨_, rfl, ?_⟩
  have payload := Session.book_prefix
    (fun start => payload_agree (link.services_alike addresses start) caller _ _) found.payload_ok
  have custom := Session.book_prefix
    (fun start => custom_agree (link.services_alike addresses start) caller _ _) found.custom_ok
  obtain ⟨asked, grown⟩ := payload.trans custom
  have hardened := found.hardening_ok
  rw [named] at hardened
  obtain ⟨major, minor, released⟩ := released_of_hardening hardened
  obtain ⟨book, result, left, ran, added, settled⟩ :=
    hardening_settles bodiless released found.second
  rw [hardened] at ran
  cases ran
  obtain ⟨data, granted, same⟩ := settled.of_ok
  refine ⟨major, minor, data, asked, book, released, ?_, granted, ?_⟩
  · rw [added, ← grown]
  · rw [same]
    exact hardened_assembled customizations found.payload found.custom own data

end Customize

namespace Desk

open Customize

variable {ν : Type} {link : Link ν} {addresses : Addresses}

/-- What a watched desk looks up is what the desk looks up. -/
theorem watched_alike {σ : Type} (desk : Desk σ) :
    desk.services.Alike Beside desk.watched.services :=
  ⟨fun _ _ => notedAct_agree _ _, fun _ _ _ _ => notedAct_agree _ _,
    fun _ _ _ => notedAct_agree _ _, fun _ _ _ _ => notedAct_agree _ _⟩

/-- What a compose with a policy comes to: nothing is ordered and nothing is remembered, or
the policy is granted and the order belongs to it. -/
theorem composeFor_applied (bodiless : link.Bodiless) {desk : Desk (Session (Booked ν))}
    (served : desk.services = link.booked.services addresses) (caller : Identity)
    {request : ComposeRequest} {customizations : Customizations} {policy : Uuid}
    (given : request.customizations = some customizations)
    (named : customizations.openscap = some (.policy policy)) (versionId : Option Uuid)
    (before : DeskState (Session (Booked ν) × List Event)) :
    let ran := outcome (desk.watched.composeFor caller request versionId) before
    let placed := desk.watchedJournal.placed
    (∃ error, ran.1 = .error error ∧ placed ran.2.world = placed before.world ∧
        ran.2.store = before.store) ∨
      ∃ admission : Admission desk.watched caller request before,
        placed ran.2.world = placed before.world ++ [(admission.order, admission.answer)] ∧
        ∃ sent, admission.order.customizations = some sent ∧
          Applied addresses.compliance caller admission.distribution policy
            admission.provisioned.1.net.book admission.world.1.net.book sent := by
  intro ran placed
  have world := composeFor_world desk.watched caller request versionId before
  rcases submission_cases desk.watchedJournal caller request before with
    ⟨error, left, refused, same⟩ | ⟨admission, added, -⟩
  · left
    rcases composeFor_cases desk.watched caller request versionId before with
      ⟨told, kept, failed, unchanged⟩ | ⟨id, now, kept, done, -, -⟩
    · refine ⟨told, ?_, ?_, ?_⟩
      · exact congrArg Prod.fst failed
      · simp only [ran, placed, world, refused, same]
      · simp only [ran, failed, unchanged]
    · obtain ⟨metrics, counted⟩ := outcome_composeFor desk.watched caller request versionId before
      have yields := congrArg Prod.fst (counted.symm.trans done)
      have submitted := (submit_ok_iff.mp yields).1
      rw [refused] at submitted
      cases submitted
  · right
    refine ⟨admission, ?_, ?_⟩
    · simp only [ran, placed, world, added]
    · have agreed := ofRequest_agree desk.watched_alike caller admission.distribution request
        admission.provisioned.1 admission.provisioned rfl
      rw [admission.translated] at agreed
      have done : outcome (ofRequest desk.services caller admission.distribution request)
          admission.provisioned.1 = (.ok admission.customizations, admission.world.1) :=
        Prod.ext agreed.1 agreed.2
      rw [served] at done
      exact applied_of_ofRequest bodiless given named done

/-- Hardening by a policy is all or nothing.  Its three documents are asked for in their
order until one is not served; customizations can only be used if all are, and what goes
out then belongs to them; and a compose whose policy is not granted is neither ordered nor
remembered. -/
theorem policy_applied (link : Link ν) (bodiless : link.Bodiless) (addresses : Addresses)
    (desk : Desk (Session (Booked ν))) (served : desk.services = link.booked.services addresses)
    (caller : Identity) (request : ComposeRequest) (customizations : Customizations)
    (policy : Uuid) (given : request.customizations = some customizations)
    (named : customizations.openscap = some (.policy policy)) :
    (∀ distribution major minor session, distribution.rhelVersion = .ok (major, minor) →
      ∃ book result left,
        outcome (hardening desk.services caller distribution customizations.openscap) session =
            (result, left) ∧
          left.net.book = session.net.book ++ book ∧
          HardeningSettled addresses.compliance caller policy major minor book result) ∧
    (∀ distribution before after result,
      outcome (ofRequest desk.services caller distribution request) before =
          (.ok result, after) →
        ∃ sent, result = some sent ∧
          Applied addresses.compliance caller distribution policy before.net.book
            after.net.book sent) ∧
    (∀ versionId before,
      let ran := outcome (desk.watched.composeFor caller request versionId) before
      let placed := desk.watchedJournal.placed
      (∃ error, ran.1 = .error error ∧ placed ran.2.world = placed before.world ∧
          ran.2.store = before.store) ∨
        ∃ admission : Admission desk.watched caller request before,
          placed ran.2.world = placed before.world ++ [(admission.order, admission.answer)] ∧
          ∃ sent, admission.order.customizations = some sent ∧
            Applied addresses.compliance caller admission.distribution policy
              admission.provisioned.1.net.book admission.world.1.net.book sent) := by
  refine ⟨?hardening, ?translation, ?compose⟩
  case hardening =>
    intro distribution major minor session released
    rw [named, served]
    exact hardening_settles bodiless released session
  case translation =>
    intro distribution before after result done
    rw [served] at done
    exact applied_of_ofRequest bodiless given named done
  case compose =>
    intro versionId before
    exact composeFor_applied bodiless served caller given named versionId before

def zeroPolicy : Uuid := ⟨List.replicate 32 ⟨0, Nat.succ_pos 15⟩, rfl⟩

def onePolicy (path : String) : Reply :=
  if path = "/policies/00000000-0000-0000-0000-000000000000" then
    ⟨200, Utf8.encode
      "\x7b\"data\":\x7b\"id\":\"p\",\"ref_id\":\"stig\",\"os_major_version\":9\x7d\x7d"⟩
  else if path = "/policies/00000000-0000-0000-0000-000000000000/tailorings" then
    ⟨200, Utf8.encode "\x7b\"data\":[\x7b\"id\":\"t\",\"os_minor_version\":4\x7d]\x7d"⟩
  else if path =
      "/policies/00000000-0000-0000-0000-000000000000/tailorings/t/tailoring_file.json" then
    ⟨200, Utf8.encode "tailored"⟩
  else ⟨404, []⟩

def policyLink : Link Unit where
  send request := pure (some (onePolicy request.url.path))
  now := pure ⟨0, 0⟩

theorem policyLink_bodiless : policyLink.Bodiless := by
  intro request world reply answered status
  have same : onePolicy request.url.path = reply := Option.some.inj answered
  subst same
  unfold onePolicy at status
  split_ifs at status
  all_goals cases status

def release94 : Distribution := ⟨none, ⟨"rhel-9.4", "", none, false⟩, none, none⟩

def policyDesk : Desk (Session (Booked Unit)) where
  services := policyLink.booked.services
    ⟨"http://build", "http://provisioning", "http://content", "http://compliance", none⟩
  registry := ⟨[("rhel-9.4", release94)]⟩
  quotas := ⟨none⟩
  uploads := ⟨"us-east-1", "us", none⟩
  now := pure ⟨0, 0⟩
  drawId := pure zeroPolicy
  crypt password := pure password

theorem policy_applied_granted :
    let caller : Identity := ⟨"1", "", "", "User", [], "e30="⟩
    let customizations := { Customizations.empty with openscap := some (.policy zeroPolicy) }
    let request : ComposeRequest := ⟨"rhel-9.4", [], some customizations, none, none, none⟩
    let before : Session (Booked Unit) := ⟨⟨(), []⟩, .empty⟩
    ∃ sent after,
      outcome (ofRequest policyDesk.services caller release94 request) before =
          (.ok (some sent), after) ∧
        sent.openscap = some ⟨"stig", some zeroPolicy,
          some ⟨"stig", "/etc/osbuild/openscap-tailoring.json"⟩⟩ ∧
        after.net.book.length = 3 ∧
        Applied "http://compliance" caller release94 zeroPolicy [] after.net.book sent := by
  intro caller customizations request before
  have granted :
      let ran := outcome (ofRequest policyDesk.services caller release94 request) before
      ran.1.toOption.map (·.bind (·.openscap)) = some (some ⟨"stig", some zeroPolicy,
          some ⟨"stig", "/etc/osbuild/openscap-tailoring.json"⟩⟩) ∧
        ran.2.net.book.length = 3 := by
    decide +kernel
  obtain ⟨-, translation, -⟩ := policy_applied policyLink policyLink_bodiless
    ⟨"http://build", "http://provisioning", "http://content", "http://compliance", none⟩
    policyDesk rfl caller request customizations zeroPolicy rfl rfl
  rcases done : outcome (ofRequest policyDesk.services caller release94 request) before
    with ⟨fault | result, after⟩
  · rw [done] at granted
    cases granted.1
  · rw [done] at granted
    obtain ⟨sent, rfl, applied⟩ := translation release94 before after result done
    exact ⟨sent, after, rfl, Option.some.inj granted.1, granted.2, applied⟩

end Desk

end ComposeDesk
