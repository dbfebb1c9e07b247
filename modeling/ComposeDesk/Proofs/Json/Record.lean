import ComposeDesk.Json.Record
import ComposeDesk.Proofs.Json.Codec

/-!
# Sound records

What a field is read as depends only on the members of its own names.  So where
all names of a record are different, each field is read back from what it wrote,
in whatever order the members come; a record is sound if its fields are.
-/

namespace ComposeDesk

open Json

variable {σ α β : Type}

def Field.members (field : Field σ α) (a : σ) : List (String × Json) :=
  ((field.write a).map (field.name, ·)).toList

/-- What a field writes is read back as a part of the value; what it leaves out
is what its absence means. -/
structure Field.Sound (field : Field σ α) (get : σ → α) : Prop where
  reads : ∀ a value, field.write a = some value →
    ∀ doc, value.Reordered doc → field.read doc = .ok (get a)
  absent : ∀ a, field.write a = none → field.absent = .value (get a)
  readable : ∀ a value, field.write a = some value → value.readable = true

theorem memberPlaces_values (names : List String) (place : Nat) (members : List (String × Json)) :
    (memberPlaces names place members).map (·.2) = members.filter (names.contains ·.1) := by
  induction members generalizing place with
  | nil => rfl
  | cons member rest ih =>
      obtain ⟨name, value⟩ := member
      rw [memberPlaces]
      by_cases known : names.contains name = true
      · rw [if_pos known, List.map_cons, ih]
        exact (List.filter_cons_of_pos (by exact known)).symm
      · rw [if_neg known, ih]
        exact (List.filter_cons_of_neg (by exact known)).symm

namespace Field

variable {field : Field σ α} {get : σ → α} {found : List (String × Json)}

/-- Only the members of its names count for a field. -/
theorem look_absent {a : α} (index : Nat) (expected : String)
    (none : found.filter (field.names.contains ·.1) = []) (absent : field.absent = .value a) :
    field.look index expected (.members found) = .found a := by
  have places := memberPlaces_values field.names 0 found
  rw [none, List.map_eq_nil_iff] at places
  simp only [look, places, absent]

theorem look_single {a : α} {name : String} {value : Json} (index : Nat) (expected : String)
    (single : found.filter (field.names.contains ·.1) = [(name, value)])
    (read : field.read value = .ok a) :
    field.look index expected (.members found) = .found a := by
  have places := memberPlaces_values field.names 0 found
  rw [single, List.map_eq_singleton_iff] at places
  obtain ⟨⟨place, _, _⟩, places, same⟩ := places
  cases same
  simp only [look, places, read]

/-- A field is read back from the members that come back. -/
theorem Sound.look (sound : field.Sound get) (a : σ) (index : Nat) (expected : String)
    (returned : Returned (field.members a) (found.filter (field.names.contains ·.1))) :
    field.look index expected (.members found) = .found (get a) := by
  unfold members at returned
  rcases wrote : field.write a with _ | value
  · rw [wrote] at returned
    exact look_absent index expected returned.eq_nil (sound.absent a wrote)
  · rw [wrote] at returned
    obtain ⟨doc, single, reordered⟩ := returned.eq_singleton
    exact look_single index expected single (sound.reads a value wrote doc reordered)

theorem mem_members {a : σ} {member : String × Json} (held : member ∈ field.members a) :
    member.1 = field.name ∧ field.write a = some member.2 := by
  unfold members at held
  cases wrote : field.write a with
  | none =>
      rw [wrote] at held
      cases held
  | some value =>
      rw [wrote] at held
      cases List.mem_singleton.mp held
      exact ⟨rfl, rfl⟩

theorem members_names_nodup (field : Field σ α) (a : σ) :
    ((field.members a).map (·.1)).Nodup := by
  unfold members
  cases field.write a with
  | none => exact List.nodup_nil
  | some value => exact List.nodup_singleton _

/-- The members of a field are all found under its names. -/
theorem filter_members_self (field : Field σ α) (a : σ) :
    (field.members a).filter (field.names.contains ·.1) = field.members a := by
  refine List.filter_eq_self.mpr fun member held => ?_
  rw [(mem_members held).1]
  exact List.contains_iff_mem.mpr List.mem_cons_self

end Field

/-! ## Records -/

/-- A record reads back what it wrote, from all members that it may come back as. -/
structure Record.Sound (record : Record σ β) (value : σ → β) : Prop where
  known : ∀ a, ∀ member ∈ record.write a, member.1 ∈ record.names.flatten
  readable : ∀ a, ∀ member ∈ record.write a, member.2.readable = true
  once : record.names.flatten.Nodup → ∀ a, ((record.write a).map (·.1)).Nodup
  reads : record.names.flatten.Nodup → ∀ a expected found,
    (∀ names ∈ record.names, Returned ((record.write a).filter (names.contains ·.1))
      (found.filter (names.contains ·.1))) →
    record.read expected (.members found) = .found (value a)

/-- Members of other names are not found. -/
theorem filter_names_eq_nil {names : List String} {members : List (String × Json)}
    (others : ∀ member ∈ members, member.1 ∉ names) :
    members.filter (names.contains ·.1) = [] := by
  refine List.filter_eq_nil_iff.mpr fun member held => ?_
  rw [List.contains_iff_mem]
  exact others member held

namespace Record.Sound

theorem start (b : β) : (Record.start b : Record σ β).Sound fun _ => b where
  known _ _ held := nomatch held
  readable _ _ held := nomatch held
  once _ _ := List.nodup_nil
  reads _ _ _ _ _ := rfl

section More

variable {record : Record σ (α → β)} {value : σ → α → β} {added : Field σ α}

theorem unique_field (unique : (record.field added).names.flatten.Nodup) :
    record.names.flatten.Nodup ∧
      ∀ name ∈ record.names.flatten, ∀ other ∈ added.names, name ≠ other := by
  rw [Record.field, List.flatten_append, List.flatten_singleton, List.nodup_append] at unique
  obtain ⟨earlier, -, apart⟩ := unique
  exact ⟨earlier, apart⟩

theorem filter_field (record : Record σ (α → β)) (added : Field σ α) (a : σ)
    (keep : String × Json → Bool) :
    ((record.field added).write a).filter keep =
      (record.write a).filter keep ++ (added.members a).filter keep :=
  List.filter_append ..

/-- Under the names of an earlier field nothing is added. -/
theorem filter_earlier (unique : (record.field added).names.flatten.Nodup) {names : List String}
    (among : names ∈ record.names) (a : σ) :
    ((record.field added).write a).filter (names.contains ·.1) =
      (record.write a).filter (names.contains ·.1) := by
  obtain ⟨-, apart⟩ := unique_field unique
  have none : (added.members a).filter (names.contains ·.1) = [] := by
    apply filter_names_eq_nil
    intro member held named
    rw [(Field.mem_members held).1] at named
    exact apart _ (List.mem_flatten.mpr ⟨names, among, named⟩) _ List.mem_cons_self rfl
  rw [filter_field, none, List.append_nil]

/-- Under the names of the new field there is only what it wrote. -/
theorem filter_own (sound : record.Sound value)
    (unique : (record.field added).names.flatten.Nodup) (a : σ) :
    ((record.field added).write a).filter (added.names.contains ·.1) = added.members a := by
  obtain ⟨-, apart⟩ := unique_field unique
  have none : (record.write a).filter (added.names.contains ·.1) = [] := by
    apply filter_names_eq_nil
    intro member held named
    exact apart _ (sound.known a member held) _ named rfl
  rw [filter_field, none, List.nil_append, added.filter_members_self a]

/-- One more field, if all names stay different. -/
theorem field {get : σ → α} (sound : record.Sound value) (more : added.Sound get) :
    (record.field added).Sound fun a => value a (get a) where
  known a member held := by
    rw [Record.field, List.flatten_append, List.flatten_singleton, List.mem_append]
    rcases List.mem_append.mp held with before | own
    · exact .inl (sound.known a member before)
    · right
      rw [(Field.mem_members own).1]
      exact List.mem_cons_self
  readable a member held := by
    rcases List.mem_append.mp held with before | own
    · exact sound.readable a member before
    · exact more.readable a member.2 (Field.mem_members own).2
  once unique a := by
    obtain ⟨earlier, apart⟩ := unique_field unique
    have split : ((record.field added).write a).map (·.1) =
        (record.write a).map (·.1) ++ (added.members a).map (·.1) := List.map_append
    rw [split, List.nodup_append]
    refine ⟨sound.once earlier a, added.members_names_nodup a, ?_⟩
    intro name before other own same
    obtain ⟨member, held, rfl⟩ := List.mem_map.mp before
    obtain ⟨member', held', rfl⟩ := List.mem_map.mp own
    have named : member'.1 ∈ added.names := by
      rw [(Field.mem_members held').1]
      exact List.mem_cons_self
    exact apart _ (sound.known a member held) _ named same
  reads unique a expected found returned := by
    have before : record.read expected (.members found) = .found (value a) := by
      refine sound.reads (unique_field unique).1 a expected found fun names among => ?_
      have here := returned names (List.mem_append_left _ among)
      rw [filter_earlier unique among] at here
      exact here
    have own : added.look record.names.length expected (.members found) = .found (get a) := by
      refine more.look a record.names.length expected ?_
      have here := returned added.names (List.mem_append_right _ (List.mem_singleton_self _))
      rw [filter_own sound unique] at here
      exact here
    simp only [Record.field, before, own]
    rfl

end More

section Kinds

variable {codec : Codec α} {name : String}

theorem required {record : Record σ (α → β)} {value : σ → α → β} {get : σ → α}
    (sound : record.Sound value) (part : codec.Sound) :
    (record.required name codec get).Sound fun a => value a (get a) := by
  refine sound.field ⟨?_, ?_, ?_⟩
  · rintro a _ ⟨⟩ doc reordered
    exact part.reads (get a) doc reordered
  · rintro a ⟨⟩
  · rintro a _ ⟨⟩
    exact part.readable (get a)

theorem defaulted {record : Record σ (α → β)} {value : σ → α → β} {get : σ → α} {default : α}
    {aliases : List String} (sound : record.Sound value) (part : codec.Sound) :
    (record.defaulted name codec default get aliases).Sound fun a => value a (get a) := by
  refine sound.field ⟨?_, ?_, ?_⟩
  · rintro a _ ⟨⟩ doc reordered
    exact part.reads (get a) doc reordered
  · rintro a ⟨⟩
  · rintro a _ ⟨⟩
    exact part.readable (get a)

theorem optional {record : Record σ (Option α → β)} {value : σ → Option α → β}
    {get : σ → Option α} (sound : record.Sound value) (part : codec.Sound) :
    (record.optional name codec get).Sound fun a => value a (get a) := by
  refine sound.field ⟨?_, ?_, ?_⟩
  · intro a doc wrote doc' reordered
    obtain ⟨held, there, rfl⟩ := Option.map_eq_some_iff.mp wrote
    rw [there]
    exact part.nullable_reads held reordered
  · intro a wrote
    exact congrArg Absent.value (Option.map_eq_none_iff.mp wrote).symm
  · intro a doc wrote
    obtain ⟨held, -, rfl⟩ := Option.map_eq_some_iff.mp wrote
    exact part.readable held

end Kinds

theorem stop_found {names : List (List String)} {members : List (String × Json)} (place : Nat)
    (known : ∀ member ∈ members, member.1 ∈ names.flatten)
    (readable : ∀ member ∈ members, member.2.readable = true) :
    stop names place members = .found () := by
  induction members generalizing place with
  | nil => rfl
  | cons member rest ih =>
      obtain ⟨name, value⟩ := member
      have clean := readable (name, value) List.mem_cons_self
      obtain ⟨own, among, named⟩ := List.mem_flatten.mp (known (name, value) List.mem_cons_self)
      have listed : (names.any (·.contains name) || value.skippable) = true := by
        have any : names.any (·.contains name) = true :=
          List.any_eq_true.mpr ⟨own, among, List.contains_iff_mem.mpr named⟩
        rw [any, Bool.true_or]
      have later := ih (place + 1) (fun other held => known other (List.mem_cons_of_mem _ held))
        (fun other held => readable other (List.mem_cons_of_mem _ held))
      cases value with
      | defect kind => cases clean
      | _ => simp only [stop, listed, if_true, later]

/-- A record is read back from an object, whatever the order of its members. -/
theorem readMembers_ok {record : Record σ β} {value : σ → β} (sound : record.Sound value)
    (unique : record.names.flatten.Nodup) (a : σ) (type : String) {found : List (String × Json)}
    (returned : Returned (record.write a) found) :
    record.readMembers type found = .ok (value a) := by
  have stops : stop record.names 0 found = .found () := by
    refine stop_found 0 ?_ ?_
    · intro member held
      obtain ⟨given, among, -⟩ := returned.mem held
      exact sound.known a (member.1, given) among
    · intro member held
      obtain ⟨given, among, reordered⟩ := returned.mem held
      exact reordered.readable (sound.readable a (member.1, given) among)
  have reads := sound.reads unique a (record.expectation type) found
    fun names _ => returned.filter names.contains
  simp only [readMembers, stops, reads]
  rfl

theorem codec {record : Record α α} (sound : record.Sound fun a => a)
    (unique : record.names.flatten.Nodup) (type : String) : (record.codec type).Sound where
  reads a doc reordered := by
    obtain ⟨found, rfl, returned⟩ := reordered.obj (sound.once unique a)
    exact sound.readMembers_ok unique a type returned
  readable a := readableMembers_iff.mpr (sound.readable a)
  present _ := Json.noConfusion

end Record.Sound

/-- Two readings do not both succeed if the second one fails. -/
theorem Reading.both_failed (reading : Reading (α → β)) (place : Nat) (fault : Fault) :
    ∃ first why, reading.both (.failed place fault) = .failed first why := by
  cases reading with
  | found f => exact ⟨place, fault, rfl⟩
  | failed other earlier =>
      simp only [Reading.both]
      split
      · exact ⟨place, fault, rfl⟩
      · exact ⟨other, earlier, rfl⟩

theorem Reading.checked_failed (check : Reading Unit) (place : Nat) (fault : Fault) :
    (checked check (.failed place fault : Reading α)).toExcept.toOption = none := by
  obtain ⟨first, why, failed⟩ := both_failed
    (both (.found fun (_ : Unit) (a : α) => a) check) place fault
  rw [checked, failed]
  rfl

/-- A record is not read from an object without a field that must be there. -/
theorem Record.readMembers_missing (record : Record σ (α → β)) {name : String}
    (codec : Codec α) (get : σ → α) (type : String) {found : List (String × Json)}
    (lacks : ∀ member ∈ found, member.1 ≠ name) :
    ((record.required name codec get).readMembers type found).toOption = none := by
  have none : found.filter ([name].contains ·.1) = [] := by
    apply filter_names_eq_nil
    intro member held named
    exact lacks member held (List.mem_singleton.mp named)
  have places := memberPlaces_values [name] 0 found
  rw [none, List.map_eq_nil_iff] at places
  obtain ⟨place, fault, failed⟩ := Reading.both_failed
    (record.read ((record.required name codec get).expectation type) (.members found))
    found.length (.here (.missing name))
  have read : (record.required name codec get).read
      ((record.required name codec get).expectation type) (.members found) =
        .failed place fault := by
    rw [← failed]
    simp only [Record.required, Record.field, Field.look, Field.names, places]
  rw [readMembers, read]
  exact Reading.checked_failed _ place fault

end ComposeDesk
