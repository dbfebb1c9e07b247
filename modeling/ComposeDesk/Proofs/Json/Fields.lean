import ComposeDesk.Proofs.Itemwise
import ComposeDesk.Proofs.Json.Ordered
import ComposeDesk.Proofs.Json.Record
import Mathlib.Tactic.SplitIfs

/-!
# What records are read from

A record is read exactly where its container opens, so that nothing in it stops the reading, and
each of its fields takes a value from what the container gives under its names or at its index.
No order of look-ups and no fault has a part in this: it is how a successful reading is told from
the document alone.
-/

namespace ComposeDesk

open Json

variable {σ α β : Type}

namespace Codec

theorem integer_ok_iff {expected : String} {least most n : Int} {json : Json} :
    integer expected least most json = .ok n ↔ json = .int n ∧ least ≤ n ∧ n ≤ most := by
  constructor
  · intro met
    rw [integer.eq_def] at met
    split at met
    next m =>
      split at met
      next bounds =>
        cases met
        exact ⟨rfl, bounds⟩
      next => cases met
    next => cases met
  · rintro ⟨rfl, bounds⟩
    exact if_pos bounds

theorem int64_ok_iff {json : Json} {n : Int64} :
    int64.read json = .ok n ↔ json = .int n.toInt := by
  constructor
  · intro met
    obtain ⟨m, whole, rfl⟩ := map_eq_ok met
    obtain ⟨rfl, above, below⟩ := integer_ok_iff.mp whole
    rw [Int64.toInt_ofInt_of_le above (Int.lt_of_le_sub_one below)]
  · rintro rfl
    exact Sound.int64.faithful n

theorem text_ok_iff {json : Json} {s : String} : text.read json = .ok s ↔ json = .str s := by
  cases json with
  | str t => exact ⟨fun same => congrArg Json.str (Except.ok.inj same), fun same => by cases same; rfl⟩
  | _ => exact ⟨nofun, nofun⟩

theorem value_ok_iff {json other : Json} :
    value.read json = .ok other ↔ json.readable = true ∧ json.sorted = other := by
  simp only [value]
  split_ifs with readable
  · exact ⟨fun met => ⟨readable, Except.ok.inj met⟩, fun met => congrArg Except.ok met.2⟩
  · exact ⟨nofun, fun met => absurd met.1 readable⟩

theorem nullable_ok_iff {codec : Codec α} {json : Json} {held : Option α} :
    codec.nullable.read json = .ok held ↔
      (json = .null ∧ none = held) ∨
        (json ≠ .null ∧ ∃ a, codec.read json = .ok a ∧ some a = held) := by
  by_cases null : json = .null
  · rw [null]
    simp [nullable]
  · have there : codec.nullable.read json = (codec.read json).map some := by
      simp only [nullable]
    rw [there]
    constructor
    · intro met
      exact .inr ⟨null, map_eq_ok met⟩
    · rintro (⟨rfl, -⟩ | ⟨-, a, read, rfl⟩)
      · exact absurd rfl null
      · rw [read]
        rfl

end Codec

namespace Reading

theorem both_found_iff {first : Reading (α → β)} {second : Reading α} {b : β} :
    first.both second = .found b ↔
      ∃ make a, first = .found make ∧ second = .found a ∧ make a = b := by
  constructor
  · intro met
    cases first with
    | failed place fault =>
        cases second with
        | found a => cases met
        | failed place' fault' =>
            rw [both] at met
            split at met <;> cases met
    | found make =>
        cases second with
        | failed place fault => cases met
        | found a => exact ⟨make, a, rfl, rfl, found.inj met⟩
  · rintro ⟨make, a, rfl, rfl, rfl⟩
    rfl

theorem toExcept_ok_iff {reading : Reading α} {a : α} :
    reading.toExcept = .ok a ↔ reading = .found a := by
  cases reading with
  | found b => exact ⟨fun same => congrArg found (Except.ok.inj same), fun same => by cases same; rfl⟩
  | failed place fault => exact ⟨nofun, nofun⟩

theorem checked_found_iff {check : Reading Unit} {reading : Reading α} {a : α} :
    check.checked reading = .found a ↔ check = .found () ∧ reading = .found a := by
  rw [checked, both_found_iff]
  constructor
  · rintro ⟨make, b, met, rfl, rfl⟩
    obtain ⟨pass, _, same, rfl, rfl⟩ := both_found_iff.mp met
    cases same
    exact ⟨rfl, rfl⟩
  · rintro ⟨rfl, rfl⟩
    exact ⟨_, a, rfl, rfl, rfl⟩

end Reading

/-- The values that a container gives for a field: those of all members of its names, or the
item at its index. -/
def Parts.given (names : List String) (index : Nat) : Parts → List Json
  | .members held => (held.filter (names.contains ·.1)).map (·.2)
  | .items listed => listed[index]?.toList

/-- What a field takes from a container. -/
inductive Field.Takes (field : Field σ α) (index : Nat) : Parts → α → Prop where
  /-- Nothing is given, and the field has a value of its own. -/
  | omitted {parts : Parts} {a : α} (none : parts.given field.names index = [])
      (absent : field.absent = .value a) : field.Takes index parts a
  /-- An object gives nothing for a field that only an object may leave out. -/
  | omittedInObject {members : List (String × Json)} {a : α}
      (none : (Parts.members members).given field.names index = [])
      (absent : field.absent = .objectOnly a) : field.Takes index (.members members) a
  /-- One value is given, and it is read. -/
  | given {parts : Parts} {value : Json} {a : α}
      (single : parts.given field.names index = [value]) (read : field.read value = .ok a) :
      field.Takes index parts a

namespace Field

variable {field : Field σ α} {index : Nat} {expected : String} {a : α}

theorem given_places (names : List String) (index place : Nat) (members : List (String × Json)) :
    (Parts.members members).given names index =
      (memberPlaces names place members).map (·.2.2) := by
  rw [Parts.given, ← memberPlaces_values names place members, List.map_map]
  rfl

theorem look_members_iff {members : List (String × Json)} :
    field.look index expected (.members members) = .found a ↔
      field.Takes index (.members members) a := by
  have given := given_places field.names index 0 members
  rw [look]
  constructor
  · intro met
    split at met
    next places =>
      rw [places] at given
      split at met
      next b absent =>
        cases met
        exact .omitted given absent
      next b absent =>
        cases met
        exact .omittedInObject given absent
      next => cases met
    next place name value repeated places =>
      rw [places] at given
      split at met
      next => cases met
      next b read =>
        cases met
        exact .given given read
      next => cases met
  · intro takes
    cases takes with
    | omitted none absent =>
        rw [none] at given
        rw [List.map_eq_nil_iff.mp given.symm, absent]
    | omittedInObject none absent =>
        rw [none] at given
        rw [List.map_eq_nil_iff.mp given.symm, absent]
    | given single read =>
        rw [single] at given
        obtain ⟨⟨place, name, value⟩, places, rfl⟩ := List.map_eq_singleton_iff.mp given.symm
        rw [places]
        simp only [read]

theorem look_items_iff {items : List Json} :
    field.look index expected (.items items) = .found a ↔
      field.Takes index (.items items) a := by
  rw [look]
  constructor
  · intro met
    split at met
    next value at_index =>
      have single : (Parts.items items).given field.names index = [value] := by
        rw [Parts.given, at_index, Option.toList]
      split at met
      next b read =>
        cases met
        exact .given single read
      next => cases met
    next b beyond absent =>
      cases met
      exact .omitted (by rw [Parts.given, beyond, Option.toList]) absent
    next => cases met
  · intro takes
    cases takes with
    | omitted none absent =>
        rw [Parts.given, Option.toList_eq_nil_iff] at none
        rw [none, absent]
    | given single read =>
        rw [Parts.given, Option.toList_eq_singleton_iff] at single
        rw [single]
        simp only [read]

/-- A look-up succeeds with what the field takes. -/
theorem look_found_iff {parts : Parts} :
    field.look index expected parts = .found a ↔ field.Takes index parts a := by
  cases parts with
  | members members => exact look_members_iff
  | items items => exact look_items_iff

/-- A field that must be there takes the one value that is given for it. -/
theorem takes_iff_of_missing {parts : Parts} (absent : field.absent = .missing) :
    field.Takes index parts a ↔
      ∃ value, parts.given field.names index = [value] ∧ field.read value = .ok a := by
  constructor
  · intro takes
    cases takes with
    | omitted _ other => cases absent.symm.trans other
    | omittedInObject _ other => cases absent.symm.trans other
    | given single read => exact ⟨_, single, read⟩
  · rintro ⟨value, single, read⟩
    exact .given single read

/-- A field with a value of its own takes that one where none is given. -/
theorem takes_iff_of_value {parts : Parts} {own : α} (absent : field.absent = .value own) :
    field.Takes index parts a ↔
      (parts.given field.names index = [] ∧ own = a) ∨
        ∃ value, parts.given field.names index = [value] ∧ field.read value = .ok a := by
  constructor
  · intro takes
    cases takes with
    | omitted none other =>
        cases absent.symm.trans other
        exact .inl ⟨none, rfl⟩
    | omittedInObject _ other => cases absent.symm.trans other
    | given single read => exact .inr ⟨_, single, read⟩
  · rintro (⟨none, rfl⟩ | ⟨value, single, read⟩)
    · exact .omitted none absent
    · exact .given single read

end Field

/-! ## Records -/

namespace Record

theorem start_found_iff {a b : α} {expected : String} {parts : Parts} :
    (start a : Record σ α).read expected parts = .found b ↔ a = b :=
  ⟨Reading.found.inj, congrArg Reading.found⟩

theorem field_found_iff {record : Record σ (α → β)} {added : Field σ α} {expected : String}
    {parts : Parts} {b : β} :
    (record.field added).read expected parts = .found b ↔
      ∃ make a, record.read expected parts = .found make ∧
        added.Takes record.names.length parts a ∧ make a = b := by
  simp only [field, Reading.both_found_iff, Field.look_found_iff]

section Kinds

variable {record : Record σ (α → β)} {name expected : String} {codec : Codec α} {get : σ → α}
  {parts : Parts} {b : β}

theorem required_found_iff :
    (record.required name codec get).read expected parts = .found b ↔
      ∃ make a, record.read expected parts = .found make ∧
        (∃ value, parts.given [name] record.names.length = [value] ∧
          codec.read value = .ok a) ∧
        make a = b := by
  rw [required, field_found_iff]
  exact exists_congr fun _ => exists_congr fun _ => and_congr_right fun _ =>
    and_congr_left fun _ => Field.takes_iff_of_missing rfl

theorem defaulted_found_iff {own : α} :
    (record.defaulted name codec own get).read expected parts = .found b ↔
      ∃ make a, record.read expected parts = .found make ∧
        ((parts.given [name] record.names.length = [] ∧ own = a) ∨
          ∃ value, parts.given [name] record.names.length = [value] ∧
            codec.read value = .ok a) ∧
        make a = b := by
  rw [defaulted, field_found_iff]
  exact exists_congr fun _ => exists_congr fun _ => and_congr_right fun _ =>
    and_congr_left fun _ => Field.takes_iff_of_value rfl

theorem nullable_found_iff {record : Record σ (Option α → β)} {get : σ → Option α} :
    (record.nullable name codec get).read expected parts = .found b ↔
      ∃ make a, record.read expected parts = .found make ∧
        ((parts.given [name] record.names.length = [] ∧ none = a) ∨
          ∃ value, parts.given [name] record.names.length = [value] ∧
            codec.nullable.read value = .ok a) ∧
        make a = b := by
  rw [nullable, field_found_iff]
  exact exists_congr fun _ => exists_congr fun _ => and_congr_right fun _ =>
    and_congr_left fun _ => Field.takes_iff_of_value rfl

end Kinds

/-- A container that a record of some fields can be read from: an object in which each name has
a meaning and the values of other names can be passed over, or an array that ends with the last
field. -/
inductive Opens (names : List (List String)) : Json → Parts → Prop where
  | object {members : List (String × Json)}
      (named : ∀ member ∈ members, member.2 ≠ .defect .nameless)
      (passable : ∀ member ∈ members, member.1 ∈ names.flatten ∨ member.2.skippable = true) :
      Opens names (.obj members) (.members members)
  | array {items : List Json} (within : items.length ≤ names.length) :
      Opens names (.arr items) (.items items)

theorem stop_cons {names : List (List String)} {place : Nat} {name : String} {value : Json}
    {rest : List (String × Json)} (named : value ≠ .defect .nameless) :
    stop names place ((name, value) :: rest) =
      if names.any (·.contains name) || value.skippable then stop names (place + 1) rest
      else .failed place .malformed := by
  rw [stop]
  exact named

theorem stop_found_iff {names : List (List String)} {place : Nat}
    {members : List (String × Json)} :
    stop names place members = .found () ↔
      (∀ member ∈ members, member.2 ≠ .defect .nameless) ∧
        ∀ member ∈ members, member.1 ∈ names.flatten ∨ member.2.skippable = true := by
  induction members generalizing place with
  | nil => exact ⟨fun _ => ⟨List.forall_mem_nil _, List.forall_mem_nil _⟩, fun _ => rfl⟩
  | cons member rest ih =>
      obtain ⟨name, value⟩ := member
      rw [List.forall_mem_cons, List.forall_mem_cons]
      -- A member without a name stops the reading even where its name is known.
      by_cases named : value = .defect .nameless
      · rw [named]
        exact ⟨nofun, fun clean => absurd rfl clean.1.1⟩
      · have passable : (names.any (·.contains name) || value.skippable) = true ↔
            name ∈ names.flatten ∨ value.skippable = true := by
          simp only [Bool.or_eq_true, List.any_eq_true, List.contains_iff_mem, List.mem_flatten]
        rw [stop_cons named, ← passable]
        split_ifs with known
        · rw [ih]
          exact ⟨fun ⟨each, others⟩ => ⟨⟨named, each⟩, known, others⟩,
            fun ⟨⟨_, each⟩, _, others⟩ => ⟨each, others⟩⟩
        · exact ⟨nofun, fun clean => absurd clean.2.1 known⟩

/-- A record is read from the containers that open, as what its fields take. -/
theorem codec_ok_iff {record : Record α α} {type : String} {json : Json} {a : α} :
    (record.codec type).read json = .ok a ↔
      ∃ parts, Opens record.names json parts ∧
        record.read (record.expectation type) parts = .found a := by
  cases json with
  | obj members =>
      simp only [codec, readMembers, Reading.toExcept_ok_iff, Reading.checked_found_iff,
        stop_found_iff]
      constructor
      · rintro ⟨⟨named, passable⟩, met⟩
        exact ⟨_, .object named passable, met⟩
      · rintro ⟨_, ⟨named, passable⟩, met⟩
        exact ⟨⟨named, passable⟩, met⟩
  | arr items =>
      simp only [codec, readItems]
      constructor
      · intro met
        split at met
        next => cases met
        next b read =>
          split at met
          next => cases met
          next within =>
            cases met
            exact ⟨_, .array (Nat.le_of_not_lt within), read⟩
      · rintro ⟨_, opens, met⟩
        cases opens with
        | array within => simp only [met, if_neg (Nat.not_lt_of_le within)]
  | _ =>
      constructor
      · intro met
        cases met
      · rintro ⟨_, opens, -⟩
        cases opens

/-- What an open container gives for a field is a part of the document. -/
theorem Opens.given_part {names : List (List String)} {json : Json} {parts : Parts}
    (opens : Opens names json parts) {own : List String} {index : Nat} {value : Json}
    (given : value ∈ parts.given own index) : value ∈ json.parts := by
  cases opens with
  | object =>
      rw [Parts.given] at given
      obtain ⟨member, among, rfl⟩ := List.mem_map.mp given
      exact List.mem_map_of_mem (List.mem_of_mem_filter among)
  | array =>
      rw [Parts.given, Option.mem_toList] at given
      exact List.mem_of_getElem? given

end Record

end ComposeDesk
