import ComposeDesk.Json.Codec
import ComposeDesk.Proofs.Json.Reordered

/-!
# Sound codecs

A codec is sound if what it writes is read back as the same value, however the
members of its objects come back.  What a sound codec writes has no defect and
is never null, so that a value can be told from none, and one shape from another.
-/

namespace ComposeDesk

open Json

variable {α β : Type}

/-- Every value that is written is read back from all documents that its own may
come back as. -/
structure Codec.Sound (codec : Codec α) : Prop where
  reads : ∀ a doc, (codec.write a).Reordered doc → codec.read doc = .ok a
  readable : ∀ a, (codec.write a).readable = true
  present : ∀ a, codec.write a ≠ .null

namespace Codec.Sound

variable {codec : Codec α}

theorem faithful (sound : codec.Sound) : codec.Faithful := by
  intro a
  exact sound.reads a (codec.write a) (.kept _)

/-- Values of one document are the same. -/
theorem injective (sound : codec.Sound) {a b : α} (same : codec.write a = codec.write b) :
    a = b := by
  have first := sound.faithful a
  rw [same, sound.faithful b] at first
  exact (Except.ok.inj first).symm

/-- A codec whose documents have no parts is sound if it is faithful. -/
theorem of_plain (faithful : codec.Faithful)
    (plain : ∀ a, (codec.write a).sorted = codec.write a)
    (readable : ∀ a, (codec.write a).readable = true) (present : ∀ a, codec.write a ≠ .null) :
    codec.Sound where
  reads a doc reordered := by
    rw [reordered.eq_of_sorted (plain a)]
    exact faithful a
  readable := readable
  present := present

theorem text : Codec.text.Sound :=
  .of_plain (fun _ => rfl) (fun _ => rfl) (fun _ => rfl) (fun _ => Json.noConfusion)

theorem bool : Codec.bool.Sound :=
  .of_plain (fun _ => rfl) (fun _ => rfl) (fun _ => rfl) (fun _ => Json.noConfusion)

theorem integer_ok {expected : String} {least most n : Int} (above : least ≤ n) (below : n ≤ most) :
    integer expected least most (.int n) = .ok n :=
  if_pos ⟨above, below⟩

theorem uint64 : Codec.uint64.Sound := by
  refine .of_plain ?_ (fun _ => rfl) (fun _ => rfl) (fun _ => Json.noConfusion)
  intro n
  have below := n.toNat_lt
  have whole : integer "u64" 0 18446744073709551615 (.int n.toNat) = .ok (n.toNat : Int) :=
    integer_ok (by omega) (by omega)
  simp only [Codec.uint64, whole, Except.map, Int.toNat_natCast, UInt64.ofNat_toNat]

theorem int64 : Codec.int64.Sound := by
  refine .of_plain ?_ (fun _ => rfl) (fun _ => rfl) (fun _ => Json.noConfusion)
  intro n
  have above := n.le_toInt
  have below := n.toInt_lt
  have whole : integer "i64" (-9223372036854775808) 9223372036854775807 (.int n.toInt) =
      .ok n.toInt :=
    integer_ok (by omega) (by omega)
  simp only [Codec.int64, whole, Except.map, Int64.ofInt_toInt]

theorem int32 : Codec.int32.Sound := by
  refine .of_plain ?_ (fun _ => rfl) (fun _ => rfl) (fun _ => Json.noConfusion)
  intro n
  have above := n.le_toInt
  have below := n.toInt_lt
  have whole : integer "i32" (-2147483648) 2147483647 (.int n.toInt) = .ok n.toInt :=
    integer_ok (by omega) (by omega)
  simp only [Codec.int32, whole, Except.map, Int32.ofInt_toInt]

/-- Names are sound if each is found among those that are known. -/
theorem oneOf {names : List (String × α)} {name : α → String}
    (known : ∀ a, names.find? (·.1 == name a) = some (name a, a)) :
    (Codec.oneOf names name).Sound := by
  refine .of_plain ?_ (fun _ => rfl) (fun _ => rfl) (fun _ => Json.noConfusion)
  intro a
  simp only [Codec.oneOf, readName, known a]

theorem readItems_ok {read : Json → Except Fault α} {write : α → Json} {items : List α}
    {docs : List Json} (index : Nat)
    (each : ∀ a ∈ items, ∀ doc, (write a).Reordered doc → read doc = .ok a)
    (come : (items.map write).Forall₂ Reordered docs) : readItems read index docs = .ok items := by
  induction items generalizing index docs with
  | nil =>
      cases come
      rfl
  | cons a rest ih =>
      cases come with
      | @cons _ doc _ others first later =>
          have head := each a List.mem_cons_self doc first
          have tail := ih (index + 1) (fun b member => each b (List.mem_cons_of_mem a member)) later
          rw [Codec.readItems, head]
          simp only [tail]
          rfl

theorem list (sound : codec.Sound) : (Codec.list codec).Sound where
  reads items doc reordered := by
    obtain ⟨docs, rfl, each⟩ := reordered.arr
    exact readItems_ok 0 (fun a _ => sound.reads a) each
  readable items := by
    refine readableItems_iff.mpr fun doc member => ?_
    obtain ⟨a, -, rfl⟩ := List.mem_map.mp member
    exact sound.readable a
  present _ := Json.noConfusion

/-- A value that is there is read where null may stand. -/
theorem nullable_reads (sound : codec.Sound) (a : α) {doc : Json}
    (reordered : (codec.write a).Reordered doc) : codec.nullable.read doc = .ok (some a) := by
  have there := reordered.ne_null (sound.present a)
  have held := sound.reads a doc reordered
  cases doc with
  | null => exact absurd rfl there
  | _ =>
      simp only [Codec.nullable, held]
      rfl

/-- Where the first shape that fits gives the value back, the codec is sound. -/
theorem anyOf {type : String} {shapes : List (Json → Except Fault α)} {write : α → Json}
    (fits : ∀ a doc, (write a).Reordered doc →
      shapes.findSome? (fun shape => (shape doc).toOption) = some a)
    (readable : ∀ a, (write a).readable = true) (present : ∀ a, write a ≠ .null) :
    (Codec.anyOf type shapes write).Sound where
  reads a doc reordered := by
    have clean := reordered.readable (readable a)
    simp only [Codec.anyOf, clean, if_true, fits a doc reordered]
  readable := readable
  present := present

end Codec.Sound

end ComposeDesk
