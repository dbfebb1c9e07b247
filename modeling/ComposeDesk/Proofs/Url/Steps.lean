import ComposeDesk.Proofs.Url.Percent
import ComposeDesk.Url.Basic

/-!
# Steps of a path

A path is walked segment by segment: `.` stays, `..` goes up, and every other segment
goes down.  What stands below some level of the path that is reached stood there at the
start or is a segment that was given.
-/

namespace ComposeDesk

namespace Text

variable {separates : Char → Bool}

/-- The parts of two texts with a separator between them are the parts of both. -/
theorem split_between {mark : Char} (cut : separates mark = true) (cs rest : List Char) :
    split separates (cs ++ mark :: rest) = split separates cs ++ split separates rest := by
  induction cs with
  | nil => exact split_append (List.forall_mem_nil _) cut rest
  | cons c more ih =>
      rw [List.cons_append, split, split, ih]
      cases parts : split separates more with
      | nil => exact absurd parts (split_ne_nil more)
      | cons first others =>
          simp only [List.cons_append]
          split_ifs <;> rfl

/-- A part of a text is empty, a part of what follows the first character, or one that
begins with this character. -/
theorem mem_split_cons {c : Char} {rest part : List Char}
    (member : part ∈ split separates (c :: rest)) :
    part = [] ∨ part ∈ split separates rest ∨
      ∃ first ∈ split separates rest, separates c = false ∧ part = c :: first := by
  rw [split] at member
  cases parts : split separates rest with
  | nil => exact absurd parts (split_ne_nil rest)
  | cons first others =>
      simp only [parts] at member
      split_ifs at member with cut
      · rcases List.mem_cons.mp member with none | later
        · exact Or.inl none
        · exact Or.inr (Or.inl later)
      · rcases List.mem_cons.mp member with longer | later
        · exact Or.inr (Or.inr ⟨first, List.mem_cons_self, Bool.eq_false_iff.mpr cut, longer⟩)
        · exact Or.inr (Or.inl (List.mem_cons_of_mem first later))

/-- A part stands in the text. -/
theorem split_sublist {cs part : List Char} (member : part ∈ split separates cs) :
    part.Sublist cs := by
  induction cs generalizing part with
  | nil =>
      rw [split, List.mem_singleton] at member
      rw [member]
  | cons c rest ih =>
      rcases mem_split_cons member with rfl | later | ⟨first, held, -, rfl⟩
      · exact List.nil_sublist _
      · exact (ih later).cons c
      · exact (ih held).cons_cons c

/-- No part has a separator. -/
theorem split_free {cs part : List Char} (member : part ∈ split separates cs) :
    ∀ c ∈ part, separates c = false := by
  induction cs generalizing part with
  | nil =>
      rw [split, List.mem_singleton] at member
      rw [member]
      exact List.forall_mem_nil _
  | cons c rest ih =>
      rcases mem_split_cons member with rfl | later | ⟨first, held, other, rfl⟩
      · exact List.forall_mem_nil _
      · exact ih later
      · exact List.forall_mem_cons.mpr ⟨other, ih held⟩

end Text

namespace Percent

theorem bytes_length_of_sublist {part whole : List Char} (inside : part.Sublist whole) :
    (bytes part).length + whole.length ≤ (bytes whole).length + part.length := by
  induction inside with
  | slnil => exact Nat.le_refl _
  | cons c _ ih =>
      obtain ⟨byte, more, written, -⟩ := utf8EncodeChar_first c
      simp only [bytes_cons, written, List.length_append, List.length_cons]
      omega
  | cons_cons c _ ih =>
      simp only [bytes_cons, List.length_append, List.length_cons]
      omega

/-- A text that is decoded from a part of it is that part, and has no escape. -/
theorem eq_of_decode_part {part whole : List Char} (inside : part.Sublist whole)
    (same : decode (bytes part) = bytes whole) :
    part = whole ∧ hasEscape whole = false := by
  have alike : part = whole := by
    apply inside.eq_of_length_le
    have size := bytes_length_of_sublist inside
    have bound := decode_length_le (bytes part)
    rw [same] at bound
    omega
  subst alike
  exact ⟨rfl, (decode_bytes_iff part).mp same⟩

theorem keeps_of_isHex {c : Char} (hex : isHex c = true) : Url.pathKeeps c = true := by
  have table : ∀ n < 103, isHex (Char.ofNat n) = true →
      Url.pathKeeps (Char.ofNat n) = true := by decide
  have low : c.toNat < 103 := by
    by_contra high
    rw [isHex, hexDigit?_eq_none_of_lt (by omega)] at hex
    cases hex
  have known := table c.toNat low
  rw [Char.ofNat_toNat] at known
  exact known hex

/-- Of a number only the last digit is written. -/
theorem hexChar_mod (n : Nat) : hexChar n = hexChar (n % 16) := by
  rw [hexChar, hexChar, Nat.mod_mod]

/-- A digit that is written is read again. -/
theorem hexChar_read (n : Nat) :
    ∃ byte, String.utf8EncodeChar (hexChar n) = [byte] ∧
      hexDigit? byte = some ⟨n % 16, Nat.mod_lt n (by decide)⟩ := by
  have table : ∀ digit : Fin 16,
      String.utf8EncodeChar (hexChar digit.val) = [UInt8.ofNat (hexChar digit.val).toNat] ∧
        hexDigit? (UInt8.ofNat (hexChar digit.val).toNat) = some digit := by decide
  obtain ⟨written, read⟩ := table ⟨n % 16, Nat.mod_lt n (by decide)⟩
  rw [hexChar_mod]
  exact ⟨_, written, read⟩

theorem decode_encodeByte (byte : UInt8) (rest : List UInt8) :
    decode (bytes (encodeByte byte) ++ rest) = byte :: decode rest := by
  obtain ⟨high, writtenHigh, readHigh⟩ := hexChar_read (byte.toNat / 16)
  obtain ⟨low, writtenLow, readLow⟩ := hexChar_read byte.toNat
  have value : UInt8.ofNat (byte.toNat / 16 % 16 * 16 + byte.toNat % 16) = byte := by
    have small := byte.toNat_lt
    have sum : byte.toNat / 16 % 16 * 16 + byte.toNat % 16 = byte.toNat := by omega
    rw [sum, UInt8.ofNat_toNat]
  rw [encodeByte, bytes_percent, bytes_cons, bytes_cons, writtenHigh, writtenLow, bytes]
  simp only [List.flatMap_nil, List.append_nil, List.cons_append, List.nil_append,
    decode_percent, escaped?, readHigh, readLow, value]

theorem decode_encodeBytes (given rest : List UInt8) :
    decode (bytes (given.flatMap encodeByte) ++ rest) = given ++ decode rest := by
  induction given with
  | nil => rfl
  | cons byte more ih =>
      rw [List.flatMap_cons, bytes_append, List.append_assoc, decode_encodeByte, ih,
        List.cons_append]

theorem encode_singleton (c : Char) :
    Utf8.encode (String.singleton c) = String.utf8EncodeChar c := by
  rw [String.singleton_eq_ofList, encode_ofList, bytes, List.flatMap_singleton]

/-- A segment of a path is written so that it is decoded as the text is. -/
theorem writes_path : Writes (encodeChar Url.pathKeeps) where
  sign := rfl
  digit c hex := by rw [encodeChar, if_pos (keeps_of_isHex hex)]
  other c differs rest := by
    rw [encodeChar]
    split_ifs
    · exact writes_plain.other c differs rest
    · rw [encode_singleton, decode_encodeBytes]
  first c none := by
    rw [encodeChar]
    split_ifs
    · exact ⟨c, [], rfl, none⟩
    · obtain ⟨byte, more, written, -⟩ := utf8EncodeChar_first c
      rw [encode_singleton, written, List.flatMap_cons, encodeByte]
      exact ⟨'%', _, rfl, by decide⟩

theorem hexChar_ne_slash (n : Nat) : hexChar n ≠ '/' := by
  have table : ∀ digit : Fin 16, hexChar digit.val ≠ '/' := by decide
  rw [hexChar_mod]
  exact table ⟨n % 16, Nat.mod_lt n (by decide)⟩

/-- No slash is written for a text that has none. -/
theorem encode_free {keep : Char → Bool} {cs : List Char} (free : ∀ c ∈ cs, c ≠ '/') :
    ∀ c ∈ encode keep cs, c ≠ '/' := by
  intro c member
  obtain ⟨given, held, written⟩ := List.mem_flatMap.mp member
  rw [encodeChar] at written
  split_ifs at written
  · rw [List.mem_singleton.mp written]
    exact free given held
  · obtain ⟨byte, -, digit⟩ := List.mem_flatMap.mp written
    simp only [encodeByte, List.mem_cons, List.not_mem_nil, or_false] at digit
    rcases digit with rfl | rfl | rfl
    · decide
    · exact hexChar_ne_slash _
    · exact hexChar_ne_slash _

/-- Characters that stand for themselves are written as they are. -/
theorem encode_kept {keep : Char → Bool} {cs : List Char} (kept : ∀ c ∈ cs, keep c = true) :
    encode keep cs = cs := by
  have same := List.flatMap_congr fun c member =>
    (if_pos (kept c member) : encodeChar keep c = [c])
  exact same.trans (List.flatMap_singleton' cs)

end Percent

namespace Url

/-! ## Walking -/

/-- Where a segment leads from a path. -/
def stride (path : List (List Char)) (segment : List Char) : List (List Char) :=
  if isUp segment then up path
  else if isHere segment then path
  else path ++ [segment]

/-- Where segments lead, one after the other. -/
def walk (path segments : List (List Char)) : List (List Char) :=
  segments.foldl stride path

/-- Where the last segment leads; a step there leaves the path open. -/
def arrive (path : List (List Char)) (last : List Char) : List (List Char) :=
  if isUp last then up path ++ [[]]
  else if isHere last then path ++ [[]]
  else path ++ [last]

theorem resolve_cons (path : List (List Char)) (segment : List Char)
    {rest : List (List Char)} (more : rest ≠ []) :
    resolve path (segment :: rest) = resolve (stride path segment) rest := by
  rw [resolve]
  · rw [stride]
    split_ifs <;> rfl
  · exact more

theorem resolve_walk (path segments : List (List Char)) (last : List Char) :
    resolve path (segments ++ [last]) = arrive (walk path segments) last := by
  induction segments generalizing path with
  | nil => rfl
  | cons segment rest ih =>
      rw [List.cons_append, resolve_cons path segment (List.append_ne_nil_of_right_ne_nil rest
        (List.cons_ne_nil last [])), ih]
      rfl

/-- A segment that is no step. -/
def isName (segment : List Char) : Bool := !isUp segment && !isHere segment

theorem stride_name {segment : List Char} (name : isName segment = true)
    (path : List (List Char)) : stride path segment = path ++ [segment] := by
  obtain ⟨first, second⟩ := Bool.and_eq_true_iff.mp name
  rw [stride, if_neg (by simpa using first), if_neg (by simpa using second)]

theorem arrive_name {last : List Char} (name : isName last = true)
    (path : List (List Char)) : arrive path last = path ++ [last] := by
  obtain ⟨first, second⟩ := Bool.and_eq_true_iff.mp name
  rw [arrive, if_neg (by simpa using first), if_neg (by simpa using second)]

theorem walk_names {segments : List (List Char)}
    (names : ∀ segment ∈ segments, isName segment = true) (path : List (List Char)) :
    walk path segments = path ++ segments := by
  induction segments generalizing path with
  | nil => exact (List.append_nil path).symm
  | cons segment rest ih =>
      obtain ⟨first, others⟩ := List.forall_mem_cons.mp names
      rw [walk, List.foldl_cons, stride_name first, ← walk, ih others, List.append_assoc,
        List.singleton_append]

theorem walk_append (path front back : List (List Char)) :
    walk path (front ++ back) = walk (walk path front) back :=
  List.foldl_append

theorem drop_up {path : List (List Char)} {level : Nat} {segment : List Char}
    (member : segment ∈ (up path).drop level) : segment ∈ path.drop level := by
  unfold up at member
  split at member
  · split_ifs at member
    · exact member
    · rw [← List.dropLast_drop_eq_drop_dropLast] at member
      exact List.dropLast_subset _ member
  · rw [List.drop_nil] at member
    cases member

/-- What a walk leaves below a level stood there, or is no step and was given. -/
theorem drop_walk {path segments : List (List Char)} {level : Nat} {segment : List Char}
    (member : segment ∈ (walk path segments).drop level) :
    segment ∈ path.drop level ∨ (segment ∈ segments ∧ isName segment = true) := by
  induction segments generalizing path with
  | nil => exact Or.inl member
  | cons next rest ih =>
      rcases ih member with stood | ⟨later, name⟩
      · rw [stride] at stood
        split_ifs at stood with goesUp stays
        · exact Or.inl (drop_up stood)
        · exact Or.inl stood
        · rw [List.drop_append] at stood
          rcases List.mem_append.mp stood with before | new
          · exact Or.inl before
          · rw [List.mem_singleton.mp (List.mem_of_mem_drop new)]
            exact Or.inr ⟨List.mem_cons_self, Bool.and_eq_true_iff.mpr
              ⟨by simpa using goesUp, by simpa using stays⟩⟩
      · exact Or.inr ⟨List.mem_cons_of_mem next later, name⟩

/-- Before the last segment of what is arrived at is what was walked, or what is above
that. -/
theorem arrive_cases (path : List (List Char)) (last : List Char) :
    ∃ front back, arrive path last = front ++ [back] ∧ (front = path ∨ front = up path) ∧
      (back = last ∨ back = []) := by
  rw [arrive]
  split_ifs
  · exact ⟨up path, [], rfl, Or.inr rfl, Or.inr rfl⟩
  · exact ⟨path, [], rfl, Or.inl rfl, Or.inr rfl⟩
  · exact ⟨path, last, rfl, Or.inl rfl, Or.inl rfl⟩

/-- A segment of a path that is resolved was there or was given, or is empty. -/
theorem mem_resolve {path segments : List (List Char)} {segment : List Char}
    (member : segment ∈ resolve path segments) :
    segment ∈ path ∨ segment ∈ segments ∨ segment = [] := by
  rcases segments.eq_nil_or_concat with rfl | ⟨init, last, rfl⟩
  · exact Or.inl member
  · rw [List.concat_eq_append] at member ⊢
    rw [resolve_walk] at member
    obtain ⟨front, back, arrived, reached, ends⟩ := arrive_cases (walk path init) last
    rw [arrived] at member
    rcases List.mem_append.mp member with before | final
    · have walked : segment ∈ (walk path init).drop 0 := by
        rcases reached with rfl | rfl
        · exact before
        · exact drop_up before
      rcases drop_walk walked with stood | ⟨given, -⟩
      · exact Or.inl stood
      · exact Or.inr (Or.inl (List.mem_append_left _ given))
    · rw [List.mem_singleton.mp final]
      rcases ends with rfl | rfl
      · exact Or.inr (Or.inl (List.mem_append_right _ List.mem_cons_self))
      · exact Or.inr (Or.inr rfl)

theorem ne_slash {c : Char} (other : isSlash c = false) : c ≠ '/' := by
  rintro rfl
  cases other

/-- Segments with a slash before each. -/
def joined (segments : List (List Char)) : List Char :=
  segments.flatMap ('/' :: ·)

theorem joined_cons (segment : List Char) (rest : List (List Char)) :
    joined (segment :: rest) = '/' :: (segment ++ joined rest) :=
  List.flatMap_cons

/-- Segments are cut where they were joined. -/
theorem split_joined {separates : Char → Bool} (slash : separates '/' = true)
    {segments : List (List Char)}
    (free : ∀ segment ∈ segments, ∀ c ∈ segment, separates c = false)
    {first : List Char} (start : ∀ c ∈ first, separates c = false) (rest : List Char) :
    Text.split separates (first ++ (joined segments ++ '/' :: rest)) =
      first :: (segments ++ Text.split separates rest) := by
  induction segments generalizing first with
  | nil => exact Text.split_append start slash rest
  | cons segment more ih =>
      obtain ⟨next, others⟩ := List.forall_mem_cons.mp free
      rw [joined_cons, List.cons_append, Text.split_append start slash, List.append_assoc,
        ih others next]
      rfl

/-- Joined segments can be told apart. -/
theorem joined_injective {segments others : List (List Char)}
    (free : ∀ segment ∈ segments, ∀ c ∈ segment, c ≠ '/')
    (freeOthers : ∀ segment ∈ others, ∀ c ∈ segment, c ≠ '/')
    (same : joined segments = joined others) : segments = others := by
  have cut {given : List (List Char)} (free : ∀ segment ∈ given, ∀ c ∈ segment, c ≠ '/') :
      Text.split (· == '/') ([] ++ (joined given ++ '/' :: [])) = [] :: (given ++ [[]]) :=
    @split_joined (· == '/') (beq_self_eq_true '/') given
      (fun segment member c held => beq_eq_false_iff_ne.mpr (free segment member c held))
      [] (List.forall_mem_nil _) []
  have parts := (cut free).symm.trans ((congrArg (fun text =>
    Text.split (· == '/') ([] ++ (text ++ '/' :: []))) same).trans (cut freeOthers))
  exact List.append_cancel_right (List.cons.inj parts).2

/-- A path is read segment by segment. -/
theorem readPath_joined (rest : List Char) :
    readPath ('/' :: rest) = String.ofList (joined
      ((resolve [] (Text.split isSlash rest)).map (Percent.encode pathKeeps))) := by
  rw [joined, List.flatMap_map]
  rfl

/-- A text without escapes has no dots in disguise. -/
theorem dotted_plain {cs : List Char} (none : Percent.hasEscape cs = false) :
    dotted cs = cs := by
  fun_induction dotted cs with
  | case1 e rest dot ih =>
      have digits : Percent.isHex '2' = true ∧ Percent.isHex e = true := by
        refine ⟨by decide, ?_⟩
        rcases Bool.or_eq_true_iff.mp dot with lower | upper
        · rw [of_decide_eq_true lower]
          decide
        · rw [of_decide_eq_true upper]
          decide
      rw [Percent.hasEscape, Percent.startsWithDigits, digits.1, digits.2] at none
      cases none
  | case2 e rest _ ih =>
      rw [Percent.hasEscape, Bool.or_eq_false_iff] at none
      rw [ih none.2]
  | case3 c rest _ ih =>
      rw [Percent.hasEscape, Bool.or_eq_false_iff] at none
      rw [ih none.2]
  | case4 => rfl

end Url

end ComposeDesk
