import ComposeDesk.Json.Reader
import ComposeDesk.Json.Writer
import ComposeDesk.Proofs.Uuid

/-!
# Reading back what was written

A document without numbers is read back from its compact text.  Strings are read
character by character, whatever their escapes; arrays and objects by induction on
their parts, of which the text says where each one ends.
-/

namespace ComposeDesk

namespace Json

/-- The digits of an escape mean the character's code. -/
theorem hex4?_control {n : Nat} (control : n < 0x20) (rest : Source) :
    hex4? (some '0' :: some '0' :: some (Text.hexChar (Text.lastHexDigit (n / 16))) ::
      some (Text.hexChar (Text.lastHexDigit n)) :: rest) = some (n, rest) := by
  have zero : Text.hexDigit? '0' = some 0 := by decide
  have code : ((0 * 16 + 0) * 16 + n / 16 % 16) * 16 + n % 16 = n := by omega
  simp only [hex4?, zero, Uuid.hexDigit?_hexChar, Option.bind_eq_bind, Option.bind_some]
  exact congrArg (fun code => some (code, rest)) code

theorem quoted_control (steps : Nat) {c : Char} (control : c.toNat < 0x20) (rest : Source) :
    quoted (steps + 1) (some '\\' :: some 'u' :: some '0' :: some '0' ::
      some (Text.hexChar (Text.lastHexDigit (c.toNat / 16))) ::
      some (Text.hexChar (Text.lastHexDigit c.toNat)) :: rest) =
      (quoted steps rest).cons (some c) := by
  have code := hex4?_control control rest
  have single : decide (c.toNat < 0xD800) = true := decide_eq_true (by omega)
  simp only [quoted, code, single, Bool.true_or, if_true, Char.ofNat_toNat]

theorem quoted_plain (steps : Nat) {c : Char} (quote : c ≠ '"') (slash : c ≠ '\\')
    (shown : ¬ c.toNat < 0x20) (rest : Source) :
    quoted (steps + 1) (some c :: rest) = (quoted steps rest).cons (some c) := by
  have stands : (decide (c = '\\') || decide (c.toNat < 0x20)) = false := by
    rw [decide_eq_false slash, decide_eq_false shown]
    rfl
  rw [quoted, if_neg quote, if_neg (Bool.eq_false_iff.mp stands)]
  case x_2 => exact fun _ _ escape => slash escape
  case x_3 => exact fun _ _ _ escape => slash escape

/-- One written character is read in one step. -/
theorem quoted_writeChar (steps : Nat) (c : Char) (rest : Source) :
    quoted (steps + 1) ((writeChar c).map some ++ rest) = (quoted steps rest).cons (some c) := by
  unfold writeChar
  split_ifs with quote slash back feed line home tab control
  · subst quote; rfl
  · subst slash; rfl
  · subst back; rfl
  · subst feed; rfl
  · subst line; rfl
  · subst home; rfl
  · subst tab; rfl
  · exact quoted_control steps control rest
  · exact quoted_plain steps quote slash control rest

/-- A written string is read up to its closing quote. -/
theorem quoted_writeChars {steps : Nat} {chars : List Char} (enough : chars.length < steps)
    (rest : Source) :
    quoted steps ((chars.flatMap writeChar).map some ++ some '"' :: rest) =
      .text chars rest := by
  induction chars generalizing steps with
  | nil =>
      cases steps with
      | zero => cases enough
      | succ steps => rfl
  | cons c others ih =>
      cases steps with
      | zero => cases enough
      | succ steps =>
          have later := ih (Nat.lt_of_succ_lt_succ enough)
          rw [List.flatMap_cons, List.map_append, List.append_assoc, quoted_writeChar, later]
          rfl

/-- The positions of a written string after its opening quote. -/
theorem ofString_writeString (text : String) (rest : Source) :
    Source.ofString (writeString text) ++ rest =
      some '"' :: ((text.toList.flatMap writeChar).map some ++ some '"' :: rest) := by
  rw [Source.ofString, writeString, String.toList_ofList, List.map_cons, List.map_append,
    List.cons_append, List.append_assoc]
  rfl

theorem writeChar_ne_nil (c : Char) : writeChar c ≠ [] := by
  unfold writeChar
  split_ifs
  all_goals exact List.cons_ne_nil _ _

theorem length_le_writeChars (chars : List Char) :
    chars.length ≤ (chars.flatMap writeChar).length := by
  induction chars with
  | nil => exact Nat.zero_le _
  | cons c rest ih =>
      have one := List.length_pos_iff.mpr (writeChar_ne_nil c)
      rw [List.flatMap_cons, List.length_append, List.length_cons]
      omega

theorem quoted_writeString {source : Source} (text : String) (rest : Source)
    (written : source = (text.toList.flatMap writeChar).map some ++ some '"' :: rest) :
    quoted (source.length + 1) source = .text text.toList rest := by
  subst written
  refine quoted_writeChars ?_ rest
  have shorter := length_le_writeChars text.toList
  rw [List.length_append, List.length_map]
  omega

theorem skipSpace_cons {c : Char} (solid : isSpace (some c) = false) (rest : Source) :
    skipSpace (some c :: rest) = some c :: rest :=
  List.dropWhile_cons_of_neg (Bool.eq_false_iff.mp solid)

/-- A document that is read back from its compact text, whatever follows. -/
def ReadBack (depth : Nat) (doc : Json) : Prop :=
  ∀ steps rest, doc.compact.toList.length ≤ steps →
    value steps depth (Source.ofString doc.compact ++ rest) = (doc, some rest)

/-- A text is never empty, so one step is always left. -/
theorem readBack_of_succ {depth : Nat} {doc : Json} (there : doc.compact.toList ≠ [])
    (reads : ∀ steps rest, doc.compact.toList.length ≤ steps + 1 →
      value (steps + 1) depth (Source.ofString doc.compact ++ rest) = (doc, some rest)) :
    ReadBack depth doc := by
  intro steps rest enough
  cases steps with
  | zero => exact absurd (List.length_eq_zero_iff.mp (Nat.le_zero.mp enough)) there
  | succ steps => exact reads steps rest enough

theorem readBack_null (depth : Nat) : ReadBack depth .null := by
  refine readBack_of_succ (by decide) fun steps rest _ => ?_
  rfl

theorem readBack_bool (depth : Nat) (b : Bool) : ReadBack depth (.bool b) := by
  cases b with
  | false =>
      refine readBack_of_succ (by decide) fun steps rest _ => ?_
      rfl
  | true =>
      refine readBack_of_succ (by decide) fun steps rest _ => ?_
      rfl

theorem readBack_str (depth : Nat) (text : String) : ReadBack depth (.str text) := by
  refine readBack_of_succ ?_ fun steps rest _ => ?_
  · rw [compact, writeString, String.toList_ofList]
    exact List.cons_ne_nil _ _
  · have read := quoted_writeString text rest rfl
    have solid : isSpace (some '"') = false := by decide
    rw [compact, ofString_writeString]
    simp only [value, skipSpace_cons solid, read, String.ofList_toList]

/-- The parts of a container with the mark that closes it. -/
def closed (mark : Char) (texts : List String) : List Char :=
  (",".intercalate texts).toList ++ [mark]

theorem closed_single (mark : Char) (text : String) :
    closed mark [text] = text.toList ++ [mark] := by
  rw [closed, String.intercalate_singleton]

theorem closed_more (mark : Char) (text other : String) (rest : List String) :
    closed mark (text :: other :: rest) = text.toList ++ ',' :: closed mark (other :: rest) := by
  rw [closed, String.intercalate_cons_cons, String.toList_append, String.toList_append,
    List.append_assoc, List.append_assoc]
  rfl

/-- A reader that takes one written part in a step, before a comma as before the
closing mark, takes all parts. -/
theorem read_closed {α : Type} (read : Nat → Source → Found (List α)) {mark : Char}
    {text : α → String} {parts : List α} (there : parts ≠ [])
    (last : ∀ part ∈ parts, ∀ steps rest, (text part).toList.length ≤ steps →
      read (steps + 1) (Source.ofString (text part) ++ some mark :: rest) = ([part], some rest))
    (more : ∀ part ∈ parts, ∀ steps source others rest, (text part).toList.length ≤ steps →
      read steps source = (others, some rest) →
      read (steps + 1) (Source.ofString (text part) ++ some ',' :: source) =
        (part :: others, some rest))
    (steps : Nat) (rest : Source) (enough : (closed mark (parts.map text)).length ≤ steps) :
    read steps ((closed mark (parts.map text)).map some ++ rest) = (parts, some rest) := by
  induction parts generalizing steps with
  | nil => exact absurd rfl there
  | cons part others ih =>
      cases steps with
      | zero =>
          rw [closed, List.length_append] at enough
          exact absurd enough (Nat.not_succ_le_zero _)
      | succ steps =>
          cases others with
          | nil =>
              rw [List.map_cons, List.map_nil, closed_single] at enough ⊢
              rw [List.length_append] at enough
              rw [List.map_append, List.append_assoc]
              exact last part List.mem_cons_self steps rest (Nat.le_of_succ_le_succ enough)
          | cons other left =>
              rw [List.map_cons, List.map_cons, closed_more] at enough ⊢
              rw [List.length_append, List.length_cons] at enough
              have later := ih (List.cons_ne_nil other left)
                (fun part' member => last part' (List.mem_cons_of_mem part member))
                (fun part' member => more part' (List.mem_cons_of_mem part member)) steps
                (by rw [List.map_cons]; omega)
              rw [List.map_append, List.append_assoc]
              exact more part List.mem_cons_self steps _ _ rest (by omega) later

theorem compactItems_eq (parts : List Json) : compactItems parts = parts.map compact := by
  induction parts with
  | nil => rfl
  | cons item rest ih => rw [compactItems, ih, List.map_cons]

theorem items_last {steps depth : Nat} {item : Json} (back : ReadBack depth item)
    (enough : item.compact.toList.length ≤ steps) (rest : Source) :
    items (steps + 1) depth (Source.ofString item.compact ++ some ']' :: rest) =
      ([item], some rest) := by
  have solid : isSpace (some ']') = false := by decide
  simp only [items, back steps _ enough, skipSpace_cons solid]

theorem items_more {steps depth : Nat} {item : Json} {others : List Json} {source rest : Source}
    (back : ReadBack depth item) (enough : item.compact.toList.length ≤ steps)
    (read : items steps depth source = (others, some rest)) :
    items (steps + 1) depth (Source.ofString item.compact ++ some ',' :: source) =
      (item :: others, some rest) := by
  have solid : isSpace (some ',') = false := by decide
  simp only [items, back steps _ enough, skipSpace_cons solid, read]

theorem items_closed {depth : Nat} {parts : List Json} (there : parts ≠ [])
    (each : ∀ item ∈ parts, ReadBack depth item) (steps : Nat) (rest : Source)
    (enough : (closed ']' (parts.map compact)).length ≤ steps) :
    items steps depth ((closed ']' (parts.map compact)).map some ++ rest) =
      (parts, some rest) := by
  refine read_closed (fun steps => items steps depth) there ?_ ?_ steps rest enough
  · exact fun item member _ rest enough => items_last (each item member) enough rest
  · exact fun item member _ _ _ _ enough read => items_more (each item member) enough read

def writeMember (member : String × Json) : String :=
  writeString member.1 ++ ":" ++ member.2.compact

theorem compactMembers_eq (parts : List (String × Json)) :
    compactMembers parts = parts.map writeMember := by
  induction parts with
  | nil => rfl
  | cons member rest ih => rw [compactMembers, ih, List.map_cons, writeMember]

/-- The positions of a member: its name, a colon and its value. -/
theorem ofString_writeMember (member : String × Json) (rest : Source) :
    Source.ofString (writeMember member) ++ rest =
      some '"' :: ((member.1.toList.flatMap writeChar).map some ++ some '"' ::
        some ':' :: (Source.ofString member.2.compact ++ rest)) := by
  rw [← ofString_writeString]
  simp only [Source.ofString, writeMember, String.toList_append, List.map_append,
    List.append_assoc]
  rfl

theorem members_last {steps depth : Nat} {member : String × Json}
    (back : ReadBack depth member.2) (enough : member.2.compact.toList.length ≤ steps)
    (rest : Source) :
    members (steps + 1) depth (Source.ofString (writeMember member) ++ some '}' :: rest) =
      ([member], some rest) := by
  have name := quoted_writeString member.1
    (some ':' :: (Source.ofString member.2.compact ++ some '}' :: rest)) rfl
  have opened : isSpace (some '"') = false := by decide
  have colon : isSpace (some ':') = false := by decide
  have brace : isSpace (some '}') = false := by decide
  rw [ofString_writeMember]
  simp only [members, skipSpace_cons opened, name, skipSpace_cons colon, back steps _ enough,
    skipSpace_cons brace, String.ofList_toList]

theorem members_more {steps depth : Nat} {member : String × Json}
    {others : List (String × Json)} {source rest : Source} (back : ReadBack depth member.2)
    (enough : member.2.compact.toList.length ≤ steps)
    (read : members steps depth source = (others, some rest)) :
    members (steps + 1) depth (Source.ofString (writeMember member) ++ some ',' :: source) =
      (member :: others, some rest) := by
  have name := quoted_writeString member.1
    (some ':' :: (Source.ofString member.2.compact ++ some ',' :: source)) rfl
  have opened : isSpace (some '"') = false := by decide
  have colon : isSpace (some ':') = false := by decide
  have comma : isSpace (some ',') = false := by decide
  rw [ofString_writeMember]
  simp only [members, skipSpace_cons opened, name, skipSpace_cons colon, back steps _ enough,
    skipSpace_cons comma, String.ofList_toList, read]

theorem length_value_le (member : String × Json) :
    member.2.compact.toList.length ≤ (writeMember member).toList.length := by
  rw [writeMember, String.toList_append, List.length_append]
  exact Nat.le_add_left _ _

theorem members_closed {depth : Nat} {parts : List (String × Json)} (there : parts ≠ [])
    (each : ∀ member ∈ parts, ReadBack depth member.2) (steps : Nat) (rest : Source)
    (enough : (closed '}' (parts.map writeMember)).length ≤ steps) :
    members steps depth ((closed '}' (parts.map writeMember)).map some ++ rest) =
      (parts, some rest) := by
  refine read_closed (fun steps => members steps depth) there ?_ ?_ steps rest enough
  · intro member held steps rest enough
    exact members_last (each member held) (Nat.le_trans (length_value_le member) enough) rest
  · intro member held steps source others rest enough read
    exact members_more (each member held) (Nat.le_trans (length_value_le member) enough) read

/-! ## Containers -/

theorem atDepth_of_lt {depth : Nat} (nested : depth < maxDepth) (container : Json) :
    atDepth depth container = container :=
  if_pos nested

theorem value_arr {steps depth : Nat} {c : Char} {parts : List Json} {source rest : Source}
    (nested : depth < maxDepth) (solid : isSpace (some c) = false) (more : c ≠ ']')
    (read : items steps (depth + 1) (some c :: source) = (parts, some rest)) :
    value (steps + 1) depth (some '[' :: some c :: source) = (.arr parts, some rest) := by
  have opened : isSpace (some '[') = false := by decide
  simp only [value, skipSpace_cons opened, skipSpace_cons solid, atDepth_of_lt nested]
  split
  case h_1 same => exact absurd (Option.some.inj (List.cons.inj same).1) more
  case h_2 => rw [read]

theorem value_obj {steps depth : Nat} {c : Char} {parts : List (String × Json)}
    {source rest : Source} (nested : depth < maxDepth) (solid : isSpace (some c) = false)
    (more : c ≠ '}') (read : members steps (depth + 1) (some c :: source) = (parts, some rest)) :
    value (steps + 1) depth (some '{' :: some c :: source) = (.obj parts, some rest) := by
  have opened : isSpace (some '{') = false := by decide
  simp only [value, skipSpace_cons opened, skipSpace_cons solid, atDepth_of_lt nested]
  split
  case h_1 same => exact absurd (Option.some.inj (List.cons.inj same).1) more
  case h_2 => rw [read]

/-- A text that starts with a character that neither is blank nor closes a
container. -/
def Opens (text : String) : Prop :=
  ∃ c cs, text.toList = c :: cs ∧ isSpace (some c) = false ∧ c ≠ ']' ∧ c ≠ '}'

theorem Opens.of_first {text : String} {c : Char} {cs : List Char} (first : text.toList = c :: cs)
    (solid : isSpace (some c) = false) (bracket : c ≠ ']') (brace : c ≠ '}') : Opens text :=
  ⟨c, cs, first, solid, bracket, brace⟩

/-- The parts of a container start as the first part does. -/
theorem closed_first (mark : Char) {c : Char} {text : String} {cs : List Char}
    (first : text.toList = c :: cs) (rest : List String) :
    ∃ more, closed mark (text :: rest) = c :: more := by
  cases rest with
  | nil => exact ⟨_, by rw [closed_single, first, List.cons_append]⟩
  | cons other rest => exact ⟨_, by rw [closed_more, first, List.cons_append]⟩

theorem toList_arr (parts : List Json) :
    (compact (.arr parts)).toList = '[' :: closed ']' (parts.map compact) := by
  rw [compact, compactItems_eq, String.toList_append, String.toList_append, List.append_assoc]
  rfl

theorem toList_obj (parts : List (String × Json)) :
    (compact (.obj parts)).toList = '{' :: closed '}' (parts.map writeMember) := by
  rw [compact, compactMembers_eq, String.toList_append, String.toList_append,
    List.append_assoc]
  rfl

theorem opens_writeMember (member : String × Json) : Opens (writeMember member) := by
  have first : (writeMember member).toList = '"' :: ((member.1.toList.flatMap writeChar ++ ['"']) ++
      (":".toList ++ member.2.compact.toList)) := by
    rw [writeMember, String.toList_append, String.toList_append, writeString,
      String.toList_ofList, List.append_assoc, List.cons_append]
  exact .of_first first (by decide) (by decide) (by decide)

theorem readBack_arr {depth : Nat} {parts : List Json} (nested : depth < maxDepth)
    (each : ∀ item ∈ parts, ReadBack (depth + 1) item)
    (opens : ∀ item ∈ parts, Opens item.compact) : ReadBack depth (.arr parts) := by
  refine readBack_of_succ ?_ fun steps rest enough => ?_
  · rw [toList_arr]
    exact List.cons_ne_nil _ _
  · rw [toList_arr, List.length_cons] at enough
    rw [Source.ofString, toList_arr, List.map_cons, List.cons_append]
    cases parts with
    | nil => exact congrArg (fun doc => (doc, some rest)) (atDepth_of_lt nested (.arr []))
    | cons item others =>
        have all := items_closed (List.cons_ne_nil item others) each steps rest
          (Nat.le_of_succ_le_succ enough)
        obtain ⟨c, cs, first, solid, bracket, -⟩ := opens item List.mem_cons_self
        obtain ⟨more, start⟩ := closed_first ']' first (others.map compact)
        rw [List.map_cons, start, List.map_cons, List.cons_append] at all ⊢
        exact value_arr nested solid bracket all

theorem readBack_obj {depth : Nat} {parts : List (String × Json)} (nested : depth < maxDepth)
    (each : ∀ member ∈ parts, ReadBack (depth + 1) member.2) : ReadBack depth (.obj parts) := by
  refine readBack_of_succ ?_ fun steps rest enough => ?_
  · rw [toList_obj]
    exact List.cons_ne_nil _ _
  · rw [toList_obj, List.length_cons] at enough
    rw [Source.ofString, toList_obj, List.map_cons, List.cons_append]
    cases parts with
    | nil => exact congrArg (fun doc => (doc, some rest)) (atDepth_of_lt nested (.obj []))
    | cons member others =>
        have all := members_closed (List.cons_ne_nil member others) each steps rest
          (Nat.le_of_succ_le_succ enough)
        obtain ⟨c, cs, first, solid, -, brace⟩ := opens_writeMember member
        obtain ⟨more, start⟩ := closed_first '}' first (others.map writeMember)
        rw [List.map_cons, start, List.map_cons, List.cons_append] at all ⊢
        exact value_obj nested solid brace all

/-- A document without numbers and defects that can stand in some containers. -/
inductive Worded : Nat → Json → Prop where
  | null {depth : Nat} : Worded depth .null
  | bool {depth : Nat} (b : Bool) : Worded depth (.bool b)
  | str {depth : Nat} (text : String) : Worded depth (.str text)
  | arr {depth : Nat} {parts : List Json} (nested : depth < maxDepth)
      (each : ∀ item ∈ parts, Worded (depth + 1) item) : Worded depth (.arr parts)
  | obj {depth : Nat} {parts : List (String × Json)} (nested : depth < maxDepth)
      (each : ∀ member ∈ parts, Worded (depth + 1) member.2) : Worded depth (.obj parts)

theorem Worded.opens {depth : Nat} {doc : Json} (worded : Worded depth doc) :
    Opens doc.compact := by
  cases worded with
  | null => exact ⟨'n', ['u', 'l', 'l'], by decide⟩
  | bool b =>
      cases b with
      | false => exact ⟨'f', ['a', 'l', 's', 'e'], by decide⟩
      | true => exact ⟨'t', ['r', 'u', 'e'], by decide⟩
  | str text =>
      exact .of_first String.toList_ofList (by decide) (by decide) (by decide)
  | arr => exact .of_first (toList_arr _) (by decide) (by decide) (by decide)
  | obj => exact .of_first (toList_obj _) (by decide) (by decide) (by decide)

theorem Worded.readBack {depth : Nat} {doc : Json} (worded : Worded depth doc) :
    ReadBack depth doc := by
  induction worded with
  | null => exact readBack_null _
  | bool b => exact readBack_bool _ b
  | str text => exact readBack_str _ text
  | arr nested each ih => exact readBack_arr nested ih fun item member => (each item member).opens
  | obj nested _ ih => exact readBack_obj nested ih

/-- The compact text of a document without numbers is read as this document, to
its end. -/
theorem read_compact {doc : Json} (worded : Worded 0 doc) :
    read (Source.ofString doc.compact) = ⟨doc, true⟩ := by
  have enough : doc.compact.toList.length ≤ 2 * (Source.ofString doc.compact).length + 2 := by
    rw [Source.ofString, List.length_map]
    omega
  have back := worded.readBack _ [] enough
  rw [List.append_nil] at back
  rw [read, back]
  rfl

end Json

end ComposeDesk
