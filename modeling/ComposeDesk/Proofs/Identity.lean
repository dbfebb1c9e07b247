import ComposeDesk.Identity
import ComposeDesk.Proofs.Base64
import ComposeDesk.Proofs.Json.Written
import ComposeDesk.Proofs.Text.Blank

/-!
# Callers and their headers

A caller that is written as a header is read back, because the document, its bytes
and their symbols are.  A header that names a caller is kept without the blanks
around it, and what is kept names the same caller again.
-/

namespace ComposeDesk

namespace Identity

open Json

theorem bytes_ne_nil {text : String} (there : text.toList ≠ []) : Utf8.encode text ≠ [] := by
  intro none
  have chars := Utf8.chars_encode text
  rw [none] at chars
  exact there (List.map_eq_nil_iff.mp chars.symm)

theorem toList_headerOf (doc : Json) :
    (headerOf doc).toList =
      (Base64.encode (Utf8.encode doc.compact)).map fun byte => Char.ofNat byte.toNat :=
  Utf8.lossy_plain fun byte member => (Base64.encode_shows _ byte member).2

theorem encode_headerOf (doc : Json) :
    Utf8.encode (headerOf doc) = Base64.encode (Utf8.encode doc.compact) :=
  Utf8.encode_lossy fun byte member => (Base64.encode_shows _ byte member).2

/-- There is no white space in a header of symbols. -/
theorem trim_headerOf (doc : Json) : Text.trim (headerOf doc) = headerOf doc := by
  refine Text.trim_eq_self fun c member => ?_
  rw [toList_headerOf] at member
  obtain ⟨byte, written, rfl⟩ := List.mem_map.mp member
  have shows := Base64.encode_shows _ byte written
  exact Text.isBlank_of_plain shows.1 shows.2

theorem headerOf_ne_empty {doc : Json} (worded : Worded 0 doc) : headerOf doc ≠ "" := by
  intro empty
  have letters := toList_headerOf doc
  rw [empty] at letters
  have none := Base64.encode_eq_nil (List.map_eq_nil_iff.mp letters.symm)
  obtain ⟨c, cs, first, -⟩ := worded.opens
  exact bytes_ne_nil (by rw [first]; exact List.cons_ne_nil c cs) none

/-- A header is read as the document that it was made of. -/
theorem ofHeader_headerOf {doc : Json} {claims : Claims} {entitlements : List (String × Bool)}
    (worded : Worded 0 doc) (read : envelope.read doc = .ok (claims, entitlements)) :
    ofHeader (headerOf doc) = ofClaims (headerOf doc) claims entitlements := by
  have source : Source.ofBytes (Utf8.encode doc.compact) = Source.ofString doc.compact :=
    Utf8.chars_encode doc.compact
  have text : envelope.readText (Source.ofString doc.compact) = .ok (claims, entitlements) := by
    simp only [Codec.readText, read_compact worded, read, if_true]
  simp only [ofHeader, trim_headerOf, if_neg (headerOf_ne_empty worded), encode_headerOf,
    Base64.decode_encode, source, text]

theorem worded_single {depth : Nat} {doc : Json} (name : String) (nested : depth < maxDepth)
    (worded : Worded (depth + 1) doc) : Worded depth (.obj [(name, doc)]) :=
  .obj nested (List.forall_mem_singleton.mpr worded)

theorem document_worded (org account email : String) :
    Worded 0 (document org account email) := by
  refine .obj (by decide) (List.forall_mem_cons.mpr ⟨?_, List.forall_mem_singleton.mpr ?_⟩)
  · exact worded_single "rhel" (by decide)
      (worded_single "is_entitled" (by decide) (.bool true))
  · refine .obj (by decide) ?_
    simp only [List.forall_mem_cons]
    exact ⟨.str account, worded_single "org_id" (by decide) (.str org), .str "User",
      worded_single "email" (by decide) (.str email), List.forall_mem_nil _⟩

theorem envelope_document (org account email : String) :
    envelope.read (document org account email) =
      .ok (⟨account, "", org, email, "User"⟩, [("rhel", true)]) :=
  rfl

def user (org account email : String) : Identity :=
  ⟨org, account, email, "User", [("rhel", true)], encode org account email⟩

theorem ofHeader_encode {org : String} (named : org ≠ "") (account email : String) :
    ofHeader (encode org account email) = .ok (user org account email) := by
  have read := ofHeader_headerOf (document_worded org account email)
    (envelope_document org account email)
  have employee : ¬ "User" = "Associate" := by decide
  rw [encode, read, ofClaims, if_neg employee]
  simp only [if_true, if_neg named]
  rfl

/-- The one entitlement that is written is held; any other one is held with an
account. -/
theorem isEntitled_user (org account email name : String) :
    (user org account email).isEntitled name = true ↔ name = "rhel" ∨ account ≠ "" := by
  by_cases rhel : name = "rhel"
  · subst rhel
    exact iff_of_true rfl (.inl rfl)
  · have other : ("rhel" == name) = false := beq_eq_false_iff_ne.mpr (Ne.symm rhel)
    have absent : (user org account email).entitlements.reverse.find? (·.1 == name) = none := by
      show [("rhel", true)].find? (·.1 == name) = none
      rw [List.find?_cons, other, List.find?_nil]
    rw [isEntitled, absent]
    simp only [user, rhel, false_or]
    exact decide_eq_true_iff

theorem ofClaims_ok {raw : String} {claims : Claims} {entitlements : List (String × Bool)}
    {identity : Identity} (named : ofClaims raw claims entitlements = .ok identity) :
    identity.org ≠ "" ∧ identity.kind ≠ "Associate" ∧ identity.raw = raw := by
  unfold ofClaims at named
  by_cases employee : claims.kind = "Associate"
  · rw [if_pos employee] at named
    cases named
  rw [if_neg employee] at named
  simp only at named
  generalize (if claims.org = "" then claims.internalOrg else claims.org) = org at named
  by_cases absent : org = ""
  · rw [if_pos absent] at named
    cases named
  · rw [if_neg absent] at named
    cases named
    exact ⟨absent, employee, rfl⟩

/-- The caller of a header has an organization and keeps the header. -/
theorem of_ofHeader_ok {header : String} {identity : Identity}
    (named : ofHeader header = .ok identity) :
    identity.org ≠ "" ∧ identity.kind ≠ "Associate" ∧ identity.raw = Text.trim header := by
  unfold ofHeader at named
  simp only at named
  by_cases absent : Text.trim header = ""
  · rw [if_pos absent] at named
    cases named
  rw [if_neg absent] at named
  cases decoded : Base64.decode (Utf8.encode (Text.trim header)) with
  | error fault =>
      rw [decoded] at named
      cases named
  | ok bytes =>
      rw [decoded] at named
      simp only at named
      cases read : envelope.readText (Source.ofBytes bytes) with
      | error fault =>
          rw [read] at named
          cases named
      | ok found =>
          rw [read] at named
          exact ofClaims_ok named

theorem ofHeader_trim (header : String) : ofHeader (Text.trim header) = ofHeader header := by
  rw [ofHeader, ofHeader, Text.trim_trim]

/-- A caller with an organization is read back from its header, with the address,
the account and the entitlements that it was written with.  What is kept of a header
that names a caller names the same caller. -/
theorem header_round_trip :
    (∀ org account email : String, org ≠ "" →
      ∃ identity, ofHeader (encode org account email) = .ok identity ∧
        identity.org = org ∧ identity.account = account ∧ identity.email = email ∧
        identity.kind = "User" ∧ identity.raw = encode org account email ∧
        identity.isEntitled "rhel" = true ∧
        ∀ name, name ≠ "rhel" → (identity.isEntitled name = true ↔ account ≠ "")) ∧
    ∀ header identity, ofHeader header = .ok identity →
      identity.org ≠ "" ∧ identity.kind ≠ "Associate" ∧
        ofHeader identity.raw = .ok identity := by
  constructor
  case left =>
    intro org account email named
    refine ⟨user org account email, ofHeader_encode named account email, rfl, rfl, rfl, rfl,
      rfl, (isEntitled_user org account email "rhel").mpr (.inl rfl), ?_⟩
    intro name other
    rw [isEntitled_user]
    exact or_iff_right other
  case right =>
    intro header identity named
    obtain ⟨org, kind, raw⟩ := of_ofHeader_ok named
    refine ⟨org, kind, ?_⟩
    rw [raw, ofHeader_trim]
    exact named

/-- A caller without an account, and a header with blanks around it. -/
theorem header_round_trip_plain :
    (∃ identity, ofHeader (encode "000000" "" "") = .ok identity ∧
      identity.isEntitled "rhel" = true ∧ ¬ identity.isEntitled "ansible" = true) ∧
    ∃ identity, ofHeader " eyJpZGVudGl0eSI6eyJvcmdfaWQiOiIwMDAwMDAifX0= " = .ok identity ∧
      identity.org = "000000" ∧ ofHeader identity.raw = .ok identity := by
  have absent : ("000000" : String) ≠ "" := by decide
  obtain ⟨first, read, -, -, -, -, -, rhel, others⟩ :=
    header_round_trip.1 "000000" "" "" absent
  have ansible := others "ansible" (by decide)
  have named : ofHeader " eyJpZGVudGl0eSI6eyJvcmdfaWQiOiIwMDAwMDAifX0= " =
      .ok ⟨"000000", "", "", "", [], "eyJpZGVudGl0eSI6eyJvcmdfaWQiOiIwMDAwMDAifX0="⟩ := by
    decide +kernel
  have again := header_round_trip.2 _ _ named
  exact ⟨⟨first, read, rhel, fun held => ansible.mp held rfl⟩, _, named, rfl, again.2.2⟩

end Identity

end ComposeDesk
