import ComposeDesk.Proofs.Base64.Canonical
import ComposeDesk.Proofs.Customized
import ComposeDesk.Proofs.Text.Utf8

/-!
# Contents of files

A file goes out with the bytes that its caller specified if these are the bytes of a text.
Contents are sent as text, so other bytes do not arrive: what takes their place is a text
with replacement characters.  Data that is said to be Base64 and is not is refused, and the
refusal names the file.
-/

namespace ComposeDesk

namespace Utf8

/-- Some bytes are the bytes of a text. -/
def IsText (bytes : List UInt8) : Prop :=
  ∃ text, encode text = bytes

/-- Reading with replacements keeps the bytes exactly if they are those of a text. -/
theorem encode_lossy_iff {bytes : List UInt8} : encode (lossy bytes) = bytes ↔ IsText bytes := by
  constructor
  · intro kept
    exact ⟨lossy bytes, kept⟩
  · rintro ⟨text, rfl⟩
    rw [lossy_encode]

end Utf8

namespace File

/-- The content that a caller specifies: none without data, the decoded bytes of data that
is Base64, and the bytes of any other data. -/
inductive Specifies (file : File) : Option (List UInt8) → Prop where
  | nothing (absent : file.data = none) : Specifies file none
  | plain {data : String} (given : file.data = some data)
      (uncoded : file.dataEncoding ≠ some "base64") : Specifies file (some (Utf8.encode data))
  | decoded {data : String} {bytes : List UInt8} (given : file.data = some data)
      (coded : file.dataEncoding = some "base64")
      (written : Utf8.encode data = Base64.encode bytes) : Specifies file (some bytes)

/-- The data of a file is said to be Base64 and is not: no bytes are written like that. -/
structure Garbled (file : File) : Prop where
  coded : file.dataEncoding = some "base64"
  unwritten : ∃ data, file.data = some data ∧ ∀ bytes, Utf8.encode data ≠ Base64.encode bytes

/-- A garbled file specifies nothing that could be sent. -/
theorem Garbled.not_specifies {file : File} (garbled : file.Garbled)
    (content : Option (List UInt8)) : ¬ file.Specifies content := by
  obtain ⟨coded, data, held, unwritten⟩ := garbled
  intro specified
  cases specified with
  | nothing absent =>
      rw [held] at absent
      cases absent
  | plain _ uncoded => exact uncoded coded
  | decoded given _ written =>
      rw [held] at given
      cases given
      exact unwritten _ written

end File

namespace Customize

/-- Data that is not Base64 goes out as it is. -/
theorem fileData_uncoded {given : File} (uncoded : given.dataEncoding ≠ some "base64") :
    fileData given = .ok given.data := by
  unfold fileData
  cases given.data with
  | none => rfl
  | some data =>
      cases said : given.dataEncoding with
      | none => rfl
      | some encoding =>
          have other : encoding ≠ "base64" := by
            intro same
            rw [said, same] at uncoded
            exact uncoded rfl
          simp only [if_neg other]

/-- A file specifies a content, which goes out as a text, or it is garbled and refused by its
path. -/
theorem fileData_cases (given : File) :
    (∃ content, given.Specifies content ∧ fileData given = .ok (content.map Utf8.lossy)) ∨
      given.Garbled ∧ fileData given = .error (.invalidFileData given.path) := by
  cases held : given.data with
  | none =>
      refine .inl ⟨none, .nothing held, ?_⟩
      simp only [fileData, held, Option.map_none]
  | some data =>
      by_cases coded : given.dataEncoding = some "base64"
      · cases decoded : Base64.decode (Utf8.encode data) with
        | ok bytes =>
            refine .inl ⟨some bytes, .decoded held coded (Base64.decode_ok_iff.mp decoded), ?_⟩
            simp only [fileData, held, coded, if_true, decoded, Option.map_some]
        | error fault =>
            refine .inr ⟨⟨coded, data, held, ?_⟩, ?_⟩
            · intro bytes written
              rw [Base64.decode_ok_iff.mpr written] at decoded
              cases decoded
            · simp only [fileData, held, coded, if_true, decoded]
      · refine .inl ⟨some (Utf8.encode data), .plain held coded, ?_⟩
        rw [fileData_uncoded coded, held, Option.map_some, Utf8.lossy_encode]

/-- The text that goes out is that of the specified content. -/
theorem specifies_of_fileData {given : File} {data : Option String}
    (read : fileData given = .ok data) :
    ∃ content, given.Specifies content ∧ data = content.map Utf8.lossy := by
  rcases fileData_cases given with ⟨content, specified, sent⟩ | ⟨-, refused⟩
  · rw [sent] at read
    cases read
    exact ⟨content, specified, rfl⟩
  · rw [refused] at read
    cases read

/-- Only data that should be Base64 and is not is refused, by the path of its file. -/
theorem fileData_error_iff {given : File} {fault : CustomizationFault} :
    fileData given = .error fault ↔ given.Garbled ∧ fault = .invalidFileData given.path := by
  rcases fileData_cases given with ⟨content, specified, sent⟩ | ⟨garbled, refused⟩
  · rw [sent]
    constructor
    · intro failed
      cases failed
    · rintro ⟨garbled, -⟩
      exact absurd specified (garbled.not_specifies content)
  · rw [refused]
    constructor
    · intro told
      cases told
      exact ⟨garbled, rfl⟩
    · rintro ⟨-, rfl⟩
      rfl

/-- What arrives of a file: its content as text, which has the specified bytes exactly if
these are the bytes of a text. -/
structure Arrives (given : File) (sent : Build.File) : Prop extends SentFile given sent where
  plain : given.dataEncoding ≠ some "base64" → sent.data = given.data
  content : ∃ content, given.Specifies content ∧ sent.data = content.map Utf8.lossy ∧
    (sent.data.map Utf8.encode = content ↔ ∀ bytes ∈ content, Utf8.IsText bytes)

/-- Content keeps its bytes as text exactly if it is one. -/
theorem map_encode_lossy_iff (content : Option (List UInt8)) :
    (content.map Utf8.lossy).map Utf8.encode = content ↔
      ∀ bytes ∈ content, Utf8.IsText bytes := by
  cases content with
  | none =>
      constructor
      · exact fun _ _ held => nomatch held
      · exact fun _ => rfl
  | some bytes =>
      rw [Option.map_some, Option.map_some, Option.some_inj, Utf8.encode_lossy_iff]
      constructor
      · intro text other held
        cases held
        exact text
      · intro all
        exact all bytes rfl

theorem arrives_of_file {given : File} {sent : Build.File} (read : file given = .ok sent) :
    Arrives given sent := by
  have kept := sentFile read
  obtain ⟨content, specified, same⟩ := specifies_of_fileData kept.data
  constructor
  case toSentFile => exact kept
  case plain =>
    intro uncoded
    have told := kept.data
    rw [fileData_uncoded uncoded] at told
    exact (Except.ok.inj told).symm
  case content =>
    refine ⟨content, specified, same, ?_⟩
    rw [same]
    exact map_encode_lossy_iff content

def RefusesFile (given : File) (fault : CustomizationFault) : Prop :=
  given.Garbled ∧ fault = .invalidFileData given.path

theorem file_error_iff {given : File} {fault : CustomizationFault} :
    file given = .error fault ↔ RefusesFile given fault := by
  rw [RefusesFile, ← fileData_error_iff, file]
  cases fileData given with
  | ok data =>
      constructor
      · intro failed
        cases failed
      · intro failed
        cases failed
  | error told => simp only [Except.error.injEq]

/-- The files of a caller arrive one by one, in their order, or the first one whose data
should be Base64 and is not tells the fault.  The bytes of what arrives are those that were
specified, wherever these are the bytes of a text. -/
theorem contents_arrive (files : List File) :
    ∃ result, givenFiles (some files) = result.map some ∧
      Traversed Arrives RefusesFile files result := by
  refine ⟨files.mapM file, rfl, ?_⟩
  apply traversed_mapM
  · exact fun _ _ => arrives_of_file
  · exact fun _ _ => file_error_iff

/-- A byte that starts no character is specified, and three others arrive. -/
theorem binary_replaced :
    let given : File := ⟨"/etc/key", none, none, none, some "/w==", some "base64", none⟩
    given.Specifies (some [255]) ∧
      ∃ sent, givenFiles (some [given]) = .ok (some [sent]) ∧
        sent.data.map Utf8.encode = some [239, 191, 189] := by
  intro given
  have written : Utf8.encode "/w==" = Base64.encode [255] := by decide +kernel
  constructor
  · exact .decoded rfl rfl written
  · refine ⟨⟨"/etc/key", none, none, none, some "\uFFFD", none⟩, ?_, by decide +kernel⟩
    have read : fileData given = .ok (some "\uFFFD") := by decide +kernel
    exact givenFiles_ok_iff.mpr (.some (.cons (by rw [file, read]) .nil))

end Customize

end ComposeDesk
