import ComposeDesk.Proofs.Client.Addresses
import ComposeDesk.Proofs.Client.Exchanges

/-!
# Where sources are looked up

A source is put into an address as it was given.  The request stays at the place that
is meant for the source exactly if the source means nothing else in an address: it has
no slashes, marks or ignored characters, no escapes, and is no step.
-/

namespace ComposeDesk

/-- A text that means nothing else in an address than itself. -/
structure Contained (cs : List Char) : Prop where
  unsplit : ∀ c ∈ cs, Url.isSlash c = false
  unmarked : ∀ c ∈ cs, c ≠ '?' ∧ c ≠ '#'
  kept : ∀ c ∈ cs, Url.isIgnored c = false
  unescaped : Percent.hasEscape cs = false
  not_here : cs ≠ ['.']
  not_up : cs ≠ ['.', '.']

def infoName : List Char := "upload_info".toList

theorem infoName_plain : ∀ c ∈ infoName, Url.isSlash c = false := by
  unfold infoName
  simp [Url.isSlash]

theorem infoName_solid : ∀ c ∈ infoName, ServiceAddress.Solid c := by
  unfold infoName
  simp [ServiceAddress.Solid]

theorem sources_plain : ∀ c ∈ "sources".toList, Url.isSlash c = false := by
  simp [Url.isSlash]

def sourcePath (source : String) : String := "sources/" ++ source ++ "/upload_info"

theorem toList_sourcePath (source : String) :
    (sourcePath source).toList = "sources".toList ++ '/' :: (source.toList ++ '/' :: infoName) := by
  rw [sourcePath, String.toList_append, String.toList_append, List.append_assoc]
  rfl

namespace Contained

variable {cs : List Char}

/-- A contained text is no step. -/
theorem isName (contained : Contained cs) : Url.isName cs = true := by
  have plain := Url.dotted_plain contained.unescaped
  rw [Url.isName, Url.isUp, Url.isHere, plain, beq_eq_false_iff_ne.mpr contained.not_up,
    beq_eq_false_iff_ne.mpr contained.not_here]
  rfl

/-- A text that has a segment which is no step and is decoded as the text is contained. -/
theorem of_segment {segment : List Char}
    (given : segment ∈ Text.split Url.isSlash (ServiceAddress.pathPart cs))
    (name : Url.isName segment = true)
    (same : Percent.decode (Percent.bytes (Percent.encode Url.pathKeeps segment)) =
      Percent.bytes cs) : Contained cs := by
  have inside : (ServiceAddress.pathPart cs).Sublist cs :=
    ((List.takeWhile_sublist _).trans (List.takeWhile_sublist _)).trans List.filter_sublist
  rw [Percent.encode, Percent.writes_path.decode_flatMap] at same
  obtain ⟨whole, unescaped⟩ :=
    Percent.eq_of_decode_part ((Text.split_sublist given).trans inside) same
  subst whole
  have free := Text.split_free given
  have held : ∀ c ∈ segment, c ∈ ServiceAddress.pathPart segment := fun c member =>
    (Text.split_sublist given).subset member
  refine ⟨free, fun c member => ?_, fun c member => ?_, unescaped, ?_, ?_⟩
  · have before := List.all_eq_true.mp List.all_takeWhile c (held c member)
    have after := List.all_eq_true.mp List.all_takeWhile c
      ((List.takeWhile_sublist _).subset (held c member))
    exact ⟨of_decide_eq_true before, of_decide_eq_true after⟩
  · have kept := ((List.takeWhile_sublist _).trans (List.takeWhile_sublist _)).subset
      (held c member)
    simpa using (List.mem_filter.mp kept).2
  · rintro rfl
    exact absurd name (by decide)
  · rintro rfl
    exact absurd name (by decide)

end Contained

section Segments

open ServiceAddress

variable (source : String)

theorem takeWhile_append_cases {keeps : Char → Bool} (cs rest : List Char) :
    (cs.takeWhile keeps = cs ∧ (cs ++ rest).takeWhile keeps = cs ++ rest.takeWhile keeps) ∨
      (cs ++ rest).takeWhile keeps = cs.takeWhile keeps := by
  rw [List.takeWhile_append]
  split_ifs with whole
  · exact Or.inl ⟨(List.takeWhile_sublist _).eq_of_length whole, rfl⟩
  · exact Or.inr rfl

/-- What follows a source is part of the path, unless a mark of the source ends that. -/
theorem pathPart_append (cs : List Char) :
    pathPart (cs ++ '/' :: infoName) = pathPart cs ++ '/' :: infoName ∨
      pathPart (cs ++ '/' :: infoName) = pathPart cs := by
  have rest : ('/' :: infoName).filter (!Url.isIgnored ·) = '/' :: infoName := by decide
  have hash : ('/' :: infoName).takeWhile (· ≠ '#') = '/' :: infoName := by decide
  have question : ('/' :: infoName).takeWhile (· ≠ '?') = '/' :: infoName := by decide
  rw [pathPart, pathPart, List.filter_append, rest]
  generalize cs.filter (!Url.isIgnored ·) = given
  rcases takeWhile_append_cases given ('/' :: infoName) with ⟨kept, whole⟩ | cut
  · rw [whole, kept, hash]
    rcases takeWhile_append_cases given ('/' :: infoName) with ⟨kept, whole⟩ | cut
    · rw [whole, kept, question]
      exact Or.inl rfl
    · rw [cut]
      exact Or.inr rfl
  · rw [cut]
    exact Or.inr rfl

theorem pathPart_sourcePath :
    pathPart (sourcePath source).toList =
      "sources".toList ++ '/' :: pathPart (source.toList ++ '/' :: infoName) := by
  rw [toList_sourcePath]
  rfl

theorem queryPart_sourcePath :
    queryPart (sourcePath source).toList = queryPart (source.toList ++ '/' :: infoName) := by
  rw [toList_sourcePath]
  rfl

/-- All segments but the first and the last one are those of the source. -/
theorem split_sourcePath :
    ∃ segments last, Text.split Url.isSlash (pathPart (sourcePath source).toList) =
        "sources".toList :: (segments ++ [last]) ∧
      ∀ segment ∈ segments, segment ∈ Text.split Url.isSlash (pathPart source.toList) := by
  have slash : Url.isSlash '/' = true := by decide
  rw [pathPart_sourcePath, Text.split_append sources_plain slash]
  rcases pathPart_append source.toList with whole | cut
  · rw [whole, Text.split_between slash, Text.split_whole infoName_plain]
    exact ⟨_, _, rfl, fun _ => id⟩
  · obtain ⟨segments, last, parts⟩ := (List.eq_nil_or_concat (Text.split Url.isSlash
      (pathPart source.toList))).resolve_left (Text.split_ne_nil _)
    rw [cut, parts, List.concat_eq_append]
    exact ⟨segments, last, rfl, fun segment member => List.mem_append_left _ member⟩

variable {source}

/-- The address of a contained source has it as a segment, and no query. -/
theorem Contained.split_sourcePath (contained : Contained source.toList) :
    Text.split Url.isSlash (pathPart (sourcePath source).toList) =
        ["sources".toList, source.toList, infoName] ∧
      queryPart (sourcePath source).toList = [] := by
  have slash : Url.isSlash '/' = true := by decide
  have plain : ∀ c ∈ source.toList ++ '/' :: infoName,
      Url.isIgnored c = false ∧ c ≠ '?' ∧ c ≠ '#' := by
    rw [List.forall_mem_append, List.forall_mem_cons]
    refine ⟨fun c member => ⟨contained.kept c member, contained.unmarked c member⟩, by decide, ?_⟩
    exact fun c member => ⟨(infoName_solid c member).isIgnored, (infoName_solid c member).2⟩
  have kept : (source.toList ++ '/' :: infoName).filter (!Url.isIgnored ·) =
      source.toList ++ '/' :: infoName :=
    List.filter_eq_self.mpr fun c member => by rw [(plain c member).1]; rfl
  have uncut : (source.toList ++ '/' :: infoName).takeWhile (· ≠ '#') =
      source.toList ++ '/' :: infoName :=
    List.takeWhile_eq_self_iff.mpr fun c member => decide_eq_true (plain c member).2.2
  have unasked : (source.toList ++ '/' :: infoName).takeWhile (· ≠ '?') =
      source.toList ++ '/' :: infoName :=
    List.takeWhile_eq_self_iff.mpr fun c member => decide_eq_true (plain c member).2.1
  constructor
  · rw [pathPart_sourcePath, Text.split_append sources_plain slash, pathPart, kept, uncut,
      unasked, Text.split_append contained.unsplit slash, Text.split_whole infoName_plain]
  · rw [queryPart_sourcePath, queryPart, kept, uncut]
    exact List.dropWhile_eq_nil_iff.mpr fun c member => decide_eq_true (plain c member).2.1

end Segments

/-! ## The place of a source -/

/-- An address at the place that a service has for a source: below its path, the segment
for sources, one that is decoded as the source, and the one for what is known of it. -/
structure Url.IsPlaceOf (url : Url) (base : ServiceAddress) (source : String) : Prop where
  origin : url.origin = base.origin
  query : url.query = none
  path : ∃ name, url.path = String.ofList
      (Url.joined (base.segments ++ ["sources".toList, name, infoName])) ∧
    (∀ c ∈ name, c ≠ '/') ∧
    Percent.decode (Utf8.encode (String.ofList name)) = Utf8.encode source

namespace ServiceAddress

variable (base : ServiceAddress) {source : String}

/-- The segments of the address are written as they are. -/
theorem map_encode_segments :
    base.segments.map (Percent.encode Url.pathKeeps) = base.segments := by
  have same := List.map_congr_left fun segment member =>
    (Percent.encode_kept fun c held => (base.plain segment member c held).1 :
      Percent.encode Url.pathKeeps segment = id segment)
  exact same.trans (List.map_id base.segments)

/-- The path that is read for a source. -/
def placed (source : String) : List (List Char) :=
  Url.resolve [] (base.segments ++
    Text.split Url.isSlash (pathPart (sourcePath source).toList))

/-- A contained source is a segment of the path. -/
theorem placed_contained (contained : Contained source.toList) :
    (base.placed source).map (Percent.encode Url.pathKeeps) =
      base.segments ++ ["sources".toList, Percent.encode Url.pathKeeps source.toList,
        infoName] := by
  have names : ∀ segment ∈ base.segments ++ ["sources".toList, source.toList],
      Url.isName segment = true := by
    rw [List.forall_mem_append]
    refine ⟨base.names, List.forall_mem_cons.mpr ⟨by decide, ?_⟩⟩
    exact List.forall_mem_cons.mpr ⟨contained.isName, List.forall_mem_nil _⟩
  have cut : base.segments ++ ["sources".toList, source.toList, infoName] =
      (base.segments ++ ["sources".toList, source.toList]) ++ [infoName] := by
    rw [List.append_assoc]
    rfl
  rw [placed, contained.split_sourcePath.1, cut, Url.resolve_walk, Url.walk_names names,
    Url.arrive_name (by decide), List.nil_append, ← cut, List.map_append, map_encode_segments]
  rfl

/-- A path at the place of a source has a segment of the source, no step, below the
segment for sources. -/
theorem placed_place {name : List Char}
    (same : (base.placed source).map (Percent.encode Url.pathKeeps) =
      base.segments ++ ["sources".toList, name, infoName]) :
    ∃ segment ∈ Text.split Url.isSlash (pathPart source.toList),
      Url.isName segment = true ∧ Percent.encode Url.pathKeeps segment = name := by
  obtain ⟨segments, last, parts, given⟩ := split_sourcePath source
  have cut : base.segments ++ "sources".toList :: (segments ++ [last]) =
      (base.segments ++ ["sources".toList] ++ segments) ++ [last] := by
    simp only [List.append_assoc, List.cons_append, List.nil_append]
  rw [placed, parts, cut, Url.resolve_walk] at same
  obtain ⟨front, back, arrived, reached, -⟩ :=
    Url.arrive_cases (Url.walk [] (base.segments ++ ["sources".toList] ++ segments)) last
  have tail : base.segments ++ ["sources".toList, name, infoName] =
      ((base.segments ++ ["sources".toList]) ++ [name]) ++ [infoName] := by
    simp only [List.append_assoc, List.cons_append, List.nil_append]
  rw [arrived, List.map_append, tail] at same
  have above := (List.append_inj' same rfl).1
  have below := congrArg (List.drop (base.segments ++ ["sources".toList]).length) above
  rw [← List.map_drop, List.drop_left] at below
  obtain ⟨segment, alone, written⟩ := List.map_eq_singleton_iff.mp below
  have stands : segment ∈ (Url.walk [] (base.segments ++ ["sources".toList] ++ segments)).drop
      (base.segments ++ ["sources".toList]).length := by
    have held : segment ∈ front.drop (base.segments ++ ["sources".toList]).length := by
      rw [alone]
      exact List.mem_singleton_self segment
    rcases reached with rfl | rfl
    · exact held
    · exact Url.drop_up held
  have names : ∀ segment ∈ base.segments ++ ["sources".toList], Url.isName segment = true := by
    rw [List.forall_mem_append]
    exact ⟨base.names, List.forall_mem_cons.mpr ⟨by decide, List.forall_mem_nil _⟩⟩
  rw [Url.walk_append, Url.walk_names names, List.nil_append] at stands
  rcases Url.drop_walk stands with stood | ⟨new, named⟩
  · rw [List.drop_length] at stood
    cases stood
  · exact ⟨segment, given segment new, named, written⟩

/-- No segment that is placed has a slash. -/
theorem placed_free : ∀ segment ∈ (base.placed source).map (Percent.encode Url.pathKeeps),
    ∀ c ∈ segment, c ≠ '/' := by
  intro written member
  obtain ⟨segment, held, rfl⟩ := List.mem_map.mp member
  refine Percent.encode_free fun c inside => ?_
  rcases Url.mem_resolve held with none | given | rfl
  · cases none
  · rcases List.mem_append.mp given with stands | asked
    · exact Url.ne_slash (base.plain segment stands c inside).2
    · exact Url.ne_slash (Text.split_free asked c inside)
  · cases inside

/-- A request for a source is at the place of the source exactly if the source is
contained. -/
theorem isPlaceOf_iff {query : Option String}
    (asked : query = none ↔ queryPart (sourcePath source).toList = []) :
    (⟨base.origin, Url.readPath (Url.joined base.segments ++
        '/' :: pathPart (sourcePath source).toList), query⟩ : Url).IsPlaceOf base source ↔
      Contained source.toList := by
  rw [readPath_below]
  constructor
  · rintro ⟨-, -, name, same, free, decoded⟩
    have others : ∀ segment ∈ base.segments ++ ["sources".toList, name, infoName],
        ∀ c ∈ segment, c ≠ '/' := by
      rw [List.forall_mem_append]
      constructor
      · exact fun segment member c held => Url.ne_slash (base.plain segment member c held).2
      · refine List.forall_mem_cons.mpr ⟨fun c held => Url.ne_slash (sources_plain c held), ?_⟩
        refine List.forall_mem_cons.mpr ⟨free, List.forall_mem_singleton.mpr ?_⟩
        exact fun c held => Url.ne_slash (infoName_plain c held)
    have alike := Url.joined_injective base.placed_free others (String.ofList_injective same)
    obtain ⟨segment, given, named, rfl⟩ := base.placed_place alike
    refine Contained.of_segment given named ?_
    rw [← Percent.encode_ofList, decoded, Utf8.encode_eq, Percent.bytes]
  · intro contained
    refine ⟨rfl, asked.mpr contained.split_sourcePath.2,
      Percent.encode Url.pathKeeps source.toList, ?_, ?_, ?_⟩
    · exact congrArg (fun segments => String.ofList (Url.joined segments))
        (base.placed_contained contained)
    · exact Percent.encode_free fun c member => Url.ne_slash (contained.unsplit c member)
    · rw [Percent.encode_ofList, Percent.encode, Percent.writes_path.decode_flatMap,
        (Percent.decode_bytes_iff _).mpr contained.unescaped, Utf8.encode_eq, Percent.bytes]

/-- The address of a source is read as a place below the service. -/
theorem ofText?_sourcePath (source : String) :
    ∃ url, Url.ofText? (Url.join base.text (sourcePath source)) = some url ∧
      (url.IsPlaceOf base source ↔ Contained source.toList) := by
  have starts : (sourcePath source).toList =
      's' :: ("ources".toList ++ '/' :: (source.toList ++ '/' :: infoName)) := by
    rw [toList_sourcePath]
    rfl
  have ends : (sourcePath source).toList =
      ("sources".toList ++ '/' :: (source.toList ++ '/' :: "upload_inf".toList)) ++ ['o'] := by
    have last : infoName = "upload_inf".toList ++ ['o'] := rfl
    rw [toList_sourcePath, last, List.append_assoc, List.cons_append, List.append_assoc,
      List.cons_append]
  have named : 's' ≠ '/' := by decide
  have closed : Url.isEdge 'o' = false := by decide
  obtain ⟨query, parsed, asked⟩ := base.ofText?_below starts named ends closed
  rw [String.ofList_toList] at parsed
  exact ⟨_, parsed, base.isPlaceOf_iff asked⟩

end ServiceAddress

namespace Link

variable {ν : Type} (link : Link ν)

/-- What a reply is read as does not touch the network. -/
theorem outcome_fetch_state {α : Type} (method : Method) (address : String) (caller : Identity)
    (body : Body) (codec : Codec α) (state : Booked ν) :
    (outcome (link.booked.fetch method address [] caller body codec) state).2 =
      (outcome (link.booked.request method address [] (some caller.raw) none body) state).2 := by
  rw [fetch, outcome_bind]
  rcases outcome (link.booked.request method address [] (some caller.raw) none body) state
    with ⟨fault | reply, left⟩
  · rfl
  · dsimp only
    split_ifs
    · cases decoded : reply.decode codec <;> rfl
    · rfl

/-- Whatever the network answers, a source is asked for in one request, on behalf of the
caller.  It goes to the place of the source exactly if the source is contained. -/
theorem uploadInfo_place (base : ServiceAddress) (caller : Identity) (source : String)
    (state : Booked ν) :
    ∃ url : Url,
      (outcome (link.booked.uploadInfo base.text caller source) state).2.book.map (·.request) =
        state.book.map (·.request) ++
          (if isHeaderValue caller.raw then [⟨.get, url, some caller.raw, none, .none⟩] else []) ∧
      (url.IsPlaceOf base source ↔ Contained source.toList) := by
  obtain ⟨url, parsed, place⟩ := base.ofText?_sourcePath source
  refine ⟨url, ?_, place⟩
  rw [uploadInfo, outcome_fetch_state]
  split_ifs with headers
  · rcases answered : (link.send ⟨.get, url, some caller.raw, none, .none⟩).run state.world
      with ⟨reply, world⟩
    have sendable := (headers_of_caller caller).trans headers
    rw [← sourcePath, outcome_request parsed sendable answered, List.map_append]
    rfl
  · have unsendable := (headers_of_caller caller).trans (Bool.eq_false_iff.mpr headers)
    rw [outcome_request_unsent (Or.inr unsendable), List.append_nil]

end Link

namespace ServiceAddress

def provisioning : ServiceAddress where
  scheme := "http".toList
  host := "provisioning:8001".toList
  segments := ["v1".toList]
  slashes := 1
  known := Or.inl (by decide)
  hosted := by decide
  plainHost := by simp [hostKeeps]
  filled := by decide
  plain := by simp [Url.pathKeeps, Url.isSlash]
  names := by decide

end ServiceAddress

/-- A source with a step leads to another place of the host. -/
theorem Link.uploadInfo_strays :
    ∃ url : Url,
      (outcome (Script.noLink.booked.uploadInfo ServiceAddress.provisioning.text
          ⟨"42", "7", "", "User", [], "e30="⟩ "../admin") ⟨ScriptState.start, []⟩).2.book.map
        (·.request) = [⟨.get, url, some "e30=", none, .none⟩] ∧
      url.path = "/v1/admin/upload_info" ∧
      ¬ url.IsPlaceOf ServiceAddress.provisioning "../admin" := by
  refine ⟨⟨"http://provisioning:8001", "/v1/admin/upload_info", none⟩, ?_, rfl, ?_⟩
  · rfl
  · rintro ⟨-, -, name, same, -⟩
    have letters := congrArg (fun text => text.toList[4]?) same
    simp [ServiceAddress.provisioning, Url.joined] at letters

end ComposeDesk
