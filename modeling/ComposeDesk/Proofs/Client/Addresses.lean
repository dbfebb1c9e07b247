import ComposeDesk.Client.Script
import ComposeDesk.Proofs.Repositories.Ordered
import ComposeDesk.Proofs.Url.Steps
import Mathlib.Data.List.TakeWhile

/-!
# Addresses of services

The address of a service has a scheme, a host and plain segments.  What is joined to it is
read as a path below these segments, and what that path means is told by its characters.
-/

namespace ComposeDesk

def hostKeeps (c : Char) : Bool :=
  c.isAlphanum || c == '.' || c == '-' || c == '_' || c == ':' || c == '[' || c == ']'

/-- The address of a service with a plain path. -/
structure ServiceAddress where
  scheme : List Char
  host : List Char
  segments : List (List Char)
  /-- How many slashes end the address. -/
  slashes : Nat
  known : scheme.map Char.toLower = "http".toList ∨ scheme.map Char.toLower = "https".toList
  hosted : host ≠ []
  plainHost : ∀ c ∈ host, hostKeeps c = true
  filled : ∀ segment ∈ segments, segment ≠ []
  plain : ∀ segment ∈ segments, ∀ c ∈ segment, Url.pathKeeps c = true ∧ Url.isSlash c = false
  names : ∀ segment ∈ segments, Url.isName segment = true

namespace ServiceAddress

variable (base : ServiceAddress)

/-- What stands before the slashes at the end. -/
def front : List Char :=
  base.scheme ++ ':' :: '/' :: '/' :: (base.host ++ Url.joined base.segments)

def text : String :=
  String.ofList (base.front ++ List.replicate base.slashes '/')

def origin : String :=
  String.ofList (base.scheme.map Char.toLower ++ "://".toList) ++ String.ofList base.host

/-- A capital or what follows the capitals. -/
theorem scheme_letter : ∀ c ∈ base.scheme, 65 ≤ c.toNat := by
  intro c member
  by_contra low
  have same : c.toLower = c := by
    refine dif_neg ?_
    rintro ⟨capital, -⟩
    have bound : 65 ≤ c.toNat := capital
    omega
  have held : c ∈ base.scheme.map Char.toLower := by
    rw [← same]
    exact List.mem_map_of_mem member
  have letters : ∀ d ∈ "http".toList ++ "https".toList, 65 ≤ d.toNat := by simp
  rcases base.known with plain | secure
  · rw [plain] at held
    exact low (letters c (List.mem_append_left _ held))
  · rw [secure] at held
    exact low (letters c (List.mem_append_right _ held))

theorem scheme_ne_nil : base.scheme ≠ [] := by
  intro none
  rcases base.known with plain | secure
  · rw [none] at plain
    cases plain
  · rw [none] at secure
    cases secure

/-- A character that stands where it is: it is no blank, control character or mark. -/
def Solid (c : Char) : Prop := 32 < c.toNat ∧ c ≠ '?' ∧ c ≠ '#'

theorem Solid.isEdge {c : Char} (solid : Solid c) : Url.isEdge c = false :=
  decide_eq_false (Nat.not_le.mpr solid.1)

theorem Solid.isIgnored {c : Char} (solid : Solid c) : Url.isIgnored c = false := by
  have none (d : Char) (low : d.toNat ≤ 32) : (c == d) = false := by
    refine beq_eq_false_iff_ne.mpr ?_
    rintro rfl
    exact absurd solid.1 (Nat.not_lt.mpr low)
  rw [Url.isIgnored, none '\t' (by decide), none '\n' (by decide), none '\r' (by decide)]
  rfl

theorem solid_of_high {c : Char} (high : 65 ≤ c.toNat) : Solid c := by
  have other (d : Char) (low : d.toNat < 65) : c ≠ d := by
    rintro rfl
    omega
  exact ⟨by omega, other '?' (by decide), other '#' (by decide)⟩

/-- A character that is kept is none that is not. -/
theorem ne_of_kept {keep : Char → Bool} {c d : Char} (kept : keep c = true)
    (dropped : keep d = false) : c ≠ d := by
  rintro rfl
  rw [kept] at dropped
  cases dropped

theorem solid_of_host {c : Char} (kept : hostKeeps c = true) :
    Solid c ∧ Url.isSlash c = false := by
  have low : 32 < c.toNat := by
    by_contra low
    have table : ∀ n < 33, hostKeeps (Char.ofNat n) = false := by decide
    have none := table c.toNat (by omega)
    rw [Char.ofNat_toNat, kept] at none
    cases none
  constructor
  · exact ⟨low, ne_of_kept kept (by decide), ne_of_kept kept (by decide)⟩
  · have slash : c ≠ '/' := ne_of_kept kept (by decide)
    have backslash : c ≠ '\\' := ne_of_kept kept (by decide)
    rw [Url.isSlash, beq_eq_false_iff_ne.mpr slash, beq_eq_false_iff_ne.mpr backslash]
    rfl

theorem solid_of_path {c : Char} (kept : Url.pathKeeps c = true) : Solid c := by
  have low : 32 < c.toNat := by
    simp only [Url.pathKeeps, Bool.and_eq_true, decide_eq_true_eq] at kept
    exact kept.1.1
  exact ⟨low, ne_of_kept kept (by decide), ne_of_kept kept (by decide)⟩

theorem solid_joined : ∀ c ∈ Url.joined base.segments, Solid c := by
  intro c member
  obtain ⟨segment, held, inside⟩ := List.mem_flatMap.mp member
  rcases List.mem_cons.mp inside with rfl | inner
  · exact solid_of_path (by decide)
  · exact solid_of_path (base.plain segment held c inner).1

theorem solid_front : ∀ c ∈ base.front, Solid c := by
  intro c member
  simp only [front, List.mem_append, List.mem_cons] at member
  rcases member with letter | rfl | rfl | rfl | host | path
  · exact solid_of_high (base.scheme_letter c letter)
  · exact solid_of_path (by decide)
  · exact solid_of_path (by decide)
  · exact solid_of_path (by decide)
  · exact (solid_of_host (base.plainHost c host)).1
  · exact base.solid_joined c path

/-- What stands before the slashes at the end does not end with one. -/
theorem front_end : ∃ before last, base.front = before ++ [last] ∧ last ≠ '/' := by
  rcases base.segments.eq_nil_or_concat with none | ⟨others, segment, some⟩
  · obtain ⟨before, last, hosted⟩ := (List.eq_nil_or_concat base.host).resolve_left base.hosted
    refine ⟨base.scheme ++ ':' :: '/' :: '/' :: before, last, ?_,
      Url.ne_slash (solid_of_host (base.plainHost last ?_)).2⟩
    · simp [front, none, hosted, Url.joined]
    · simp [hosted]
  · have held : segment ∈ base.segments := by simp [some]
    obtain ⟨before, last, filled⟩ :=
      (List.eq_nil_or_concat segment).resolve_left (base.filled segment held)
    refine ⟨base.scheme ++ ':' :: '/' :: '/' ::
      (base.host ++ Url.joined others ++ '/' :: before), last, ?_,
      Url.ne_slash (base.plain segment held last ?_).2⟩
    · simp [front, some, filled, Url.joined]
    · simp [filled]

/-- One slash stands between the address and what is below it. -/
theorem join_below {path : List Char} {first : Char} {rest : List Char}
    (start : path = first :: rest) (named : first ≠ '/') :
    Url.join base.text (String.ofList path) = String.ofList (base.front ++ '/' :: path) := by
  obtain ⟨before, last, ends, other⟩ := base.front_end
  have kept : ((base.front ++ List.replicate base.slashes '/').reverse.dropWhile
      (· == '/')).reverse = base.front := by
    rw [Repositories.dropWhile_reverse_append, ends, List.reverse_append, List.reverse_singleton,
      List.singleton_append, List.dropWhile_cons_of_neg (by simpa using other),
      List.reverse_cons, List.reverse_reverse]
  rw [Url.join, text, String.toList_ofList, String.toList_ofList, kept, start,
    List.dropWhile_cons_of_neg (by simpa using named)]

/-- Nothing is trimmed from a text whose ends are no edges. -/
theorem trimmed_whole {cs middle before : List Char} {first last : Char}
    (start : cs = first :: middle) (ends : cs = before ++ [last])
    (opened : Url.isEdge first = false) (closed : Url.isEdge last = false) :
    ((cs.dropWhile Url.isEdge).reverse.dropWhile Url.isEdge).reverse = cs := by
  have kept : cs.dropWhile Url.isEdge = cs := by
    rw [start, List.dropWhile_cons_of_neg (by simpa using opened)]
  rw [kept, ends, List.reverse_append, List.reverse_singleton, List.singleton_append,
    List.dropWhile_cons_of_neg (by simpa using closed), List.reverse_cons, List.reverse_reverse]

/-- The scheme is read, and what follows its slashes. -/
theorem afterScheme?_front (rest : List Char) :
    Url.afterScheme? (base.front ++ rest) =
      some (String.ofList (base.scheme.map Char.toLower ++ "://".toList),
        base.host ++ (Url.joined base.segments ++ rest)) := by
  have letters : ∀ c ∈ base.scheme, decide (c ≠ ':') = true := by
    intro c member
    refine decide_eq_true ?_
    rintro rfl
    exact absurd (base.scheme_letter ':' member) (by decide)
  have stop : decide (':' ≠ ':') = false := by decide
  obtain ⟨first, more, hosted⟩ := List.exists_cons_of_ne_nil base.hosted
  have solid : Url.isSlash first = false :=
    (solid_of_host (base.plainHost first (by rw [hosted]; exact List.mem_cons_self))).2
  have slash : Url.isSlash '/' = true := by decide
  rw [front, List.append_assoc, List.cons_append, Url.afterScheme?, Text.takeWhile_cut letters stop,
    Text.dropWhile_cut letters stop]
  simp only [List.cons_append, List.drop_succ_cons, List.drop_zero, hosted, List.append_assoc]
  have known : (decide (base.scheme.map Char.toLower = "http".toList) ||
      decide (base.scheme.map Char.toLower = "https".toList)) = true := by
    simpa only [Bool.or_eq_true, decide_eq_true_eq] using base.known
  rw [if_pos known, if_pos (by simp), List.dropWhile_cons_of_pos slash,
    List.dropWhile_cons_of_pos slash, List.dropWhile_cons_of_neg (by simpa using solid)]

/-- What is read from a text as a path below an address: marks end it, and ignored
characters are passed over. -/
def pathPart (path : List Char) : List Char :=
  ((path.filter (!Url.isIgnored ·)).takeWhile (· ≠ '#')).takeWhile (· ≠ '?')

def queryPart (path : List Char) : List Char :=
  ((path.filter (!Url.isIgnored ·)).takeWhile (· ≠ '#')).dropWhile (· ≠ '?')

/-- No mark ends a plain path. -/
theorem takeWhile_below {mark : Char} (other : '/' ≠ mark) (none : ∀ c, Solid c → c ≠ mark)
    (given : List Char) :
    (Url.joined base.segments ++ '/' :: given).takeWhile (· ≠ mark) =
      Url.joined base.segments ++ '/' :: given.takeWhile (· ≠ mark) := by
  rw [List.takeWhile_append_of_pos fun c member =>
      decide_eq_true (none c (base.solid_joined c member)),
    List.takeWhile_cons_of_pos (by simpa using other)]

theorem dropWhile_below {mark : Char} (other : '/' ≠ mark) (none : ∀ c, Solid c → c ≠ mark)
    (given : List Char) :
    (Url.joined base.segments ++ '/' :: given).dropWhile (· ≠ mark) =
      given.dropWhile (· ≠ mark) := by
  rw [List.dropWhile_append_of_pos fun c member =>
      decide_eq_true (none c (base.solid_joined c member)),
    List.dropWhile_cons_of_pos (by simpa using other)]

/-- Only what is below an address has characters that are passed over. -/
theorem filter_below (path : List Char) :
    (base.front ++ '/' :: path).filter (!Url.isIgnored ·) =
      base.front ++ '/' :: path.filter (!Url.isIgnored ·) := by
  rw [List.filter_append, List.filter_cons_of_pos (by decide), List.filter_eq_self.mpr]
  intro c member
  rw [(base.solid_front c member).isIgnored]
  rfl

/-- The host ends where the path begins. -/
theorem host_cut (rest : List Char) :
    (base.host ++ '/' :: rest).takeWhile (fun c => !(Url.isSlash c || c == '?' || c == '#')) =
        base.host ∧
      (base.host ++ '/' :: rest).dropWhile (fun c => !(Url.isSlash c || c == '?' || c == '#')) =
        '/' :: rest := by
  have plain : ∀ c ∈ base.host, (!(Url.isSlash c || c == '?' || c == '#')) = true := by
    intro c member
    obtain ⟨⟨-, question, hash⟩, slash⟩ := solid_of_host (base.plainHost c member)
    rw [slash, beq_eq_false_iff_ne.mpr question, beq_eq_false_iff_ne.mpr hash]
    rfl
  have stop : (!(Url.isSlash '/' || '/' == '?' || '/' == '#')) = false := by decide
  exact ⟨Text.takeWhile_cut plain stop rest, Text.dropWhile_cut plain stop rest⟩

/-- A path below an address begins with a slash, whatever the path of the address is. -/
theorem joined_start (given : List Char) :
    ∃ tail, Url.joined base.segments ++ '/' :: given = '/' :: tail := by
  cases base.segments with
  | nil => exact ⟨given, rfl⟩
  | cons segment others => exact ⟨_, by rw [Url.joined_cons, List.cons_append]⟩

/-- A text below an address is read as a path and maybe a query. -/
theorem ofText?_below {path before : List Char} {first last : Char} {rest : List Char}
    (start : path = first :: rest) (named : first ≠ '/') (ends : path = before ++ [last])
    (closed : Url.isEdge last = false) :
    ∃ query, Url.ofText? (Url.join base.text (String.ofList path)) = some
        ⟨base.origin, Url.readPath (Url.joined base.segments ++ '/' :: pathPart path), query⟩ ∧
      (query = none ↔ queryPart path = []) := by
  obtain ⟨letter, letters, schemed⟩ := List.exists_cons_of_ne_nil base.scheme_ne_nil
  have starts : Url.isEdge letter = false :=
    (solid_of_high (base.scheme_letter letter (by rw [schemed]; exact List.mem_cons_self))).isEdge
  have opens : base.front ++ '/' :: path = letter :: (letters ++ ':' :: '/' :: '/' ::
      (base.host ++ Url.joined base.segments) ++ '/' :: path) := by
    rw [front, schemed, List.cons_append, List.cons_append]
  have closes : base.front ++ '/' :: path = (base.front ++ '/' :: before) ++ [last] := by
    rw [ends, List.append_assoc, List.cons_append]
  rw [join_below base start named, Url.ofText?, String.toList_ofList,
    trimmed_whole opens closes starts closed, filter_below, afterScheme?_front]
  rw [pathPart, queryPart]
  generalize path.filter (!Url.isIgnored ·) = given
  obtain ⟨tail, below⟩ := base.joined_start given
  obtain ⟨host, rest⟩ := base.host_cut tail
  have hosted : base.host.isEmpty = false := by
    simpa only [List.isEmpty_eq_false_iff] using base.hosted
  simp only [Option.bind_eq_bind, Option.bind_some]
  rw [below, host, rest, ← below, base.takeWhile_below (by decide) fun c solid => solid.2.2,
    base.takeWhile_below (by decide) fun c solid => solid.2.1,
    base.dropWhile_below (by decide) fun c solid => solid.2.1, hosted]
  refine ⟨_, if_neg Bool.false_ne_true, ?_⟩
  cases (given.takeWhile (· ≠ '#')).dropWhile (· ≠ '?') with
  | nil => exact iff_of_true rfl rfl
  | cons mark query => exact iff_of_false nofun nofun

/-- The path that is read: the segments of the address, then those that are given. -/
theorem readPath_below (path : List Char) :
    Url.readPath (Url.joined base.segments ++ '/' :: path) = String.ofList (Url.joined
      ((Url.resolve [] (base.segments ++ Text.split Url.isSlash path)).map
        (Percent.encode Url.pathKeeps))) := by
  have slash : Url.isSlash '/' = true := by decide
  have free := fun segment member c held => (base.plain segment member c held).2
  cases held : base.segments with
  | nil => exact Url.readPath_joined path
  | cons segment others =>
      rw [held] at free
      obtain ⟨first, rest⟩ := List.forall_mem_cons.mp free
      rw [Url.joined_cons, List.cons_append, List.append_assoc, Url.readPath_joined,
        Url.split_joined slash rest first, List.cons_append]

end ServiceAddress

end ComposeDesk
