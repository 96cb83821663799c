import DeclAtlas.Proofs.Resaved
import Mathlib.Algebra.GroupWithZero.Nat
import Mathlib.Data.Finset.Max
import Mathlib.Data.List.Infix

/-! The search for a configuration. Something is present at a place if the way there leads through
directories, and asking by its path says so unless the path is too long to ask. So the search loads
the configuration of the deepest directory that holds one, among the place that it starts from and
those above it. It ends before the root: a configuration that only the root holds is not found. -/

namespace DeclAtlas

/-- A component that leads to what is called so: it does not go up, and it can be asked for. -/
structure Path.IsName (s : String) : Prop extends IsComponent s where
  down : s ≠ ".."
  clean : '\x00' ∉ s.toList

namespace FileTree

variable {t : FileTree} {place start parts above : List String} {name : String}

/-- Components lead from a place on through directories only. What they lead to is left open. -/
def Passable (t : FileTree) (start parts : List String) : Prop :=
  ∀ q ∈ parts.inits, q ≠ parts → t.nodeAt? (start ++ q) = some .directory

/-- The way comes to a directory and asks there for a name that is too long. -/
def Blocked (t : FileTree) (start parts : List String) : Prop :=
  ∃ above name, above ++ [name] <+: parts ∧ t.Passable start (above ++ [name]) ∧
    nameLimit < name.utf8ByteSize

def Present (t : FileTree) (place : List String) : Prop :=
  t.Passable [] place ∧ t.nodeAt? place ≠ none

/-- A place that cannot be asked for, because its path or a name on the way is too long. -/
def Overlong (t : FileTree) (place : List String) : Prop :=
  pathLimit < (Path.ofPlace place).text.utf8ByteSize ∨ t.Blocked [] place

instance : Decidable (t.Present place) :=
  inferInstanceAs (Decidable
    ((∀ q ∈ place.inits, q ≠ place → t.nodeAt? ([] ++ q) = some .directory) ∧
      t.nodeAt? place ≠ none))

theorem passable_nil : t.Passable start [] := by
  simp [Passable]

theorem passable_cons : t.Passable start (name :: parts) ↔
    t.nodeAt? start = some .directory ∧ t.Passable (start ++ [name]) parts := by
  simp [Passable]

theorem not_blocked_nil : ¬t.Blocked start [] := by
  simp [Blocked]

theorem blocked_cons : t.Blocked start (name :: parts) ↔ t.nodeAt? start = some .directory ∧
    (nameLimit < name.utf8ByteSize ∨ t.Blocked (start ++ [name]) parts) := by
  constructor
  · rintro ⟨above, last, lead, way, long⟩
    cases above with
    | nil =>
      obtain ⟨rfl, -⟩ := List.cons_prefix_cons.1 lead
      exact ⟨(passable_cons.1 way).1, .inl long⟩
    | cons first above =>
      obtain ⟨rfl, later⟩ := List.cons_prefix_cons.1 lead
      obtain ⟨here, way⟩ := passable_cons.1 way
      exact ⟨here, .inr ⟨above, last, later, way, long⟩⟩
  · rintro ⟨here, long | ⟨above, last, lead, way, long⟩⟩
    · exact ⟨[], name, by simp, passable_cons.2 ⟨here, passable_nil⟩, long⟩
    · exact ⟨name :: above, last, List.cons_prefix_cons.2 ⟨rfl, lead⟩,
        passable_cons.2 ⟨here, way⟩, long⟩

theorem follow_of_blocked (names : ∀ s ∈ parts, Path.IsName s) (blocked : t.Blocked start parts) :
    t.follow start parts = .error .nameTooLong := by
  induction parts generalizing start with
  | nil => exact absurd blocked not_blocked_nil
  | cons name rest ih =>
    obtain ⟨plain, names⟩ := List.forall_mem_cons.1 names
    obtain ⟨here, blocked⟩ := blocked_cons.1 blocked
    by_cases long : nameLimit < name.utf8ByteSize
    · simp [follow, here, plain.down, plain.filled, plain.moves, long]
    · simpa [follow, here, plain.down, plain.filled, plain.moves, long] using
        ih names (blocked.resolve_left long)

theorem follow_of_passable (names : ∀ s ∈ parts, Path.IsName s)
    (free : ¬t.Blocked start parts) (way : t.Passable start parts) :
    t.follow start parts = .ok (start ++ parts) := by
  induction parts generalizing start with
  | nil => rw [follow, List.append_nil]
  | cons name rest ih =>
    obtain ⟨plain, names⟩ := List.forall_mem_cons.1 names
    obtain ⟨here, way⟩ := passable_cons.1 way
    rw [blocked_cons, not_and, not_or] at free
    obtain ⟨short, free⟩ := free here
    simpa [follow, here, plain.down, plain.filled, plain.moves, short] using ih names free way

theorem follow_of_not_passable (names : ∀ s ∈ parts, Path.IsName s)
    (free : ¬t.Blocked start parts) (barred : ¬t.Passable start parts) :
    ∃ e, t.follow start parts = .error e ∧ e ≠ .nameTooLong := by
  induction parts generalizing start with
  | nil => exact absurd passable_nil barred
  | cons name rest ih =>
    obtain ⟨plain, names⟩ := List.forall_mem_cons.1 names
    rw [passable_cons, not_and] at barred
    rw [blocked_cons, not_and, not_or] at free
    unfold follow
    split
    · exact ⟨.notFound, rfl, by decide⟩
    · exact ⟨.notDirectory, rfl, by decide⟩
    · rename_i here
      obtain ⟨short, free⟩ := free here
      simpa [plain.down, plain.filled, plain.moves, short] using ih names free (barred here)

section asking

variable (names : ∀ s ∈ place, Path.IsName s)
include names

theorem hasNull_ofPlace : (Path.ofPlace place).hasNull = false := by
  simpa [Path.hasNull, Path.ofPlace] using fun s hs => (names s hs).clean

theorem locate_ofPlace (short : ¬pathLimit < (Path.ofPlace place).text.utf8ByteSize) :
    t.locate [] (Path.ofPlace place) = t.follow [] place := by
  rw [locate, hasNull_ofPlace names, if_neg short]
  rfl

theorem exists_of_overlong (long : t.Overlong place) :
    t.exists [] (Path.ofPlace place) = .error .nameTooLong := by
  have located : t.locate [] (Path.ofPlace place) = .error .nameTooLong := by
    by_cases path : pathLimit < (Path.ofPlace place).text.utf8ByteSize
    · rw [locate, hasNull_ofPlace names, if_pos path]
      rfl
    · rw [locate_ofPlace names path]
      exact follow_of_blocked names (long.resolve_left path)
  simp [FileTree.exists, stat, located, bind, Except.bind]

theorem exists_of_not_overlong (short : ¬t.Overlong place) :
    t.exists [] (Path.ofPlace place) = .ok (decide (t.Present place)) := by
  rw [Overlong, not_or] at short
  have located : t.locate [] (Path.ofPlace place) = t.follow [] place :=
    locate_ofPlace names short.1
  by_cases way : t.Passable [] place
  · have follows := follow_of_passable names short.2 way
    cases found : t.nodeAt? place <;>
      simp [FileTree.exists, stat, located, follows, found, Present, way, bind, Except.bind]
  · obtain ⟨e, follows, other⟩ := follow_of_not_passable names short.2 way
    cases e <;>
      simp_all [FileTree.exists, stat, Present, bind, Except.bind]

end asking

theorem size_ofPlace (h : place ≠ []) :
    (Path.ofPlace place).text.utf8ByteSize = (place.map (·.utf8ByteSize + 1)).sum := by
  cases place with
  | nil => exact absurd rfl h
  | cons s rest =>
    have slash : String.utf8ByteSize "/" = 1 := by rfl
    have body : (String.intercalate "/" (s :: rest)).utf8ByteSize =
        s.utf8ByteSize + (rest.map (·.utf8ByteSize + 1)).sum := by
      induction rest generalizing s with
      | nil => simp
      | cons q rest ih =>
        rw [String.intercalate_cons_of_ne_nil (List.cons_ne_nil q rest), String.utf8ByteSize_append,
          String.utf8ByteSize_append, ih q (List.cons_ne_nil q rest), slash, List.map_cons,
          List.sum_cons]
        omega
    have text : (Path.ofPlace (s :: rest)).text = "/" ++ String.intercalate "/" (s :: rest) := by
      simp [Path.text, Path.ofPlace]
    rw [text, String.utf8ByteSize_append, body, slash, List.map_cons, List.sum_cons]
    omega

theorem not_overlong_of_short (names : ∀ s ∈ place, s.utf8ByteSize ≤ nameLimit)
    (path : (Path.ofPlace place).text.utf8ByteSize ≤ pathLimit) : ¬t.Overlong place := by
  rintro (long | ⟨above, name, lead, -, long⟩)
  · omega
  · have short := names name (lead.subset (by simp))
    omega

/-- A name next to a place can be asked for if the same name further down can. -/
theorem Overlong.mono (short : name.utf8ByteSize ≤ nameLimit) (lead : place <+: start)
    (long : t.Overlong (place ++ [name])) : t.Overlong (start ++ [name]) := by
  rcases long with long | ⟨above, last, within, way, long⟩
  · left
    obtain ⟨rest, rfl⟩ := lead
    rw [size_ofPlace (by simp)] at long ⊢
    simp only [List.map_append, List.sum_append] at long ⊢
    omega
  · rcases List.prefix_concat_iff.1 within with same | within
    · obtain ⟨-, same⟩ := List.append_inj' same rfl
      cases same
      omega
    · exact .inr ⟨above, last, within.trans (lead.trans (List.prefix_append ..)), way, long⟩

theorem normalize_ofPlace (names : ∀ s ∈ place, Path.IsName s) (directory : List String) :
    normalize directory (Path.ofPlace place) = place := by
  have steps (start : List String) : place.foldl
      (fun start name => if name = ".." then start.dropLast else start ++ [name]) start =
        start ++ place := by
    induction place generalizing start with
    | nil => simp
    | cons name rest ih =>
      obtain ⟨plain, names⟩ := List.forall_mem_cons.1 names
      rw [List.foldl_cons, if_neg plain.down, ih names]
      simp
  exact steps []

end FileTree

namespace Config

variable {t : FileTree} {directory start place other : List String}

/-- Whether a directory holds a configuration. -/
def HeldAt (t : FileTree) (place : List String) : Prop := t.Present (place ++ [fileName])

instance : Decidable (HeldAt t place) :=
  inferInstanceAs (Decidable (t.Present (place ++ [fileName])))

/-- The deepest of some directories that holds a configuration. -/
structure Nearest (t : FileTree) (among : List String → Prop) (place : List String) : Prop where
  searched : among place
  held : HeldAt t place
  deepest : ∀ {other}, among other → HeldAt t other → other.length ≤ place.length

/-- The search from a place loads the configuration of the deepest of some directories that holds
one, and finds none exactly if none of them does. -/
structure FindsAmong (t : FileTree) (directory start : List String)
    (among : List String → Prop) : Prop where
  loads : ∀ {place}, Nearest t among place →
    find t directory (.ofPlace start) = some <$> load t [] ((Path.ofPlace place).child fileName)
  none_iff : find t directory (.ofPlace start) = .ok none ↔ ∀ place, among place → ¬HeldAt t place

/-- A place itself and those above it, up to the root. -/
def AtOrAbove (start place : List String) : Prop := place <+: start

/-- A place itself and those above it, without the root. -/
def BelowRoot (start place : List String) : Prop := place <+: start ∧ place ≠ []

theorem isName_fileName : Path.IsName fileName where
  filled := by decide
  moves := by decide
  whole := by decide
  down := by decide
  clean := by decide

theorem isName_of_mem_child (names : ∀ s ∈ place, Path.IsName s) :
    ∀ s ∈ place ++ [fileName], Path.IsName s := by
  simpa [or_imp, forall_and, isName_fileName] using names

/-- One step of the search: what is held here is loaded, and else the search goes on above. -/
theorem findAbove_snoc (above : List String) (name : String) :
    findAbove t (above ++ [name]).reverse =
      ((t.exists [] (.ofPlace (above ++ [name] ++ [fileName]))).mapError .file).bind fun held =>
        if held then some <$> load t [] ((Path.ofPlace (above ++ [name])).child fileName)
        else findAbove t above.reverse := by
  rw [List.reverse_append, List.reverse_singleton, List.singleton_append, findAbove,
    List.reverse_cons, List.reverse_reverse]
  rfl

theorem findAbove_of_held {above : List String} {name : String} {held : Bool}
    (asked : t.exists [] (.ofPlace (above ++ [name] ++ [fileName])) = .ok held) :
    findAbove t (above ++ [name]).reverse =
      if held then some <$> load t [] ((Path.ofPlace (above ++ [name])).child fileName)
      else findAbove t above.reverse := by
  rw [findAbove_snoc, asked]
  rfl

theorem findAbove_cases (names : ∀ s ∈ start, Path.IsName s)
    (short : ¬t.Overlong (start ++ [fileName])) :
    (∃ place, Nearest t (BelowRoot start) place ∧ findAbove t start.reverse =
      some <$> load t [] ((Path.ofPlace place).child fileName)) ∨
    (∀ place, BelowRoot start place → ¬HeldAt t place) ∧ findAbove t start.reverse = .ok none := by
  -- The last name is the deepest directory, and what is before it is where the search goes on.
  induction start using List.reverseRecOn with
  | nil => exact .inr ⟨fun place h => absurd (List.prefix_nil.1 h.1) h.2, rfl⟩
  | append_singleton above name ih =>
    have lead : above <+: above ++ [name] := List.prefix_append ..
    have within {place : List String} (h : BelowRoot (above ++ [name]) place) :
        place = above ++ [name] ∨ BelowRoot above place :=
      (List.prefix_concat_iff.1 h.1).imp_right fun lead => ⟨lead, h.2⟩
    have asked : t.exists [] (.ofPlace (above ++ [name] ++ [fileName])) =
        .ok (decide (HeldAt t (above ++ [name]))) :=
      FileTree.exists_of_not_overlong (isName_of_mem_child names) short
    rw [findAbove_of_held asked]
    by_cases held : HeldAt t (above ++ [name])
    · have nearest : Nearest t (BelowRoot (above ++ [name])) (above ++ [name]) :=
        ⟨⟨List.prefix_rfl, by simp⟩, held, fun h _ => h.1.length_le⟩
      exact .inl ⟨_, nearest, if_pos (decide_eq_true held)⟩
    · rw [if_neg fun h => held (of_decide_eq_true h)]
      have names' : ∀ s ∈ above, Path.IsName s := fun s hs => names s (lead.subset hs)
      have short' : ¬t.Overlong (above ++ [fileName]) := fun long =>
        short (long.mono (by decide) lead)
      rcases ih names' short' with ⟨place, nearest, found⟩ | ⟨none, found⟩
      · have searched : BelowRoot (above ++ [name]) place :=
          ⟨nearest.searched.1.trans lead, nearest.searched.2⟩
        refine .inl ⟨place, ⟨searched, nearest.held, fun {other} h held' => ?_⟩, found⟩
        rcases within h with rfl | h
        · exact absurd held' held
        · exact nearest.deepest h held'
      · refine .inr ⟨fun place h held' => ?_, found⟩
        rcases within h with rfl | h
        · exact held held'
        · exact none place h held'

section search

variable (names : ∀ s ∈ start, Path.IsName s)
include names

theorem find_ofPlace : find t directory (.ofPlace start) = findAbove t start.reverse := by
  rw [find, FileTree.hasNull_ofPlace names, FileTree.normalize_ofPlace names]
  rfl

theorem find_cases (short : ¬t.Overlong (start ++ [fileName])) :
    (∃ place, Nearest t (BelowRoot start) place ∧ find t directory (.ofPlace start) =
      some <$> load t [] ((Path.ofPlace place).child fileName)) ∨
    (∀ place, BelowRoot start place → ¬HeldAt t place) ∧
      find t directory (.ofPlace start) = .ok none := by
  rw [find_ofPlace names]
  exact findAbove_cases names short

theorem find_of_overlong (long : t.Overlong (start ++ [fileName])) :
    find t directory (.ofPlace start) = .error (.file .nameTooLong) := by
  rw [find_ofPlace names]
  cases start using List.reverseRecOn with
  | nil => exact absurd long (FileTree.not_overlong_of_short (by decide) (by decide))
  | append_singleton above name =>
    rw [findAbove_snoc, FileTree.exists_of_overlong (isName_of_mem_child names) long]
    rfl

end search

theorem map_some_ne_none {ε α : Type} (x : Except ε α) : some <$> x ≠ .ok none := by
  cases x <;> simp [Functor.map, Except.map]

/-- What cannot be read makes a bad configuration, so loading itself does not fail with the file. -/
theorem map_load_ne_file {ε : FileError} {p : Path} (other : ε ≠ .nullCharacter) :
    some <$> load t [] p ≠ .error (.file ε) := by
  unfold load
  cases t.readText [] p with
  | error e => cases e <;> simp [Functor.map, Except.map, Except.mapError, Failure.ofLoad, bind,
      Except.bind, Ne.symm other]
  | ok text =>
    cases parsed : Json.parse text with
    | error e => cases e <;> simp [Functor.map, Except.map, Except.mapError, Failure.ofReading,
        bind, Except.bind, parsed]
    | ok j => cases checked : ofJson j <;> simp [Functor.map, Except.map, Except.mapError, bind,
        Except.bind, parsed, checked, pure, Except.pure, throw, throwThe, MonadExceptOf.throw]

theorem exists_nearest (lead : AtOrAbove start place) (held : HeldAt t place) :
    ∃ place, Nearest t (AtOrAbove start) place := by
  have some : place ∈ start.inits.toFinset.filter (HeldAt t ·) := by
    simpa using ⟨lead, held⟩
  obtain ⟨best, mem, greatest⟩ := Finset.exists_max_image _ List.length ⟨place, some⟩
  simp only [Finset.mem_filter, List.mem_toFinset, List.mem_inits] at mem greatest
  exact ⟨best, mem.1, mem.2, fun lead held => greatest _ ⟨lead, held⟩⟩

section outcomes

variable {among : List String → Prop} (lead : ∀ {place}, among place → place <+: start)
include lead

theorem Nearest.unique (h : Nearest t among place) (h' : Nearest t among other) :
    place = other := by
  have shorter := h'.deepest h.searched h.held
  have longer := h.deepest h'.searched h'.held
  have within := List.prefix_of_prefix_length_le (lead h.searched) (lead h'.searched) shorter
  exact within.eq_of_length (by omega)

theorem findsAmong_of_nearest (h : Nearest t among place)
    (found : find t directory (.ofPlace start) =
      some <$> load t [] ((Path.ofPlace place).child fileName)) :
    FindsAmong t directory start among where
  loads h' := by rw [h'.unique lead h, found]
  none_iff := by
    rw [found]
    exact ⟨fun none => absurd none (map_some_ne_none _),
      fun none => absurd h.held (none _ h.searched)⟩

end outcomes

theorem findsAmong_of_none {among : List String → Prop}
    (h : ∀ place, among place → ¬HeldAt t place)
    (found : find t directory (.ofPlace start) = .ok none) :
    FindsAmong t directory start among where
  loads h' := absurd h'.held (h _ h'.searched)
  none_iff := ⟨fun _ => h, fun _ => found⟩

theorem FindsAmong.not_overlong (all : FindsAmong t directory start (AtOrAbove start))
    (names : ∀ s ∈ start, Path.IsName s) : ¬t.Overlong (start ++ [fileName]) := by
  intro long
  have failed : find t directory (.ofPlace start) = .error (.file .nameTooLong) :=
    find_of_overlong names long
  by_cases some : ∃ place, AtOrAbove start place ∧ HeldAt t place
  · obtain ⟨place, lead, held⟩ := some
    obtain ⟨best, nearest⟩ := exists_nearest lead held
    exact map_load_ne_file (by decide) ((all.loads nearest).symm.trans failed)
  · have none := all.none_iff.2 fun place lead held => some ⟨place, lead, held⟩
    rw [failed] at none
    cases none

theorem findsAmong_atOrAbove (names : ∀ s ∈ start, Path.IsName s)
    (short : ¬t.Overlong (start ++ [fileName]))
    (root : HeldAt t [] → ∃ place, BelowRoot start place ∧ HeldAt t place) :
    FindsAmong t directory start (AtOrAbove start) := by
  rcases find_cases names short with ⟨place, nearest, found⟩ | ⟨none, found⟩
  · have further {other : List String} (lead : AtOrAbove start other) (held : HeldAt t other) :
        other.length ≤ place.length := by
      by_cases top : other = []
      · simp [top]
      · exact nearest.deepest ⟨lead, top⟩ held
    exact findsAmong_of_nearest id ⟨nearest.searched.1, nearest.held, further⟩ found
  · refine findsAmong_of_none (fun place lead held => ?_) found
    by_cases top : place = []
    · obtain ⟨lower, below, held⟩ := root (top ▸ held)
      exact none lower below held
    · exact none place ⟨lead, top⟩ held

/-- The search loads the configuration of the deepest directory that holds one, from the start up to
the place under the root, and fails only if the first path is too long to ask for. So it is a search
of all directories up to the root exactly if it can ask, and one of them holds a configuration
already where the root does. -/
theorem nearest_found_iff (names : ∀ s ∈ start, Path.IsName s) (directory : List String) :
    (¬t.Overlong (start ++ [fileName]) → FindsAmong t directory start (BelowRoot start)) ∧
    (t.Overlong (start ++ [fileName]) →
      find t directory (.ofPlace start) = .error (.file .nameTooLong)) ∧
    (FindsAmong t directory start (AtOrAbove start) ↔ ¬t.Overlong (start ++ [fileName]) ∧
      (HeldAt t [] → ∃ place, BelowRoot start place ∧ HeldAt t place)) := by
  refine ⟨fun short => ?_, find_of_overlong names, fun all => ?_, fun ⟨short, root⟩ => ?_⟩
  · rcases find_cases names short with ⟨place, nearest, found⟩ | ⟨none, found⟩
    · exact findsAmong_of_nearest And.left nearest found
    · exact findsAmong_of_none none found
  · have short := all.not_overlong names
    refine ⟨short, fun root => ?_⟩
    rcases find_cases names short with ⟨place, nearest, -⟩ | ⟨-, found⟩
    · exact ⟨place, nearest.searched, nearest.held⟩
    · exact absurd root (all.none_iff.1 found [] ⟨start, rfl⟩)
  · exact findsAmong_atOrAbove names short root

/-- A configuration that defines one name. -/
def oneDefine (name : String) : Config := { defines := [name] }

theorem normal_oneDefine (name : String) : (oneDefine name).Normal where
  loadGlobals := nofun
  saveGlobals := nofun
  logFile := nofun

/-- The directories `/work` and `/work/src`; a configuration in the root defines `ROOT`. -/
def rootTree : FileTree :=
  ⟨(((∅ : Table (List String) FileNode).insert ["work"] .directory).insert ["work", "src"]
    .directory).insert [fileName] (.file (oneDefine "ROOT").toJson.render)⟩

/-- The same with another configuration in `/work`. -/
def workTree : FileTree :=
  ⟨rootTree.nodes.insert ["work", fileName] (.file (oneDefine "WORK").toJson.render)⟩

/-- From `/work/src` the configuration in `/work` is found, and not the one in the root. -/
theorem lower_configuration_found :
    HeldAt workTree [] ∧ FindsAmong workTree [] ["work", "src"] (AtOrAbove ["work", "src"]) ∧
      find workTree [] (.ofPlace ["work", "src"]) = .ok (some (oneDefine "WORK")) := by
  have names : ∀ s ∈ ["work", "src"], Path.IsName s := by
    have name (s : String) (h : s ∈ ["work", "src"]) : s ≠ "" ∧ s ≠ "." ∧ '/' ∉ s.toList ∧
        s ≠ ".." ∧ '\x00' ∉ s.toList := by
      revert s
      decide
    intro s hs
    obtain ⟨filled, moves, whole, down, clean⟩ := name s hs
    exact ⟨⟨filled, moves, whole⟩, down, clean⟩
  have short : ¬workTree.Overlong (["work", "src"] ++ [fileName]) :=
    FileTree.not_overlong_of_short (by decide) (by decide)
  have held : ∀ place ∈ [[], ["work"]], HeldAt workTree place := by decide
  have deepest : ∀ place ∈ ["work", "src"].inits, HeldAt workTree place →
      place.length ≤ ["work"].length := by
    decide
  have nearest : Nearest workTree (AtOrAbove ["work", "src"]) ["work"] :=
    ⟨⟨["src"], rfl⟩, held _ (by simp), fun lead => deepest _ ((List.mem_inits ..).2 lead)⟩
  have same : (oneDefine "WORK").save workTree [] ((Path.ofPlace ["work"]).child fileName) =
      .ok workTree := by
    rfl
  have found := (nearest_found_iff names []).2.2.2
    ⟨short, fun _ => ⟨["work"], ⟨nearest.searched, by simp⟩, nearest.held⟩⟩
  refine ⟨held _ (by simp), found, ?_⟩
  rw [found.loads nearest, load_of_save same (normal_oneDefine _)]
  rfl

/-- From `/work` the configuration in the root is not found, though there is no other. -/
theorem root_configuration_missed :
    HeldAt rootTree [] ∧ load rootTree [] (.ofPlace [fileName]) = .ok (oneDefine "ROOT") ∧
      find rootTree [] (.ofPlace ["work"]) = .ok none ∧
      ¬FindsAmong rootTree [] ["work"] (AtOrAbove ["work"]) := by
  have held : HeldAt rootTree [] := by decide
  have same : (oneDefine "ROOT").save rootTree [] (.ofPlace [fileName]) = .ok rootTree := by
    rfl
  have none : find rootTree [] (.ofPlace ["work"]) = .ok none := by
    rfl
  exact ⟨held, load_of_save same (normal_oneDefine _), none,
    fun all => all.none_iff.1 none [] ⟨["work"], rfl⟩ held⟩

end Config

end DeclAtlas
