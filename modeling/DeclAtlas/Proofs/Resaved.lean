import DeclAtlas.Config
import DeclAtlas.Proofs.Saved
import DeclAtlas.Proofs.Scopes

/-! Configurations on files. A path is read as it was written, so a configuration that was saved is
read as it was; then loading sees its snapshot paths from the directory of the file once more. This
changes nothing where these paths are absolute, as they are after loading from an absolute path. A
relative path to the file is put before a relative snapshot path each time it is loaded. -/

namespace DeclAtlas

namespace Path

variable {p q root : Path}

theorem pieces_eq (cs : List Char) : pieces cs = Usr.pieces '/' cs := by
  induction cs with
  | nil => rfl
  | cons c cs ih => cases found : Usr.pieces '/' cs <;> simp [pieces, Usr.pieces, ih, found]

theorem slash_not_mem_of_mem_pieces {cs piece : List Char} (h : piece ∈ pieces cs) :
    '/' ∉ piece := by
  induction cs generalizing piece with
  | nil =>
    rw [pieces, List.mem_singleton] at h
    simp [h]
  | cons c cs ih =>
    rw [pieces] at h
    split at h
    · rcases List.mem_cons.1 h with rfl | h
      · simp
      · exact ih h
    · rename_i other
      split at h
      · rw [List.mem_singleton] at h
        simp [h, Ne.symm other]
      · rename_i first rest found
        rcases List.mem_cons.1 h with rfl | h
        · have plain := ih (found ▸ List.mem_cons_self ..)
          simp [plain, Ne.symm other]
        · exact ih (found ▸ List.mem_cons_of_mem _ h)

theorem toList_intercalate_cons (s : String) (rest : List String) :
    (String.intercalate "/" (s :: rest)).toList =
      s.toList ++ (rest.map String.toList).flatMap ('/' :: ·) := by
  have slash : "/".toList = ['/'] := rfl
  induction rest generalizing s with
  | nil => simp
  | cons q rest ih =>
    rw [String.intercalate_cons_of_ne_nil (List.cons_ne_nil q rest), String.toList_append,
      String.toList_append, ih, slash, List.map_cons, List.flatMap_cons]
    simp

/-- A text that is kept as a component of a path. -/
structure IsComponent (s : String) : Prop where
  filled : s ≠ ""
  moves : s ≠ "."
  whole : '/' ∉ s.toList

/-- A path that can be read from a text: two slashes lead it at most, and nothing is left out of its
components. -/
structure Normal (p : Path) : Prop where
  slashes : p.slashes ≤ 2
  parts : ∀ s ∈ p.parts, IsComponent s

theorem normal_ofString (s : String) : (ofString s).Normal where
  slashes := by
    simp only [ofString, leadingSlashes]
    split <;> omega
  parts := by
    intro part h
    obtain ⟨piece, hp, rfl⟩ := List.mem_map.1 h
    rw [List.mem_filter, Bool.and_eq_true, decide_eq_true_iff, decide_eq_true_iff] at hp
    obtain ⟨hp, filled, moves⟩ := hp
    refine ⟨fun e => filled ?_, fun e => moves ?_, ?_⟩
    · exact String.ofList_inj.1 e
    · exact String.ofList_inj.1 e
    · rw [String.toList_ofList]
      exact slash_not_mem_of_mem_pieces hp

theorem Normal.join (hp : p.Normal) (hq : q.Normal) : (p.join q).Normal := by
  unfold Path.join
  split
  · exact hq
  · refine ⟨hp.slashes, fun s hs => ?_⟩
    rcases List.mem_append.1 hs with hs | hs
    · exact hp.parts s hs
    · exact hq.parts s hs

theorem Normal.parent (h : p.Normal) : p.parent.Normal :=
  ⟨h.slashes, fun s hs => h.parts s (List.dropLast_subset _ hs)⟩

theorem leadingSlashes_replicate {n : Nat} (few : n ≤ 2) {body : List Char}
    (plain : body.head? ≠ some '/') : leadingSlashes (List.replicate n '/' ++ body) = n := by
  have none : body.takeWhile (· == '/') = [] := by
    cases body with
    | nil => rfl
    | cons c cs =>
      have other : c ≠ '/' := by simpa using plain
      simp [other]
  have count : ((List.replicate n '/' ++ body).takeWhile (· == '/')).length = n := by
    rw [List.takeWhile_append_of_pos (by simp), none, List.append_nil, List.length_replicate]
  simp only [leadingSlashes, count]
  split <;> omega

theorem parts_ofString_replicate (n : Nat) (body : List Char) :
    (ofString (String.ofList (List.replicate n '/' ++ body))).parts =
      (ofString (String.ofList body)).parts := by
  induction n with
  | zero => rw [List.replicate_zero, List.nil_append]
  | succ n ih =>
    rw [← ih, List.replicate_succ, List.cons_append]
    simp [ofString, pieces]

theorem parts_ofString_intercalate {parts : List String} (h : ∀ s ∈ parts, IsComponent s) :
    (ofString (String.intercalate "/" parts)).parts = parts := by
  cases parts with
  | nil => rfl
  | cons s rest =>
    have whole : ∀ p ∈ (s :: rest).map String.toList, '/' ∉ p := by
      intro p hp
      obtain ⟨s, hs, rfl⟩ := List.mem_map.1 hp
      exact (h s hs).whole
    have kept : ((s :: rest).map String.toList).filter (fun p => p ≠ [] && p ≠ ['.']) =
        (s :: rest).map String.toList := by
      refine List.filter_eq_self.2 fun p hp => ?_
      obtain ⟨s, hs, rfl⟩ := List.mem_map.1 hp
      have moves : s.toList ≠ ['.'] := fun e => (h s hs).moves (String.toList_inj.1 e)
      simp [(h s hs).filled, moves]
    rw [List.map_cons, List.forall_mem_cons] at whole
    rw [ofString, toList_intercalate_cons, pieces_eq, Usr.pieces_flatMap whole.1 whole.2,
      ← List.map_cons, kept, List.map_map]
    simp

theorem head?_intercalate {parts : List String} (h : ∀ s ∈ parts, IsComponent s) :
    (String.intercalate "/" parts).toList.head? ≠ some '/' := by
  cases parts with
  | nil => simp
  | cons s rest =>
    have component := h s (List.mem_cons_self ..)
    rw [toList_intercalate_cons]
    cases letters : s.toList with
    | nil => exact absurd (String.toList_eq_nil_iff.1 letters) component.filled
    | cons c cs =>
      have plain := component.whole
      rw [letters, List.mem_cons, not_or] at plain
      simp [Ne.symm plain.1]

theorem ofString_text (h : p.Normal) : ofString p.text = p := by
  obtain ⟨slashes, parts⟩ := p
  by_cases empty : slashes = 0 ∧ parts = []
  · obtain ⟨rfl, rfl⟩ := empty
    rfl
  have text : Path.text ⟨slashes, parts⟩ =
      String.ofList (List.replicate slashes '/' ++ (String.intercalate "/" parts).toList) := by
    rw [Path.text, if_neg empty, String.ofList_append, String.ofList_toList]
  have leading : (ofString (Path.text ⟨slashes, parts⟩)).slashes = slashes := by
    rw [text, ofString, String.toList_ofList]
    exact leadingSlashes_replicate h.slashes (head?_intercalate h.parts)
  have components : (ofString (Path.text ⟨slashes, parts⟩)).parts = parts := by
    rw [text, parts_ofString_replicate, String.ofList_toList, parts_ofString_intercalate h.parts]
  exact (Path.mk.injEq ..).mpr ⟨leading, components⟩

def here : Path := ⟨0, []⟩

theorem join_eq_self_iff : root.join q = q ↔ q.isAbsolute = true ∨ root = here := by
  unfold join
  split
  · simp [*]
  · rename_i relative
    obtain ⟨slashes, parts⟩ := q
    obtain ⟨rootSlashes, rootParts⟩ := root
    obtain rfl : slashes = 0 := by simpa [isAbsolute] using relative
    simp [here, isAbsolute]

theorem isAbsolute_join (h : root.isAbsolute = true) (q : Path) :
    (root.join q).isAbsolute = true := by
  unfold join
  split
  · assumption
  · exact h

end Path

namespace FileTree

variable {t : FileTree} {directory : List String} {p : Path} {text : String}

theorem writeText_of_readText (h : t.readText directory p = .ok text) (next : String) :
    ∃ t', t.writeText directory p next = .ok t' := by
  unfold readText stat at h
  unfold writeText editText
  rcases found : t.locate directory p with e | place <;> rw [found] at h
  · cases h
  · simp only [bind, Except.bind] at h ⊢
    split
    · rename_i found
      rw [found] at h
      cases h
    · exact ⟨_, rfl⟩
    · exact ⟨_, rfl⟩

end FileTree

namespace Json

open Checked

theorem recovers_path : Recovers Path.toJson asPath Path.Normal := by
  refine ⟨fun {p} h => ?_, fun {j p} h => ?_⟩
  · rw [Path.toJson, asPath, Path.ofString_text h]
  · unfold asPath at h
    split at h
    · cases h
      exact Path.normal_ofString _
    · cases h

theorem recovers_globalsSource :
    Recovers GlobalsSource.toJson GlobalsSource.ofJson fun s => s.path.Normal := by
  refine ⟨fun {s} h => ?_, fun {j s} h => ?_⟩
  · simp [GlobalsSource.toJson, GlobalsSource.ofJson, asObject, asString, recovers_path.back h]
  · obtain ⟨fields, h⟩ := asObject_eq_ok h
    simp only [seq_eq_ok, map_eq_ok] at h
    obtain ⟨_, ⟨p, hp, rfl⟩, _, -, rfl⟩ := h
    obtain ⟨v, -, hv⟩ := required_eq_ok.1 hp
    exact recovers_path.only hv

end Json

namespace Config

open Json Json.Checked

variable {c : Config} {t t' : FileTree} {directory : List String} {p root : Path}

/-- The paths of a configuration that are seen from its directory. -/
def snapshotPaths (c : Config) : List Path :=
  c.loadGlobals.map GlobalsSource.path ++ c.saveGlobals.toList

/-- A configuration whose paths can all be read from a text. -/
structure Normal (c : Config) : Prop where
  loadGlobals : ∀ s ∈ c.loadGlobals, s.path.Normal
  saveGlobals : ∀ p ∈ c.saveGlobals, p.Normal
  logFile : ∀ p ∈ c.logFile, p.Normal

theorem recovers_config : Recovers toJson ofJson Normal := by
  have paths := recovers_path.option fun p => by simp [Path.toJson]
  refine ⟨fun {c} h => ?_, fun {j c} h => ?_⟩
  · have strings (l : List String) : asList asString (.ofList .str l) = .ok l :=
      Recovers.str.list.back fun _ _ => trivial
    have sources := recovers_globalsSource.list.back h.loadGlobals
    simp [toJson, ofJson, asObject, asString, strings, sources, paths.back h.saveGlobals,
      paths.back h.logFile]
  · obtain ⟨fields, h⟩ := asObject_eq_ok h
    simp only [seq_eq_ok, map_eq_ok] at h
    obtain ⟨_, ⟨_, ⟨_, ⟨_, ⟨_, ⟨_, ⟨_, ⟨_, ⟨_, ⟨_, ⟨_, -, rfl⟩, _, -, rfl⟩, _, -, rfl⟩, sources, hs,
      rfl⟩, target, ht, rfl⟩, _, -, rfl⟩, _, -, rfl⟩, _, -, rfl⟩, _, -, rfl⟩, _, -, rfl⟩, log, hl,
      rfl⟩ := h
    refine ⟨?_, ?_, ?_⟩
    · exact of_optional_eq_ok (p := fun l => ∀ s ∈ l, s.path.Normal) hs (by simp)
        recovers_globalsSource.list.only
    · exact of_optional_eq_ok (p := fun o => ∀ p ∈ o, p.Normal) ht (by simp) paths.only
    · exact of_optional_eq_ok (p := fun o => ∀ p ∈ o, p.Normal) hl (by simp) paths.only

theorem tidy_config (c : Config) : c.toJson.Tidy := by
  have strings (l : List String) : (Json.ofList .str l).Tidy := tidy_list (by simp) l
  have sources : (Json.ofList GlobalsSource.toJson c.loadGlobals).Tidy :=
    tidy_list (by simp [GlobalsSource.toJson, Path.toJson]) _
  have paths (o : Option Path) : (Json.ofOption Path.toJson o).Tidy := by
    cases o <;> simp [Json.ofOption, Path.toJson]
  simp [toJson, strings, sources, paths]

theorem integers_config (c : Config) : c.toJson.integers = [] := by
  have lists {α : Type} {write : α → Json} (h : ∀ a, (write a).integers = []) (l : List α) :
      (Json.ofList write l).integers = [] := by
    rw [Json.ofList, integers]
    induction l with
    | nil => rfl
    | cons a rest ih => rw [List.map_cons, integersOfItems, h a, ih, List.append_nil]
  have paths (o : Option Path) : (Json.ofOption Path.toJson o).integers = [] := by
    cases o <;> simp [Json.ofOption, Path.toJson, integers]
  have strings (l : List String) : (Json.ofList .str l).integers = [] :=
    lists (fun s => by simp [integers]) l
  have sources : (Json.ofList GlobalsSource.toJson c.loadGlobals).integers = [] :=
    lists (fun s => by simp [GlobalsSource.toJson, Path.toJson, integers, integersOfFields]) _
  simp [toJson, integers, integersOfFields, strings, sources, paths]

theorem Normal.relativeTo (h : c.Normal) (hroot : root.Normal) : (c.relativeTo root).Normal where
  loadGlobals := by
    intro s hs
    obtain ⟨written, hw, rfl⟩ := List.mem_map.1 hs
    exact hroot.join (h.loadGlobals written hw)
  saveGlobals := by
    intro p hp
    obtain ⟨written, hw, rfl⟩ := Option.map_eq_some_iff.1 hp
    exact hroot.join (h.saveGlobals written hw)
  logFile := h.logFile

theorem snapshotPaths_relativeTo (root : Path) (c : Config) :
    (c.relativeTo root).snapshotPaths = c.snapshotPaths.map root.join := by
  have target : (c.saveGlobals.map root.join).toList = c.saveGlobals.toList.map root.join := by
    cases c.saveGlobals <;> rfl
  simp [snapshotPaths, relativeTo, target, Function.comp_def]

theorem relativeTo_eq_self (h : ∀ q ∈ c.snapshotPaths, root.join q = q) :
    c.relativeTo root = c := by
  have sources :
      c.loadGlobals.map (fun s => { s with path := root.join s.path }) = c.loadGlobals := by
    refine (List.map_congr_left fun s hs => ?_).trans (List.map_id _)
    have same := h s.path (List.mem_append_left _ (List.mem_map_of_mem hs))
    rw [same, id]
  have target : c.saveGlobals.map root.join = c.saveGlobals := by
    cases given : c.saveGlobals with
    | none => rfl
    | some q => rw [Option.map_some, h q (by simp [snapshotPaths, given])]
  rw [relativeTo, sources, target]

/-- Only snapshot paths are seen from a directory, so nothing changes where they are absolute. -/
theorem relativeTo_eq_self_iff :
    c.relativeTo root = c ↔ root = .here ∨ ∀ q ∈ c.snapshotPaths, q.isAbsolute = true := by
  have pointwise : c.relativeTo root = c ↔ ∀ q ∈ c.snapshotPaths, root.join q = q := by
    refine ⟨fun h q hq => ?_, relativeTo_eq_self⟩
    have same : c.snapshotPaths.map root.join = c.snapshotPaths.map id := by
      rw [← snapshotPaths_relativeTo, h, List.map_id]
    exact List.map_inj_left.1 same q hq
  rw [pointwise]
  by_cases still : root = .here <;> simp [Path.join_eq_self_iff, still]

theorem isAbsolute_of_mem_relativeTo (h : root.isAbsolute = true) :
    ∀ q ∈ (c.relativeTo root).snapshotPaths, q.isAbsolute = true := by
  intro q hq
  rw [snapshotPaths_relativeTo] at hq
  obtain ⟨written, -, rfl⟩ := List.mem_map.1 hq
  exact Path.isAbsolute_join h written

theorem load_eq_ok : load t directory p = .ok c ↔ ∃ text j read,
    t.readText directory p = .ok text ∧ Json.parse text = .ok j ∧ ofJson j = .ok read ∧
      read.relativeTo p.parent = c := by
  have kept {ε α : Type} (f : ε → Failure) (a : α) :
      Except.mapError f (.ok a : Except ε α) = .ok a := rfl
  have lost {ε α : Type} (f : ε → Failure) (e : ε) :
      Except.mapError f (.error e : Except ε α) = .error (f e) := rfl
  unfold load
  cases t.readText directory p with
  | error e => simp [lost, bind, Except.bind]
  | ok text =>
    cases parsed : Json.parse text with
    | error e => simp [kept, lost, parsed, bind, Except.bind]
    | ok j =>
      cases checked : ofJson j <;>
        simp [kept, parsed, checked, bind, Except.bind, pure, Except.pure, throw, throwThe,
          MonadExceptOf.throw]

theorem load_of_save (h : c.save t directory p = .ok t') (normal : c.Normal) :
    load t' directory p = .ok (c.relativeTo p.parent) := by
  unfold save at h
  rcases written : t.writeText directory p c.toJson.render with e | tree <;> rw [written] at h <;>
    cases h
  have text := FileTree.readText_render written
  have parsed := Json.parse_render (tidy_config c) (by simp [integers_config])
  exact load_eq_ok.2 ⟨_, _, c, text, parsed, recovers_config.back normal, rfl⟩

/-- A loaded configuration can be saved where it came from, and is then loaded with its snapshot
paths seen from that directory once more. This is the configuration again exactly if the file is in
the directory that is looked from or all these paths are absolute, so whenever the path of the file
is. No loaded text holds half of a surrogate pair, which is refused when the file is read. -/
theorem loaded_again_iff {name : String} (h : load t directory (.ofString name) = .ok c) :
    ∃ t', c.save t directory (.ofString name) = .ok t' ∧
      load t' directory (.ofString name) = .ok (c.relativeTo (Path.ofString name).parent) ∧
      (load t' directory (.ofString name) = .ok c ↔
        (Path.ofString name).parent = .here ∨ ∀ q ∈ c.snapshotPaths, q.isAbsolute = true) ∧
      ((Path.ofString name).isAbsolute = true → load t' directory (.ofString name) = .ok c) := by
  obtain ⟨text, j, read, there, -, checked, rfl⟩ := load_eq_ok.1 h
  have normal := recovers_config.only checked
  have parent := (Path.normal_ofString name).parent
  obtain ⟨t', written⟩ :=
    FileTree.writeText_of_readText there (read.relativeTo (Path.ofString name).parent).toJson.render
  have saved : (read.relativeTo (Path.ofString name).parent).save t directory (.ofString name) =
      .ok t' := by
    rw [save, written]
    rfl
  have again := load_of_save saved (normal.relativeTo parent)
  refine ⟨t', saved, again, ?_, fun absolute => ?_⟩
  · rw [again, Except.ok.injEq, relativeTo_eq_self_iff]
  · rw [again, Except.ok.injEq, relativeTo_eq_self_iff]
    exact .inr (isAbsolute_of_mem_relativeTo absolute)

/-- A configuration that names one snapshot. -/
def oneSource (name : String) : Config := { loadGlobals := [⟨.ofString name, ""⟩] }

theorem normal_oneSource (name : String) : (oneSource name).Normal where
  loadGlobals := by simp [oneSource, Path.normal_ofString]
  saveGlobals := nofun
  logFile := nofun

/-- A directory with a configuration in it. -/
def confTree (c : Config) : FileTree :=
  ⟨((∅ : Table (List String) FileNode).insert ["conf"] .directory).insert ["conf", "c.json"]
    (.file c.toJson.render)⟩

theorem load_confTree {name : String} (normal : c.Normal)
    (place : (confTree c).locate [] (.ofString name) = .ok ["conf", "c.json"]) :
    load (confTree c) [] (.ofString name) = .ok (c.relativeTo (Path.ofString name).parent) := by
  have same : c.save (confTree c) [] (.ofString name) = .ok (confTree c) := by
    unfold save FileTree.writeText FileTree.editText
    rw [place]
    rfl
  exact load_of_save same normal

theorem absolute_snapshot_stays :
    load (confTree (oneSource "snap.json")) [] (.ofString "/conf/c.json") =
        .ok (oneSource "/conf/snap.json") ∧
      ∃ t', (oneSource "/conf/snap.json").save (confTree (oneSource "snap.json")) []
          (.ofString "/conf/c.json") = .ok t' ∧
        load t' [] (.ofString "/conf/c.json") = .ok (oneSource "/conf/snap.json") := by
  have loaded : load (confTree (oneSource "snap.json")) [] (.ofString "/conf/c.json") =
      .ok (oneSource "/conf/snap.json") :=
    load_confTree (normal_oneSource _) (by rfl)
  obtain ⟨t', saved, -, -, again⟩ := loaded_again_iff loaded
  exact ⟨loaded, t', saved, again rfl⟩

/-- Loaded by a relative path, saved and loaded again, a configuration names another snapshot. -/
theorem relative_snapshot_moves :
    load (confTree (oneSource "snap.json")) [] (.ofString "conf/c.json") =
        .ok (oneSource "conf/snap.json") ∧
      (oneSource "conf/snap.json").save (confTree (oneSource "snap.json")) []
        (.ofString "conf/c.json") = .ok (confTree (oneSource "conf/snap.json")) ∧
      load (confTree (oneSource "conf/snap.json")) [] (.ofString "conf/c.json") =
        .ok (oneSource "conf/conf/snap.json") ∧
      oneSource "conf/conf/snap.json" ≠ oneSource "conf/snap.json" := by
  refine ⟨load_confTree (normal_oneSource _) (by rfl), by rfl,
    load_confTree (normal_oneSource _) (by rfl), by decide⟩

end Config

end DeclAtlas
