import DeclAtlas.Proofs.RoundTrip

/-! Snapshots on files. A text without carriage returns that is written to a file is read from it
again, and the JSON text of a value has none. So a snapshot that was saved is loaded as it was. -/

namespace DeclAtlas

namespace FileTree

variable {t t' : FileTree} {directory place start parts : List String} {p : Path} {text : String}

theorem plainLineEnds_of_not_mem {cs : List Char} (h : '\r' ∉ cs) : plainLineEnds cs = cs := by
  fun_induction plainLineEnds cs with
  | case1 => rfl
  | case2 cs ih => simp at h
  | case3 c cs _ ih =>
    rw [List.mem_cons, not_or] at h
    rw [if_neg (Ne.symm h.1), ih h.2]

theorem nodeAt?_insert_of_ne {q : List String} (h : q ≠ place) (t : FileTree) (node : FileNode) :
    nodeAt? ⟨t.nodes.insert place node⟩ q = t.nodeAt? q := by
  cases q with
  | nil => rfl
  | cons name rest =>
    change (t.nodes.insert place node).get? _ = t.nodes.get? _
    rw [Table.get?_insert, if_neg h]

theorem nodeAt?_insert_self (h : place ≠ []) (t : FileTree) (node : FileNode) :
    nodeAt? ⟨t.nodes.insert place node⟩ place = some node := by
  cases place with
  | nil => exact absurd rfl h
  | cons name rest =>
    change (t.nodes.insert _ node).get? _ = _
    rw [Table.get?_insert, if_pos rfl]

/-- What a path passes through are directories, so putting something where it leads to, if there is
no directory, does not change its way. -/
theorem follow_insert (h : t.follow start parts = .ok place)
    (free : t.nodeAt? place ≠ some .directory) (node : FileNode) :
    follow ⟨t.nodes.insert place node⟩ start parts = .ok place := by
  have passed {q : List String} (hq : t.nodeAt? q = some .directory) :
      nodeAt? ⟨t.nodes.insert place node⟩ q = some .directory := by
    have apart : q ≠ place := fun e => free (e ▸ hq)
    rw [nodeAt?_insert_of_ne apart, hq]
  fun_induction follow t start parts with
  | case1 => exact h
  | case2 => cases h
  | case3 => cases h
  | case4 start rest here ih => simpa [follow, passed here] using ih h
  | case5 start name rest here up stay ih => simpa [follow, passed here, up, stay] using ih h
  | case6 => cases h
  | case7 start name rest here up stay short ih =>
    simpa [follow, passed here, up, stay, short] using ih h

theorem readText_of_writeText (h : t.writeText directory p text = .ok t') :
    t'.readText directory p = .ok (String.ofList (plainLineEnds text.toList)) := by
  unfold writeText editText at h
  rcases found : t.locate directory p with e | place <;> rw [found] at h
  · cases h
  have free : t.nodeAt? place ≠ some .directory := by
    intro he
    simp only [bind, Except.bind, he] at h
    cases h
  have written : t' = ⟨t.nodes.insert place (.file text)⟩ := by
    simp only [bind, Except.bind] at h
    split at h
    · exact absurd ‹_› free
    · exact (Except.ok.inj h).symm
    · exact (Except.ok.inj h).symm
  have located : t'.locate directory p = .ok place := by
    rw [written]
    unfold locate at found ⊢
    split at found
    · cases found
    · rename_i whole
      split at found
      · cases found
      · rename_i short
        rw [if_neg whole, if_neg short]
        exact follow_insert found free _
  have held : t'.nodeAt? place = some (.file text) := by
    rw [written]
    refine nodeAt?_insert_self (fun e => free ?_) t _
    rw [e]
    rfl
  simp only [readText, stat, located, bind, Except.bind, held]

end FileTree

namespace Json

section lines

theorem return_not_mem_writeChar (c : Char) : '\r' ∉ writeChar c := by
  have digits : ∀ n < 0x20, '\r' ∉ Text.hex 4 n := by decide
  unfold writeChar
  -- the characters that have an escape of their own, a carriage return among them
  iterate 7
    split
    · simp
  split
  · rename_i low
    simp [digits _ low]
  · rename_i plain _ _ _ _
    simpa using Ne.symm plain

theorem return_not_mem_writeString (s : String) : '\r' ∉ (writeString s).toList := by
  simp [toList_writeString, return_not_mem_writeChar]

theorem return_not_mem_newline (i : Nat) : '\r' ∉ (newline i).toList := by
  simp [newline]

theorem return_not_mem_toString (n : Int) : '\r' ∉ (toString n).toList := by
  rw [toList_toString, List.mem_append]
  rintro (h | h)
  · split at h <;> simp at h
  · exact absurd (all_isDigit_toDigits _ _ h) (by decide)

mutual

/-- The lines of a text end with a line feed alone; a carriage return in a string is escaped. -/
theorem return_not_mem_write : ∀ (j : Json) (i : Nat), '\r' ∉ (write i j).toList
  | .null, _ | .nonFinite, _ | .arr [], _ | .obj [], _ => by simp [write]
  | .bool b, _ => by cases b <;> simp [write]
  | .int n, _ => by rw [write]; exact return_not_mem_toString n
  | .decimal m e, _ => by
    have mantissa := return_not_mem_toString m
    have exponent := return_not_mem_toString e
    rw [Int.toString_eq_repr] at mantissa exponent
    simp [write, writeDecimal, mantissa, exponent, toString]
  | .str s, _ => by rw [write]; exact return_not_mem_writeString s
  | .arr (v :: items), i => by
    simp [write, return_not_mem_newline, return_not_mem_write v, return_not_mem_writeItems items]
  | .obj ((k, v) :: fields), i => by
    simp [write, return_not_mem_newline, return_not_mem_writeString, return_not_mem_write v,
      return_not_mem_writeFields fields]

theorem return_not_mem_writeItems : ∀ (items : List Json) (i : Nat),
    '\r' ∉ (writeItems i items).toList
  | [], _ => by simp [writeItems]
  | v :: items, i => by
    simp [writeItems, return_not_mem_newline, return_not_mem_write v,
      return_not_mem_writeItems items]

theorem return_not_mem_writeFields : ∀ (fields : List (String × Json)) (i : Nat),
    '\r' ∉ (writeFields i fields).toList
  | [], _ => by simp [writeFields]
  | (k, v) :: fields, i => by
    simp [writeFields, return_not_mem_newline, return_not_mem_writeString, return_not_mem_write v,
      return_not_mem_writeFields fields]

end

end lines

end Json

theorem FileTree.readText_render {t t' : FileTree} {directory : List String} {p : Path} {j : Json}
    (h : t.writeText directory p j.render = .ok t') : t'.readText directory p = .ok j.render := by
  have lines : '\r' ∉ j.render.toList := Json.return_not_mem_write j 0
  rw [readText_of_writeText h, plainLineEnds_of_not_mem lines, String.ofList_toList]

namespace Snapshot

variable {s : Snapshot} {t t' : FileTree} {directory : List String} {p : Path}

theorem load_of_save (h : s.save t directory p = .ok t') (version : s.version = Failure.snapshotFormat)
    (short : ∀ n ∈ s.toJson.integers, Json.Short n) (qualifier : String) :
    load t' directory p qualifier = .ok (s.builtins qualifier) := by
  unfold save at h
  split at h
  · rename_i fits
    rcases hw : t.writeText directory p s.toJson.render with e | tree <;> rw [hw] at h <;> cases h
    have text := FileTree.readText_render hw
    have parsed := Json.parse_render (tidy_snapshot s) short
    have checked := recovers_snapshot.back fits
    have kept {ε α : Type} (f : ε → Failure) (a : α) :
        Except.mapError f (.ok a : Except ε α) = .ok a := rfl
    simp only [load, text, parsed, checked, version, kept, bind, Except.bind, if_true]
    rfl
  · cases h

end Snapshot

end DeclAtlas
