/-! Tables. A table remembers the order in which its keys first came in; putting a value
under a key already there replaces the value in place. -/

namespace DeclAtlas

/-- A finite map in order of first insertion. -/
structure Table (κ α : Type) where
  entries : List (κ × α)
  distinct : (entries.map Prod.fst).Nodup

namespace Table

variable {κ α : Type}

instance : EmptyCollection (Table κ α) := ⟨⟨[], .nil⟩⟩

instance : Inhabited (Table κ α) := ⟨∅⟩

def keys (t : Table κ α) : List κ := t.entries.map Prod.fst

def values (t : Table κ α) : List α := t.entries.map Prod.snd

def size (t : Table κ α) : Nat := t.entries.length

def filterKeys (p : κ → Bool) (t : Table κ α) : Table κ α :=
  ⟨t.entries.filter (fun e => p e.1),
    ((List.filter_sublist (p := fun e => p e.1)).map Prod.fst).nodup t.distinct⟩

theorem mem_keys_filterKeys {t : Table κ α} {p : κ → Bool} {k : κ} :
    k ∈ (t.filterKeys p).keys ↔ k ∈ t.keys ∧ p k = true := by
  simp only [keys, filterKeys, List.mem_map, List.mem_filter]
  constructor
  · rintro ⟨e, ⟨he, hp⟩, rfl⟩
    exact ⟨⟨e, he, rfl⟩, hp⟩
  · rintro ⟨⟨e, he, rfl⟩, hp⟩
    exact ⟨e, ⟨he, hp⟩, rfl⟩

theorem filterKeys_eq_empty {p : κ → Bool} (h : ∀ k, p k = false) (t : Table κ α) :
    t.filterKeys p = ∅ := by
  have none : t.entries.filter (fun e => p e.1) = [] := by simp [h]
  unfold filterKeys
  congr 1

variable [DecidableEq κ]

def put (k : κ) (a : α) : List (κ × α) → List (κ × α)
  | [] => [(k, a)]
  | (j, b) :: rest => if j = k then (j, a) :: rest else (j, b) :: put k a rest

theorem map_fst_put (k : κ) (a : α) (l : List (κ × α)) :
    (put k a l).map Prod.fst =
      if k ∈ l.map Prod.fst then l.map Prod.fst else l.map Prod.fst ++ [k] := by
  induction l with
  | nil => simp [put]
  | cons e rest ih =>
    obtain ⟨j, b⟩ := e
    by_cases h : j = k
    · simp [put, h]
    · have h' : k ≠ j := fun e => h e.symm
      simp only [put, h, if_false, List.map_cons, ih, List.mem_cons, h', false_or]
      split <;> simp

theorem nodup_put {k : κ} {a : α} {l : List (κ × α)} (h : (l.map Prod.fst).Nodup) :
    ((put k a l).map Prod.fst).Nodup := by
  rw [map_fst_put]
  split
  · exact h
  · rename_i hk
    refine List.nodup_append.2 ⟨h, by simp, fun x hx y hy => ?_⟩
    rw [List.mem_singleton.1 hy]
    exact fun e => hk (e ▸ hx)

def insert (k : κ) (a : α) (t : Table κ α) : Table κ α :=
  ⟨put k a t.entries, nodup_put t.distinct⟩

def get? (t : Table κ α) (k : κ) : Option α := t.entries.lookup k

def contains (t : Table κ α) (k : κ) : Bool := (t.get? k).isSome

def erase (k : κ) (t : Table κ α) : Table κ α := t.filterKeys (· != k)

/-- The table built by inserting pairs from left to right. -/
def ofList (l : List (κ × α)) : Table κ α := l.foldl (fun t e => t.insert e.1 e.2) ∅

theorem lookup_put (k j : κ) (a : α) (l : List (κ × α)) :
    (put k a l).lookup j = if j = k then some a else l.lookup j := by
  induction l with
  | nil =>
    by_cases h : j = k
    · simp [put, h]
    · simp [put, List.lookup_cons, h, show (j == k) = false by simpa using h]
  | cons e rest ih =>
    obtain ⟨i, b⟩ := e
    by_cases h : i = k
    · subst h
      by_cases hj : j = i
      · simp [put, hj]
      · simp [put, List.lookup_cons, hj, show (j == i) = false by simpa using hj]
    · by_cases hj : j = i
      · subst hj; simp [put, h]
      · simp [put, h, List.lookup_cons, show (j == i) = false by simpa using hj, ih]

@[simp] theorem get?_insert (t : Table κ α) (k j : κ) (a : α) :
    (t.insert k a).get? j = if j = k then some a else t.get? j :=
  lookup_put k j a t.entries

@[simp] theorem get?_empty (k : κ) : (∅ : Table κ α).get? k = none := rfl

theorem keys_insert (t : Table κ α) (k : κ) (a : α) :
    (t.insert k a).keys = if k ∈ t.keys then t.keys else t.keys ++ [k] :=
  map_fst_put k a t.entries

theorem mem_keys {t : Table κ α} {k : κ} : k ∈ t.keys ↔ ∃ a, t.get? k = some a := by
  constructor
  · intro hk
    obtain ⟨e, he, rfl⟩ := List.mem_map.1 hk
    cases h : t.get? e.1 with
    | some a => exact ⟨a, rfl⟩
    | none => exact absurd (List.lookup_eq_none_iff.1 h e he) (by simp)
  · rintro ⟨a, h⟩
    obtain ⟨before, after, he, -⟩ := List.lookup_eq_some_iff.1 h
    simp [keys, he]

theorem get?_filterKeys {p : κ → Bool} {k : κ} (h : p k = true) (t : Table κ α) :
    (t.filterKeys p).get? k = t.get? k := by
  change (t.entries.filter fun e => p e.1).lookup k = t.entries.lookup k
  induction t.entries with
  | nil => rfl
  | cons e rest ih =>
    obtain ⟨j, a⟩ := e
    by_cases hj : k = j
    · subst hj; simp [h]
    · have hne : (k == j) = false := by simpa using hj
      rw [List.filter_cons]
      split <;> simp [List.lookup_cons, hne, ih]

theorem get?_filterKeys_eq_some {t : Table κ α} {p : κ → Bool} {k : κ} {a : α} :
    (t.filterKeys p).get? k = some a ↔ p k = true ∧ t.get? k = some a := by
  constructor
  · intro h
    have hp := (mem_keys_filterKeys.1 (mem_keys.2 ⟨a, h⟩)).2
    exact ⟨hp, get?_filterKeys hp t ▸ h⟩
  · rintro ⟨hp, h⟩
    rw [get?_filterKeys hp]
    exact h

theorem get?_foldl_insert {l : List (κ × α)} {t : Table κ α} {k : κ} {a : α}
    (h : (l.foldl (fun t e => t.insert e.1 e.2) t).get? k = some a) :
    (k, a) ∈ l ∨ t.get? k = some a := by
  induction l generalizing t with
  | nil => exact .inr h
  | cons e rest ih =>
    rcases ih h with h | h
    · exact .inl (List.mem_cons_of_mem _ h)
    · rw [get?_insert] at h
      split at h
      · rename_i hk
        cases h
        exact .inl (hk ▸ List.mem_cons_self ..)
      · exact .inr h

theorem mem_of_get?_ofList {l : List (κ × α)} {k : κ} {a : α} (h : (ofList l).get? k = some a) :
    (k, a) ∈ l :=
  (get?_foldl_insert h).resolve_right (by simp)

theorem mem_keys_foldl_insert {l : List (κ × α)} {t : Table κ α} {k : κ} :
    k ∈ (l.foldl (fun t e => t.insert e.1 e.2) t).keys ↔ k ∈ t.keys ∨ k ∈ l.map Prod.fst := by
  induction l generalizing t with
  | nil => simp
  | cons e rest ih =>
    have first : k ∈ (t.insert e.1 e.2).keys ↔ k ∈ t.keys ∨ k = e.1 := by
      rw [keys_insert]
      split
      · rename_i he
        exact ⟨.inl, fun h => h.elim id (· ▸ he)⟩
      · simp
    rw [List.foldl_cons, ih, first, List.map_cons, List.mem_cons, or_assoc]

theorem mem_keys_ofList {l : List (κ × α)} {k : κ} : k ∈ (ofList l).keys ↔ k ∈ l.map Prod.fst := by
  rw [ofList, mem_keys_foldl_insert]
  simp [keys, EmptyCollection.emptyCollection]

theorem put_of_not_mem {k : κ} {a : α} {l : List (κ × α)} (h : k ∉ l.map Prod.fst) :
    put k a l = l ++ [(k, a)] := by
  induction l with
  | nil => rfl
  | cons e rest ih =>
    simp only [List.map_cons, List.mem_cons, not_or] at h
    rw [put, if_neg (Ne.symm h.1), ih h.2]
    rfl

theorem entries_foldl_insert {l : List (κ × α)} {t : Table κ α}
    (h : ((t.entries ++ l).map Prod.fst).Nodup) :
    (l.foldl (fun t e => t.insert e.1 e.2) t).entries = t.entries ++ l := by
  induction l generalizing t with
  | nil => simp
  | cons e rest ih =>
    obtain ⟨k, a⟩ := e
    have fresh : k ∉ t.entries.map Prod.fst := by
      rw [List.map_append, List.nodup_append] at h
      intro hk
      exact h.2.2 k hk k (by simp) rfl
    have put : (t.insert k a).entries = t.entries ++ [(k, a)] := put_of_not_mem fresh
    rw [List.foldl_cons, ih (by rw [put]; simpa using h), put, List.append_assoc]
    rfl

theorem get?_of_mem {t : Table κ α} {k : κ} {a : α} (h : (k, a) ∈ t.entries) :
    t.get? k = some a := by
  obtain ⟨before, after, split⟩ := List.append_of_mem h
  refine List.lookup_eq_some_iff.2 ⟨before, after, split, fun e he => ?_⟩
  have distinct := t.distinct
  rw [split, List.map_append, List.nodup_append] at distinct
  rw [bne_iff_ne]
  exact (distinct.2.2 e.1 (List.mem_map_of_mem he) k (by simp)).symm

theorem ofList_entries (t : Table κ α) : ofList t.entries = t := by
  have same : (ofList t.entries).entries = t.entries := entries_foldl_insert t.distinct
  generalize ofList t.entries = t' at same
  obtain ⟨entries', _⟩ := t'
  obtain ⟨entries, _⟩ := t
  subst same
  rfl

end Table

abbrev IdTable (α : Type) : Type := Table Int α

end DeclAtlas
