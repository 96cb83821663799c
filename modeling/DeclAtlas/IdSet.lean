/-! Finite sets of identities. A set is kept as its strictly increasing list, so two
sets with the same members are equal and the members come out sorted. -/

namespace DeclAtlas

structure IdSet where
  ids : List Int
  ascending : ids.Pairwise (· < ·)

namespace IdSet

instance : EmptyCollection IdSet := ⟨⟨[], .nil⟩⟩

instance : Inhabited IdSet := ⟨∅⟩

instance : Membership Int IdSet := ⟨fun s i => i ∈ s.ids⟩

theorem mem_def {s : IdSet} {i : Int} : i ∈ s ↔ i ∈ s.ids := Iff.rfl

instance (i : Int) (s : IdSet) : Decidable (i ∈ s) := inferInstanceAs (Decidable (i ∈ s.ids))

/-- Insertion into an ascending list; an identity already there stays once. -/
def insertSorted (i : Int) : List Int → List Int
  | [] => [i]
  | j :: js => if i < j then i :: j :: js else if i = j then j :: js else j :: insertSorted i js

theorem mem_insertSorted {i j : Int} {l : List Int} : j ∈ insertSorted i l ↔ j = i ∨ j ∈ l := by
  induction l with
  | nil => simp [insertSorted]
  | cons k ks ih =>
    unfold insertSorted
    split
    · simp
    · split
      · rename_i h; subst h; simp
      · simp only [List.mem_cons, ih]; grind

theorem pairwise_insertSorted {i : Int} {l : List Int} (h : l.Pairwise (· < ·)) :
    (insertSorted i l).Pairwise (· < ·) := by
  induction l with
  | nil => simp [insertSorted]
  | cons k ks ih =>
    rw [List.pairwise_cons] at h
    unfold insertSorted
    split
    · rename_i hk
      refine List.pairwise_cons.2 ⟨fun x hx => ?_, List.pairwise_cons.2 h⟩
      rcases List.mem_cons.1 hx with rfl | hx
      · exact hk
      · exact Int.lt_trans hk (h.1 x hx)
    · split
      · exact List.pairwise_cons.2 h
      · refine List.pairwise_cons.2 ⟨fun x hx => ?_, ih h.2⟩
        rcases mem_insertSorted.1 hx with rfl | hx
        · omega
        · exact h.1 x hx

def insert (i : Int) (s : IdSet) : IdSet :=
  ⟨insertSorted i s.ids, pairwise_insertSorted s.ascending⟩

def filter (p : Int → Bool) (s : IdSet) : IdSet := ⟨s.ids.filter p, s.ascending.filter p⟩

theorem filter_eq_empty {p : Int → Bool} (h : ∀ i, p i = false) (s : IdSet) : s.filter p = ∅ := by
  have none : s.ids.filter p = [] := by simp [h]
  unfold filter
  congr 1

def erase (i : Int) (s : IdSet) : IdSet := s.filter (· != i)

def ofList (l : List Int) : IdSet := l.foldr insert ∅

@[simp] theorem mem_insert {i j : Int} {s : IdSet} : j ∈ s.insert i ↔ j = i ∨ j ∈ s :=
  mem_insertSorted

@[simp] theorem mem_filter {i : Int} {p : Int → Bool} {s : IdSet} :
    i ∈ s.filter p ↔ i ∈ s ∧ p i = true := by
  simp [mem_def, filter]

@[simp] theorem mem_erase {i j : Int} {s : IdSet} : j ∈ s.erase i ↔ j ∈ s ∧ j ≠ i := by
  simp [erase]

@[simp] theorem not_mem_empty {i : Int} : ¬ i ∈ (∅ : IdSet) := by
  simp [mem_def, EmptyCollection.emptyCollection]

@[simp] theorem mem_ofList {i : Int} {l : List Int} : i ∈ ofList l ↔ i ∈ l := by
  induction l with
  | nil => simp [ofList]
  | cons j js ih => simpa [ofList] using or_congr_right ih

theorem insertSorted_of_lt {i : Int} {l : List Int} (h : ∀ j ∈ l, i < j) :
    insertSorted i l = i :: l := by
  cases l with
  | nil => rfl
  | cons j js => rw [insertSorted, if_pos (h j (List.mem_cons_self ..))]

theorem ofList_ids (s : IdSet) : ofList s.ids = s := by
  obtain ⟨ids, ascending⟩ := s
  have same : (ofList ids).ids = ids := by
    induction ids with
    | nil => rfl
    | cons i rest ih =>
      obtain ⟨first, rest'⟩ := List.pairwise_cons.1 ascending
      have tail : (ofList (i :: rest)).ids =
        insertSorted i (ofList rest).ids := rfl
      rw [tail, ih rest', insertSorted_of_lt first]
  generalize hs : ofList ids = s at same
  obtain ⟨ids', _⟩ := s
  subst same
  rfl

end IdSet

end DeclAtlas
