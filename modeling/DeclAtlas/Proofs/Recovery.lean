import DeclAtlas.Json.Checked
import DeclAtlas.Json.Write

/-! Reading back what was written, for the values that others are made of. A way of writing and a way
of reading belong together if reading recovers what was written wherever a condition holds, and reads
nothing for which it does not. What is read from anything at all is then read again from how it is
written: reading it in brings a value into its one written form. -/

namespace DeclAtlas.Json

namespace Checked

variable {α β : Type} {x : Checked α} {f : Checked (α → β)} {a : α} {b : β} {key : String}

@[simp] theorem map_ok (g : α → β) (a : α) : g <$> (ok a : Checked α) = ok (g a) := rfl

@[simp] theorem ok_seq_ok (g : α → β) (a : α) : (ok g : Checked (α → β)) <*> ok a = ok (g a) := rfl

@[simp] theorem under_ok (key : String) (a : α) : (ok a).under key = ok a := rfl

@[simp] theorem issue_eq_ok {kind : IssueKind} : (issue kind = ok a) = False :=
  eq_false fun h => by cases h

@[simp] theorem under_eq_ok : x.under key = ok a ↔ x = ok a := by
  cases x <;> simp [under]

@[simp] theorem map_eq_ok {g : α → β} : g <$> x = ok b ↔ ∃ a, x = ok a ∧ g a = b := by
  cases x with
  | ok a => simp
  | bad issues => simp [Functor.map, Checked.map]

@[simp] theorem seq_eq_ok : f <*> x = ok b ↔ ∃ g, f = ok g ∧ ∃ a, x = ok a ∧ g a = b := by
  cases f with
  | ok g =>
    cases x with
    | ok a => simp
    | bad issues => simp [Seq.seq, Checked.apply]
  | bad issues => cases x <;> simp [Seq.seq, Checked.apply]

end Checked

section fields

@[simp] theorem lookup_cons_eq_ite {β : Type} (key k : String) (b : β) (l : List (String × β)) :
    ((k, b) :: l).lookup key = if key = k then some b else l.lookup key := by
  rw [List.lookup_cons]
  by_cases h : key = k
  · simp [h]
  · rw [if_neg h, beq_eq_false_iff_ne.2 h]

variable {α : Type} {fields : List (String × Json)} {key : String} {f : Json → Checked α} {a d : α}

@[simp] theorem required_cons {k : String} {v : Json} : required ((k, v) :: fields) key f =
    if key = k then (f v).under key else required fields key f := by
  unfold required
  rw [lookup_cons_eq_ite]
  by_cases h : key = k <;> simp only [h, if_true, if_false]

@[simp] theorem optional_cons {k : String} {v : Json} : optional ((k, v) :: fields) key d f =
    if key = k then (f v).under key else optional fields key d f := by
  unfold optional
  rw [lookup_cons_eq_ite]
  by_cases h : key = k <;> simp only [h, if_true, if_false]

theorem required_eq_ok :
    required fields key f = .ok a ↔ ∃ v, fields.lookup key = some v ∧ f v = .ok a := by
  unfold required
  cases fields.lookup key <;> simp

theorem of_optional_eq_ok {p : α → Prop} (h : optional fields key d f = .ok a) (default : p d)
    (read : ∀ {v}, f v = .ok a → p a) : p a := by
  unfold optional at h
  split at h
  · exact read (Checked.under_eq_ok.1 h)
  · cases h
    exact default

theorem asObject_eq_ok {f : List (String × Json) → Checked α} {j : Json}
    (h : asObject f j = .ok a) : ∃ fields, f fields = .ok a := by
  cases j <;> first | exact ⟨_, h⟩ | cases h

theorem asTagged_eq_ok {shapes : List (String × (List (String × Json) → Checked α))} {j : Json}
    (h : asTagged shapes j = .ok a) : ∃ shape ∈ shapes, ∃ fields, shape.2 fields = .ok a := by
  unfold asTagged at h
  split at h
  · split at h
    · cases h
    · split at h
      · rename_i f hf
        obtain ⟨before, after, rfl, -⟩ := List.lookup_eq_some_iff.1 hf
        exact ⟨(_, f), List.mem_append_right _ (List.mem_cons_self ..), _, Checked.under_eq_ok.1 h⟩
      · cases h
    · cases h
  · cases h

end fields

/-- `read` recovers what `write` writes exactly where `p` holds. -/
structure Recovers {α : Type} (write : α → Json) (read : Json → Checked α) (p : α → Prop) :
    Prop where
  back : ∀ {a}, p a → read (write a) = .ok a
  only : ∀ {j a}, read j = .ok a → p a

namespace Recovers

variable {α : Type} {write : α → Json} {read : Json → Checked α} {p : α → Prop}

theorem of_back (h : ∀ a, read (write a) = .ok a) : Recovers write read fun _ => True :=
  ⟨fun _ => h _, fun _ => trivial⟩

theorem str : Recovers .str asString fun _ => True := .of_back fun _ => rfl

theorem int : Recovers .int asInt fun _ => True := .of_back fun _ => rfl

theorem bool : Recovers .bool asBool fun _ => True := .of_back fun _ => rfl

theorem word {word : α → String} {ofWord? : String → Option α}
    (h : ∀ a, ofWord? (word a) = some a) :
    Recovers (fun a => .str (word a)) (asWord ofWord?) fun _ => True :=
  .of_back fun a => by rw [asWord, h a]

theorem option (h : Recovers write read p) (written : ∀ a, write a ≠ .null) :
    Recovers (.ofOption write) (asOption read) fun o => ∀ a ∈ o, p a := by
  refine ⟨fun {o} ho => ?_, fun {j o} hj => ?_⟩
  · cases o with
    | none => rfl
    | some a =>
      have present : asOption read (write a) = some <$> read (write a) := by
        unfold asOption
        split
        · exact absurd ‹_› (written a)
        · rfl
      rw [ofOption, present, h.back (ho a rfl)]
      rfl
  · unfold asOption at hj
    split at hj
    · cases hj
      intro a ha
      cases ha
    · obtain ⟨a, ha, rfl⟩ := Checked.map_eq_ok.1 hj
      intro b hb
      cases hb
      exact h.only ha

theorem checkItems_map (h : Recovers write read p) {l : List α} (hl : ∀ a ∈ l, p a) (i : Nat) :
    checkItems read i (l.map write) = .ok l := by
  induction l generalizing i with
  | nil => rfl
  | cons a rest ih =>
    rw [List.map_cons, checkItems, h.back (hl a (List.mem_cons_self ..)),
      ih (fun b hb => hl b (List.mem_cons_of_mem _ hb))]
    rfl

theorem of_checkItems (h : Recovers write read p) {js : List Json} {l : List α} {i : Nat}
    (hl : checkItems read i js = .ok l) : ∀ a ∈ l, p a := by
  induction js generalizing l i with
  | nil =>
    cases hl
    intro a ha
    cases ha
  | cons j js ih =>
    simp only [checkItems, Checked.seq_eq_ok, Checked.map_eq_ok, Checked.under_eq_ok] at hl
    obtain ⟨_, ⟨a, ha, rfl⟩, rest, hrest, rfl⟩ := hl
    intro b hb
    rcases List.mem_cons.1 hb with rfl | hb
    · exact h.only ha
    · exact ih hrest b hb

theorem list (h : Recovers write read p) :
    Recovers (.ofList write) (asList read) fun l => ∀ a ∈ l, p a := by
  refine ⟨fun hl => h.checkItems_map hl 0, fun {j l} hj => ?_⟩
  cases j <;> first | exact h.of_checkItems hj | cases hj

end Recovers

section numerals

theorem eq_zero_of_head_toDigits {n : Nat} (h : (Nat.toDigits 10 n).head? = some '0') : n = 0 := by
  induction n using Nat.strongRecOn with
  | ind n ih =>
    by_cases small : n < 10
    · rw [Nat.toDigits_of_lt_base small] at h
      exact Nat.digitChar_eq_zero.1 (Option.some.inj h)
    · rw [Nat.toDigits_of_base_le (by omega) (by omega), List.head?_append] at h
      cases front : (Nat.toDigits 10 (n / 10)).head? with
      | none => exact absurd (List.head?_eq_none_iff.1 front) Nat.toDigits_ne_nil
      | some c =>
        rw [front] at h
        have zero := ih (n / 10) (by omega) (front.trans h)
        omega

theorem all_isDigit_toDigits (n : Nat) : ∀ c ∈ Nat.toDigits 10 n, c.isDigit = true :=
  fun _ hc => Nat.isDigit_of_mem_toDigits (by decide) (by decide) hc

theorem digitsToNat_toDigits (n : Nat) : digitsToNat (Nat.toDigits 10 n) = n :=
  Nat.ofDigitChars_toDigits (by decide) (by decide)

theorem toList_toString (n : Int) : (toString n).toList =
    (if n < 0 then ['-'] else []) ++ Nat.toDigits 10 n.natAbs := by
  rw [Int.toString_eq_repr, Int.repr_eq_if]
  by_cases h : 0 ≤ n
  · rw [if_pos h, if_neg (by omega), Nat.repr_eq_ofList_toDigits, String.toList_ofList,
      List.nil_append, show n.toNat = n.natAbs by omega]
  · rw [if_neg h, if_pos (by omega), String.toList_append, Nat.repr_eq_ofList_toDigits,
      String.toList_ofList, String.toList_ofList, show (-n).toNat = n.natAbs by omega]

theorem span_toDigits (n : Nat) (rest : List Char) (h : ∀ c ∈ rest.head?, c.isDigit = false) :
    (Nat.toDigits 10 n ++ rest).takeWhile Char.isDigit = Nat.toDigits 10 n ∧
      (Nat.toDigits 10 n ++ rest).dropWhile Char.isDigit = rest := by
  have digits := all_isDigit_toDigits n
  rw [List.takeWhile_append_of_pos digits, List.dropWhile_append_of_pos digits]
  cases rest with
  | nil => simp
  | cons c rest => simp [h c rfl]

theorem head_toDigits_ne (n : Nat) : (Nat.toDigits 10 n).head? ≠ some '-' := by
  intro h
  have := all_isDigit_toDigits n '-' (List.mem_of_head? h)
  revert this
  decide

theorem toString_inj {n m : Int} (h : toString n = toString m) : n = m := by
  have digits (n m : Nat) (h : Nat.toDigits 10 n = Nat.toDigits 10 m) : n = m := by
    rw [← digitsToNat_toDigits n, h, digitsToNat_toDigits]
  have text := congrArg String.toList h
  rw [toList_toString, toList_toString] at text
  have plain := head_toDigits_ne
  by_cases hn : n < 0 <;> by_cases hm : m < 0 <;>
    simp only [hn, hm, if_true, if_false, List.nil_append, List.singleton_append] at text
  · have := digits _ _ (List.cons.inj text).2
    omega
  · exact absurd (congrArg List.head? text.symm) (plain _)
  · exact absurd (congrArg List.head? text) (plain _)
  · have := digits _ _ text
    omega

theorem plainInteger_toString {n : Int} (h : (toString n).length ≤ digitLimit) :
    plainInteger (toString n).toList = .ok n := by
  have whole : (Nat.toDigits 10 n.natAbs).takeWhile Char.isDigit = Nat.toDigits 10 n.natAbs := by
    have := (span_toDigits n.natAbs [] (by simp)).1
    rwa [List.append_nil] at this
  have zeros : (Nat.toDigits 10 n.natAbs).head? = some '0' →
      (Nat.toDigits 10 n.natAbs).length = 1 := by
    intro h
    rw [eq_zero_of_head_toDigits h]
    rfl
  have some_digit : (Nat.toDigits 10 n.natAbs) ≠ [] := Nat.toDigits_ne_nil
  have plain := head_toDigits_ne n.natAbs
  have value := digitsToNat_toDigits n.natAbs
  rw [← String.length_toList, toList_toString] at h
  rw [toList_toString]
  generalize Nat.toDigits 10 n.natAbs = ds at *
  generalize size : n.natAbs = k at *
  have zero : ¬(ds.head? = some '0' ∧ ¬ds.length = 1) := fun h => h.2 (zeros h.1)
  by_cases negative : n < 0
  · simp only [negative, if_true, List.cons_append, List.nil_append, List.length_cons] at h
    have short : ¬digitLimit < 1 + ds.length := by omega
    have signed : -(k : Int) = n := by omega
    simp [plainInteger, negative, whole, some_digit, zero, short, value, signed]
  · simp only [negative, if_false, List.nil_append] at h
    have short : ¬digitLimit < ds.length := by omega
    have signed : (k : Int) = n := by omega
    simp [plainInteger, negative, whole, some_digit, plain, zero, short, value, signed]

theorem digit_le {c : Char} (h : c.isDigit = true) : c.toNat - '0'.toNat ≤ 9 := by
  have : c.val ≤ 57 := by simpa using (Bool.and_eq_true_iff.1 h).2
  have : c.toNat ≤ 57 := this
  have : '0'.toNat = 48 := rfl
  omega

theorem length_toDigits_digitsToNat_le {ds : List Char} (h : ∀ c ∈ ds, c.isDigit = true)
    (some_digit : ds ≠ []) : (Nat.toDigits 10 (digitsToNat ds)).length ≤ ds.length := by
  have bound (n : Nat) :
      ds.foldl (fun n c => 10 * n + (c.toNat - '0'.toNat)) n < (n + 1) * 10 ^ ds.length := by
    clear some_digit
    induction ds generalizing n with
    | nil => simp
    | cons c ds ih =>
      have digit := digit_le (h c (List.mem_cons_self ..))
      have rest := ih (fun d hd => h d (List.mem_cons_of_mem _ hd)) (10 * n + (c.toNat - '0'.toNat))
      have room : (10 * n + (c.toNat - '0'.toNat) + 1) * 10 ^ ds.length ≤
          ((n + 1) * 10) * 10 ^ ds.length := Nat.mul_le_mul_right _ (by omega)
      rw [List.foldl_cons, List.length_cons, Nat.pow_succ, Nat.mul_comm (10 ^ ds.length),
        ← Nat.mul_assoc]
      exact Nat.lt_of_lt_of_le rest room
  have below := bound 0
  rw [Nat.zero_add, Nat.one_mul] at below
  exact (Nat.length_toDigits_le_iff (by decide) (List.length_pos_iff.2 some_digit)).2 below

theorem length_le_of_plainInteger {cs : List Char} {n : Int} (h : plainInteger cs = .ok n) :
    (toString n).length ≤ digitLimit := by
  unfold plainInteger at h
  dsimp only at h
  generalize hneg : (cs.head? == some '-') = negative at h
  generalize hbody : (if negative = true then cs.drop 1 else cs) = body at h
  -- the ways to fail, one by one; what is left was read from digits only
  split at h
  · cases h
  split at h
  · cases h
  split at h
  · cases h
  rename_i first short _
  have digits := List.all_eq_true.1 (List.all_takeWhile (l := body) (p := Char.isDigit))
  have some_digit := (Bool.or_eq_false_iff.1 (Bool.not_eq_true _ ▸ first)).1
  have size := length_toDigits_digitsToNat_le digits (List.isEmpty_eq_false_iff.1 some_digit)
  rw [← String.length_toList, toList_toString, List.length_append]
  cases negative with
  | true =>
    obtain ⟨rest, rfl⟩ := List.head?_eq_some_iff.1 (beq_iff_eq.1 hneg)
    obtain rfl : rest = body := hbody
    cases h
    rw [if_pos rfl, Int.natAbs_neg, Int.natAbs_natCast]
    rw [List.length_cons] at short
    split <;> simp only [List.length_cons, List.length_nil] <;> omega
  | false =>
    cases h
    rw [if_neg Bool.false_ne_true, if_neg (by omega), Int.natAbs_natCast, List.length_nil]
    omega

theorem length_le_of_integerOfString {s : String} {n : Int} (h : integerOfString s = .ok n) :
    (toString n).length ≤ digitLimit := by
  unfold integerOfString at h
  split at h
  · cases h
    exact length_le_of_plainInteger ‹_›
  · cases h
  · split at h
    · rename_i m hm
      cases h
      obtain ⟨cs, -, hcs⟩ := Option.map_eq_some_iff.1 hm
      exact length_le_of_plainInteger hcs
    · cases h

theorem integerOfString_toString {n : Int} (h : (toString n).length ≤ digitLimit) :
    integerOfString (toString n) = .ok n := by
  rw [integerOfString, plainInteger_toString h]

end numerals

end DeclAtlas.Json
