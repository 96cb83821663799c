import DeclAtlas.Proofs.Recovery

/-! JSON text, there and back. What is written for a value is read as that value, if its objects have
no key twice and its integers are not too long to be read. -/

namespace DeclAtlas.Json

section strings

theorem hex4?_hex {n : Nat} (h : n < 0x20) : ∃ a b c d, Text.hex 4 n = [a, b, c, d] ∧
    hex4? a b c d = some n := by
  let digit (n : Nat) := Text.hexDigits.getD (n % 16) '0'
  have value : ∀ n < 0x20, hex4? (digit (n / 16 / 16 / 16)) (digit (n / 16 / 16)) (digit (n / 16))
      (digit n) = some n := by decide
  exact ⟨_, _, _, _, rfl, value n h⟩

theorem readCodes_writeChar (c : Char) (cs : List Char) :
    readCodes (writeChar c ++ cs) = prepend c.toNat (readCodes cs) := by
  unfold writeChar
  -- the characters that have an escape of their own
  iterate 7
    split
    · rename_i h
      subst h
      simp [readCodes, escaped?]
  split
  · rename_i low
    obtain ⟨a, b, d, e, hex, value⟩ := hex4?_hex low
    simp [hex, readCodes, value]
  · rename_i quote backslash _ _ _ _ _ low
    rw [List.singleton_append, readCodes]
    · simp [low, backslash]
    · exact quote
    · exact fun _ _ _ _ _ h => absurd h backslash
    · exact fun _ _ h => absurd h backslash

theorem readCodes_writeString (s rest : List Char) :
    readCodes (s.flatMap writeChar ++ '"' :: rest) = .ok (s.map Char.toNat, rest) := by
  induction s with
  | nil => simp [readCodes]
  | cons c s ih =>
    rw [List.flatMap_cons, List.append_assoc, readCodes_writeChar, ih]
    rfl

theorem not_surrogate (c : Char) : ¬(0xD800 ≤ c.toNat ∧ c.toNat < 0xE000) := by
  have valid : c.toNat < 0xD800 ∨ 0xDFFF < c.toNat ∧ c.toNat < 0x110000 := c.valid
  omega

theorem charOfCode_toNat (c : Char) : charOfCode c.toNat = .ok c := by
  rw [charOfCode, if_neg (not_surrogate c), Char.ofNat_toNat]

/-- No character stands for half of a surrogate pair, so no two are joined. -/
theorem joinCodes_toNat (s : List Char) : joinCodes (s.map Char.toNat) = .ok s := by
  induction s with
  | nil => rfl
  | cons c s ih =>
    have single : isHighSurrogate c.toNat = false := by
      have := not_surrogate c
      rw [isHighSurrogate, decide_eq_false_iff_not]
      omega
    cases s with
    | nil => rw [List.map_singleton, joinCodes, charOfCode_toNat]; rfl
    | cons d s =>
      rw [List.map_cons] at ih
      rw [List.map_cons, List.map_cons, joinCodes, single, charOfCode_toNat, ih]
      rfl

theorem toList_writeString (s : String) :
    (writeString s).toList = '"' :: (s.toList.flatMap writeChar ++ ['"']) := by
  rw [writeString, String.toList_ofList]

theorem readString_writeString (s : String) (rest : List Char) :
    readString (s.toList.flatMap writeChar ++ '"' :: rest) = .ok (s, rest) := by
  have joined : joinCodes (s.toList.map Char.toNat) = .ok s.toList := joinCodes_toNat s.toList
  rw [readString, readCodes_writeString]
  change (joinCodes (s.toList.map Char.toNat)).map _ = _
  rw [joined, Except.map, String.ofList_toList]

end strings

section numbers

/-- A value can end here: the end of the text, a comma or a new line follows. -/
def Ends (rest : List Char) : Prop := ∀ c ∈ rest.head?, c = ',' ∨ c = '\n'

variable {rest : List Char}

theorem readWhole_toDigits (n : Nat) (h : Ends rest) :
    readWhole (Nat.toDigits 10 n ++ rest) = some (Nat.toDigits 10 n, rest) := by
  have behind : ∀ c ∈ rest.head?, c.isDigit = false := by
    intro c hc
    rcases h c hc with rfl | rfl <;> rfl
  obtain ⟨digits, after⟩ := span_toDigits n rest behind
  have read : readDigits (Nat.toDigits 10 n ++ rest) = some (Nat.toDigits 10 n, rest) := by
    rw [readDigits, digits, after]
    split
    · exact absurd ‹_› Nat.toDigits_ne_nil
    · rfl
  unfold readWhole
  split
  · rename_i cs rest' split
    have zero : n = 0 := by
      apply eq_zero_of_head_toDigits
      cases hd : Nat.toDigits 10 n with
      | nil => exact absurd hd Nat.toDigits_ne_nil
      | cons c ds =>
        rw [hd] at split
        cases split
        rfl
    subst zero
    cases split
    rfl
  · exact read

theorem readUnsigned_toDigits {n : Nat} (negative : Bool) (h : Ends rest)
    (short : (Nat.toDigits 10 n).length ≤ digitLimit) :
    readUnsigned negative (Nat.toDigits 10 n ++ rest) =
      .ok (.int ((if negative then -1 else 1) * n), rest) := by
  have fraction : readFraction rest = ([], rest) := by
    unfold readFraction
    split
    · rcases h '.' rfl with h | h <;> cases h
    · rfl
  have letter {e : Char} {cs : List Char} (hr : rest = e :: cs) : (e == 'e' || e == 'E') = false := by
    subst hr
    rcases h e rfl with rfl | rfl <;> rfl
  have exponent : readExponent rest = none := by
    unfold readExponent
    split
    · rw [letter rfl]; rfl
    · rw [letter rfl]; rfl
    · rw [letter rfl]; rfl
    · rfl
  have long : ¬digitLimit < (Nat.toDigits 10 n).length := by omega
  simp [readUnsigned, readWhole_toDigits n h, fraction, exponent, long, digitsToNat_toDigits]

theorem readScalar_digit {d : Char} {ds : List Char} (h : d.isDigit = true) :
    readScalar (d :: ds) = readUnsigned false (d :: ds) := by
  unfold readScalar
  split
  case h_6 =>
    unfold readNumber
    split
    case h_3 => rfl
    all_goals
      rename_i split
      cases split
      exact absurd h (by decide)
  all_goals
    rename_i split
    cases split
    exact absurd h (by decide)

theorem readScalar_minus {d : Char} {ds : List Char} (h : d.isDigit = true) :
    readScalar ('-' :: d :: ds) = readUnsigned true (d :: ds) := by
  rw [readScalar, readNumber]
  · rintro _ split
    cases split
    exact absurd h (by decide)
  all_goals
    rintro _ split
    cases split

theorem readScalar_toString {n : Int} (h : Ends rest)
    (short : (Nat.toDigits 10 n.natAbs).length ≤ digitLimit) :
    readScalar ((toString n).toList ++ rest) = .ok (.int n, rest) := by
  have value (negative : Bool) := readUnsigned_toDigits negative h short
  have digits := all_isDigit_toDigits n.natAbs
  rw [toList_toString]
  cases front : Nat.toDigits 10 n.natAbs with
  | nil => exact absurd front Nat.toDigits_ne_nil
  | cons d ds =>
    rw [front] at value digits
    have digit := digits d (List.mem_cons_self ..)
    by_cases negative : n < 0
    · rw [if_pos negative, List.append_assoc, List.singleton_append, List.cons_append,
        readScalar_minus digit, ← List.cons_append, value true]
      simp only [if_true, show -1 * (n.natAbs : Int) = n by omega]
    · rw [if_neg negative, List.nil_append, List.cons_append, readScalar_digit digit,
        ← List.cons_append, value false]
      simp only [Bool.false_eq_true, if_false, show 1 * (n.natAbs : Int) = n by omega]

end numbers

section values

mutual

/-- Objects have no key twice, and there are no numbers but integers. -/
def Tidy : Json → Prop
  | .decimal .. | .nonFinite => False
  | .arr items => TidyItems items
  | .obj fields => (fields.map Prod.fst).Nodup ∧ TidyFields fields
  | .null | .bool _ | .int _ | .str _ => True

def TidyItems : List Json → Prop
  | [] => True
  | v :: rest => v.Tidy ∧ TidyItems rest

def TidyFields : List (String × Json) → Prop
  | [] => True
  | (_, v) :: rest => v.Tidy ∧ TidyFields rest

end

mutual

def integers : Json → List Int
  | .int n => [n]
  | .arr items => integersOfItems items
  | .obj fields => integersOfFields fields
  | .null | .bool _ | .decimal .. | .nonFinite | .str _ => []

def integersOfItems : List Json → List Int
  | [] => []
  | v :: rest => v.integers ++ integersOfItems rest

def integersOfFields : List (String × Json) → List Int
  | [] => []
  | (_, v) :: rest => v.integers ++ integersOfFields rest

end

attribute [simp] Tidy TidyItems TidyFields

def Short (n : Int) : Prop := (Nat.toDigits 10 n.natAbs).length ≤ digitLimit

theorem skipSpace_cons {c : Char} {cs : List Char} (h : isSpace c = false) :
    skipSpace (c :: cs) = c :: cs := by
  simp [skipSpace, h]

theorem skipSpace_newline (i : Nat) (cs : List Char) :
    skipSpace ((newline i).toList ++ cs) = skipSpace cs := by
  have blanks (n : Nat) : skipSpace (List.replicate n ' ' ++ cs) = skipSpace cs := by
    induction n with
    | zero => rfl
    | succ n ih => simpa [List.replicate_succ, skipSpace, isSpace] using ih
  have := blanks (2 * i)
  simpa [newline, skipSpace, isSpace] using this

theorem readValue_newline (fuel i : Nat) (cs : List Char) :
    readValue fuel ((newline i).toList ++ cs) = readValue fuel cs := by
  cases fuel with
  | zero => simp only [readValue]
  | succ fuel => simp only [readValue, skipSpace_newline]

theorem readValue_blank (fuel : Nat) (cs : List Char) :
    readValue fuel (' ' :: cs) = readValue fuel cs := by
  cases fuel with
  | zero => simp only [readValue]
  | succ fuel => simp only [readValue, show skipSpace (' ' :: cs) = skipSpace cs from rfl]

theorem readItems_newline (fuel i : Nat) (cs : List Char) :
    readItems fuel ((newline i).toList ++ cs) = readItems fuel cs := by
  cases fuel with
  | zero => simp only [readItems]
  | succ fuel => simp only [readItems, readValue_newline]

theorem readFields_newline (fuel i : Nat) (acc : Table String Json) (cs : List Char) :
    readFields fuel acc ((newline i).toList ++ cs) = readFields fuel acc cs := by
  cases fuel with
  | zero => simp only [readFields]
  | succ fuel => simp only [readFields, skipSpace_newline]

theorem toString_head (n : Int) :
    ∃ c cs, (toString n).toList = c :: cs ∧ (c = '-' ∨ c.isDigit = true) := by
  rw [toList_toString]
  split
  · exact ⟨'-', _, rfl, .inl rfl⟩
  · have digits := all_isDigit_toDigits n.natAbs
    cases front : Nat.toDigits 10 n.natAbs with
    | nil => exact absurd front Nat.toDigits_ne_nil
    | cons d ds => exact ⟨d, ds, rfl, .inr (digits d (by simp [front]))⟩

theorem numeral_head {c : Char} (h : c = '-' ∨ c.isDigit = true) :
    isSpace c = false ∧ c ∉ ['"', '[', ']', '\x7b'] := by
  rcases h with rfl | h
  · decide
  · have other (d : Char) (hd : d.isDigit = false) : c ≠ d := by
      rintro rfl
      rw [hd] at h
      cases h
    constructor
    · simp [isSpace, other ' ' rfl, other '\t' rfl, other '\n' rfl, other '\r' rfl]
    · simp [other '"' rfl, other '[' rfl, other ']' rfl, other '\x7b' rfl]

theorem write_head {j : Json} (h : j.Tidy) (i : Nat) :
    ∃ c cs, (write i j).toList = c :: cs ∧ isSpace c = false ∧ c ≠ ']' := by
  cases j with
  | null => simp [write, isSpace]
  | bool b => cases b <;> simp [write, isSpace]
  | int n =>
    obtain ⟨c, cs, hc, head⟩ := toString_head n
    obtain ⟨blank, other⟩ := numeral_head head
    exact ⟨c, cs, by rw [write, hc], blank, fun h => other (by simp [h])⟩
  | decimal | nonFinite => exact absurd h (by simp [Tidy])
  | str s => simp [write, toList_writeString, isSpace]
  | arr items => cases items <;> simp [write, isSpace]
  | obj fields => obtain _ | ⟨⟨k, v⟩, rest⟩ := fields <;> simp [write, isSpace]

theorem readValue_scalar {c : Char} {cs : List Char} (fuel : Nat) (blank : isSpace c = false)
    (other : c ∉ ['"', '[', '\x7b']) : readValue (fuel + 1) (c :: cs) = readScalar (c :: cs) := by
  simp only [List.mem_cons, List.not_mem_nil, or_false, not_or] at other
  rw [readValue, skipSpace_cons blank]
  split
  · exact absurd (List.cons.inj ‹_›).1 other.1
  · exact absurd (List.cons.inj ‹_›).1 other.2.1
  · exact absurd (List.cons.inj ‹_›).1 other.2.2
  · rfl

/-- `v` is read back from how it is written, wherever that stands. -/
def ReadsBack (i : Nat) (v : Json) : Prop := ∀ ⦃fuel rest⦄, Ends rest →
  2 * (write i v).toList.length ≤ fuel →
    readValue fuel ((write i v).toList ++ rest) = .ok (v, rest)

/-- The items of a list are read back, if only the first of them is. -/
def ItemsReadBack (i : Nat) (items : List Json) : Prop := ∀ ⦃v j fuel rest⦄, ReadsBack i v →
  2 * ((write i v).toList.length + (writeItems i items).toList.length) + 1 ≤ fuel →
    readItems fuel ((write i v).toList ++ ((writeItems i items).toList ++
      ((newline j).toList ++ ']' :: rest))) = .ok (v :: items, rest)

/-- The fields of an object are read back after others, if only the first of them is. -/
def FieldsReadBack (i : Nat) (fields : List (String × Json)) : Prop :=
  ∀ ⦃k v j fuel rest acc⦄, ReadsBack i v →
    2 * ((write i v).toList.length + (writeFields i fields).toList.length) + 1 ≤ fuel →
      readFields fuel acc ((writeString k).toList ++ (':' :: ' ' :: ((write i v).toList ++
        ((writeFields i fields).toList ++ ((newline j).toList ++ '\x7d' :: rest))))) =
          .ok (fields.foldl (fun t e => t.insert e.1 e.2) (acc.insert k v), rest)

theorem fuel_succ {n m : Nat} (h : n + 1 ≤ m) : ∃ f, m = f + 1 ∧ n ≤ f :=
  ⟨m - 1, by omega, by omega⟩

section containers

variable {i : Nat} {v : Json} {items : List Json} {k : String} {fields : List (String × Json)}

theorem readsBack_int {n : Int} (short : Short n) : ReadsBack i (.int n) := by
  intro fuel rest ends hf
  obtain ⟨c, cs, hc, head⟩ := toString_head n
  obtain ⟨blank, other⟩ := numeral_head head
  have scalar := readScalar_toString ends short
  rw [write] at hf ⊢
  rw [hc] at hf scalar ⊢
  rw [List.length_cons] at hf
  obtain ⟨f, rfl, -⟩ := fuel_succ (n := 0) (m := fuel) (by omega)
  rw [List.cons_append, readValue_scalar f blank (by grind)]
  exact scalar

theorem readsBack_str (s : String) : ReadsBack i (.str s) := by
  intro fuel rest _ hf
  rw [write, toList_writeString] at hf ⊢
  rw [List.length_cons] at hf
  obtain ⟨f, rfl, -⟩ := fuel_succ (n := 0) (m := fuel) (by omega)
  rw [List.cons_append, readValue, skipSpace_cons rfl]
  simp [List.append_assoc, readString_writeString s rest, Except.map]

theorem readsBack_arr (tidy : v.Tidy) (first : ReadsBack (i + 1) v)
    (more : ItemsReadBack (i + 1) items) : ReadsBack i (.arr (v :: items)) := by
  intro fuel rest _ hf
  obtain ⟨c, cs, hc, blank, inside⟩ := write_head tidy (i + 1)
  have text : (write i (.arr (v :: items))).toList ++ rest =
      '[' :: ((newline (i + 1)).toList ++ ((write (i + 1) v).toList ++
        ((writeItems (i + 1) items).toList ++ ((newline i).toList ++ ']' :: rest)))) := by
    simp [write]
  have size : (write (i + 1) v).toList.length + (writeItems (i + 1) items).toList.length + 2 ≤
      (write i (.arr (v :: items))).toList.length := by
    have := congrArg List.length text
    simp only [List.length_append, List.length_cons] at this
    omega
  obtain ⟨f, rfl, room⟩ : ∃ f, fuel = f + 1 ∧ 2 * ((write (i + 1) v).toList.length +
      (writeItems (i + 1) items).toList.length) + 1 ≤ f := fuel_succ (by omega)
  have read := @more _ i _ rest first room
  rw [text, readValue, skipSpace_cons rfl]
  rw [hc] at read ⊢
  simp only [skipSpace_newline, List.cons_append, skipSpace_cons blank] at read ⊢
  split
  · exact absurd (List.cons.inj ‹_›).1 inside
  · rw [read]
    rfl

theorem itemsReadBack_nil : ItemsReadBack i [] := by
  intro v j fuel rest first hf
  obtain ⟨f, rfl, hf⟩ := fuel_succ hf
  have ends : Ends ((newline j).toList ++ ']' :: rest) := by simp [Ends, newline]
  rw [readItems, writeItems, String.toList_empty, List.nil_append, first ends (by omega)]
  simp only [bind, Except.bind, skipSpace_newline, skipSpace_cons (show isSpace ']' = false from rfl)]
  rfl

theorem itemsReadBack_cons (next : ReadsBack i v) (more : ItemsReadBack i items) :
    ItemsReadBack i (v :: items) := by
  intro w j fuel rest first hf
  have text : (writeItems i (v :: items)).toList =
      ',' :: ((newline i).toList ++ ((write i v).toList ++ (writeItems i items).toList)) := by
    simp [writeItems]
  rw [text] at hf ⊢
  simp only [List.length_cons, List.length_append] at hf
  obtain ⟨f, rfl, hf⟩ := fuel_succ hf
  have read := @more _ j f rest next (by omega)
  rw [readItems, first (by simp [Ends]) (by omega)]
  simp only [bind, Except.bind, List.cons_append, skipSpace_cons (show isSpace ',' = false from rfl),
    List.append_assoc, readItems_newline, read]
  rfl

theorem readsBack_obj (distinct : (((k, v) :: fields).map Prod.fst).Nodup)
    (first : ReadsBack (i + 1) v) (more : FieldsReadBack (i + 1) fields) :
    ReadsBack i (.obj ((k, v) :: fields)) := by
  intro fuel rest _ hf
  have text : (write i (.obj ((k, v) :: fields))).toList ++ rest =
      '\x7b' :: ((newline (i + 1)).toList ++ ((writeString k).toList ++ (':' :: ' ' ::
        ((write (i + 1) v).toList ++ ((writeFields (i + 1) fields).toList ++
          ((newline i).toList ++ '\x7d' :: rest)))))) := by
    simp [write]
  have size : (write (i + 1) v).toList.length + (writeFields (i + 1) fields).toList.length + 2 ≤
      (write i (.obj ((k, v) :: fields))).toList.length := by
    have := congrArg List.length text
    simp only [List.length_append, List.length_cons] at this
    omega
  obtain ⟨f, rfl, room⟩ : ∃ f, fuel = f + 1 ∧ 2 * ((write (i + 1) v).toList.length +
      (writeFields (i + 1) fields).toList.length) + 1 ≤ f := fuel_succ (by omega)
  have read := @more k _ i _ rest ∅ first room
  have kept : (((k, v) :: fields).foldl (fun t e => t.insert e.1 e.2)
      (∅ : Table String Json)).entries = (k, v) :: fields := Table.entries_foldl_insert distinct
  rw [text, readValue, skipSpace_cons rfl]
  rw [toList_writeString] at read ⊢
  simp only [skipSpace_newline, List.cons_append,
    skipSpace_cons (show isSpace '"' = false from rfl)] at read ⊢
  split
  · exact absurd (List.cons.inj ‹_›).1 (by decide)
  rw [read]
  exact congrArg (fun fields => Except.ok (Json.obj fields, rest)) kept

theorem readFields_succ {f : Nat} {acc : Table String Json} {rest : List Char}
    (first : ReadsBack i v) (ends : Ends rest) (room : 2 * (write i v).toList.length ≤ f) :
    readFields (f + 1) acc ((writeString k).toList ++ (':' :: ' ' :: ((write i v).toList ++ rest))) =
      match skipSpace rest with
      | ',' :: rest => readFields f (acc.insert k v) rest
      | '\x7d' :: rest => .ok (acc.insert k v, rest)
      | _ => .error .malformed := by
  have key := readString_writeString k (':' :: ' ' :: ((write i v).toList ++ rest))
  rw [readFields, toList_writeString, List.cons_append, skipSpace_cons rfl, List.append_assoc,
    List.singleton_append]
  simp only [key, bind, Except.bind, skipSpace_cons (show isSpace ':' = false from rfl),
    readValue_blank, first ends room]
  rfl

theorem fieldsReadBack_nil : FieldsReadBack i [] := by
  intro k v j fuel rest acc first hf
  obtain ⟨f, rfl, room⟩ := fuel_succ hf
  have ends : Ends ((newline j).toList ++ '\x7d' :: rest) := by simp [Ends, newline]
  rw [writeFields, String.toList_empty, List.nil_append, readFields_succ first ends (by omega),
    skipSpace_newline, skipSpace_cons rfl]
  rfl

theorem fieldsReadBack_cons (next : ReadsBack i v) (more : FieldsReadBack i fields) :
    FieldsReadBack i ((k, v) :: fields) := by
  intro l w j fuel rest acc first hf
  have text : (writeFields i ((k, v) :: fields)).toList = ',' :: ((newline i).toList ++
      ((writeString k).toList ++ (':' :: ' ' :: ((write i v).toList ++
        (writeFields i fields).toList)))) := by
    simp [writeFields]
  rw [text] at hf ⊢
  simp only [List.length_cons, List.length_append] at hf
  obtain ⟨f, rfl, room⟩ := fuel_succ hf
  have read := @more k _ j f rest (acc.insert l w) next (by omega)
  rw [readFields_succ first (by simp [Ends]) (by omega)]
  simp only [List.cons_append, skipSpace_cons (show isSpace ',' = false from rfl),
    List.append_assoc, readFields_newline, read]
  rfl

end containers

mutual

theorem readsBack_write : ∀ (j : Json) (i : Nat), j.Tidy → (∀ n ∈ j.integers, Short n) →
    ReadsBack i j
  | .null, i, _, _ => by
    intro fuel rest _ hf
    obtain ⟨f, rfl, -⟩ := fuel_succ (n := 0) (m := fuel) (by simp [write] at hf; omega)
    simp [write, readValue, skipSpace, isSpace, readScalar]
  | .bool b, i, _, _ => by
    intro fuel rest _ hf
    obtain ⟨f, rfl, -⟩ := fuel_succ (n := 0) (m := fuel)
      (by cases b <;> simp [write] at hf <;> omega)
    cases b <;> simp [write, readValue, skipSpace, isSpace, readScalar]
  | .int n, i, _, short => readsBack_int (short n (by simp [integers]))
  | .decimal .., _, h, _ => by simp [Tidy] at h
  | .nonFinite, _, h, _ => by simp [Tidy] at h
  | .str s, i, _, _ => readsBack_str s
  | .arr [], i, _, _ => by
    intro fuel rest _ hf
    obtain ⟨f, rfl, -⟩ := fuel_succ (n := 0) (m := fuel) (by simp [write] at hf; omega)
    simp [write, readValue, skipSpace, isSpace]
  | .arr (v :: items), i, tidy, short => by
    simp only [Tidy, TidyItems] at tidy
    simp only [integers, integersOfItems, List.mem_append] at short
    exact readsBack_arr tidy.1 (readsBack_write v (i + 1) tidy.1 fun n hn => short n (.inl hn))
      (readsBack_items items (i + 1) tidy.2 fun n hn => short n (.inr hn))
  | .obj [], i, _, _ => by
    intro fuel rest _ hf
    obtain ⟨f, rfl, -⟩ := fuel_succ (n := 0) (m := fuel) (by simp [write] at hf; omega)
    simp [write, readValue, skipSpace, isSpace]
  | .obj ((k, v) :: fields), i, tidy, short => by
    simp only [Tidy, TidyFields] at tidy
    simp only [integers, integersOfFields, List.mem_append] at short
    exact readsBack_obj tidy.1
      (readsBack_write v (i + 1) tidy.2.1 fun n hn => short n (.inl hn))
      (readsBack_fields fields (i + 1) tidy.2.2 fun n hn => short n (.inr hn))

theorem readsBack_items : ∀ (items : List Json) (i : Nat), TidyItems items →
    (∀ n ∈ integersOfItems items, Short n) → ItemsReadBack i items
  | [], _, _, _ => itemsReadBack_nil
  | v :: items, i, tidy, short => by
    simp only [TidyItems] at tidy
    simp only [integersOfItems, List.mem_append] at short
    exact itemsReadBack_cons (readsBack_write v i tidy.1 fun n hn => short n (.inl hn))
      (readsBack_items items i tidy.2 fun n hn => short n (.inr hn))

theorem readsBack_fields : ∀ (fields : List (String × Json)) (i : Nat), TidyFields fields →
    (∀ n ∈ integersOfFields fields, Short n) → FieldsReadBack i fields
  | [], _, _, _ => fieldsReadBack_nil
  | (k, v) :: fields, i, tidy, short => by
    simp only [TidyFields] at tidy
    simp only [integersOfFields, List.mem_append] at short
    exact fieldsReadBack_cons (readsBack_write v i tidy.1 fun n hn => short n (.inl hn))
      (readsBack_fields fields i tidy.2 fun n hn => short n (.inr hn))

end

theorem tidyItems_map {α : Type} {write : α → Json} (h : ∀ a, (write a).Tidy) (l : List α) :
    TidyItems (l.map write) := by
  induction l with
  | nil => exact trivial
  | cons a l ih => exact ⟨h a, ih⟩

theorem tidyFields_map {α : Type} {key : α → String} {write : α → Json} (h : ∀ a, (write a).Tidy)
    (l : List α) : TidyFields (l.map fun a => (key a, write a)) := by
  induction l with
  | nil => exact trivial
  | cons a l ih => exact ⟨h a, ih⟩

theorem parse_render {j : Json} (tidy : j.Tidy) (short : ∀ n ∈ j.integers, Short n) :
    parse j.render = .ok j := by
  have ends : Ends [] := fun c hc => by cases hc
  have read := readsBack_write j 0 tidy short ends (Nat.le_add_right _ 2)
  rw [List.append_nil] at read
  simp only [parse, render, read, bind, Except.bind]
  rfl

end values

end DeclAtlas.Json
