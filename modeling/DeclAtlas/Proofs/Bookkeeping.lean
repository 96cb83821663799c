import DeclAtlas.Proofs.Preserved
import Mathlib.Data.List.Dedup

/-! The list and its history. Whatever is called on a listing, in any order and whether it fails or
not, the listed declarations are registered, and they stand in the order of their last listing. -/

namespace DeclAtlas

open Listing

/-- One call on a listing. Conversions, definitions and steps of the walk may nest to any depth. -/
inductive Operation where
  | add (g : Global)
  | install (g : Global)
  | remove (id : Int)
  | setMembers (id : Int) (members : List Member) (irregular : Bool)
  | setEnumItems (id : Int) (items : EnumItems)
  | poison (id : Int)
  | withdrawSince (mark : Int) (owner : Global)
  | declare (depth : Nat) (c : CursorId)
  | declareIncomplete (c : CursorId)
  | define (depth : Nat) (c : CursorId)
  | convert (depth : Nat) (t : TypeId) (c : CursorId)
  | visitTop (depth : Nat) (c parent : CursorId)
  | prune

def Operation.after (u : SourceUnit) (l : Listing) : Operation → Listing
  | add g => l.add g
  | install g => l.addInstalled g
  | remove id => l.remove id
  | setMembers id members irregular => l.setMembers id members irregular
  | setEnumItems id items => l.setEnumItems id items
  | poison id => l.poison id
  | withdrawSince mark owner => (Listing.withdrawSince mark owner l).2
  | declare depth c => (DeclAtlas.declare u (u.recursionWithin depth) c l).2
  | declareIncomplete c => (DeclAtlas.declareIncomplete u c l).2
  | define depth c => (u.defineWithin depth c l).2
  | convert depth t c => (u.convertWithin depth t c l).2
  | visitTop depth c parent => (DeclAtlas.visitTop u (u.recursionWithin depth) c parent l).2
  | prune => (Listing.prune l).2

def Listing.afterAll (u : SourceUnit) (l : Listing) (ops : List Operation) : Listing :=
  ops.foldl (Operation.after u) l

section calls

variable {P : Listing → Prop} {l : Listing}

theorem Listing.Lasting.after (h : Lasting P) (u : SourceUnit) (hl : P l) (op : Operation) :
    P (op.after u l) := by
  have nested (n : Nat) := u.recursionWithin_preserves h n
  cases op with
  | add g => exact h.add g hl
  | install g => exact h.install g hl
  | remove id => exact h.remove id hl
  | setMembers | setEnumItems => exact h.aside hl rfl rfl fun known => known
  | poison id => exact h.poison id hl
  | withdrawSince mark owner => exact (preserves_withdrawSince h mark owner l hl).1
  | declare n c => exact (preserves_declare h (nested n) c l hl).1
  | declareIncomplete c => exact (preserves_declareIncomplete h c l hl).1
  | define n c => exact ((nested n).define c l hl).1
  | convert n t c => exact ((nested n).convert t c l hl).1
  | visitTop n c p => exact (preserves_visitTop h (nested n) c p l hl).1
  | prune => exact (preserves_prune h l hl).1

theorem Listing.Lasting.afterAll (h : Lasting P) (u : SourceUnit) (hl : P l)
    (ops : List Operation) : P (l.afterAll u ops) := by
  induction ops generalizing l with
  | nil => exact hl
  | cons op rest ih => exact ih (h.after u hl op)

end calls

theorem dedup_append_singleton (as : List Int) (a : Int) :
    (as ++ [a]).dedup = as.dedup.filter (· ≠ a) ++ [a] := by
  induction as with
  | nil => simp
  | cons b rest ih =>
    by_cases hb : b ∈ rest
    · rw [List.dedup_cons_of_mem hb, ← ih, List.cons_append, List.dedup_cons_of_mem (by simp [hb])]
    · rw [List.dedup_cons_of_notMem hb, List.filter_cons, List.cons_append]
      by_cases ha : b = a
      · rw [List.dedup_cons_of_mem (by simp [ha]), ih]
        simp [ha]
      · rw [List.dedup_cons_of_notMem (by simp [hb, ha]), ih]
        simp [ha]

namespace Listing

/-- The listed declarations are registered, and stand in the order of their last listing. -/
structure Tallied (l : Listing) : Prop where
  registered : ∀ id ∈ l.order, l.Knows id
  recent : l.order = l.added.dedup.filter (· ∈ l.order)

variable {l : Listing} {id : Int}

theorem Tallied.list (h : l.Tallied) (known : l.Knows id) : (l.list id).Tallied := by
  unfold Listing.list
  split
  · exact h
  · rename_i hnew
    have hid : id ∉ l.order := fun hm => hnew ((l.roll.agree id).2 hm)
    refine ⟨fun i hi => ?_, ?_⟩
    · rcases List.mem_append.1 hi with hi | hi
      · exact h.registered i hi
      · rw [List.mem_singleton.1 hi]
        exact known
    · change l.order ++ [id] = (l.added ++ [id]).dedup.filter (· ∈ l.order ++ [id])
      rw [dedup_append_singleton, List.filter_append, List.filter_filter]
      have others (i : Int) : (decide (i ∈ l.order ++ [id]) && decide (i ≠ id)) =
          decide (i ∈ l.order) := by
        by_cases hi : i = id <;> simp [hi, hid]
      simp only [others]
      rw [← h.recent]
      simp

theorem Tallied.remove (h : l.Tallied) (id : Int) : (l.remove id).Tallied := by
  refine ⟨fun i hi => h.registered i (List.mem_of_mem_erase hi), ?_⟩
  have gone := remove_order l.roll.nodup id
  calc (l.remove id).order = l.order.filter (· ∉ [id]) := gone
    _ = (l.added.dedup.filter (· ∈ l.order)).filter (· ∉ [id]) := by rw [← h.recent]
    _ = l.added.dedup.filter (· ∈ (l.remove id).order) := by
      rw [List.filter_filter]
      refine List.filter_congr fun i _ => ?_
      rw [gone, ← Bool.decide_and, decide_eq_decide, List.mem_filter, decide_eq_true_eq, and_comm]

theorem lasting_tallied : Lasting Tallied where
  aside := by
    intro l l' h hroll hadded hknows
    have horder : l'.order = l.order := congrArg Roll.order hroll
    refine ⟨fun i hi => hknows (h.registered i (horder ▸ hi)), ?_⟩
    rw [horder, hadded]
    exact h.recent
  list known h := h.list known
  remove id h := h.remove id

theorem tallied_ofBuiltins (b : Builtins) : (ofBuiltins b).Tallied :=
  ⟨fun _ h => (List.not_mem_nil h).elim, rfl⟩

theorem lasting_added (as : List Int) : Lasting fun l => as <+: l.added where
  aside h _ hadded _ := by rwa [hadded]
  list {l id} _ h := by
    unfold Listing.list
    split
    · exact h
    · exact h.trans (List.prefix_append ..)
  remove _ h := h

end Listing

/-- After any calls on a fresh listing, whether they fail or not, no declaration is listed twice,
the set of the listed ones is that of the list, all of them are registered, and they stand in the
order of their last listing. So a declaration that is listed again after it left goes to the end,
one that is replaced keeps its place, and a removal leaves the others in their order. No call
shortens the history of listings. -/
theorem listed_in_order_of_last_listing (u : SourceUnit) (b : List BuiltinEntry)
    (ops : List Operation) (l : Listing)
    (run : l = (Listing.ofBuiltins (.ofEntries b)).afterAll u ops) :
    l.order.Nodup ∧ (∀ id, l.isListed id = true ↔ id ∈ l.order) ∧
    (∀ id ∈ l.order, ∃ g, l.registry.globals.get? id = some g) ∧
    l.order = l.added.dedup.filter l.isListed ∧
    (∀ g, (l.add g).order = if l.isListed g.id then l.order else l.order ++ [g.id]) ∧
    (∀ id, (l.remove id).order = l.order.filter (· ≠ id)) ∧
    ∀ op : Operation, l.added <+: (op.after u l).added := by
  have tallied : l.Tallied := by
    rw [run]
    exact lasting_tallied.afterAll u (tallied_ofBuiltins _) ops
  have listed (id : Int) : l.isListed id = true ↔ id ∈ l.order := by
    rw [isListed_eq, decide_eq_true_eq]
  refine ⟨l.roll.nodup, listed, tallied.registered, ?_, fun g => ?_, fun id => ?_, fun op => ?_⟩
  · calc l.order = l.added.dedup.filter (· ∈ l.order) := tallied.recent
      _ = l.added.dedup.filter l.isListed :=
        List.filter_congr fun id _ => (isListed_eq l id).symm
  · rcases add_listings g l with ⟨hid, horder, -⟩ | ⟨hid, horder, -⟩
    · rw [horder, if_pos ((listed _).2 hid)]
    · rw [horder, if_neg fun h => hid ((listed _).1 h)]
  · rw [remove_order l.roll.nodup]
    simp
  · exact (lasting_added l.added).after u (List.prefix_refl _) op

/-- A typedef is listed, another one after it; the first is taken off, a definition fails, and the
first is listed again: it is now the last. -/
theorem relisted_typedef_moves_to_end : ∃ l : Listing,
    l.order = [1, 0] ∧ l.added = [0, 1, 0] ∧ l.order = l.added.dedup.filter l.isListed ∧
    ∀ id ∈ l.order, ∃ g, l.registry.globals.get? id = some g := by
  let first : Global := ⟨⟨"A", 0⟩, .typedef default .void⟩
  let second : Global := ⟨⟨"B", 1⟩, .typedef default .void⟩
  obtain ⟨-, -, registered, recent, -⟩ := listed_in_order_of_last_listing default []
    [.add first, .add second, .remove 0, .define 1 SourceUnit.root, .add first] _ rfl
  exact ⟨_, by decide +kernel, by decide +kernel, recent, registered⟩

end DeclAtlas
