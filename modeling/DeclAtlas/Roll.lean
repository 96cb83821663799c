import DeclAtlas.IdSet

/-! Rolls: identities in the order in which they came in, each of them once. A roll also keeps
them as a set, which says whether an identity is on it without going through the order. -/

namespace DeclAtlas

/-- Identities in order, each once, beside the set of them. -/
structure Roll where
  order : List Int
  listed : IdSet
  nodup : order.Nodup
  agree : ∀ id, id ∈ listed ↔ id ∈ order

namespace Roll

instance : EmptyCollection Roll := ⟨⟨[], ∅, .nil, by simp⟩⟩

instance : Inhabited Roll := ⟨∅⟩

/-- Puts an identity at the end of a roll that does not have it. -/
def enter (id : Int) (r : Roll) (new : id ∉ r.listed) : Roll where
  order := r.order ++ [id]
  listed := r.listed.insert id
  nodup := by
    refine List.nodup_append.2 ⟨r.nodup, by simp, fun a ha b hb => ?_⟩
    rw [List.mem_singleton.1 hb]
    exact fun e => new ((r.agree id).2 (e ▸ ha))
  agree j := by
    rw [IdSet.mem_insert, r.agree, List.mem_append, List.mem_singleton, or_comm]

def leave (id : Int) (r : Roll) : Roll where
  order := r.order.erase id
  listed := r.listed.erase id
  nodup := r.nodup.erase id
  agree j := by rw [IdSet.mem_erase, r.agree, r.nodup.mem_erase_iff, and_comm]

end Roll

end DeclAtlas
