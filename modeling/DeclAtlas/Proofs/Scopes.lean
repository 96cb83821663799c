import DeclAtlas.Unit.Tag

/-! Tags in USRs. The USR of a tag is a chain of scopes from the outermost in, and it has to be told
from it whether the innermost one has a name of its own. The name of a named tag is passed over, so
it may look like a marker. The name that a typedef gives to a tag is not passed over: where it is
the marker of named tags it is taken for one, and the scan slips by one piece. -/

namespace DeclAtlas.Usr

section pieces

variable {separator : Char} {cs : List Char}

theorem pieces_of_not_mem (h : separator ∉ cs) : pieces separator cs = [cs] := by
  induction cs with
  | nil => rfl
  | cons c cs ih =>
    rw [List.mem_cons, not_or] at h
    rw [pieces, if_neg (Ne.symm h.1), ih h.2]

theorem pieces_append (h : separator ∉ cs) (rest : List Char) :
    pieces separator (cs ++ separator :: rest) = cs :: pieces separator rest := by
  induction cs with
  | nil => rw [List.nil_append, pieces, if_pos rfl]
  | cons c cs ih =>
    rw [List.mem_cons, not_or] at h
    rw [List.cons_append, pieces, if_neg (Ne.symm h.1), ih h.2]

theorem pieces_flatMap (h : separator ∉ cs) {ps : List (List Char)} (hp : ∀ p ∈ ps, separator ∉ p) :
    pieces separator (cs ++ ps.flatMap (separator :: ·)) = cs :: ps := by
  induction ps generalizing cs with
  | nil => rw [List.flatMap_nil, List.append_nil, pieces_of_not_mem h]
  | cons p ps ih =>
    rw [List.flatMap_cons, List.cons_append, pieces_append h,
      ih (hp p (List.mem_cons_self ..)) fun q hq => hp q (List.mem_cons_of_mem _ hq)]

end pieces

/-- The sorts of tags, with the letters that stand for them. -/
inductive TagSort where
  | struct
  | union
  | enum
  deriving DecidableEq, Repr

def TagSort.letter : TagSort → Char
  | struct => 'S'
  | union => 'U'
  | enum => 'E'

/-- A name of the source. The character that separates scopes is in none. -/
structure Label where
  text : List Char
  plain : '@' ∉ text

/-- A tag in a chain of scopes. One without a name of its own may be named by a typedef. -/
inductive Scope where
  | named (sort : TagSort) (name : Label)
  | unnamed (sort : TagSort)
  | typedefNamed (sort : TagSort) (name : Label)

namespace Scope

def pieces : Scope → List (List Char)
  | named sort name => [[sort.letter], name.text]
  | unnamed sort => [[sort.letter, 'a']]
  | typedefNamed sort name => [[sort.letter, 'A'], name.text]

def isNameless : Scope → Bool
  | named .. => false
  | unnamed _ | typedefNamed .. => true

/-- Whether the scan takes the piece after a scope for a name; `slipped` says whether it took the
first piece of the scope for one. -/
def slips (slipped : Bool) : Scope → Bool
  | named _ name => slipped && isNamedMarker name.text
  | unnamed _ => false
  | typedefNamed _ name => isNamedMarker name.text

/-- Whether a tag named by a typedef has a name that reads as the marker of a named tag. -/
def isDeceptive : Scope → Bool
  | typedefNamed _ name => isNamedMarker name.text
  | named .. | unnamed _ => false

/-- Whether the scan ends with the wrong answer at an innermost scope. Where it has not slipped, the
name of a typedef was taken for a marker; where it has, the marker was taken for a name, and the
name for a marker. -/
def isMisread (slipped : Bool) : Scope → Bool
  | named _ name => slipped && isUnnamedMarker name.text
  | unnamed _ => slipped
  | typedefNamed _ name =>
    if slipped then !isUnnamedMarker name.text else isNamedMarker name.text

theorem separator_not_mem_pieces (s : Scope) : ∀ p ∈ s.pieces, '@' ∉ p := by
  have letters : ∀ sort : TagSort, '@' ≠ sort.letter := by intro sort; cases sort <;> decide
  cases s <;> simp [pieces, letters, Label.plain]

end Scope

/-- The USR of a tag, from the outermost scope to its own. -/
def ofChain (chain : List Scope) : String :=
  String.ofList (['c', ':'] ++ (chain.flatMap Scope.pieces).flatMap ('@' :: ·))

theorem pieces_ofChain (chain : List Scope) :
    pieces '@' (ofChain chain).toList = ['c', ':'] :: chain.flatMap Scope.pieces := by
  rw [ofChain, String.toList_ofList]
  refine pieces_flatMap (by decide) fun p hp => ?_
  obtain ⟨s, -, hp⟩ := List.mem_flatMap.1 hp
  exact s.separator_not_mem_pieces p hp

section scan

theorem not_isUnnamedMarker {p : List Char} (h : isNamedMarker p = true) :
    isUnnamedMarker p = false := by
  simp only [isNamedMarker, List.contains_cons, List.contains_nil, Bool.or_false, Bool.or_eq_true,
    beq_iff_eq] at h
  rcases h with rfl | rfl | rfl <;> decide

/-- The scan from between two scopes on. -/
def resume (slipped last : Bool) (ps : List (List Char)) : Bool :=
  if slipped then endsUnnamed false (ps.drop 1) else endsUnnamed last ps

theorem endsUnnamed_cons (last : Bool) (p : List Char) (ps : List (List Char)) :
    endsUnnamed last (p :: ps) = resume (isNamedMarker p) (isUnnamedMarker p || last) ps := by
  unfold endsUnnamed
  cases named : isNamedMarker p with
  | true =>
    rw [if_neg (by simp [not_isUnnamedMarker named]), if_pos rfl]
    cases ps <;> rfl
  | false => cases isUnnamedMarker p <;> rfl

theorem resume_scope (slipped last : Bool) (s : Scope) (ps : List (List Char)) :
    resume slipped last (s.pieces ++ ps) =
      resume (s.slips slipped) (s.isNameless != s.isMisread slipped) ps := by
  have own (sort : TagSort) : isNamedMarker [sort.letter] = true := by cases sort <;> decide
  have other (sort : TagSort) :
      isNamedMarker [sort.letter, 'a'] = false ∧ isUnnamedMarker [sort.letter, 'a'] = true ∧
      isNamedMarker [sort.letter, 'A'] = false ∧ isUnnamedMarker [sort.letter, 'A'] = true := by
    cases sort <;> decide
  cases s with
  | named sort name | unnamed sort =>
    cases slipped <;>
      simp [resume, Scope.pieces, Scope.slips, Scope.isNameless, Scope.isMisread, endsUnnamed_cons,
        own, other]
  | typedefNamed sort name =>
    cases slipped <;> cases marker : isNamedMarker name.text <;>
      simp [resume, Scope.pieces, Scope.slips, Scope.isNameless, Scope.isMisread, endsUnnamed_cons,
        other, marker]

theorem resume_chain (slipped last : Bool) (chain : List Scope) (ps : List (List Char)) :
    ∃ last', resume slipped last (chain.flatMap Scope.pieces ++ ps) =
      resume (chain.foldl Scope.slips slipped) last' ps := by
  induction chain generalizing slipped last with
  | nil => exact ⟨last, rfl⟩
  | cons s chain ih =>
    rw [List.flatMap_cons, List.append_assoc, resume_scope]
    exact ih _ _

theorem resume_nil (slipped last : Bool) : resume slipped last [] = (!slipped && last) := by
  cases slipped <;> rfl

/-- Where the scan slips at a scope it has just seen a marker of named tags. -/
theorem Scope.answer_of_slips {slipped : Bool} {s : Scope} (h : s.slips slipped = true) :
    (s.isNameless != s.isMisread slipped) = false := by
  cases s with
  | named sort name =>
    obtain ⟨rfl, marker⟩ := Bool.and_eq_true_iff.1 h
    simp [isNameless, isMisread, not_isUnnamedMarker marker]
  | unnamed sort => cases h
  | typedefNamed sort name =>
    have marker : isNamedMarker name.text = true := h
    cases slipped <;> simp [isNameless, isMisread, marker, not_isUnnamedMarker marker]

/-- What is answered depends on the innermost scope and on whether the scan has slipped. -/
theorem isUnnamed_ofChain (outer : List Scope) (inner : Scope) :
    isUnnamed (ofChain (outer ++ [inner])) =
      (inner.isNameless != inner.isMisread (outer.foldl Scope.slips false)) := by
  have start : isUnnamed (ofChain (outer ++ [inner])) =
      resume false false (outer.flatMap Scope.pieces ++ inner.pieces) := by
    rw [isUnnamed, pieces_ofChain, endsUnnamed_cons, List.flatMap_append, List.flatMap_singleton]
    rfl
  obtain ⟨last, scanned⟩ := resume_chain false false outer inner.pieces
  have ended := resume_scope (outer.foldl Scope.slips false) last inner []
  rw [List.append_nil, resume_nil] at ended
  rw [start, scanned, ended]
  cases slip : inner.slips (outer.foldl Scope.slips false) with
  | false => rw [Bool.not_false, Bool.true_and]
  | true => rw [Scope.answer_of_slips slip, Bool.and_false]

end scan

section names

variable {chain : List Scope}

theorem foldl_slips_of_plain (h : ∀ s ∈ chain, s.isDeceptive = false) :
    chain.foldl Scope.slips false = false := by
  induction chain with
  | nil => rfl
  | cons s chain ih =>
    have first : s.slips false = s.isDeceptive := by cases s <;> rfl
    rw [List.foldl_cons, first, h s (List.mem_cons_self ..)]
    exact ih fun k hk => h k (List.mem_cons_of_mem _ hk)

/-- The answer is that of the innermost scope exactly where that scope is not misread. If no tag
that a typedef names is called like a marker of named tags, the scan never slips, and whatever the
other names are, no scope is misread. -/
theorem unnamed_tag_recognised_iff (outer : List Scope) (inner : Scope) :
    (isUnnamed (ofChain (outer ++ [inner])) = inner.isNameless ↔
      inner.isMisread (outer.foldl Scope.slips false) = false) ∧
    ((∀ s ∈ outer ++ [inner], s.isDeceptive = false) →
      isUnnamed (ofChain (outer ++ [inner])) = inner.isNameless) := by
  have answer := isUnnamed_ofChain outer inner
  have exact : isUnnamed (ofChain (outer ++ [inner])) = inner.isNameless ↔
      inner.isMisread (outer.foldl Scope.slips false) = false := by
    rw [answer]
    cases inner.isNameless <;> cases inner.isMisread (outer.foldl Scope.slips false) <;> decide
  refine ⟨exact, fun plain => exact.2 ?_⟩
  rw [foldl_slips_of_plain fun s hs => plain s (List.mem_append_left _ hs)]
  have last := plain inner (by simp)
  cases inner with
  | named | unnamed => rfl
  | typedefNamed sort name => exact last

end names

/-- In a struct called `Ua` there is a union that a typedef names `SA`, and in that a struct `E`. -/
theorem marker_names_passed_over :
    isUnnamed "c:@S@Ua@UA@SA" = true ∧ isUnnamed "c:@S@Ua@UA@SA@S@E" = false := by
  let outer : Scope := .named .struct ⟨['U', 'a'], by decide⟩
  let inner : Scope := .typedefNamed .union ⟨['S', 'A'], by decide⟩
  let innermost : Scope := .named .struct ⟨['E'], by decide⟩
  have middle := (unnamed_tag_recognised_iff [outer] inner).2 (by decide)
  have last := (unnamed_tag_recognised_iff [outer, inner] innermost).2 (by decide)
  rw [show ofChain ([outer] ++ [inner]) = "c:@S@Ua@UA@SA" by decide +kernel] at middle
  rw [show ofChain ([outer, inner] ++ [innermost]) = "c:@S@Ua@UA@SA@S@E" by decide +kernel] at last
  exact ⟨middle, last⟩

/-- A tag that a typedef names `S` is taken for one with a name of its own. -/
theorem typedef_name_taken_for_marker :
    ofChain [.typedefNamed .struct ⟨['S'], by decide⟩] = "c:@SA@S" ∧
    (Scope.typedefNamed .struct ⟨['S'], by decide⟩).isNameless = true ∧
    isUnnamed "c:@SA@S" = false := by
  decide +kernel

end DeclAtlas.Usr
