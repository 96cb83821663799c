import DeclAtlas.Proofs.Arguments
import DeclAtlas.Proofs.Completed
import DeclAtlas.Proofs.Concluded
import DeclAtlas.Proofs.Isolation
import DeclAtlas.Proofs.Stability
import DeclAtlas.Proofs.Sweep
import Mathlib.Logic.Relation

/-! The course of an extraction, moment by moment. At a moment some definitions are under way, one
inside the other, and each of them may still be finished or given up. What a conversion has done
lasts along the course, and so a type that was converted once is converted to the same later. -/

namespace DeclAtlas

/-- A definition under way, with the number of listings made before it began. -/
structure Frame where
  cursor : CursorId
  global : Global
  mark : Nat

/-- A moment of an extraction; the innermost definition under way comes first. -/
structure Moment where
  frames : List Frame
  listing : Listing

namespace Moment

def start (b : List BuiltinEntry) : Moment := ⟨[], .ofBuiltins (.ofEntries b)⟩

open Listing

/-- How an extraction gets from one moment to the next. Declarations of the top level are listed or
skipped, and broken ones are struck off, only where no definition is under way. -/
inductive Next (u : SourceUnit) : Moment → Moment → Prop where
  | visited {F l l'} {S : CursorId → Prop} (scope : ∀ d, S d → u.isFound d = true ∨ u.Named d)
      (visit : Visit u S l none l') : Next u ⟨F, l⟩ ⟨F, l'⟩
  | entered {F l l₁} {S : CursorId → Prop} {c : CursorId} {g : Global} (place : l.Defines u S c)
      (look : lookup u c l = (.ok g, l₁)) (tag : g.form.isTag = true) :
      Next u ⟨F, l⟩ ⟨⟨c, g, l₁.added.length⟩ :: F, l₁.startDefining g.id⟩
  | finished {F l} {f : Frame} (form : f.global.form.isComposite = true) (ms : List Member) :
      Next u ⟨f :: F, l⟩ ⟨F, l.enterRecord u f.cursor f.global ms⟩
  | abandoned {F l l'} {f : Frame} {e : Fault} (own : e.isLocal = true)
      (given : abandon f.mark f.global e l = (.error e, l')) :
      Next u ⟨f :: F, l⟩ ⟨F, l'.stopDefining f.global.id⟩
  | typed {l} {c : CursorId} {g g₁ : Global} (known : l.registry.globalOf? u c = some g₁)
      (outline : g.outline = g₁.outline) (own : g.isBuiltin = false) (t : CType) :
      Next u ⟨[], l⟩ ⟨[], l.addTyped g t⟩
  | skipped {l} {c : CursorId} {id : Int} (known : l.registry.idOf? u c = some id) (e : Fault) :
      Next u ⟨[], l⟩ ⟨[], l.skipped u c e⟩
  | struck {l} {g broken : Global} {ref : Int} (refers : l.Refers g.id ref)
      (bad : ref ∈ l.registry.poisoned) (named : l.registry.globals.get? ref = some broken) :
      Next u ⟨[], l⟩ ⟨[], l.strike g broken⟩

def Leads (u : SourceUnit) : Moment → Moment → Prop := Relation.ReflTransGen (Next u)

/-- What holds at every moment. Each definition under way is registered. -/
structure Sound (u : SourceUnit) (m : Moment) : Prop where
  listing : m.listing.Sound u
  undefined : m.listing.Undefined u
  frames : ∀ f ∈ m.frames, ∃ g, m.listing.registry.globals.get? f.global.id = some g ∧
    g.outline = f.global.outline

variable {u : SourceUnit} {m m' : Moment} {F : List Frame} {l l' : Listing} {b : List BuiltinEntry}

theorem sound_start (u : SourceUnit) (b : List BuiltinEntry) : (start b).Sound u where
  listing := SourceUnit.sound_start u b
  undefined _ h := by cases h
  frames _ h := by cases h

theorem Sound.registered (h : m.Sound u) (lasts : m.listing.Endures u l') {f : Frame}
    (hf : f ∈ m.frames) : ∃ g, l'.registry.globals.get? f.global.id = some g ∧
      g.outline = f.global.outline := by
  obtain ⟨g, hg, ho⟩ := h.frames f hf
  obtain ⟨g', hg', ho'⟩ := lasts.registry.globals hg
  exact ⟨g', hg', ho'.trans ho⟩

theorem Sound.endures (h : m.Sound u) (lasts : m.listing.Endures u m'.listing)
    (frames : ∀ f ∈ m'.frames, f ∈ m.frames) : m'.Sound u where
  listing := lasts.sound
  undefined := lasts.undefined
  frames f hf := h.registered lasts (frames f hf)

end Moment

namespace Listing

variable {u : SourceUnit} {l l' l₁ : Listing} {c : CursorId} {g g₁ : Global} {id : Int}

theorem endures_enter (hs : l.Sound u) (hl : l.Undefined u) (id : Int) :
    l.Endures u (l.startDefining id) where
  sound := hs.startDefining id
  undefined := hl
  registry := .refl _
  underway h := .inl (h.imp_right fun h => IdSet.mem_insert.2 (.inr h))
  incomplete h := h

theorem endures_enterRecord (hs : l.Sound u) (hl : l.Undefined u)
    (known : l.registry.globals.get? g.id = some g₁) (outline : g₁.outline = g.outline)
    (form : g.form.isComposite = true) (ms : List Member) :
    l.Endures u (l.enterRecord u c g ms) := by
  have own : g.isBuiltin = false := Form.isBuiltin_of_isTag (Form.isTag_of_isComposite form)
  have laid := Global.outline_withLayout g (u.layoutOf c)
  have grows : l.registry.Grows (l.enterRecord u c g ms).registry := by
    rw [enterRecord, add_registry]
    exact Registry.grows_update known (laid.trans outline.symm)
  have incomplete : (l.enterRecord u c g ms).incomplete = l.incomplete := by
    simp [enterRecord, stopDefining, setMembers]
  refine ⟨?_, hl.grows incomplete grows, grows, fun {i} hi => .inl ?_, fun h => incomplete ▸ h⟩
  · exact Sound.add (hs.congr rfl rfl rfl) known (laid.trans outline.symm)
      ((Global.isBuiltin_of_outline laid).trans own)
  · rw [mem_enterRecord_order]
    rcases hi with hi | hi
    · exact .inl (.inl hi)
    · by_cases same : i = g.id
      · exact .inl (.inr same)
      · right
        rw [enterRecord, add_defining]
        exact IdSet.mem_erase.2 ⟨hi, same⟩

/-- A definition that is given up is poisoned, and so is what is withdrawn with it, unless it is
incomplete. -/
theorem endures_abandon {mark : Nat} {e e' : Fault} (hs : l.Sound u) (hl : l.Undefined u)
    (own : e.isLocal = true) (given : abandon mark g e l = (.error e', l')) :
    l.Endures u (l'.stopDefining g.id) := by
  have withdrawn := (abandon_error hs given).2.1 own
  have reverts := reverts_abandon hs given
  refine ⟨sound_abandon hs given, hl.grows reverts.incomplete reverts.grows, reverts.grows,
    fun {id} hid => ?_, fun h => reverts.incomplete ▸ h⟩
  rcases hid with hid | hid
  · by_cases out : id ∈ l.added.drop mark
    · by_cases hi : id ∈ l.incomplete
      · exact .inr (.inr (reverts.incomplete ▸ hi))
      · exact .inr (.inl (withdrawn.poisoned.2 (.inr ⟨out, hid, hi⟩)))
    · refine .inl (.inl ?_)
      change id ∈ l'.order
      rw [withdrawn.order]
      exact List.mem_filter.2 ⟨hid, decide_eq_true out⟩
  · by_cases same : id = g.id
    · exact .inr (.inl (withdrawn.poisoned.2 (.inl (IdSet.mem_insert.2 (.inl same)))))
    · refine .inl (.inr (IdSet.mem_erase.2 ⟨?_, same⟩))
      rw [reverts.defining]
      exact hid

theorem endures_addTyped (hs : l.Sound u) (hl : l.Undefined u)
    (known : l.registry.globalOf? u c = some g₁) (outline : g.outline = g₁.outline)
    (own : g.isBuiltin = false) (t : CType) : l.Endures u (l.addTyped g t) := by
  have succeeds := succeeds_addTyped t hs known outline own
  have incomplete : (l.addTyped g t).incomplete = l.incomplete := addTyped_incomplete own
  exact ⟨sound_addTyped t hs known outline own, hl.grows incomplete succeeds.registry,
    succeeds.registry, fun h => .inl (succeeds.underway h), fun h => incomplete ▸ h⟩

theorem endures_expel (hs : l.Sound u) (hl : l.Undefined u) (id : Int) (d : Diagnostic) :
    l.Endures u (((l.poison id).remove id).diagnose d) where
  sound := ((hs.poison id).remove id).congr rfl rfl rfl
  undefined := hl.grows rfl (Registry.grows_poison _ id)
  registry := Registry.grows_poison _ id
  underway {i} hi := by
    by_cases same : i = id
    · exact .inr (.inl (IdSet.mem_insert.2 (.inl same)))
    · exact .inl (hi.imp_left fun hi => (List.mem_erase_of_ne same).2 hi)
  incomplete h := h

end Listing

namespace Moment

open Listing

variable {u : SourceUnit} {m m' : Moment} {F : List Frame} {l l' : Listing} {b : List BuiltinEntry}

/-- Every step keeps moments sound, and what a conversion relies on lasts through it. -/
theorem Next.endures (h : Next u m m') (hu : u.Coherent) (hm : m.Sound u) :
    m'.Sound u ∧ m.listing.Endures u m'.listing := by
  have hs := hm.listing
  have hl := hm.undefined
  cases h with
  | visited scope visit =>
    have lasts := (visit.goes hu scope hs hl).endures
    exact ⟨hm.endures lasts fun _ h => h, lasts⟩
  | @entered F l l₁ S c g place look tag =>
    have looked := (Visit.of_lookup (S := fun _ => False) look).goes hu (fun _ h => h.elim) hs hl
    have lasts := looked.endures.trans (endures_enter looked.proceeds.sound looked.undefined g.id)
    refine ⟨⟨lasts.sound, lasts.undefined, fun f hf => ?_⟩, lasts⟩
    rcases List.mem_cons.1 hf with rfl | hf
    · exact ⟨g, (known_of_lookup hs look).2, rfl⟩
    · exact hm.registered lasts hf
  | @finished F l f form ms =>
    obtain ⟨g, hg, ho⟩ := hm.frames f (List.mem_cons_self ..)
    have lasts := endures_enterRecord (c := f.cursor) hs hl hg ho form ms
    exact ⟨hm.endures lasts fun _ h => List.mem_cons_of_mem _ h, lasts⟩
  | abandoned own given =>
    have lasts := endures_abandon hs hl own given
    exact ⟨hm.endures lasts fun _ h => List.mem_cons_of_mem _ h, lasts⟩
  | typed known outline own t =>
    have lasts := endures_addTyped hs hl known outline own t
    exact ⟨hm.endures lasts fun _ h => h, lasts⟩
  | @skipped l c id known e =>
    have lasts : l.Endures u (l.skipped u c e) := by
      rw [skipped_eq known]
      exact endures_expel hs hl id _
    exact ⟨hm.endures lasts fun _ h => h, lasts⟩
  | @struck l g broken =>
    have lasts : l.Endures u (l.strike g broken) := endures_expel hs hl g.id _
    exact ⟨hm.endures lasts fun _ h => h, lasts⟩

theorem Leads.endures (h : Leads u m m') (hu : u.Coherent) (hm : m.Sound u) :
    m'.Sound u ∧ m.listing.Endures u m'.listing := by
  induction h with
  | refl => exact ⟨hm, (goes_refl hm.listing hm.undefined).endures⟩
  | tail _ step ih =>
    obtain ⟨hm₁, lasts⟩ := ih
    obtain ⟨hm', lasts'⟩ := step.endures hu hm₁
    exact ⟨hm', lasts.trans lasts'⟩

theorem Leads.trans {m'' : Moment} (h : Leads u m m') (h' : Leads u m' m'') : Leads u m m'' :=
  Relation.ReflTransGen.trans h h'

theorem Next.leads (h : Next u m m') : Leads u m m' := .single h

end Moment

section course

open Listing SourceUnit Moment

variable {u : SourceUnit} {S : CursorId → Prop} {c : CursorId} {l l' : Listing}
  {b : List BuiltinEntry}

/-- A visit is part of the course, also where it fails for a reason of its own, and so is whatever
happens inside the definitions that it comes to. -/
theorem Visit.leads {o : Option Fault} (h : Visit u S l o l') (hs : l.Sound u)
    (scope : ∀ d, S d → u.isFound d = true ∨ u.Named d)
    (ho : ∀ e, o = some e → e.isLocal = true) (F : List Frame) : Leads u ⟨F, l⟩ ⟨F, l'⟩ := by
  have nests : ∀ c d, u.Nests c d → u.isFound d = true ∨ u.Named d :=
    fun _ _ h => .inl (isFound_of_isTag h.2)
  induction h generalizing F with
  | done | halt => exact .refl
  | noted n _ ih =>
    exact (Next.visited scope (.noted n .done)).leads.trans (ih (hs.congr rfl rfl rfl) scope ho F)
  | looked look _ ih =>
    exact (Next.visited scope (.of_lookup look)).leads.trans
      (ih (proceeds_lookup hs look).sound scope ho F)
  | undeclarable id fatal => rw [ho _ rfl] at fatal; cases fatal
  | incomplete place undefined known tag unlisted _ ih =>
    have step := Visit.incomplete place undefined known tag unlisted .done
    exact (Next.visited scope step).leads.trans (ih (step.proceeds hs).sound scope ho F)
  | enumerated place look form _ ih =>
    have step := Visit.enumerated place look form .done
    exact (Next.visited scope step).leads.trans (ih (step.proceeds hs).sound scope ho F)
  | @recorded _ _ l₁ _ _ _ c g ms place look form inside _ _ ihin ih =>
    have hs₁ := (proceeds_lookup hs look).sound.startDefining g.id
    have hp := proceeds_enterRecord ms hs look form (inside.proceeds hs₁)
    let f : Frame := ⟨c, g, l₁.added.length⟩
    have entry : Leads u ⟨F, _⟩ ⟨f :: F, _⟩ :=
      (Next.entered place look (Form.isTag_of_isComposite form)).leads
    have text := ihin hs₁ (nests c) (fun _ h => by cases h) (f :: F)
    exact ((entry.trans text).trans (Next.finished (f := f) form ms).leads).trans
      (ih hp.sound scope ho F)
  | @failed _ _ l₁ _ _ c g e _ place look tag inside given ihin =>
    have hs₁ := (proceeds_lookup hs look).sound.startDefining g.id
    obtain rfl := (abandon_error (inside.frame hs₁).1 given).1
    let f : Frame := ⟨c, g, l₁.added.length⟩
    have entry : Leads u ⟨F, _⟩ ⟨f :: F, _⟩ := (Next.entered place look (tag (ho _ rfl))).leads
    have text := ihin hs₁ (nests c) ho (f :: F)
    exact (entry.trans text).trans (Next.abandoned (f := f) (ho _ rfl) given).leads

theorem Extracted.leads (h : Extracted u c l l') (hs : l.Sound u) :
    Leads u ⟨[], l⟩ ⟨[], l'⟩ := by
  have near : ∀ d, u.Near c d → u.isFound d = true ∨ u.Named d :=
    fun _ h => isFound_or_named_of_near h
  cases h with
  | declared _ declared =>
    cases declared with
    | visited visit _ => exact visit.leads hs near (fun _ h => by cases h) []
    | typed visit _ _ known outline own _ =>
      exact (visit.leads hs near (fun _ h => by cases h) []).trans
        (Next.typed known outline own _).leads
  | @skipped l₁ e id _ own visit known =>
    exact (visit.leads hs near (fun _ h => by cases h; exact own) []).trans
      (Next.skipped known e).leads

theorem Walked.leads {cs : List CursorId} (h : Walked u cs l l') (hs : l.Sound u) :
    Leads u ⟨[], l⟩ ⟨[], l'⟩ :=
  h.keeps (P := fun l₁ => Leads u ⟨[], l⟩ ⟨[], l₁⟩) hs
    (fun hs leads step => leads.trans (step.leads hs)) .refl

theorem Listing.Sweeps.leads {R : List Int} (h : Sweeps l R l') : Leads u ⟨[], l⟩ ⟨[], l'⟩ := by
  induction h with
  | done => exact .refl
  | strike refers _ bad named _ ih => exact (Next.struck refers bad named).leads.trans ih

theorem Listing.Grounded.attested (h : l.Grounded u) : l.Attested where
  listed id hid := by
    obtain ⟨g, hg⟩ := h.sound.exists_of_mem_order id hid
    rw [hg, Option.map_some, h.sound.registry.own hg]
  poisoned id hid := by
    obtain ⟨g, hg⟩ := h.poisoned hid
    rw [hg, Option.map_some, h.sound.registry.own hg]

theorem SourceUnit.extract_leads {g : Graph} (h : u.extract b = (.ok g, l)) :
    Leads u (Moment.start b) ⟨[], l⟩ := by
  unfold extract extraction gatherTop at h
  simp only [Step.bind_run, Step.read, Step.modify] at h
  rcases hwalk : u.walk (visitTop u u.recursion) root (.ofBuiltins (.ofEntries b)) with
    ⟨e | ⟨⟩, walked⟩ <;> rw [hwalk] at h
  · cases h
  dsimp only at h
  have walk := (walk_ok hwalk).1.leads (SourceUnit.sound_start u b)
  have grounded : walked.Grounded u := by
    have passes := u.passes_walkWithin u.recursionBound u.depthBound (grounded_start u b)
    rw [SourceUnit.walk, Step.bind_run] at hwalk
    rcases within : u.walkWithin (visitTop u u.recursion) u.depthBound root
      (.ofBuiltins (.ofEntries b)) with ⟨e | ended, l₁⟩ <;> rw [within] at hwalk <;> cases hwalk
    rw [← recursion, within] at passes
    exact (passes.grounded (grounded_start u b)).1
  obtain ⟨R, pruned, hprune, sweeps, -⟩ := prune_sweeps grounded.attested
  rw [hprune] at h
  dsimp only at h
  rcases hds : globalsAt pruned.order pruned with ⟨e | ds, l₂⟩ <;> rw [hds] at h <;> cases h
  have sound := (prune_ok grounded.sound hprune).1.sound grounded.sound
  obtain rfl := (globalsAt_ok sound hds).1
  exact (walk.trans sweeps.leads).trans
    (Next.visited (S := fun _ => False) (fun _ h => h.elim) (.noted _ .done)).leads

theorem SourceUnit.convertWithin_leads {n : Nat} {t : TypeId} {m : CType} (hs : l.Sound u)
    (run : u.convertWithin n t c l = (.ok m, l')) (F : List Frame) : Leads u ⟨F, l⟩ ⟨F, l'⟩ := by
  have runs := (u.recursionWithin_faithful n).convert (S := fun _ => False) t c hs
  exact (runs.ok run).1.leads hs (fun _ h => h.elim) (fun _ h => by cases h) F

/-- Conversion is stable. Whatever type has been converted at some moment of an extraction, to
convert it again gives the same and changes nothing at all; and at every later moment it gives the
same or reports that something it refers to was skipped, which has been poisoned in between. -/
theorem conversion_stable {n n' : Nat} {t : TypeId} {m : CType} {F : List Frame}
    (hu : u.Coherent) (reached : Leads u (Moment.start b) ⟨F, l⟩)
    (run : u.convertWithin n t c l = (.ok m, l')) (deep : n ≤ n') :
    u.convertWithin n' t c l' = (.ok m, l') ∧
    ∀ later, Leads u ⟨F, l'⟩ later →
      (∃ l₃, u.convertWithin n' t c later.listing = (.ok m, l₃)) ∨
      ∃ i ∈ m.refs, ∃ g l₃, i ∉ l'.registry.poisoned ∧ i ∈ later.listing.registry.poisoned ∧
        l'.registry.globals.get? i = some g ∧ u.convertWithin n' t c later.listing =
          (.error (.unresolved g.name.display Fault.wasSkipped), l₃) := by
  have here := (reached.endures hu (Moment.sound_start u b)).1
  have deeper : u.convertWithin n' t c l = (.ok m, l') := by
    rw [← run]
    exact (u.recursionWithin_agrees deep).convert t c l (by
      show (u.convertWithin n t c l).1 ≠ _
      rw [run]
      exact fun h => by cases h)
  obtain ⟨goes, repeats⟩ :=
    repeating_recursionWithin hu n' t c here.listing here.undefined m l' deeper
  have after := ((SourceUnit.convertWithin_leads here.listing run F).endures hu here).1
  refine ⟨repeats.same (goes_refl after.listing after.undefined), fun later course => ?_⟩
  rcases repeats.recurs (course.endures hu after).2 with ⟨l₃, again, -⟩ | skipped
  · exact .inl ⟨l₃, again⟩
  · exact .inr skipped

/-- A reference to `struct D` is given before its definition is visited. The definition fails, and
from then on the same reference is refused. -/
theorem conversion_stable_until_skipped : ∃ m l' later i g l₃,
    variadicUnit.convertWithin 2 (.node 0) (.node 4) (Moment.start []).listing = (.ok m, l') ∧
    variadicUnit.convertWithin 3 (.node 0) (.node 4) l' = (.ok m, l') ∧
    visitOne variadicUnit (.node 1) l' = (.ok (), later) ∧
    i ∈ m.refs ∧ i ∉ l'.registry.poisoned ∧ i ∈ later.registry.poisoned ∧
    variadicUnit.convertWithin 3 (.node 0) (.node 4) later =
      (.error (.unresolved (Global.name g).display Fault.wasSkipped), l₃) := by
  have given : Step.gives (do
      let _ ← variadicUnit.convertWithin 2 (.node 0) (.node 4)
      visitOne variadicUnit (.node 1)
      Step.handling (do let _ ← variadicUnit.convertWithin 3 (.node 0) (.node 4); return false)
        fun _ => pure true) (Moment.start []).listing (fun refused => refused) = true := by
    decide +kernel
  obtain ⟨refused, final, run, rfl⟩ := Step.exists_of_gives given
  obtain ⟨m, l', converted, rest⟩ := Step.bind_eq_ok run
  obtain ⟨⟨⟩, later, visited, last⟩ := Step.bind_eq_ok rest
  have reached : Leads variadicUnit (Moment.start []) ⟨[], (Moment.start []).listing⟩ := .refl
  have sound : l'.Sound variadicUnit :=
    ((SourceUnit.convertWithin_leads (SourceUnit.sound_start variadicUnit []) converted []).endures
      (by decide +kernel) (Moment.sound_start variadicUnit [])).1.listing
  obtain ⟨same, lasts⟩ :=
    conversion_stable (by decide +kernel) reached converted (show 2 ≤ 3 by decide)
  refine ⟨m, l', later, ?_⟩
  rcases lasts ⟨[], later⟩ ((visitOne_extracted sound visited).leads sound) with
    ⟨l₃, again⟩ | ⟨i, hi, g, l₃, clean, bad, -, again⟩
  · simp only [Step.handling, Step.bind_run, again] at last
    cases last
  · exact ⟨i, g, l₃, converted, same, visited, hi, clean, bad, again⟩

end course

end DeclAtlas
