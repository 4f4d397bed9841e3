import RegisterTransfer.Proofs.Elaboration
import RegisterTransfer.Proofs.Keeping

/-!
# The parts of a module

The parts of a module stay in the order in which they were added, and a part that joins them is the last of its kind.
Each of them becomes one part of the fragment, up to the first that fails, and then the whole module fails like it.
-/

namespace RegisterTransfer

namespace Builder

/-! ## Parts one after the other -/

section Elaborate

variable (platform : Option Platform)

/-- The first part that has no fragment fails like this. -/
def FirstFails (parts : List (Option String × Component × Location)) (failure : Failure) : Prop :=
  ∃ earlier part later, parts = earlier ++ part :: later ∧
    (∀ other ∈ earlier, ∃ content, other.2.1.elaborate platform = .ok content) ∧
      part.2.1.elaborate platform = .error failure

/-- The part of a fragment that a part of the module comes to. -/
def Becomes (part : Option String × Component × Location) (made : Part Fragment) : Prop :=
  part.2.1.elaborate platform = .ok made.content ∧ made.name = part.1 ∧ made.loc = part.2.2

variable {platform}

theorem firstFails_cons (part : Option String × Component × Location)
    (rest : List (Option String × Component × Location)) (failure : Failure) :
    FirstFails platform (part :: rest) failure ↔ part.2.1.elaborate platform = .error failure ∨
      (∃ content, part.2.1.elaborate platform = .ok content) ∧ FirstFails platform rest failure := by
  constructor
  · rintro ⟨earlier, failing, later, split, passed, failed⟩
    cases earlier with
    | nil =>
      rw [List.nil_append, List.cons.injEq] at split
      exact .inl (split.1 ▸ failed)
    | cons first others =>
      rw [List.cons_append, List.cons.injEq] at split
      obtain ⟨rfl, rfl⟩ := split
      exact .inr ⟨passed _ (List.mem_cons_self ..), others, failing, later, rfl,
        fun other mem ↦ passed other (List.mem_cons_of_mem _ mem), failed⟩
  · rintro (failed | ⟨passes, earlier, failing, later, rfl, passed, failed⟩)
    · exact ⟨[], part, rest, rfl, by simp, failed⟩
    · refine ⟨part :: earlier, failing, later, rfl, fun other mem ↦ ?_, failed⟩
      rcases List.mem_cons.1 mem with rfl | mem
      · exact passes
      · exact passed other mem

theorem FirstFails.exists_failing {parts : List (Option String × Component × Location)} {failure : Failure}
    (fails : FirstFails platform parts failure) : ∃ part ∈ parts, part.2.1.elaborate platform = .error failure := by
  obtain ⟨earlier, part, later, rfl, -, failed⟩ := fails
  exact ⟨part, by simp, failed⟩

theorem elaborateParts_eq_error_iff (parts : List (Option String × Component × Location)) (start : Fragment)
    (failure : Failure) :
    elaborateParts platform parts start = .error failure ↔ FirstFails platform parts failure := by
  induction parts generalizing start with
  | nil => simp [elaborateParts, FirstFails]
  | cons part rest ih =>
    obtain ⟨name, component, loc⟩ := part
    rw [firstFails_cons]
    simp only [elaborateParts, bind, Except.bind]
    cases content : component.elaborate platform with
    | error other => simp
    | ok fragment => simpa using ih (start.addPart fragment name loc)

theorem parts_of_elaborateParts {parts : List (Option String × Component × Location)} {start last : Fragment}
    (elaborated : elaborateParts platform parts start = .ok last) :
    ∃ made, last.parts = start.parts ++ made ∧ List.Forall₂ (Becomes platform) parts made := by
  induction parts generalizing start with
  | nil =>
    have same : start = last := by simpa [elaborateParts] using elaborated
    exact ⟨[], by rw [same, List.append_nil], .nil⟩
  | cons part rest ih =>
    obtain ⟨name, component, loc⟩ := part
    obtain ⟨fragment, content, elaborated⟩ := bind_eq_ok_iff.1 elaborated
    obtain ⟨made, listed, others⟩ := ih elaborated
    refine ⟨⟨fragment, name, loc⟩ :: made, ?_, .cons ⟨content, rfl, rfl⟩ others⟩
    rw [listed, Fragment.addPart, List.append_assoc, List.singleton_append]

/-- Between the steps of a module, elaboration fails exactly as its first failing part does. -/
theorem elaborate_eq_error_iff {builder : Builder} {behind : Option IfChain} (sound : builder.Sound)
    (place : builder.control.AtBody behind []) (failure : Failure) :
    builder.elaborate platform = .error failure ↔ FirstFails platform builder.parts failure := by
  have elaborated := elaborate_eq sound place platform
  rw [← elaborateParts_eq_error_iff builder.parts (.empty builder.loc)]
  split at elaborated
  · rename_i other failed
    rw [elaborated, failed]
  · rename_i parts passed
    obtain ⟨fragment, made, -⟩ := elaborated
    simp [made, passed]

end Elaborate

/-! ## Parts that join others -/

/-- The parts stay in their order, and those that have joined them fit. -/
structure Retains (fits : Component → Prop) (before after : Builder) : Prop where
  named : ∃ added, after.namedParts.entries = before.namedParts.entries ++ added ∧ ∀ entry ∈ added, fits entry.2.1
  anonymous : ∃ added, after.anonymousParts = before.anonymousParts ++ added ∧ ∀ part ∈ added, fits part.1

variable {fits : Component → Prop} {before middle after : Builder}

theorem SameParts.retains (same : before.SameParts after) : before.Retains fits after where
  named := ⟨[], by rw [same.named, List.append_nil], by simp⟩
  anonymous := ⟨[], by rw [same.anonymous, List.append_nil], by simp⟩

theorem Retains.trans (first : before.Retains fits middle) (second : middle.Retains fits after) :
    before.Retains fits after where
  named := by
    obtain ⟨added, listed, fitting⟩ := first.named
    obtain ⟨others, listed', fitting'⟩ := second.named
    refine ⟨added ++ others, by rw [listed', listed, List.append_assoc], fun entry mem ↦ ?_⟩
    exact (List.mem_append.1 mem).elim (fitting entry) (fitting' entry)
  anonymous := by
    obtain ⟨added, listed, fitting⟩ := first.anonymous
    obtain ⟨others, listed', fitting'⟩ := second.anonymous
    refine ⟨added ++ others, by rw [listed', listed, List.append_assoc], fun part mem ↦ ?_⟩
    exact (List.mem_append.1 mem).elim (fitting part) (fitting' part)

theorem Joins.retains {builder : Builder} {name : Option String} {component : Component} {loc : Location}
    {named : Table String (Component × Location)} {anonymous : List (Component × Location)}
    (joins : builder.Joins name component loc named anonymous) (fit : fits component) :
    builder.Retains fits { builder with namedParts := named, anonymousParts := anonymous } := by
  have none_added : ∃ added, builder.anonymousParts = builder.anonymousParts ++ added ∧ ∀ part ∈ added, fits part.1 :=
    ⟨[], by rw [List.append_nil], by simp⟩
  cases name with
  | none =>
    obtain ⟨rfl, rfl⟩ := joins
    exact ⟨⟨[], by rw [List.append_nil], by simp⟩, [(component, loc)], rfl, by simpa using fit⟩
  | some name =>
    obtain ⟨listed, rfl⟩ := joins
    exact ⟨⟨[(name, component, loc)], listed, by simpa using fit⟩, none_added⟩

/-- The parts of a module that started without any. -/
theorem Retains.fits_of_start {settings : Settings} {tag : Nat} {loc : Location}
    (retains : (Builder.start settings tag loc).Retains fits after) : ∀ part ∈ after.parts, fits part.2.1 := by
  intro part mem
  rcases List.mem_append.1 mem with mem | mem
  · obtain ⟨added, listed, fitting⟩ := retains.named
    obtain ⟨entry, inner, rfl⟩ := List.mem_map.1 mem
    rw [listed] at inner
    exact fitting entry (by simpa [Builder.start] using inner)
  · obtain ⟨added, listed, fitting⟩ := retains.anonymous
    obtain ⟨entry, inner, rfl⟩ := List.mem_map.1 mem
    rw [listed] at inner
    exact fitting entry (by simpa [Builder.start] using inner)

end Builder

/-- Parts fit wherever they are added, if a module fits whose own parts do. -/
theorem adding_retains {fits : Component → Prop}
    (inherits : ∀ (builder : Builder) (behind : Option IfChain), builder.Sound → builder.control.AtBody behind [] →
      (∀ part ∈ builder.parts, fits part.2.1) → fits builder.toComponent) :
    Adding (fun session later ↦ session.builder.Retains fits later.builder) fits where
  agrees same := same.toSameParts.retains
  trans first second := first.trans second
  entry _ _ := Builder.SameParts.retains ⟨rfl, rfl⟩
  component name component loc fit session := by
    refine (Run.ends_build ..).2 (Build.addPart_ends _ _ _ (fun named anonymous joins ↦ joins.retains fit) fun _ ↦ ?_)
    exact Builder.SameParts.retains ⟨rfl, rfl⟩
  module name settings loc steps keeps := by
    intro session
    simp only [Run.module, ends_bind, ends_get, ends_modify, Run.ends_build]
    have ran := (proceed steps).2
      { session with builder := .start settings session.started loc, started := session.started + 1 }
      (Builder.sound_start ..) (Builder.placed_start ..)
    refine ((keeps _).and ran).mono ?_ fun _ _ impossible ↦ impossible.2.elim
    rintro _ inner ⟨retains, stays⟩
    obtain ⟨behind, place⟩ := stays.level.body _ _ (Control.atBody_nil [])
    have fit := inherits inner.builder behind stays.sound place retains.fits_of_start
    refine Build.addPart_ends _ _ _ (fun named anonymous joins ↦ joins.retains fit) fun _ ↦ ?_
    exact Builder.SameParts.retains ⟨rfl, rfl⟩

end RegisterTransfer
