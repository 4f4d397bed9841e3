import RegisterTransfer.Proofs.Keeping

/-!
# Accepted runs

A run is accepted if every call in it returns. The trace of a run only ever grows, so a run that ends without a
refusal in its trace has had none on the way.
-/

namespace RegisterTransfer

/-! ## The trace grows -/

/-- The entries of the trace are still there, and others may have joined them. -/
def Session.Extends (session later : Session) : Prop := session.trace <+: later.trace

theorem Run.build_extends {α : Type} (call : Build α) : Run.Keeps Session.Extends (Run.build call) := by
  intro session
  rw [ends_build]
  unfold Ends
  split
  · exact List.prefix_refl _
  · exact List.prefix_refl _
  · trivial

theorem adding_extends : Adding Session.Extends fun _ ↦ True where
  agrees same := by simp only [Session.Extends, same.trace, List.prefix_rfl]
  trans first second := List.IsPrefix.trans first second
  entry session entry := List.prefix_append ..
  component name component loc _ := Run.build_extends _
  module name settings loc steps keeps := by
    intro session
    simp only [Run.module, ends_bind, ends_get, ends_modify]
    refine (keeps _).mono (fun _ later before ↦ ?_) fun _ _ before ↦ before
    exact (Run.build_extends _ _).mono_always fun _ after ↦ List.IsPrefix.trans before after

theorem steps_extend (steps : List Step) :
    Run.Keeps Session.Extends (runBody steps) ∧ Run.Keeps Session.Extends (runAll steps) :=
  keeps_steps adding_extends steps fun _ _ ↦ trivial

/-! ## Acceptance -/

/-- Every step so far has returned. -/
def Session.Accepted (session : Session) : Prop := ∀ entry ∈ session.trace, ∃ answer, entry.result = .ok answer

theorem Session.Accepted.of_prefix {session later : Session} (accepted : later.Accepted)
    (before : session.Extends later) : session.Accepted :=
  fun entry mem ↦ accepted entry (List.IsPrefix.subset before mem)

/-- What holds after an accepted step does, and a refused step is in the trace. -/
theorem Run.ends_traced_accepted {session : Session} {label : String} {loc : Location} {action : Run Answer}
    {holds : Session → Prop} (same : ∀ later trace, holds later → holds { later with trace := trace })
    (ends : Ends action session ⟨fun _ later ↦ later.Accepted → holds later, fun _ _ ↦ True⟩) :
    Ends (Run.traced label loc action) session
      ⟨fun _ later ↦ later.Accepted → holds later, fun _ later ↦ ¬later.Accepted⟩ := by
  refine (Run.ends_traced ..).2 (ends.mono (fun answer later implies accepted ↦ ?_) fun error later _ accepted ↦ ?_)
  · exact same later _ (implies fun entry mem ↦ accepted entry (List.mem_append_left _ mem))
  · obtain ⟨answer, returned⟩ := accepted _ (List.mem_append_right _ (List.mem_singleton.2 rfl))
    simp at returned

end RegisterTransfer
