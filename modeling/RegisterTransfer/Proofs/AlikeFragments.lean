import RegisterTransfer.Proofs.AlikeBuilders
import RegisterTransfer.Proofs.Resolved

/-!
# Fragments of builders that are alike

Two builders that are alike elaborate to fragments that agree: an observed domain holds the same statements and drives
the same signals in both, and so do the parts, one after the other.
-/

namespace RegisterTransfer

theorem Builder.driven_of_elaborate {builder : Builder} {behind : Option IfChain} {platform : Option Platform}
    {fragment : Fragment} (sound : builder.Sound) (place : builder.control.AtBody behind [])
    (elaborated : builder.elaborate platform = .ok fragment) : fragment.Driven := by
  have made := elaborate_eq sound place platform
  split at made
  · rw [made] at elaborated
    contradiction
  · obtain ⟨other, again, -, driven⟩ := made
    rw [again, Except.ok.injEq] at elaborated
    exact elaborated ▸ driven

namespace Likeness

variable {likeness : Likeness} {first second : Builder} {domain : String}

/-- Machines that are alike give the same meaning to transitions, where the runs are observed. -/
theorem Rest.settledAll_eq (rest : likeness.Rest first second) (seen : likeness.observed domain)
    (statements : List Statement) :
    Statement.settledAll first.machines statements = Statement.settledAll second.machines statements := by
  refine Statement.settledAll_congr fun id state loc _ ↦ ?_
  have plain := likeness.plain_of_observed seen
  have pair := rest.machines id
  rw [plain.ids, id_eq] at pair
  rw [Statement.settled, Statement.settled]
  generalize first.machines.get? id = machine at pair ⊢
  generalize second.machines.get? id = other at pair ⊢
  cases pair with
  | none => rfl
  | @some machine other alike =>
    have register : machine.register = other.register := by
      rw [alike.register, funext (likeness.signal_eq plain), Option.map_id_fun', id_eq]
    rw [Option.bind_some, Option.bind_some, Machine.assignment?, Machine.assignment?, register]
    by_cases lost : likeness.lost id
    · rw [alike.incomplete lost]
    · rw [(alike.kept lost).encoding ((likeness.same domain seen).2 id)]

/-- What elaborates in the first run does so in the second one, and the fragments agree. -/
theorem Lags.components (lags : likeness.Lags first second) (sound : first.Sound) (also : second.Sound)
    {behind grown : Option IfChain} (place : first.control.AtBody behind [])
    (there : second.control.AtBody grown []) (seen : likeness.observed domain) :
    Components domain first.toComponent second.toComponent := by
  intro platform fragment made
  change first.elaborate platform = .ok fragment at made
  have parts : List.Forall₂ (fun part other ↦ part.1 = other.1 ∧ Parts domain part.2 other.2) first.parts
      second.parts := by
    refine List.rel_append ?_ ?_
    · refine List.forall₂_map_left_iff.2 (List.forall₂_map_right_iff.2 ((lags.rest.partsByName domain seen).imp ?_))
      exact fun part other alike ↦ ⟨congrArg some alike.1, alike.2⟩
    · refine List.forall₂_map_left_iff.2 (List.forall₂_map_right_iff.2 ((lags.rest.otherParts domain seen).imp ?_))
      exact fun part other alike ↦ ⟨rfl, alike⟩
  have becomes := Builder.parts_of_elaborate sound place made
  cases again : second.elaborate platform with
  | error failure =>
    have failing := ((Builder.elaborate_eq_error_iff also there failure).1 again).exists_failing
    exfalso
    obtain ⟨part, mem, failed⟩ := failing
    generalize first.parts = these at parts becomes
    generalize second.parts = those at parts mem
    generalize fragment.parts = contents at becomes
    induction parts generalizing contents with
    | nil => contradiction
    | cons head _ ih =>
      cases becomes with
      | cons elaborated others =>
        rcases List.mem_cons.1 mem with rfl | mem
        · obtain ⟨other, passed, -⟩ := head.2.components platform _ elaborated.1
          rw [failed] at passed
          contradiction
        · exact ih mem _ others
  | ok other =>
    refine ⟨other, again, ?_⟩
    have tracks := lags.flushed (.of_sound also (.inl ⟨_, _, there⟩))
    have held : fragment.statements.statementsOf domain = other.statements.statementsOf domain := by
      rw [Builder.statements_of_elaborate sound place made, Builder.statements_of_elaborate also there again,
        Builder.statementsOf_settledStatements, Builder.statementsOf_settledStatements,
        tracks.recording.statements.statementsOf seen, tracks.rest.settledAll_eq seen,
        tracks.rest.indicators domain seen]
    have becoming := Builder.parts_of_elaborate also there again
    have pairs : List.Forall₂ (fun part other ↦ (part.name = other.name ∧ part.loc = other.loc) ∧
        Fragment.Agrees domain part.content other.content) fragment.parts other.parts := by
      clear held
      generalize first.parts = these at parts becomes
      generalize second.parts = those at parts becoming
      generalize fragment.parts = contents at becomes ⊢
      generalize other.parts = results at becoming ⊢
      induction parts generalizing contents results with
      | nil =>
        cases becomes
        cases becoming
        exact .nil
      | cons head _ ih =>
        cases becomes with
        | cons elaborated others =>
          cases becoming with
          | cons elaborated' others' =>
            refine .cons ⟨⟨?_, ?_⟩, ?_⟩ (ih _ others _ others')
            · rw [elaborated.2.1, elaborated'.2.1, head.1]
            · rw [elaborated.2.2, elaborated'.2.2, head.2.loc]
            · obtain ⟨made, passed, agrees⟩ := head.2.components platform _ elaborated.1
              rw [elaborated'.1, Except.ok.injEq] at passed
              exact passed ▸ agrees
    refine .intro held (fun signal ↦ ?_) (map_eq_map_of_forall₂ pairs fun _ _ same ↦ by rw [same.1.1, same.1.2])
      (List.forall₂_map_left_iff.2 (List.forall₂_map_right_iff.2 (pairs.imp fun _ _ same ↦ same.2)))
    rw [Builder.driven_of_elaborate sound place made, Builder.driven_of_elaborate also there again, held]

end Likeness

end RegisterTransfer
