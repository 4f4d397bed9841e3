import RegisterTransfer.Lowering
import RegisterTransfer.Statement.Lemmas

/-!
# One branch for every domain

Closing a construct gives each touched domain exactly one branch statement, and a branch statement exactly one
case for every case of the construct.
-/

namespace RegisterTransfer.Lowering

@[simp] theorem map_fst_split (test : Value) (cases : List (Case Body)) (loc : Location) :
    (split test cases loc).map Prod.fst = domains cases := by
  simp [split, List.map_map, Function.comp_def]

theorem mem_split_iff (test : Value) (cases : List (Case Body)) (loc : Location) (domain : String)
    (statement : Statement) :
    (domain, statement) ∈ split test cases loc ↔
      domain ∈ domains cases ∧ statement = branchIn test cases loc domain := by
  simp only [split, List.mem_map, Prod.mk.injEq]
  constructor
  · rintro ⟨other, hmem, rfl, rfl⟩
    exact ⟨hmem, rfl⟩
  · rintro ⟨hmem, rfl⟩
    exact ⟨domain, hmem, rfl, rfl⟩

/-- A domain is touched if and only if some body holds statements filed under it. -/
theorem mem_domains_iff (cases : List (Case Body)) (domain : String) :
    domain ∈ domains cases ↔ ∃ branch ∈ cases, domain ∈ branch.body.keys := by
  simp [domains, List.mem_eraseDups]

end RegisterTransfer.Lowering
