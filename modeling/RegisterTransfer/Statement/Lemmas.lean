import RegisterTransfer.Statement
import RegisterTransfer.Table.Lemmas

/-!
# Bodies and written signals

What a body holds for a domain is the list of everything that was filed there, in order; the signals that nested
statements write are those of their parts, one after the other.
-/

namespace RegisterTransfer

namespace Value

/-- Several values fold if every one of them does, and to the constants they fold to. -/
theorem asConsts_eq_some_iff (values : List Value) (constants : List Constant) :
    asConsts values = some constants ↔ values.map asConst = constants.map some := by
  induction values generalizing constants with
  | nil => cases constants <;> simp [asConsts]
  | cons value rest ih =>
    cases hv : value.asConst with
    | none => cases constants <;> simp [asConsts, hv]
    | some constant =>
      cases constants with
      | nil => simp [asConsts, hv]
      | cons first others =>
        have peel : asConsts (value :: rest) = (asConsts rest).map (constant :: ·) := by
          cases h : asConsts rest <;> simp [asConsts, hv, h]
        rw [peel, Option.map_eq_some_iff, List.map_cons, List.map_cons, hv]
        constructor
        · rintro ⟨found, hfound, hcons⟩
          rw [List.cons.injEq] at hcons
          rw [(ih found).1 hfound, hcons.1, hcons.2]
        · intro h
          rw [List.cons.injEq, Option.some.injEq] at h
          exact ⟨others, (ih others).2 h.2, by rw [h.1]⟩

end Value

namespace Statement

theorem targetsAll_append (first second : List Statement) :
    targetsAll (first ++ second) = targetsAll first ++ targetsAll second := by
  induction first with
  | nil => rfl
  | cons statement rest ih => simp [targetsAll, ih, List.append_assoc]

theorem targetsAll_eq_flatMap (statements : List Statement) :
    targetsAll statements = statements.flatMap targets := by
  induction statements with
  | nil => rfl
  | cons statement rest ih => simp [targetsAll, ih]

theorem targetsCases_eq_flatMap (cases : List (Case (List Statement))) :
    targetsCases cases = cases.flatMap fun branch ↦ targetsAll branch.body := by
  induction cases with
  | nil => rfl
  | cons branch rest ih =>
    obtain ⟨patterns, body, loc⟩ := branch
    simp [targetsCases, targetsCase, ih]

end Statement

namespace Body

@[simp] theorem statementsOf_empty (domain : String) : statementsOf ∅ domain = [] := rfl

/-- Statements go to the end of their own domain and to no other. -/
theorem statementsOf_append (body : Body) (domain other : String) (statements : List Statement) :
    (body.append domain statements).statementsOf other =
      if other = domain then body.statementsOf domain ++ statements else body.statementsOf other := by
  unfold append
  cases statements with
  | nil =>
    by_cases h : other = domain
    · simp [h]
    · simp [h]
  | cons statement rest =>
    by_cases h : other = domain
    · simp [statementsOf, Table.get?_upsert, h]
    · simp [statementsOf, Table.get?_upsert, h]

/-- The domains of a body stand in the order of their first statements. -/
theorem keys_append (body : Body) (domain : String) {statements : List Statement} (nonempty : statements ≠ []) :
    (body.append domain statements).keys =
      if domain ∈ body.keys then body.keys else body.keys ++ [domain] := by
  have h : statements.isEmpty = false := by simpa using nonempty
  simp only [append, h, Bool.false_eq_true, ↓reduceIte]
  exact body.keys_upsert domain _

end Body

end RegisterTransfer
