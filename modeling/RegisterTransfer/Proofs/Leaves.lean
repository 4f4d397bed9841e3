import RegisterTransfer.Builder.Statements
import RegisterTransfer.Lowering.Lemmas
import Mathlib.Data.List.Basic

/-!
# What a body holds at any depth

Branch statements nest, and what is filed in them at any depth are assignments, property checks and transitions:
the leaves of the statement. Closing a construct puts the leaves of its bodies into the body around it, each
under its own domain, and adds no others.
-/

namespace RegisterTransfer

namespace Statement

/-! ## Leaves -/

/-- The bodies of the cases, for a statement that branches. -/
def bodies : Statement → List (List Statement)
  | .switch _ cases _ => cases.map Case.body
  | _ => []

/-- Lists of statements, by induction on the bodies of their first statement and on the others. -/
theorem list_induction {motive : List Statement → Prop} (nil : motive [])
    (cons : ∀ statement rest, (∀ body ∈ statement.bodies, motive body) → motive rest →
      motive (statement :: rest)) (statements : List Statement) : motive statements := by
  refine @Statement.rec_3 (fun statement ↦ ∀ body ∈ statement.bodies, motive body)
    (fun cases ↦ ∀ body ∈ cases.map Case.body, motive body) (fun branch ↦ motive branch.body) motive
    ?_ ?_ ?_ ?_ ?_ ?_ ?_ nil cons statements
  · simp [bodies]
  · simp [bodies]
  · exact fun _ _ _ ih ↦ ih
  · simp [bodies]
  · simp
  · intro head tail first others body mem
    rw [List.map_cons, List.mem_cons] at mem
    rcases mem with rfl | mem
    · exact first
    · exact others body mem
  · exact fun _ _ _ ih ↦ ih

mutual

/-- Everything filed in a statement that does not branch itself, in order. -/
def leaves : Statement → List Statement
  | .assign target source => [.assign target source]
  | .property kind test name => [.property kind test name]
  | .switch _ cases _ => leavesCases cases
  | .transition id state loc => [.transition id state loc]

def leavesCases : List (Case (List Statement)) → List Statement
  | [] => []
  | branch :: rest => leavesCase branch ++ leavesCases rest

def leavesCase : Case (List Statement) → List Statement
  | ⟨_, body, _⟩ => leavesAll body

def leavesAll : List Statement → List Statement
  | [] => []
  | statement :: rest => statement.leaves ++ leavesAll rest

end

theorem leavesAll_append (first second : List Statement) :
    leavesAll (first ++ second) = leavesAll first ++ leavesAll second := by
  induction first with
  | nil => rfl
  | cons statement rest ih => simp [leavesAll, ih, List.append_assoc]

theorem leavesCases_eq_flatMap (cases : List (Case (List Statement))) :
    leavesCases cases = cases.flatMap fun branch ↦ leavesAll branch.body := by
  induction cases with
  | nil => rfl
  | cons branch rest ih =>
    obtain ⟨patterns, body, loc⟩ := branch
    simp [leavesCases, leavesCase, ih]

theorem leaves_of_isPlain {statement : Statement} (plain : statement.isPlain = true) :
    statement.leaves = [statement] := by
  cases statement with
  | assign target source => rfl
  | property kind test name => rfl
  | switch test cases loc => simp [isPlain] at plain
  | transition id state loc => rfl

theorem leavesAll_of_isPlain {statements : List Statement} (plain : statements.all isPlain = true) :
    leavesAll statements = statements := by
  induction statements with
  | nil => rfl
  | cons statement rest ih =>
    rw [List.all_cons, Bool.and_eq_true] at plain
    simp [leavesAll, leaves_of_isPlain plain.1, ih plain.2]

/-- The signals a list of statements writes are those its leaves write. -/
theorem targetsAll_eq_leavesAll (statements : List Statement) :
    targetsAll statements = (leavesAll statements).flatMap targets := by
  induction statements using list_induction with
  | nil => rfl
  | cons statement rest bodies ih =>
    have first : statement.targets = statement.leaves.flatMap targets := by
      cases statement with
      | switch test cases loc =>
        rw [targets, leaves, targetsCases_eq_flatMap, leavesCases_eq_flatMap, List.flatMap_assoc]
        apply List.flatMap_congr
        intro branch mem
        exact bodies branch.body (List.mem_map.2 ⟨branch, mem, rfl⟩)
      | assign => simp [leaves]
      | property => simp [leaves]
      | transition => simp [leaves]
    rw [targetsAll, leavesAll, List.flatMap_append, ← ih, first]

end Statement

/-! ## Filing many statements -/

namespace Body

/-- Put branch statements at the end of their domains, one after the other. -/
def appendAll (body : Body) (branches : List (String × Statement)) : Body :=
  branches.foldl (fun body branch ↦ body.append branch.1 [branch.2]) body

@[simp] theorem appendAll_nil (body : Body) : body.appendAll [] = body := rfl

theorem statementsOf_appendAll (body : Body) (branches : List (String × Statement)) (domain : String) :
    (body.appendAll branches).statementsOf domain = body.statementsOf domain ++
      (branches.filter fun branch ↦ branch.1 = domain).map Prod.snd := by
  induction branches generalizing body with
  | nil => simp
  | cons branch rest ih =>
    have step : body.appendAll (branch :: rest) = (body.append branch.1 [branch.2]).appendAll rest := rfl
    rw [step, ih, statementsOf_append]
    by_cases h : domain = branch.1
    · simp [h]
    · have h' : ¬branch.1 = domain := fun eq ↦ h eq.symm
      simp [h, h']

/-- A body holds for no domain what it does not list. -/
theorem statementsOf_of_notMem {body : Body} {domain : String} (absent : domain ∉ body.keys) :
    body.statementsOf domain = [] := by
  rw [statementsOf, (body.get?_eq_none_iff domain).2 absent]
  rfl

theorem statementsOf_of_mem {body : Body} {domain : String} {statements : List Statement}
    (mem : (domain, statements) ∈ body.entries) : body.statementsOf domain = statements := by
  rw [statementsOf, (body.get?_eq_some_iff domain statements).2 mem]
  rfl

end Body

theorem Build.appendBranches_eq (branches : List (String × Statement)) (builder : Builder) :
    Build.appendBranches branches builder =
      .ok () { builder with statements := builder.statements.appendAll branches } := by
  induction branches generalizing builder with
  | nil => rfl
  | cons branch rest ih => exact ih _

namespace Lowering

theorem nodup_eraseDups (domains : List String) : domains.eraseDups.Nodup := by
  match domains with
  | [] => simp
  | domain :: rest =>
    rw [List.eraseDups_cons, List.nodup_cons]
    refine ⟨?_, nodup_eraseDups (rest.filter fun other ↦ !other == domain)⟩
    simp [List.mem_eraseDups]
termination_by domains.length
decreasing_by exact Nat.lt_succ_of_le (List.length_filter_le _ _)

theorem nodup_domains (cases : List (Case Body)) : (domains cases).Nodup := nodup_eraseDups _

/-- A domain that no body touches gets nothing, every other one branch statement. -/
theorem filter_split (test : Value) (cases : List (Case Body)) (loc : Location) (domain : String) :
    ((split test cases loc).filter fun branch ↦ branch.1 = domain).map Prod.snd =
      if domain ∈ domains cases then [branchIn test cases loc domain] else [] := by
  have distinct := nodup_domains cases
  unfold split
  generalize domains cases = touched at distinct ⊢
  induction touched with
  | nil => simp
  | cons other rest ih =>
    rw [List.nodup_cons] at distinct
    have ih := ih distinct.2
    by_cases h : other = domain
    · subst h
      rw [if_neg distinct.1] at ih
      simp [ih]
    · have h' : ¬domain = other := fun eq ↦ h eq.symm
      simp [h, h', ih]

theorem statementsOf_of_notMem_domains {cases : List (Case Body)} {domain : String}
    (untouched : domain ∉ domains cases) {branch : Case Body} (mem : branch ∈ cases) :
    branch.body.statementsOf domain = [] := by
  rw [mem_domains_iff] at untouched
  exact Body.statementsOf_of_notMem fun key ↦ untouched ⟨branch, mem, key⟩

theorem leaves_branchIn (test : Value) (cases : List (Case Body)) (loc : Location) (domain : String) :
    (branchIn test cases loc domain).leaves =
      cases.flatMap fun branch ↦ Statement.leavesAll (branch.body.statementsOf domain) := by
  rw [branchIn, Statement.leaves, Statement.leavesCases_eq_flatMap, List.flatMap_map]
  rfl

end Lowering

/-! ## Bodies all of whose leaves have a property -/

/-- Every leaf of a body has a property, which may depend on the domain it is filed under. -/
def Body.Holds (holds : String → Statement → Prop) (body : Body) : Prop :=
  ∀ domain, ∀ leaf ∈ Statement.leavesAll (body.statementsOf domain), holds domain leaf

namespace Body.Holds

variable {holds other : String → Statement → Prop} {body : Body}

theorem empty : Body.Holds holds ∅ := by
  intro domain leaf mem
  rw [statementsOf_empty] at mem
  simp [Statement.leavesAll] at mem

theorem mono (all : body.Holds holds) (implies : ∀ domain leaf, holds domain leaf → other domain leaf) :
    body.Holds other := fun domain leaf mem ↦ implies domain leaf (all domain leaf mem)

theorem append (all : body.Holds holds) {domain : String} {statements : List Statement}
    (new : ∀ leaf ∈ Statement.leavesAll statements, holds domain leaf) :
    (body.append domain statements).Holds holds := by
  intro found leaf mem
  rw [statementsOf_append] at mem
  by_cases h : found = domain
  · subst h
    rw [if_pos rfl, Statement.leavesAll_append, List.mem_append] at mem
    exact mem.elim (all found leaf) (new leaf)
  · rw [if_neg h] at mem
    exact all found leaf mem

/-- Closing a construct keeps a property that its bodies and the body around it have. -/
theorem appendAll_split (all : body.Holds holds) {cases : List (Case Body)}
    (inner : ∀ branch ∈ cases, branch.body.Holds holds) (test : Value) (loc : Location) :
    (body.appendAll (Lowering.split test cases loc)).Holds holds := by
  intro domain leaf mem
  rw [statementsOf_appendAll, Lowering.filter_split, Statement.leavesAll_append, List.mem_append] at mem
  rcases mem with mem | mem
  · exact all domain leaf mem
  · split at mem
    · simp only [Statement.leavesAll, List.append_nil, Lowering.leaves_branchIn, List.mem_flatMap] at mem
      obtain ⟨branch, found, mem⟩ := mem
      exact inner branch found domain leaf mem
    · simp [Statement.leavesAll] at mem

end Body.Holds

end RegisterTransfer
