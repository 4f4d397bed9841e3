import RegisterTransfer.Control

/-!
# Closing a construct

A closed construct becomes one branch statement for every domain that one of its bodies touches, and every such
statement has all the cases of the construct, so that each domain takes the same branch. A chain of conditions
branches on the conditions side by side, first condition in the lowest bit: branch number `n` asks for bit `n`
alone, since earlier cases come first and later conditions do not matter.
-/

namespace RegisterTransfer

namespace Lowering

/-- The domains that the bodies of some cases touch, in the order of first use. -/
def domains (cases : List (Case Body)) : List String :=
  (cases.flatMap fun branch ↦ branch.body.keys).eraseDups

/-- The branch statement of one domain: all the cases, each with what it holds for that domain. -/
def branchIn (test : Value) (cases : List (Case Body)) (loc : Location) (domain : String) : Statement :=
  .switch test (cases.map fun branch ↦ branch.map fun body ↦ body.statementsOf domain) loc

/-- One branch statement for every touched domain. -/
def split (test : Value) (cases : List (Case Body)) (loc : Location) : List (String × Statement) :=
  (domains cases).map fun domain ↦ (domain, branchIn test cases loc domain)

end Lowering

/-- The pattern of condition `index` out of `count`, highest condition first: only its own bit is asked for. -/
def priorityPattern (index count : Nat) : Except Fault String :=
  if index < count then
    .ok (String.ofList ((List.range count).reverse.map fun bit ↦ if bit = index then '1' else '-'))
  else .error (.branchIndex index count)

namespace IfChain

def tests (chain : IfChain) : List Value := chain.branches.filterMap Branch.test

/-- The conditions side by side, each as a single bit. -/
def test (chain : IfChain) : Value := .cat (chain.tests.map Value.asBool)

/-- The cases of branches that start at a position; the branch without a test always matches. -/
def cases (count : Nat) : Nat → List Branch → Except Fault (List (Case Body))
  | _, [] => .ok []
  | index, branch :: rest => do
    let patterns ← match branch.test with
      | some _ => do pure [Pattern.bits (← priorityPattern index count)]
      | none => pure []
    let others ← cases count (index + 1) rest
    return ⟨patterns, branch.body, some branch.loc⟩ :: others

/-- The branch statements of a chain; a chain that touches no domain has none. -/
def lower (chain : IfChain) : Except Fault (List (String × Statement)) :=
  if chain.branches.all fun branch ↦ branch.body.isEmpty then .ok []
  else do
    let cases ← cases chain.tests.length 0 chain.branches
    return Lowering.split chain.test cases chain.loc

end IfChain

namespace OpenSwitch

/-- The recorded cases in the order of their first recording. -/
def caseList (switch : OpenSwitch) : List (Case Body) :=
  switch.cases.entries.map fun entry ↦ ⟨entry.1, entry.2.body, some entry.2.loc⟩

def lower (switch : OpenSwitch) : List (String × Statement) :=
  Lowering.split switch.test switch.caseList switch.loc

end OpenSwitch

namespace Machine

/-- What closing a machine leaves: the machine itself, the assignments of its indicators, and the branch
statements on its register. -/
structure Closing where
  machine : Machine
  indicators : List Statement
  branches : List (String × Statement)

/-- Every indicator compares the register with the number of its state. -/
def indicatorAssignments (register : Signal) (encoding : Table String Nat) :
    List (String × Signal) → Except Fault (List Statement)
  | [] => .ok []
  | (state, indicator) :: rest => do
    let code ← encoding.fetch state
    let comparison := (Value.signal register).equals (.const (.ofShape code register.shape))
    return .assign (.signal indicator) comparison :: (← indicatorAssignments register encoding rest)

/-- The declared states in the order of their declaration, each asking for its number. -/
def stateCases (encoding : Table String Nat) :
    List (String × MachineState) → Except Fault (List (Case Body))
  | [] => .ok []
  | (name, state) :: rest => do
    let code ← encoding.fetch name
    return ⟨[.int code], state.body, some state.loc⟩ :: (← stateCases encoding rest)

/-- Settle the numbers of a complete machine. A machine without states gets a register of no width. -/
def close (machine : Machine) (id : MachineId) (loc : Location) : Except Failure Closing :=
  match machine.checkComplete loc with
  | .error error => .error (.refused error)
  | .ok () =>
    match machine.initialState? with
    | none => .ok ⟨{ machine with register := some (emptyRegister id machine.name) }, [], []⟩
    | some initial =>
      let encoding := numbered (machine.finalOrder initial)
      let register := stateRegister id machine.name encoding
      match indicatorAssignments register encoding machine.indicators.entries,
        stateCases encoding machine.states.entries with
      | .ok indicators, .ok cases =>
        .ok ⟨{ machine with encoding := encoding, register := some register }, indicators,
          Lowering.split (.signal register) cases loc⟩
      | .error fault, _ => .error (.broken fault)
      | .ok _, .error fault => .error (.broken fault)

end Machine

end RegisterTransfer
