import RegisterTransfer.Proofs.Calls
import RegisterTransfer.Proofs.Elaboration

/-!
# What a program describes

Read without a stack, a program is a list of blocks: statements filed under a domain, chains of conditions,
switches and machines, each with the blocks of its arms. A chain goes on as long as its branches follow each other
in one body, with nothing but quiet calls between them. Reading walks every list of steps once and carries along what
calls make known wherever they stand, and every block is lowered where it stands.
-/

namespace RegisterTransfer

/-! ## Blocks -/

/-- An arm of a construct: when it is taken, its body, and its place. -/
structure Arm (guard body : Type) where
  guard : guard
  body : body
  loc : Location

inductive Block
  /-- Assignments and property checks. -/
  | file (domain : String) (statements : List Statement) (plain : statements.all Statement.isPlain = true)
  /-- A transition, in the domain of its machine. -/
  | goto (domain : String) (id : MachineId) (state : String) (loc : Location)
  /-- Branches with conditions, and perhaps one more that is taken when no other is. -/
  | chain (arms : List (Arm Value (List Block))) (otherwise : Option (Arm Unit (List Block))) (loc : Location)
  /-- Cases with their patterns as written; the case without any always matches. -/
  | switch (test : Value) (arms : List (Arm (Option (List (WrittenPattern Value))) (List Block))) (loc : Location)
  /-- States by name, with the register and the numbers that the machine has in the end. -/
  | machine (register : Signal) (encoding : Table String Nat) (arms : List (Arm String (List Block))) (loc : Location)

namespace Block

/-- Cases by their patterns, of which the first ones count. -/
def firstCases (entries : List (List Pattern × SwitchCase)) : Table (List Pattern) SwitchCase :=
  entries.foldl (fun table entry ↦ table.insertIfAbsent entry.1 entry.2) ∅

mutual

/-- Put what a block comes to behind a body. -/
def lower : Block → Body → Body
  | .file domain statements _, body => body.append domain statements
  | .goto domain id state loc, body => body.append domain [.transition id state loc]
  | .chain arms otherwise loc, body => IfChain.close ⟨0, loc, branches arms ++ lastBranch otherwise⟩ body
  | .switch test arms loc, body => body.appendAll (OpenSwitch.lower ⟨test, loc, firstCases (cases test.width arms)⟩)
  | .machine register encoding arms loc, body =>
    body.appendAll (Lowering.split (.signal register) (stateCases encoding arms) loc)

def lowerAll : List Block → Body → Body
  | [], body => body
  | block :: rest, body => lowerAll rest (block.lower body)

def branches : List (Arm Value (List Block)) → List Branch
  | [] => []
  | ⟨test, blocks, loc⟩ :: rest => ⟨some test, lowerAll blocks ∅, loc⟩ :: branches rest

def lastBranch : Option (Arm Unit (List Block)) → List Branch
  | none => []
  | some ⟨_, blocks, loc⟩ => [⟨none, lowerAll blocks ∅, loc⟩]

/-- The cases that can match, with the patterns they can match. -/
def cases (width : Nat) :
    List (Arm (Option (List (WrittenPattern Value))) (List Block)) → List (List Pattern × SwitchCase)
  | [] => []
  | ⟨none, blocks, loc⟩ :: rest => ([], ⟨lowerAll blocks ∅, loc⟩) :: cases width rest
  | ⟨some written, blocks, loc⟩ :: rest =>
    let live := WrittenPattern.live width loc written
    if live.isEmpty then cases width rest else (live, ⟨lowerAll blocks ∅, loc⟩) :: cases width rest

def stateCases (encoding : Table String Nat) : List (Arm String (List Block)) → List (Case Body)
  | [] => []
  | ⟨name, blocks, loc⟩ :: rest =>
    match encoding.get? name with
    | some code => ⟨[.int code], lowerAll blocks ∅, some loc⟩ :: stateCases encoding rest
    | none => stateCases encoding rest

end

theorem lowerAll_append (first second : List Block) (body : Body) :
    lowerAll (first ++ second) body = lowerAll second (lowerAll first body) := by
  induction first generalizing body with
  | nil => rfl
  | cons block rest ih => exact ih (block.lower body)

theorem branches_append (arms : List (Arm Value (List Block))) (test : Value) (blocks : List Block) (loc : Location) :
    branches (arms ++ [⟨test, blocks, loc⟩]) = branches arms ++ [⟨some test, lowerAll blocks ∅, loc⟩] := by
  induction arms with
  | nil => rfl
  | cons arm rest ih =>
    obtain ⟨other, inner, place⟩ := arm
    simp only [List.cons_append, branches, ih]

theorem cases_append (width : Nat) (arms others : List (Arm (Option (List (WrittenPattern Value))) (List Block))) :
    cases width (arms ++ others) = cases width arms ++ cases width others := by
  induction arms with
  | nil => rfl
  | cons arm rest ih =>
    obtain ⟨guard, inner, place⟩ := arm
    cases guard with
    | none => simp only [List.cons_append, cases, ih]
    | some written =>
      simp only [List.cons_append, cases, ih]
      split <;> rfl

theorem firstCases_append (entries : List (List Pattern × SwitchCase)) (patterns : List Pattern)
    (recorded : SwitchCase) : firstCases (entries ++ [(patterns, recorded)]) =
      (firstCases entries).insertIfAbsent patterns recorded := by
  rw [firstCases, List.foldl_append]
  rfl

end Block

/-! ## Reading -/

/-- What calls make known wherever they stand. -/
structure Ledger where
  environment : Environment
  started : Nat
  settings : Settings
  machines : Arena Machine
  indicators : List Statement

namespace Ledger

/-- Before the first step of a module. -/
def start (settings : Settings) (environment : Environment) (tag : Nat) : Ledger :=
  ⟨environment, tag + 1, settings, .empty tag, []⟩

def withMachine (ledger : Ledger) (id : MachineId) (machine : Machine) : Ledger :=
  { ledger with machines := ledger.machines.modify id fun _ ↦ machine }

/-- Open a machine that is known by a key from now on. -/
def withNewMachine (ledger : Ledger) (key : String) (machine : Machine) : Ledger :=
  { ledger with
    environment := ledger.environment.storeMachine key ledger.machines.nextKey
    machines := ledger.machines.push machine }

def finishing (ledger : Ledger) (id : MachineId) (closing : Machine.Closing) : Ledger :=
  { ledger.withMachine id closing.machine with indicators := ledger.indicators ++ closing.indicators }

def store (ledger : Ledger) (name : Option String) (value : Value) : Ledger :=
  { ledger with environment := (name.map ledger.environment.storeValue).elim ledger.environment (· value) }

/-- The indicator of a state, which may be mentioned for the first time. -/
def ongoing (ledger : Ledger) (key state : String) (storeAs : Option String) : Option Ledger :=
  match ledger.environment.machines.get? key with
  | none => some ledger
  | some id => do
    let machine ← ledger.machines.get? id
    let mentioned := if machine.indicators.contains state then machine else machine.mention id state
    let signal ← mentioned.indicators.get? state
    return (ledger.withMachine id mentioned).store storeAs (.signal signal)

/-- The register of a machine, once there is one. -/
def register (ledger : Ledger) (key : String) (storeAs : Option String) : Ledger :=
  match ledger.environment.machines.get? key with
  | none => ledger
  | some id =>
    match (ledger.machines.get? id).bind Machine.register with
    | none => ledger
    | some signal => ledger.store storeAs (.signal signal)

end Ledger

/-- A chain that may go on. -/
structure OpenArms where
  arms : List (Arm Value (List Block))
  loc : Location

/-- The blocks of a body so far, and the chain behind them that may go on. -/
structure Draft where
  done : List Block
  chain : Option OpenArms

namespace Draft

def empty : Draft := ⟨[], none⟩

/-- The blocks once the chain has ended. -/
def blocks (draft : Draft) : List Block :=
  draft.done ++ (draft.chain.map fun chain ↦ Block.chain chain.arms none chain.loc).toList

/-- End the chain and add a block. -/
def add (draft : Draft) (block : Block) : Draft := ⟨draft.blocks ++ [block], none⟩

end Draft

/-- Where reading stands: in a body, or directly inside of a switch or of a machine. -/
inductive Passage
  | body (draft : Draft)
  | cases (test : Value) (loc : Location) (arms : List (Arm (Option (List (WrittenPattern Value))) (List Block)))
  | states (id : MachineId) (loc : Location) (arms : List (Arm String (List Block)))

namespace Passage

def draft? : Passage → Option Draft
  | .body draft => some draft
  | _ => none

def cases? : Passage → Option (Value × Location × List (Arm (Option (List (WrittenPattern Value))) (List Block)))
  | .cases test loc arms => some (test, loc, arms)
  | _ => none

def states? : Passage → Option (MachineId × Location × List (Arm String (List Block)))
  | .states id loc arms => some (id, loc, arms)
  | _ => none

end Passage

mutual

/-- Read a step that stands in the state of a machine, if there is one around it. -/
def Step.read (around : Option MachineId) : Step → Ledger → Passage → Option (Ledger × Passage)
  | ⟨call, _, loc, _⟩ => readCall around loc call

def readCall (around : Option MachineId) (loc : Location) :
    Call (List Step) → Ledger → Passage → Option (Ledger × Passage)
  | .add domain statements => fun ledger passage ↦ do
    let draft ← passage.draft?
    let statements ← (StatementTerm.evalAll ledger.environment statements).toOption
    if plain : statements.all Statement.isPlain = true then
      return (ledger, .body (draft.add (.file domain statements plain)))
    else none
  | .ifThen condition steps => fun ledger passage ↦ do
    let draft ← passage.draft?
    let condition ← (condition.eval ledger.environment).toOption
    let (ledger, inner) ← readAll around steps ledger (.body .empty)
    return (ledger, .body ⟨draft.blocks, some ⟨[⟨condition, (← inner.draft?).blocks, loc⟩], loc⟩⟩)
  | .elseIf condition steps => fun ledger passage ↦ do
    let draft ← passage.draft?
    let chain ← draft.chain
    let condition ← (condition.eval ledger.environment).toOption
    let (ledger, inner) ← readAll around steps ledger (.body .empty)
    return (ledger, .body ⟨draft.done,
      some { chain with arms := chain.arms ++ [⟨condition, (← inner.draft?).blocks, loc⟩] }⟩)
  | .otherwise steps => fun ledger passage ↦ do
    let draft ← passage.draft?
    let chain ← draft.chain
    let (ledger, inner) ← readAll around steps ledger (.body .empty)
    let last := ⟨(), (← inner.draft?).blocks, loc⟩
    return (ledger, .body ⟨draft.done ++ [.chain chain.arms (some last) chain.loc], none⟩)
  | .switch test steps => fun ledger passage ↦ do
    let draft ← passage.draft?
    let test ← (test.eval ledger.environment).toOption
    let (ledger, inner) ← readAll around steps ledger (.cases test loc [])
    let (_, _, arms) ← inner.cases?
    return (ledger, .body (draft.add (.switch test arms loc)))
  | .case patterns steps => fun ledger passage ↦ do
    let (test, place, arms) ← passage.cases?
    let patterns ← (WrittenPattern.evalAll ledger.environment patterns).toOption
    let (ledger, inner) ← readAll around steps ledger (.body .empty)
    return (ledger, .cases test place (arms ++ [⟨some patterns, (← inner.draft?).blocks, loc⟩]))
  | .default steps => fun ledger passage ↦ do
    let (test, place, arms) ← passage.cases?
    let (ledger, inner) ← readAll around steps ledger (.body .empty)
    return (ledger, .cases test place (arms ++ [⟨none, (← inner.draft?).blocks, loc⟩]))
  | .machine name domain initial key steps => fun ledger passage ↦ do
    let draft ← passage.draft?
    let id := ledger.machines.nextKey
    let opened := Machine.opened (name.getD ledger.settings.fsmDefaultName)
      (domain.getD ledger.settings.fsmDefaultDomain) initial
    let (ledger, inner) ← readAll (some id) steps (ledger.withNewMachine key opened) (.states id loc [])
    let (_, _, arms) ← inner.states?
    let machine ← ledger.machines.get? id
    let closing ← (machine.close id loc).toOption
    let register ← closing.machine.register
    return (ledger.finishing id closing, .body (draft.add (.machine register closing.machine.encoding arms loc)))
  | .state name steps => fun ledger passage ↦ do
    let (id, place, arms) ← passage.states?
    let machine ← ledger.machines.get? id
    let (ledger, inner) ← readAll around steps (ledger.withMachine id (machine.mention id name)) (.body .empty)
    let blocks := (← inner.draft?).blocks
    let machine ← ledger.machines.get? id
    let states := machine.states.insert name ⟨Block.lowerAll blocks ∅, loc⟩
    return (ledger.withMachine id { machine with states := states }, .states id place (arms ++ [⟨name, blocks, loc⟩]))
  | .goto state => fun ledger passage ↦ do
    let draft ← passage.draft?
    let id ← around
    let machine ← ledger.machines.get? id
    return (ledger.withMachine id (machine.mention id state),
      .body (draft.add (.goto machine.domain id state loc)))
  | .ongoing key state storeAs => fun ledger passage ↦ do return (← ledger.ongoing key state storeAs, passage)
  | .machineInfo key storeAs => fun ledger passage ↦ some (ledger.register key storeAs, passage)
  | .module _ chosen steps => fun ledger passage ↦ do
    let (inner, _) ← readAll none steps (.start chosen ledger.environment ledger.started) (.body .empty)
    return ({ ledger with environment := inner.environment, started := inner.started }, passage)
  | .component _ _ | .part _ | .domain _ | .settings => fun ledger passage ↦ some (ledger, passage)
  | .raise _ => fun _ _ ↦ none

def readAll (around : Option MachineId) : List Step → Ledger → Passage → Option (Ledger × Passage)
  | [] => fun ledger passage ↦ some (ledger, passage)
  | step :: rest => fun ledger passage ↦ do
    let (ledger, passage) ← step.read around ledger passage
    readAll around rest ledger passage

end

theorem readCall_machine {ledger inner : Ledger} {around : Option MachineId} {loc : Location} {draft : Draft}
    {name domain initial : Option String} {key : String} {steps : List Step} {arms : List (Arm String (List Block))}
    {id : MachineId} {machine : Machine} {closing : Machine.Closing} {register : Signal}
    (fresh : ledger.machines.nextKey = id)
    (read : readAll (some id) steps (ledger.withNewMachine key (.opened (name.getD ledger.settings.fsmDefaultName)
      (domain.getD ledger.settings.fsmDefaultDomain) initial)) (.states id loc []) = some (inner, .states id loc arms))
    (found : inner.machines.get? id = some machine) (closed : machine.close id loc = .ok closing)
    (registered : closing.machine.register = some register) :
    readCall around loc (.machine name domain initial key steps) ledger (.body draft) =
      some (inner.finishing id closing, .body (draft.add (.machine register closing.machine.encoding arms loc))) := by
  subst fresh
  simp only [readCall, Passage.draft?, Passage.states?, read, found, closed, registered, Except.toOption,
    Option.bind_eq_bind, Option.bind_some]
  rfl

theorem readCall_state {ledger inner : Ledger} {around : Option MachineId} {loc start : Location} {id : MachineId}
    {name : String} {steps : List Step} {arms : List (Arm String (List Block))} {machine grown : Machine}
    {draft : Draft}
    (known : ledger.machines.get? id = some machine)
    (read : readAll around steps (ledger.withMachine id (machine.mention id name)) (.body .empty) =
      some (inner, .body draft))
    (found : inner.machines.get? id = some grown) :
    readCall around loc (.state name steps) ledger (.states id start arms) =
      some (inner.withMachine id
          { grown with states := grown.states.insert name ⟨Block.lowerAll draft.blocks ∅, loc⟩ },
        .states id start (arms ++ [⟨name, draft.blocks, loc⟩])) := by
  simp only [readCall, Passage.draft?, Passage.states?, known, read, found, Option.bind_eq_bind, Option.bind_some]
  rfl

/-- The blocks of a module, with its machines and their indicators in the order of closing. -/
structure Description where
  blocks : List Block
  machines : Arena Machine
  indicators : List Statement

/-- What the domains of a module hold: its blocks, lowered and with every transition settled, and the indicators. -/
def Description.statements (description : Description) : Body :=
  Body.append ((Block.lowerAll description.blocks ∅).map fun _ statements ↦
    Statement.settledAll description.machines statements) combinational description.indicators

def Program.description? (program : Program) : Option Description := do
  let (ledger, passage) ← readAll none program.steps (.start program.settings .empty 0) (.body .empty)
  return ⟨(← passage.draft?).blocks, ledger.machines, ledger.indicators⟩

end RegisterTransfer
