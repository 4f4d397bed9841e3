import Mathlib.Algebra.Group.End
import RegisterTransfer.Proofs.History

/-!
# Sessions that are alike

Two runs that differ somewhere may be alike in everything that decides how they go on. They have machines of other
numbers, so that signals of the one correspond to renamed signals of the other; they have stored different values under
some names; and they may have filed different statements in domains that nobody looks at. What it means that values,
bodies, frames, machines, builders and sessions are alike is said here, with what keeps them alike.
-/

namespace RegisterTransfer

/-- The same step has become the same kind of thing twice. -/
structure Entry.Like (first second : Entry) : Prop where
  label : first.label = second.label
  loc : first.loc = second.loc
  result : (∃ answer, first.result = .ok answer) ↔ ∃ answer, second.result = .ok answer

/-- How a first run corresponds to a second one. -/
structure Likeness where
  /-- The machine of the first run for every machine of the second one. -/
  ids : MachineId → MachineId
  injective : Function.Injective ids
  /-- Names under which the two runs may have stored different values. -/
  hidden : String → Prop
  /-- Keys under which they may have stored different machines. -/
  unknown : String → Prop
  /-- States that only the first run has mentioned, by the keys of their machines in the second run. -/
  extra : MachineId → String → Prop
  /-- What the register of a machine shows in the first run, for what it shows in the second one. -/
  shows : MachineId → Equiv.Perm (Option (List String))
  steady : ∀ machine, (∀ state, ¬extra machine state) → shows machine = 1
  /-- Domains in which they hold the same statements, about the same machines. -/
  observed : String → Prop
  same : ∀ domain, observed domain → ids = id ∧ ∀ machine state, ¬extra machine state
  /-- Machines that are neither open nor complete and never will be, by their keys in the second run. -/
  lost : MachineId → Prop
  /-- Names of parts that only the first run has. -/
  taken : String → Prop
  /-- What is refused in the second run wherever it is refused in the first one. -/
  strict : BuildError → Prop
  /-- Whether nothing is, so that the first run is only followed as long as it is accepted. -/
  lenient : Prop
  ordinary : lenient → ∀ error, ¬strict error
  /-- How the traces correspond. -/
  traces : List Entry → List Entry → Prop
  /-- How many entries the first run had when it came to be followed. -/
  start : Nat
  reached : ∀ {first second : List Entry}, traces first second → start ≤ first.length
  entered : ∀ {first second : List Entry} {entry other : Entry}, traces first second → entry.Like other →
    traces (first ++ [entry]) (second ++ [other])
  skipped : lenient → ∀ {first second : List Entry} (entry : Entry), traces first second →
    traces (first ++ [entry]) second

namespace Likeness

variable (likeness : Likeness)

/-- No state of the machine has been mentioned in the first run alone. -/
def Steady (machine : MachineId) : Prop := ∀ state, ¬likeness.extra machine state

/-- Nothing is particular about the machine. -/
structure Untouched (machine : MachineId) : Prop where
  kept : ¬likeness.lost machine
  steady : likeness.Steady machine

/-- Whether everything corresponds to itself. -/
structure Plain : Prop where
  ids : likeness.ids = id
  shows : ∀ machine, likeness.shows machine = 1

theorem plain_of_observed {domain : String} (seen : likeness.observed domain) : likeness.Plain :=
  ⟨(likeness.same domain seen).1, fun machine ↦ likeness.steady machine ((likeness.same domain seen).2 machine)⟩

/-! ## Values -/

def origin : Signal.Origin → Signal.Origin
  | .declared key => .declared key
  | .register machine => .register (likeness.ids machine)
  | .indicator machine state => .indicator (likeness.ids machine) state

def decoder (signal : Signal) : Option (List String) :=
  match signal.origin with
  | .register machine => likeness.shows machine signal.decoder
  | .declared _ | .indicator _ _ => signal.decoder

/-- The signal of the first run for a signal of the second one. -/
def signal (signal : Signal) : Signal :=
  { signal with origin := likeness.origin signal.origin, decoder := likeness.decoder signal }

mutual

def value : Value → Value
  | .const constant => .const constant
  | .signal source => .signal (likeness.signal source)
  | .operator op operands => .operator op (values operands)
  | .cat parts => .cat (values parts)
  | .slice operand start stop => .slice (value operand) start stop

def values : List Value → List Value
  | [] => []
  | first :: rest => value first :: values rest

end

theorem signal_injective : Function.Injective likeness.signal := by
  intro first second same
  obtain ⟨origin, name, shape, init, decoder⟩ := first
  obtain ⟨origin', name', shape', init', decoder'⟩ := second
  simp only [signal, Signal.mk.injEq] at same ⊢
  obtain ⟨origins, names, shapes, inits, decoders⟩ := same
  refine ⟨?_, names, shapes, inits, ?_⟩
  · cases origin <;> cases origin' <;> simp_all [Likeness.origin, likeness.injective.eq_iff]
  · cases origin <;> cases origin' <;> simp_all [Likeness.origin, Likeness.decoder, likeness.injective.eq_iff]

theorem signal_eq {likeness : Likeness} (plain : likeness.Plain) (signal : Signal) :
    likeness.signal signal = signal := by
  obtain ⟨origin, name, shape, init, decoder⟩ := signal
  cases origin <;> simp [Likeness.signal, Likeness.origin, Likeness.decoder, plain.ids, plain.shows]

mutual

theorem value_eq {likeness : Likeness} (plain : likeness.Plain) : ∀ value : Value, likeness.value value = value
  | .const constant => rfl
  | .signal source => by rw [value, signal_eq plain]
  | .operator op operands => by rw [value, values_eq plain operands]
  | .cat parts => by rw [value, values_eq plain parts]
  | .slice operand start stop => by rw [value, value_eq plain operand]

theorem values_eq {likeness : Likeness} (plain : likeness.Plain) :
    ∀ values : List Value, likeness.values values = values
  | [] => rfl
  | first :: rest => by rw [values, value_eq plain first, values_eq plain rest]

end

mutual

theorem shape_value : ∀ value : Value, (likeness.value value).shape = value.shape
  | .const _ => rfl
  | .signal _ => rfl
  | .operator op operands => by cases op <;> simp only [value, Value.shape, shapes_values operands]
  | .cat parts => by simp only [value, Value.shape, shapes_values parts]
  | .slice _ _ _ => rfl

theorem shapes_values : ∀ values : List Value, Value.shapes (likeness.values values) = Value.shapes values
  | [] => rfl
  | first :: rest => by simp only [values, Value.shapes, shape_value first, shapes_values rest]

end

theorem width_value (value : Value) : (likeness.value value).width = value.width := by
  rw [Value.width, likeness.shape_value, Value.width]

mutual

theorem asConst_value : ∀ value : Value, (likeness.value value).asConst = value.asConst
  | .const _ => rfl
  | .signal _ => rfl
  | .operator _ _ => rfl
  | .cat parts => by simp only [value, Value.asConst, asConsts_values parts]
  | .slice operand _ _ => by simp only [value, Value.asConst, asConst_value operand]

theorem asConsts_values : ∀ values : List Value, Value.asConsts (likeness.values values) = Value.asConsts values
  | [] => rfl
  | first :: rest => by simp only [values, Value.asConsts, asConst_value first, asConsts_values rest]

end

mutual

theorem targets_value : ∀ value : Value, (likeness.value value).targets = value.targets.map likeness.signal
  | .const _ => rfl
  | .signal _ => rfl
  | .operator _ _ => rfl
  | .cat parts => by simp only [value, Value.targets, targetsAll_values parts]
  | .slice operand _ _ => by simp only [value, Value.targets, targets_value operand]

theorem targetsAll_values : ∀ values : List Value,
    Value.targetsAll (likeness.values values) = (Value.targetsAll values).map likeness.signal
  | [] => rfl
  | first :: rest => by
    simp only [values, Value.targetsAll, List.map_append, targets_value first, targetsAll_values rest]

end

theorem asBool_value (value : Value) : (likeness.value value).asBool = likeness.value value.asBool := by
  rw [Value.asBool, Value.asBool, likeness.width_value]
  split
  · rfl
  · rfl

theorem checkedSlice_value (value : Value) (start stop : Nat) :
    (likeness.value value).checkedSlice start stop = likeness.value <$> value.checkedSlice start stop := by
  rw [Value.checkedSlice, Value.checkedSlice, likeness.width_value]
  split
  · rfl
  · rfl

/-! ## Statements -/

mutual

def statement : Statement → Statement
  | .assign target source => .assign (likeness.value target) (likeness.value source)
  | .property kind test name => .property kind (likeness.value test) name
  | .switch test cases loc => .switch (likeness.value test) (caseList cases) loc
  | .transition id state loc => .transition (likeness.ids id) state loc

def caseList : List (Case (List Statement)) → List (Case (List Statement))
  | [] => []
  | branch :: rest => singleCase branch :: caseList rest

def singleCase : Case (List Statement) → Case (List Statement)
  | ⟨patterns, body, loc⟩ => ⟨patterns, statements body, loc⟩

def statements : List Statement → List Statement
  | [] => []
  | first :: rest => statement first :: statements rest

end

theorem isPlain_statement (statement : Statement) : (likeness.statement statement).isPlain = statement.isPlain := by
  cases statement <;> rfl

theorem all_isPlain_statements (statements : List Statement) :
    (likeness.statements statements).all Statement.isPlain = statements.all Statement.isPlain := by
  induction statements with
  | nil => rfl
  | cons first rest ih => rw [Likeness.statements, List.all_cons, List.all_cons, ih, isPlain_statement]

mutual

theorem statement_eq {likeness : Likeness} (plain : likeness.Plain) :
    ∀ statement : Statement, likeness.statement statement = statement
  | .assign target source => by rw [statement, value_eq plain, value_eq plain]
  | .property kind test name => by rw [statement, value_eq plain]
  | .switch test cases loc => by rw [statement, value_eq plain, caseList_eq plain cases]
  | .transition id state loc => by rw [statement, plain.ids, id_eq]

theorem caseList_eq {likeness : Likeness} (plain : likeness.Plain) :
    ∀ cases : List (Case (List Statement)), likeness.caseList cases = cases
  | [] => rfl
  | branch :: rest => by rw [caseList, singleCase_eq plain branch, caseList_eq plain rest]

theorem singleCase_eq {likeness : Likeness} (plain : likeness.Plain) :
    ∀ branch : Case (List Statement), likeness.singleCase branch = branch
  | ⟨patterns, body, loc⟩ => by rw [singleCase, statements_eq plain body]

theorem statements_eq {likeness : Likeness} (plain : likeness.Plain) :
    ∀ statements : List Statement, likeness.statements statements = statements
  | [] => rfl
  | first :: rest => by rw [statements, statement_eq plain first, statements_eq plain rest]

end

mutual

theorem targets_statement : ∀ statement : Statement,
    (likeness.statement statement).targets = statement.targets.map likeness.signal
  | .assign target source => likeness.targets_value target
  | .property _ _ _ => rfl
  | .switch _ cases _ => by simp only [statement, Statement.targets, targets_caseList cases]
  | .transition _ _ _ => rfl

theorem targets_caseList : ∀ cases : List (Case (List Statement)),
    Statement.targetsCases (likeness.caseList cases) = (Statement.targetsCases cases).map likeness.signal
  | [] => rfl
  | branch :: rest => by
    simp only [caseList, Statement.targetsCases, List.map_append, targets_singleCase branch, targets_caseList rest]

theorem targets_singleCase : ∀ branch : Case (List Statement),
    Statement.targetsCase (likeness.singleCase branch) = (Statement.targetsCase branch).map likeness.signal
  | ⟨_, body, _⟩ => by simp only [singleCase, Statement.targetsCase, targets_statements body]

theorem targets_statements : ∀ statements : List Statement,
    Statement.targetsAll (likeness.statements statements) = (Statement.targetsAll statements).map likeness.signal
  | [] => rfl
  | first :: rest => by
    simp only [statements, Statement.targetsAll, List.map_append, targets_statement first, targets_statements rest]

end

theorem mem_written_statements (statements : List Statement) (signal : Signal) :
    signal ∈ Statement.writtenAll (likeness.statements statements) ↔
      ∃ other ∈ Statement.writtenAll statements, likeness.signal other = signal := by
  simp only [Statement.writtenAll, List.mem_eraseDups, targets_statements, List.mem_map]

/-! ## Patterns -/

def written : WrittenPattern Value → WrittenPattern Value
  | .bits digits => .bits digits
  | .value source => .value (likeness.value source)

end Likeness

/-! ## Terms -/

/-- What a call is made from: a value that is written out, what is stored under a name, or a part. -/
inductive Mention
  | literal (value : Value)
  | stored (name : String)
  | key (name : String)
  | part (name : String)

mutual

def Term.mentions : Term → List Mention
  | .literal value => [.literal value]
  | .stored name => [.stored name]
  | .operator _ operands => Term.mentionsAll operands
  | .asBool operand => operand.mentions
  | .cat parts => Term.mentionsAll parts
  | .slice operand _ _ => operand.mentions

def Term.mentionsAll : List Term → List Mention
  | [] => []
  | term :: rest => term.mentions ++ Term.mentionsAll rest

end

mutual

def StatementTerm.mentions : StatementTerm → List Mention
  | .assign target source => target.mentions ++ source.mentions
  | .property _ test _ => test.mentions
  | .switch test cases _ => test.mentions ++ StatementTerm.mentionsCases cases
  | .transition machine _ _ => [.key machine]

def StatementTerm.mentionsCases : List (Case (List StatementTerm)) → List Mention
  | [] => []
  | branch :: rest => StatementTerm.mentionsCase branch ++ StatementTerm.mentionsCases rest

def StatementTerm.mentionsCase : Case (List StatementTerm) → List Mention
  | ⟨_, body, _⟩ => StatementTerm.mentionsAll body

def StatementTerm.mentionsAll : List StatementTerm → List Mention
  | [] => []
  | statement :: rest => statement.mentions ++ StatementTerm.mentionsAll rest

end

def WrittenPattern.mentions : WrittenPattern Term → List Mention
  | .bits _ => []
  | .value source => source.mentions

/-- What a call is made from, save for its body. -/
def Call.mentions {body : Type} : Call body → List Mention
  | .add _ statements => StatementTerm.mentionsAll statements
  | .ifThen condition _ | .elseIf condition _ => condition.mentions
  | .switch test _ => test.mentions
  | .case patterns _ => patterns.flatMap WrittenPattern.mentions
  | .ongoing key _ _ | .machineInfo key _ => [.key key]
  | .part name => [.part name]
  | _ => []

/-- Whether something means the same in two runs: a literal with the signals it is written with, and a name that has
not been used for different things. -/
def Mention.Fits (likeness : Likeness) : Mention → Prop
  | .literal value => likeness.value value = value
  | .stored name => ¬likeness.hidden name
  | .key name => ¬likeness.unknown name
  | .part name => ¬likeness.taken name

namespace Likeness

variable (likeness : Likeness)

/-- The same is stored under all names that count. -/
structure Environments (first second : Environment) : Prop where
  values : ∀ name, ¬likeness.hidden name → first.values.get? name = (second.values.get? name).map likeness.value
  machines : ∀ key, ¬likeness.unknown key → first.machines.get? key = (second.machines.get? key).map likeness.ids

variable {likeness} {first second : Environment}

namespace Environments

theorem storeValue (alike : likeness.Environments first second) (name : String) (value : Value) :
    likeness.Environments (first.storeValue name (likeness.value value)) (second.storeValue name value) where
  values other seen := by
    simp only [Environment.storeValue, Table.get?_insert]
    split
    · rfl
    · exact alike.values other seen
  machines := alike.machines

theorem storeMachine (alike : likeness.Environments first second) (name : String) (id : MachineId) :
    likeness.Environments (first.storeMachine name (likeness.ids id)) (second.storeMachine name id) where
  values := alike.values
  machines other seen := by
    simp only [Environment.storeMachine, Table.get?_insert]
    split
    · rfl
    · exact alike.machines other seen

theorem value_eq (alike : likeness.Environments first second) {name : String} (seen : ¬likeness.hidden name) :
    first.value name = likeness.value <$> second.value name := by
  rw [Environment.value, Environment.value, alike.values name seen]
  cases second.values.get? name with
  | none => rfl
  | some value => rfl

mutual

theorem eval_eq (alike : likeness.Environments first second) : ∀ term : Term,
    (∀ mention ∈ term.mentions, mention.Fits likeness) → term.eval first = likeness.value <$> term.eval second
  | .literal value => fun fits ↦ by
    have same : likeness.value value = value := fits _ (List.mem_singleton_self _)
    simp only [Term.eval, Functor.map, Except.map, same]
  | .stored name => fun fits ↦ alike.value_eq (fits _ (List.mem_singleton_self _))
  | .operator op operands => fun fits ↦ by
    simp only [Term.eval, evalAll_eq alike operands fits]
    cases Term.evalAll second operands with
    | error fault => rfl
    | ok values => rfl
  | .asBool operand => fun fits ↦ by
    simp only [Term.eval, eval_eq alike operand fits]
    cases operand.eval second with
    | error fault => rfl
    | ok value => exact congrArg Except.ok (likeness.asBool_value value)
  | .cat parts => fun fits ↦ by
    simp only [Term.eval, evalAll_eq alike parts fits]
    cases Term.evalAll second parts with
    | error fault => rfl
    | ok values => rfl
  | .slice operand start stop => fun fits ↦ by
    simp only [Term.eval, eval_eq alike operand fits]
    cases operand.eval second with
    | error fault => rfl
    | ok value => exact likeness.checkedSlice_value value start stop

theorem evalAll_eq (alike : likeness.Environments first second) : ∀ terms : List Term,
    (∀ mention ∈ Term.mentionsAll terms, mention.Fits likeness) →
      Term.evalAll first terms = likeness.values <$> Term.evalAll second terms
  | [] => fun _ ↦ rfl
  | term :: rest => fun fits ↦ by
    rw [Term.mentionsAll, List.forall_mem_append] at fits
    simp only [Term.evalAll, eval_eq alike term fits.1, evalAll_eq alike rest fits.2]
    cases term.eval second with
    | error fault => rfl
    | ok value =>
      cases Term.evalAll second rest with
      | error fault => rfl
      | ok values => rfl

end

mutual

theorem statement_eq (alike : likeness.Environments first second) : ∀ statement : StatementTerm,
    (∀ mention ∈ statement.mentions, mention.Fits likeness) →
      statement.eval first = likeness.statement <$> statement.eval second
  | .assign target source => fun fits ↦ by
    rw [StatementTerm.mentions, List.forall_mem_append] at fits
    simp only [StatementTerm.eval, alike.eval_eq target fits.1, alike.eval_eq source fits.2]
    cases target.eval second with
    | error fault => rfl
    | ok value => cases source.eval second <;> rfl
  | .property kind test name => fun fits ↦ by
    simp only [StatementTerm.eval, alike.eval_eq test fits]
    cases test.eval second <;> rfl
  | .switch test cases loc => fun fits ↦ by
    rw [StatementTerm.mentions, List.forall_mem_append] at fits
    simp only [StatementTerm.eval, alike.eval_eq test fits.1, cases_eq alike cases fits.2]
    cases test.eval second with
    | error fault => rfl
    | ok value => cases StatementTerm.evalCases second cases <;> rfl
  | .transition machine state loc => fun fits ↦ by
    have seen : ¬likeness.unknown machine := fits _ (List.mem_singleton_self _)
    simp only [StatementTerm.eval, Environment.machine, alike.machines machine seen]
    cases second.machines.get? machine <;> rfl

theorem cases_eq (alike : likeness.Environments first second) : ∀ cases : List (Case (List StatementTerm)),
    (∀ mention ∈ StatementTerm.mentionsCases cases, mention.Fits likeness) →
      StatementTerm.evalCases first cases = likeness.caseList <$> StatementTerm.evalCases second cases
  | [] => fun _ ↦ rfl
  | branch :: rest => fun fits ↦ by
    rw [StatementTerm.mentionsCases, List.forall_mem_append] at fits
    simp only [StatementTerm.evalCases, case_eq alike branch fits.1, cases_eq alike rest fits.2]
    cases StatementTerm.evalCase second branch with
    | error fault => rfl
    | ok value => cases StatementTerm.evalCases second rest <;> rfl

theorem case_eq (alike : likeness.Environments first second) : ∀ branch : Case (List StatementTerm),
    (∀ mention ∈ StatementTerm.mentionsCase branch, mention.Fits likeness) →
      StatementTerm.evalCase first branch = likeness.singleCase <$> StatementTerm.evalCase second branch
  | ⟨patterns, body, loc⟩ => fun fits ↦ by
    simp only [StatementTerm.evalCase, statements_eq alike body fits]
    cases StatementTerm.evalAll second body <;> rfl

theorem statements_eq (alike : likeness.Environments first second) : ∀ statements : List StatementTerm,
    (∀ mention ∈ StatementTerm.mentionsAll statements, mention.Fits likeness) →
      StatementTerm.evalAll first statements = likeness.statements <$> StatementTerm.evalAll second statements
  | [] => fun _ ↦ rfl
  | statement :: rest => fun fits ↦ by
    rw [StatementTerm.mentionsAll, List.forall_mem_append] at fits
    simp only [StatementTerm.evalAll, statement_eq alike statement fits.1, statements_eq alike rest fits.2]
    cases statement.eval second with
    | error fault => rfl
    | ok value => cases StatementTerm.evalAll second rest <;> rfl

end

theorem patterns_eq (alike : likeness.Environments first second) (patterns : List (WrittenPattern Term))
    (fits : ∀ mention ∈ patterns.flatMap WrittenPattern.mentions, mention.Fits likeness) :
    WrittenPattern.evalAll first patterns = List.map likeness.written <$> WrittenPattern.evalAll second patterns := by
  induction patterns with
  | nil => rfl
  | cons pattern rest ih =>
    rw [List.flatMap_cons, List.forall_mem_append] at fits
    have here : pattern.eval first = likeness.written <$> pattern.eval second := by
      cases pattern with
      | bits digits => rfl
      | value source =>
        simp only [WrittenPattern.eval, alike.eval_eq source fits.1]
        cases source.eval second <;> rfl
    simp only [WrittenPattern.evalAll, here, ih fits.2]
    cases pattern.eval second with
    | error fault => rfl
    | ok value => cases WrittenPattern.evalAll second rest <;> rfl

end Environments

end Likeness

end RegisterTransfer
