import RegisterTransfer.Proofs.HeldAssignments
import RegisterTransfer.Proofs.ParallelRuns
import RegisterTransfer.Proofs.StateNumbers

/-!
# Which machines a session has heard of

The keys of machines are handed out in order, by builders that are numbered in order. What is stored, and what is
claimed, is only ever about machines whose keys have been handed out before, if a program writes out no signals but
declared ones, and the register of a machine is only stored once the machine is complete. A run hands out further keys,
and what becomes of the machines that were there is told as well: those that are neither open nor complete are never
completed.
-/

namespace RegisterTransfer

/-! ## Keys -/

namespace Arena

variable {α : Type} {arena : Arena α} {key : Key}

theorem get?_eq_none_iff : arena.get? key = none ↔ ¬(key.tag = arena.tag ∧ key.index < arena.size) := by
  rw [← arena.contains_iff, arena.contains_eq_isSome, Option.isSome_iff_ne_none, not_not]

theorem lt_size_of_get? {value : α} (found : arena.get? key = some value) :
    key.tag = arena.tag ∧ key.index < arena.size := by
  by_contra absent
  rw [get?_eq_none_iff.2 absent] at found
  exact nomatch found

end Arena

/-! ## What values are about -/

/-- The machine that a signal belongs to, if it is not declared by the design. -/
def Signal.owner? (signal : Signal) : Option MachineId :=
  match signal.origin with
  | .declared _ => none
  | .register machine | .indicator machine _ => some machine

namespace Value

mutual

/-- The signals that occur in a value. -/
def sources : Value → List Signal
  | .const _ => []
  | .signal source => [source]
  | .operator _ operands => sourcesAll operands
  | .cat parts => sourcesAll parts
  | .slice operand _ _ => operand.sources

def sourcesAll : List Value → List Signal
  | [] => []
  | value :: rest => value.sources ++ sourcesAll rest

end

/-- The machines whose signals occur in a value. -/
def owners (value : Value) : List MachineId := value.sources.filterMap Signal.owner?

theorem owner?_eq_none_of_owners {value : Value} (bare : value.owners = []) {signal : Signal}
    (mem : signal ∈ value.sources) : signal.owner? = none := List.filterMap_eq_nil_iff.1 bare signal mem

theorem sources_asBool (value : Value) : value.asBool.sources = value.sources := by
  rw [asBool]
  split
  · rfl
  · rw [sources, sourcesAll, sourcesAll, List.append_nil]

theorem sources_checkedSlice {value slice : Value} {start stop : Nat} (sliced : value.checkedSlice start stop = .ok slice) :
    slice.sources = value.sources := by
  rw [checkedSlice] at sliced
  split at sliced
  · rw [Except.ok.injEq] at sliced
    rw [← sliced, sources]
  · simp at sliced

mutual

/-- A signal that is written to through a value occurs in it. -/
theorem mem_sources_of_target {signal : Signal} : ∀ value : Value, signal ∈ value.targets → signal ∈ value.sources
  | .const _, mem => by simp [targets] at mem
  | .signal _, mem => mem
  | .operator _ _, mem => by simp [targets] at mem
  | .cat parts, mem => mem_sources_of_targetAll parts mem
  | .slice operand _ _, mem => mem_sources_of_target operand mem

theorem mem_sources_of_targetAll {signal : Signal} : ∀ values : List Value,
    signal ∈ targetsAll values → signal ∈ sourcesAll values
  | [], mem => by simp [targetsAll] at mem
  | value :: rest, mem => by
    rw [targetsAll, List.mem_append] at mem
    rw [sourcesAll, List.mem_append]
    exact mem.imp (mem_sources_of_target value) (mem_sources_of_targetAll rest)

end

end Value

namespace Likeness

variable {likeness other : Likeness}

theorem signal_of_owner {signal : Signal}
    (fixed : ∀ id, signal.owner? = some id → likeness.ids id = id ∧ likeness.shows id = 1) :
    likeness.signal signal = signal := by
  obtain ⟨origin, name, shape, init, decoder⟩ := signal
  cases origin with
  | declared key => rfl
  | register machine =>
    obtain ⟨same, shows⟩ := fixed machine rfl
    simp only [Likeness.signal, origin, Likeness.decoder, same, shows, Equiv.Perm.one_apply]
  | indicator machine state => simp only [Likeness.signal, origin, Likeness.decoder, (fixed machine rfl).1]

mutual

/-- A value corresponds to the same in two ways if its signals do. -/
theorem value_congr : ∀ value : Value, (∀ signal ∈ value.sources, likeness.signal signal = other.signal signal) →
    likeness.value value = other.value value
  | .const _, _ => rfl
  | .signal source, same => by rw [value, value, same source (List.mem_singleton_self source)]
  | .operator _ operands, same => by rw [value, value, values_congr operands same]
  | .cat parts, same => by rw [value, value, values_congr parts same]
  | .slice operand _ _, same => by rw [value, value, value_congr operand same]

theorem values_congr : ∀ list : List Value,
    (∀ signal ∈ Value.sourcesAll list, likeness.signal signal = other.signal signal) →
      likeness.values list = other.values list
  | [], _ => rfl
  | first :: rest, same => by
    rw [Value.sourcesAll, List.forall_mem_append] at same
    rw [values, values, value_congr first same.1, values_congr rest same.2]

end

mutual

/-- A value whose signals correspond to themselves corresponds to itself. -/
theorem value_of_sources : ∀ value : Value, (∀ signal ∈ value.sources, likeness.signal signal = signal) →
    likeness.value value = value
  | .const _, _ => rfl
  | .signal source, same => by rw [value, same source (List.mem_singleton_self source)]
  | .operator _ operands, same => by rw [value, values_of_sources operands same]
  | .cat parts, same => by rw [value, values_of_sources parts same]
  | .slice operand _ _, same => by rw [value, value_of_sources operand same]

theorem values_of_sources : ∀ list : List Value, (∀ signal ∈ Value.sourcesAll list, likeness.signal signal = signal) →
    likeness.values list = list
  | [], _ => rfl
  | first :: rest, same => by
    rw [Value.sourcesAll, List.forall_mem_append] at same
    rw [values, value_of_sources first same.1, values_of_sources rest same.2]

end

end Likeness

/-! ## What is stored and claimed -/

/-- Whether something that a call is made from mentions no machines of its own: a value that is written out has no
signals but declared ones. -/
def Mention.Declared : Mention → Prop
  | .literal value => value.owners = []
  | .stored _ | .key _ | .part _ => True

/-- Whether a call is made from declared signals and from what has been stored. -/
def Call.Declared {body : Type} (call : Call body) : Prop := ∀ mention ∈ call.mentions, mention.Declared

/-- What may be stored and claimed: keys of machines, and signals, among them all that are declared and the indicators
of the machines. -/
structure Knowledge where
  machine : MachineId → Prop
  signal : Signal → Prop
  declared : ∀ source, source.owner? = none → signal source
  indicator : ∀ id, machine id → ∀ name state, signal (Machine.indicator id name state)

/-- All about a machine is known. -/
structure Knowledge.Admits (known : Knowledge) (id : MachineId) : Prop where
  machine : known.machine id
  signal : ∀ signal, signal.owner? = some id → known.signal signal

/-- All that is stored is known. -/
structure Environment.Knows (known : Knowledge) (environment : Environment) : Prop where
  values : ∀ name value, environment.values.get? name = some value → ∀ signal ∈ value.sources, known.signal signal
  machines : ∀ key id, environment.machines.get? key = some id → known.machine id

/-- All signals that are claimed are known. -/
def Drivers.Knows (known : Knowledge) (drivers : Drivers) : Prop :=
  ∀ signal domain, drivers.get? signal = some domain → known.signal signal

/-- The registers of known machines are known. -/
def Builder.Registers (known : Knowledge) (builder : Builder) : Prop :=
  ∀ id machine signal, builder.machines.get? id = some machine → machine.register = some signal →
    signal.origin = .register id → known.machine id → known.signal signal

structure Session.Knows (known : Knowledge) (session : Session) : Prop where
  environment : session.environment.Knows known
  drivers : session.builder.drivers.Knows known

namespace Environment.Knows

variable {known : Knowledge} {environment : Environment}

theorem mono (knows : environment.Knows known) {wider : Knowledge} (machines : ∀ id, known.machine id → wider.machine id)
    (signals : ∀ signal, known.signal signal → wider.signal signal) : environment.Knows wider :=
  ⟨fun name value found signal mem ↦ signals signal (knows.values name value found signal mem),
    fun key id found ↦ machines id (knows.machines key id found)⟩

theorem storeValue (knows : environment.Knows known) {value : Value}
    (sources : ∀ signal ∈ value.sources, known.signal signal) (name : String) :
    (environment.storeValue name value).Knows known where
  values other stored found := by
    rw [Environment.storeValue, Table.get?_insert] at found
    split at found
    · rw [Option.some.injEq] at found
      exact found ▸ sources
    · exact knows.values other stored found
  machines := knows.machines

theorem storeMachine (knows : environment.Knows known) {id : MachineId} (new : known.machine id) (key : String) :
    (environment.storeMachine key id).Knows known where
  values := knows.values
  machines other stored found := by
    rw [Environment.storeMachine, Table.get?_insert] at found
    split at found
    · rw [Option.some.injEq] at found
      exact found ▸ new
    · exact knows.machines other stored found

mutual

/-- What a term stands for has no signals but known ones. -/
theorem eval (knows : environment.Knows known) : ∀ (term : Term) (_ : ∀ mention ∈ term.mentions, mention.Declared)
    {value : Value}, term.eval environment = .ok value → ∀ signal ∈ value.sources, known.signal signal
  | .literal value, declared, result, evaluated => by
    have bare : value.owners = [] := declared _ (List.mem_singleton_self _)
    rw [Term.eval, Except.ok.injEq] at evaluated
    rw [← evaluated]
    exact fun signal mem ↦ known.declared signal (Value.owner?_eq_none_of_owners bare mem)
  | .stored name, _, result, evaluated => by
    rw [Term.eval, Environment.value] at evaluated
    split at evaluated
    · rename_i value found
      rw [Except.ok.injEq] at evaluated
      exact evaluated ▸ knows.values name value found
    · simp at evaluated
  | .operator op operands, declared, result, evaluated => by
    obtain ⟨values, computed, evaluated⟩ := bind_eq_ok_iff.1 evaluated
    obtain rfl := Except.ok.inj evaluated
    exact evalAll knows operands declared computed
  | .asBool operand, declared, result, evaluated => by
    obtain ⟨value, computed, evaluated⟩ := bind_eq_ok_iff.1 evaluated
    obtain rfl := Except.ok.inj evaluated
    rw [Value.sources_asBool]
    exact eval knows operand declared computed
  | .cat parts, declared, result, evaluated => by
    obtain ⟨values, computed, evaluated⟩ := bind_eq_ok_iff.1 evaluated
    obtain rfl := Except.ok.inj evaluated
    exact evalAll knows parts declared computed
  | .slice operand start stop, declared, result, evaluated => by
    obtain ⟨value, computed, sliced⟩ := bind_eq_ok_iff.1 evaluated
    rw [Value.sources_checkedSlice sliced]
    exact eval knows operand declared computed

theorem evalAll (knows : environment.Knows known) : ∀ (terms : List Term)
    (_ : ∀ mention ∈ Term.mentionsAll terms, mention.Declared) {values : List Value},
    Term.evalAll environment terms = .ok values → ∀ signal ∈ Value.sourcesAll values, known.signal signal
  | [], _, values, evaluated => by
    obtain rfl := Except.ok.inj evaluated
    exact fun _ mem ↦ nomatch mem
  | term :: rest, declared, values, evaluated => by
    rw [Term.mentionsAll, List.forall_mem_append] at declared
    obtain ⟨value, computed, evaluated⟩ := bind_eq_ok_iff.1 evaluated
    obtain ⟨others, remaining, evaluated⟩ := bind_eq_ok_iff.1 evaluated
    obtain rfl := Except.ok.inj evaluated
    rw [Value.sourcesAll, List.forall_mem_append]
    exact ⟨eval knows term declared.1 computed, evalAll knows rest declared.2 remaining⟩

end

mutual

/-- The signals that a statement writes are known. -/
theorem targets (knows : environment.Knows known) : ∀ (statement : StatementTerm)
    (_ : ∀ mention ∈ statement.mentions, mention.Declared) {value : Statement},
    statement.eval environment = .ok value → ∀ signal ∈ value.targets, known.signal signal
  | .assign target source, declared, result, evaluated => by
    rw [StatementTerm.mentions, List.forall_mem_append] at declared
    obtain ⟨value, computed, evaluated⟩ := bind_eq_ok_iff.1 evaluated
    obtain ⟨_, -, evaluated⟩ := bind_eq_ok_iff.1 evaluated
    obtain rfl := Except.ok.inj evaluated
    exact fun signal mem ↦ knows.eval target declared.1 computed signal (value.mem_sources_of_target mem)
  | .property kind test name, _, result, evaluated => by
    obtain ⟨_, -, evaluated⟩ := bind_eq_ok_iff.1 evaluated
    obtain rfl := Except.ok.inj evaluated
    exact fun _ mem ↦ nomatch mem
  | .switch test cases loc, declared, result, evaluated => by
    rw [StatementTerm.mentions, List.forall_mem_append] at declared
    obtain ⟨_, -, evaluated⟩ := bind_eq_ok_iff.1 evaluated
    obtain ⟨branches, computed, evaluated⟩ := bind_eq_ok_iff.1 evaluated
    obtain rfl := Except.ok.inj evaluated
    exact targetsCases knows cases declared.2 computed
  | .transition machine state loc, _, result, evaluated => by
    obtain ⟨_, -, evaluated⟩ := bind_eq_ok_iff.1 evaluated
    obtain rfl := Except.ok.inj evaluated
    exact fun _ mem ↦ nomatch mem

theorem targetsCases (knows : environment.Knows known) : ∀ (cases : List (Case (List StatementTerm)))
    (_ : ∀ mention ∈ StatementTerm.mentionsCases cases, mention.Declared) {values : List (Case (List Statement))},
    StatementTerm.evalCases environment cases = .ok values →
      ∀ signal ∈ Statement.targetsCases values, known.signal signal
  | [], _, values, evaluated => by
    obtain rfl := Except.ok.inj evaluated
    exact fun _ mem ↦ nomatch mem
  | branch :: rest, declared, values, evaluated => by
    rw [StatementTerm.mentionsCases, List.forall_mem_append] at declared
    obtain ⟨value, computed, evaluated⟩ := bind_eq_ok_iff.1 evaluated
    obtain ⟨others, remaining, evaluated⟩ := bind_eq_ok_iff.1 evaluated
    obtain rfl := Except.ok.inj evaluated
    rw [Statement.targetsCases, List.forall_mem_append]
    exact ⟨targetsCase knows branch declared.1 computed, targetsCases knows rest declared.2 remaining⟩

theorem targetsCase (knows : environment.Knows known) : ∀ (branch : Case (List StatementTerm))
    (_ : ∀ mention ∈ StatementTerm.mentionsCase branch, mention.Declared) {value : Case (List Statement)},
    StatementTerm.evalCase environment branch = .ok value →
      ∀ signal ∈ Statement.targetsCase value, known.signal signal
  | ⟨patterns, body, loc⟩, declared, value, evaluated => by
    obtain ⟨statements, computed, evaluated⟩ := bind_eq_ok_iff.1 evaluated
    obtain rfl := Except.ok.inj evaluated
    exact targetsAll knows body declared computed

theorem targetsAll (knows : environment.Knows known) : ∀ (statements : List StatementTerm)
    (_ : ∀ mention ∈ StatementTerm.mentionsAll statements, mention.Declared) {values : List Statement},
    StatementTerm.evalAll environment statements = .ok values →
      ∀ signal ∈ Statement.targetsAll values, known.signal signal
  | [], _, values, evaluated => by
    obtain rfl := Except.ok.inj evaluated
    exact fun _ mem ↦ nomatch mem
  | statement :: rest, declared, values, evaluated => by
    rw [StatementTerm.mentionsAll, List.forall_mem_append] at declared
    obtain ⟨value, computed, evaluated⟩ := bind_eq_ok_iff.1 evaluated
    obtain ⟨others, remaining, evaluated⟩ := bind_eq_ok_iff.1 evaluated
    obtain rfl := Except.ok.inj evaluated
    rw [Statement.targetsAll, List.forall_mem_append]
    exact ⟨targets knows statement declared.1 computed, targetsAll knows rest declared.2 remaining⟩

end

end Environment.Knows

/-- Claims of known signals. -/
theorem Drivers.Knows.claimAll {known : Knowledge} {drivers : Drivers} (knows : drivers.Knows known)
    {statements : List Statement} (written : ∀ signal ∈ Statement.targetsAll statements, known.signal signal)
    (domain : String) : (drivers.claimAll domain (Statement.writtenAll statements)).Knows known := by
  intro signal claimant found
  rw [get?_claimAll] at found
  split at found
  · rename_i mem
    rw [Statement.writtenAll, List.mem_eraseDups] at mem
    exact written signal mem
  · exact knows signal claimant found

/-! ## What becomes of a builder -/

/-- A machine from before a call, after it: it is not completed, for that takes the end of the construct it belongs to,
and it has the same states and indicators if no state has been mentioned. -/
structure Machine.Remains (machine later : Machine) : Prop where
  initial : later.initial = machine.initial
  register : later.register = machine.register
  size : machine.encoding.size ≤ later.encoding.size
  same : later.encoding.size = machine.encoding.size →
    later.encoding = machine.encoding ∧ later.indicators = machine.indicators

namespace Machine.Remains

theorem refl (machine : Machine) : machine.Remains machine := ⟨rfl, rfl, Nat.le_refl _, fun _ ↦ ⟨rfl, rfl⟩⟩

theorem trans {machine later last : Machine} (first : machine.Remains later) (second : later.Remains last) :
    machine.Remains last where
  initial := second.initial.trans first.initial
  register := second.register.trans first.register
  size := Nat.le_trans first.size second.size
  same size := by
    have sizes := first.size
    have others := second.size
    obtain ⟨encoding, indicators⟩ := first.same (by omega)
    obtain ⟨again, others⟩ := second.same (by omega)
    exact ⟨again.trans encoding, others.trans indicators⟩

theorem mention (machine : Machine) (id : MachineId) (state : String) : machine.Remains (machine.mention id state) := by
  rw [Machine.mention]
  split
  · exact refl machine
  · rename_i absent
    rw [Table.contains_iff_mem_keys] at absent
    have grown : (machine.encoding.insert state machine.encoding.size).size = machine.encoding.size + 1 := by
      rw [Table.size, Table.entries_insert_of_notMem _ _ _ absent, List.length_append, List.length_singleton, Table.size]
    refine ⟨rfl, rfl, ?_, fun same ↦ ?_⟩
    · rw [grown]
      omega
    · rw [grown] at same
      omega

end Machine.Remains

namespace Builder

/-- What a call leaves of the settings, the names and the machines of a builder. -/
structure Advances (before after : Builder) : Prop where
  settings : after.settings = before.settings
  tag : after.machines.tag = before.machines.tag
  size : before.machines.size ≤ after.machines.size
  named : ∀ name ∈ before.namedParts.keys, name ∈ after.namedParts.keys
  domains : ∀ name ∈ before.domains.keys, name ∈ after.domains.keys
  machines : ∀ id machine, before.machines.get? id = some machine →
    ∃ later, after.machines.get? id = some later ∧ machine.Remains later

namespace Advances

variable {before middle after : Builder}

/-- Frames, statements and claims make no difference. -/
theorem congr (advances : before.Advances middle) (settings : after.settings = middle.settings)
    (named : after.namedParts = middle.namedParts) (domains : after.domains = middle.domains)
    (machines : after.machines = middle.machines) : before.Advances after := by
  refine ⟨settings.trans advances.settings, ?_, ?_, ?_, ?_, ?_⟩
  · rw [machines, advances.tag]
  · rw [machines]
    exact advances.size
  · rw [named]
    exact advances.named
  · rw [domains]
    exact advances.domains
  · rw [machines]
    exact advances.machines

theorem refl (builder : Builder) : builder.Advances builder :=
  ⟨rfl, rfl, Nat.le_refl _, fun _ mem ↦ mem, fun _ mem ↦ mem, fun _ machine found ↦ ⟨machine, found, .refl machine⟩⟩

theorem trans (first : before.Advances middle) (second : middle.Advances after) : before.Advances after where
  settings := second.settings.trans first.settings
  tag := second.tag.trans first.tag
  size := Nat.le_trans first.size second.size
  named name mem := second.named name (first.named name mem)
  domains name mem := second.domains name (first.domains name mem)
  machines id machine found := by
    obtain ⟨later, refound, remains⟩ := first.machines id machine found
    obtain ⟨last, found, others⟩ := second.machines id later refound
    exact ⟨last, found, remains.trans others⟩

theorem flushed (builder : Builder) : builder.Advances builder.flushed := by
  rw [flushed_eq]
  exact (refl builder).congr rfl rfl rfl rfl

/-- A machine changes, but it remains what it was, or it was not there before. -/
theorem withMachine (advances : before.Advances middle) {id : MachineId} {machine changed : Machine}
    (found : middle.machines.get? id = some machine)
    (remains : machine.Remains changed ∨ before.machines.get? id = none) :
    before.Advances (middle.withMachine id changed) where
  settings := advances.settings
  tag := (Arena.tag_modify ..).trans advances.tag
  size := by
    rw [Builder.withMachine, Arena.size_modify]
    exact advances.size
  named := advances.named
  domains := advances.domains
  machines asked known knew := by
    obtain ⟨later, refound, others⟩ := advances.machines asked known knew
    rw [get?_withMachine]
    by_cases same : asked = id
    · subst same
      rw [found, Option.some.injEq] at refound
      subst refound
      rw [if_pos rfl, found, Option.map_some]
      rcases remains with remains | new
      · exact ⟨changed, rfl, others.trans remains⟩
      · rw [knew] at new
        cases new
    · rw [if_neg same]
      exact ⟨later, refound, others⟩

theorem withNewMachine (builder : Builder) (machine : Machine) : builder.Advances (builder.withNewMachine machine) where
  settings := rfl
  tag := Arena.tag_push ..
  size := by
    rw [Builder.withNewMachine, Arena.size_push]
    omega
  named _ mem := mem
  domains _ mem := mem
  machines id known found := by
    refine ⟨known, ?_, .refl known⟩
    rw [Builder.withNewMachine, Arena.get?_push]
    split
    · rename_i same
      rw [same, Arena.get?_nextKey] at found
      cases found
    · exact found

theorem opening (advances : before.Advances middle) (frame : Frame) : before.Advances (middle.opening frame) :=
  (advances.trans (flushed middle)).congr rfl rfl rfl rfl

theorem recorded (advances : before.Advances middle) (domain : String) (statements : List Statement) :
    before.Advances (middle.recorded domain statements) :=
  (advances.trans (flushed middle)).congr rfl rfl rfl rfl

theorem noted (builder : Builder) (advice : List Diagnostic) : builder.Advances (builder.noted advice) :=
  (refl builder).congr rfl rfl rfl rfl

theorem joined {name : Option String} {component : Component} {loc : Location}
    {named : Table String (Component × Location)} {anonymous : List (Component × Location)}
    (joins : before.Joins name component loc named anonymous) :
    before.Advances { before with namedParts := named, anonymousParts := anonymous } := by
  refine ⟨rfl, rfl, Nat.le_refl _, fun other mem ↦ ?_, fun _ mem ↦ mem, (refl before).machines⟩
  cases name with
  | none =>
    obtain ⟨rfl, -⟩ := joins
    exact mem
  | some name =>
    rw [Table.keys, joins.1, List.map_append, List.mem_append]
    exact .inl mem

end Advances

/-- Opening a construct leaves the machines from before as they were. -/
theorem Opens.advances {builder opened : Builder} {ending : Ending} (opens : builder.Opens ending opened) :
    builder.Advances opened := by
  cases opens with
  | first test loc advice place => exact (Advances.noted builder advice).opening _
  | next test advice top level growing => exact .noted builder advice
  | last top level growing => exact .refl builder
  | switch test loc place => exact (Advances.refl builder).opening _
  | case patterns advice place => exact .noted builder advice
  | default advice place => exact .noted builder advice
  | machine initial loc place clocked => exact (Advances.withNewMachine builder _).opening _
  | state name place found incomplete absent =>
    exact (Advances.refl builder).withMachine found (.inl (.mention _ _ name))

theorem advances_enter (builder : Builder) (scope : Scope) : builder.Advances (builder.enter scope) := by
  cases scope <;> exact (Advances.refl builder).congr rfl rfl rfl rfl

theorem Advances.left {before outer last : Builder} (advances : before.Advances last) (scope : Scope) :
    before.Advances (outer.left last scope) := by
  cases scope <;> exact advances.congr rfl rfl rfl rfl

/-- Finishing a construct completes no machine but its own, which was not there before. -/
theorem Concludes.advances {before left after : Builder} {loc : Location} {recorded : Body} {ending : Ending}
    (concludes : left.Concludes loc recorded ending after) (advances : before.Advances left)
    (new : ∀ id, ending = .machine id → before.machines.get? id = none) : before.Advances after := by
  cases concludes with
  | unmatched => exact advances
  | machine top found closed =>
    exact (advances.withMachine found (.inr (new _ rfl))).congr rfl rfl rfl rfl
  | state place found absent =>
    exact advances.withMachine found (.inl ⟨rfl, rfl, Nat.le_refl _, fun _ ↦ ⟨rfl, rfl⟩⟩)
  | _ => exact advances.congr rfl rfl rfl rfl

/-- A new machine gets the next key. -/
theorem Opens.issues {builder opened : Builder} {id : MachineId} (opens : builder.Opens (.machine id) opened) :
    id = builder.machines.nextKey ∧ opened.machines.size = builder.machines.size + 1 := by
  cases opens with
  | @machine name domain initial loc behind base place clocked =>
    refine ⟨rfl, ?_⟩
    change (builder.withNewMachine (.opened name domain initial)).flushed.machines.size = _
    rw [machines_flushed_eq, Builder.withNewMachine, Arena.size_push]

/-- Finishing a construct hands out no keys. -/
theorem Concludes.size_machines {left after : Builder} {loc : Location} {recorded : Body} {ending : Ending}
    (concludes : left.Concludes loc recorded ending after) : after.machines.size = left.machines.size := by
  cases concludes with
  | machine top found closed => exact Arena.size_modify ..
  | state place found absent => exact Arena.size_modify ..
  | _ => rfl

end Builder

/-! ## What becomes of a session -/

namespace Session

/-- The keys that are handed out between two sessions in the same module. -/
def Issues (before after : Session) (id : MachineId) : Prop :=
  (id.tag = before.builder.machines.tag ∧ before.builder.machines.size ≤ id.index ∧
      id.index < after.builder.machines.size) ∨
    (before.started ≤ id.tag ∧ id.tag < after.started)

/-- What a part of a run leaves of a session, and what it adds: all that is stored and claimed is known already, or is
about machines whose keys have been handed out in between, or is the register of a machine that was complete. -/
structure Advances (before after : Session) : Prop where
  builder : before.builder.Advances after.builder
  started : before.started ≤ after.started
  knows : ∀ known : Knowledge, (∀ id, before.Issues after id → known.Admits id) → before.builder.Registers known →
    before.Knows known → after.Knows known

/-- Opening a construct stores at most the key of its machine. -/
theorem Opens.knows {before opened : Session} {ending : Ending} (opens : before.Opens ending opened) {known : Knowledge}
    (knows : before.Knows known) (new : ∀ id, ending = .machine id → known.machine id) : opened.Knows known := by
  constructor
  · rcases opens.environment with same | ⟨key, id, rfl, stored⟩
    · rw [same]
      exact knows.environment
    · rw [stored]
      exact knows.environment.storeMachine (new id rfl) key
  · rw [opens.builder.drivers]
    exact knows.drivers

namespace Advances

variable {before middle after : Session}

theorem of_builder {builder : Builder} (advances : before.builder.Advances builder)
    (drivers : builder.drivers = before.builder.drivers) : before.Advances (before.withBuilder builder) := by
  refine ⟨advances, Nat.le_refl _, fun known _ _ knows ↦ ⟨knows.environment, ?_⟩⟩
  rw [builder_withBuilder, drivers]
  exact knows.drivers

theorem refl (session : Session) : session.Advances session := of_builder (.refl session.builder) rfl

theorem trans (first : before.Advances middle) (second : middle.Advances after) : before.Advances after where
  builder := first.builder.trans second.builder
  started := Nat.le_trans first.started second.started
  knows known issued registers knows := by
    have size := first.builder.size
    have more := second.builder.size
    have started := first.started
    have others := second.started
    refine second.knows known (fun id new ↦ issued id ?_) (fun id machine signal found register origin heard ↦ ?_)
      (first.knows known (fun id new ↦ issued id ?_) registers knows)
    · rcases new with ⟨tag, above, below⟩ | ⟨above, below⟩
      · exact .inl ⟨tag.trans first.builder.tag, by omega, below⟩
      · exact .inr ⟨by omega, below⟩
    · cases old : before.builder.machines.get? id with
      | some earlier =>
        obtain ⟨later, refound, remains⟩ := first.builder.machines id earlier old
        rw [found, Option.some.injEq] at refound
        subst refound
        exact registers id earlier signal old (remains.register.symm.trans register) origin heard
      | none =>
        obtain ⟨tag, below⟩ := Arena.lt_size_of_get? found
        rw [Arena.get?_eq_none_iff] at old
        have same := first.builder.tag
        refine (issued id (.inl ⟨by omega, by omega, by omega⟩)).signal signal ?_
        rw [Signal.owner?, origin]
    · rcases new with ⟨tag, above, below⟩ | ⟨above, below⟩
      · exact .inl ⟨tag, above, by omega⟩
      · exact .inr ⟨above, by omega⟩

theorem entry (advances : before.Advances after) (trace : List Entry) : before.Advances { after with trace := trace } :=
  ⟨advances.builder, advances.started, fun known issued registers knows ↦
    have knows := advances.knows known issued registers knows
    ⟨knows.environment, knows.drivers⟩⟩

/-- A value about what was known before is stored. -/
theorem storeValue (advances : before.Advances after) {value : Value}
    (sources : ∀ known : Knowledge, before.builder.Registers known → before.Knows known →
      ∀ signal ∈ value.sources, known.signal signal) (name : String) :
    before.Advances { after with environment := after.environment.storeValue name value } :=
  ⟨advances.builder, advances.started, fun known issued registers knows ↦
    have later := advances.knows known issued registers knows
    ⟨later.environment.storeValue (sources known registers knows) name, later.drivers⟩⟩

/-- Another builder takes the place of the one a part of a run has come to, with the same claims and machines. -/
theorem withBuilder (advances : before.Advances middle) {builder : Builder} (related : before.builder.Advances builder)
    (drivers : builder.drivers = middle.builder.drivers)
    (size : builder.machines.size = middle.builder.machines.size) : before.Advances (middle.withBuilder builder) := by
  refine ⟨related, advances.started, fun known issued registers knows ↦ ?_⟩
  have knows := advances.knows known (fun id new ↦ issued id ?_) registers knows
  · refine ⟨knows.environment, ?_⟩
    rw [builder_withBuilder, drivers]
    exact knows.drivers
  · rw [Issues, builder_withBuilder, size]
    exact new

/-- A construct has been opened. -/
theorem opened {ending : Ending} {opened : Session} (opens : before.Opens ending opened) : before.Advances opened := by
  refine ⟨opens.builder.advances, Nat.le_of_eq opens.started.symm, fun known issued _ knows ↦ ?_⟩
  refine opens.knows knows fun id ended ↦ ?_
  subst ended
  obtain ⟨rfl, size⟩ := opens.builder.issues
  refine (issued _ (.inl ⟨rfl, Nat.le_refl _, ?_⟩)).machine
  change before.builder.machines.size < _
  omega

/-- A body is entered. -/
theorem enter (session : Session) (scope : Scope) : session.Advances (session.withBuilder (session.builder.enter scope)) :=
  of_builder (session.builder.advances_enter scope) (by cases scope <;> rfl)

theorem entered {ending : Ending} {opened : Session} (opens : before.Opens ending opened) :
    before.Advances (opened.withBuilder (opened.builder.enter ending.scope)) :=
  (Advances.opened opens).trans (enter opened ending.scope)

section Leaving

variable {ending : Ending} {opened last : Session} (opens : before.Opens ending opened) (advances : before.Advances last)

include opens advances

/-- A construct is finished, after its body. -/
theorem finished {loc : Location} {recorded : Body} {after : Builder}
    (concludes : (opened.builder.left last.builder ending.scope).Concludes loc recorded ending after) :
    before.Advances (last.withBuilder after) := by
  refine advances.withBuilder (concludes.advances (advances.builder.left _) fun id machine ↦ ?_) ?_ ?_
  · exact (machine ▸ opens.builder : before.builder.Opens (.machine id) opened.builder).new
  · rw [concludes.drivers]
    cases ending.scope <;> rfl
  · rw [concludes.size_machines]
    cases ending.scope <;> rfl

omit opens in
theorem dropped : before.Advances (last.withBuilder (opened.builder.dropped last.builder ending)) :=
  advances.withBuilder (advances.builder.congr rfl rfl rfl rfl) rfl rfl

end Leaving

end Advances

/-- A module of its own has been started, which has a builder with the next number. -/
theorem Advances.module {session last : Session} {settings : Settings} {loc : Location}
    (advances : (session.inModule settings loc).Advances last) : session.Advances (last.withBuilder session.builder) := by
  have started : session.started + 1 ≤ last.started := advances.started
  refine ⟨.refl session.builder, Nat.le_trans (Nat.le_succ _) started, fun known issued _ knows ↦ ?_⟩
  have empty : (session.inModule settings loc).builder.Registers known := by
    intro id machine _ found
    simp [Session.inModule, Builder.start, Arena.empty, Arena.get?] at found
  have later := advances.knows known (fun id new ↦ issued id (.inr ?_)) empty
    ⟨knows.environment, fun _ _ found ↦ (Option.some_ne_none _ found.symm).elim⟩
  · exact ⟨later.environment, knows.drivers⟩
  · change session.started ≤ id.tag ∧ id.tag < last.started
    rcases new with ⟨tag, -⟩ | ⟨above, below⟩
    · have tag : id.tag = session.started := tag
      omega
    · have above : session.started + 1 ≤ id.tag := above
      omega

end Session

/-! ## Runs -/

section Runs

variable {session : Session}

section Simple

variable (sound : session.builder.Sound) (placed : session.builder.control.Placed) (loc : Location)

include sound

section Places

include placed

/-- Statements claim the signals that they write. -/
theorem add_advances {domain : String} {statements : List StatementTerm}
    (declared : (Call.add domain statements : Call (List Step)).Declared) :
    Ends (runCall loc (.add domain statements)) session (.always session.Advances) := by
  simp only [runCall, Run.addStatements, ends_bind, ends_get, Run.ends_sound, Run.ends_build, ends_pure]
  intro values evaluated
  refine Build.add_ends sound.stacked placed domain values loc (fun advice _ _ _ ↦ ?_) (fun _ ↦ .refl session)
    fun _ advice _ _ ↦ ?_
  · refine ⟨(Builder.Advances.noted _ advice).recorded domain values, Nat.le_refl _, fun known _ _ knows ↦ ?_⟩
    refine ⟨knows.environment, ?_⟩
    change Drivers.Knows known (Drivers.claimAll (session.builder.noted advice).flushed.drivers domain _)
    rw [Builder.drivers_flushed]
    exact knows.drivers.claimAll (knows.environment.targetsAll statements declared evaluated) domain
  · refine .of_builder ((Builder.Advances.noted _ advice).trans (.flushed _)) ?_
    rw [Builder.drivers_flushed]
    rfl

theorem goto_advances (state : String) : Ends (runCall loc (.goto state)) session (.always session.Advances) := by
  simp only [runCall, ends_bind, Run.ends_build, ends_pure]
  refine Build.goto_ends sound.stacked placed state loc (fun id machine _ _ found ↦ ?_) fun _ _ ↦ .refl session
  refine .of_builder (((Builder.Advances.refl _).withMachine found (.inl (.mention machine id state))).recorded _ _) ?_
  change Drivers.claimAll (session.builder.withMachine id _).flushed.drivers _ _ = _
  rw [Builder.drivers_flushed]
  rfl

end Places

/-- The indicator that is stored is one of the machine whose key was stored. -/
theorem ongoing_advances (key state : String) (storeAs : Option String) :
    Ends (runCall loc (.ongoing key state storeAs)) session (.always session.Advances) := by
  have same := Session.Advances.refl session
  simp only [runCall, Run.ongoing, ends_bind, ends_get]
  cases stored : session.environment.machines.get? key with
  | none => exact same
  | some id =>
    simp only [ends_bind, Run.ends_build]
    refine Build.ongoing_ends id state loc (fun machine mentioned signal found _ kind listed ↦ ?_) fun _ ↦ same
    have proper := sound.proper id machine found
    rw [proper.mention_eq] at kind
    subst kind
    have fetched := proper.fetch_mention state
    rw [Table.fetch_eq_ok listed, Except.ok.injEq] at fetched
    have asked : session.Advances (session.withBuilder (session.builder.withMachine id (machine.mention id state))) :=
      .of_builder ((Builder.Advances.refl _).withMachine found (.inl (.mention machine id state))) rfl
    cases storeAs with
    | none => exact asked
    | some name =>
      refine asked.storeValue (fun known _ knows other mem ↦ ?_) name
      rw [List.mem_singleton.1 mem, fetched]
      exact known.indicator id (knows.environment.machines key id stored) machine.name state

/-- The register that is stored is the one of the machine whose key was stored. -/
theorem machineInfo_advances (key : String) (storeAs : Option String) :
    Ends (runCall loc (.machineInfo key storeAs)) session (.always session.Advances) := by
  have same := Session.Advances.refl session
  simp only [runCall, Run.machineInfo, ends_bind, ends_get]
  cases stored : session.environment.machines.get? key with
  | none => exact same
  | some id =>
    simp only [ends_bind, ends_get]
    cases register : session.builder.machineRegister? id with
    | none => exact same
    | some signal =>
      obtain ⟨machine, found, complete⟩ := Option.bind_eq_some_iff.1 register
      have origin := (sound.proper id machine found).register signal complete
      cases storeAs with
      | none => exact same
      | some name =>
        refine same.storeValue (fun known registers knows other mem ↦ ?_) name
        rw [List.mem_singleton.1 mem]
        exact registers id machine signal found complete origin (knows.environment.machines key id stored)

omit sound

theorem domain_advances (domain : ClockDomain) :
    Ends (runCall loc (.domain domain)) session (.always session.Advances) := by
  simp only [runCall, Run.addDomain, ends_bind, Run.ends_build, ends_pure, Build.ends_accepted]
  split
  · simp only [Build.addDomain, ends_bind, ends_get, ends_ite, Build.ends_refuse, ends_modify]
    split
    · exact .refl session
    · exact .of_builder ⟨rfl, rfl, Nat.le_refl _, fun _ mem ↦ mem,
        fun name mem ↦ (Table.mem_keys_insert ..).2 (.inl mem), (Builder.Advances.refl _).machines⟩ rfl
  · exact .refl session

include sound placed

/-- Calls without a body store what they are asked for, and claim what they write. -/
theorem simple_advances {call : Call (List Step)} (simple : call.body? = none) (declared : call.Declared) :
    Ends (runCall loc call) session (.always session.Advances) := by
  have same := Session.Advances.refl session
  cases call with
  | add domain statements => exact add_advances sound placed loc declared
  | goto state => exact goto_advances sound placed loc state
  | ongoing key state storeAs => exact ongoing_advances sound loc key state storeAs
  | machineInfo key storeAs => exact machineInfo_advances sound loc key storeAs
  | component name component =>
    simp only [runCall, ends_bind, Run.ends_build, ends_pure]
    exact Build.addPart_ends name component loc (fun _ _ joins ↦ .of_builder (.joined joins) rfl) fun _ ↦ same
  | part name =>
    simp only [runCall, ends_bind, Run.ends_build, ends_pure]
    exact Build.part_ends name loc (fun _ ↦ same) fun _ ↦ same
  | domain domain => exact domain_advances loc domain
  | raise message => exact same
  | settings => exact same
  | _ => simp [Call.body?] at simple

end Simple

/-- A construct, given that its body goes on so. -/
theorem construct_advances (sound : session.builder.Sound) (placed : session.builder.control.Placed) {loc : Location}
    {call : Call (List Step)} {body : List Step} (construct : call.isConstruct = true) (inner : call.body? = some body)
    (within : ∀ session : Session, session.builder.Sound → session.builder.control.Placed →
      Ends (runBody body) session (.always session.Advances)) :
    Ends (runCall loc call) session (.always session.Advances) := by
  obtain ⟨opening, _, opens, -⟩ := Call.exists_opening construct loc
  refine construct_ends opens inner sound placed ?_ fun ending opened _ opens ↦ ?_
  · rintro error advice _ rfl -
    exact .of_builder (.noted _ advice) rfl
  · have entered := opens.leads.sound.enters (opens.builder.due sound.stacked)
    refine (within _ entered.1.sound entered.2).mono (fun _ last advances _ ↦ ?_) fun _ last advances _ ↦ ?_
    · have so_far := (Session.Advances.entered opens).trans advances
      exact ⟨fun after concludes ↦ so_far.finished opens concludes, fun _ ↦ so_far.dropped⟩
    · exact ((Session.Advances.entered opens).trans advances).dropped

theorem module_advances (loc : Location) (name : Option String) (settings : Settings) {body : List Step}
    (within : Ends (runAll body) (session.inModule settings loc)
      ⟨fun _ last ↦ (session.inModule settings loc).Advances last, fun _ _ ↦ False⟩) :
    Ends (runCall loc (.module name settings body)) session (.always session.Advances) := by
  simp only [runCall, Run.module, ends_bind, ends_get, ends_modify, Run.ends_build, ends_pure]
  refine within.mono (fun _ last advances ↦ ?_) fun _ _ impossible ↦ impossible.elim
  have back : session.Advances (last.withBuilder session.builder) := advances.module
  refine Build.addPart_ends name _ loc (fun _ _ joins ↦ ?_) fun _ ↦ back
  exact back.withBuilder (.joined joins) rfl rfl

end Runs

/-- A step, given that its body goes on so. -/
theorem Step.advances {step : Step} (declared : step.call.Declared)
    (within : ∀ body, step.call.body? = some body → ∀ session : Session, session.builder.Sound →
      session.builder.control.Placed → Ends (runBody body) session (.always session.Advances) ∧
        Ends (runAll body) session ⟨fun _ later ↦ session.Advances later, fun _ _ ↦ False⟩)
    {session : Session} (stands : session.Stands) : Ends step.run session (.always session.Advances) := by
  obtain ⟨call, label, loc, caught⟩ := step
  have called : Ends (runCall loc call) session (.always session.Advances) := by
    cases inner : call.body? with
    | none => exact simple_advances stands.sound stands.placed loc inner declared
    | some body =>
      cases construct : call.isConstruct with
      | true =>
        exact construct_advances stands.sound stands.placed construct inner fun session sound placed ↦
          (within body inner session sound placed).1
      | false =>
        cases call with
        | module name settings steps =>
          obtain rfl := Option.some.inj inner
          exact module_advances loc name settings (within _ inner _ (Builder.sound_start ..) (Builder.placed_start ..)).2
        | _ => simp_all [Call.isConstruct, Call.body?]
  exact (Run.ends_traced ..).2 (called.mono (fun _ _ advances ↦ advances.entry _) fun _ _ advances ↦ advances.entry _)

/-- All steps go on so, wherever they are run. -/
theorem Step.Every.advance {steps : List Step} (declared : Step.Every Call.Declared steps) :
    ∀ session : Session, session.builder.Sound → session.builder.control.Placed →
      Ends (runBody steps) session (.always session.Advances) ∧
        Ends (runAll steps) session ⟨fun _ later ↦ session.Advances later, fun _ _ ↦ False⟩ := by
  induction declared with
  | nil => exact fun session _ _ ↦ ⟨.refl session, .refl session⟩
  | @cons step rest here _ _ within ih =>
    intro session sound placed
    have first := (Step.advances here within ⟨sound, placed⟩).and (step.stands ⟨sound, placed⟩)
    have body : ∀ {later : Session}, session.Advances later → later.Stands →
        Ends (runBody rest) later (.always session.Advances) := fun before stands ↦
      (ih _ stands.sound stands.placed).1.mono_always fun _ after ↦ before.trans after
    refine ⟨?_, ?_⟩
    · simp only [runBody]
      split
      · exact (ends_bind ..).2 ((Run.ends_caught ..).2 (first.mono (fun _ _ so_far ↦ body so_far.1 so_far.2)
          fun _ _ so_far ↦ body so_far.1 so_far.2))
      · exact (ends_bind ..).2 (first.mono (fun _ _ so_far ↦ body so_far.1 so_far.2) fun _ _ so_far ↦ so_far.1)
    · have all : ∀ {later : Session}, session.Advances later → later.Stands →
          Ends (runAll rest) later ⟨fun _ last ↦ session.Advances last, fun _ _ ↦ False⟩ := fun before stands ↦
        (ih _ stands.sound stands.placed).2.mono (fun _ _ after ↦ before.trans after) fun _ _ impossible ↦ impossible
      simp only [runAll, ends_bind]
      exact (Run.ends_caught ..).2 (first.mono (fun _ _ so_far ↦ all so_far.1 so_far.2)
        fun _ _ so_far ↦ all so_far.1 so_far.2)

/-! ## All that a session has heard of -/

namespace Session

/-- The key has been handed out before. -/
structure Known (session : Session) (id : MachineId) : Prop where
  started : id.tag < session.started
  size : id.tag = session.builder.machines.tag → id.index < session.builder.machines.size

/-- What is about keys that have been handed out before. -/
def knowledge (session : Session) : Knowledge where
  machine := session.Known
  signal signal := ∀ id, signal.owner? = some id → session.Known id
  declared signal bare id owner := by
    rw [bare] at owner
    exact nomatch owner
  indicator id heard name state other owner := by
    rw [Signal.owner?, Machine.indicator, Option.some.injEq] at owner
    exact owner ▸ heard

/-- All that is stored and claimed is about machines whose keys have been handed out. -/
structure Settled (session : Session) : Prop where
  ordered : session.builder.machines.tag < session.started
  knows : session.Knows session.knowledge

theorem Knows.mono {known wider : Knowledge} {session : Session} (knows : session.Knows known)
    (machines : ∀ id, known.machine id → wider.machine id)
    (signals : ∀ signal, known.signal signal → wider.signal signal) : session.Knows wider :=
  ⟨knows.environment.mono machines signals, fun signal domain found ↦ signals signal (knows.drivers signal domain found)⟩

theorem Advances.known {before after : Session} (advances : before.Advances after) {id : MachineId}
    (known : before.Known id) : after.Known id where
  started := Nat.lt_of_lt_of_le known.started advances.started
  size same := Nat.lt_of_lt_of_le (known.size (same.trans advances.builder.tag)) advances.builder.size

/-- A part of a run keeps it so. -/
theorem Advances.settled {before after : Session} (advances : before.Advances after) (settled : before.Settled) :
    after.Settled where
  ordered := by
    rw [advances.builder.tag]
    exact Nat.lt_of_lt_of_le settled.ordered advances.started
  knows := by
    refine advances.knows after.knowledge (fun id new ↦ ?_) (fun id machine signal _ _ origin heard other owner ↦ ?_)
      (settled.knows.mono (fun _ known ↦ advances.known known)
        fun _ known id owner ↦ advances.known (known id owner))
    · have ordered := settled.ordered
      have started := advances.started
      have issued : after.Known id := by
        rcases new with ⟨tag, -, below⟩ | ⟨above, below⟩
        · exact ⟨by omega, fun _ ↦ below⟩
        · refine ⟨below, fun same ↦ ?_⟩
          rw [advances.builder.tag] at same
          omega
      refine ⟨issued, fun signal owner other same ↦ ?_⟩
      rw [owner, Option.some.injEq] at same
      exact same ▸ issued
    · rw [Signal.owner?, origin, Option.some.injEq] at owner
      exact owner ▸ heard

theorem Known.inModule {session : Session} {id : MachineId} (known : session.Known id) (settings : Settings)
    (loc : Location) : (session.inModule settings loc).Known id where
  started := Nat.lt_succ_of_lt known.started
  size same := by
    have same : id.tag = session.started := same
    have started := known.started
    omega

theorem Settled.inModule {session : Session} (settled : session.Settled) (settings : Settings) (loc : Location) :
    (session.inModule settings loc).Settled where
  ordered := Nat.lt_succ_self _
  knows := ⟨settled.knows.environment.mono (fun _ known ↦ known.inModule settings loc)
    fun _ known id owner ↦ (known id owner).inModule settings loc, fun _ _ found ↦ nomatch found⟩

end Session

theorem Program.start_settled (program : Program) : program.start.Settled where
  ordered := Nat.zero_lt_one
  knows := ⟨⟨fun _ _ found ↦ (nomatch found), fun _ _ found ↦ (nomatch found)⟩, fun _ _ found ↦ nomatch found⟩

end RegisterTransfer
