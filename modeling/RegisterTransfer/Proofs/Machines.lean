import RegisterTransfer.ClockDomain
import RegisterTransfer.Lowering
import RegisterTransfer.Table.Lemmas

/-!
# Open and complete machines

Every state that is mentioned has a number and an indicator, and only mentioned states are declared. Closing a machine
numbers its states anew, from zero up. The register is wide enough for every number, so that no number is changed by
the shape of the register, and each of the branches, the indicators and the names shown for the register takes the
number of a state from the same table.
-/

namespace RegisterTransfer

namespace Table

variable {κ α : Type} [DecidableEq κ]

theorem mem_keys_insert (table : Table κ α) (key other : κ) (value : α) :
    other ∈ (table.insert key value).keys ↔ other ∈ table.keys ∨ other = key := by
  rw [keys_insert]
  split
  · rename_i present
    constructor
    · exact .inl
    · rintro (mem | rfl)
      · exact mem
      · exact present
  · simp

/-- Entries under different keys are listed as they are given. -/
theorem entries_ofList {entries : List (κ × α)} (distinct : (entries.map Prod.fst).Nodup) :
    (ofList entries).entries = entries := by
  have general : ∀ table : Table κ α, (∀ key ∈ entries.map Prod.fst, key ∉ table.keys) →
      (entries.foldl (fun table entry ↦ table.insert entry.1 entry.2) table).entries = table.entries ++ entries := by
    induction entries with
    | nil => simp
    | cons entry rest ih =>
      intro table apart
      rw [List.map_cons, List.nodup_cons] at distinct
      have listed := table.entries_insert_of_notMem entry.1 entry.2 (apart entry.1 (by simp))
      rw [List.foldl_cons, ih distinct.2, listed, List.append_assoc, List.singleton_append]
      intro key mem
      rw [mem_keys_insert, not_or]
      refine ⟨apart key (List.mem_cons_of_mem _ mem), ?_⟩
      rintro rfl
      exact distinct.1 mem
  exact general empty fun _ _ ↦ List.not_mem_nil

theorem exists_get?_of_mem_keys {table : Table κ α} {key : κ} (mem : key ∈ table.keys) :
    ∃ value, table.get? key = some value :=
  Option.isSome_iff_exists.1 ((contains_iff_mem_keys ..).2 mem)

omit [DecidableEq κ] in
theorem mem_keys_of_mem_entries {table : Table κ α} {entry : κ × α} (mem : entry ∈ table.entries) :
    entry.1 ∈ table.keys := List.mem_map_of_mem mem

/-- The entries under one key, of which there is at most one. -/
theorem filter_entries (table : Table κ α) (key : κ) :
    table.entries.filter (fun entry ↦ decide (entry.1 = key)) =
      ((table.get? key).map fun value ↦ (key, value)).toList := by
  obtain ⟨entries, distinct⟩ := table
  change entries.filter _ = ((lookup key entries).map _).toList
  induction entries with
  | nil => rfl
  | cons entry rest ih =>
    obtain ⟨other, value⟩ := entry
    rw [List.map_cons, List.nodup_cons] at distinct
    by_cases same : other = key
    · subst same
      have none_left : rest.filter (fun entry ↦ decide (entry.1 = other)) = [] := by
        rw [List.filter_eq_nil_iff]
        intro entry mem
        simp only [decide_eq_true_eq]
        rintro rfl
        exact distinct.1 (List.mem_map.2 ⟨entry, mem, rfl⟩)
      simp [lookup, none_left]
    · simpa [lookup, same] using ih distinct.2

theorem fetch_eq_ok {table : Table String α} {key : String} {value : α} (found : table.get? key = some value) :
    table.fetch key = .ok value := by
  rw [fetch, found]

end Table

/-! ## Numbers that fit -/

/-- A number fits into the digits of another one if and only if that one is not smaller. -/
theorem bitLength_le_iff (n width : Nat) : bitLength n ≤ width ↔ n < wordCount width := by
  rw [bitLength]
  split
  · rename_i zero
    subst zero
    exact iff_of_true (Nat.zero_le _) (Nat.two_pow_pos width)
  · rename_i positive
    exact (Nat.succ_le_iff).trans (Nat.log2_lt positive)

theorem lt_wordCount_bitLength (n : Nat) : n < wordCount (bitLength n) := (bitLength_le_iff _ _).1 (Nat.le_refl _)

/-- A number below the count for which a shape is made keeps its value in it. -/
theorem Constant.value_ofShape_forRange {code count : Nat} (below : code < count) :
    (Constant.ofShape code (Shape.forRange count)).value = code := by
  have fits : code < wordCount (bitLength (count - 1)) :=
    calc code ≤ count - 1 := by omega
      _ < wordCount (bitLength (count - 1)) := lt_wordCount_bitLength _
  exact Int.emod_eq_of_lt (by omega) (by exact_mod_cast fits)

namespace Machine

/-! ## Numbered states -/

/-- The number of a state, zero for others. -/
def codeIn (encoding : Table String Nat) (state : String) : Nat := (encoding.get? state).getD 0

section Numbered

variable {states : List String} (distinct : states.Nodup)

include distinct

theorem entries_numbered : (numbered states).entries = states.zipIdx := by
  rw [numbered, Table.entries_ofList]
  rwa [List.zipIdx_map_fst]

theorem keys_numbered : (numbered states).keys = states := by
  rw [Table.keys, entries_numbered distinct, List.zipIdx_map_fst]

theorem get?_numbered (state : String) (code : Nat) :
    (numbered states).get? state = some code ↔ states[code]? = some state := by
  rw [Table.get?_eq_some_iff, entries_numbered distinct, List.mem_zipIdx_iff_getElem?]

theorem size_numbered : (numbered states).size = states.length := by
  rw [Table.size, entries_numbered distinct, List.length_zipIdx]

end Numbered

theorem nodup_finalOrder (machine : Machine) (initial : String) : (machine.finalOrder initial).Nodup :=
  List.nodup_cons.2 ⟨by simp, machine.encoding.keys_nodup.filter _⟩

theorem mem_finalOrder (machine : Machine) (initial state : String) :
    state ∈ machine.finalOrder initial ↔ state = initial ∨ state ∈ machine.encoding.keys := by
  rw [finalOrder, List.mem_cons, List.mem_filter]
  by_cases same : state = initial
  · simp [same]
  · simp [same]

/-- The states are numbered from zero up; the register is just wide enough for the numbers, and shows the state with
each of them. -/
structure Coded (machine : Machine) (register : Signal) : Prop where
  numbered : machine.encoding = numbered machine.encoding.keys
  shape : register.shape = Shape.forRange machine.encoding.size
  shown : ∀ state code, machine.encoding.get? state = some code →
    (register.decoder.getD [])[code]? = some s!"{state}/{code}"

theorem Coded.lt_size {machine : Machine} {register : Signal} (coded : machine.Coded register) {state : String}
    {code : Nat} (found : machine.encoding.get? state = some code) : code < machine.encoding.size := by
  have distinct := machine.encoding.keys_nodup
  have listed : machine.encoding.keys[code]? = some state := by
    rw [← get?_numbered distinct, ← coded.numbered, found]
  rw [coded.numbered, size_numbered distinct]
  exact (List.getElem?_eq_some_iff.1 listed).1

/-- In the shape of the register, the number of a state is the number itself. -/
theorem Coded.value_eq {machine : Machine} {register : Signal} (coded : machine.Coded register) {state : String}
    {code : Nat} (found : machine.encoding.get? state = some code) :
    (Constant.ofShape code register.shape).value = code := by
  rw [coded.shape]
  exact Constant.value_ofShape_forRange (coded.lt_size found)

/-! ## What stays true of a machine -/

/-- What is fixed about a machine: which states it has, where its signals come from, and that it is clocked. -/
structure Proper (machine : Machine) (id : MachineId) : Prop where
  register : ∀ signal, machine.register = some signal → signal.origin = .register id
  indicators : ∀ state signal, (state, signal) ∈ machine.indicators.entries → signal = indicator id machine.name state
  clocked : machine.domain ≠ combinational
  listed : ∀ state, state ∈ machine.indicators.keys ↔ state ∈ machine.encoding.keys
  declared : ∀ state ∈ machine.states.keys, state ∈ machine.encoding.keys
  coded : ∀ signal, machine.register = some signal → machine.Coded signal

/-- What may become of a machine. -/
structure Grows (machine later : Machine) : Prop where
  name : later.name = machine.name
  domain : later.domain = machine.domain
  states : ∀ state ∈ machine.encoding.keys, state ∈ later.encoding.keys
  final : machine.register.isSome = true → later = machine

theorem Grows.refl (machine : Machine) : machine.Grows machine := ⟨rfl, rfl, fun _ mem ↦ mem, fun _ ↦ rfl⟩

theorem Grows.trans {machine later last : Machine} (first : machine.Grows later) (second : later.Grows last) :
    machine.Grows last where
  name := second.name.trans first.name
  domain := second.domain.trans first.domain
  states state mem := second.states state (first.states state mem)
  final complete := by
    have same := first.final complete
    rw [same] at second
    exact second.final complete

theorem proper_opened {name domain : String} (initial : Option String) (clocked : domain ≠ combinational)
    (id : MachineId) : (opened name domain initial).Proper id where
  register := by simp [opened]
  indicators := by simp [opened]
  clocked := clocked
  listed := by simp [opened]
  declared := by simp [opened]
  coded := by simp [opened]

theorem name_mention (machine : Machine) (id : MachineId) (state : String) :
    (machine.mention id state).name = machine.name := by
  unfold mention
  split <;> rfl

theorem states_mention (machine : Machine) (id : MachineId) (state : String) :
    (machine.mention id state).states = machine.states := by
  unfold mention
  split <;> rfl

theorem register_mention (machine : Machine) (id : MachineId) (state : String) :
    (machine.mention id state).register = machine.register := by
  unfold mention
  split <;> rfl

theorem domain_mention (machine : Machine) (id : MachineId) (state : String) :
    (machine.mention id state).domain = machine.domain := by
  unfold mention
  split <;> rfl

theorem initial_mention (machine : Machine) (id : MachineId) (state : String) :
    (machine.mention id state).initial = machine.initial := by
  unfold mention
  split <;> rfl

theorem mem_keys_mention (machine : Machine) (id : MachineId) (state other : String) :
    other ∈ (machine.mention id state).encoding.keys ↔ other ∈ machine.encoding.keys ∨ other = state := by
  unfold mention
  split
  · rename_i present
    rw [Table.contains_iff_mem_keys] at present
    constructor
    · exact .inl
    · rintro (mem | rfl)
      · exact mem
      · exact present
  · exact Table.mem_keys_insert ..

theorem grows_mention {machine : Machine} (incomplete : machine.register = none) (id : MachineId) (state : String) :
    machine.Grows (machine.mention id state) where
  name := machine.name_mention id state
  domain := machine.domain_mention id state
  states other mem := (machine.mem_keys_mention id state other).2 (.inl mem)
  final complete := by simp [incomplete] at complete

theorem Proper.mention {machine : Machine} {id : MachineId} (proper : machine.Proper id)
    (incomplete : machine.register = none) (state : String) : (machine.mention id state).Proper id where
  register signal := by
    rw [register_mention]
    exact proper.register signal
  clocked := by
    rw [domain_mention]
    exact proper.clocked
  indicators other signal mem := by
    rw [name_mention]
    unfold Machine.mention at mem
    split at mem
    · exact proper.indicators other signal mem
    · rw [← Table.get?_eq_some_iff, Table.get?_insert] at mem
      split at mem
      · rename_i same
        rw [Option.some.injEq] at mem
        rw [← mem, same]
      · exact proper.indicators other signal ((Table.get?_eq_some_iff ..).1 mem)
  listed other := by
    unfold Machine.mention
    split
    · exact proper.listed other
    · rw [Table.mem_keys_insert, Table.mem_keys_insert, proper.listed]
  declared other mem := by
    rw [states_mention] at mem
    exact (machine.mem_keys_mention id state other).2 (.inl (proper.declared other mem))
  coded signal complete := by
    rw [register_mention, incomplete] at complete
    contradiction

theorem Proper.mem_indicators_mention {machine : Machine} {id : MachineId} (proper : machine.Proper id)
    (state : String) : state ∈ (machine.mention id state).indicators.keys := by
  unfold Machine.mention
  split
  · rename_i known
    exact (proper.listed state).2 ((Table.contains_iff_mem_keys ..).1 known)
  · exact (Table.mem_keys_insert ..).2 (.inr rfl)

/-- The indicator of a state that has been mentioned. -/
theorem Proper.fetch_mention {machine : Machine} {id : MachineId} (proper : machine.Proper id) (state : String) :
    (machine.mention id state).indicators.fetch state = .ok (indicator id machine.name state) := by
  unfold Machine.mention
  split
  · rename_i known
    obtain ⟨signal, found⟩ := Table.exists_get?_of_mem_keys ((proper.listed state).2 ((Table.contains_iff_mem_keys ..).1 known))
    rw [Table.fetch_eq_ok found, proper.indicators state signal ((Table.get?_eq_some_iff ..).1 found)]
  · refine Table.fetch_eq_ok ?_
    rw [Table.get?_insert, if_pos rfl]

/-- A state that has an indicator has been mentioned. -/
theorem Proper.mention_eq {machine : Machine} {id : MachineId} (proper : machine.Proper id) (state : String) :
    (if machine.indicators.contains state then machine else machine.mention id state) = machine.mention id state := by
  split
  · rename_i known
    have mentioned := (proper.listed state).1 ((Table.contains_iff_mem_keys ..).1 known)
    rw [Machine.mention, if_pos ((Table.contains_iff_mem_keys ..).2 mentioned)]
  · rfl

/-- A mentioned state is declared with a body. -/
theorem Proper.declare {machine : Machine} {id : MachineId} (proper : machine.Proper id) {state : String}
    (known : state ∈ machine.encoding.keys) (declared : MachineState) :
    { machine with states := machine.states.insert state declared }.Proper id where
  register := proper.register
  indicators := proper.indicators
  clocked := proper.clocked
  listed := proper.listed
  declared other mem := by
    rcases (Table.mem_keys_insert ..).1 mem with mem | rfl
    · exact proper.declared other mem
    · exact known
  coded signal complete := ⟨(proper.coded signal complete).numbered, (proper.coded signal complete).shape,
    (proper.coded signal complete).shown⟩

/-! ## Closing a machine -/

/-- The assignment of an indicator: it is set where the register holds the number of its state. -/
def indication (register : Signal) (encoding : Table String Nat) (entry : String × Signal) : Statement :=
  .assign (.signal entry.2)
    ((Value.signal register).equals (.const (.ofShape (codeIn encoding entry.1) register.shape)))

theorem indicatorAssignments_eq (register : Signal) {encoding : Table String Nat}
    {indicators : List (String × Signal)} (known : ∀ entry ∈ indicators, entry.1 ∈ encoding.keys) :
    indicatorAssignments register encoding indicators = .ok (indicators.map (indication register encoding)) := by
  induction indicators with
  | nil => rfl
  | cons entry rest ih =>
    obtain ⟨state, signal⟩ := entry
    obtain ⟨code, found⟩ := Table.exists_get?_of_mem_keys (known _ (List.mem_cons_self ..))
    have others := ih fun entry mem ↦ known entry (List.mem_cons_of_mem _ mem)
    have here : codeIn encoding state = code := by rw [codeIn, found, Option.getD_some]
    simp only [indicatorAssignments, Table.fetch_eq_ok found, others, bind, Except.bind, pure, Except.pure,
      List.map_cons, indication, here]

/-- The declared states as cases, each asking for its number. -/
def caseList (encoding : Table String Nat) (states : List (String × MachineState)) : List (Case Body) :=
  states.map fun entry ↦ ⟨[.int (codeIn encoding entry.1)], entry.2.body, some entry.2.loc⟩

theorem stateCases_eq {encoding : Table String Nat} {states : List (String × MachineState)}
    (known : ∀ entry ∈ states, entry.1 ∈ encoding.keys) :
    stateCases encoding states = .ok (caseList encoding states) := by
  induction states with
  | nil => rfl
  | cons entry rest ih =>
    obtain ⟨name, state⟩ := entry
    obtain ⟨code, found⟩ := Table.exists_get?_of_mem_keys (known _ (List.mem_cons_self ..))
    have others := ih fun entry mem ↦ known entry (List.mem_cons_of_mem _ mem)
    have here : codeIn encoding name = code := by rw [codeIn, found, Option.getD_some]
    simp only [stateCases, Table.fetch_eq_ok found, others, bind, Except.bind, pure, Except.pure, caseList,
      List.map_cons, here]

theorem checkComplete_eq_ok {machine : Machine} {loc : Location} (complete : machine.checkComplete loc = .ok ()) :
    (∀ state ∈ machine.encoding.keys, state ∈ machine.states.keys) ∧
      ∀ initial, machine.initial = some initial → initial ∈ machine.states.keys := by
  unfold checkComplete at complete
  split at complete
  · simp at complete
  · rename_i defined
    rw [undefined?, List.find?_eq_none] at defined
    refine ⟨fun state mem ↦ ?_, fun initial chosen ↦ ?_⟩
    · rw [← Table.contains_iff_mem_keys]
      simpa using defined state mem
    · rw [chosen] at complete
      dsimp only at complete
      split at complete
      · rename_i declared
        exact (Table.contains_iff_mem_keys ..).1 declared
      · simp at complete

theorem checkComplete_of_declared {machine : Machine}
    (declared : ∀ state ∈ machine.encoding.keys, state ∈ machine.states.keys)
    (chosen : ∀ initial, machine.initial = some initial → initial ∈ machine.states.keys) (loc : Location) :
    machine.checkComplete loc = .ok () := by
  have defined : machine.undefined? = none := by
    rw [undefined?, List.find?_eq_none]
    intro state mem
    simpa [Table.contains_iff_mem_keys] using declared state mem
  rw [checkComplete, defined]
  cases asked : machine.initial with
  | none => rfl
  | some initial => exact if_pos ((Table.contains_iff_mem_keys ..).2 (chosen initial asked))

/-- What closing a machine leaves. -/
structure Closes (machine : Machine) (id : MachineId) (loc : Location) (closing : Closing) (register : Signal)
    (encoding : Table String Nat) : Prop where
  after : closing.machine = { machine with encoding := encoding, register := some register }
  origin : register.origin = .register id
  states : ∀ state, state ∈ encoding.keys ↔ state ∈ machine.encoding.keys
  defined : ∀ state ∈ encoding.keys, state ∈ machine.states.keys
  coded : closing.machine.Coded register
  branches : closing.branches = Lowering.split (.signal register) (caseList encoding machine.states.entries) loc
  indicators : closing.indicators = machine.indicators.entries.map (indication register encoding)

theorem Closes.grows {machine : Machine} {id : MachineId} {loc : Location} {closing : Closing} {register : Signal}
    {encoding : Table String Nat} (closes : machine.Closes id loc closing register encoding)
    (incomplete : machine.register = none) : machine.Grows closing.machine := by
  rw [closes.after]
  exact ⟨rfl, rfl, fun state ↦ (closes.states state).2, fun complete ↦ by simp [incomplete] at complete⟩

/-- Whether a statement assigns the indicator of a state. -/
def indicates (id : MachineId) (state : String) : Statement → Bool
  | .assign (.signal signal) _ => decide (signal.origin = .indicator id state)
  | _ => false

/-- What the indicator of a state is assigned: nothing for a state of no number, or before the machine is complete. -/
def indications (machine : Machine) (id : MachineId) (state : String) : List Statement :=
  match machine.register, machine.encoding.get? state with
  | some register, some _ => [indication register machine.encoding (state, indicator id machine.name state)]
  | _, _ => []

theorem indications_of_incomplete {machine : Machine} (incomplete : machine.register = none) (id : MachineId)
    (state : String) : machine.indications id state = [] := by
  rw [indications, incomplete]

theorem Grows.indications_eq {machine later : Machine} (grows : machine.Grows later)
    (register : later.register = machine.register) (id : MachineId) (state : String) :
    later.indications id state = machine.indications id state := by
  cases complete : machine.register with
  | none =>
    rw [indications_of_incomplete complete, indications_of_incomplete (register.trans complete)]
  | some signal => rw [grows.final (by simp [complete])]

section Closes

variable {machine : Machine} {id : MachineId} {loc : Location} {closing : Closing} {register : Signal}
  {encoding : Table String Nat} (proper : machine.Proper id) (closes : machine.Closes id loc closing register encoding)

include proper closes

/-- Closing a machine assigns the indicators of its own states, each of them once. -/
theorem Closes.filter_indicators (other : MachineId) (state : String) :
    closing.indicators.filter (indicates other state) =
      if other = id then closing.machine.indications id state else [] := by
  have own : closing.indicators.filter (indicates other state) =
      (machine.indicators.entries.filter fun entry ↦ decide (id = other ∧ entry.1 = state)).map
        (indication register encoding) := by
    rw [closes.indicators, List.filter_map]
    congr 1
    refine List.filter_congr fun entry mem ↦ ?_
    rw [Function.comp_apply, indication, indicates, proper.indicators entry.1 entry.2 mem]
    simp [indicator]
  by_cases same : other = id
  · subst same
    rw [own, if_pos rfl, indications, closes.after]
    simp only [true_and, Table.filter_entries]
    cases found : machine.indicators.get? state with
    | none =>
      have absent : encoding.get? state = none := by
        rw [Table.get?_eq_none_iff, closes.states, ← proper.listed, ← Table.get?_eq_none_iff, found]
      simp [absent]
    | some signal =>
      have mem := (Table.get?_eq_some_iff ..).1 found
      have known := (closes.states state).2 ((proper.listed state).1 (Table.mem_keys_of_mem_entries mem))
      obtain ⟨code, numbered⟩ := Table.exists_get?_of_mem_keys known
      simp [numbered, proper.indicators state signal mem]
  · have apart : ¬id = other := fun other_way ↦ same other_way.symm
    simp [own, same, apart]

theorem Closes.keeps_proper : closing.machine.Proper id where
  register signal complete := by
    rw [closes.after, Option.some.injEq] at complete
    rw [← complete, closes.origin]
  indicators := by
    rw [closes.after]
    exact proper.indicators
  clocked := by
    rw [closes.after]
    exact proper.clocked
  listed state := by
    rw [closes.after]
    exact (proper.listed state).trans (closes.states state).symm
  declared state mem := by
    rw [closes.after] at mem ⊢
    exact (closes.states state).2 (proper.declared state mem)
  coded signal complete := by
    have coded := closes.coded
    rw [closes.after, Option.some.injEq] at complete
    rwa [← complete]

end Closes

/-- A machine that starts in a state closes with numbers for the states it has had before. -/
theorem Proper.close_numbered {machine : Machine} {id : MachineId} (proper : machine.Proper id) {loc : Location}
    (complete : machine.checkComplete loc = .ok ()) {initial : String} (starts : machine.initialState? = some initial) :
    (∀ state, state ∈ (numbered (machine.finalOrder initial)).keys ↔ state ∈ machine.encoding.keys) ∧
      machine.close id loc = .ok
        ⟨{ machine with
            encoding := numbered (machine.finalOrder initial)
            register := some (stateRegister id machine.name (numbered (machine.finalOrder initial))) },
          machine.indicators.entries.map (indication (stateRegister id machine.name (numbered (machine.finalOrder initial)))
            (numbered (machine.finalOrder initial))),
          Lowering.split (.signal (stateRegister id machine.name (numbered (machine.finalOrder initial))))
            (caseList (numbered (machine.finalOrder initial)) machine.states.entries) loc⟩ := by
  have declared : initial ∈ machine.states.keys := by
    rw [initialState?, Option.or_eq_some_iff] at starts
    rcases starts with asked | ⟨-, first⟩
    · exact (checkComplete_eq_ok complete).2 initial asked
    · exact List.mem_of_mem_head? first
  have states : ∀ state, state ∈ (numbered (machine.finalOrder initial)).keys ↔ state ∈ machine.encoding.keys := by
    intro state
    rw [keys_numbered (machine.nodup_finalOrder initial), mem_finalOrder]
    constructor
    · rintro (rfl | mem)
      · exact proper.declared _ declared
      · exact mem
    · exact .inr
  have indicators := indicatorAssignments_eq (stateRegister id machine.name (numbered (machine.finalOrder initial)))
    fun entry mem ↦ (states entry.1).2 ((proper.listed entry.1).1 (Table.mem_keys_of_mem_entries mem))
  have cases := stateCases_eq fun entry mem ↦
    (states entry.1).2 (proper.declared entry.1 (Table.mem_keys_of_mem_entries mem))
  refine ⟨states, ?_⟩
  simp only [close, complete, starts, indicators, cases]

/-- A machine whose states are all declared closes, and no other does. -/
theorem Proper.close_cases {machine : Machine} {id : MachineId} (proper : machine.Proper id) (loc : Location) :
    (∃ error, machine.close id loc = .error (.refused error)) ∨
      ∃ closing register encoding, machine.close id loc = .ok closing ∧
        machine.Closes id loc closing register encoding := by
  cases complete : machine.checkComplete loc with
  | error error => exact .inl ⟨error, by rw [close, complete]⟩
  | ok =>
    have defined := (checkComplete_eq_ok complete).1
    right
    cases starts : machine.initialState? with
    | none =>
      have absent := starts
      rw [initialState?, Option.or_eq_none_iff] at absent
      have none_declared : machine.states.keys = [] := List.head?_eq_none_iff.1 absent.2
      have none_mentioned : machine.encoding.keys = [] := by
        rw [List.eq_nil_iff_forall_not_mem]
        intro state mem
        have declared := defined state mem
        rw [none_declared] at declared
        contradiction
      have none_indicated : machine.indicators.entries = [] := by
        rw [List.eq_nil_iff_forall_not_mem]
        intro entry mem
        have mentioned := (proper.listed entry.1).1 (Table.mem_keys_of_mem_entries mem)
        rw [none_mentioned] at mentioned
        contradiction
      rw [Table.keys, List.map_eq_nil_iff] at none_declared
      have bare : machine.encoding = ∅ := Table.ext_entries (List.map_eq_nil_iff.1 none_mentioned)
      refine ⟨_, emptyRegister id machine.name, machine.encoding, by rw [close, complete, starts], rfl, rfl,
        fun _ ↦ Iff.rfl, defined, ?_, ?_, ?_⟩
      · exact ⟨by rw [bare]; rfl, by rw [bare]; rfl, by simp [bare]⟩
      · rw [none_declared]
        rfl
      · rw [none_indicated, List.map_nil]
    | some initial =>
      have distinct := machine.nodup_finalOrder initial
      obtain ⟨states, closed⟩ := proper.close_numbered complete starts
      refine ⟨_, _, _, closed, rfl, rfl, states, fun state mem ↦ defined state ((states state).1 mem), ?_, rfl, rfl⟩
      refine ⟨?_, rfl, fun state code found ↦ ?_⟩
      · change numbered _ = numbered (numbered _).keys
        rw [keys_numbered distinct]
      · change ((numbered (machine.finalOrder initial)).entries.map _)[code]? = _
        rw [entries_numbered distinct, List.getElem?_map, List.getElem?_zipIdx,
          (get?_numbered distinct state code).1 found]
        simp

theorem Proper.closes_of_close {machine : Machine} {id : MachineId} {loc : Location} {closing : Closing}
    (proper : machine.Proper id) (closed : machine.close id loc = .ok closing) :
    ∃ register encoding, machine.Closes id loc closing register encoding := by
  rcases proper.close_cases loc with ⟨error, refused⟩ | ⟨other, register, encoding, same, closes⟩
  · rw [closed] at refused
    contradiction
  · rw [closed, Except.ok.injEq] at same
    subst same
    exact ⟨register, encoding, closes⟩

end Machine

end RegisterTransfer
