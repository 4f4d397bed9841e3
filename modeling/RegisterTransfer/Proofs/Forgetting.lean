import Mathlib.Data.List.Perm.Subperm
import RegisterTransfer.Proofs.FailedConstruct
import RegisterTransfer.Proofs.Issued

/-!
# After a failure and without it

A session in which a construct has been refused is alike to the one in which the construct was never called, up to the
numbers of the machines that are opened later and the order of the states of those that are open. What the refused
body was the first to claim, to name or to mention is still there: it may be to blame for later refusals, and for
nothing else.
-/

namespace RegisterTransfer

/-! ## Later machines have other numbers -/

namespace Session

/-- The number that a machine gets after a failed call, for the one it gets without the call. -/
def renumber (before after : Session) (id : MachineId) : MachineId :=
  if id.tag = before.builder.machines.tag ∧ before.builder.machines.size ≤ id.index then
    ⟨id.tag, id.index + (after.builder.machines.size - before.builder.machines.size)⟩
  else if before.started ≤ id.tag then ⟨id.tag + (after.started - before.started), id.index⟩
  else id

variable {before after : Session}

theorem renumber_of_known {id : MachineId} (known : before.Known id) : before.renumber after id = id := by
  rw [renumber, if_neg fun new ↦ Nat.not_lt.2 new.2 (known.size new.1), if_neg (Nat.not_le.2 known.started)]

theorem renumber_index (advances : before.Advances after) (count : Nat) :
    before.renumber after ⟨before.builder.machines.tag, before.builder.machines.size + count⟩ =
      ⟨after.builder.machines.tag, after.builder.machines.size + count⟩ := by
  have size := advances.builder.size
  rw [renumber, if_pos ⟨rfl, Nat.le_add_right _ _⟩, advances.builder.tag, Arena.Key.mk.injEq]
  refine ⟨rfl, ?_⟩
  dsimp only
  omega

/-- Later machines stay later ones. -/
theorem known_of_renumber {id : MachineId} (known : before.Known (before.renumber after id)) : before.Known id := by
  obtain ⟨tag, index⟩ := id
  rw [renumber] at known
  split at known
  · rename_i new
    have size := known.size new.1
    dsimp only at new size
    omega
  · rename_i old
    split at known
    · rename_i late
      have started := known.started
      dsimp only at late started
      omega
    · exact known

/-- A machine that was not there is not there under its other number either. -/
theorem get?_renumber_eq_none (settled : before.Settled) (advances : before.Advances after) {id : MachineId}
    (absent : before.builder.machines.get? id = none) :
    after.builder.machines.get? (before.renumber after id) = none := by
  have ordered := settled.ordered
  have size := advances.builder.size
  rw [Arena.get?_eq_none_iff] at absent ⊢
  rw [advances.builder.tag]
  rintro ⟨same, below⟩
  rw [renumber] at same below
  split at same
  · rename_i new
    rw [if_pos new] at below
    dsimp only at below
    omega
  · rename_i old
    rw [if_neg old] at below
    split at same
    · dsimp only at same
      omega
    · rename_i early
      rw [if_neg early] at below
      exact old ⟨same, Nat.not_lt.1 fun inside ↦ absent ⟨same, inside⟩⟩

variable (ordered : before.builder.machines.tag < before.started)

include ordered

theorem renumber_tag (advances : before.Advances after) (count index : Nat) :
    before.renumber after ⟨before.started + count, index⟩ = ⟨after.started + count, index⟩ := by
  have started := advances.started
  rw [renumber, if_neg, if_pos (Nat.le_add_right _ _), Arena.Key.mk.injEq]
  · refine ⟨?_, rfl⟩
    dsimp only
    omega
  · rintro ⟨same, -⟩
    dsimp only at same
    omega

theorem renumber_injective (after : Session) : Function.Injective (before.renumber after) := by
  rintro ⟨tag, index⟩ ⟨tag', index'⟩ same
  simp only [renumber] at same
  split at same
  · split at same
    · rw [Arena.Key.mk.injEq] at same ⊢
      omega
    · split at same
      · rw [Arena.Key.mk.injEq] at same
        omega
      · rw [Arena.Key.mk.injEq] at same
        omega
  · split at same
    · split at same
      · rw [Arena.Key.mk.injEq] at same
        omega
      · split at same
        · rw [Arena.Key.mk.injEq] at same ⊢
          omega
        · rw [Arena.Key.mk.injEq] at same
          omega
    · split at same
      · rw [Arena.Key.mk.injEq] at same
        omega
      · split at same
        · rw [Arena.Key.mk.injEq] at same
          omega
        · exact same

end Session

/-! ## What is still there -/

/-- The state has been mentioned in the machine. -/
def Builder.Mentions (builder : Builder) (id : MachineId) (state : String) : Prop :=
  ∃ machine, builder.machines.get? id = some machine ∧ state ∈ machine.encoding.keys

/-- The refusal is due to what was not there before: a signal is driven from another domain, the name of a part or of a
clock domain is taken, or a machine that was open has no such state. -/
def Builder.Blames (before after : Builder) (error : BuildError) : Prop :=
  match error.cause with
  | .driverConflict signal _ earlier =>
    after.drivers.get? signal = some earlier ∧ before.drivers.get? signal ≠ some earlier
  | .submoduleExists name => name ∈ after.namedParts.keys ∧ name ∉ before.namedParts.keys
  | .domainExists name => name ∈ after.domains.keys ∧ name ∉ before.domains.keys
  | .stateUndefined state =>
    ∃ id, .machine id error.loc ∈ before.control.frames ∧ after.Mentions id state ∧ ¬before.Mentions id state
  | _ => False

/-- Whether something has nothing to do with what has been stored and named in between. Literals are about declared
signals. -/
def Mention.Unaffected (before after : Session) : Mention → Prop
  | .literal value => value.owners = []
  | .stored name => after.environment.values.get? name = before.environment.values.get? name
  | .key name => after.environment.machines.get? name = before.environment.machines.get? name
  | .part name => name ∈ after.builder.namedParts.keys → name ∈ before.builder.namedParts.keys

/-- Whether a call has nothing to do with it. -/
def Call.Unaffected {body : Type} (before after : Session) (call : Call body) : Prop :=
  ∀ mention ∈ call.mentions, mention.Unaffected before after

/-- A state of a machine that is open has been mentioned in between. -/
structure Session.Extra (before after : Session) (id : MachineId) (state : String) : Prop where
  opened : id ∈ Control.machines before.builder.control.frames
  mentioned : after.builder.Mentions id state
  new : ¬before.builder.Mentions id state

/-- How what registers show corresponds, if the states of the machine have another order. -/
structure Session.Labels (before after : Session) where
  shows : MachineId → Equiv.Perm (Option (List String))
  steady : ∀ id, (∀ state, ¬before.Extra after id state) → shows id = 1

/-- All registers show the same. -/
def Session.Labels.same (before after : Session) : Session.Labels before after := ⟨fun _ ↦ 1, fun _ _ ↦ rfl⟩

open Classical in
/-- The register of a machine whose states have another order shows something else. -/
noncomputable def Session.Labels.relabel {before after : Session} (labels : Session.Labels before after)
    (id : MachineId) (shown other : Option (List String)) : Session.Labels before after where
  shows asked :=
    if asked = id ∧ ∃ state, before.Extra after id state then Equiv.swap shown other else labels.shows asked
  steady asked steady := by
    rw [if_neg, labels.steady asked steady]
    rintro ⟨rfl, state, extra⟩
    exact steady state extra

/-- A run that has gone on from `before` to `after` in a call that was refused, and a run without the call, whose trace
was `base` then. -/
def Likeness.forgetting (before after : Session) (ordered : before.builder.machines.tag < before.started)
    (labels : Session.Labels before after) (base : List Entry) : Likeness where
  ids := before.renumber after
  injective := Session.renumber_injective ordered after
  hidden name := after.environment.values.get? name ≠ before.environment.values.get? name
  unknown key := after.environment.machines.get? key ≠ before.environment.machines.get? key
  extra := before.Extra after
  shows := labels.shows
  steady := labels.steady
  observed _ := False
  same _ seen := seen.elim
  lost id := id ∉ Control.machines before.builder.control.frames ∧
    ∃ machine, before.builder.machines.get? id = some machine ∧ machine.register = none
  taken name := name ∈ after.builder.namedParts.keys ∧ name ∉ before.builder.namedParts.keys
  strict error := ¬before.builder.Blames after.builder error
  lenient := False
  ordinary impossible := impossible.elim
  traces first second := ∃ these those, first = after.trace ++ these ∧ second = base ++ those ∧
    List.Forall₂ Entry.Like these those
  start := after.trace.length
  reached := by
    rintro _ _ ⟨these, those, rfl, -, -⟩
    rw [List.length_append]
    exact Nat.le_add_right _ _
  entered := by
    rintro _ _ entry other ⟨these, those, rfl, rfl, alike⟩ same
    exact ⟨these ++ [entry], those ++ [other], List.append_assoc .., List.append_assoc ..,
      List.rel_append alike (.cons same .nil)⟩
  skipped impossible := impossible.elim

theorem Mention.Unaffected.fits {before after : Session} {ordered : before.builder.machines.tag < before.started}
    {labels : Session.Labels before after} {base : List Entry} {mention : Mention}
    (unaffected : mention.Unaffected before after) : mention.Fits (.forgetting before after ordered labels base) := by
  cases mention with
  | literal value =>
    refine Likeness.value_of_sources value fun signal mem ↦ Likeness.signal_of_owner fun id owner ↦ ?_
    have bare : value.owners = [] := unaffected
    rw [Value.owner?_eq_none_of_owners bare mem] at owner
    cases owner
  | stored name => exact not_not.2 unaffected
  | key key => exact not_not.2 unaffected
  | part name => exact fun taken ↦ taken.2 (unaffected taken.1)

/-! ## What is alike to itself -/

namespace Likeness

variable {likeness : Likeness}

section Blind

variable (blind : ∀ domain, ¬likeness.observed domain)

include blind

/-- If no domain is observed, it does not matter what bodies hold. -/
theorem bodies_of_blind (body other : Body) : likeness.Bodies body other := fun domain seen ↦ absurd seen (blind domain)

/-- Frames are alike to themselves if their machines are there in both runs under the same numbers. -/
theorem frames_self {frames : List Frame}
    (fixed : ∀ id ∈ Control.machines frames, likeness.ids id = id ∧ ¬likeness.lost id) :
    List.Forall₂ likeness.Frames frames frames := by
  refine List.forall₂_same.2 fun frame mem ↦ ?_
  cases frame with
  | chain chain =>
    refine .chain ⟨rfl, rfl, List.forall₂_same.2 fun branch _ ↦ ⟨?_, rfl, bodies_of_blind blind _ _⟩⟩
    cases branch.test with
    | none => exact .none
    | some test => exact .some (.refl test)
  | switch switch =>
    exact .switch ⟨.refl _, rfl, List.forall₂_same.2 fun case _ ↦ ⟨rfl, rfl, bodies_of_blind blind _ _⟩⟩
  | machine id loc =>
    obtain ⟨same, kept⟩ := fixed id (List.mem_filterMap.2 ⟨_, mem, rfl⟩)
    have frame : likeness.Frames (.machine (likeness.ids id) loc) (.machine id loc) := .machine id loc kept
    rwa [same] at frame

theorem recording_self {builder other : Builder} (control : builder.control = other.control)
    (fixed : ∀ id ∈ Control.machines other.control.frames, likeness.ids id = id ∧ ¬likeness.lost id) :
    likeness.Recording builder other := by
  refine ⟨⟨?_, by rw [control], by rw [control]⟩, bodies_of_blind blind _ _⟩
  rw [control]
  exact frames_self blind fixed

/-- A machine is alike to what becomes of it, unless it is lost, if all that is mentioned in between is extra. -/
theorem machines_self {id : MachineId} {machine later : Machine} (same : likeness.ids id = id ∧ likeness.shows id = 1)
    (proper : machine.Proper id) (grows : machine.Grows later) (remains : machine.Remains later)
    (states : later.states = machine.states) (incomplete : likeness.lost id → machine.register = none)
    (missing : ¬likeness.lost id → ∀ state ∈ later.encoding.keys,
      state ∈ machine.encoding.keys ∨ machine.register = none ∧ likeness.extra id state) :
    likeness.Machines id later machine where
  name := grows.name
  register := by
    rw [remains.register]
    cases register : machine.register with
    | none => rfl
    | some signal =>
      rw [Option.map_some, Likeness.signal_of_owner fun other owner ↦ ?_]
      rw [Signal.owner?, proper.register signal register, Option.some.injEq] at owner
      exact owner ▸ same
  incomplete := incomplete
  kept kept := by
    have unchanged : likeness.Steady id →
        later.encoding = machine.encoding ∧ later.indicators = machine.indicators := by
      intro steady
      refine remains.same (Nat.le_antisymm ?_ remains.size)
      have known : later.encoding.keys ⊆ machine.encoding.keys := fun state mem ↦
        (missing kept state mem).resolve_right fun extra ↦ steady state extra.2
      have fewer := (later.encoding.keys_nodup.subperm known).length_le
      rwa [Table.keys, Table.keys, List.length_map, List.length_map] at fewer
    refine ⟨grows.domain, remains.initial, ⟨grows.states, missing kept⟩, fun steady ↦ (unchanged steady).1,
      fun steady ↦ ?_, ?_⟩
    · rw [(unchanged steady).2]
      refine Table.ext_entries ((List.map_id _).symm.trans (List.map_congr_left fun entry mem ↦ ?_))
      have indicator := proper.indicators entry.1 entry.2 mem
      rw [id_eq]
      refine Prod.ext rfl (Likeness.signal_of_owner fun other owner ↦ ?_).symm
      rw [indicator, Signal.owner?, Machine.indicator, Option.some.injEq] at owner
      exact owner ▸ same
    · rw [states]
      exact List.forall₂_same.2 fun state _ ↦ ⟨rfl, rfl, bodies_of_blind blind _ _⟩

end Blind

theorem owner_signal (signal : Signal) : (likeness.signal signal).owner? = signal.owner?.map likeness.ids := by
  obtain ⟨origin, name, shape, init, decoder⟩ := signal
  cases origin <;> rfl

end Likeness

/-! ## Alike but for the call -/

namespace Control

theorem mem_machines_iff {frames : List Frame} {id : MachineId} :
    id ∈ machines frames ↔ ∃ loc, Frame.machine id loc ∈ frames := by
  rw [machines, List.mem_filterMap]
  constructor
  · rintro ⟨frame, mem, owned⟩
    cases frame with
    | machine other loc =>
      obtain rfl := Option.some.inj owned
      exact ⟨loc, mem⟩
    | chain chain => cases owned
    | switch switch => cases owned
  · rintro ⟨loc, mem⟩
    exact ⟨_, mem, rfl⟩

/-- The machines that are open stay open, at the same place. -/
theorem Level.machine_mem_iff {before after : Control} (level : before.Level after) (placed : before.Placed)
    {id : MachineId} {loc : Location} : Frame.machine id loc ∈ after.frames ↔ Frame.machine id loc ∈ before.frames := by
  have below : ∀ {control : Control} {behind : Option IfChain} {base : List Frame}, control.AtBody behind base →
      (Frame.machine id loc ∈ control.frames ↔ Frame.machine id loc ∈ base) := by
    intro control behind base place
    rw [place.frames]
    cases behind <;> simp
  rcases placed with ⟨behind, base, place⟩ | ⟨frame, base, place⟩
  · obtain ⟨later, again⟩ := level.body behind base place
    rw [below again, below place]
  · obtain ⟨top, again, grows⟩ := level.inside frame base place
    rw [again.frames, place.frames]
    cases grows <;> simp

theorem Level.machines_eq {before after : Control} (level : before.Level after) (placed : before.Placed)
    {id : MachineId} : id ∈ machines after.frames ↔ id ∈ machines before.frames := by
  simp only [mem_machines_iff, level.machine_mem_iff placed]

end Control

theorem Session.Settled.known_of_get? {session : Session} (settled : session.Settled) {id : MachineId} {machine : Machine}
    (found : session.builder.machines.get? id = some machine) : session.Known id := by
  obtain ⟨tag, below⟩ := Arena.lt_size_of_get? found
  exact ⟨tag ▸ settled.ordered, fun _ ↦ below⟩

/-- A construct has been refused on the way from `before` to `after`. -/
structure Session.Fails (before after : Session) : Prop where
  stands : before.Stands
  settled : before.Settled
  advances : before.Advances after
  leads : before.builder.Leads after.builder
  control : after.builder.control = before.builder.control ∨
    after.builder.control = before.builder.flushed.control

namespace Session.Fails

variable {before after : Session} (fails : before.Fails after) (labels : Session.Labels before after) (base : List Entry)

/-- The likeness of what comes after the failed call. -/
abbrev likeness : Likeness := .forgetting before after fails.settled.ordered labels base

include fails

theorem level : before.builder.control.Level after.builder.control := by
  rcases fails.control with same | same
  · rw [same]
    exact .refl _
  · rw [same]
    exact Builder.level_flushed fails.stands.sound.stacked fails.stands.placed

/-- What is particular about a machine is so of one that was there before. -/
theorem exists_get?_of_lost {id : MachineId} (lost : (fails.likeness labels base).lost id) :
    ∃ machine, before.builder.machines.get? id = some machine := lost.2.imp fun _ ↦ And.left

theorem exists_get?_of_extra {id : MachineId} {state : String} (extra : before.Extra after id state) :
    ∃ machine, before.builder.machines.get? id = some machine :=
  (fails.stands.sound.running id extra.opened).imp fun _ ↦ And.left

theorem untouched_of_unknown {id : MachineId} (unknown : ¬before.Known id) :
    (fails.likeness labels base).Untouched id where
  kept lost := by
    obtain ⟨machine, found⟩ := fails.exists_get?_of_lost labels base lost
    exact unknown (fails.settled.known_of_get? found)
  steady state extra := by
    obtain ⟨machine, found⟩ := fails.exists_get?_of_extra extra
    exact unknown (fails.settled.known_of_get? found)

/-- A machine of another module is not touched. -/
theorem untouched_of_tag {id : MachineId} (apart : id.tag < before.builder.machines.tag) :
    (fails.likeness labels base).Untouched id where
  kept lost := by
    obtain ⟨machine, found⟩ := fails.exists_get?_of_lost labels base lost
    have tag := (Arena.lt_size_of_get? found).1
    omega
  steady state extra := by
    obtain ⟨machine, found⟩ := fails.exists_get?_of_extra extra
    have tag := (Arena.lt_size_of_get? found).1
    omega

/-- Machines that are open have their numbers in both runs, and are not lost. -/
theorem fixed {id : MachineId} (opened : id ∈ Control.machines before.builder.control.frames) :
    (fails.likeness labels base).ids id = id ∧ ¬(fails.likeness labels base).lost id := by
  obtain ⟨machine, found, -⟩ := fails.stands.sound.running id opened
  exact ⟨Session.renumber_of_known (fails.settled.known_of_get? found), fun lost ↦ lost.1 opened⟩

/-- Signals of machines that were there correspond to themselves. -/
theorem signal_of_known {signal : Signal} (known : before.knowledge.signal signal) :
    (fails.likeness (.same before after) base).signal signal = signal :=
  Likeness.signal_of_owner fun id owner ↦ ⟨Session.renumber_of_known (known id owner), rfl⟩

theorem machines (id : MachineId) : Option.Rel ((fails.likeness (.same before after) base).Machines id)
    (after.builder.machines.get? ((fails.likeness (.same before after) base).ids id))
    (before.builder.machines.get? id) := by
  change Option.Rel _ (after.builder.machines.get? (before.renumber after id)) _
  cases found : before.builder.machines.get? id with
  | none =>
    rw [Session.get?_renumber_eq_none fails.settled fails.advances found]
    exact .none
  | some machine =>
    have same : before.renumber after id = id := Session.renumber_of_known (fails.settled.known_of_get? found)
    obtain ⟨later, refound, grows⟩ := fails.leads.evolves.machines id machine found
    obtain ⟨_, again, remains⟩ := fails.advances.builder.machines id machine found
    obtain ⟨_, kept, states⟩ := fails.leads.keeps id machine found (by simp)
    rw [refound, Option.some.injEq] at again kept
    subst again kept
    rw [same, refound]
    refine .some (Likeness.machines_self (fun _ seen ↦ seen) ⟨same, rfl⟩ (fails.stands.sound.proper id machine found)
      grows remains states ?_ fun here state mem ↦ ?_)
    · rintro ⟨-, other, known, incomplete⟩
      rw [found, Option.some.injEq] at known
      exact known ▸ incomplete
    · cases register : machine.register with
      | some signal =>
        rw [grows.final (by simp [register])] at mem
        exact .inl mem
      | none =>
        by_cases known : state ∈ machine.encoding.keys
        · exact .inl known
        · refine .inr ⟨rfl, ?_, ⟨later, refound, mem⟩, ?_⟩
          · by_contra closed
            exact here ⟨closed, machine, found, register⟩
          · rintro ⟨other, refound, mentioned⟩
            rw [found, Option.some.injEq] at refound
            exact known (refound ▸ mentioned)

theorem rest (control : Control) (body : Body) : (fails.likeness (.same before after) base).Rest after.builder
    { before.builder with control := control, statements := body } where
  settings := fails.advances.builder.settings
  claimed signal domain found := by
    rw [fails.signal_of_known base (fails.settled.knows.drivers signal domain found)]
    exact fails.leads.evolves.drivers signal domain found
  free signal domain found := by
    by_cases old : before.builder.drivers.get? ((fails.likeness (.same before after) base).signal signal) = some domain
    · have same : (fails.likeness (.same before after) base).signal signal = signal := by
        refine fails.signal_of_known base fun id owner ↦ ?_
        refine Session.known_of_renumber (?_ : before.Known (before.renumber after id))
        refine fails.settled.knows.drivers _ domain old _ ?_
        rw [Likeness.owner_signal, owner]
        rfl
      rw [same] at old
      exact .inl old
    · exact .inr fun _ _ strict ↦ strict ⟨found, old⟩
  machines := fails.machines base
  fresh := Session.renumber_index fails.advances
  found count := by
    refine fails.untouched_of_unknown _ base fun known ↦ ?_
    have size := known.size rfl
    dsimp only at size
    omega
  named := ⟨fails.advances.builder.named, fun name mem ↦ by
    by_cases old : name ∈ before.builder.namedParts.keys
    · exact .inl old
    · exact .inr ⟨⟨mem, old⟩, fun _ strict ↦ strict ⟨mem, old⟩⟩⟩
  domains := ⟨fails.advances.builder.domains, fun name mem ↦ by
    by_cases old : name ∈ before.builder.domains.keys
    · exact .inl old
    · exact .inr fun _ strict ↦ strict ⟨mem, old⟩⟩
  indicators _ seen := seen.elim
  partsByName _ seen := seen.elim
  otherParts _ seen := seen.elim

theorem environments :
    (fails.likeness (.same before after) base).Environments after.environment before.environment where
  values name seen := by
    rw [not_not.1 seen]
    cases found : before.environment.values.get? name with
    | none => rfl
    | some value =>
      rw [Option.map_some, Likeness.value_of_sources value fun signal mem ↦
        fails.signal_of_known base (fails.settled.knows.environment.values name value found signal mem)]
  machines key seen := by
    rw [not_not.1 seen]
    cases found : before.environment.machines.get? key with
    | none => rfl
    | some id =>
      have same : before.renumber after id = id :=
        Session.renumber_of_known (fails.settled.knows.environment.machines key id found)
      rw [Option.map_some, Option.some.injEq]
      exact same.symm

/-- After the failed call, the session is alike to the one without it, in which the same chains have been closed. -/
theorem sessions (body : Body) : (fails.likeness (.same before after) base).Sessions after
    { before with
      builder := { before.builder with control := after.builder.control, statements := body }, trace := base } where
  builder := .of_tracks ⟨fails.rest base _ body, Likeness.recording_self (fun _ seen ↦ seen) rfl fun id mem ↦
    fails.fixed _ base ((fails.level.machines_eq fails.stands.placed).1 mem)⟩
  environment := fails.environments base
  fresh count index := Session.renumber_tag fails.settled.ordered fails.advances count index
  found count index := by
    refine fails.untouched_of_unknown _ base fun known ↦ ?_
    have started := known.started
    dsimp only at started
    omega
  trace := ⟨[], [], (List.append_nil _).symm, (List.append_nil _).symm, .nil⟩

end Session.Fails

/-! ## Registers that show their states in another order -/

/-- Everything but the register of a machine. -/
def Knowledge.without (id : MachineId) : Knowledge where
  machine _ := True
  signal signal := signal.origin ≠ .register id
  declared signal bare same := by
    rw [Signal.owner?, same] at bare
    exact nomatch bare
  indicator _ _ _ _ same := nomatch same

namespace Session.Fails

variable {before after : Session} (fails : before.Fails after) (base : List Entry)

/-- Two sessions are alike, whatever their registers show. -/
def Alike (first second : Session) : Prop := ∃ labels, (fails.likeness labels base).Sessions first second

section Relabel

variable {labels other : Session.Labels before after} {id : MachineId}
  (same : ∀ asked, asked ≠ id → other.shows asked = labels.shows asked)

include same

theorem signal_relabel {signal : Signal} (apart : signal.origin ≠ .register id) :
    (fails.likeness other base).signal signal = (fails.likeness labels base).signal signal := by
  obtain ⟨origin, name, shape, init, decoder⟩ := signal
  cases origin with
  | declared key => rfl
  | indicator machine state => rfl
  | register machine =>
    have shows := same machine fun eq ↦ apart (by rw [eq])
    simp only [Likeness.signal, Likeness.decoder, Likeness.forgetting, shows]
    rfl

omit same in
theorem frames_relabel {frame again : Frame} (frames : (fails.likeness labels base).Frames frame again) :
    (fails.likeness other base).Frames frame again := by
  have tests : ∀ {test twin : Value}, (fails.likeness labels base).Tests test twin →
      (fails.likeness other base).Tests test twin := fun tests ↦ ⟨tests.width, fun _ seen ↦ seen.elim⟩
  have bodies : ∀ body twin : Body, (fails.likeness other base).Bodies body twin :=
    Likeness.bodies_of_blind fun _ seen ↦ seen
  cases frames with
  | chain alike =>
    refine .chain ⟨alike.depth, alike.loc, alike.branches.imp fun branch twin same ↦ ⟨?_, same.loc, bodies _ _⟩⟩
    have pair := same.test
    generalize branch.test = test at pair ⊢
    generalize twin.test = again at pair ⊢
    cases pair with
    | none => exact .none
    | some same => exact .some (tests same)
  | switch alike =>
    exact .switch ⟨tests alike.test, alike.loc, alike.cases.imp fun _ _ same ↦ ⟨same.patterns, same.loc, bodies _ _⟩⟩
  | machine id loc kept => exact .machine id loc kept

theorem machines_relabel {asked : MachineId} {machine again : Machine} (proper : again.Proper asked)
    (incomplete : asked = id → again.register = none) (alike : (fails.likeness labels base).Machines asked machine again) :
    (fails.likeness other base).Machines asked machine again where
  name := alike.name
  register := by
    rw [alike.register]
    cases register : again.register with
    | none => rfl
    | some signal =>
      rw [Option.map_some, Option.map_some, fails.signal_relabel base same]
      rintro eq
      rw [proper.register signal register, Signal.Origin.register.injEq] at eq
      rw [incomplete eq] at register
      exact nomatch register
  incomplete := alike.incomplete
  kept kept := by
    have here := alike.kept kept
    refine ⟨here.domain, here.initial, here.mentioned, here.encoding, fun steady ↦ ?_, here.states.imp fun _ _ same ↦
      ⟨same.name, same.loc, Likeness.bodies_of_blind (fun _ seen ↦ seen) _ _⟩⟩
    rw [here.indicators steady]
    refine Table.ext_entries (List.map_congr_left fun entry mem ↦ Prod.ext rfl ?_)
    refine (fails.signal_relabel base same fun eq ↦ ?_).symm
    rw [proper.indicators entry.1 entry.2 mem] at eq
    exact nomatch eq

/-- As long as nothing is known of the register of a machine, it does not matter what it is going to show. -/
theorem sessions_relabel {first second : Session} (alike : (fails.likeness labels base).Sessions first second)
    (number : before.renumber after id = id) (knows : first.Knows (.without id)) (again : second.Knows (.without id))
    (sound : second.builder.Sound)
    (incomplete : ∀ machine, second.builder.machines.get? id = some machine → machine.register = none) :
    (fails.likeness other base).Sessions first second := by
  have rest := alike.builder.rest
  have recorded := alike.builder.recording.resolve_right fun lenient ↦ lenient.1
  refine ⟨.of_tracks ⟨?_, ⟨?_, recorded.control.depth, recorded.control.context⟩, fun _ seen ↦ seen.elim⟩, ?_,
    alike.fresh, fun count index ↦ ⟨(alike.found count index).kept, (alike.found count index).steady⟩, alike.trace⟩
  · refine ⟨rest.settings, fun signal domain found ↦ ?_, fun signal domain found ↦ ?_, fun asked ↦ ?_, rest.fresh,
      fun count ↦ ⟨(rest.found count).kept, (rest.found count).steady⟩, rest.named, rest.domains,
      fun _ seen ↦ seen.elim, fun _ seen ↦ seen.elim, fun _ seen ↦ seen.elim⟩
    · rw [fails.signal_relabel base same (again.drivers signal domain found)]
      exact rest.claimed signal domain found
    · have apart : signal.origin ≠ .register id := by
        intro eq
        refine knows.drivers _ domain found ?_
        change Likeness.origin _ signal.origin = _
        rw [eq]
        exact congrArg Signal.Origin.register number
      rw [fails.signal_relabel base same apart] at found ⊢
      exact rest.free signal domain found
    · have pair := rest.machines asked
      change Option.Rel _ (first.builder.machines.get? (before.renumber after asked)) _ at pair
      change Option.Rel _ (first.builder.machines.get? (before.renumber after asked)) _
      cases known : second.builder.machines.get? asked with
      | none =>
        rw [known] at pair
        generalize first.builder.machines.get? (before.renumber after asked) = machine at pair ⊢
        cases pair
        exact .none
      | some machine =>
        rw [known] at pair
        generalize first.builder.machines.get? (before.renumber after asked) = found at pair ⊢
        cases pair with
        | some alike =>
          exact .some (fails.machines_relabel base same (sound.proper asked machine known)
            (fun eq ↦ incomplete machine (eq ▸ known)) alike)
  · exact recorded.control.frames.imp fun _ _ frames ↦ fails.frames_relabel base frames
  · refine ⟨fun name seen ↦ ?_, alike.environment.machines⟩
    have stored := alike.environment.values name seen
    rw [stored]
    cases found : second.environment.values.get? name with
    | none => rfl
    | some value =>
      exact congrArg some (Likeness.value_congr value fun signal mem ↦
        (fails.signal_relabel base same (again.environment.values name value found signal mem)).symm)

end Relabel

end Session.Fails

end RegisterTransfer
