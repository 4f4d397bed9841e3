import RegisterTransfer.Proofs.Scopes

/-!
# Sound constructs

A construct whose body keeps the builder sound keeps it sound itself, and comes back to its place. Where it returns, its
frame is gone or holds one more body; where it is refused, the frames are those of the body around it, with the chain
closed that had ended there if the construct has a frame of its own.
-/

namespace RegisterTransfer

/-! ## The place behind a construct -/

namespace Control

variable {control other : Control} {behind : Option IfChain} {base : List Frame}

theorem frames_top {frame : Frame} (top : control = ⟨frame :: base, base.length, none⟩) (frames : List Frame) :
    { control with frames := frames } = (⟨frames, base.length, none⟩ : Control) := by
  rw [top]

theorem AtBody.level_branch (place : control.AtBody behind base) {chain : IfChain}
    (top : other = ⟨.chain chain :: base, base.length, none⟩) (level : chain.depth = base.length)
    (conditions : ∀ branch ∈ chain.branches, branch.test.isSome = true) (test : Value) (body : Body) (loc : Location) :
    control.Level { other with frames := .chain (chain.extend ⟨some test, body, loc⟩) :: base } := by
  rw [frames_top top]
  exact .of_atBody place (atBody_chain (IfChain.growing_extend conditions test body loc) level)

theorem AtBody.level_left (place : control.AtBody behind base) {frame : Frame} {rest : List Frame}
    (top : other = ⟨frame :: rest, rest.length, none⟩) (below : other.frames.tail = base) :
    control.Level { other with frames := rest } := by
  rw [top] at below
  rw [frames_top top, show rest = base from below]
  exact .of_atBody place (atBody_nil base)

theorem AtConstruct.level_record {switch : OpenSwitch} (place : control.AtConstruct (.switch switch) base)
    (patterns : List Pattern) (entry : SwitchCase) :
    control.Level { control with frames := .switch (switch.record patterns entry) :: base } :=
  .of_atConstruct place ⟨rfl, place.depth, place.context⟩ (.switch switch.test switch.loc switch.cases _)

end Control

namespace Builder

variable {builder opened last after : Builder} {ending : Ending}

/-! ## What is known of an open construct -/

section Opens

variable (opens : builder.Opens ending opened)

include opens

/-- A construct with a frame of its own lies in a body, behind what has ended there. -/
theorem Opens.of_opensFrame (own : ending.opensFrame = true) :
    builder.control.context = none ∧ (∃ frame, opened.control = builder.flushed.control.push frame) ∧
      opened.statements = builder.flushed.statements := by
  have pushed : ∀ {other : Builder} (frame : Frame), other.control = builder.control →
      (other.opening frame).control = builder.flushed.control.push frame :=
    fun frame same ↦ congrArg (Control.push · frame) (control_flushed_congr same)
  cases opens with
  | first test loc advice place =>
    exact ⟨place.context, ⟨_, pushed _ rfl⟩, statements_flushed_congr rfl rfl⟩
  | switch test loc place => exact ⟨place.context, ⟨_, pushed _ rfl⟩, rfl⟩
  | machine initial loc place clocked =>
    exact ⟨place.context, ⟨_, pushed _ rfl⟩, statements_flushed_congr rfl rfl⟩
  | _ => simp [Ending.opensFrame] at own

/-- A further branch, a case and a state belong to the frame on top, and start with what was recorded before. -/
theorem Opens.of_not_opensFrame (own : ending.opensFrame = false) :
    opened.control = builder.control ∧ opened.statements = builder.statements := by
  cases opens with
  | first | switch | machine => simp [Ending.opensFrame] at own
  | _ => exact ⟨rfl, rfl⟩

/-- A construct inside of which states are declared has opened a new machine. -/
theorem Opens.new_of_declaring {id : MachineId}
    (declares : (opened.enter ending.scope).control.declaring? = some id) : builder.machines.get? id = none := by
  cases opens with
  | switch test loc place => simp [enter, enterConstruct, Ending.scope, Control.declaring?] at declares
  | machine initial loc place clocked =>
    have same : builder.machines.nextKey = id := Option.some.inj declares
    rw [← same]
    exact Arena.get?_nextKey _
  | _ => simp [enter, enterBody, Ending.scope, Control.declaring?] at declares

end Opens

/-! ## Constructs that return -/

/-- What a body has recorded for its construct may lie where the construct is finished. -/
theorem Sound.holds_recordedIn (sound : opened.Sound) (due : ending.Due opened.control)
    (stays : (opened.enter ending.scope).Stays last) : (last.recordedIn ending.scope).Holds
      ((opened.left last ending.scope).Filed (opened.left last ending.scope).control.frames) := by
  cases scope : ending.scope with
  | apart levels =>
    rw [scope] at stays
    obtain ⟨-, place⟩ := sound.enterBody (due.height scope)
    obtain ⟨behind, here⟩ := stays.level.body _ _ place
    have flushed := stays.sound.leads_flushed (.inl ⟨_, _, here⟩)
    have filed := flushed.sound.filed
    rw [control_flushed stays.sound.stacked here] at filed
    exact Filed.holds_evolve (last.flushed_evolves.trans (.of_same rfl rfl rfl rfl)) (fun _ mem ↦ mem) filed
  | within construct => exact Body.Holds.empty

/-- Every way to finish a construct keeps a builder sound. A state that is declared has been mentioned before. -/
theorem Concludes.leads {loc : Location} {recorded : Body} (concludes : builder.Concludes loc recorded ending after)
    (sound : builder.Sound) (filed : recorded.Holds (builder.Filed builder.control.frames))
    (mentioned : ∀ id name, ending = .state id name → ∀ machine, builder.machines.get? id = some machine →
      name ∈ machine.encoding.keys) : builder.Leads after after.control.declaring? := by
  have branch : ∀ {chain : IfChain} {base : List Frame} (test : Option Value),
      builder.control = ⟨.chain chain :: base, base.length, none⟩ → chain.depth = base.length →
        builder.Leads (builder.withFrames (.chain (chain.extend ⟨test, recorded, loc⟩) :: base)) := by
    intro chain base test top level
    refine sound.leads_replaced (congrArg Control.frames top) ?_ rfl fun body mem ↦ ?_
    · rintro _ ⟨rfl⟩
      exact level
    · simp only [bodiesOf, IfChain.extend, List.map_append, List.mem_append] at mem
      rcases mem with mem | mem
      · exact .inl mem
      · rw [List.map_singleton, List.mem_singleton] at mem
        exact .inr (mem ▸ filed)
  have case : ∀ {switch : OpenSwitch} {base : List Frame} (patterns : List Pattern),
      builder.control.AtConstruct (.switch switch) base →
        builder.Leads (builder.withFrames (.switch (switch.record patterns ⟨recorded, loc⟩) :: base)) := by
    intro switch base patterns place
    refine sound.leads_replaced place.frames (fun _ same ↦ Frame.noConfusion same) rfl fun body mem ↦ ?_
    rw [mem_bodiesOf_switch] at mem ⊢
    obtain ⟨entry, listed, rfl⟩ := mem
    rw [OpenSwitch.record] at listed
    by_cases present : patterns ∈ switch.cases.keys
    · rw [Table.insertIfAbsent_of_mem _ _ _ present] at listed
      exact .inl ⟨entry, listed, rfl⟩
    · rw [Table.entries_insertIfAbsent_of_notMem _ _ _ present, List.mem_append, List.mem_singleton] at listed
      rcases listed with listed | rfl
      · exact .inl ⟨entry, listed, rfl⟩
      · exact .inr filed
  cases concludes with
  | first top level => exact (branch _ top level).any _
  | next top level => exact (branch _ top level).any _
  | last top =>
    have level := sound.stacked
    rw [top] at level
    have grown := branch none top (level.1 _ rfl)
    exact (grown.trans (grown.sound.leads_closeChain rfl)).any _
  | switch top => exact (sound.leads_closeSwitch (congrArg Control.frames top)).any _
  | unmatched => exact sound.leads.any _
  | case matched place => exact (case _ place).any _
  | default place => exact (case _ place).any _
  | machine top found closed =>
    have frames := congrArg Control.frames top
    obtain ⟨register, encoding, closes⟩ := (sound.proper _ _ found).closes_of_close closed
    exact (sound.leads_finishing frames found closes).any _
  | @state id name opened base machine place found absent =>
    have declared : builder.Leads (builder.withMachine id { machine with
        states := machine.states.insert name ⟨recorded, loc⟩ }) (some id) :=
      sound.leads_addState place.frames found (mentioned id name rfl machine found) absent filed
    have growing : builder.control.declaring? = some id := place.declaring?_eq
    rw [← growing] at declared
    exact declared

section Concludes

variable {loc : Location} {recorded : Body} (opens : builder.Opens ending opened)
  (concludes : (opened.left last ending.scope).Concludes loc recorded ending after)

include opens concludes

/-- A construct that returns comes back to its place. -/
theorem Opens.level_concluded (stacked : Control.Stacked builder.control.frames)
    (below : (opened.left last ending.scope).control.frames.tail = opened.control.frames.tail) :
    builder.control.Level after.control := by
  cases opens with
  | first test place_loc advice place =>
    have known := control_opening (show Control.Stacked (builder.noted advice).control.frames from stacked) place
    cases concludes with
    | first top level =>
      cases (known _).symm.trans top
      exact place.level_branch top level (by simp) test recorded loc
  | next test advice top level growing =>
    have place := Control.atBody_chain growing level
    rw [← top] at place
    cases concludes with
    | next again level' =>
      cases top.symm.trans again
      exact place.level_branch again level growing.2 test recorded loc
  | last top level growing =>
    have place := Control.atBody_chain growing level
    rw [← top] at place
    cases concludes with
    | last again => exact place.level_left again (congrArg (List.tail ∘ Control.frames) top)
  | switch test place_loc place =>
    rw [control_opening stacked place] at below
    cases concludes with
    | switch top => exact place.level_left top below
  | case patterns advice place =>
    cases concludes with
    | unmatched => exact .refl _
    | case matched again => exact again.level_record patterns _
  | default advice place =>
    cases concludes with
    | default again => exact again.level_record [] _
  | @machine name domain initial place_loc behind base place clocked =>
    have known : Control.Stacked (builder.withNewMachine (.opened name domain initial)).control.frames := stacked
    rw [control_opening known place] at below
    cases concludes with
    | machine top found close => exact place.level_left top below
  | state name place found incomplete absent =>
    cases concludes with
    | state again found' absent' => exact .refl _

/-- Directly inside of a construct, a case or a state files nothing. -/
theorem Opens.statements_concluded (inside : builder.control.context ≠ none) :
    after.statements = builder.statements := by
  have chain : ∀ {chain : IfChain} {base : List Frame}, builder.control ≠ ⟨.chain chain :: base, base.length, none⟩ :=
    fun top ↦ inside (congrArg Control.context top)
  cases opens with
  | first test place_loc advice place => exact absurd place.context inside
  | next test advice top level growing => exact absurd top chain
  | last top level growing => exact absurd top chain
  | switch test place_loc place => exact absurd place.context inside
  | machine initial place_loc place clocked => exact absurd place.context inside
  | case | default | state => cases concludes <;> rfl

end Concludes

/-- A state that starts is mentioned, and has not been declared before. -/
theorem Opens.state_eq {id : MachineId} {name : String} (opens : builder.Opens (.state id name) opened) :
    ∃ machine : Machine, opened.machines.get? id = some (machine.mention id name) ∧ name ∉ machine.states.keys := by
  cases opens with
  | @state _ _ place base machine _ found incomplete absent =>
    exact ⟨machine, by rw [get?_withMachine, if_pos rfl, found, Option.map_some], absent⟩

theorem Opens.mentioned {id : MachineId} {name : String} (opens : builder.Opens (.state id name) opened)
    {machine : Machine} (evolves : opened.Evolves last) (found : last.machines.get? id = some machine) :
    name ∈ machine.encoding.keys := by
  obtain ⟨earlier, start, -⟩ := opens.state_eq
  obtain ⟨_, again, grows⟩ := evolves.machines id _ start
  rw [found, Option.some.injEq] at again
  subst again
  exact grows.states name ((earlier.mem_keys_mention id name name).2 (.inr rfl))

/-- The body of a state declares no state of the same machine. -/
theorem Opens.undeclared {id : MachineId} {name : String} (opens : builder.Opens (.state id name) opened)
    (leads : opened.Leads last) :
    ∃ machine, last.machines.get? id = some machine ∧ name ∉ machine.states.keys := by
  obtain ⟨earlier, start, absent⟩ := opens.state_eq
  obtain ⟨machine, found, states⟩ := leads.keeps id _ start (by simp)
  exact ⟨machine, found, by rwa [states, Machine.states_mention]⟩

section Returned

variable (opens : builder.Opens ending opened) (sound : builder.Sound) (leads : builder.Leads opened)
  (leaves : opened.Leaves last ending) {loc : Location}
  (concludes : (opened.left last ending.scope).Concludes loc (last.recordedIn ending.scope) ending after)

include opens sound leads leaves concludes

theorem Opens.leads_concluded : (opened.left last ending.scope).Leads after after.control.declaring? := by
  have due := opens.due sound.stacked
  refine concludes.leads leaves.sound (leads.sound.holds_recordedIn due leaves.stays) ?_
  rintro id name rfl machine found
  exact opens.mentioned (leads.sound.leads_left due leaves.stays).evolves found

theorem Opens.stays_concluded : builder.Stays after := by
  have inside := leads.sound.leads_left (opens.due sound.stacked) leaves.stays
  have left := leads.trans_new (fun _ ↦ opens.new_of_declaring) inside
  have finished := opens.leads_concluded sound leads leaves concludes
  have level := opens.level_concluded concludes sound.stacked leaves.below
  rw [level.declaring] at finished
  exact ⟨(left.any _).trans finished, level, fun context ↦ opens.statements_concluded concludes (by simp [context])⟩

end Returned

/-! ## Constructs that are refused -/

section Dropped

variable (opens : builder.Opens ending opened)

include opens

/-- A refused construct leaves no frame, and the chain closed that lay behind if it has opened a frame. -/
theorem Opens.control_dropped : (opened.dropped last ending).control =
    if ending.opensFrame then builder.flushed.control else builder.control := by
  cases own : ending.opensFrame with
  | true =>
    obtain ⟨-, ⟨frame, pushed⟩, -⟩ := opens.of_opensFrame own
    simp only [dropped, own, pushed, Control.push, ↓reduceIte, List.tail_cons]
  | false =>
    obtain ⟨same, -⟩ := opens.of_not_opensFrame own
    simp only [dropped, own, same, Bool.false_eq_true, ↓reduceIte]

/-- Only a switch may leave statements behind when it is refused. -/
theorem Opens.statements_dropped (due : ending.Due opened.control) (stays : (opened.enter ending.scope).Stays last)
    (other : ending ≠ .switch) : (opened.dropped last ending).statements = opened.statements := by
  cases ending with
  | switch => exact absurd rfl other
  | machine id => exact stays.kept rfl
  | _ => rfl

/-- What was recorded before a construct was opened does not lie within its frame. -/
theorem Opens.filed_around (sound : builder.Sound) (placed : builder.control.Placed) (leads : builder.Leads opened) :
    opened.statements.Holds (opened.Filed (opened.dropped last ending).control.frames) := by
  rw [opens.control_dropped]
  cases own : ending.opensFrame with
  | true =>
    obtain ⟨-, -, statements⟩ := opens.of_opensFrame own
    have evolves := builder.flushed_evolves.trans leads.evolves
    rw [statements, if_pos rfl]
    exact Filed.holds_evolve evolves (fun _ mem ↦ mem) (sound.leads_flushed placed).sound.filed
  | false =>
    obtain ⟨same, -⟩ := opens.of_not_opensFrame own
    rw [if_neg Bool.false_ne_true, ← same]
    exact leads.sound.filed

omit opens in
/-- The frames around a construct lie below those that its body leaves. -/
theorem Sound.dropped_suffix (sound : opened.Sound) (due : ending.Due opened.control)
    (stays : (opened.enter ending.scope).Stays last) :
    (opened.dropped last ending).control.frames <:+ last.control.frames := by
  cases scope : ending.scope with
  | apart levels =>
    rw [scope] at stays
    obtain ⟨behind, here⟩ := stays.level.body _ _ (sound.enterBody (due.height scope)).2
    have around : (opened.dropped last ending).control.frames <:+ opened.control.frames := by
      rw [dropped]
      dsimp only
      split
      · exact List.tail_suffix _
      · exact List.suffix_rfl
    rw [here.frames]
    exact around.trans (List.suffix_append ..)
  | within construct =>
    rw [scope] at stays
    obtain ⟨frame, base, top, rfl⟩ := due.inside scope
    obtain ⟨later, here, -⟩ := stays.level.inside _ _ (sound.enterConstruct top).2
    rw [dropped, if_pos (Ending.opensFrame_of_within scope), here.frames, top]
    exact List.suffix_cons ..

theorem Opens.leads_dropped (sound : builder.Sound) (placed : builder.control.Placed) (leads : builder.Leads opened)
    (stays : (opened.enter ending.scope).Stays last) : builder.Leads (opened.dropped last ending) := by
  have due := opens.due sound.stacked
  have entered := leads.sound.enters due
  have inside := (entered.1.any _).trans stays.toLeads
  have filed : (opened.dropped last ending).statements.Holds
      (last.Filed (opened.dropped last ending).control.frames) := by
    by_cases switch : ending = .switch
    · subst switch
      obtain ⟨switch, base, top⟩ := due
      obtain ⟨later, here, grows⟩ := stays.level.inside _ _ (leads.sound.enterConstruct top).2
      have filed := stays.sound.filed
      have around : (opened.dropped last .switch).control.frames = base := congrArg (List.tail ∘ Control.frames) top
      rw [here.frames] at filed
      rw [around]
      cases grows
      all_goals exact filed
    · rw [opens.statements_dropped due stays switch]
      exact Filed.holds_evolve inside.evolves (fun _ mem ↦ mem) (opens.filed_around sound placed leads)
  obtain ⟨above, frames⟩ := leads.sound.dropped_suffix due stays
  refine (leads.trans_new (fun _ ↦ opens.new_of_declaring) inside).trans ?_
  exact stays.sound.leads_dropping frames.symm rfl rfl rfl rfl rfl filed

/-- Directly inside of a construct, no construct with a frame of its own is opened. -/
theorem Opens.not_opensFrame (inside : builder.control.context ≠ none) : ending.opensFrame = false := by
  cases own : ending.opensFrame with
  | false => rfl
  | true => exact absurd (opens.of_opensFrame own).1 inside

theorem Opens.statements_dropped_of_not_opensFrame (due : ending.Due opened.control)
    (stays : (opened.enter ending.scope).Stays last) (own : ending.opensFrame = false) :
    (opened.dropped last ending).statements = builder.statements := by
  have other : ending ≠ .switch := fun switch ↦ by simp [switch, Ending.opensFrame] at own
  exact (opens.statements_dropped due stays other).trans (opens.of_not_opensFrame own).2

theorem Opens.stays_dropped (sound : builder.Sound) (placed : builder.control.Placed) (leads : builder.Leads opened)
    (stays : (opened.enter ending.scope).Stays last) : builder.Stays (opened.dropped last ending) := by
  refine ⟨(opens.leads_dropped sound placed leads stays).any _, ?_, fun context ↦ ?_⟩
  · rw [opens.control_dropped]
    split
    · exact level_flushed sound.stacked placed
    · exact .refl _
  · have own := opens.not_opensFrame (by simp [context])
    exact opens.statements_dropped_of_not_opensFrame (opens.due sound.stacked) stays own

end Dropped

end Builder

/-! ## Calls -/

/-- A construct comes back to its place if its body does. -/
theorem construct_proceeds {loc : Location} {call : Call (List Step)} {opening : Run Ending} {body : List Step}
    (opens : call.opening loc = some opening) (inner : call.body? = some body)
    (proceeds : Run.Proceeds (runBody body)) : Run.Proceeds (runCall loc call) := by
  intro session sound placed
  refine construct_ends_of_proceeds opens inner proceeds sound placed ?_ fun ending opened _ made ↦ ?_
  · rintro error advice _ rfl -
    exact ((sound.leads_noted advice).any _).stays rfl rfl
  · have entered := made.leads.sound.enters (made.builder.due sound.stacked)
    refine (proceeds _ entered.1.sound entered.2).mono (fun _ last _ leaves ↦ ⟨fun after concludes ↦ ?_, fun _ ↦ ?_⟩)
      fun _ last _ stays ↦ ?_
    · exact made.builder.stays_concluded sound made.leads leaves concludes
    · exact made.builder.stays_dropped sound placed made.leads leaves.stays
    · exact made.builder.stays_dropped sound placed made.leads stays

end RegisterTransfer
