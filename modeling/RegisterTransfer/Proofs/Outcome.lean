import RegisterTransfer.Session.Run

/-!
# How calls end

A call on a builder, and a part of a running program, returns, is refused or is stopped by a fault. What holds
when it returns and what holds when it is refused are stated together, and each way of putting calls together
has one rule. Nothing is said about runs that a fault has stopped.
-/

namespace RegisterTransfer

variable {σ α β : Type}

/-- What is computed in two parts has a result if the second part has one on the result of the first. -/
theorem bind_eq_ok_iff {ε : Type} {first : Except ε α} {next : α → Except ε β} {result : β} :
    first >>= next = .ok result ↔ ∃ value, first = .ok value ∧ next value = .ok result := by
  cases first <;> simp [bind, Except.bind]

/-- What holds of the value and the state where a call returns, and of the state where it is refused. -/
structure Post (σ α : Type) where
  returned : α → σ → Prop
  refused : BuildError → σ → Prop

/-- The same for both ends, of the state alone. -/
def Post.always (holds : σ → Prop) : Post σ α := ⟨fun _ state ↦ holds state, fun _ state ↦ holds state⟩

def Ends (action : EStateM Failure σ α) (state : σ) (post : Post σ α) : Prop :=
  match action state with
  | .ok value state => post.returned value state
  | .error (.refused error) state => post.refused error state
  | .error (.broken _) _ => True

namespace Ends

variable {action : EStateM Failure σ α} {state : σ} {post other : Post σ α}

theorem mono (ends : Ends action state post)
    (returned : ∀ value state, post.returned value state → other.returned value state)
    (refused : ∀ error state, post.refused error state → other.refused error state) :
    Ends action state other := by
  unfold Ends at ends ⊢
  split at ends
  · exact returned _ _ ends
  · exact refused _ _ ends
  · trivial

theorem mono_always {holds wanted : σ → Prop} (ends : Ends action state (.always holds))
    (implies : ∀ state, holds state → wanted state) : Ends action state (.always wanted) :=
  ends.mono (fun _ state ↦ implies state) fun _ state ↦ implies state

theorem and (ends : Ends action state post) (also : Ends action state other) :
    Ends action state ⟨fun value state ↦ post.returned value state ∧ other.returned value state,
      fun error state ↦ post.refused error state ∧ other.refused error state⟩ := by
  unfold Ends at ends also ⊢
  split at ends
  · rename_i h
    rw [h] at also
    exact ⟨ends, also⟩
  · rename_i h
    rw [h] at also
    exact ⟨ends, also⟩
  · trivial

theorem of_ok {value : α} {after : σ} (ran : action state = .ok value after)
    (ends : Ends action state post) : post.returned value after := by
  simpa only [Ends, ran] using ends

theorem of_refused {error : BuildError} {after : σ} (ran : action state = .error (.refused error) after)
    (ends : Ends action state post) : post.refused error after := by
  simpa only [Ends, ran] using ends

/-- A call ends as it does. -/
theorem self (action : EStateM Failure σ α) (state : σ) :
    Ends action state ⟨fun value after ↦ action state = .ok value after,
      fun error after ↦ action state = .error (.refused error) after⟩ := by
  unfold Ends
  split
  · assumption
  · assumption
  · trivial

/-- What holds where a call ends, together with the way it ends. -/
theorem known (ends : Ends action state post) :
    Ends action state ⟨fun value after ↦ action state = .ok value after ∧ post.returned value after,
      fun error after ↦ action state = .error (.refused error) after ∧ post.refused error after⟩ :=
  (self action state).and ends

/-- What holds of all values and states holds where a call ends. -/
theorem of_forall (returned : ∀ value after, post.returned value after)
    (refused : ∀ error after, post.refused error after) : Ends action state post :=
  (self action state).mono (fun value after _ ↦ returned value after) fun error after _ ↦ refused error after

theorem of_eq_ok {value : α} {after : σ} (ran : action state = .ok value after)
    (returned : post.returned value after) : Ends action state post := by
  simpa only [Ends, ran] using returned

end Ends

/-- An action returns or is refused in a state. -/
def EndsIn (action : EStateM Failure σ α) (state after : σ) : Prop :=
  (∃ value, action state = .ok value after) ∨ ∃ error, action state = .error (.refused error) after

theorem EndsIn.holds {action : EStateM Failure σ α} {state after : σ} (ended : EndsIn action state after)
    {holds : σ → Prop} (ends : Ends action state (.always holds)) : holds after := by
  rcases ended with ⟨value, returned⟩ | ⟨error, refused⟩
  · exact ends.of_ok returned
  · exact ends.of_refused refused

theorem EndsIn.ends {action : EStateM Failure σ α} {state after : σ} (ended : EndsIn action state after)
    {post : Post σ α} (returned : ∀ value, post.returned value after)
    (refused : ∀ error, post.refused error after) : Ends action state post := by
  rcases ended with ⟨value, ran⟩ | ⟨error, ran⟩
  · simpa only [Ends, ran] using returned value
  · simpa only [Ends, ran] using refused error

/-! ## Putting calls together -/

theorem get_apply (state : σ) : (get : EStateM Failure σ σ) state = .ok state state := rfl

theorem modify_apply (change : σ → σ) (state : σ) :
    (modify change : EStateM Failure σ PUnit) state = .ok ⟨⟩ (change state) := rfl

theorem throw_apply (failure : Failure) (state : σ) :
    (throw failure : EStateM Failure σ α) state = .error failure state := rfl

section Rules

variable (state : σ) (post : Post σ α)

@[simp] theorem ends_pure (value : α) :
    Ends (pure value : EStateM Failure σ α) state post ↔ post.returned value state := Iff.rfl

@[simp] theorem ends_refused (error : BuildError) :
    Ends (throw (.refused error) : EStateM Failure σ α) state post ↔ post.refused error state := Iff.rfl

@[simp] theorem ends_broken (fault : Fault) :
    Ends (throw (.broken fault) : EStateM Failure σ α) state post ↔ True := Iff.rfl

@[simp] theorem ends_bind (action : EStateM Failure σ β) (next : β → EStateM Failure σ α) :
    Ends (action >>= next) state post ↔
      Ends action state ⟨fun value state ↦ Ends (next value) state post, post.refused⟩ := by
  simp only [Ends, bind, EStateM.bind]
  rcases action state with ⟨value, after⟩ | ⟨error | fault, after⟩ <;> rfl

@[simp] theorem ends_get (post : Post σ σ) :
    Ends (get : EStateM Failure σ σ) state post ↔ post.returned state state := Iff.rfl

@[simp] theorem ends_modify (change : σ → σ) (post : Post σ PUnit) :
    Ends (modify change : EStateM Failure σ PUnit) state post ↔ post.returned ⟨⟩ (change state) := Iff.rfl

@[simp] theorem ends_ite (condition : Prop) [Decidable condition] (first second : EStateM Failure σ α) :
    Ends (if condition then first else second) state post ↔
      if condition then Ends first state post else Ends second state post := by
  split <;> rfl

end Rules

namespace Build

variable (builder : Builder) (post : Post Builder α)

@[simp] theorem ends_refuse (cause : BuildError.Cause) (loc : Location) :
    Ends (refuse cause loc : Build α) builder post ↔ post.refused ⟨cause, loc⟩ builder := Iff.rfl

theorem ends_accepted (result : Except BuildError α) :
    Ends (accepted result) builder post ↔ match result with
      | .ok value => post.returned value builder
      | .error error => post.refused error builder := by
  cases result <;> rfl

theorem ends_sound (result : Except Fault α) :
    Ends (Build.sound result) builder post ↔ ∀ value, result = .ok value → post.returned value builder := by
  cases result with
  | ok value => simp [Build.sound]
  | error fault => simp [Build.sound]

theorem ends_settled (result : Except Failure α) :
    Ends (settled result) builder post ↔ (∀ value, result = .ok value → post.returned value builder) ∧
      ∀ error, result = .error (.refused error) → post.refused error builder := by
  rcases result with ⟨error | fault⟩ | value
  · simp [settled]
  · simp [settled]
  · simp [settled]

end Build

/-! ## Parts of a running program -/

namespace Session

def withBuilder (session : Session) (builder : Builder) : Session := { session with builder := builder }

@[simp] theorem builder_withBuilder (session : Session) (builder : Builder) :
    (session.withBuilder builder).builder = builder := rfl

end Session

namespace Run

variable (session : Session) (post : Post Session α)

@[simp] theorem ends_build (call : Build α) :
    Ends (build call) session post ↔ Ends call session.builder
      ⟨fun value builder ↦ post.returned value (session.withBuilder builder),
        fun error builder ↦ post.refused error (session.withBuilder builder)⟩ := by
  simp only [Ends, build]
  rcases call session.builder with ⟨value, after⟩ | ⟨error | fault, after⟩ <;> rfl

theorem ends_sound (result : Except Fault α) :
    Ends (Run.sound result) session post ↔ ∀ value, result = .ok value → post.returned value session := by
  cases result with
  | ok value => simp [Run.sound]
  | error fault => simp [Run.sound]

theorem ends_evaluate (term : Term) (post : Post Session Value) : Ends (evaluate term) session post ↔
    ∀ value, term.eval session.environment = .ok value → post.returned value session := by
  simp only [evaluate, ends_bind, ends_get, ends_sound]

variable {session} in
theorem evaluate_ends (term : Term) {post : Post Session Value}
    (returned : ∀ value, term.eval session.environment = .ok value → post.returned value session) :
    Ends (evaluate term) session post := (ends_evaluate session term post).2 returned

@[simp] theorem ends_settle (action : Run α) (post : Post Session (Except BuildError α)) :
    Ends (settle action) session post ↔ Ends action session
      ⟨fun value session ↦ post.returned (.ok value) session,
        fun error session ↦ post.returned (.error error) session⟩ := by
  simp only [Ends, settle]
  rcases action session with ⟨value, after⟩ | ⟨error | fault, after⟩ <;> rfl

@[simp] theorem ends_onRefusal (action : Run α) (cleanup : Builder → Builder) :
    Ends (onRefusal action cleanup) session post ↔ Ends action session
      ⟨post.returned, fun error session ↦
        post.refused error (session.withBuilder (cleanup session.builder))⟩ := by
  simp only [Ends, onRefusal]
  rcases action session with ⟨value, after⟩ | ⟨error | fault, after⟩ <;> rfl

/-- A body is recorded apart, and what is around it is put back whatever the body does. -/
theorem ends_capture (levels : Nat) (body : Run Unit) (post : Post Session Body) :
    Ends (capture levels body) session post ↔
      Ends (do body; build Build.flush) (session.withBuilder (session.builder.enterBody levels))
        ⟨fun _ inner ↦ post.returned inner.builder.statements
            (inner.withBuilder (session.builder.leaveBody inner.builder)),
          fun error inner ↦ post.refused error
            (inner.withBuilder (session.builder.leaveBody
              (inner.builder.truncate session.builder.control.height)))⟩ := by
  simp only [capture, ends_bind, ends_get, ends_build, ends_modify, ends_settle, ends_pure, ends_refused]

/-- The inside of a construct, whose frame goes when it is refused. -/
theorem ends_inside (construct : Construct) (body : Run Unit) (post : Post Session Unit) :
    Ends (inside construct body) session post ↔
      Ends body (session.withBuilder (session.builder.enterConstruct construct))
        ⟨fun _ inner ↦ post.returned () (inner.withBuilder (session.builder.leaveConstruct inner.builder)),
          fun error inner ↦ post.refused error
            (inner.withBuilder (session.builder.leaveConstruct
              (inner.builder.truncate (session.builder.control.height - 1))))⟩ := by
  simp only [inside, ends_bind, ends_get, ends_build, ends_modify, ends_settle, ends_refused]

/-- A step leaves the state of its action, with one more entry in the trace. -/
theorem ends_traced (label : String) (loc : Location) (action : Run Answer) (post : Post Session Unit) :
    Ends (traced label loc action) session post ↔ Ends action session
      ⟨fun answer session ↦ post.returned () { session with trace := session.trace ++
          [⟨label, loc, session.builder.diagnostics.length, .ok answer⟩] },
        fun error session ↦ post.refused error { session with trace := session.trace ++
          [⟨label, loc, session.builder.diagnostics.length, .error error⟩] }⟩ := by
  simp only [traced, ends_bind, ends_settle, ends_modify, ends_pure, ends_refused]

@[simp] theorem ends_caught (action : Run Unit) (post : Post Session Unit) :
    Ends (caught action) session post ↔
      Ends action session ⟨fun _ session ↦ post.returned () session, fun _ session ↦ post.returned () session⟩ := by
  simp only [caught, ends_bind, ends_settle, ends_pure]

/-! ## The end of a run -/

/-- What a call returns, with the session that is left. -/
def returned? (action : Run α) (session : Session) : Option (α × Session) :=
  match action session with
  | .ok value later => some (value, later)
  | .error _ _ => none

theorem returned_of_returned? {action : Run α} {session later : Session} {value : α}
    (returned : action.returned? session = some (value, later)) : action session = .ok value later := by
  unfold returned? at returned
  split at returned
  · rename_i ran
    rw [Option.some.injEq, Prod.mk.injEq] at returned
    rw [ran, returned.1, returned.2]
  · simp at returned

/-- The refusal of a call, with the session that is left. -/
def refused? (action : Run α) (session : Session) : Option (BuildError × Session) :=
  match action session with
  | .error (.refused error) later => some (error, later)
  | _ => none

theorem refused_of_refused? {action : Run α} {session later : Session} {error : BuildError}
    (refused : action.refused? session = some (error, later)) :
    action session = .error (.refused error) later := by
  unfold refused? at refused
  split at refused
  · rename_i ran
    rw [Option.some.injEq, Prod.mk.injEq] at refused
    rw [ran, refused.1, refused.2]
  · simp at refused

end Run

end RegisterTransfer
