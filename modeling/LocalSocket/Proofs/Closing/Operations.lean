import LocalSocket.Proofs.Closing
import LocalSocket.Proofs.Ordinary

/-!
# The operations close a channel as they should

Only closing itself, and the operations that close the channel when they fail,
try to do so; all others are spared.
-/

namespace LocalSocket.Conduct

open Protocol Channel

variable {thread : Thread} {s : Conduct} {operation : Channel.Operation}
  {fd : Fd} {α β : Type}

/-! ## Releasing the descriptor -/

/-- The same attempt, as far as it had got. -/
structure Resumes (s s' : Conduct) : Prop where
  operation : s'.operation = s.operation
  stage : s'.stage = s.stage

theorem Resumes.trans {s' s'' : Conduct} (h : s.Resumes s')
    (h' : s'.Resumes s'') : s.Resumes s'' :=
  ⟨h'.operation.trans h.operation, h'.stage.trans h.stage⟩

theorem resumes_fields (calm : s.stage ≠ .waking) (fields : Fields) :
    s.Resumes (s.after .fields fields) :=
  ⟨rfl, by simp [Conduct.after, calm]⟩

theorem resumes_put (fields : Fields) : s.Resumes (s.after (.put fields) ()) :=
  ⟨rfl, rfl⟩

theorem socketClose_meets {post : Except OsError Unit → Conduct → Prop}
    (early : s.stage ≠ .late)
    (hpost : ∀ answer s', s.Resumes s' →
      (∀ error, answer = .error error → s'.failure = some (fd, error)) →
      post answer s') :
    conduct.Meets thread (Socket.close fd) post s := by
  refine meets_retry s.Resumes ⟨rfl, rfl⟩ fun s' resumes => ?_
  refine ⟨by simpa [Allows, resumes.stage] using early, fun answer => ?_⟩
  cases answer with
  | ok value =>
      refine hpost _ _ resumes ?_
      rintro _ ⟨⟩
  | error error =>
      by_cases again : error.isInterrupted = true
      · simpa [again, Conduct.after] using resumes
      · simp only [again, Conduct.after]
        refine hpost _ _ ⟨resumes.operation, resumes.stage⟩ ?_
        rintro _ ⟨⟩
        rfl

/-- An error of releasing the descriptor is known as the failure. -/
def Blames (s : Conduct) (result : Except ChannelError Unit) : Prop :=
  ∀ error, result = .error error →
    ∃ fd cause, error = .close fd cause ∧ s.failure = some (fd, cause)

/-- The descriptor is released, or that is left to others. -/
theorem release_meets {post : Except ChannelError Unit → Conduct → Prop}
    (mayWrite : s.MayWrite)
    (hpost : ∀ result s', s.Resumes s' → s'.Blames result → post result s') :
    conduct.Meets thread release.run post s := by
  have early : s.stage ≠ .late := mayWrite.ne (by decide)
  have calm : s.stage ≠ .waking := mayWrite.ne (by decide)
  refine perform_meets early fun fields => ?_
  have sees := resumes_fields calm fields
  have allows : ∀ state holder, (s.after .fields fields).Allows
      (.put { fields with state := state, holder := holder }) := by
    intro state holder
    refine allows_put ?_ rfl fun direction user => ?_
    · rwa [MayWrite, IsShuttingDown, sees.stage]
    · cases direction <;> exact id
  simp only [meets_run_ite]
  split
  · exact hpost _ _ sees fun _ => nofun
  · split
    · exact ⟨allows _ _, fun _ =>
        hpost _ _ (sees.trans (resumes_put _)) fun _ => nofun⟩
    · refine perform_meets (allows _ _) fun _ => ?_
      have writes := sees.trans (resumes_put { fields with
        state := .killed, holder := none })
      cases fields.holder with
      | none => exact hpost _ _ writes fun _ => nofun
      | some fd =>
          simp only [meets_run_bind, meets_run_lift]
          refine socketClose_meets (by rwa [writes.stage])
            fun answer s' resumes failed => ?_
          have onward := writes.trans resumes
          cases answer with
          | ok => exact hpost _ _ onward fun _ => nofun
          | error error =>
              refine hpost _ _ onward ?_
              rintro _ ⟨⟩
              exact ⟨fd, error, rfl, failed error rfl⟩

/-! ## Closing -/

/-- Signals go on as long as they reach their threads. -/
theorem signalAll_meets {threads : List Thread}
    {post : Bool → Conduct → Prop} (waking : s.stage = .waking)
    (reached : post false s) (failed : post true { s with stage := .past }) :
    conduct.Meets thread (signalAll threads) post s := by
  induction threads with
  | nil => exact reached
  | cons other rest ih =>
      refine ⟨waking, fun answer => ?_⟩
      cases answer with
      | ok => exact ih
      | error error => exact failed

/-- The thread goes on until nobody is left, or until a signal fails. -/
theorem signalUsers_meets {post : Unit → Conduct → Prop}
    (waking : s.stage = .waking)
    (hpost : ∀ s', s'.operation = s.operation → s'.failure = s.failure →
      s'.stage = .past → post () s') :
    conduct.Meets thread signalUsers post s := by
  refine meets_loop (fun s' => s'.stage = .waking ∧
    s'.operation = s.operation ∧ s'.failure = s.failure) nofun
    ⟨waking, rfl, rfl⟩ fun s' ⟨waking', current, failure⟩ => ?_
  rw [meets_bind_eq, meets_holding]
  refine ⟨by simp [Allows, waking'], fun _ => ?_⟩
  rw [meets_bind_eq]
  refine ⟨by simp [Allows, Conduct.after, waking'], fun fields => ?_⟩
  simp only [meets_done, meets_ite]
  split
  · rename_i empty
    have unused : fields.threads = [] := by simpa using empty
    refine ⟨by simp [Allows, Conduct.after, waking', unused], fun _ => ?_⟩
    exact hpost _ current failure (by simp [Conduct.after, waking', unused])
  · rename_i empty
    have used : fields.threads ≠ [] := by simpa using empty
    refine signalAll_meets (by simp [Conduct.after, waking', used])
      ⟨?_, fun _ => ⟨?_, fun _ => ⟨?_, current, failure⟩⟩⟩
      ⟨?_, fun _ => hpost _ current failure ?_⟩
    all_goals simp [Allows, Conduct.after, waking', used]

theorem shutDown_meets {post : Except ChannelError Unit → Conduct → Prop}
    (shutting : s.stage = .shutting)
    (hpost : ∀ result s', s'.operation = s.operation → s'.IsShuttingDown →
      s'.Blames result → post result s') :
    conduct.Meets thread shutDown.run post s := by
  have releases : ∀ s' : Conduct, s'.operation = s.operation →
      s'.IsShuttingDown → conduct.Meets thread release.run post s' := by
    intro s' current down
    refine release_meets (.inr down) fun result s'' resumes blames =>
      hpost result s'' (resumes.operation.trans current) ?_ blames
    rwa [IsShuttingDown, resumes.stage]
  refine perform_meets (by simp [Allows, shutting]) fun fields => ?_
  have seen : (s.after .fields fields).stage = .shutting := by
    simp [Conduct.after, shutting]
  refine perform_meets (allows_put (.inr (.inl seen)) rfl ?_) fun _ => ?_
  · intro direction user
    cases direction <;> exact id
  · have down : (((s.after .fields fields).after (.put { fields with
        inputOpen := false, outputOpen := false }) ())).stage = .shutting :=
      seen
    split
    · split
      · exact releases _ rfl (.inl down)
      · rename_i used
        rw [meets_run_bind, meets_run_lift]
        refine ⟨⟨down, _, rfl, fun unused => used ?_⟩, fun answer => ?_⟩
        · exact List.isEmpty_iff.mpr unused
        exact releases _ rfl (.inr rfl)
    · exact releases _ rfl (.inl down)

/-- A thread that has tried to close the channel has found it closed, or is done
with closing it. -/
theorem close_meets {post : Except ChannelError Unit → Conduct → Prop}
    (untried : s.stage = .untried)
    (late : ∀ s', s'.operation = s.operation → s'.stage = .late →
      post (.ok ()) s')
    (past : ∀ result s', s'.operation = s.operation → s'.stage = .past →
      s'.Blames result → post result s') :
    conduct.Meets thread Channel.close.run post s := by
  rw [Channel.close, ExceptT.run_mk, meets_bind_eq]
  refine ⟨untried, fun first => ?_⟩
  cases first with
  | false => exact late _ rfl rfl
  | true =>
      show conduct.Meets thread
        ((Operating.holding .state shutDown).run >>= fun result =>
          signalUsers >>= fun _ => pure result) _ _
      rw [meets_bind_eq, meets_run_holding]
      refine ⟨by simp [Allows, Conduct.after], fun _ => ?_⟩
      refine shutDown_meets rfl fun result s' current down blames => ?_
      refine ⟨?_, fun _ => ?_⟩
      · obtain down | down := down <;> simp [Allows, down]
      · rw [meets_bind_eq]
        refine signalUsers_meets (if_pos down) fun s'' current' failure past' =>
          past result s'' (current'.trans current) past' ?_
        rwa [Blames, failure]

/-! ## Coming and going -/

/-- In an operation in which it may be blocked, a thread records itself. -/
theorem enter_abstains (direction : Direction)
    (blocking : operation.isAloof = false) :
    Abstains thread operation (enter direction).run := by
  refine maintains_run_bind (abstains_look rfl) fun other => ?_
  refine abstains_fields fun fields s h => ?_
  refine ⟨⟨.inl h.untried, fields, h.known,
    .inl ⟨h.untried, operation, h.current, blocking⟩⟩, fun _ => ?_⟩
  exact ⟨h.current, h.untried⟩

theorem Resumes.isUntried {s' : Conduct} (resumes : s.Resumes s')
    (h : s.IsUntried operation) : s'.IsUntried operation :=
  ⟨resumes.operation.trans h.current, resumes.stage.trans h.untried⟩

theorem release_abstains : Abstains thread operation release.run :=
  fun _ h => release_meets (.inl h.untried)
    fun _ _ resumes _ => resumes.isUntried h

theorem leave_abstains (direction : Direction) (completed : Bool) :
    Abstains thread operation (leave direction completed).run := by
  refine maintains_run_bind (abstains_holding ?_) fun _ => ?_
  · refine abstains_fields fun fields s h => ?_
    refine put_meets h (fun _ _ => Fields.slot_of_setSlot_none) fun s' h' => ?_
    rw [meets_run_ite]
    split
    · exact maintains_quietly release_abstains h'.toIsUntried
    · exact h'.toIsUntried
  · cases completed with
    | true => exact maintains_pure _
    | false => exact ensureStillOpen_maintains fun _ h => h.untried

theorem ensureOpen_abstains : Abstains thread operation ensureOpen.run :=
  ensureOpen_maintains fun _ h => h.untried

theorem register_abstains : Abstains thread operation register.run := by
  refine abstains_holding (abstains_fields fun fields s h => ?_)
  refine knows_bind h ensureOpen_knows fun _ s₁ h₁ => ?_
  refine knows_bind h₁ (maintains_lift (knows_perform rfl rfl))
    fun blocking s₂ h₂ => ?_
  cases blocking with
  | true => exact h₂.toIsUntried
  | false =>
      refine put_abstains h₂ fun direction user => ?_
      cases direction <;> exact id

/-- An error of giving up a registration is one of releasing the descriptor. -/
theorem deregister_meets (h : s.IsUntried operation) :
    conduct.Meets thread deregister.run
      (fun result s' => s'.IsUntried operation ∧ s'.Blames result) s := by
  rw [deregister, meets_run_holding]
  refine ⟨allows_of_isCalm h.untried rfl, fun _ => ?_⟩
  refine fields_meets (h.after rfl _) fun fields s₁ h₁ => ?_
  refine put_meets h₁ (fun direction user => ?_) fun s₂ h₂ => ?_
  · cases direction <;> exact id
  have leaves : ∀ result s₃, s₂.Resumes s₃ → s₃.Blames result →
      conduct.act thread s₃ (.release .state) fun _ s' =>
        s'.IsUntried operation ∧ s'.Blames result := by
    intro result s₃ resumes blames
    have untried := resumes.isUntried h₂.toIsUntried
    exact ⟨allows_of_isCalm untried.untried rfl,
      fun _ => ⟨untried.after rfl _, blames⟩⟩
  rw [meets_run_ite]
  split
  · exact release_meets (.inl h₂.untried) leaves
  · exact leaves _ _ ⟨rfl, rfl⟩ fun _ => nofun

theorem deregister_abstains : Abstains thread operation deregister.run :=
  fun _ h => (deregister_meets h).mono fun _ _ h => h.1

/-! ## Operations that do not close the channel -/

theorem encode_maintains {I : Conduct → Prop} (address : Address) :
    conduct.Maintains thread I (encode address).run := by
  rw [encode]
  split <;> exact maintains_pure _

theorem abstains_onSocket {call : Call} (calm : isCalm (.call call) = true) :
    Abstains thread operation (Operating.onSocket (Program.call call)).run :=
  maintains_onSocket (abstains_perform calm)

theorem configureBlocking_abstains (blocking : Bool) :
    Abstains thread operation (configureBlocking fd blocking).run := by
  refine abstains_holding (abstains_holding (abstains_holding ?_))
  refine maintains_run_bind ensureOpen_abstains fun _ => ?_
  refine maintains_run_bind (abstains_look rfl) fun isBlocking => ?_
  split
  · exact maintains_pure _
  · refine maintains_run_bind (abstains_look rfl) fun fields => ?_
    refine maintains_run_ite (maintains_pure _) ?_
    exact maintains_run_bind (abstains_onSocket rfl) fun _ => abstains_look rfl

theorem bindLocked_abstains (address : Option Address) :
    Abstains thread operation (bindLocked fd address).run := by
  refine maintains_run_bind ensureOpen_abstains fun _ => ?_
  refine abstains_fields fun fields s h => ?_
  simp only [meets_run_ite]
  split
  · exact h.toIsUntried
  · split
    · exact h.toIsUntried
    · refine knows_bind h (encode_maintains _) fun record s₁ h₁ => ?_
      refine knows_bind h₁ (maintains_lift (knows_perform rfl rfl))
        fun bound s₂ h₂ => ?_
      cases bound with
      | error error => exact h₂.toIsUntried
      | ok =>
          refine knows_bind h₂ (maintains_lift (knows_perform rfl rfl))
            fun named s₃ h₃ => ?_
          cases named with
          | error error => exact h₃.toIsUntried
          | ok record =>
              refine put_meets h₃ (fun direction user => ?_)
                fun _ h₄ => h₄.toIsUntried
              cases direction <;> exact id

theorem markConnected_abstains (remote : Option Address) :
    Abstains thread operation (markConnected fd remote).run := by
  refine abstains_holding (abstains_fields fun fields s h => ?_)
  refine knows_bind h ensureStillOpen_knows fun _ s₁ h₁ => ?_
  refine put_meets h₁ (fun direction user => ?_) fun s₂ h₂ => ?_
  · cases direction <;> exact id
  · rw [meets_run_ite]
    split
    · refine knows_bind h₂ (maintains_lift (knows_perform rfl rfl))
        fun named s₃ h₃ => ?_
      cases named with
      | error error => exact h₃.toIsUntried
      | ok record =>
          refine put_abstains h₃ fun direction user => ?_
          cases direction <;> exact id
    · exact h₂.toIsUntried

theorem socketConnect_abstains (record : Record) :
    Abstains thread operation (Socket.connect fd record) := by
  refine maintains_bind (abstains_perform rfl) fun answer => ?_
  split
  · exact maintains_pure _
  · split
    · exact maintains_pure _
    · split <;> exact maintains_pure _
  · exact maintains_pure _

theorem socketPoll_abstains (events : Events) (timeout : Int) :
    Abstains thread operation (Socket.poll fd events timeout) := by
  refine maintains_bind (abstains_perform rfl) fun answer => ?_
  cases answer <;> exact maintains_pure _

theorem attempt_abstains (record : Record) :
    Abstains thread operation (attempt fd record) := by
  refine maintains_loop nofun (maintains_bind (socketConnect_abstains record)
    fun result => ?_) maintains_pure
  split
  · exact maintains_bind (abstains_perform rfl) fun _ => maintains_pure _
  · exact maintains_pure _

theorem awaitConnection_abstains (record : Record) (blocking : Bool) :
    Abstains thread operation (awaitConnection fd record blocking) := by
  refine maintains_loop nofun (maintains_bind (socketConnect_abstains record)
    fun result => ?_) maintains_pure
  rcases result with error | _ | _ | _
  · dsimp only
    split <;> exact maintains_pure _
  · exact maintains_pure _
  · refine maintains_bind (abstains_perform rfl) fun isOpen => ?_
    split
    · refine maintains_bind (socketPoll_abstains _ _) fun polled => ?_
      cases polled with
      | error error => exact maintains_pure _
      | ok =>
          exact maintains_bind (abstains_perform rfl) fun _ => maintains_pure _
    · exact maintains_pure _
  · exact maintains_bind (abstains_perform rfl) fun _ => maintains_pure _

theorem beginConnect_abstains (blocking : operation.isAloof = false) :
    Abstains thread operation beginConnect.run := by
  refine abstains_holding (maintains_run_bind ensureOpen_abstains fun _ => ?_)
  refine maintains_run_bind (abstains_look rfl) fun fields => ?_
  refine maintains_run_ite (maintains_pure _) ?_
  exact maintains_run_ite (maintains_pure _) (enter_abstains _ blocking)

theorem beginFinish_abstains (blocking : operation.isAloof = false) :
    Abstains thread operation beginFinish.run := by
  refine abstains_holding (maintains_run_bind ensureOpen_abstains fun _ => ?_)
  refine maintains_run_bind (abstains_look rfl) fun fields => ?_
  refine maintains_run_ite (maintains_pure _) ?_
  refine maintains_run_ite ?_ (maintains_pure _)
  cases fields.remoteAddress with
  | none => exact maintains_pure _
  | some address =>
      refine maintains_run_bind (encode_maintains _) fun record => ?_
      exact maintains_run_bind (enter_abstains _ blocking)
        fun _ => maintains_pure _

theorem shutdown_abstains (direction : Direction) :
    Abstains thread operation (Channel.shutdown fd direction).run := by
  refine abstains_holding (maintains_run_bind ensureOpen_abstains fun _ => ?_)
  refine abstains_fields fun fields s h => ?_
  simp only [meets_run_ite]
  split
  · exact h.toIsUntried
  · split
    · refine knows_bind h (maintains_onSocket (knows_perform rfl rfl))
        fun _ s₁ h₁ => ?_
      refine put_abstains h₁ fun other user => ?_
      cases direction <;> cases other <;> exact id
    · exact h.toIsUntried

theorem remoteAddress_abstains :
    Abstains thread operation (Channel.remoteAddress fd).run := by
  refine abstains_holding (maintains_run_bind ensureOpen_abstains fun _ => ?_)
  refine abstains_fields fun fields s h => ?_
  rw [meets_run_ite]
  split
  · refine knows_bind h (maintains_onSocket (knows_perform rfl rfl))
      fun record s₁ h₁ => ?_
    refine put_meets h₁ (fun direction user => ?_) fun _ h₂ => h₂.toIsUntried
    cases direction <;> exact id
  · exact h.toIsUntried

theorem isCalm_of_isOrdinary {action : Action} (h : action.isOrdinary = true) :
    isCalm action = true := by
  cases action with
  | call call => cases call <;> first | rfl | cases h
  | put | closeOnce => cases h
  | _ => rfl

theorem watches (thread : Thread) (operation : Channel.Operation) :
    conduct.Watches thread (IsUntried operation) where
  perform _ h := abstains_perform (isCalm_of_isOrdinary h)

theorem hosts (thread : Thread) (blocking : operation.isAloof = false) :
    conduct.Hosts thread (IsUntried operation) where
  toWatches := watches thread operation
  enter direction := enter_abstains direction blocking
  leave := leave_abstains

theorem makeChanges_abstains (changes : List Change) :
    Abstains thread operation (makeChanges fd changes).run := by
  induction changes with
  | nil => exact maintains_pure _
  | cons change rest ih =>
      refine maintains_run_bind ?_ fun _ => ih
      cases change with
      | set setting => exact (watches thread operation).setOption setting
      | nonBlocking => exact configureBlocking_abstains false

/-! ## Operations that may -/

/-- A thread that has tried to close the channel has failed for another
reason. -/
def Ends (operation : Channel.Operation) (result : Except ChannelError α)
    (s : Conduct) : Prop :=
  s.operation = some operation ∧ (s.stage = .untried ∨
    (s.stage = .late ∨ s.stage = .past) ∧
      ∃ error, result = .error (.socket error))

abbrev Settles (thread : Thread) (operation : Channel.Operation)
    (program : Program (Except ChannelError α)) : Prop :=
  ∀ ⦃s : Conduct⦄, s.IsUntried operation →
    conduct.Meets thread program (Ends operation) s

theorem IsUntried.ends (h : s.IsUntried operation)
    (result : Except ChannelError α) : s.Ends operation result :=
  ⟨h.current, .inl h.untried⟩

theorem settles_of_abstains {program : Program (Except ChannelError α)}
    (h : Abstains thread operation program) :
    Settles thread operation program :=
  fun _ untried => h.meets untried fun _ _ untried' => untried'.ends _

theorem settles_bind {program : Operating α} {f : α → Operating β}
    (h : Abstains thread operation program.run)
    (hf : ∀ value, Settles thread operation (f value).run) :
    Settles thread operation (program >>= f).run := by
  intro s untried
  rw [meets_run_bind]
  refine h.meets untried fun result s' untried' => ?_
  cases result with
  | error error => exact untried'.ends _
  | ok value => exact hf value untried'

theorem settles_holding {lock : Lock} {body : Operating α}
    (other : operation ≠ .close) (low : lock ≠ .state)
    (h : Settles thread operation body.run) :
    Settles thread operation (Operating.holding lock body).run := by
  intro s untried
  rw [meets_run_holding]
  refine ⟨allows_of_isCalm untried.untried rfl, fun _ => ?_⟩
  refine (h (untried.after rfl _)).mono fun result s' ends => ?_
  obtain ⟨current, stage⟩ := ends
  have calm : s'.stage.isBusy = false := by
    obtain stage | ⟨stage | stage, _⟩ := stage <;> simp [stage, Stage.isBusy]
  cases lock with
  | state => exact absurd rfl low
  | read | write =>
      refine ⟨⟨calm, fun _ => ?_⟩, fun _ => ⟨current, stage⟩⟩
      rw [current]
      exact fun h => other (Option.some.inj h)

theorem closeAfter_settles (error : OsError) :
    Settles thread operation
      (closeAfter (.socket error) : Operating α).run := by
  intro s untried
  rw [closeAfter, meets_run_bind, meets_run_quietly]
  exact close_meets untried.untried
    (fun _ current late =>
      ⟨current.trans untried.current, .inr ⟨.inl late, error, rfl⟩⟩)
    (fun _ _ current past _ =>
      ⟨current.trans untried.current, .inr ⟨.inr past, error, rfl⟩⟩)

theorem bind_settles (address : Option Address) :
    Settles thread (.bind address) (Channel.bind fd address).run := by
  refine settles_holding nofun nofun (settles_holding nofun nofun ?_)
  refine settles_bind (abstains_holding (bindLocked_abstains address)) fun
    | none => settles_of_abstains (maintains_pure _)
    | some error => closeAfter_settles error

theorem connect_settles (address : Address) :
    Settles thread (.connect address) (Channel.connect fd address).run := by
  refine settles_bind (encode_maintains address) fun record => ?_
  refine settles_holding nofun nofun (settles_holding nofun nofun ?_)
  refine settles_bind (beginConnect_abstains rfl) fun _ => ?_
  refine settles_bind (maintains_lift (attempt_abstains record))
    fun result => ?_
  refine settles_bind (leave_abstains _ _) fun _ => ?_
  rcases result with error | _ | _ | _
  · exact closeAfter_settles error
  · exact settles_of_abstains (maintains_run_bind (markConnected_abstains _)
      fun _ => maintains_pure _)
  · refine settles_of_abstains (maintains_run_bind (abstains_holding
      (abstains_fields fun fields s h => ?_)) fun _ => maintains_pure _)
    refine knows_bind h ensureStillOpen_knows fun _ s₁ h₁ => ?_
    refine put_abstains h₁ fun direction user => ?_
    cases direction <;> exact id
  · exact settles_of_abstains (maintains_pure _)

theorem finishConnect_settles :
    Settles thread .finishConnect (Channel.finishConnect fd).run := by
  refine settles_holding nofun nofun (settles_holding nofun nofun ?_)
  refine settles_bind (beginFinish_abstains rfl) fun
    | none => settles_of_abstains (maintains_pure _)
    | some record => ?_
  refine settles_bind (abstains_look rfl) fun blocking => ?_
  refine settles_bind
    (maintains_lift (awaitConnection_abstains record blocking))
    fun result => ?_
  refine settles_bind (leave_abstains _ _) fun _ => ?_
  rcases result with error | _ | _
  · exact closeAfter_settles error
  · exact settles_of_abstains (maintains_pure _)
  · exact settles_of_abstains (maintains_run_bind (markConnected_abstains _)
      fun _ => maintains_pure _)

/-! ## All operations -/

theorem IsUntried.closes (h : s.IsUntried operation) (reply : Reply)
    (blames : operation = .close ∨ operation = .deregister → ∀ fd error,
      reply.error? = some (.close fd error) → s.failure = some (fd, error))
    (other : operation ≠ .close) : conduct.closes operation reply s :=
  ⟨by simp [h.untried, Stage.isBusy], by simp [h.untried],
    fun own fd error failed => ⟨blames own fd error failed,
      fun h => absurd h other⟩⟩

theorem abstains_closes {program : Program Reply}
    (h : Abstains thread operation program) (other : operation ≠ .close)
    (other' : operation ≠ .deregister) (untried : s.IsUntried operation) :
    conduct.Meets thread program (conduct.closes operation) s :=
  h.meets untried fun reply _ untried' =>
    untried'.closes reply (fun own => (own.elim other other').elim) other

/-- A thread that has tried to close the channel tells what it has failed
with. -/
theorem settles_reply {make : α → Reply} {program : Operating α}
    (h : Settles thread operation program.run)
    (untried : s.IsUntried operation) :
    conduct.Meets thread (reply make program) (fun reply s' =>
      s'.stage = .untried ∨ (s'.stage = .late ∨ s'.stage = .past) ∧
        ∃ error, reply = .failed (.socket error)) s := by
  rw [meets_reply]
  refine (h untried).mono fun result s' ends => ?_
  obtain ⟨_, untried' | ⟨tried, error, rfl⟩⟩ := ends
  · cases result <;> exact .inl untried'
  · exact .inr ⟨tried, error, rfl⟩

theorem settles_closes {make : α → Reply} {program : Operating α}
    (h : Settles thread operation program.run) (other : operation ≠ .close)
    (other' : operation ≠ .deregister) (untried : s.IsUntried operation) :
    conduct.Meets thread (reply make program) (conduct.closes operation) s := by
  refine (settles_reply h untried).mono fun reply s' ends => ?_
  have calm : s'.stage.isBusy = false := by
    obtain untried' | ⟨tried | tried, _⟩ := ends <;>
      simp [*, Stage.isBusy]
  refine ⟨calm, fun late => ⟨fun h => absurd h other, fun _ => ?_⟩,
    fun own => (own.elim other other').elim⟩
  obtain untried' | ⟨_, failed⟩ := ends
  · cases late.symm.trans untried'
  · exact failed

theorem Blames.failed {error : ChannelError} {cause : OsError}
    (blames : s.Blames (.error error))
    (failed : (Reply.failed error).error? = some (.close fd cause)) :
    s.failure = some (fd, cause) := by
  obtain ⟨_, _, rfl, failure⟩ := blames error rfl
  cases failed
  exact failure

theorem close_closes (untried : s.stage = .untried) :
    conduct.Meets thread (Operation.close.program fd) (conduct.closes .close)
      s := by
  show conduct.Meets thread (reply _ Channel.close) _ _
  rw [meets_reply]
  refine close_meets untried (fun s' _ late => ?_)
    fun result s' _ past blames => ?_
  · exact ⟨by simp [late, Stage.isBusy], fun _ => ⟨fun _ => rfl,
      fun h => absurd rfl h⟩, fun _ => nofun⟩
  · have calm : s'.stage.isBusy = false := by simp [past, Stage.isBusy]
    have early : s'.stage ≠ .late := by simp [past]
    cases result with
    | ok => exact ⟨calm, fun h => absurd h early, fun _ => nofun⟩
    | error error =>
        exact ⟨calm, fun h => absurd h early, fun _ fd cause failed =>
          ⟨blames.failed failed, fun _ => past⟩⟩

theorem deregister_closes (h : s.IsUntried .deregister) :
    conduct.Meets thread (Operation.deregister.program fd)
      (conduct.closes .deregister) s := by
  show conduct.Meets thread (reply _ Channel.deregister) _ _
  rw [meets_reply]
  refine (deregister_meets h).mono fun result s' ⟨h', blames⟩ => ?_
  cases result with
  | ok => exact h'.closes _ (fun _ => nofun) nofun
  | error error =>
      exact h'.closes _ (fun _ fd cause failed => blames.failed failed) nofun

/-- Closing itself, and the operations that close the channel when they
fail. -/
def mayClose : Channel.Operation → Bool
  | .close | .connect _ | .finishConnect | .bind _ => true
  | _ => false

theorem program_abstains (h : mayClose operation = false) :
    Abstains thread operation (operation.program fd) := by
  cases operation with
  | close | connect | finishConnect | bind => cases h
  | configureBlocking blocking =>
      exact maintains_reply (configureBlocking_abstains blocking)
  | shutdown direction => exact maintains_reply (shutdown_abstains direction)
  | apply settings => exact maintains_reply (makeChanges_abstains _)
  | register => exact maintains_reply register_abstains
  | deregister => exact maintains_reply deregister_abstains
  | dropRegistration =>
      exact maintains_reply (maintains_quietly deregister_abstains)
  | remoteAddress => exact maintains_reply remoteAddress_abstains
  | read | write | readMany | writeMany | receive | send | poll =>
      exact (hosts thread rfl).program rfl
  | _ => exact (watches thread _).program rfl rfl

theorem obeyed (fd : Fd) : conduct.Obeyed fd := by
  intro thread operation _
  have untried : IsUntried operation (conduct.opens operation) := ⟨rfl, rfl⟩
  cases operation with
  | close => exact close_closes rfl
  | deregister => exact deregister_closes untried
  | connect address =>
      exact settles_closes (connect_settles address) nofun nofun untried
  | finishConnect =>
      exact settles_closes finishConnect_settles nofun nofun untried
  | bind address =>
      exact settles_closes (bind_settles address) nofun nofun untried
  | _ => exact abstains_closes (program_abstains rfl) nofun nofun untried

end LocalSocket.Conduct
