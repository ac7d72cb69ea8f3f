import LocalSocket.Proofs.Closing
import LocalSocket.Proofs.Refusal.Operations

/-!
# Which operations tell that a release has failed

Releasing the descriptor may be up to any operation that uses it, but only
closing a channel and giving up a registration report that it has failed.  That
can be seen from the programs alone, whatever they are answered.
-/

namespace LocalSocket

/-- Whatever the program is answered, it gives a value as `post` says. -/
def Program.Gives {α : Type} : Program α → (α → Prop) → Prop
  | .done value, post => post value
  | .act _ next, post => ∀ result, (next result).Gives post
  | .loop body next, post =>
      body.Gives fun result => ∀ value, result = some value →
        (next value).Gives post

namespace Program

variable {α β : Type}

theorem Gives.mono {program : Program α} {post post' : α → Prop}
    (h : program.Gives post) (himp : ∀ value, post value → post' value) :
    program.Gives post' := by
  induction program with
  | done value => exact himp value h
  | act action next ih => exact fun result => ih result (h result) himp
  | loop body next ihBody ihNext =>
      rw [Gives] at h ⊢
      exact ihBody h fun result gives value hvalue =>
        ihNext value (gives value hvalue) himp

theorem gives_true (program : Program α) : program.Gives fun _ => True := by
  induction program with
  | done => trivial
  | act action next ih => exact ih
  | loop body next ihBody ihNext =>
      rw [Gives]
      exact ihBody.mono fun _ _ value _ => ihNext value

theorem gives_bind (program : Program α) (f : α → Program β) (post : β → Prop) :
    (program.bind f).Gives post =
      program.Gives fun value => (f value).Gives post := by
  induction program with
  | done value => rfl
  | act action next ih => simp only [Program.bind, Gives, ih]
  | loop body next _ ihNext => simp only [Program.bind, Gives, ihNext]

theorem gives_bind_eq (program : Program α) (f : α → Program β)
    (post : β → Prop) : (program >>= f).Gives post =
      program.Gives fun value => (f value).Gives post :=
  gives_bind program f post

theorem gives_holding {lock : Lock} {program : Program α} {post : α → Prop}
    (h : program.Gives post) : (Program.holding lock program).Gives post := by
  rw [Program.holding, gives_bind_eq]
  intro _
  rw [Gives, gives_bind_eq]
  exact h.mono fun _ hvalue _ => hvalue

theorem Gives.unroll {body : Program (Option β)} {next : β → Program α}
    {post : α → Prop} (h : (Program.loop body next).Gives post) :
    (Program.unroll body next).Gives post := by
  rw [Program.unroll, gives_bind]
  have hbody := h
  rw [Gives] at hbody
  refine hbody.mono fun result hresult => ?_
  cases result with
  | none => exact h
  | some value => exact hresult value rfl

end Program

/-- A program that keeps to a protocol gives what it gives in any case. -/
theorem Protocol.Meets.gives {σ α : Type} {P : Protocol σ} {thread : Thread}
    {program : Program α} {post : α → σ → Prop} {p : α → Prop} {s : σ}
    (h : P.Meets thread program post s) (gives : program.Gives p) :
    P.Meets thread program (fun value s' => post value s' ∧ p value) s := by
  induction program generalizing s with
  | done value => exact ⟨h, gives⟩
  | act action next ih =>
      exact P.mono (fun result s' h' => ih result h' (gives result)) h
  | loop body next ihBody ihNext =>
      obtain ⟨hguard, invariant, hs, hbody⟩ := h
      refine ⟨hguard, invariant, hs, fun s' hs' => ?_⟩
      refine (ihBody (hbody s' hs') gives).mono fun value s'' hvalue => ?_
      cases value with
      | none => exact hvalue.1
      | some value => exact ihNext value hvalue.1 (hvalue.2 value rfl)

def ChannelError.isOfRelease : ChannelError → Bool
  | close .. => true
  | _ => false

theorem ChannelError.isOfRelease_of_isRefusal {error : ChannelError}
    (h : error.isRefusal = true) : error.isOfRelease = false := by
  cases error with
  | close => cases h
  | _ => rfl

namespace Operating

variable {α β : Type}

/-- The operation does not fail because the descriptor could not be
released. -/
def IsMild (operation : Operating α) : Prop :=
  operation.run.Gives fun result =>
    ∀ error, result = .error error → error.isOfRelease = false

theorem mild_pure (value : α) : IsMild (pure value : Operating α) :=
  fun _ => nofun

theorem mild_throw {error : ChannelError} (h : error.isOfRelease = false) :
    IsMild (throw error : Operating α) := by
  rintro _ ⟨⟩
  exact h

theorem mild_lift (program : Program α) : IsMild (ExceptT.lift program) := by
  refine (Program.gives_bind _ _ _).mpr ((Program.gives_true program).mono ?_)
  exact fun _ _ _ => nofun

theorem mild_perform (action : Action) : IsMild (perform action) :=
  mild_lift _

theorem mild_bind {operation : Operating α} {f : α → Operating β}
    (h : IsMild operation) (hf : ∀ value, IsMild (f value)) :
    IsMild (operation >>= f) := by
  refine (Program.gives_bind _ _ _).mpr (h.mono fun result mild => ?_)
  cases result with
  | ok value => exact hf value
  | error error =>
      rintro _ ⟨⟩
      exact mild error rfl

theorem mild_ite {condition : Prop} [Decidable condition]
    {operation other : Operating α} (h : IsMild operation)
    (hother : IsMild other) :
    IsMild (if condition then operation else other) := by
  split
  · exact h
  · exact hother

theorem mild_holding {lock : Lock} {body : Operating α} (h : IsMild body) :
    IsMild (Operating.holding lock body) :=
  Program.gives_holding h

theorem mild_onSocket (program : Program (Except OsError α)) :
    IsMild (onSocket program) := by
  refine (Program.gives_bind _ _ _).mpr ((Program.gives_true program).mono ?_)
  rintro (error | value) -
  · rintro _ ⟨⟩
    rfl
  · exact fun _ => nofun

theorem mild_quietly (operation : Operating Unit) :
    IsMild (quietly operation) :=
  mild_lift _

theorem mild_returning {result : Except ChannelError α}
    (h : ∀ error, result = .error error → error.isOfRelease = false) :
    IsMild (returning result) := h

end Operating

namespace Channel

open Operating

variable {fd : Fd} {α β : Type}

theorem ensureOpen_mild : IsMild ensureOpen :=
  mild_bind (mild_perform _) fun isOpen => by
    cases isOpen
    · exact mild_throw rfl
    · exact mild_pure _

theorem ensureStillOpen_mild : IsMild ensureStillOpen :=
  mild_bind (mild_perform _) fun isOpen => by
    cases isOpen
    · exact mild_throw rfl
    · exact mild_pure _

theorem enter_mild (direction : Direction) : IsMild (enter direction) :=
  mild_bind (mild_perform _) fun _ => mild_bind (mild_perform _)
    fun _ => mild_perform _

/-- The last user that is not a registration keeps a failure to itself. -/
theorem leave_mild (direction : Direction) (completed : Bool) :
    IsMild (leave direction completed) := by
  refine mild_bind (mild_holding (mild_bind (mild_perform _) fun _ =>
    mild_bind (mild_perform _) fun _ =>
      mild_ite (mild_quietly _) (mild_pure _))) fun _ => ?_
  cases completed with
  | true => exact mild_pure _
  | false => exact ensureStillOpen_mild

theorem closeAfter_mild (error : OsError) :
    IsMild (closeAfter (.socket error) : Operating α) :=
  mild_bind (mild_quietly _) fun _ => mild_throw rfl

theorem encode_mild (address : Address) : IsMild (encode address) := by
  rw [encode]
  split
  · exact mild_pure _
  · exact mild_throw rfl

theorem register_mild : IsMild register := by
  refine mild_holding (mild_bind (mild_perform _) fun _ =>
    mild_bind ensureOpen_mild fun _ => mild_bind (mild_perform _)
      fun blocking => ?_)
  cases blocking
  · exact mild_perform _
  · exact mild_throw rfl

theorem configureBlocking_mild (blocking : Bool) :
    IsMild (configureBlocking fd blocking) := by
  refine mild_holding (mild_holding (mild_holding ?_))
  refine mild_bind ensureOpen_mild fun _ => mild_bind (mild_perform _)
    fun isBlocking => ?_
  split
  · exact mild_pure _
  · refine mild_bind (mild_perform _) fun fields => ?_
    refine mild_ite (mild_throw rfl) ?_
    exact mild_bind (mild_onSocket _) fun _ => mild_perform _

theorem bindLocked_mild (address : Option Address) :
    IsMild (bindLocked fd address) := by
  refine mild_bind ensureOpen_mild fun _ => mild_bind (mild_perform _)
    fun fields => mild_ite (mild_throw rfl) (mild_ite (mild_throw rfl) ?_)
  refine mild_bind (encode_mild _) fun record => mild_bind (mild_lift _)
    fun bound => ?_
  cases bound with
  | error error => exact mild_pure _
  | ok =>
      refine mild_bind (mild_lift _) fun named => ?_
      cases named with
      | error error => exact mild_pure _
      | ok => exact mild_bind (mild_perform _) fun _ => mild_pure _

theorem bind_mild (address : Option Address) :
    IsMild (Channel.bind fd address) :=
  mild_holding (mild_holding (mild_bind (mild_holding (bindLocked_mild address))
    fun
    | none => mild_pure _
    | some error => closeAfter_mild error))

theorem markConnected_mild (remote : Option Address) :
    IsMild (markConnected fd remote) := by
  refine mild_holding (mild_bind (mild_perform _) fun fields =>
    mild_bind ensureStillOpen_mild fun _ => mild_bind (mild_perform _)
      fun _ => mild_ite (mild_bind (mild_lift _) fun named => ?_)
        (mild_pure _))
  cases named with
  | error error => exact mild_pure _
  | ok => exact mild_perform _

theorem beginConnect_mild : IsMild beginConnect :=
  mild_holding (mild_bind ensureOpen_mild fun _ => mild_bind (mild_perform _)
    fun _ => mild_ite (mild_throw rfl)
      (mild_ite (mild_throw rfl) (enter_mild _)))

theorem connect_mild (address : Address) :
    IsMild (Channel.connect fd address) := by
  refine mild_bind (encode_mild _) fun record => mild_holding (mild_holding
    (mild_bind beginConnect_mild fun _ => mild_bind (mild_lift _)
      fun result => mild_bind (leave_mild _ _) fun _ => ?_))
  rcases result with error | _ | _ | _
  · exact closeAfter_mild error
  · exact mild_bind (markConnected_mild _) fun _ => mild_pure _
  · refine mild_bind (mild_holding ?_) fun _ => mild_pure _
    exact mild_bind (mild_perform _) fun _ =>
      mild_bind ensureStillOpen_mild fun _ => mild_perform _
  · exact mild_throw rfl

theorem beginFinish_mild : IsMild beginFinish := by
  refine mild_holding (mild_bind ensureOpen_mild fun _ => mild_bind
    (mild_perform _) fun fields => mild_ite (mild_pure _)
      (mild_ite ?_ (mild_throw rfl)))
  cases fields.remoteAddress with
  | none => exact mild_throw rfl
  | some address =>
      exact mild_bind (encode_mild _) fun _ => mild_bind (enter_mild _)
        fun _ => mild_pure _

theorem finishConnect_mild : IsMild (Channel.finishConnect fd) := by
  refine mild_holding (mild_holding (mild_bind beginFinish_mild fun
    | none => mild_pure _
    | some record => mild_bind (mild_perform _) fun blocking => mild_bind
        (mild_lift _) fun result => mild_bind (leave_mild _ _) fun _ => ?_))
  rcases result with error | _ | _
  · exact closeAfter_mild error
  · exact mild_pure _
  · exact mild_bind (markConnected_mild _) fun _ => mild_pure _

theorem shutdown_mild (direction : Direction) :
    IsMild (Channel.shutdown fd direction) :=
  mild_holding (mild_bind ensureOpen_mild fun _ => mild_bind (mild_perform _)
    fun _ => mild_ite (mild_throw rfl) (mild_ite
      (mild_bind (mild_onSocket _) fun _ => mild_perform _) (mild_pure _)))

theorem poll_mild (interest : Interest) (timeout : Option Duration) :
    IsMild (Channel.poll fd interest timeout) := by
  refine mild_bind (mild_perform _) fun _ => mild_ite (mild_throw rfl)
    (mild_holding (mild_bind (mild_holding (mild_bind ensureOpen_mild
      fun _ => enter_mild _)) fun _ => mild_bind (mild_lift _) fun result =>
        mild_bind (leave_mild _ _) fun _ => mild_returning ?_))
  cases result with
  | ok => exact fun _ => nofun
  | error error =>
      rintro _ ⟨⟩
      rfl

/-! ## Options and addresses -/

theorem checkSupported_mild (option : OptionName) :
    IsMild (checkSupported option) :=
  mild_ite (mild_pure _) (mild_throw rfl)

theorem checkRange_isRefusal {option : OptionName} {high value : Int}
    {fault : ValueFault} {error : ChannelError}
    (h : option.checkRange high fault value = .error error) :
    error.isRefusal = true := by
  unfold OptionName.checkRange at h
  split at h <;> cases h
  rfl

theorem normalise_isRefusal {option : OptionName} {value : Int}
    {error : ChannelError} (h : option.normalise value = .error error) :
    error.isRefusal = true := by
  cases option <;> first | exact checkRange_isRefusal h | cases h

theorem resolve_isRefusal {option : OptionName} {scope : Scope}
    {error : ChannelError} (h : option.resolve scope = .error error) :
    error.isRefusal = true := by
  unfold OptionName.resolve at h
  split at h <;> cases h
  rfl

theorem encode_value_isRefusal {option : OptionName} {form : PayloadForm}
    {value : OptionValue} {error : ChannelError}
    (h : option.encode form value = .error error) :
    error.isRefusal = true := by
  cases value with
  | credentials =>
      cases h
      rfl
  | int value =>
      simp only [OptionName.encode] at h
      cases hvalue : option.normalise value with
      | error error' =>
          rw [hvalue] at h
          cases h
          exact normalise_isRefusal hvalue
      | ok value =>
          rw [hvalue] at h
          cases form with
          | byte =>
              change (if _ then _ else _) = _ at h
              split at h <;> cases h
              rfl
          | timeval =>
              change (if _ then _ else _) = _ at h
              split at h <;> cases h
              rfl
          | int | linger => cases h
          | credentials =>
              cases h
              rfl

theorem encode_setting_isRefusal {setting : Setting} {error : ChannelError}
    (h : setting.encode = .error error) : error.isRefusal = true := by
  cases setting with
  | int option value =>
      simp only [Setting.encode] at h
      cases hvalue : option.name.normalise value <;> rw [hvalue] at h
      · cases h
        exact normalise_isRefusal hvalue
      · cases h
  | switch => cases h

theorem getOption_mild (option : TypedOption) :
    IsMild (Channel.getOption fd option) := by
  refine mild_bind (checkSupported_mild _) fun _ => mild_holding (mild_bind
    ensureOpen_mild fun _ => mild_bind ?_ fun _ => mild_pure _)
  rw [IsMild, ExceptT.run_mk, Socket.getOption]
  split
  · rintro _ ⟨⟩
    exact ChannelError.isOfRelease_of_isRefusal (resolve_isRefusal ‹_›)
  · rintro (error | payload)
    · rintro _ ⟨⟩
      rfl
    · rintro _ ⟨⟩

theorem setOption_mild (setting : Setting) :
    IsMild (Channel.setOption fd setting) := by
  refine mild_bind (checkSupported_mild _) fun _ => mild_holding (mild_bind
    ensureOpen_mild fun _ => mild_bind (mild_returning fun error h => ?_)
      fun value => ?_)
  · exact ChannelError.isOfRelease_of_isRefusal (encode_setting_isRefusal h)
  · rw [IsMild, ExceptT.run_mk, Socket.setOption]
    split
    · rintro _ ⟨⟩
      exact ChannelError.isOfRelease_of_isRefusal (resolve_isRefusal ‹_›)
    · split
      · rintro _ ⟨⟩
        exact ChannelError.isOfRelease_of_isRefusal
          (encode_value_isRefusal ‹_›)
      · rintro (error | _)
        · rintro _ ⟨⟩
          rfl
        · rintro _ ⟨⟩

theorem credentials_mild : IsMild (Channel.credentials fd) := by
  refine mild_bind ensureOpen_mild fun _ => mild_bind (mild_holding (mild_bind
    (mild_perform _) fun _ => mild_pure _)) fun state => ?_
  split
  · refine mild_bind (getOption_mild _) fun reading => ?_
    cases reading <;> exact mild_pure _
  · exact mild_pure _

theorem localAddress_mild : IsMild Channel.localAddress :=
  mild_holding (mild_bind ensureOpen_mild fun _ => mild_bind (mild_perform _)
    fun _ => mild_pure _)

theorem remoteAddress_mild : IsMild (Channel.remoteAddress fd) :=
  mild_holding (mild_bind ensureOpen_mild fun _ => mild_bind (mild_perform _)
    fun _ => mild_ite (mild_bind (mild_onSocket _) fun _ => mild_bind
      (mild_perform _) fun _ => mild_pure _) (mild_pure _))

theorem makeChanges_mild (changes : List Change) :
    IsMild (makeChanges fd changes) := by
  induction changes with
  | nil => exact mild_pure _
  | cons change rest ih =>
      refine mild_bind ?_ fun _ => ih
      cases change with
      | set setting => exact setOption_mild setting
      | nonBlocking => exact configureBlocking_mild false

/-! ## Transfers -/

theorem beginTransfer_mild (direction : Direction) :
    IsMild (beginTransfer direction) :=
  mild_holding (mild_bind ensureOpen_mild fun _ => mild_bind (mild_perform _)
    fun _ => mild_ite (mild_throw rfl)
      (mild_ite (mild_bind (enter_mild _) fun _ => mild_pure _)
        (mild_pure _)))

theorem endTransfer_mild (direction : Direction)
    (result : Except OsError IoStatus) :
    IsMild (endTransfer direction result) := by
  refine mild_bind (leave_mild _ _) fun _ => ?_
  split
  · exact mild_pure _
  · exact mild_holding (mild_bind (mild_perform _) fun _ => mild_pure _)

/-- Whatever the transfer itself ends with is not a failure to release. -/
theorem transferWith_gives {direction : Direction}
    {shutBefore shutMeanwhile : Except ChannelError IoStatus} {buffers : β}
    {transfer : Program (Except OsError IoStatus × β)}
    (hbefore : ∀ error, shutBefore = .error error → error.isOfRelease = false)
    (hmeanwhile : ∀ error, shutMeanwhile = .error error →
      error.isOfRelease = false) :
    (transferWith direction shutBefore shutMeanwhile buffers transfer).Gives
      fun result => ∀ error, result.1 = .error error →
        error.isOfRelease = false := by
  refine Program.gives_holding ?_
  rw [Program.gives_bind_eq]
  refine (beginTransfer_mild direction).mono fun began mild => ?_
  rcases began with error | _ | _
  · rintro _ ⟨⟩
    exact mild error rfl
  · exact hbefore
  · rw [Program.gives_bind_eq]
    refine (Program.gives_true transfer).mono fun (result, _) _ => ?_
    rw [Program.gives_bind_eq]
    refine (endTransfer_mild direction result).mono fun ended mild => ?_
    rcases ended with error | _ | _
    · rintro _ ⟨⟩
      exact mild error rfl
    · exact hmeanwhile
    · cases result with
      | ok => exact fun _ => nofun
      | error error =>
          rintro _ ⟨⟩
          rfl

theorem readWith_gives {buffers : β}
    {transfer : Program (Except OsError IoStatus × β)} :
    (readWith buffers transfer).Gives fun result =>
      ∀ error, result.1 = .error error → error.isOfRelease = false :=
  transferWith_gives (fun _ => nofun) (fun _ => nofun)

theorem writeWith_gives {buffers : β}
    {transfer : Program (Except OsError IoStatus × β)} :
    (writeWith buffers transfer).Gives fun result =>
      ∀ error, result.1 = .error error → error.isOfRelease = false := by
  refine transferWith_gives ?_ ?_
  all_goals
    rintro _ ⟨⟩
    rfl

/-! ## Replies -/

/-- Only closing and giving up a registration end with a failure to release the
descriptor. -/
def Operation.Tells (operation : Operation) (reply : Reply) : Prop :=
  ∀ fd error, reply.error? = some (.close fd error) →
    operation = .close ∨ operation = .deregister

theorem Operation.tells_of_none {operation : Operation} {reply : Reply}
    (h : reply.error? = none) : operation.Tells reply := by
  intro fd error told
  cases h.symm.trans told

theorem Operation.tells_of_mild {operation : Operation} {reply : Reply}
    (h : ∀ error, reply.error? = some error → error.isOfRelease = false) :
    operation.Tells reply := by
  intro fd error told
  cases h _ told

theorem reply_gives {make : α → Reply} {body : Operating α}
    {operation : Operation} (h : IsMild body)
    (hmake : ∀ value, (make value).error? = none) :
    (reply make body).Gives operation.Tells := by
  rw [reply, Program.gives_bind_eq]
  refine Program.Gives.mono h fun result mild => ?_
  cases result with
  | ok value => exact Operation.tells_of_none (hmake value)
  | error error =>
      refine Operation.tells_of_mild ?_
      rintro _ ⟨⟩
      exact mild error rfl

theorem describe_gives {program : Program α} {make : α → Reply}
    {operation : Operation} (hmake : ∀ value, (make value).error? = none) :
    (program >>= fun value => pure (make value)).Gives operation.Tells := by
  rw [Program.gives_bind_eq]
  exact (Program.gives_true program).mono fun value _ =>
    Operation.tells_of_none (hmake value)

theorem Operation.program_gives (fd : Fd) (operation : Operation) :
    (operation.program fd).Gives operation.Tells := by
  cases operation with
  | close => exact (Program.gives_true _).mono fun _ _ _ _ _ => .inl rfl
  | deregister => exact (Program.gives_true _).mono fun _ _ _ _ _ => .inr rfl
  | connect address => exact reply_gives (connect_mild address) fun _ => rfl
  | finishConnect => exact reply_gives finishConnect_mild fun _ => rfl
  | bind address => exact reply_gives (bind_mild address) fun _ => rfl
  | configureBlocking blocking =>
      exact reply_gives (configureBlocking_mild blocking) fun _ => rfl
  | shutdown direction =>
      exact reply_gives (shutdown_mild direction) fun _ => rfl
  | apply settings =>
      exact reply_gives (makeChanges_mild settings.changes) fun _ => rfl
  | read | readMany =>
      refine Eq.mpr (Program.gives_bind_eq ..) (readWith_gives.mono ?_)
      rintro ⟨error | _, _⟩ mild
      · refine tells_of_mild ?_
        rintro _ ⟨⟩
        exact mild error rfl
      · exact tells_of_none rfl
  | write | writeMany =>
      refine Eq.mpr (Program.gives_bind_eq ..) (writeWith_gives.mono ?_)
      rintro ⟨error | _, _⟩ mild
      · refine tells_of_mild ?_
        rintro _ ⟨⟩
        exact mild error rfl
      · exact tells_of_none rfl
  | receive =>
      refine Eq.mpr (Program.gives_bind_eq ..)
        ((Program.gives_true _).mono ?_)
      rintro ⟨_ | _, _⟩ - <;> exact tells_of_none rfl
  | send =>
      refine Eq.mpr (Program.gives_bind_eq ..)
        ((Program.gives_true _).mono ?_)
      rintro (_ | _) - <;> exact tells_of_none rfl
  | flush | supportedOptions => exact tells_of_none rfl
  | poll interest timeout =>
      exact reply_gives (poll_mild interest timeout) fun _ => rfl
  | register => exact reply_gives register_mild fun _ => rfl
  | dropRegistration => exact reply_gives (mild_quietly _) fun _ => rfl
  | getOption option => exact reply_gives (getOption_mild option) fun _ => rfl
  | setOption setting => exact reply_gives (setOption_mild setting) fun _ => rfl
  | credentials => exact reply_gives credentials_mild fun _ => rfl
  | localAddress => exact reply_gives localAddress_mild fun _ => rfl
  | remoteAddress => exact reply_gives remoteAddress_mild fun _ => rfl
  | ready | text | inspect | flags | snapshot =>
      exact describe_gives fun _ => rfl

end Channel

/-- What the operation of a thread may still end with. -/
def Activity.Gives (post : Channel.Operation → Channel.Reply → Prop) :
    Activity → Prop
  | idle => True
  | running operation rest => rest.Gives (post operation)
  | calling operation _ next => ∀ answer, (next answer).Gives (post operation)

theorem Run.gives {fd : Fd} {trace : Trace} {c : Config}
    {post : Channel.Operation → Channel.Reply → Prop}
    (hprogram : ∀ operation : Channel.Operation,
      (operation.program fd).Gives (post operation))
    (run : Run fd trace c) (thread : Thread) :
    (c.activity thread).Gives post := by
  refine run.induct (I := fun _ c => (c.activity thread).Gives post)
    (fun _ _ => trivial) fun _ c _ _ _ step ih => ?_
  -- the thread goes on with what its program gives
  have goes : ∀ (other : Thread) (activity : Activity),
      (other = thread → activity.Gives post) →
      (Function.update c.activity other activity thread).Gives post := by
    intro other activity h
    by_cases ht : thread = other
    · subst ht
      simpa using h rfl
    · simpa [ht] using ih
  cases step with
  | begin | drop => exact goes _ _ fun _ => hprogram _
  | act running | pause running =>
      refine goes _ _ ?_
      rintro rfl
      rw [running] at ih
      exact ih _
  | call running =>
      refine goes _ _ ?_
      rintro rfl
      rw [running] at ih
      exact ih
  | unroll running =>
      refine goes _ _ ?_
      rintro rfl
      rw [running] at ih
      exact Program.Gives.unroll ih
  | answer answer calling =>
      refine goes _ _ ?_
      rintro rfl
      rw [calling] at ih
      exact ih answer
  | finish => exact goes _ _ fun _ => trivial

/-- Only closing and giving up a registration report that the descriptor could
not be released. -/
theorem Step.tells {fd other : Fd} {trace : Trace} {c c' : Config}
    {thread : Thread} {operation : Channel.Operation} {reply : Channel.Reply}
    {error : OsError} (run : Run fd trace c)
    (step : Step fd c [.ended thread operation reply] c')
    (told : reply.error? = some (.close other error)) :
    operation = .close ∨ operation = .deregister := by
  have gives := run.gives (Channel.Operation.program_gives fd) thread
  rw [step.done_of_ended] at gives
  exact gives other error told

end LocalSocket
