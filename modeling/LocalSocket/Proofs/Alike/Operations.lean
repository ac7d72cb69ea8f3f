import LocalSocket.Proofs.Alike

/-!
# Operations that do not heed a direction

Whatever such an operation finds, it is like itself with the direction open or
not.  A transfer in the direction does heed it, but only until it has made its
call: what it does from then on is the same, and only its end tells.
-/

namespace LocalSocket

namespace Indifferent

open Channel

variable {fd : Fd} {direction : Direction} {α β : Type}

/-! ## Rules -/

section Rules

variable {R : β → β → Prop} {program program' : Program α}

/-- The two programs are alike, and come to the same value. -/
abbrev Same (direction : Direction) (program program' : Program α) : Prop :=
  program.Alike direction Eq program'

theorem same_pure (value : α) :
    Same direction (pure value : Program α) (pure value) := .done rfl

theorem same_perform {action : Action} (unseen : action ≠ .fields) :
    Same direction (Program.perform action) (Program.perform action) :=
  .act unseen fun _ => .done rfl

theorem bind_alike {f f' : α → Program β} (h : Same direction program program')
    (hf : ∀ value, (f value).Alike direction R (f' value)) :
    (program >>= f).Alike direction R (program' >>= f') :=
  h.bind fun value _ heq => heq ▸ hf value

theorem fields_alike {next next' : Fields → Program β}
    (h : ∀ fields isOpen, (next fields).Alike direction R
      (next' (fields.withDirection direction isOpen))) :
    (Program.perform .fields >>= next).Alike direction R
      (Program.perform .fields >>= next') :=
  .fields h

theorem holding_alike {S : α → α → Prop} {lock : Lock}
    (h : program.Alike direction S program') :
    (Program.holding lock program).Alike direction S
      (Program.holding lock program') :=
  .act nofun fun _ => h.bind fun _ _ hvalue => .act nofun fun _ => .done hvalue

theorem same_retry (call : Call) :
    Same direction (Program.retry call) (Program.retry call) := by
  refine .loop (.act nofun fun answer => ?_) same_pure
  cases answer <;> exact .done rfl

variable {operation operation' : Operating α}
  {S : Except ChannelError β → Except ChannelError β → Prop}

theorem run_bind_alike {f f' : α → Operating β}
    (refl : ∀ error, S (.error error) (.error error))
    (h : Same direction operation.run operation'.run)
    (hf : ∀ value, (f value).run.Alike direction S (f' value).run) :
    (operation >>= f).run.Alike direction S (operation' >>= f').run := by
  refine bind_alike h fun result => ?_
  cases result with
  | ok value => exact hf value
  | error error => exact .done (refl error)

theorem same_run_bind {f f' : α → Operating β}
    (h : Same direction operation.run operation'.run)
    (hf : ∀ value, Same direction (f value).run (f' value).run) :
    Same direction (operation >>= f).run (operation' >>= f').run :=
  run_bind_alike (fun _ => rfl) h hf

theorem run_ite_alike {condition : Prop} [Decidable condition]
    {T : Except ChannelError α → Except ChannelError α → Prop}
    {other other' : Operating α}
    (h : operation.run.Alike direction T operation'.run)
    (hother : other.run.Alike direction T other'.run) :
    (ExceptT.run (if condition then operation else other)).Alike direction T
      (ExceptT.run (if condition then operation' else other')) := by
  split
  · exact h
  · exact hother

theorem same_lift (h : Same direction program program') :
    Same direction (ExceptT.lift program : Operating α).run
      (ExceptT.lift program' : Operating α).run :=
  bind_alike h fun _ => .done rfl

theorem same_look {action : Action} (unseen : action ≠ .fields) :
    Same direction (Operating.perform action).run
      (Operating.perform action).run :=
  same_lift (same_perform unseen)

theorem run_fields_alike {next next' : Fields → Operating β}
    (h : ∀ fields isOpen, (next fields).run.Alike direction S
      (next' (fields.withDirection direction isOpen)).run) :
    (Operating.perform .fields >>= next).run.Alike direction S
      (Operating.perform .fields >>= next').run :=
  .fields h

theorem same_put {fields fields' : Fields} {isOpen : Bool}
    (h : fields' = fields.withDirection direction isOpen) :
    Same direction (Operating.perform (.put fields)).run
      (Operating.perform (.put fields')).run := by
  subst h
  exact .put (.done rfl)

theorem same_onSocket {program program' : Program (Except OsError α)}
    (h : Same direction program program') :
    Same direction (Operating.onSocket program).run
      (Operating.onSocket program').run := by
  refine bind_alike h fun result => ?_
  cases result <;> exact .done rfl

theorem same_quietly {operation operation' : Operating Unit}
    (h : Same direction operation.run operation'.run) :
    Same direction (Operating.quietly operation).run
      (Operating.quietly operation').run :=
  same_lift (bind_alike h fun _ => .done rfl)

theorem same_reply {make : α → Reply}
    (h : Same direction operation.run operation'.run) :
    Same direction (reply make operation) (reply make operation') := by
  refine bind_alike h fun result => ?_
  cases result <;> exact .done rfl

end Rules

/-! ## Closing, and users of the descriptor -/

theorem ensureOpen_same : Same direction ensureOpen.run ensureOpen.run :=
  same_run_bind (same_look nofun) fun isOpen => by
    cases isOpen <;> exact .done rfl

theorem ensureStillOpen_same :
    Same direction ensureStillOpen.run ensureStillOpen.run :=
  same_run_bind (same_look nofun) fun isOpen => by
    cases isOpen <;> exact .done rfl

theorem release_same : Same direction release.run release.run := by
  refine run_fields_alike fun fields isOpen => ?_
  refine run_ite_alike (same_pure _) (run_ite_alike ?_ ?_)
  · exact same_put rfl
  · refine same_run_bind (same_put rfl) fun _ => ?_
    rw [Fields.withDirection_holder]
    split
    · exact same_pure _
    · refine same_run_bind (same_lift (same_retry _)) fun result => ?_
      cases result <;> exact .done rfl

theorem signalAll_same (threads : List Thread) :
    Same direction (signalAll threads) (signalAll threads) := by
  induction threads with
  | nil => exact same_pure _
  | cons thread rest ih =>
      refine bind_alike (same_perform nofun) fun answer => ?_
      cases answer with
      | ok value => exact ih
      | error error => exact same_pure _

theorem signalUsers_same : Same direction signalUsers signalUsers := by
  refine .loop (bind_alike (holding_alike (fields_alike
    fun fields isOpen => ?_)) fun isOver => ?_) same_pure
  · rw [Fields.withDirection_threads]
    split
    · exact same_pure _
    · exact signalAll_same _
  · cases isOver
    · exact bind_alike (same_perform nofun) fun _ => same_pure _
    · exact same_pure _

theorem shutDown_same : Same direction shutDown.run shutDown.run := by
  refine run_fields_alike fun fields isOpen => ?_
  have shuts : { fields.withDirection direction isOpen with
      inputOpen := false, outputOpen := false } =
      Fields.withDirection { fields with
        inputOpen := false, outputOpen := false } direction false := by
    cases direction <;> rfl
  refine same_run_bind (same_put shuts) fun _ => ?_
  rw [Fields.withDirection_holder, Fields.withDirection_threads]
  split
  · refine run_ite_alike release_same ?_
    exact same_run_bind (same_lift (same_perform nofun)) fun _ => release_same
  · exact release_same

theorem close_same : Same direction Channel.close.run Channel.close.run := by
  refine bind_alike (same_perform nofun) fun first => ?_
  split
  · exact bind_alike (holding_alike shutDown_same)
      fun _ => bind_alike signalUsers_same fun _ => same_pure _
  · exact same_pure _

theorem enter_same (other : Direction) :
    Same direction (enter other).run (enter other).run := by
  refine same_run_bind (same_look nofun) fun thread => ?_
  exact run_fields_alike fun fields isOpen =>
    same_put (fields.withDirection_setSlot direction other isOpen _)

theorem leave_same (other : Direction) (completed : Bool) :
    Same direction (leave other completed).run (leave other completed).run := by
  refine same_run_bind (holding_alike ?_) fun _ => ?_
  · refine run_fields_alike fun fields isOpen => ?_
    refine same_run_bind
      (same_put (fields.withDirection_setSlot direction other isOpen _))
      fun _ => ?_
    exact run_ite_alike (same_quietly release_same) (same_pure _)
  · cases completed
    · exact ensureStillOpen_same
    · exact same_pure _

theorem register_same : Same direction register.run register.run := by
  refine holding_alike (run_fields_alike fun fields isOpen => ?_)
  refine same_run_bind ensureOpen_same fun _ => ?_
  refine same_run_bind (same_look nofun) fun isBlocking => ?_
  exact run_ite_alike (same_pure _) (same_put rfl)

theorem deregister_same : Same direction deregister.run deregister.run := by
  refine holding_alike (run_fields_alike fun fields isOpen => ?_)
  refine same_run_bind (same_put rfl) fun _ => ?_
  exact run_ite_alike release_same (same_pure _)

/-! ## Binding and connecting -/

theorem closeAfter_same (error : ChannelError) :
    Same direction (closeAfter error : Operating α).run
      (closeAfter error).run :=
  same_run_bind (same_quietly close_same) fun _ => same_pure _

theorem encode_same (address : Address) :
    Same direction (encode address).run (encode address).run := by
  rw [encode]
  split <;> exact same_pure _

theorem configureBlocking_same (blocking : Bool) :
    Same direction (configureBlocking fd blocking).run
      (configureBlocking fd blocking).run := by
  refine holding_alike (holding_alike (holding_alike ?_))
  refine same_run_bind ensureOpen_same fun _ => ?_
  refine same_run_bind (same_look nofun) fun isBlocking => ?_
  refine run_ite_alike (same_pure _) ?_
  refine run_fields_alike fun fields isOpen => ?_
  refine run_ite_alike (same_pure _) ?_
  exact same_run_bind (same_onSocket (same_perform nofun))
    fun _ => same_look nofun

theorem bindLocked_same (address : Option Address) :
    Same direction (bindLocked fd address).run (bindLocked fd address).run := by
  refine same_run_bind ensureOpen_same fun _ => ?_
  refine run_fields_alike fun fields isOpen => ?_
  refine run_ite_alike (same_pure _) (run_ite_alike (same_pure _) ?_)
  refine same_run_bind (encode_same _) fun record => ?_
  refine same_run_bind (same_lift (same_perform nofun)) fun bound => ?_
  cases bound with
  | error error => exact same_pure _
  | ok =>
      refine same_run_bind (same_lift (same_perform nofun)) fun record => ?_
      cases record with
      | error error => exact same_pure _
      | ok record => exact same_run_bind (same_put rfl) fun _ => same_pure _

theorem bind_same (address : Option Address) :
    Same direction (Channel.bind fd address).run
      (Channel.bind fd address).run := by
  refine holding_alike (holding_alike ?_)
  refine same_run_bind (holding_alike (bindLocked_same address))
    fun failure => ?_
  cases failure with
  | none => exact same_pure _
  | some error => exact closeAfter_same _

theorem markConnected_same (remote : Option Address) :
    Same direction (markConnected fd remote).run
      (markConnected fd remote).run := by
  refine holding_alike (run_fields_alike fun fields isOpen => ?_)
  refine same_run_bind ensureStillOpen_same fun _ => ?_
  refine same_run_bind (same_put rfl) fun _ => ?_
  refine run_ite_alike ?_ (same_pure _)
  refine same_run_bind (same_lift (same_perform nofun)) fun record => ?_
  cases record with
  | ok record => exact same_put rfl
  | error error => exact same_pure _

theorem socketConnect_same (record : Record) :
    Same direction (Socket.connect fd record) (Socket.connect fd record) := by
  refine bind_alike (same_perform nofun) fun answer => ?_
  split
  · exact same_pure _
  · split
    · exact same_pure _
    · split <;> exact same_pure _
  · exact same_pure _

theorem socketPoll_same (events : Events) (timeout : Int) :
    Same direction (Socket.poll fd events timeout)
      (Socket.poll fd events timeout) := by
  refine bind_alike (same_perform nofun) fun answer => ?_
  split <;> exact same_pure _

theorem attempt_same (record : Record) :
    Same direction (attempt fd record) (attempt fd record) := by
  refine .loop (bind_alike (socketConnect_same record) fun result => ?_)
    same_pure
  split
  · exact bind_alike (same_perform nofun) fun _ => same_pure _
  · exact same_pure _

theorem beginConnect_same :
    Same direction beginConnect.run beginConnect.run := by
  refine holding_alike (same_run_bind ensureOpen_same fun _ => ?_)
  refine run_fields_alike fun fields isOpen => ?_
  exact run_ite_alike (same_pure _)
    (run_ite_alike (same_pure _) (enter_same _))

theorem connect_same (address : Address) :
    Same direction (Channel.connect fd address).run
      (Channel.connect fd address).run := by
  refine same_run_bind (encode_same _) fun record => ?_
  refine holding_alike (holding_alike ?_)
  refine same_run_bind beginConnect_same fun _ => ?_
  refine same_run_bind (same_lift (attempt_same record)) fun result => ?_
  refine same_run_bind (leave_same _ _) fun _ => ?_
  split
  · exact same_run_bind (markConnected_same _) fun _ => same_pure _
  · refine same_run_bind (holding_alike ?_) fun _ => same_pure _
    refine run_fields_alike fun fields isOpen => ?_
    exact same_run_bind ensureStillOpen_same fun _ => same_put rfl
  · exact same_pure _
  · exact closeAfter_same _

theorem beginFinish_same : Same direction beginFinish.run beginFinish.run := by
  refine holding_alike (same_run_bind ensureOpen_same fun _ => ?_)
  refine run_fields_alike fun fields isOpen => ?_
  refine run_ite_alike (same_pure _) (run_ite_alike ?_ (same_pure _))
  rw [Fields.withDirection_remoteAddress]
  split
  · exact same_pure _
  · exact same_run_bind (encode_same _) fun _ =>
      same_run_bind (enter_same _) fun _ => same_pure _

theorem awaitConnection_same (record : Record) (blocking : Bool) :
    Same direction (awaitConnection fd record blocking)
      (awaitConnection fd record blocking) := by
  refine .loop (bind_alike (socketConnect_same record) fun result => ?_)
    same_pure
  split
  · exact same_pure _
  · split <;> exact same_pure _
  · exact bind_alike (same_perform nofun) fun _ => same_pure _
  · refine bind_alike (same_perform nofun) fun isOpen => ?_
    split
    · refine bind_alike (socketPoll_same _ _) fun result => ?_
      split
      · exact same_pure _
      · exact bind_alike (same_perform nofun) fun _ => same_pure _
    · exact same_pure _

theorem finishConnect_same :
    Same direction (Channel.finishConnect fd).run
      (Channel.finishConnect fd).run := by
  refine holding_alike (holding_alike ?_)
  refine same_run_bind beginFinish_same fun begun => ?_
  cases begun with
  | none => exact same_pure _
  | some record =>
      refine same_run_bind (same_look nofun) fun blocking => ?_
      refine same_run_bind (same_lift (awaitConnection_same record blocking))
        fun result => ?_
      refine same_run_bind (leave_same _ _) fun _ => ?_
      split
      · exact same_run_bind (markConnected_same _) fun _ => same_pure _
      · exact same_pure _
      · exact closeAfter_same _

/-! ## Transfers in the other direction, and waiting -/

theorem beginTransfer_same {other : Direction} (h : other ≠ direction) :
    Same direction (beginTransfer other).run (beginTransfer other).run := by
  refine holding_alike (same_run_bind ensureOpen_same fun _ => ?_)
  refine run_fields_alike fun fields isOpen => run_ite_alike (same_pure _) ?_
  rw [Fields.isDirectionOpen_withDirection _ _ _ _ h]
  exact run_ite_alike (same_run_bind (enter_same _) fun _ => same_pure _)
    (same_pure _)

theorem isDirectionOpen_same {other : Direction} (h : other ≠ direction) :
    Same direction (isDirectionOpen other).run (isDirectionOpen other).run := by
  refine holding_alike (run_fields_alike fun fields isOpen => ?_)
  rw [Fields.isDirectionOpen_withDirection _ _ _ _ h]
  exact same_pure _

/-- Whether the direction has been shut down is looked at last. -/
theorem endTransfer_alike (other : Direction)
    (result : Except OsError IoStatus) :
    (endTransfer other result).run.Alike direction (fun _ _ => True)
      (endTransfer other result).run := by
  refine run_bind_alike (fun _ => trivial) (leave_same _ _) fun _ => ?_
  refine run_ite_alike (.done trivial) ?_
  exact holding_alike (run_fields_alike fun _ _ => .done trivial)

theorem endTransfer_same {other : Direction} (h : other ≠ direction)
    (result : Except OsError IoStatus) :
    Same direction (endTransfer other result).run
      (endTransfer other result).run := by
  refine same_run_bind (leave_same _ _) fun _ => ?_
  exact run_ite_alike (same_pure _) (isDirectionOpen_same h)

theorem transfer_same {other : Direction}
    {transfer : Program (Except OsError IoStatus × β)}
    (carries : other.Carries transfer) :
    Same direction transfer transfer := by
  obtain ⟨call, exhausted, outcome, next, rfl, _, hnext⟩ := carries
  split
  · exact same_pure _
  · refine bind_alike (same_retry call) fun answer => ?_
    obtain ⟨outcome, hvalue, _⟩ := hnext answer
    rw [hvalue]
    exact same_pure _

theorem transferWith_same {other : Direction}
    {shutBefore shutMeanwhile : Except ChannelError IoStatus} {buffers : β}
    {transfer : Program (Except OsError IoStatus × β)}
    (carries : other.Carries transfer) (h : other ≠ direction) :
    Same direction
      (transferWith other shutBefore shutMeanwhile buffers transfer)
      (transferWith other shutBefore shutMeanwhile buffers transfer) := by
  refine holding_alike (bind_alike (beginTransfer_same h) fun begun => ?_)
  rcases begun with error | _ | _
  · exact same_pure _
  · exact same_pure _
  · refine bind_alike (transfer_same carries) fun moved => ?_
    refine bind_alike (endTransfer_same h _) fun ended => ?_
    rcases ended with error | _ | _ <;> exact same_pure _

theorem shutdown_same {other : Direction} (h : other ≠ direction) :
    Same direction (Channel.shutdown fd other).run
      (Channel.shutdown fd other).run := by
  refine holding_alike (same_run_bind ensureOpen_same fun _ => ?_)
  refine run_fields_alike fun fields isOpen => run_ite_alike (same_pure _) ?_
  rw [Fields.isDirectionOpen_withDirection _ _ _ _ h]
  refine run_ite_alike ?_ (same_pure _)
  exact same_run_bind (same_onSocket (same_perform nofun)) fun _ =>
    same_put (fields.shutDirection_withDirection direction other isOpen h)

theorem poll_same (interest : Interest) (timeout : Option Duration) :
    Same direction (Channel.poll fd interest timeout).run
      (Channel.poll fd interest timeout).run := by
  refine same_run_bind (same_look nofun) fun isBlocking => ?_
  refine run_ite_alike (same_pure _) (holding_alike ?_)
  refine same_run_bind (holding_alike ?_) fun _ => ?_
  · exact same_run_bind ensureOpen_same fun _ => enter_same _
  · refine same_run_bind (same_lift (socketPoll_same _ _)) fun result => ?_
    exact same_run_bind (leave_same _ _) fun _ => .done rfl

/-! ## Options, addresses and descriptions -/

theorem checkSupported_same (option : OptionName) :
    Same direction (checkSupported option).run (checkSupported option).run := by
  rw [checkSupported]
  split <;> exact same_pure _

theorem getOption_same (option : TypedOption) :
    Same direction (Channel.getOption fd option).run
      (Channel.getOption fd option).run := by
  refine same_run_bind (checkSupported_same _) fun _ => holding_alike ?_
  refine same_run_bind ensureOpen_same fun _ => ?_
  refine same_run_bind ?_ fun _ => same_pure _
  rw [ExceptT.run_mk, Socket.getOption]
  split
  · exact same_pure _
  · refine bind_alike (same_perform (by simp)) fun answer => ?_
    cases answer <;> exact same_pure _

theorem setOption_same (setting : Setting) :
    Same direction (Channel.setOption fd setting).run
      (Channel.setOption fd setting).run := by
  refine same_run_bind (checkSupported_same _) fun _ => holding_alike ?_
  refine same_run_bind ensureOpen_same fun _ => ?_
  refine same_run_bind (.done rfl) fun value => ?_
  rw [ExceptT.run_mk, Socket.setOption]
  split
  · exact same_pure _
  · split
    · exact same_pure _
    · refine bind_alike (same_perform (by simp)) fun answer => ?_
      cases answer <;> exact same_pure _

theorem makeChanges_same (changes : List Change) :
    Same direction (makeChanges fd changes).run
      (makeChanges fd changes).run := by
  induction changes with
  | nil => exact same_pure _
  | cons change rest ih =>
      refine same_run_bind ?_ fun _ => ih
      cases change with
      | set setting => exact setOption_same setting
      | nonBlocking => exact configureBlocking_same false

theorem credentials_same :
    Same direction (Channel.credentials fd).run
      (Channel.credentials fd).run := by
  refine same_run_bind ensureOpen_same fun _ => same_run_bind ?_ fun state => ?_
  · exact holding_alike (run_fields_alike fun _ _ => same_pure _)
  · refine run_ite_alike (same_run_bind (getOption_same _) fun reading => ?_)
      (same_pure _)
    cases reading <;> exact same_pure _

theorem localAddress_same :
    Same direction Channel.localAddress.run Channel.localAddress.run :=
  holding_alike (same_run_bind ensureOpen_same fun _ =>
    run_fields_alike fun _ _ => same_pure _)

theorem remoteAddress_same :
    Same direction (Channel.remoteAddress fd).run
      (Channel.remoteAddress fd).run := by
  refine holding_alike (same_run_bind ensureOpen_same fun _ => ?_)
  refine run_fields_alike fun fields isOpen => run_ite_alike ?_ (same_pure _)
  refine same_run_bind (same_onSocket (same_perform nofun)) fun record => ?_
  exact same_run_bind (same_put rfl) fun _ => same_pure _

theorem seeFields_alike {R : β → β → Prop} {next next' : Fields → Program β}
    (h : ∀ fields isOpen, (next fields).Alike direction R
      (next' (fields.withDirection direction isOpen))) :
    (seeFields >>= next).Alike direction R (seeFields >>= next') :=
  .act nofun fun _ => .fields fun fields isOpen => .act nofun fun _ =>
    h fields isOpen

theorem ready_same (events : Events) (interest : Interest) :
    Same direction (Channel.ready events interest)
      (Channel.ready events interest) := by
  rw [Channel.ready]
  split
  · exact same_pure _
  · exact seeFields_alike fun _ _ => same_pure _

theorem inspect_same :
    Same direction (Channel.inspect fd) (Channel.inspect fd) :=
  holding_alike (fields_alike fun _ _ =>
    bind_alike (same_perform nofun) fun _ =>
      bind_alike (same_perform nofun) fun _ => same_pure _)

theorem flags_same : Same direction (Channel.flags fd) (Channel.flags fd) :=
  seeFields_alike fun _ _ => seeFields_alike fun _ _ =>
    seeFields_alike fun _ _ => same_pure _

/-- The text tells of the direction, but is come by in the same way. -/
theorem text_alike :
    Channel.text.Alike direction (fun _ _ => True) Channel.text := by
  refine bind_alike (same_perform nofun) fun isOpen => ?_
  split
  · exact seeFields_alike fun _ _ => .done trivial
  · exact .done trivial

theorem snapshot_alike :
    Channel.snapshot.Alike direction (fun _ _ => True) Channel.snapshot :=
  seeFields_alike fun _ _ => bind_alike (same_perform nofun) fun _ =>
    bind_alike (same_perform nofun) fun _ => seeFields_alike fun _ _ =>
      seeFields_alike fun _ _ => seeFields_alike fun _ _ => .done trivial

/-! ## All operations that do not heed the direction -/

theorem ends_same {operation : Operation} {program : Program Reply}
    (h : Same direction program program) :
    program.Alike direction (operation.EndsAlike direction) program :=
  h.mono fun _ _ heq _ => heq.symm

theorem program_alike {operation : Operation}
    (h : operation.heeds direction = false) :
    (operation.program fd).Alike direction (operation.EndsAlike direction)
      (operation.program fd) := by
  cases hdirection : operation.direction? with
  | some other =>
      obtain ⟨β, buffers, transfer, make, hprogram, carries, _, _⟩ :=
        Operation.carries fd hdirection
      have hne : other ≠ direction := by
        simpa [Operation.heeds_of_direction? hdirection] using h
      rw [hprogram]
      exact ends_same (bind_alike (transferWith_same carries hne)
        fun _ => same_pure _)
  | none =>
      cases operation with
      | read | readMany | receive | write | writeMany | send => cases hdirection
      | connect address => exact ends_same (same_reply (connect_same address))
      | finishConnect => exact ends_same (same_reply finishConnect_same)
      | bind address => exact ends_same (same_reply (bind_same address))
      | configureBlocking blocking =>
          exact ends_same (same_reply (configureBlocking_same blocking))
      | close => exact ends_same (same_reply close_same)
      | shutdown other =>
          have hne : other ≠ direction := by simpa [Operation.heeds] using h
          exact ends_same (same_reply (shutdown_same hne))
      | apply settings =>
          exact ends_same (same_reply (makeChanges_same settings.changes))
      | flush | supportedOptions => exact ends_same (same_pure _)
      | poll interest timeout =>
          exact ends_same (same_reply (poll_same interest timeout))
      | ready events interest =>
          exact ends_same (bind_alike (ready_same events interest)
            fun _ => same_pure _)
      | register => exact ends_same (same_reply register_same)
      | deregister => exact ends_same (same_reply deregister_same)
      | dropRegistration =>
          exact ends_same (same_reply (same_quietly deregister_same))
      | getOption option => exact ends_same (same_reply (getOption_same option))
      | setOption setting =>
          exact ends_same (same_reply (setOption_same setting))
      | credentials => exact ends_same (same_reply credentials_same)
      | localAddress => exact ends_same (same_reply localAddress_same)
      | remoteAddress => exact ends_same (same_reply remoteAddress_same)
      | inspect =>
          exact ends_same (bind_alike inspect_same fun _ => same_pure _)
      | flags => exact ends_same (bind_alike flags_same fun _ => same_pure _)
      | text =>
          exact text_alike.bind fun _ _ _ => .done fun tells => by cases tells
      | snapshot =>
          exact snapshot_alike.bind fun _ _ _ =>
            .done fun tells => by cases tells

end Indifferent

/-! ## Transfers in the direction -/

/-- What the program does is the same with the direction open or not, from a
call in the direction on, or from some earlier action on. -/
inductive Program.Settles (direction : Direction) {α : Type}
    (R : α → α → Prop) : Program α → Prop where
  | alike {program : Program α} (h : program.Alike direction R program) :
      Settles direction R program
  | act {action : Action} {next : action.Result → Program α}
      (other : ∀ call, action = .call call → call.direction? ≠ some direction)
      (h : ∀ result, Settles direction R (next result)) :
      Settles direction R (.act action next)

namespace Program

variable {direction : Direction} {α β : Type} {R : α → α → Prop}
  {S : β → β → Prop}

theorem Settles.bind {program : Program α} {f : α → Program β}
    (h : program.Settles direction R)
    (hf : ∀ value value', R value value' →
      (f value).Alike direction S (f value')) :
    (program.bind f).Settles direction S := by
  induction h with
  | alike h => exact .alike (h.bind hf)
  | act other _ ih => exact .act other ih

theorem Settles.next {action : Action} {next : action.Result → Program α}
    (h : (Program.act action next).Settles direction R)
    (result : action.Result) : (next result).Settles direction R := by
  cases h with
  | alike h => exact .alike (h.next result)
  | act _ h => exact h result

theorem Settles.alike_of_call {call : Call} {next : call.Answer → Program α}
    (h : (Program.act (.call call) next).Settles direction R)
    (hcall : call.direction? = some direction) :
    (Program.act (.call call) next).Alike direction R
      (.act (.call call) next) := by
  cases h with
  | alike h => exact h
  | act other => exact absurd hcall (other call rfl)

theorem Settles.unroll {body : Program (Option β)} {next : β → Program α}
    (h : (Program.loop body next).Settles direction R) :
    (Program.unroll body next).Alike direction R (.unroll body next) := by
  cases h with
  | alike h => exact h.unroll

end Program

namespace Indifferent

open Channel

variable {fd : Fd} {direction : Direction} {α β : Type}

theorem holding_settles {lock : Lock} {body : Program α}
    (h : body.Settles direction Eq) :
    (Program.holding lock body).Settles direction Eq :=
  .act (fun _ => nofun) fun _ => h.bind fun value _ heq =>
    heq ▸ .act nofun fun _ => same_pure value

theorem ensureOpen_settles {next : Unit → Operating α}
    (h : (next ()).run.Settles direction Eq) :
    (ensureOpen >>= next).run.Settles direction Eq := by
  refine .act (fun _ => nofun) fun isOpen => ?_
  cases isOpen with
  | false => exact .alike (same_pure _)
  | true => exact h

theorem beginTransfer_settles :
    (beginTransfer direction).run.Settles direction Eq := by
  refine holding_settles (ensureOpen_settles ?_)
  refine .act (fun _ => nofun) fun fields => .alike ?_
  exact run_ite_alike (same_pure _)
    (run_ite_alike (same_run_bind (enter_same _) fun _ => same_pure _)
      (same_pure _))

theorem transferWith_settles
    {shutBefore shutMeanwhile : Except ChannelError IoStatus} {buffers : β}
    {transfer : Program (Except OsError IoStatus × β)}
    (carries : direction.Carries transfer) :
    (transferWith direction shutBefore shutMeanwhile buffers
      transfer).Settles direction fun _ _ => True := by
  refine .act (fun _ => nofun) fun _ => ?_
  show (((beginTransfer direction).run.bind _).bind _).Settles direction _
  rw [Program.bind_assoc]
  refine beginTransfer_settles.bind fun begun _ heq => heq ▸ ?_
  refine Program.Alike.bind (R := fun _ _ => True) ?_
    fun _ _ _ => .act nofun fun _ => .done trivial
  rcases begun with error | _ | _
  · exact .done trivial
  · exact .done trivial
  · refine bind_alike (transfer_same carries) fun moved => ?_
    refine (endTransfer_alike direction moved.1).bind fun ended ended' _ => ?_
    rcases ended with error | _ | _ <;> rcases ended' with error' | _ | _ <;>
      exact .done trivial

theorem program_settles {operation : Operation}
    (h : operation.direction? = some direction) :
    (operation.program fd).Settles direction
      (operation.EndsAlike direction) := by
  obtain ⟨β, buffers, transfer, make, hprogram, carries, _, _⟩ :=
    Operation.carries fd h
  rw [hprogram]
  refine (transferWith_settles carries).bind fun _ _ _ => .done fun tells => ?_
  rw [Operation.tells_of_direction? h] at tells
  cases tells

end Indifferent

/-! ## Operations that are underway -/

/-- What is left of the operation comes to be the same with the direction open
or not; it is so already if the call has been `entered`. -/
def Channel.Operation.Settles (direction : Direction)
    (operation : Operation) (entered : Prop) (rest : Program Reply) : Prop :=
  rest.Settles direction (operation.EndsAlike direction) ∧
    (entered → rest.Alike direction (operation.EndsAlike direction) rest)

/-- The calls that a thread is inside of are still to be made, as far as its
program goes. -/
def Activity.Settles (direction : Direction) (operation : Channel.Operation)
    (entered : Prop) : Activity → Prop
  | .idle => False
  | .running operation' rest => operation' = operation ∧
      operation.Settles direction entered rest
  | .calling operation' call next => operation' = operation ∧
      operation.Settles direction entered (.act (.call call) next)

section Settles

variable {fd : Fd} {direction : Direction} {c c' : Config} {thread : Thread}
  {operation : Channel.Operation} {events : Trace} {entered : Prop}

theorem Channel.Operation.Settles.next {action : Action}
    {next : action.Result → Program Channel.Reply}
    (h : operation.Settles direction entered (.act action next))
    (result : action.Result) :
    operation.Settles direction entered (next result) :=
  ⟨h.1.next result, fun h' => (h.2 h').next result⟩

theorem Activity.Settles.mono {activity : Activity} {entered' : Prop}
    (h : activity.Settles direction operation entered)
    (himp : entered' → entered) :
    activity.Settles direction operation entered' := by
  cases activity with
  | idle => exact h
  | running | calling => exact ⟨h.1, h.2.1, fun h' => h.2.2 (himp h')⟩

/-- The thread has made a call in the direction. -/
def Trace.HasCalled (thread : Thread) (direction : Direction) (trace : Trace) :
    Prop :=
  ∃ call, .called thread call ∈ trace ∧ call.direction? = some direction

theorem Step.settles (step : Step fd c events c')
    (within : events.IsWithin thread)
    (h : (c.activity thread).Settles direction operation entered) :
    (c'.activity thread).Settles direction operation
      (entered ∨ Trace.HasCalled thread direction events) := by
  -- only a call is an entry
  have uncalled : ∀ {activity : Activity},
      (∀ request, .called thread request ∉ events) →
      activity.Settles direction operation entered →
      activity.Settles direction operation
        (entered ∨ Trace.HasCalled thread direction events) :=
    fun hevents h => h.mono fun h' =>
      h'.resolve_right fun ⟨_, hmem, _⟩ => hevents _ hmem
  obtain ⟨hactivity, hothers⟩ | advance := step.advance within
  · rw [hactivity]
    exact uncalled (fun _ hmem => hothers _ hmem rfl) h
  cases advance with
  | @act _ _ _ _ result running =>
      rw [running] at h
      simp only [Config.set_activity, Function.update_self]
      exact uncalled (by simp) ⟨h.1, h.2.next result⟩
  | pause running =>
      rw [running] at h
      simp only [Config.set_activity, Function.update_self]
      exact uncalled (by simp) ⟨h.1, h.2.next ()⟩
  | unroll running =>
      rw [running] at h
      simp only [Config.set_activity, Function.update_self]
      have unrolled := h.2.1.unroll
      exact ⟨h.1, .alike unrolled, fun _ => unrolled⟩
  | @call _ call _ running =>
      rw [running] at h
      simp only [Config.set_activity, Function.update_self]
      refine ⟨h.1, h.2.1, ?_⟩
      rintro (entered | ⟨request, hmem, hrequest⟩)
      · exact h.2.2 entered
      · obtain rfl : request = call := by simpa using hmem
        exact h.2.1.alike_of_call hrequest
  | answer answer calling =>
      rw [calling] at h
      simp only [Config.set_activity, Function.update_self]
      exact uncalled (by simp) ⟨h.1, h.2.next answer⟩

theorem Steps.settles {trace : Trace} (steps : Steps fd c trace c')
    (within : trace.IsWithin thread)
    (h : (c.activity thread).Settles direction operation entered) :
    (c'.activity thread).Settles direction operation
      (entered ∨ trace.HasCalled thread direction) := by
  induction steps with
  | refl =>
      refine h.mono fun h' => h'.resolve_right fun ⟨_, hmem, _⟩ => ?_
      cases hmem
  | @tail trace events c' c'' _ step ih =>
      have within' : trace.IsWithin thread ∧ Trace.IsWithin thread events := by
        constructor <;> intro event hmem <;> apply within <;>
          rw [Trace.own_append] <;> simp [hmem]
      refine (step.settles within'.2 (ih within'.1)).mono ?_
      rintro (entered | ⟨call, hmem, hcall⟩)
      · exact .inl (.inl entered)
      · obtain hmem | hmem := List.mem_append.mp hmem
        · exact .inl (.inr ⟨call, hmem, hcall⟩)
        · exact .inr ⟨call, hmem, hcall⟩

/-- An operation that is underway goes on in the same way with the direction
open or not, if it does not heed it, or is a transfer that has made its call. -/
theorem Underway.alike {during : Trace}
    (underway : Underway fd thread operation c during c')
    (h : operation.heeds direction = false ∨
      operation.direction? = some direction ∧
        during.HasCalled thread direction) :
    (c'.activity thread).Alike direction (c'.activity thread) := by
  obtain ⟨c₁, began, steps⟩ := underway.passes
  have start : (c₁.activity thread).Settles direction operation
      (operation.heeds direction = false) := by
    rw [began.running_of_began.1]
    refine ⟨rfl, ?_, Indifferent.program_alike⟩
    obtain unheeding | ⟨transfer, _⟩ := h
    · exact .alike (Indifferent.program_alike unheeding)
    · exact Indifferent.program_settles transfer
  have settles := steps.settles underway.within start
  have entered := h.imp_right And.right
  cases hactivity : c'.activity thread with
  | idle => exact .idle
  | running operation' rest =>
      rw [hactivity] at settles
      obtain ⟨rfl, _, alike⟩ := settles
      exact .running (alike entered)
  | calling operation' call next =>
      rw [hactivity] at settles
      obtain ⟨rfl, _, alike⟩ := settles
      exact .calling (alike entered).next

/-- Whether the direction is open makes no difference to what threads do from
here on, and to how their operations end, as long as these do not heed it, apart
from transfers in it that have made their calls. -/
theorem Run.indifferent {trace suffix : Trace} (run : Run fd trace c)
    (entered : ∀ thread operation,
      (c.activity thread).operation? = some operation →
      operation.heeds direction = true →
        operation.direction? = some direction ∧
          (trace.inside thread).HasCalled thread direction)
    (isOpen isOpen' : Bool)
    (steps : Steps fd (c.withDirection direction isOpen) suffix c')
    (unheeding : ∀ thread operation, .began thread operation ∈ suffix →
      operation.heeds direction = false) :
    ∃ suffix' d, Steps fd (c.withDirection direction isOpen') suffix' d ∧
      suffix.Alike direction suffix' := by
  have alike : (c.withDirection direction isOpen).Alike direction
      (c.withDirection direction isOpen') := by
    refine ⟨⟨isOpen', ?_⟩, fun thread => ?_, rfl, rfl⟩
    · simp [Config.withDirection, Channel.withDirection,
        Fields.withDirection_withDirection]
    show (c.activity thread).Alike direction (c.activity thread)
    cases current : (c.activity thread).operation? with
    | none =>
        cases hactivity : c.activity thread with
        | idle => exact .idle
        | _ => rw [hactivity] at current; cases current
    | some operation =>
        obtain ⟨before, during, c₀, rfl, _, underway⟩ := run.underway current
        refine underway.alike ?_
        cases heeds : operation.heeds direction with
        | false => exact .inl rfl
        | true =>
            obtain ⟨transfer, call, hmem, hcall⟩ :=
              entered thread operation current heeds
            rw [Trace.inside_of_isWithin underway.within] at hmem
            exact .inr ⟨transfer, call, (Trace.mem_own.mp hmem).1, hcall⟩
  obtain ⟨suffix', d, steps', hsuffix, _⟩ := steps.alike alike
    fun thread operation hmem =>
      Indifferent.program_alike (unheeding thread operation hmem)
  exact ⟨suffix', d, steps', hsuffix⟩

end Settles

end LocalSocket
