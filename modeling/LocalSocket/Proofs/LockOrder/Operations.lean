import LocalSocket.Channel.Open
import LocalSocket.Channel.Operation
import LocalSocket.Channel.Registration
import LocalSocket.Proofs.LockOrder

/-!
# The operations take their locks in order

Whatever the system answers, and whatever is found in the fields, also where a
failure closes the channel or the last user releases the descriptor.
-/

namespace LocalSocket.Channel

open Protocol

variable {thread : Thread} {held : Holding} {fd : Fd} {α β : Type}

/-! ## Parts that take no locks -/

theorem ensureOpen_orderly : Orderly thread held ensureOpen.run := by
  refine maintains_run_bind (orderly_look rfl) fun isOpen => ?_
  cases isOpen <;> exact maintains_pure _

theorem ensureStillOpen_orderly : Orderly thread held ensureStillOpen.run := by
  refine maintains_run_bind (orderly_look rfl) fun isOpen => ?_
  cases isOpen <;> exact maintains_pure _

theorem encode_orderly (address : Address) :
    Orderly thread held (encode address).run := by
  rw [encode]
  split <;> exact maintains_pure _

theorem enter_orderly (direction : Direction) :
    Orderly thread held (enter direction).run :=
  maintains_run_bind (orderly_look rfl) fun _ =>
    maintains_run_bind (orderly_look rfl) fun _ => orderly_look rfl

theorem release_orderly : Orderly thread held release.run := by
  refine maintains_run_bind (orderly_look rfl) fun fields => ?_
  refine maintains_run_ite (maintains_pure _) (maintains_run_ite ?_ ?_)
  · exact orderly_look rfl
  · refine maintains_run_bind (orderly_look rfl) fun _ => ?_
    cases fields.holder with
    | none => exact maintains_pure _
    | some fd =>
        refine maintains_run_bind (maintains_lift (orderly_retry nofun)) ?_
        intro result
        cases result <;> exact maintains_pure _

theorem signalAll_orderly (threads : List Thread) :
    Orderly thread held (signalAll threads) := by
  induction threads with
  | nil => exact maintains_pure _
  | cons first rest ih =>
      refine maintains_bind (orderly_perform rfl) fun answer => ?_
      cases answer with
      | ok => exact ih
      | error error => exact maintains_pure _

theorem shutDown_orderly : Orderly thread held shutDown.run := by
  refine maintains_run_bind (orderly_look rfl) fun fields => ?_
  refine maintains_run_bind (orderly_look rfl) fun _ => ?_
  cases fields.holder with
  | none => exact release_orderly
  | some fd =>
      cases fields.threads.isEmpty with
      | true => exact release_orderly
      | false =>
          refine maintains_run_bind (maintains_lift (orderly_perform rfl)) ?_
          exact fun _ => release_orderly

/-! ## Closing -/

theorem signalUsers_orderly (free : held .state = false) :
    Orderly thread held signalUsers := by
  apply maintains_loop
  · exact nofun
  · apply maintains_bind
    · refine orderly_holding_state free ?_
      refine maintains_bind (orderly_perform rfl) fun fields => ?_
      split
      · exact maintains_pure _
      · exact signalAll_orderly _
    · intro isOver
      split
      · exact maintains_pure _
      · exact maintains_bind (orderly_perform rfl) fun _ => maintains_pure _
  · exact maintains_pure

theorem close_orderly (free : held .state = false) :
    Orderly thread held close.run := by
  refine maintains_bind (orderly_perform rfl) fun first => ?_
  split
  · refine maintains_bind (orderly_holding_state free shutDown_orderly) ?_
    exact fun result => maintains_bind (signalUsers_orderly free) fun _ =>
      maintains_pure _
  · exact maintains_pure _

theorem closeAfter_orderly (error : ChannelError) (free : held .state = false) :
    Orderly thread held (closeAfter error : Operating α).run :=
  maintains_run_bind (maintains_quietly (close_orderly free)) fun _ =>
    maintains_pure _

/-! ## Users of the descriptor -/

theorem leave_orderly (direction : Direction) (completed : Bool)
    (free : held .state = false) :
    Orderly thread held (leave direction completed).run := by
  refine maintains_run_bind (orderly_holding_state free ?_) fun _ => ?_
  · refine maintains_run_bind (orderly_look rfl) fun fields => ?_
    refine maintains_run_bind (orderly_look rfl) fun _ => ?_
    exact maintains_run_ite (maintains_quietly release_orderly)
      (maintains_pure _)
  · cases completed with
    | true => exact maintains_pure _
    | false => exact ensureStillOpen_orderly

theorem register_orderly (free : held .state = false) :
    Orderly thread held register.run := by
  refine orderly_holding_state free ?_
  refine maintains_run_bind (orderly_look rfl) fun fields => ?_
  refine maintains_run_bind ensureOpen_orderly fun _ => ?_
  refine maintains_run_bind (orderly_look rfl) fun isBlocking => ?_
  exact maintains_run_ite (maintains_pure _) (orderly_look rfl)

theorem deregister_orderly (free : held .state = false) :
    Orderly thread held deregister.run := by
  refine orderly_holding_state free ?_
  refine maintains_run_bind (orderly_look rfl) fun fields => ?_
  refine maintains_run_bind (orderly_look rfl) fun _ => ?_
  exact maintains_run_ite release_orderly (maintains_pure _)

/-! ## Binding and connecting -/

/-- Some operations hold the locks of both directions. -/
theorem orderly_holding_both {body : Operating α}
    (h : ∀ held : Holding, held .state = false → Orderly thread held body.run) :
    Orderly thread .none
      (Operating.holding .read (Operating.holding .write body)).run := by
  apply orderly_holding
  · exact nofun
  · apply orderly_holding
    · intro other isHeld
      cases other <;> simp_all [Holding.none, Lock.rank]
    · exact h _ (by simp [Holding.none])

theorem configureBlocking_orderly (blocking : Bool) :
    Orderly thread .none (configureBlocking fd blocking).run := by
  refine orderly_holding_both fun held free => orderly_holding_state free ?_
  refine maintains_run_bind ensureOpen_orderly fun _ => ?_
  refine maintains_run_bind (orderly_look rfl) fun isBlocking => ?_
  refine maintains_run_ite (maintains_pure _) ?_
  refine maintains_run_bind (orderly_look rfl) fun fields => ?_
  refine maintains_run_ite (maintains_pure _) ?_
  exact maintains_run_bind (maintains_onSocket (orderly_perform rfl)) fun _ =>
    orderly_look rfl

theorem bindLocked_orderly (address : Option Address) :
    Orderly thread held (bindLocked fd address).run := by
  refine maintains_run_bind ensureOpen_orderly fun _ => ?_
  refine maintains_run_bind (orderly_look rfl) fun fields => ?_
  refine maintains_run_ite (maintains_pure _) ?_
  refine maintains_run_ite (maintains_pure _) ?_
  refine maintains_run_bind (encode_orderly _) fun record => ?_
  refine maintains_run_bind (maintains_lift (orderly_perform rfl)) ?_
  intro bound
  cases bound with
  | error error => exact maintains_pure _
  | ok _ =>
      refine maintains_run_bind (maintains_lift (orderly_perform rfl)) ?_
      intro answer
      cases answer with
      | error error => exact maintains_pure _
      | ok record =>
          exact maintains_run_bind (orderly_look rfl) fun _ => maintains_pure _

theorem bind_orderly (address : Option Address) :
    Orderly thread .none (bind fd address).run := by
  refine orderly_holding_both fun held free => ?_
  refine maintains_run_bind (orderly_holding_state free (bindLocked_orderly _))
    fun failure => ?_
  cases failure with
  | none => exact maintains_pure _
  | some error => exact closeAfter_orderly _ free

theorem markConnected_orderly (remote : Option Address)
    (free : held .state = false) :
    Orderly thread held (markConnected fd remote).run := by
  refine orderly_holding_state free ?_
  refine maintains_run_bind (orderly_look rfl) fun fields => ?_
  refine maintains_run_bind ensureStillOpen_orderly fun _ => ?_
  refine maintains_run_bind (orderly_look rfl) fun _ => ?_
  refine maintains_run_ite ?_ (maintains_pure _)
  refine maintains_run_bind (maintains_lift (orderly_perform rfl)) ?_
  intro answer
  cases answer with
  | ok record => exact orderly_look rfl
  | error error => exact maintains_pure _

theorem socketConnect_orderly (record : Record) (free : held .state = false) :
    Orderly thread held (Socket.connect fd record) := by
  refine maintains_bind (orderly_call _ free) fun answer => ?_
  split
  · exact maintains_pure _
  · split
    · exact maintains_pure _
    · split <;> exact maintains_pure _
  · exact maintains_pure _

theorem socketPoll_orderly (events : Events) (timeout : Int)
    (free : held .state = false) :
    Orderly thread held (Socket.poll fd events timeout) := by
  refine maintains_bind (orderly_call _ free) fun answer => ?_
  cases answer <;> exact maintains_pure _

/-- An attempt that was interrupted is made again while the channel is open. -/
theorem lookOpen_orderly (value : β) :
    Orderly thread held (do
      pure (if ← Program.perform .isOpen then none else some value)) :=
  maintains_bind (orderly_perform rfl) fun _ => maintains_pure _

theorem attempt_orderly (record : Record) (free : held .state = false) :
    Orderly thread held (attempt fd record) := by
  apply maintains_loop
  · exact nofun
  · refine maintains_bind (socketConnect_orderly record free) fun result => ?_
    split
    · exact lookOpen_orderly _
    · exact maintains_pure _
  · exact maintains_pure

theorem awaitConnection_orderly (record : Record) (blocking : Bool)
    (free : held .state = false) :
    Orderly thread held (awaitConnection fd record blocking) := by
  apply maintains_loop
  · exact nofun
  · refine maintains_bind (socketConnect_orderly record free) fun result => ?_
    split
    · exact maintains_pure _
    · split <;> exact maintains_pure _
    · exact lookOpen_orderly _
    · refine maintains_bind (orderly_perform rfl) fun isOpen => ?_
      split
      · refine maintains_bind (socketPoll_orderly _ _ free) fun ready => ?_
        cases ready with
        | error error => exact maintains_pure _
        | ok status => exact lookOpen_orderly _
      · exact maintains_pure _
  · exact maintains_pure

theorem beginConnect_orderly (free : held .state = false) :
    Orderly thread held beginConnect.run := by
  refine orderly_holding_state free ?_
  refine maintains_run_bind ensureOpen_orderly fun _ => ?_
  refine maintains_run_bind (orderly_look rfl) fun fields => ?_
  refine maintains_run_ite (maintains_pure _) ?_
  exact maintains_run_ite (maintains_pure _) (enter_orderly _)

theorem connect_orderly (address : Address) :
    Orderly thread .none (connect fd address).run := by
  refine maintains_run_bind (encode_orderly _) fun record => ?_
  refine orderly_holding_both fun held free => ?_
  refine maintains_run_bind (beginConnect_orderly free) fun _ => ?_
  refine maintains_run_bind (maintains_lift (attempt_orderly _ free)) ?_
  intro result
  refine maintains_run_bind (leave_orderly _ _ free) fun _ => ?_
  split
  · exact maintains_run_bind (markConnected_orderly _ free) fun _ =>
      maintains_pure _
  · refine maintains_run_bind (orderly_holding_state free ?_) fun _ =>
      maintains_pure _
    refine maintains_run_bind (orderly_look rfl) fun fields => ?_
    exact maintains_run_bind ensureStillOpen_orderly fun _ => orderly_look rfl
  · exact maintains_pure _
  · exact closeAfter_orderly _ free

theorem beginFinish_orderly (free : held .state = false) :
    Orderly thread held beginFinish.run := by
  refine orderly_holding_state free ?_
  refine maintains_run_bind ensureOpen_orderly fun _ => ?_
  refine maintains_run_bind (orderly_look rfl) fun fields => ?_
  refine maintains_run_ite (maintains_pure _) (maintains_run_ite ?_ ?_)
  · split
    · exact maintains_pure _
    · refine maintains_run_bind (encode_orderly _) fun record => ?_
      exact maintains_run_bind (enter_orderly _) fun _ => maintains_pure _
  · exact maintains_pure _

theorem finishConnect_orderly :
    Orderly thread .none (finishConnect fd).run := by
  refine orderly_holding_both fun held free => ?_
  refine maintains_run_bind (beginFinish_orderly free) fun record => ?_
  cases record with
  | none => exact maintains_pure _
  | some record =>
      refine maintains_run_bind (orderly_look rfl) fun blocking => ?_
      refine maintains_run_bind
        (maintains_lift (awaitConnection_orderly _ _ free)) fun result => ?_
      refine maintains_run_bind (leave_orderly _ _ free) fun _ => ?_
      split
      · exact maintains_run_bind (markConnected_orderly _ free) fun _ =>
          maintains_pure _
      · exact maintains_pure _
      · exact closeAfter_orderly _ free

/-! ## Transfers, and waiting -/

theorem beginTransfer_orderly (direction : Direction)
    (free : held .state = false) :
    Orderly thread held (beginTransfer direction).run := by
  refine orderly_holding_state free ?_
  refine maintains_run_bind ensureOpen_orderly fun _ => ?_
  refine maintains_run_bind (orderly_look rfl) fun fields => ?_
  refine maintains_run_ite (maintains_pure _)
    (maintains_run_ite ?_ (maintains_pure _))
  exact maintains_run_bind (enter_orderly _) fun _ => maintains_pure _

theorem endTransfer_orderly (direction : Direction)
    (result : Except OsError IoStatus) (free : held .state = false) :
    Orderly thread held (endTransfer direction result).run := by
  refine maintains_run_bind (leave_orderly _ _ free) fun _ => ?_
  split
  · exact maintains_pure _
  · exact orderly_holding_state free
      (maintains_run_bind (orderly_look rfl) fun _ => maintains_pure _)

theorem orderly_holding_direction {direction : Direction} {body : Program α}
    (h : ∀ held : Holding, held .state = false → Orderly thread held body) :
    Orderly thread .none (Program.holding direction.lock body) := by
  apply orderly_holding
  · exact nofun
  · apply h
    cases direction <;> rfl

theorem transferWith_orderly {direction : Direction}
    {shutBefore shutMeanwhile : Except ChannelError IoStatus} {buffers : β}
    {transfer : Program (Except OsError IoStatus × β)}
    (h : ∀ held : Holding, held .state = false →
      Orderly thread held transfer) :
    Orderly thread .none
      (transferWith direction shutBefore shutMeanwhile buffers transfer) := by
  refine orderly_holding_direction fun held free => ?_
  refine maintains_bind (beginTransfer_orderly _ free) fun begun => ?_
  rcases begun with error | _ | _
  · exact maintains_pure _
  · exact maintains_pure _
  · refine maintains_bind (h held free) fun moved => ?_
    refine maintains_bind (endTransfer_orderly _ _ free) fun ended => ?_
    rcases ended with error | _ | _ <;> exact maintains_pure _

theorem orderly_transfer {exhausted : Bool}
    {outcome : Except OsError IoStatus × β} {call : Call}
    {next : call.Answer → Program (Except OsError IoStatus × β)}
    (hnext : ∀ held answer, Orderly thread held (next answer)) :
    ∀ held : Holding, held .state = false →
      Orderly thread held (if exhausted then pure outcome
        else Program.retry call >>= next) := by
  intro held free
  split
  · exact maintains_pure _
  · exact maintains_bind (orderly_retry fun _ => free) (hnext held)

theorem read_orderly (window : Window) :
    Orderly thread .none (read fd window) := by
  refine transferWith_orderly (orderly_transfer fun held answer => ?_)
  split <;> exact maintains_pure _

theorem readMany_orderly (windows : List Window) :
    Orderly thread .none (readMany fd windows) := by
  refine transferWith_orderly (orderly_transfer fun held answer => ?_)
  split <;> exact maintains_pure _

theorem write_orderly (window : Window) :
    Orderly thread .none (write fd window) := by
  refine transferWith_orderly (orderly_transfer fun held answer => ?_)
  split <;> exact maintains_pure _

theorem writeMany_orderly (windows : List Window) :
    Orderly thread .none (writeMany fd windows) := by
  refine transferWith_orderly (orderly_transfer fun held answer => ?_)
  split <;> exact maintains_pure _

theorem shutdown_orderly (direction : Direction) :
    Orderly thread .none (shutdown fd direction).run := by
  refine orderly_holding_state rfl ?_
  refine maintains_run_bind ensureOpen_orderly fun _ => ?_
  refine maintains_run_bind (orderly_look rfl) fun fields => ?_
  refine maintains_run_ite (maintains_pure _)
    (maintains_run_ite ?_ (maintains_pure _))
  exact maintains_run_bind (maintains_onSocket (orderly_perform rfl)) fun _ =>
    orderly_look rfl

theorem poll_orderly (interest : Interest) (timeout : Option Duration) :
    Orderly thread .none (poll fd interest timeout).run := by
  refine maintains_run_bind (orderly_look rfl) fun isBlocking => ?_
  refine maintains_run_ite (maintains_pure _) ?_
  refine orderly_holding nofun ?_
  refine maintains_run_bind (orderly_holding_state rfl ?_) fun _ => ?_
  · exact maintains_run_bind ensureOpen_orderly fun _ => enter_orderly _
  · refine maintains_run_bind (maintains_lift (socketPoll_orderly _ _ rfl)) ?_
    intro result
    exact maintains_run_bind (leave_orderly _ _ rfl) fun _ => maintains_pure _

/-! ## Options, addresses and settings -/

theorem checkSupported_orderly (option : OptionName) :
    Orderly thread held (checkSupported option).run := by
  rw [checkSupported]
  split <;> exact maintains_pure _

theorem getOption_orderly (option : TypedOption) :
    Orderly thread .none (getOption fd option).run := by
  refine maintains_run_bind (checkSupported_orderly _) fun _ => ?_
  refine orderly_holding_state rfl ?_
  refine maintains_run_bind ensureOpen_orderly fun _ => ?_
  refine maintains_run_bind ?_ fun _ => maintains_pure _
  rw [ExceptT.run_mk, Socket.getOption]
  split
  · exact maintains_pure _
  · refine maintains_bind (orderly_perform rfl) fun answer => ?_
    cases answer <;> exact maintains_pure _

theorem setOption_orderly (setting : Setting) :
    Orderly thread .none (setOption fd setting).run := by
  refine maintains_run_bind (checkSupported_orderly _) fun _ => ?_
  refine orderly_holding_state rfl ?_
  refine maintains_run_bind ensureOpen_orderly fun _ => ?_
  refine maintains_run_bind (maintains_pure _) fun value => ?_
  rw [ExceptT.run_mk, Socket.setOption]
  split
  · exact maintains_pure _
  · split
    · exact maintains_pure _
    · refine maintains_bind (orderly_perform rfl) fun answer => ?_
      cases answer <;> exact maintains_pure _

theorem lifecycle_orderly : Orderly thread .none lifecycle.run :=
  orderly_holding_state rfl
    (maintains_run_bind (orderly_look rfl) fun _ => maintains_pure _)

theorem credentials_orderly : Orderly thread .none (credentials fd).run := by
  refine maintains_run_bind ensureOpen_orderly fun _ => ?_
  refine maintains_run_bind lifecycle_orderly fun state => ?_
  refine maintains_run_ite ?_ (maintains_pure _)
  refine maintains_run_bind (getOption_orderly _) fun reading => ?_
  cases reading <;> exact maintains_pure _

theorem localAddress_orderly : Orderly thread .none localAddress.run :=
  orderly_holding_state rfl (maintains_run_bind ensureOpen_orderly fun _ =>
    maintains_run_bind (orderly_look rfl) fun _ => maintains_pure _)

theorem remoteAddress_orderly :
    Orderly thread .none (remoteAddress fd).run := by
  refine orderly_holding_state rfl ?_
  refine maintains_run_bind ensureOpen_orderly fun _ => ?_
  refine maintains_run_bind (orderly_look rfl) fun fields => ?_
  refine maintains_run_ite ?_ (maintains_pure _)
  refine maintains_run_bind (maintains_onSocket (orderly_perform rfl)) ?_
  exact fun record => maintains_run_bind (orderly_look rfl) fun _ =>
    maintains_pure _

theorem makeChanges_orderly (changes : List Change) :
    Orderly thread .none (makeChanges fd changes).run := by
  induction changes with
  | nil => exact maintains_pure _
  | cons change rest ih =>
      refine maintains_run_bind ?_ fun _ => ih
      cases change with
      | set setting => exact setOption_orderly setting
      | nonBlocking => exact configureBlocking_orderly false

/-! ## Descriptions -/

theorem seeFields_orderly : Orderly thread .none seeFields :=
  orderly_holding_state rfl (orderly_perform rfl)

theorem ready_orderly (events : Events) (interest : Interest) :
    Orderly thread .none (ready events interest) := by
  rw [ready]
  split
  · exact maintains_pure _
  · exact maintains_bind seeFields_orderly fun _ => maintains_pure _

theorem text_orderly : Orderly thread .none text := by
  refine maintains_bind (orderly_perform rfl) fun isOpen => ?_
  split
  · exact maintains_bind seeFields_orderly fun _ => maintains_pure _
  · exact maintains_pure _

theorem inspect_orderly : Orderly thread .none (inspect fd) :=
  orderly_holding_state rfl (maintains_bind (orderly_perform rfl) fun _ =>
    maintains_bind (orderly_perform rfl) fun _ =>
      maintains_bind (orderly_perform rfl) fun _ => maintains_pure _)

theorem flags_orderly : Orderly thread .none (flags fd) :=
  maintains_bind seeFields_orderly fun _ =>
    maintains_bind seeFields_orderly fun _ =>
      maintains_bind seeFields_orderly fun _ => maintains_pure _

theorem snapshot_orderly : Orderly thread .none snapshot :=
  maintains_bind seeFields_orderly fun _ =>
    maintains_bind (orderly_perform rfl) fun _ =>
      maintains_bind (orderly_perform rfl) fun _ =>
        maintains_bind seeFields_orderly fun _ =>
          maintains_bind seeFields_orderly fun _ =>
            maintains_bind seeFields_orderly fun _ => maintains_pure _

/-! ## Registrations, and opening a channel -/

namespace Registration

theorem release_orderly (registration : Registration) :
    Orderly thread .none registration.release := by
  rw [release]
  split
  · exact maintains_bind (deregister_orderly rfl) fun _ => maintains_pure _
  · exact maintains_pure _

theorem drop_orderly (registration : Registration) :
    Orderly thread .none registration.drop.run :=
  maintains_lift (maintains_bind registration.release_orderly fun _ =>
    maintains_pure _)

theorem deregister_orderly (registration : Registration) :
    Orderly thread .none registration.deregister.run := by
  refine maintains_bind registration.release_orderly fun released => ?_
  exact maintains_bind (drop_orderly _) fun _ => maintains_pure _

end Registration

theorem create_orderly (type : SocketType) :
    Orderly thread held (create type).run :=
  maintains_run_bind (maintains_onSocket (orderly_perform rfl)) fun _ =>
    maintains_run_bind (orderly_look rfl) fun _ => maintains_pure _

theorem orClose_orderly {body : Operating α}
    (h : Orderly thread .none body.run) :
    Orderly thread .none (orClose body).run := by
  refine maintains_bind h fun result => ?_
  cases result with
  | ok value => exact maintains_pure _
  | error error =>
      exact maintains_run_bind (maintains_quietly (close_orderly rfl))
        fun _ => maintains_pure _

theorem openConnected_orderly (address : Address) (settings : Settings) :
    Orderly thread .none (openConnected address settings).run := by
  refine maintains_run_bind (create_orderly _) fun fd => ?_
  refine maintains_run_bind (orClose_orderly ?_) fun _ => maintains_pure _
  refine maintains_run_bind (makeChanges_orderly settings.changes) fun _ => ?_
  exact maintains_run_bind (connect_orderly address) fun _ => maintains_pure _

theorem inspectSocket_orderly (fd : Fd) :
    Orderly thread held (inspectSocket fd).run := by
  refine maintains_run_bind (maintains_onSocket (orderly_perform rfl)) ?_
  intro isLocal
  cases isLocal with
  | false => exact maintains_pure _
  | true =>
      refine maintains_run_bind (maintains_lift (orderly_perform rfl)) ?_
      intro peer
      cases peer with
      | error error => exact maintains_pure _
      | ok record =>
          exact maintains_run_bind (maintains_onSocket (orderly_perform rfl))
            fun _ => maintains_pure _

theorem wrap_orderly (fd : Fd) : Orderly thread .none (wrap fd).run := by
  refine maintains_run_bind (maintains_lift (inspectSocket_orderly fd)) ?_
  intro found
  cases found with
  | error error =>
      exact maintains_run_bind (maintains_lift (orderly_perform rfl)) fun _ =>
        maintains_pure _
  | ok blocking =>
      refine maintains_run_bind (orderly_look rfl) fun _ => ?_
      refine maintains_run_bind (maintains_lift (orderly_perform rfl)) ?_
      intro answer
      cases answer with
      | error error => exact maintains_pure _
      | ok record =>
          exact orderly_holding_state rfl (maintains_run_bind (orderly_look rfl)
            fun _ => orderly_look rfl)

theorem accept_orderly (listener : Fd) (settings : Settings) :
    Orderly thread .none (accept listener settings).run := by
  refine maintains_run_bind (maintains_onSocket (orderly_perform rfl)) ?_
  intro fd
  refine maintains_run_bind (wrap_orderly fd) fun _ => ?_
  exact maintains_run_bind
    (orClose_orderly (makeChanges_orderly settings.changes)) fun _ =>
      maintains_pure _

/-! ## All operations -/

theorem reply_orderly {make : α → Reply} {operation : Operating α}
    (h : Orderly thread held operation.run) :
    Orderly thread held (reply make operation) := by
  refine maintains_bind h fun result => ?_
  cases result <;> exact maintains_pure _

theorem program_orderly (operation : Operation) :
    Orderly thread .none (operation.program fd) := by
  cases operation with
  | connect address => exact reply_orderly (connect_orderly address)
  | finishConnect => exact reply_orderly finishConnect_orderly
  | bind address => exact reply_orderly (bind_orderly address)
  | configureBlocking blocking =>
      exact reply_orderly (configureBlocking_orderly blocking)
  | close => exact reply_orderly (close_orderly rfl)
  | shutdown direction => exact reply_orderly (shutdown_orderly direction)
  | apply settings => exact reply_orderly (makeChanges_orderly settings.changes)
  | read window =>
      exact maintains_bind (read_orderly window) fun _ => maintains_pure _
  | readMany windows =>
      exact maintains_bind (readMany_orderly windows) fun _ => maintains_pure _
  | write window =>
      exact maintains_bind (write_orderly window) fun _ => maintains_pure _
  | writeMany windows =>
      exact maintains_bind (writeMany_orderly windows) fun _ => maintains_pure _
  | receive length =>
      refine maintains_bind (maintains_bind (read_orderly _) fun _ =>
        maintains_pure _) fun result => ?_
      split <;> exact maintains_pure _
  | send bytes =>
      refine maintains_bind (maintains_bind (write_orderly _) fun _ =>
        maintains_pure _) fun result => ?_
      split <;> exact maintains_pure _
  | flush | supportedOptions => exact maintains_pure _
  | poll interest timeout => exact reply_orderly (poll_orderly interest timeout)
  | ready events interest =>
      exact maintains_bind (ready_orderly events interest) fun _ =>
        maintains_pure _
  | register => exact reply_orderly (register_orderly rfl)
  | deregister => exact reply_orderly (deregister_orderly rfl)
  | dropRegistration =>
      exact reply_orderly (maintains_quietly (deregister_orderly rfl))
  | getOption option => exact reply_orderly (getOption_orderly option)
  | setOption setting => exact reply_orderly (setOption_orderly setting)
  | credentials => exact reply_orderly credentials_orderly
  | localAddress => exact reply_orderly localAddress_orderly
  | remoteAddress => exact reply_orderly remoteAddress_orderly
  | text => exact maintains_bind text_orderly fun _ => maintains_pure _
  | inspect => exact maintains_bind inspect_orderly fun _ => maintains_pure _
  | flags => exact maintains_bind flags_orderly fun _ => maintains_pure _
  | snapshot => exact maintains_bind snapshot_orderly fun _ => maintains_pure _

end LocalSocket.Channel
