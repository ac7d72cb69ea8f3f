import LocalSocket.Proofs.Lifecycle
import LocalSocket.Proofs.Refusal.Operations

/-!
# All operations write the state with good reason

Only binding and connecting to a peer have anything to do with the lifecycle;
what other operations write leaves the state as it is or closes the channel.
-/

namespace LocalSocket.Knowledge

open Protocol Channel

variable {fd : Fd} {thread : Thread} {fields : Fields} {α β : Type}

/-! ## Operations that do not connect -/

theorem configureBlocking_roams (blocking : Bool) :
    Roams fd thread (configureBlocking fd blocking).run := by
  refine roams_holding (roams_holding (roams_holding ?_))
  refine maintains_run_bind ensureOpen_roams fun _ => ?_
  refine maintains_run_bind (roams_look rfl) fun isBlocking => ?_
  split
  · exact roams_pure _
  · refine maintains_run_bind (roams_look rfl) fun fields => ?_
    split
    · exact roams_pure _
    · refine maintains_run_bind (maintains_onSocket (roams_perform rfl))
        fun _ => roams_look rfl

theorem bindLocked_roams (address : Option Address) :
    Roams fd thread (bindLocked fd address).run := by
  refine maintains_run_bind ensureOpen_roams fun _ => ?_
  refine roams_fields fun fields s known => ?_
  simp only [meets_run_ite]
  split
  · trivial
  · split
    · trivial
    · rw [meets_run_bind]
      refine encode_meets fun record => ?_
      cases record with
      | error error => trivial
      | ok record =>
          simp only [meets_run_bind, meets_run_lift]
          refine ⟨nofun, fun bound => ?_⟩
          cases bound with
          | error error => trivial
          | ok =>
              refine ⟨nofun, fun named => ?_⟩
              cases named with
              | error error => trivial
              | ok record => exact put_meets known (.unmoved rfl) trivial

theorem bind_roams (address : Option Address) :
    Roams fd thread (Channel.bind fd address).run := by
  refine roams_holding (roams_holding ?_)
  refine maintains_run_bind (roams_holding (bindLocked_roams address)) fun
    | none => roams_pure _
    | some error => closeAfter_roams _

theorem shutdown_roams (direction : Direction) :
    Roams fd thread (Channel.shutdown fd direction).run := by
  refine roams_holding (maintains_run_bind ensureOpen_roams fun _ => ?_)
  refine roams_fields fun fields s known => ?_
  simp only [meets_run_ite]
  split
  · trivial
  · split
    · rw [meets_run_bind, meets_run_onSocket]
      refine ⟨nofun, fun answer => ?_⟩
      cases answer with
      | error error => trivial
      | ok => exact put_roams known (.unmoved (Fields.shutDirection_state ..))
    · trivial

theorem checkSupported_roams (option : OptionName) :
    Roams fd thread (checkSupported option).run := by
  rw [checkSupported]
  split <;> exact roams_pure _

theorem getOption_roams (option : TypedOption) :
    Roams fd thread (Channel.getOption fd option).run := by
  refine maintains_run_bind (checkSupported_roams _) fun _ => roams_holding ?_
  refine maintains_run_bind ensureOpen_roams fun _ => ?_
  refine maintains_run_bind ?_ fun _ => roams_pure _
  rw [ExceptT.run_mk, Socket.getOption]
  split
  · exact roams_pure _
  · refine maintains_bind (roams_perform rfl) fun answer => ?_
    cases answer <;> exact roams_pure _

theorem setOption_roams (setting : Setting) :
    Roams fd thread (Channel.setOption fd setting).run := by
  refine maintains_run_bind (checkSupported_roams _) fun _ => roams_holding ?_
  refine maintains_run_bind ensureOpen_roams fun _ => ?_
  refine maintains_run_bind (roams_pure _) fun value => ?_
  rw [ExceptT.run_mk, Socket.setOption]
  split
  · exact roams_pure _
  · split
    · exact roams_pure _
    · refine maintains_bind (roams_perform rfl) fun answer => ?_
      cases answer <;> exact roams_pure _

theorem makeChanges_roams (changes : List Change) :
    Roams fd thread (makeChanges fd changes).run := by
  induction changes with
  | nil => exact roams_pure _
  | cons change rest ih =>
      refine maintains_run_bind ?_ fun _ => ih
      cases change with
      | set setting => exact setOption_roams setting
      | nonBlocking => exact configureBlocking_roams false

theorem credentials_roams : Roams fd thread (Channel.credentials fd).run := by
  refine maintains_run_bind ensureOpen_roams fun _ => maintains_run_bind ?_ ?_
  · exact roams_holding (maintains_run_bind (roams_look rfl) fun _ =>
      roams_pure _)
  · intro state
    split
    · refine maintains_run_bind (getOption_roams _) fun reading => ?_
      cases reading <;> exact roams_pure _
    · exact roams_pure _

theorem localAddress_roams : Roams fd thread Channel.localAddress.run :=
  roams_holding (maintains_run_bind ensureOpen_roams fun _ =>
    maintains_run_bind (roams_look rfl) fun _ => roams_pure _)

theorem remoteAddress_roams :
    Roams fd thread (Channel.remoteAddress fd).run := by
  refine roams_holding (maintains_run_bind ensureOpen_roams fun _ => ?_)
  refine roams_fields fun fields s known => ?_
  rw [meets_run_ite]
  split
  · rw [meets_run_bind, meets_run_onSocket]
    refine ⟨nofun, fun answer => ?_⟩
    cases answer with
    | error error => trivial
    | ok record => exact put_meets known (.unmoved rfl) trivial
  · trivial

/-! ## Transfers, and waiting -/

theorem beginTransfer_roams (direction : Direction) :
    Roams fd thread (beginTransfer direction).run := by
  refine roams_holding (maintains_run_bind ensureOpen_roams fun _ => ?_)
  refine maintains_run_bind (roams_look rfl) fun fields => ?_
  refine maintains_run_ite (roams_pure _) (maintains_run_ite ?_ (roams_pure _))
  exact maintains_run_bind enter_roams fun _ => roams_pure _

theorem endTransfer_roams (direction : Direction)
    (result : Except OsError IoStatus) :
    Roams fd thread (endTransfer direction result).run := by
  refine maintains_run_bind leave_roams fun _ => ?_
  split
  · exact roams_pure _
  · exact roams_holding (maintains_run_bind (roams_look rfl) fun _ =>
      roams_pure _)

theorem transferWith_roams {direction : Direction}
    {shutBefore shutMeanwhile : Except ChannelError IoStatus} {buffers : β}
    {transfer : Program (Except OsError IoStatus × β)}
    (h : Roams fd thread transfer) :
    Roams fd thread
      (transferWith direction shutBefore shutMeanwhile buffers transfer) := by
  refine roams_holding (maintains_bind (beginTransfer_roams _) fun begun => ?_)
  rcases begun with error | _ | _
  · exact roams_pure _
  · exact roams_pure _
  · refine maintains_bind h fun moved => ?_
    refine maintains_bind (endTransfer_roams _ _) fun ended => ?_
    rcases ended with error | _ | _ <;> exact roams_pure _

theorem transfer_roams {exhausted : Bool}
    {outcome : Except OsError IoStatus × β} {call : Call}
    {next : call.Answer → Program (Except OsError IoStatus × β)}
    (h : (Action.call call).isNeutral = true)
    (hnext : ∀ answer, Roams fd thread (next answer)) :
    Roams fd thread (if exhausted then pure outcome
      else Program.retry call >>= next) := by
  split
  · exact roams_pure _
  · exact maintains_bind (roams_retry h) hnext

theorem read_roams (window : Window) :
    Roams fd thread (Channel.read fd window) := by
  refine transferWith_roams (transfer_roams rfl fun answer => ?_)
  split <;> exact roams_pure _

theorem readMany_roams (windows : List Window) :
    Roams fd thread (Channel.readMany fd windows) := by
  refine transferWith_roams (transfer_roams rfl fun answer => ?_)
  split <;> exact roams_pure _

theorem write_roams (window : Window) :
    Roams fd thread (Channel.write fd window) := by
  refine transferWith_roams (transfer_roams rfl fun answer => ?_)
  split <;> exact roams_pure _

theorem writeMany_roams (windows : List Window) :
    Roams fd thread (Channel.writeMany fd windows) := by
  refine transferWith_roams (transfer_roams rfl fun answer => ?_)
  split <;> exact roams_pure _

theorem poll_roams (interest : Interest) (timeout : Option Duration) :
    Roams fd thread (Channel.poll fd interest timeout).run := by
  refine maintains_run_bind (roams_look rfl) fun isBlocking => ?_
  refine maintains_run_ite (roams_pure _) (roams_holding ?_)
  refine maintains_run_bind (roams_holding ?_) fun _ => ?_
  · exact maintains_run_bind ensureOpen_roams fun _ => enter_roams
  · refine maintains_run_bind (maintains_lift socketPoll_maintains)
      fun result => ?_
    exact maintains_run_bind leave_roams fun _ => roams_pure _

/-! ## Descriptions -/

theorem seeFields_roams : Roams fd thread seeFields :=
  roams_holding (roams_perform rfl)

theorem ready_roams (events : Events) (interest : Interest) :
    Roams fd thread (Channel.ready events interest) := by
  rw [Channel.ready]
  split
  · exact roams_pure _
  · exact maintains_bind seeFields_roams fun _ => roams_pure _

theorem text_roams : Roams fd thread Channel.text := by
  refine maintains_bind (roams_perform rfl) fun isOpen => ?_
  split
  · exact maintains_bind seeFields_roams fun _ => roams_pure _
  · exact roams_pure _

theorem inspect_roams : Roams fd thread (Channel.inspect fd) :=
  roams_holding (maintains_bind (roams_perform rfl) fun _ =>
    maintains_bind (roams_perform rfl) fun _ =>
      maintains_bind (roams_perform rfl) fun _ => roams_pure _)

theorem flags_roams : Roams fd thread (Channel.flags fd) :=
  maintains_bind seeFields_roams fun _ =>
    maintains_bind seeFields_roams fun _ =>
      maintains_bind seeFields_roams fun _ => roams_pure _

theorem snapshot_roams : Roams fd thread Channel.snapshot :=
  maintains_bind seeFields_roams fun _ =>
    maintains_bind (roams_perform rfl) fun _ =>
      maintains_bind (roams_perform rfl) fun _ =>
        maintains_bind seeFields_roams fun _ =>
          maintains_bind seeFields_roams fun _ =>
            maintains_bind seeFields_roams fun _ => roams_pure _

/-! ## All operations -/

theorem reply_knows {s : Knowledge} {make : α → Reply} {program : Operating α}
    (h : (knowing fd).Meets thread program.run (fun _ _ => True) s) :
    (knowing fd).Meets thread (reply make program) (fun _ _ => True) s := by
  rw [meets_reply]
  refine h.mono fun result s' _ => ?_
  cases result <;> trivial

theorem reply_roams {make : α → Reply} {program : Operating α}
    (h : Roams fd thread program.run) :
    Roams fd thread (reply make program) :=
  fun _ hs => reply_knows (h hs)

theorem program_roams {operation : Operation}
    (hconnect : ∀ address, operation ≠ .connect address)
    (hfinish : operation ≠ .finishConnect) :
    Roams fd thread (operation.program fd) := by
  cases operation with
  | connect address => exact absurd rfl (hconnect address)
  | finishConnect => exact absurd rfl hfinish
  | bind address => exact reply_roams (bind_roams address)
  | configureBlocking blocking =>
      exact reply_roams (configureBlocking_roams blocking)
  | close => exact reply_roams close_roams
  | shutdown direction => exact reply_roams (shutdown_roams direction)
  | apply settings => exact reply_roams (makeChanges_roams _)
  | read window =>
      exact maintains_bind (read_roams window) fun _ => roams_pure _
  | readMany windows =>
      exact maintains_bind (readMany_roams windows) fun _ => roams_pure _
  | write window =>
      exact maintains_bind (write_roams window) fun _ => roams_pure _
  | writeMany windows =>
      exact maintains_bind (writeMany_roams windows) fun _ => roams_pure _
  | receive length =>
      rw [Looking.receive_eq]
      exact maintains_bind (read_roams _) fun _ => roams_pure _
  | send bytes =>
      rw [Looking.send_eq]
      exact maintains_bind (write_roams _) fun _ => roams_pure _
  | flush | supportedOptions => exact roams_pure _
  | poll interest timeout => exact reply_roams (poll_roams interest timeout)
  | ready events interest =>
      exact maintains_bind (ready_roams events interest) fun _ => roams_pure _
  | register => exact reply_roams register_roams
  | deregister => exact reply_roams deregister_roams
  | dropRegistration =>
      exact reply_roams (maintains_quietly deregister_roams)
  | getOption option => exact reply_roams (getOption_roams option)
  | setOption setting => exact reply_roams (setOption_roams setting)
  | credentials => exact reply_roams credentials_roams
  | localAddress => exact reply_roams localAddress_roams
  | remoteAddress => exact reply_roams remoteAddress_roams
  | text => exact maintains_bind text_roams fun _ => roams_pure _
  | inspect => exact maintains_bind inspect_roams fun _ => roams_pure _
  | flags => exact maintains_bind flags_roams fun _ => roams_pure _
  | snapshot => exact maintains_bind snapshot_roams fun _ => roams_pure _

theorem obeyed (fd : Fd) : (knowing fd).Obeyed fd := by
  intro thread operation _
  cases operation with
  | connect address => exact reply_knows (connect_meets rfl)
  | finishConnect => exact reply_knows (finishConnect_meets rfl)
  | _ => exact program_roams (by simp) (by simp) trivial

end LocalSocket.Knowledge
