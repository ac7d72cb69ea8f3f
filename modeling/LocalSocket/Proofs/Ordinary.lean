import LocalSocket.Proofs.Maintaining
import LocalSocket.Proofs.Refusal.Operations

/-!
# Ordinary operations

Most operations look at the channel, move bytes, wait, or ask for options.  What
they do to what the threads share is to come and go as users of the descriptor.
A protocol that lets threads do so, and holds something of them at all times,
holds it of these operations.
-/

namespace LocalSocket

/-- The actions of ordinary operations, their coming and going apart. -/
def Action.isOrdinary : Action → Bool
  | .acquire _ | .release _ | .fields | .isOpen | .isBlocking | .thread
  | .pause => true
  | .call (.read ..) | .call (.readMany ..) | .call (.write ..)
  | .call (.writeMany ..) | .call (.poll ..) | .call (.getOption ..)
  | .call (.setOption ..) => true
  | _ => false

def Channel.Operation.isOrdinary : Operation → Bool
  | .connect _ | .finishConnect | .bind _ | .configureBlocking _ | .close
  | .shutdown _ | .apply _ | .register | .deregister | .dropRegistration
  | .remoteAddress => false
  | _ => true

namespace Protocol

open Channel

variable {σ : Type} {P : Protocol σ} {thread : Thread} {I : σ → Prop} {fd : Fd}
  {α β : Type}

theorem maintains_reply {make : α → Reply} {program : Operating α}
    (h : P.Maintains thread I program.run) :
    P.Maintains thread I (reply make program) := by
  refine maintains_bind h fun result => ?_
  cases result <;> exact maintains_pure _

theorem maintains_checkSupported (option : OptionName) :
    P.Maintains thread I (checkSupported option).run := by
  rw [checkSupported]
  split <;> exact maintains_pure _

/-- What a protocol holds of a thread is left alone by ordinary actions. -/
structure Watches (P : Protocol σ) (thread : Thread) (I : σ → Prop) :
    Prop where
  perform : ∀ action, action.isOrdinary = true →
    P.Maintains thread I (Program.perform action)

/-- It is left alone by coming and going, too. -/
structure Hosts (P : Protocol σ) (thread : Thread) (I : σ → Prop) : Prop
    extends P.Watches thread I where
  enter : ∀ direction, P.Maintains thread I (Channel.enter direction).run
  leave : ∀ direction completed,
    P.Maintains thread I (Channel.leave direction completed).run

namespace Watches

variable (watches : P.Watches thread I)
include watches

theorem look {action : Action} (h : action.isOrdinary = true) :
    P.Maintains thread I (Operating.perform action).run :=
  maintains_lift (watches.perform action h)

theorem holding {lock : Lock} {body : Program α}
    (h : P.Maintains thread I body) :
    P.Maintains thread I (Program.holding lock body) :=
  maintains_holding (fun _ hs => watches.perform (.acquire lock) rfl hs)
    (fun _ hs => watches.perform (.release lock) rfl hs) h

theorem ensureOpen : P.Maintains thread I ensureOpen.run := by
  refine maintains_run_bind (watches.look rfl) fun isOpen => ?_
  cases isOpen <;> exact maintains_pure _

/-! ## Options -/

theorem getOption (option : TypedOption) :
    P.Maintains thread I (getOption fd option).run := by
  refine maintains_run_bind (maintains_checkSupported _)
    fun _ => watches.holding ?_
  refine maintains_run_bind watches.ensureOpen fun _ => ?_
  refine maintains_run_bind ?_ fun _ => maintains_pure _
  rw [ExceptT.run_mk, Socket.getOption]
  split
  · exact maintains_pure _
  · refine maintains_bind (watches.perform _ rfl) fun answer => ?_
    cases answer <;> exact maintains_pure _

theorem setOption (setting : Setting) :
    P.Maintains thread I (setOption fd setting).run := by
  refine maintains_run_bind (maintains_checkSupported _)
    fun _ => watches.holding ?_
  refine maintains_run_bind watches.ensureOpen fun _ => ?_
  refine maintains_run_bind (maintains_pure _) fun value => ?_
  rw [ExceptT.run_mk, Socket.setOption]
  split
  · exact maintains_pure _
  · split
    · exact maintains_pure _
    · refine maintains_bind (watches.perform _ rfl) fun answer => ?_
      cases answer <;> exact maintains_pure _

theorem credentials : P.Maintains thread I (credentials fd).run := by
  refine maintains_run_bind watches.ensureOpen fun _ => maintains_run_bind ?_ ?_
  · exact watches.holding (maintains_run_bind (watches.look rfl) fun _ =>
      maintains_pure _)
  · intro state
    split
    · refine maintains_run_bind (watches.getOption _) fun reading => ?_
      cases reading <;> exact maintains_pure _
    · exact maintains_pure _

theorem localAddress : P.Maintains thread I localAddress.run :=
  watches.holding (maintains_run_bind watches.ensureOpen fun _ =>
    maintains_run_bind (watches.look rfl) fun _ => maintains_pure _)

/-! ## Descriptions -/

theorem seeFields : P.Maintains thread I seeFields :=
  watches.holding (watches.perform .fields rfl)

theorem ready (events : Events) (interest : Interest) :
    P.Maintains thread I (ready events interest) := by
  rw [Channel.ready]
  split
  · exact maintains_pure _
  · exact maintains_bind watches.seeFields fun _ => maintains_pure _

theorem text : P.Maintains thread I text := by
  refine maintains_bind (watches.perform .isOpen rfl) fun isOpen => ?_
  split
  · exact maintains_bind watches.seeFields fun _ => maintains_pure _
  · exact maintains_pure _

theorem inspect : P.Maintains thread I (inspect fd) :=
  watches.holding (maintains_bind (watches.perform .fields rfl) fun _ =>
    maintains_bind (watches.perform .isOpen rfl) fun _ =>
      maintains_bind (watches.perform .isBlocking rfl)
        fun _ => maintains_pure _)

theorem flags : P.Maintains thread I (flags fd) :=
  maintains_bind watches.seeFields fun _ =>
    maintains_bind watches.seeFields fun _ =>
      maintains_bind watches.seeFields fun _ => maintains_pure _

theorem snapshot : P.Maintains thread I snapshot :=
  maintains_bind watches.seeFields fun _ =>
    maintains_bind (watches.perform .isOpen rfl) fun _ =>
      maintains_bind (watches.perform .isBlocking rfl) fun _ =>
        maintains_bind watches.seeFields fun _ =>
          maintains_bind watches.seeFields fun _ =>
            maintains_bind watches.seeFields fun _ => maintains_pure _

/-- The operations in which no thread is blocked. -/
theorem program {operation : Operation} (h : operation.isOrdinary = true)
    (aloof : operation.isAloof = true) :
    P.Maintains thread I (operation.program fd) := by
  cases operation with
  | flush | supportedOptions => exact maintains_pure _
  | ready events interest =>
      exact maintains_bind (watches.ready events interest) fun _ =>
        maintains_pure _
  | getOption option => exact maintains_reply (watches.getOption option)
  | setOption setting => exact maintains_reply (watches.setOption setting)
  | credentials => exact maintains_reply watches.credentials
  | localAddress => exact maintains_reply watches.localAddress
  | text => exact maintains_bind watches.text fun _ => maintains_pure _
  | inspect => exact maintains_bind watches.inspect fun _ => maintains_pure _
  | flags => exact maintains_bind watches.flags fun _ => maintains_pure _
  | snapshot => exact maintains_bind watches.snapshot fun _ => maintains_pure _
  | connect | finishConnect | read | write | readMany | writeMany | receive
  | send | poll => cases aloof
  | bind | configureBlocking | close | shutdown | apply | register | deregister
  | dropRegistration | remoteAddress => cases h

end Watches

namespace Hosts

variable (hosts : P.Hosts thread I)
include hosts

/-! ## Transfers, and waiting -/

theorem beginTransfer (direction : Direction) :
    P.Maintains thread I (beginTransfer direction).run := by
  refine hosts.holding (maintains_run_bind hosts.ensureOpen fun _ => ?_)
  refine maintains_run_bind (hosts.look rfl) fun fields => ?_
  refine maintains_run_ite (maintains_pure _)
    (maintains_run_ite ?_ (maintains_pure _))
  exact maintains_run_bind (hosts.enter _) fun _ => maintains_pure _

theorem endTransfer (direction : Direction) (result : Except OsError IoStatus) :
    P.Maintains thread I (endTransfer direction result).run := by
  refine maintains_run_bind (hosts.leave _ _) fun _ => ?_
  split
  · exact maintains_pure _
  · exact hosts.holding (maintains_run_bind (hosts.look rfl) fun _ =>
      maintains_pure _)

theorem transferWith {direction : Direction}
    {shutBefore shutMeanwhile : Except ChannelError IoStatus} {buffers : β}
    {transfer : Program (Except OsError IoStatus × β)}
    (h : P.Maintains thread I transfer) : P.Maintains thread I
      (transferWith direction shutBefore shutMeanwhile buffers transfer) := by
  refine hosts.holding (maintains_bind (hosts.beginTransfer _) fun begun => ?_)
  rcases begun with error | _ | _
  · exact maintains_pure _
  · exact maintains_pure _
  · refine maintains_bind h fun moved => ?_
    refine maintains_bind (hosts.endTransfer _ _) fun ended => ?_
    rcases ended with error | _ | _ <;> exact maintains_pure _

theorem transfer {exhausted : Bool} {outcome : Except OsError IoStatus × β}
    {call : Call} {next : call.Answer → Program (Except OsError IoStatus × β)}
    (h : (Action.call call).isOrdinary = true)
    (hnext : ∀ answer, P.Maintains thread I (next answer)) :
    P.Maintains thread I (if exhausted then pure outcome
      else Program.retry call >>= next) := by
  split
  · exact maintains_pure _
  · exact maintains_bind (maintains_retry fun _ hs => hosts.perform _ h hs)
      hnext

theorem read (window : Window) : P.Maintains thread I (read fd window) := by
  refine hosts.transferWith (hosts.transfer rfl fun answer => ?_)
  split <;> exact maintains_pure _

theorem readMany (windows : List Window) :
    P.Maintains thread I (readMany fd windows) := by
  refine hosts.transferWith (hosts.transfer rfl fun answer => ?_)
  split <;> exact maintains_pure _

theorem write (window : Window) : P.Maintains thread I (write fd window) := by
  refine hosts.transferWith (hosts.transfer rfl fun answer => ?_)
  split <;> exact maintains_pure _

theorem writeMany (windows : List Window) :
    P.Maintains thread I (writeMany fd windows) := by
  refine hosts.transferWith (hosts.transfer rfl fun answer => ?_)
  split <;> exact maintains_pure _

theorem socketPoll {events : Events} {timeout : Int} :
    P.Maintains thread I (Socket.poll fd events timeout) := by
  refine maintains_bind (hosts.perform _ rfl) fun answer => ?_
  cases answer <;> exact maintains_pure _

theorem poll (interest : Interest) (timeout : Option Duration) :
    P.Maintains thread I (poll fd interest timeout).run := by
  refine maintains_run_bind (hosts.look rfl) fun isBlocking => ?_
  refine maintains_run_ite (maintains_pure _) (hosts.holding ?_)
  refine maintains_run_bind (hosts.holding ?_) fun _ => ?_
  · exact maintains_run_bind hosts.ensureOpen fun _ => hosts.enter _
  · refine maintains_run_bind (maintains_lift hosts.socketPoll) fun result => ?_
    exact maintains_run_bind (hosts.leave _ _) fun _ => maintains_pure _

/-! ## All ordinary operations -/

theorem program {operation : Operation} (h : operation.isOrdinary = true) :
    P.Maintains thread I (operation.program fd) := by
  cases operation with
  | connect | finishConnect => cases h
  | read window =>
      exact maintains_bind (hosts.read window) fun _ => maintains_pure _
  | readMany windows =>
      exact maintains_bind (hosts.readMany windows) fun _ => maintains_pure _
  | write window =>
      exact maintains_bind (hosts.write window) fun _ => maintains_pure _
  | writeMany windows =>
      exact maintains_bind (hosts.writeMany windows) fun _ => maintains_pure _
  | receive length =>
      rw [Looking.receive_eq]
      exact maintains_bind (hosts.read _) fun _ => maintains_pure _
  | send bytes =>
      rw [Looking.send_eq]
      exact maintains_bind (hosts.write _) fun _ => maintains_pure _
  | poll interest timeout => exact maintains_reply (hosts.poll interest timeout)
  | _ => exact hosts.toWatches.program h rfl

end Hosts

end Protocol

end LocalSocket
