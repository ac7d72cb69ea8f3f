import LocalSocket.Channel.Operation
import LocalSocket.Proofs.Protocol

/-!
# Programs that never block

Whatever it is answered, an aloof program makes no call in which its thread may
be blocked, and takes ownership of nothing.  Under a protocol that leaves other
actions to the threads, such a program ends with the standing that it started
with.
-/

namespace LocalSocket

/-- Neither a call in which a thread may be blocked nor the start of a
channel. -/
def Action.isAloof : Action → Bool
  | .own .. => false
  | .call request => !request.isBlocking
  | _ => true

@[simp] theorem Action.isAloof_call {request : Call} :
    (Action.call request).isAloof = !request.isBlocking := rfl

def Protocol.aloof : Protocol Unit where
  act _ _ action k := action.isAloof = true ∧ ∀ result, k result ()
  mono := fun himp h => ⟨h.1, fun result => himp _ _ (h.2 result)⟩
  rest := ()
  opens := fun _ => ()
  closes := fun _ _ _ => True

/-- All that is known of the value of the program is that it gets to one. -/
def Program.IsAloof {α : Type} (program : Program α) : Prop :=
  Protocol.aloof.Meets 0 program (fun _ _ => True) ()

namespace Protocol

variable {σ : Type} {P : Protocol σ} {thread : Thread} {α β : Type}

@[simp] theorem aloof_act {action : Action} {k : action.Result → Unit → Prop} :
    aloof.act thread () action k ↔
      action.isAloof = true ∧ ∀ result, k result () := Iff.rfl

/-- What an aloof program gives holds under every protocol to which aloof
actions make no difference. -/
theorem Meets.of_aloof {program : Program α} {post : α → σ → Prop} {s : σ}
    {other : Thread}
    (hact : ∀ {action : Action} {k : action.Result → σ → Prop},
      action.isAloof = true → (∀ result, k result s) → P.act thread s action k)
    (h : aloof.Meets other program (fun value _ => post value s) ()) :
    P.Meets thread program post s := by
  induction program with
  | done value => exact h
  | act action next ih =>
      obtain ⟨haloof, hnext⟩ := h
      exact hact haloof fun result => ih result (hnext result)
  | loop body next ihBody ihNext =>
      obtain ⟨hguard, invariant, hs, hbody⟩ := h
      -- no action changes the standing, which makes it an invariant of the loop
      refine ⟨hguard, fun s' => s' = s, rfl, fun s' hs' => ?_⟩
      subst hs'
      refine ihBody ((hbody () hs).mono fun value _ hvalue => ?_)
      cases value with
      | none => rfl
      | some value => exact ihNext value hvalue

end Protocol

namespace Program.IsAloof

open Protocol

variable {α β : Type}

theorem meets {program : Program α} (h : program.IsAloof)
    {post : α → Unit → Prop} (hpost : ∀ value, post value ()) :
    aloof.Meets 0 program post () :=
  Meets.mono h fun value _ _ => hpost value

theorem pure (value : α) : (pure value : Program α).IsAloof := trivial

theorem perform {action : Action} (h : action.isAloof = true) :
    (perform action).IsAloof :=
  ⟨h, fun _ => trivial⟩

theorem bind {program : Program α} {f : α → Program β} (h : program.IsAloof)
    (hf : ∀ value, (f value).IsAloof) : (program >>= f).IsAloof := by
  unfold IsAloof
  rw [meets_bind_eq]
  exact h.meets hf

theorem holding {lock : Lock} {body : Program α} (h : body.IsAloof) :
    (Program.holding lock body).IsAloof :=
  bind (perform (by simp [Action.isAloof])) fun _ => bind h fun _ =>
    bind (perform (by simp [Action.isAloof])) fun _ => pure _

theorem retry {call : Call} (h : call.isBlocking = false) :
    (Program.retry call).IsAloof := by
  refine meets_retry (fun _ => True) trivial
    fun _ _ => ⟨by simp [Action.isAloof, h], ?_⟩
  intro answer
  cases answer with
  | ok value => trivial
  | error error => by_cases hi : error.isInterrupted <;> simp [hi]

end Program.IsAloof

namespace Operating

open Protocol

variable {α β : Type}

theorem isAloof_pure (value : α) :
    (pure value : Operating α).run.IsAloof := trivial

theorem isAloof_throw (error : ChannelError) :
    (throw error : Operating α).run.IsAloof := trivial

theorem isAloof_lift {program : Program α} (h : program.IsAloof) :
    (ExceptT.lift program : Operating α).run.IsAloof := by
  unfold Program.IsAloof
  rw [meets_run_lift]
  exact h

theorem isAloof_perform {action : Action} (h : action.isAloof = true) :
    (perform action).run.IsAloof :=
  isAloof_lift (.perform h)

theorem isAloof_bind {operation : Operating α} {f : α → Operating β}
    (h : operation.run.IsAloof) (hf : ∀ value, (f value).run.IsAloof) :
    (operation >>= f).run.IsAloof := by
  unfold Program.IsAloof
  rw [meets_run_bind]
  refine h.meets fun result => ?_
  cases result with
  | ok value => exact hf value
  | error error => trivial

theorem isAloof_ite {condition : Prop} [Decidable condition]
    {operation other : Operating α} (h : operation.run.IsAloof)
    (hother : other.run.IsAloof) :
    (ExceptT.run (if condition then operation else other)).IsAloof := by
  split
  · exact h
  · exact hother

theorem isAloof_holding {lock : Lock} {body : Operating α}
    (h : body.run.IsAloof) :
    (holding lock body).run.IsAloof :=
  Program.IsAloof.holding h

theorem isAloof_onSocket {program : Program (Except OsError α)}
    (h : program.IsAloof) :
    (onSocket program).run.IsAloof := by
  unfold Program.IsAloof
  rw [meets_run_onSocket]
  refine h.meets fun result => ?_
  cases result <;> trivial

theorem isAloof_quietly {operation : Operating Unit}
    (h : operation.run.IsAloof) :
    (quietly operation).run.IsAloof := by
  unfold Program.IsAloof
  rw [meets_run_quietly]
  exact h

end Operating

namespace Channel

open Operating

variable {fd : Fd}

/-! ## Closing, and users of the descriptor -/

theorem ensureOpen_isAloof : ensureOpen.run.IsAloof := by
  refine isAloof_bind (isAloof_perform rfl) fun isOpen => ?_
  cases isOpen <;> trivial

theorem ensureStillOpen_isAloof : ensureStillOpen.run.IsAloof := by
  refine isAloof_bind (isAloof_perform rfl) fun isOpen => ?_
  cases isOpen <;> trivial

theorem release_isAloof : release.run.IsAloof := by
  refine isAloof_bind (isAloof_perform rfl) fun fields => ?_
  split
  · trivial
  · split
    · exact isAloof_perform rfl
    · refine isAloof_bind (isAloof_perform rfl) fun _ => ?_
      split
      · trivial
      · refine isAloof_bind (isAloof_lift (.retry rfl)) fun result => ?_
        cases result <;> trivial

theorem signalAll_isAloof (threads : List Thread) :
    (signalAll threads).IsAloof := by
  induction threads with
  | nil => trivial
  | cons thread rest ih =>
      refine .bind (.perform rfl) fun answer => ?_
      cases answer with
      | ok value => exact ih
      | error error => trivial

theorem signalUsers_isAloof : signalUsers.IsAloof := by
  refine Protocol.meets_loop (fun _ => True) nofun trivial fun _ _ => ?_
  simp only [Protocol.meets_bind_eq]
  refine Program.IsAloof.meets
    (.holding (.bind (.perform rfl) fun fields => ?_)) fun isOver => ?_
  · split
    · trivial
    · exact signalAll_isAloof _
  · cases isOver with
    | true => trivial
    | false => exact ⟨rfl, fun _ => trivial⟩

theorem shutDown_isAloof : shutDown.run.IsAloof := by
  refine isAloof_bind (isAloof_perform rfl) fun fields => ?_
  refine isAloof_bind (isAloof_perform rfl) fun _ => ?_
  split
  · split
    · exact release_isAloof
    · exact isAloof_bind (isAloof_lift (.perform rfl)) fun _ => release_isAloof
  · exact release_isAloof

theorem close_isAloof : close.run.IsAloof := by
  refine .bind (.perform rfl) fun first => ?_
  split
  · exact .bind (isAloof_holding shutDown_isAloof)
      fun _ => .bind signalUsers_isAloof fun _ => trivial
  · trivial

theorem enter_isAloof (direction : Direction) : (enter direction).run.IsAloof :=
  isAloof_bind (isAloof_perform rfl) fun _ => isAloof_bind (isAloof_perform rfl)
    fun _ =>
    isAloof_perform rfl

theorem leave_isAloof (direction : Direction) (completed : Bool) :
    (leave direction completed).run.IsAloof := by
  refine isAloof_bind (isAloof_holding ?_) fun _ => ?_
  · refine isAloof_bind (isAloof_perform rfl) fun fields => ?_
    refine isAloof_bind (isAloof_perform rfl) fun _ => ?_
    split
    · exact isAloof_quietly release_isAloof
    · trivial
  · cases completed with
    | true => trivial
    | false => exact ensureStillOpen_isAloof

theorem register_isAloof : register.run.IsAloof := by
  refine isAloof_holding <| isAloof_bind (isAloof_perform rfl) fun fields => ?_
  refine isAloof_bind ensureOpen_isAloof
    fun _ => isAloof_bind (isAloof_perform rfl) fun blocking => ?_
  split
  · trivial
  · exact isAloof_perform rfl

theorem deregister_isAloof : deregister.run.IsAloof := by
  refine isAloof_holding <| isAloof_bind (isAloof_perform rfl) fun fields => ?_
  refine isAloof_bind (isAloof_perform rfl) fun _ => ?_
  split
  · exact release_isAloof
  · trivial

/-! ## Binding, and what surrounds connecting -/

theorem closeAfter_isAloof {α : Type} (error : ChannelError) :
    (closeAfter error : Operating α).run.IsAloof :=
  isAloof_bind (isAloof_quietly close_isAloof) fun _ => isAloof_throw error

theorem encode_isAloof (address : Address) : (encode address).run.IsAloof := by
  rw [encode]
  split <;> trivial

theorem configureBlocking_isAloof (blocking : Bool) :
    (configureBlocking fd blocking).run.IsAloof := by
  refine isAloof_holding <| isAloof_holding <| isAloof_holding ?_
  refine isAloof_bind ensureOpen_isAloof
    fun _ => isAloof_bind (isAloof_perform rfl) fun _ => ?_
  split
  · trivial
  · refine isAloof_bind (isAloof_perform rfl) fun fields => ?_
    split
    · trivial
    · exact isAloof_bind (isAloof_onSocket (.perform rfl))
        fun _ => isAloof_perform rfl

theorem bindLocked_isAloof (address : Option Address) :
    (bindLocked fd address).run.IsAloof := by
  refine isAloof_bind ensureOpen_isAloof
    fun _ => isAloof_bind (isAloof_perform rfl) fun fields => ?_
  refine isAloof_ite trivial (isAloof_ite trivial ?_)
  refine isAloof_bind (encode_isAloof _) fun record => ?_
  refine isAloof_bind (isAloof_lift (.perform rfl)) fun bound => ?_
  split
  · trivial
  · refine isAloof_bind (isAloof_lift (.perform rfl)) fun record => ?_
    split
    · trivial
    · exact isAloof_bind (isAloof_perform rfl) fun _ => isAloof_pure _

theorem bind_isAloof (address : Option Address) :
    (Channel.bind fd address).run.IsAloof := by
  refine isAloof_holding <| isAloof_holding ?_
  refine isAloof_bind (isAloof_holding (bindLocked_isAloof address))
    fun failure => ?_
  cases failure with
  | none => trivial
  | some error => exact closeAfter_isAloof _

theorem markConnected_isAloof (remote : Option Address) :
    (markConnected fd remote).run.IsAloof := by
  refine isAloof_holding <| isAloof_bind (isAloof_perform rfl) fun fields => ?_
  refine isAloof_bind ensureStillOpen_isAloof
    fun _ => isAloof_bind (isAloof_perform rfl) fun _ => ?_
  split
  · refine isAloof_bind (isAloof_lift (.perform rfl)) fun record => ?_
    cases record with
    | ok record => exact isAloof_perform rfl
    | error error => trivial
  · trivial

theorem beginConnect_isAloof : beginConnect.run.IsAloof := by
  refine isAloof_holding <| isAloof_bind ensureOpen_isAloof fun _ => ?_
  refine isAloof_bind (isAloof_perform rfl) fun fields => ?_
  exact isAloof_ite trivial (isAloof_ite trivial (enter_isAloof .input))

theorem beginFinish_isAloof : beginFinish.run.IsAloof := by
  refine isAloof_holding <| isAloof_bind ensureOpen_isAloof fun _ => ?_
  refine isAloof_bind (isAloof_perform rfl) fun fields => ?_
  split
  · trivial
  · split
    · split
      · trivial
      · exact isAloof_bind (encode_isAloof _)
          fun _ => isAloof_bind (enter_isAloof .input) fun _ =>
          isAloof_pure _
    · trivial

/-! ## What surrounds transfers and waiting -/

theorem beginTransfer_isAloof (direction : Direction) :
    (beginTransfer direction).run.IsAloof := by
  refine isAloof_holding <| isAloof_bind ensureOpen_isAloof fun _ => ?_
  refine isAloof_bind (isAloof_perform rfl)
    fun fields => isAloof_ite trivial (isAloof_ite ?_ trivial)
  exact isAloof_bind (enter_isAloof direction) fun _ => isAloof_pure _

theorem isDirectionOpen_isAloof (direction : Direction) :
    (isDirectionOpen direction).run.IsAloof :=
  isAloof_holding <| isAloof_bind (isAloof_perform rfl) fun _ => isAloof_pure _

theorem shutdown_isAloof (direction : Direction) :
    (Channel.shutdown fd direction).run.IsAloof := by
  refine isAloof_holding <| isAloof_bind ensureOpen_isAloof fun _ => ?_
  refine isAloof_bind (isAloof_perform rfl)
    fun fields => isAloof_ite trivial (isAloof_ite ?_ trivial)
  exact isAloof_bind (isAloof_onSocket (.perform rfl))
    fun _ => isAloof_perform rfl

theorem enterOpen_isAloof : enterOpen.run.IsAloof :=
  isAloof_holding <| isAloof_bind ensureOpen_isAloof
    fun _ => enter_isAloof .input

/-! ## Options, addresses and settings -/

theorem socketGetOption_isAloof (scope : Scope) (option : OptionName) :
    (Socket.getOption fd scope option).IsAloof := by
  rw [Socket.getOption]
  split
  · trivial
  · refine .bind (.perform rfl) fun answer => ?_
    cases answer <;> trivial

theorem socketSetOption_isAloof (scope : Scope) (option : OptionName)
    (value : OptionValue) :
    (Socket.setOption fd scope option value).IsAloof := by
  rw [Socket.setOption]
  split
  · trivial
  · split
    · trivial
    · refine .bind (.perform rfl) fun answer => ?_
      cases answer <;> trivial

theorem checkSupported_isAloof (option : OptionName) :
    (checkSupported option).run.IsAloof := by
  rw [checkSupported]
  split <;> trivial

theorem getOption_isAloof (option : TypedOption) :
    (Channel.getOption fd option).run.IsAloof := by
  refine isAloof_bind (checkSupported_isAloof _) fun _ => isAloof_holding ?_
  refine isAloof_bind ensureOpen_isAloof fun _ => ?_
  exact isAloof_bind (socketGetOption_isAloof _ _) fun _ => isAloof_pure _

theorem setOption_isAloof (setting : Setting) :
    (Channel.setOption fd setting).run.IsAloof := by
  refine isAloof_bind (checkSupported_isAloof _) fun _ => isAloof_holding ?_
  refine isAloof_bind ensureOpen_isAloof fun _ => ?_
  exact isAloof_bind trivial fun _ => socketSetOption_isAloof _ _ _

theorem makeChanges_isAloof (changes : List Change) :
    (makeChanges fd changes).run.IsAloof := by
  induction changes with
  | nil => trivial
  | cons change rest ih =>
      refine isAloof_bind ?_ fun _ => ih
      cases change with
      | set setting => exact setOption_isAloof setting
      | nonBlocking => exact configureBlocking_isAloof false

theorem credentials_isAloof : (Channel.credentials fd).run.IsAloof := by
  refine isAloof_bind ensureOpen_isAloof fun _ => isAloof_bind ?_
    fun state => ?_
  · exact isAloof_holding <| isAloof_bind (isAloof_perform rfl)
      fun _ => isAloof_pure _
  · split
    · refine isAloof_bind (getOption_isAloof _) fun reading => ?_
      cases reading <;> trivial
    · trivial

theorem localAddress_isAloof : Channel.localAddress.run.IsAloof :=
  isAloof_holding <| isAloof_bind ensureOpen_isAloof fun _ =>
    isAloof_bind (isAloof_perform rfl) fun _ => isAloof_pure _

theorem remoteAddress_isAloof : (Channel.remoteAddress fd).run.IsAloof := by
  refine isAloof_holding <| isAloof_bind ensureOpen_isAloof fun _ => ?_
  refine isAloof_bind (isAloof_perform rfl) fun fields => ?_
  split
  · exact isAloof_bind (isAloof_onSocket (.perform rfl)) fun _ =>
      isAloof_bind (isAloof_perform rfl) fun _ => isAloof_pure _
  · trivial

/-! ## Descriptions -/

theorem seeFields_isAloof : seeFields.IsAloof := .holding (.perform rfl)

theorem snapshot_isAloof : Channel.snapshot.IsAloof :=
  .bind seeFields_isAloof fun _ => .bind (.perform rfl)
    fun _ => .bind (.perform rfl) fun _ =>
    .bind seeFields_isAloof fun _ => .bind seeFields_isAloof fun _ =>
      .bind seeFields_isAloof fun _ => .pure _

theorem flags_isAloof : (Channel.flags fd).IsAloof :=
  .bind seeFields_isAloof fun _ => .bind seeFields_isAloof fun _ =>
    .bind seeFields_isAloof fun _ => .pure _

theorem text_isAloof : Channel.text.IsAloof := by
  refine .bind (.perform rfl) fun isOpen => ?_
  split
  · exact .bind seeFields_isAloof fun _ => .pure _
  · trivial

theorem inspect_isAloof : (Channel.inspect fd).IsAloof :=
  .holding <| .bind (.perform rfl) fun _ => .bind (.perform rfl) fun _ =>
    .bind (.perform rfl) fun _ => .pure _

theorem ready_isAloof (events : Events) (interest : Interest) :
    (Channel.ready events interest).IsAloof := by
  rw [Channel.ready]
  split
  · trivial
  · exact .bind seeFields_isAloof fun _ => .pure _

/-! ## Operations -/

def Operation.isAloof : Operation → Bool
  | connect _ | finishConnect | read _ | write _ | readMany _ | writeMany _
  | receive _ | send _ | poll .. => false
  | _ => true

theorem reply_isAloof {α : Type} (make : α → Reply) {operation : Operating α}
    (h : operation.run.IsAloof) : (reply make operation).IsAloof := by
  refine .bind h fun result => ?_
  cases result <;> trivial

theorem program_isAloof {operation : Operation} (h : operation.isAloof = true) :
    (operation.program fd).IsAloof := by
  cases operation with
  | bind address => exact reply_isAloof _ (bind_isAloof address)
  | configureBlocking blocking =>
      exact reply_isAloof _ (configureBlocking_isAloof blocking)
  | close => exact reply_isAloof _ close_isAloof
  | shutdown direction => exact reply_isAloof _ (shutdown_isAloof direction)
  | apply settings =>
      exact reply_isAloof _ (makeChanges_isAloof settings.changes)
  | ready events interest =>
      exact .bind (ready_isAloof events interest) fun _ => .pure _
  | register => exact reply_isAloof _ register_isAloof
  | deregister => exact reply_isAloof _ deregister_isAloof
  | dropRegistration =>
      exact reply_isAloof _ (isAloof_quietly deregister_isAloof)
  | getOption option => exact reply_isAloof _ (getOption_isAloof option)
  | setOption setting => exact reply_isAloof _ (setOption_isAloof setting)
  | credentials => exact reply_isAloof _ credentials_isAloof
  | localAddress => exact reply_isAloof _ localAddress_isAloof
  | remoteAddress => exact reply_isAloof _ remoteAddress_isAloof
  | text => exact .bind text_isAloof fun _ => .pure _
  | inspect => exact .bind inspect_isAloof fun _ => .pure _
  | flags => exact .bind flags_isAloof fun _ => .pure _
  | snapshot => exact .bind snapshot_isAloof fun _ => .pure _
  | flush => trivial
  | supportedOptions => trivial
  | _ => cases h

end Channel

end LocalSocket
