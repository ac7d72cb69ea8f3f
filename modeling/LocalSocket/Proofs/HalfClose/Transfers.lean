import LocalSocket.Proofs.HalfClose

/-!
# Transfers in a direction that is shut down

Once a direction has been shut down, a transfer that begins makes no call: it
finds the end of the stream, or the channel closed.  One that is inside its call
at that time finds out afterwards, if the call has moved nothing.  Other
operations make no call in the direction at all.
-/

namespace LocalSocket

def Call.direction? : Call → Option Direction
  | .read .. | .readMany .. => some .input
  | .write .. | .writeMany .. => some .output
  | _ => none

theorem Call.direction?_of_not_isBlocking (call : Call)
    (h : call.isBlocking = false) : call.direction? = none := by
  cases call <;> first | rfl | cases h

/-- What a transfer comes to if the direction has been shut down before. -/
def Direction.shutBefore : Direction → Except ChannelError IoStatus
  | .input => .ok .endOfStream
  | .output => .error .closed

/-- What a transfer comes to if the direction has been shut down during its
call. -/
def Direction.shutMeanwhile : Direction → Except ChannelError IoStatus
  | .input => .ok .endOfStream
  | .output => .error .asynchronousClose

namespace Channel

def Operation.direction? : Operation → Option Direction
  | .read _ | .readMany _ | .receive _ => some .input
  | .write _ | .writeMany _ | .send _ => some .output
  | _ => none

/-- The reply of a transfer that ends so with its windows untouched. -/
def Operation.unmoved (outcome : Except ChannelError IoStatus) :
    Operation → Option Reply
  | .read window | .write window => some (.moved outcome window)
  | .readMany windows | .writeMany windows => some (.movedMany outcome windows)
  | .receive length =>
      some (Looking.streamReply (.received · (Bytes.zeros length)) outcome)
  | .send _ => some (Looking.streamReply .sent outcome)
  | _ => none

/-- The transfer has ended so.  A plain stream tells of it in its own terms. -/
def Reply.Tells (outcome : Except ChannelError IoStatus) : Reply → Prop
  | .moved outcome' _ | .movedMany outcome' _ => outcome' = outcome
  | .received count _ | .sent count => streamResult outcome = .ok count
  | .broken error => streamResult outcome = .error error
  | _ => False

end Channel

/-! ## What transfers have in common -/

section Common

open Channel

variable {fd : Fd} {β : Type} {direction : Direction}

/-- A single call in the direction, repeated if it is interrupted, unless there
is no room for it; its outcome tells what the call has brought. -/
def Direction.Carries (direction : Direction)
    (transfer : Program (Except OsError IoStatus × β)) : Prop :=
  ∃ (call : Call) (exhausted : Bool) (outcome : Except OsError IoStatus × β)
    (next : call.Answer → Program (Except OsError IoStatus × β)),
    transfer = (if exhausted then pure outcome
      else Program.retry call >>= next) ∧
    call.direction? = some direction ∧
    ∀ answer, ∃ outcome, next answer = pure outcome ∧
      Overtaking.told outcome.1 = call.gain? answer

theorem socketRead_carries (window : Window) :
    Direction.input.Carries (Socket.read fd window) :=
  ⟨_, _, _, _, rfl, rfl, fun answer => by
    split
    · exact ⟨_, rfl, rfl⟩
    · exact ⟨_, rfl, rfl⟩
    · exact ⟨_, rfl, Overtaking.told_idle _⟩⟩

theorem socketReadMany_carries (windows : List Window) :
    Direction.input.Carries (Socket.readMany fd windows) :=
  ⟨_, _, _, _, rfl, rfl, fun answer => by
    split
    · exact ⟨_, rfl, rfl⟩
    · exact ⟨_, rfl, rfl⟩
    · exact ⟨_, rfl, Overtaking.told_idle _⟩⟩

theorem socketWrite_carries (window : Window) :
    Direction.output.Carries (Socket.write fd window) :=
  ⟨_, _, _, _, rfl, rfl, fun answer => by
    split
    · exact ⟨_, rfl, rfl⟩
    · exact ⟨_, rfl, Overtaking.told_idle _⟩⟩

theorem socketWriteMany_carries (windows : List Window) :
    Direction.output.Carries (Socket.writeMany fd windows) :=
  ⟨_, _, _, _, rfl, rfl, fun answer => by
    split
    · exact ⟨_, rfl, rfl⟩
    · exact ⟨_, rfl, Overtaking.told_idle _⟩⟩

theorem streamReply_tells {told : Nat → Reply}
    {outcome : Except ChannelError IoStatus}
    (h : ∀ count, streamResult outcome = .ok count →
      (told count).Tells outcome) :
    (Looking.streamReply told outcome).Tells outcome := by
  unfold Looking.streamReply
  cases hresult : streamResult outcome with
  | ok count => exact h count hresult
  | error error => exact hresult

/-- All transfers in a direction are alike. -/
theorem Channel.Operation.carries (fd : Fd) {operation : Operation}
    (h : operation.direction? = some direction) :
    ∃ (β : Type) (buffers : β)
      (transfer : Program (Except OsError IoStatus × β))
      (make : Except ChannelError IoStatus × β → Reply),
      operation.program fd = (transferWith direction direction.shutBefore
        direction.shutMeanwhile buffers transfer >>=
          fun value => pure (make value)) ∧
      direction.Carries transfer ∧
      (∀ outcome, operation.unmoved outcome = some (make (outcome, buffers))) ∧
      ∀ value, (make value).Tells value.1 := by
  cases operation with
  | read window =>
      cases h
      exact ⟨_, _, _, fun value => .moved value.1 value.2, rfl,
        socketRead_carries window, fun _ => rfl, fun _ => rfl⟩
  | readMany windows =>
      cases h
      exact ⟨_, _, _, fun value => .movedMany value.1 value.2, rfl,
        socketReadMany_carries windows, fun _ => rfl, fun _ => rfl⟩
  | write window =>
      cases h
      exact ⟨_, _, _, fun value => .moved value.1 value.2, rfl,
        socketWrite_carries window, fun _ => rfl, fun _ => rfl⟩
  | writeMany windows =>
      cases h
      exact ⟨_, _, _, fun value => .movedMany value.1 value.2, rfl,
        socketWriteMany_carries windows, fun _ => rfl, fun _ => rfl⟩
  | receive length =>
      cases h
      refine ⟨_, _, _, _, Looking.receive_eq length, socketRead_carries _,
        fun _ => rfl, fun value => ?_⟩
      show (Looking.streamReply (.received · value.2.buffer) value.1).Tells _
      exact streamReply_tells fun _ hresult => hresult
  | send bytes =>
      cases h
      refine ⟨_, _, _, _, Looking.send_eq bytes, socketWrite_carries _,
        fun _ => rfl, fun value => ?_⟩
      show (Looking.streamReply .sent value.1).Tells _
      exact streamReply_tells fun _ hresult => hresult
  | _ => cases h

end Common

/-! ## Operations that begin afterwards -/

namespace Shut

open Protocol Channel

/-- What a thread finds whose operation has begun after the direction was shut
down; and it finds the channel open, if `opened`. -/
def outlook (direction : Direction) (opened : Prop) : Outlook Unit :=
  .plain (fun action channel =>
      (action = .fields → channel.IsShut direction) ∧
        (action = .isOpen → opened → channel.isOpen = true))
    fun call => call.direction? ≠ some direction

section Shut

variable {fd : Fd} {thread : Thread} {direction : Direction} {opened : Prop}
  {α β : Type} {s : View Unit}

/-- The state of a live channel that has been connected. -/
theorem connected_of_isLive {fields : Fields}
    (live : fields.state.isLive = true)
    (attached : Lifecycle.connected.rank ≤ fields.state.rank) :
    fields.state = .connected := by
  cases h : fields.state <;> simp_all [Lifecycle.isLive, Lifecycle.rank]

theorem beginTransfer_meets :
    (outlook direction opened).protocol.Meets thread
      (beginTransfer direction).run
      (fun result _ => result = .ok false ∨ result = .error .closed ∧ ¬opened)
      s := by
  let Q : Except ChannelError Bool → Unit → Prop := fun result _ =>
    result = .ok false ∨ result = .error .closed ∧ ¬opened
  refine Outlook.holding_state_meets (Q := Q) fun channel _ _ => ?_
  rw [meets_run_bind]
  refine Outlook.ensureOpen_meets (fun _ _ _ live => ?_)
    fun _ found closed => ?_
  · refine Outlook.fields_meets rfl fun channel' hfields found => ?_
    have isShut := found.1 rfl
    have connected : channel.fields.state = .connected := by
      refine connected_of_isLive (live channel.fields rfl) ?_
      rw [← hfields]
      exact isShut.attached
    have shut := isShut.shut
    rw [hfields] at shut
    rw [if_neg (by simpa using connected), shut]
    exact .inl rfl
  · refine .inr ⟨rfl, fun h => ?_⟩
    rw [found.2 rfl h] at closed
    cases closed

theorem transferWith_meets
    {shutBefore shutMeanwhile : Except ChannelError IoStatus} {buffers : β}
    {transfer : Program (Except OsError IoStatus × β)} :
    (outlook direction opened).protocol.Meets thread
      (transferWith direction shutBefore shutMeanwhile buffers transfer)
      (fun value _ => value = (shutBefore, buffers) ∨
        value = (.error .closed, buffers) ∧ ¬opened) s := by
  let Q : Except ChannelError IoStatus × β → Unit → Prop := fun value _ =>
    value = (shutBefore, buffers) ∨ value = (.error .closed, buffers) ∧ ¬opened
  refine Outlook.holding_meets (Q := Q) (by cases direction <;> nofun) ?_
  rw [meets_bind_eq]
  refine beginTransfer_meets.mono fun result s' h => ?_
  obtain rfl | ⟨rfl, closed⟩ := h
  · exact .inl rfl
  · exact .inr ⟨rfl, closed⟩

/-- A transfer in the direction is turned down before its call. -/
theorem transfer_meets {operation : Operation}
    (h : operation.direction? = some direction) :
    (outlook direction opened).protocol.Meets thread (operation.program fd)
      (fun reply _ => operation.unmoved direction.shutBefore = some reply ∨
        operation.unmoved (.error .closed) = some reply ∧ ¬opened) s := by
  obtain ⟨β, buffers, transfer, make, hprogram, _, unmoved, _⟩ :=
    Operation.carries fd h
  rw [hprogram, meets_bind_eq]
  refine transferWith_meets.mono fun value s' h => ?_
  obtain rfl | ⟨rfl, closed⟩ := h
  · exact .inl (unmoved _)
  · exact .inr ⟨unmoved _, closed⟩

/-! ## Operations that keep out of the direction -/

/-- The program makes no call in the direction, whatever it finds. -/
def Spares (direction : Direction) (program : Program α) : Prop :=
  ∀ (thread : Thread) (finds : Action → Channel → Prop),
    (Outlook.plain finds fun call =>
      call.direction? ≠ some direction).protocol.Maintains thread
        (fun _ => True) program

theorem spares_of_isAloof {program : Program α} (h : program.IsAloof) :
    Spares direction program := by
  refine fun thread finds => Outlook.maintains_of_isAloof (I := fun _ => True)
    (fun call hcall => ?_) (fun _ _ _ _ _ _ => trivial) h
  show call.direction? ≠ some direction
  rw [call.direction?_of_not_isBlocking hcall]
  exact nofun

theorem spares_pure (value : α) :
    Spares direction (pure value : Program α) :=
  fun _ _ => maintains_pure value

theorem spares_call {call : Call} (h : call.direction? ≠ some direction) :
    Spares direction (Program.call call) :=
  fun _ _ _ _ => ⟨h, fun _ _ => trivial⟩

theorem spares_retry {call : Call} (h : call.direction? ≠ some direction) :
    Spares direction (Program.retry call) :=
  fun _ _ => maintains_retry fun _ _ => ⟨h, fun _ _ => trivial⟩

theorem spares_bind {program : Program α} {f : α → Program β}
    (h : Spares direction program) (hf : ∀ value, Spares direction (f value)) :
    Spares direction (program >>= f) :=
  fun thread finds => maintains_bind (h thread finds)
    fun value => hf value thread finds

theorem spares_loop {body : Program (Option β)} {next : β → Program α}
    (hguard : body.next? ≠ none) (hbody : Spares direction body)
    (hnext : ∀ value, Spares direction (next value)) :
    Spares direction (.loop body next) :=
  fun thread finds => maintains_loop hguard (hbody thread finds)
    fun value => hnext value thread finds

theorem spares_holding {lock : Lock} {body : Program α}
    (h : Spares direction body) :
    Spares direction (Program.holding lock body) :=
  spares_bind (spares_of_isAloof (.perform rfl)) fun _ => spares_bind h
    fun _ => spares_bind (spares_of_isAloof (.perform rfl)) fun _ =>
      spares_pure _

theorem spares_run_bind {operation : Operating α} {f : α → Operating β}
    (h : Spares direction operation.run)
    (hf : ∀ value, Spares direction (f value).run) :
    Spares direction (operation >>= f).run :=
  fun thread finds => maintains_run_bind (h thread finds)
    fun value => hf value thread finds

theorem spares_run_ite {condition : Prop} [Decidable condition]
    {operation other : Operating α} (h : Spares direction operation.run)
    (hother : Spares direction other.run) :
    Spares direction
      (ExceptT.run (if condition then operation else other)) :=
  fun thread finds => maintains_run_ite (h thread finds)
    (hother thread finds)

theorem spares_lift {program : Program α} (h : Spares direction program) :
    Spares direction (ExceptT.lift program : Operating α).run :=
  fun thread finds => maintains_lift (h thread finds)

theorem spares_reply {make : α → Reply} {operation : Operating α}
    (h : Spares direction operation.run) :
    Spares direction (reply make operation) := by
  refine spares_bind h fun result => ?_
  cases result <;> exact spares_pure _

theorem spares_transferWith {other : Direction}
    {shutBefore shutMeanwhile : Except ChannelError IoStatus} {buffers : β}
    {transfer : Program (Except OsError IoStatus × β)}
    (carries : other.Carries transfer) (h : other ≠ direction) :
    Spares direction
      (transferWith other shutBefore shutMeanwhile buffers transfer) := by
  obtain ⟨call, exhausted, outcome, next, rfl, hcall, hnext⟩ := carries
  refine spares_holding
    (spares_bind (spares_of_isAloof (beginTransfer_isAloof _)) fun begun => ?_)
  rcases begun with error | _ | _
  · exact spares_pure _
  · exact spares_pure _
  · refine spares_bind ?_ fun moved => spares_bind
      (spares_of_isAloof (Overtaking.endTransfer_isAloof _ _)) fun ended => ?_
    · split
      · exact spares_pure _
      · refine spares_bind (spares_retry ?_) fun answer => ?_
        · rw [hcall]
          exact fun heq => h (Option.some.inj heq)
        · obtain ⟨outcome, hvalue, _⟩ := hnext answer
          rw [hvalue]
          exact spares_pure _
    · rcases ended with error | _ | _ <;> exact spares_pure _

theorem socketConnect_spares (record : Record) :
    Spares direction (Socket.connect fd record) := by
  refine spares_bind (spares_call nofun) fun answer => ?_
  split
  · exact spares_pure _
  · split
    · exact spares_pure _
    · split <;> exact spares_pure _
  · exact spares_pure _

theorem socketPoll_spares (events : Events) (timeout : Int) :
    Spares direction (Socket.poll fd events timeout) := by
  refine spares_bind (spares_call nofun) fun answer => ?_
  split <;> exact spares_pure _

theorem attempt_spares (record : Record) :
    Spares direction (attempt fd record) := by
  refine spares_loop nofun (spares_bind (socketConnect_spares record) ?_)
    fun _ => spares_pure _
  intro result
  split
  · exact spares_bind (spares_of_isAloof (.perform rfl))
      fun _ => spares_pure _
  · exact spares_pure _

theorem awaitConnection_spares (record : Record) (blocking : Bool) :
    Spares direction (awaitConnection fd record blocking) := by
  have looks : Spares direction (Program.perform .isOpen) :=
    spares_of_isAloof (.perform rfl)
  refine spares_loop nofun (spares_bind (socketConnect_spares record) ?_)
    fun _ => spares_pure _
  intro result
  split
  · exact spares_pure _
  · split <;> exact spares_pure _
  · exact spares_bind looks fun _ => spares_pure _
  · refine spares_bind looks fun isOpen => ?_
    split
    · refine spares_bind (socketPoll_spares _ _) fun result => ?_
      split
      · exact spares_pure _
      · exact spares_bind looks fun _ => spares_pure _
    · exact spares_pure _

theorem connect_spares (address : Address) :
    Spares direction (Channel.connect fd address).run := by
  refine spares_run_bind (spares_of_isAloof (encode_isAloof _))
    fun record => spares_holding (spares_holding ?_)
  refine spares_run_bind (spares_of_isAloof beginConnect_isAloof) fun _ => ?_
  refine spares_run_bind (spares_lift (attempt_spares record)) fun result => ?_
  refine spares_run_bind (spares_of_isAloof (leave_isAloof _ _)) fun _ => ?_
  split
  · exact spares_run_bind (spares_of_isAloof (markConnected_isAloof _))
      fun _ => spares_pure _
  · refine spares_run_bind (spares_of_isAloof ?_) fun _ => spares_pure _
    refine Operating.isAloof_holding (Operating.isAloof_bind
      (Operating.isAloof_perform rfl) fun _ => Operating.isAloof_bind
        ensureStillOpen_isAloof fun _ => Operating.isAloof_perform rfl)
  · exact spares_pure _
  · exact spares_of_isAloof (closeAfter_isAloof _)

theorem finishConnect_spares :
    Spares direction (Channel.finishConnect fd).run := by
  refine spares_holding (spares_holding ?_)
  refine spares_run_bind (spares_of_isAloof beginFinish_isAloof) fun begun => ?_
  cases begun with
  | none => exact spares_pure _
  | some record =>
      refine spares_run_bind
        (spares_of_isAloof (Operating.isAloof_perform rfl)) fun blocking => ?_
      refine spares_run_bind (spares_lift
        (awaitConnection_spares record blocking)) fun result => ?_
      refine spares_run_bind (spares_of_isAloof (leave_isAloof _ _))
        fun _ => ?_
      split
      · exact spares_run_bind (spares_of_isAloof (markConnected_isAloof _))
          fun _ => spares_pure _
      · exact spares_pure _
      · exact spares_of_isAloof (closeAfter_isAloof _)

theorem poll_spares (interest : Interest) (timeout : Option Duration) :
    Spares direction (Channel.poll fd interest timeout).run := by
  refine spares_run_bind (spares_of_isAloof (Operating.isAloof_perform rfl))
    fun isBlocking => spares_run_ite (spares_pure _) (spares_holding ?_)
  refine spares_run_bind (spares_of_isAloof enterOpen_isAloof) fun _ => ?_
  refine spares_run_bind (spares_lift (socketPoll_spares _ _)) fun _ => ?_
  exact spares_run_bind (spares_of_isAloof (leave_isAloof _ _))
    fun _ => spares_pure _

theorem program_spares {operation : Operation}
    (h : operation.direction? ≠ some direction) :
    Spares direction (operation.program fd) := by
  cases hdirection : operation.direction? with
  | some other =>
      obtain ⟨β, buffers, transfer, make, hprogram, carries, _, _⟩ :=
        Operation.carries fd hdirection
      rw [hprogram]
      exact spares_bind (spares_transferWith carries fun heq =>
        h (heq ▸ hdirection)) fun _ => spares_pure _
  | none =>
      cases operation with
      | read | readMany | receive | write | writeMany | send => cases hdirection
      | connect address => exact spares_reply (connect_spares address)
      | finishConnect => exact spares_reply finishConnect_spares
      | poll interest timeout =>
          exact spares_reply (poll_spares interest timeout)
      | _ => exact spares_of_isAloof (program_isAloof rfl)

/-- Every operation, with the direction shut down. -/
theorem program_meets (direction : Direction) (opened : Prop)
    {operation : Operation} :
    (outlook direction opened).protocol.Meets thread (operation.program fd)
      (fun reply _ => operation.direction? = some direction →
        operation.unmoved direction.shutBefore = some reply ∨
          operation.unmoved (.error .closed) = some reply ∧ ¬opened) s := by
  by_cases h : operation.direction? = some direction
  · exact (transfer_meets h).mono fun _ _ outcome _ => outcome
  · exact (program_spares h thread _).meets trivial
      fun _ _ _ h' => absurd h' h

end Shut

end Shut

section Afterwards

variable {fd : Fd} {before during : Trace} {c c' : Config} {thread : Thread}
  {direction : Direction} {operation : Channel.Operation}
  {reply : Channel.Reply}

/-- Only transfers in a direction make calls in it. -/
theorem Run.direction?_of_calling {call : Call}
    {next : call.Answer → Program Channel.Reply} (run : Run fd before c)
    (calling : c.activity thread = .calling operation call next)
    (h : call.direction? = some direction) :
    operation.direction? = some direction := by
  by_contra hne
  obtain ⟨past, during, c₀, rfl, run₀, underway⟩ :=
    run.underway (congrArg Activity.operation? calling)
  obtain ⟨s, follows, -⟩ := underway.plain run₀
    (Shut.program_spares hne thread (fun _ _ => True) trivial)
    fun _ _ _ _ _ _ _ _ _ => trivial
  exact (follows.calling calling).2.1 h

/-- Once a thread has been told that the direction is shut down, it is. -/
theorem Run.isShut (run : Run fd before c)
    (told : .ended thread (.shutdown direction) .finished ∈ before) :
    c.channel.IsShut direction := by
  obtain ⟨past, rest, rfl⟩ := List.append_of_mem told
  obtain ⟨channel, fresh, steps⟩ := run
  obtain ⟨c₂, c₃, hpast, ended, hrest⟩ := steps.split
  have run₂ : Run fd past c₂ := ⟨channel, fresh, hpast⟩
  obtain ⟨first, during, c₀, rfl, run₀, underway⟩ :=
    run₂.underway (congrArg Activity.operation? ended.done_of_ended)
  obtain ⟨c₁, began, hduring⟩ := underway.passes
  have episode : Episode fd thread (.shutdown direction) c₀ during .finished
      c₃ := ⟨⟨c₁, c₂, began, hduring, ended⟩, underway.within⟩
  exact hrest.isShut (run₂.step ended) (episode.isShut run₀)

/-- No operation that begins afterwards makes a call in the direction. -/
theorem Underway.spares (underway : Underway fd thread operation c during c')
    (run : Run fd before c) (isShut : c.channel.IsShut direction) {call : Call}
    (called : .called thread call ∈ during) :
    call.direction? ≠ some direction := by
  obtain ⟨_, _, allowed⟩ := underway.plain run
    (Shut.program_meets direction False)
    fun past action rest c₁ c₂ hpast _ _ _ =>
      ⟨fun _ => hpast.isShut run isShut, fun _ => False.elim⟩
  exact allowed call called

/-- A transfer that begins afterwards finds the direction shut down, with its
windows untouched, unless it finds the channel closed. -/
theorem Episode.shutBefore
    (episode : Episode fd thread operation c during reply c')
    (run : Run fd before c) (isShut : c.channel.IsShut direction)
    (h : operation.direction? = some direction) :
    operation.unmoved direction.shutBefore = some reply ∨
      operation.unmoved (.error .closed) = some reply ∧
        Steps.Sees fd thread c (.began thread operation :: during ++
          [.ended thread operation reply]) c' .isOpen
          fun channel => channel.isOpen = false := by
  by_cases seen : Steps.Sees fd thread c (.began thread operation :: during ++
      [.ended thread operation reply]) c' .isOpen
      fun channel => channel.isOpen = false
  · obtain ⟨⟨_, outcome⟩, _⟩ := episode.plain run
      (Shut.program_meets direction False)
      fun past action rest c₁ c₂ hpast _ _ _ =>
        ⟨fun _ => hpast.isShut run isShut, fun _ => False.elim⟩
    exact (outcome h).imp_right fun closed => ⟨closed.1, seen⟩
  · obtain ⟨⟨_, outcome⟩, _⟩ := episode.plain run
      (Shut.program_meets direction True)
      fun past action rest c₁ c₂ hpast step hrest htrace =>
        ⟨fun _ => hpast.isShut run isShut, fun hisOpen _ => by
          by_contra closed
          subst hisOpen
          exact seen ⟨past, rest, c₁, c₂, hpast, step, hrest, htrace,
            by simpa using closed⟩⟩
    obtain shut | ⟨_, closed⟩ := outcome h
    · exact .inl shut
    · exact absurd trivial closed

end Afterwards

end LocalSocket
