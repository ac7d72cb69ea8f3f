import LocalSocket.Proofs.Closing.Replies
import LocalSocket.Proofs.CutShort
import LocalSocket.Proofs.HalfClose.Transfers
import LocalSocket.Proofs.Vectored

/-!
# What operations tell of calls that are cut short

Releasing the descriptor, the transfers and the attempts to connect go on after
an interruption, and waiting takes it for an outcome.  All other calls are made
once, and their failures passed on.
-/

namespace LocalSocket

namespace Channel

/-- The calls that an operation makes just once, and whose failures it passes
on. -/
def Operation.asksOnce : Operation → Call → Bool
  | .bind _ => fun | .bind .. | .localRecord _ => true | _ => false
  | .configureBlocking _ => fun | .setNonBlocking .. => true | _ => false
  | .apply _ => fun | .setNonBlocking .. | .setOption .. => true | _ => false
  | .shutdown _ => fun | .shutdown .. => true | _ => false
  | .getOption _ | .credentials => fun | .getOption .. => true | _ => false
  | .setOption _ => fun | .setOption .. => true | _ => false
  | .remoteAddress => fun | .peerRecord _ => true | _ => false
  | _ => fun _ => false

/-- The operation has failed with an interruption. -/
def Reply.isCutShort : Reply → Bool
  | .failed error | .moved (.error error) _ | .movedMany (.error error) _ =>
      error.isCutShort
  | .broken error => error.isInterrupted
  | _ => false

end Channel

theorem ChannelError.kind_of_isRefusal {error : ChannelError}
    (h : error.isRefusal = true) : error.kind ≠ .interrupted := by
  cases error <;> first | (cases h; done) | exact nofun

theorem ChannelError.kind_socket {error : OsError}
    (h : error.isInterrupted = false) :
    (ChannelError.socket error).kind ≠ .interrupted := by
  show error.kind ≠ .interrupted
  simpa [OsError.isInterrupted] using h

namespace Hearing

/-- The calls that close a channel are not made just once. -/
structure LeavesClosing (once : Call → Bool) : Prop where
  close : ∀ fd, once (.close fd) = false
  wake : ∀ fd, once (.wake fd) = false
  signal : ∀ thread, once (.signal thread) = false

open Protocol Channel

section Parts

variable {once : Call → Bool} {fd : Fd} {α β : Type}

/-! ## Releasing the descriptor -/

theorem ensureOpen_quiet : Quiet once ensureOpen := by
  refine quiet_bind (quiet_look fun _ => rfl) fun isOpen => ?_
  cases isOpen
  · exact quiet_throw nofun
  · exact quiet_pure _

theorem ensureStillOpen_quiet : Quiet once ensureStillOpen := by
  refine quiet_bind (quiet_look fun _ => rfl) fun isOpen => ?_
  cases isOpen
  · exact quiet_throw nofun
  · exact quiet_pure _

theorem release_quiet (closing : LeavesClosing once) : Quiet once release := by
  refine quiet_bind (quiet_look fun _ => rfl) fun fields => ?_
  refine quiet_ite (quiet_pure _) (quiet_ite (quiet_look fun _ => rfl) ?_)
  refine quiet_bind (quiet_look fun _ => rfl) fun _ => ?_
  cases fields.holder with
  | none => exact quiet_pure _
  | some fd =>
      refine quiet_lift_bind (deaf_retry (closing.close fd))
        fun answer settled => ?_
      cases answer with
      | ok value => exact quiet_pure _
      | error error => exact quiet_throw (ChannelError.kind_socket settled)

theorem signalAll_deaf (closing : LeavesClosing once) (threads : List Thread) :
    Deaf once (fun _ => True) (signalAll threads) := by
  induction threads with
  | nil => exact deaf_pure trivial
  | cons thread rest ih =>
      refine deaf_bind (deaf_call (closing.signal thread)) fun answer _ => ?_
      cases answer with
      | ok value => exact ih
      | error error => exact deaf_pure trivial

theorem signalUsers_deaf (closing : LeavesClosing once) :
    Deaf once (fun _ => True) signalUsers := by
  have round : Deaf once (fun _ => True) (Program.holding .state do
      let fields ← Program.perform .fields
      if fields.threads.isEmpty then pure true
      else signalAll fields.threads) := by
    refine deaf_holding (deaf_bind (deaf_perform fun _ => rfl)
      fun fields _ => ?_)
    split
    · exact deaf_pure trivial
    · exact signalAll_deaf closing _
  refine deaf_loop nofun (deaf_bind round fun isOver _ => ?_)
  cases isOver with
  | true => exact deaf_pure fun _ _ => deaf_pure trivial
  | false =>
      exact deaf_bind (deaf_perform fun _ => rfl) fun _ _ =>
        deaf_pure fun _ _ => deaf_pure trivial

theorem shutDown_quiet (closing : LeavesClosing once) :
    Quiet once shutDown := by
  refine quiet_bind (quiet_look fun _ => rfl) fun fields => ?_
  refine quiet_bind (quiet_look fun _ => rfl) fun _ => ?_
  split
  · split
    · exact release_quiet closing
    · exact quiet_lift_bind (deaf_call (closing.wake _))
        fun _ _ => release_quiet closing
  · exact release_quiet closing

theorem close_quiet (closing : LeavesClosing once) :
    Quiet once Channel.close := by
  refine deaf_bind (deaf_perform fun _ => rfl) fun first _ => ?_
  split
  · exact deaf_bind (quiet_holding (shutDown_quiet closing)) fun _ calm =>
      deaf_bind (signalUsers_deaf closing) fun _ _ => deaf_pure calm
  · exact deaf_pure fun _ => nofun

/-- What the channel is closed for is what the operation fails with. -/
theorem closeAfter_meets (closing : LeavesClosing once) (error : OsError)
    (thread : Thread) :
    (hearing once).Meets thread
      (closeAfter (.socket error) : Operating α).run
      (fun result heard => heard = tells result) error.isCutShort := by
  rw [closeAfter, meets_run_bind, meets_run_quietly]
  exact (close_quiet closing).meets fun _ _ => rfl

/-! ## Coming and going -/

theorem enter_quiet (direction : Direction) : Quiet once (enter direction) :=
  quiet_bind (quiet_look fun _ => rfl) fun _ =>
    quiet_bind (quiet_look fun _ => rfl) fun _ => quiet_look fun _ => rfl

theorem leave_quiet (closing : LeavesClosing once) (direction : Direction)
    (completed : Bool) : Quiet once (leave direction completed) := by
  refine quiet_bind (quiet_holding (quiet_bind (quiet_look fun _ => rfl)
    fun _ => quiet_bind (quiet_look fun _ => rfl) fun _ =>
      quiet_ite (quiet_quietly (release_quiet closing)) (quiet_pure _)))
        fun _ => ?_
  cases completed with
  | true => exact quiet_pure _
  | false => exact ensureStillOpen_quiet

theorem register_quiet : Quiet once register := by
  refine quiet_holding (quiet_bind (quiet_look fun _ => rfl) fun _ =>
    quiet_bind ensureOpen_quiet fun _ => quiet_bind (quiet_look fun _ => rfl)
      fun blocking => ?_)
  cases blocking
  · exact quiet_look fun _ => rfl
  · exact quiet_throw nofun

theorem deregister_quiet (closing : LeavesClosing once) :
    Quiet once deregister :=
  quiet_holding (quiet_bind (quiet_look fun _ => rfl) fun _ =>
    quiet_bind (quiet_look fun _ => rfl) fun _ =>
      quiet_ite (release_quiet closing) (quiet_pure _))

/-! ## Connecting -/

theorem encode_quiet (address : Address) : Quiet once (encode address) := by
  rw [encode]
  split
  · exact quiet_pure _
  · exact quiet_throw (by simp [ChannelError.kind])

theorem markConnected_quiet (h : once (.localRecord fd) = false)
    (remote : Option Address) : Quiet once (markConnected fd remote) := by
  refine quiet_holding (quiet_bind (quiet_look fun _ => rfl) fun fields =>
    quiet_bind ensureStillOpen_quiet fun _ =>
      quiet_bind (quiet_look fun _ => rfl) fun _ =>
        quiet_ite (quiet_lift_bind (deaf_call h) fun named _ => ?_)
          (quiet_pure _))
  cases named with
  | error error => exact quiet_pure _
  | ok => exact quiet_look fun _ => rfl

theorem beginConnect_quiet : Quiet once beginConnect :=
  quiet_holding (quiet_bind ensureOpen_quiet fun _ =>
    quiet_bind (quiet_look fun _ => rfl) fun _ =>
      quiet_ite (quiet_throw nofun)
        (quiet_ite (quiet_throw nofun) (enter_quiet _)))

theorem beginFinish_quiet : Quiet once beginFinish := by
  refine quiet_holding (quiet_bind ensureOpen_quiet fun _ =>
    quiet_bind (quiet_look fun _ => rfl) fun fields => quiet_ite (quiet_pure _)
      (quiet_ite ?_ (quiet_throw nofun)))
  cases fields.remoteAddress with
  | none => exact quiet_throw nofun
  | some address =>
      exact quiet_bind (encode_quiet _) fun _ =>
        quiet_bind (enter_quiet _) fun _ => quiet_pure _

/-- An interrupted attempt is an outcome of its own. -/
theorem socketConnect_deaf {record : Record}
    (h : once (.connect fd record) = false) :
    Deaf once (fun result => cutShort result = false)
      (Socket.connect fd record) := by
  refine deaf_bind (deaf_call h) fun answer _ => ?_
  split
  · exact deaf_pure rfl
  · rename_i errno
    split
    · exact deaf_pure rfl
    · split
      · exact deaf_pure rfl
      · rename_i other
        exact deaf_pure (by simpa [cutShort, OsError.isCutShort] using other)
  · rename_i error uncoded
    refine deaf_pure ?_
    cases error with
    | code errno => exact absurd rfl (uncoded errno)
    | custom kind message => rfl

theorem socketPoll_deaf {events : Events} {timeout : Int}
    (h : once (.poll fd events timeout) = false) :
    Deaf once (fun result => isInterruption result = false)
      (Socket.poll fd events timeout) := by
  refine deaf_bind (deaf_call h) fun answer _ => ?_
  cases answer with
  | ok revents => exact deaf_pure rfl
  | error error =>
      refine deaf_pure ?_
      cases interrupted : error.isInterrupted
      · exact interrupted
      · rfl

theorem cutShort_eq_false {α : Type} {answer : Except OsError α}
    (h : isInterruption answer = false) : cutShort answer = false := by
  cases answer with
  | ok value => rfl
  | error error => exact OsError.isCutShort_eq_false h

theorem attempt_deaf {record : Record} (h : once (.connect fd record) = false) :
    Deaf once (fun result => cutShort result = false) (attempt fd record) := by
  refine deaf_loop nofun (deaf_bind (socketConnect_deaf h)
    fun result settled => ?_)
  split
  · refine deaf_bind (deaf_perform fun _ => rfl) fun isOpen _ =>
      deaf_pure fun value hvalue => ?_
    cases isOpen <;> cases hvalue
    exact deaf_pure rfl
  · refine deaf_pure ?_
    rintro _ ⟨⟩
    exact deaf_pure settled

theorem awaitConnection_deaf {record : Record}
    (h : once (.connect fd record) = false)
    (hpoll : once (.poll fd Events.writable (-1)) = false) (blocking : Bool) :
    Deaf once (fun result => cutShort result = false)
      (awaitConnection fd record blocking) := by
  have ends : ∀ {result : Except OsError Bool}, cutShort result = false →
      Deaf once (fun found => ∀ value, found = some value →
        Deaf once (fun result => cutShort result = false) (.done value))
        (pure (some result)) := by
    intro result settled
    refine deaf_pure ?_
    rintro _ ⟨⟩
    exact deaf_pure settled
  have looks : Deaf once (fun found => ∀ value, found = some value →
      Deaf once (fun result => cutShort result = false) (.done value)) (do
        pure (if ← Program.perform .isOpen then none
          else some (.ok false : Except OsError Bool))) := by
    refine deaf_bind (deaf_perform fun _ => rfl) fun isOpen _ => ?_
    cases isOpen
    · exact ends rfl
    · exact deaf_pure fun _ => nofun
  refine deaf_loop nofun (deaf_bind (socketConnect_deaf h)
    fun result settled => ?_)
  rcases result with error | _ | _ | _
  · dsimp only
    split
    · exact ends rfl
    · exact ends settled
  · exact ends rfl
  · refine deaf_bind (deaf_perform fun _ => rfl) fun isOpen _ => ?_
    split
    · refine deaf_bind (socketPoll_deaf hpoll) fun polled settled => ?_
      cases polled with
      | error error => exact ends (cutShort_eq_false settled)
      | ok => exact looks
    · exact ends rfl
  · exact looks

/-- A channel that is closed for another reason than an interruption. -/
theorem closeAfter_frank (closing : LeavesClosing once) {error : OsError}
    (h : error.isCutShort = false) :
    Frank once (closeAfter (.socket error) : Operating α) := by
  intro thread
  rw [← h]
  exact closeAfter_meets closing error thread

theorem connect_frank (closing : LeavesClosing once)
    (h : ∀ record, once (.connect fd record) = false)
    (hname : once (.localRecord fd) = false) (address : Address) :
    Frank once (Channel.connect fd address) := by
  refine frank_bind (encode_quiet _).frank fun record => frank_holding
    (frank_holding (frank_bind beginConnect_quiet.frank fun _ =>
      frank_lift_bind (attempt_deaf (h record)) fun result settled =>
        frank_bind (leave_quiet closing _ _).frank fun _ => ?_))
  rcases result with error | _ | _ | _
  · exact closeAfter_frank closing settled
  · exact (quiet_bind (markConnected_quiet hname _) fun _ =>
      quiet_pure _).frank
  · refine (quiet_bind (quiet_holding ?_) fun _ => quiet_pure _).frank
    exact quiet_bind (quiet_look fun _ => rfl) fun _ =>
      quiet_bind ensureStillOpen_quiet fun _ => quiet_look fun _ => rfl
  · have overtaken : Quiet once (throw .asynchronousClose : Operating Bool) :=
      quiet_throw nofun
    exact overtaken.frank

theorem finishConnect_frank (closing : LeavesClosing once)
    (h : ∀ record, once (.connect fd record) = false)
    (hpoll : once (.poll fd Events.writable (-1)) = false)
    (hname : once (.localRecord fd) = false) :
    Frank once (Channel.finishConnect fd) := by
  refine frank_holding (frank_holding (frank_bind beginFinish_quiet.frank fun
    | none => (quiet_pure _).frank
    | some record => ?_))
  refine frank_bind (quiet_look fun _ => rfl).frank fun blocking =>
    frank_lift_bind (awaitConnection_deaf (h record) hpoll blocking)
      fun result settled =>
        frank_bind (leave_quiet closing _ _).frank fun _ => ?_
  rcases result with error | _ | _
  · exact closeAfter_frank closing settled
  · exact (quiet_pure _).frank
  · exact (quiet_bind (markConnected_quiet hname _) fun _ =>
      quiet_pure _).frank

/-! ## Transfers -/

theorem error_of_idle {error error' : OsError}
    (h : Socket.idle error = .error error') : error = error' := by
  rw [Socket.idle] at h
  split at h
  · cases h
  · exact Except.error.inj h

theorem answer_of_received {buffers : β} {pass : Bytes → β}
    {answer : Except OsError Bytes} {error : OsError}
    (h : (Socket.received buffers pass answer).1 = .error error) :
    answer = .error error := by
  match answer with
  | .ok [] => cases h
  | .ok (byte :: rest) => cases h
  | .error error' => rw [error_of_idle h]

theorem answer_of_sent {buffers : β} {advance : Nat → β}
    {answer : Except OsError Nat} {error : OsError}
    (h : (Socket.sent buffers advance answer).1 = .error error) :
    answer = .error error := by
  cases answer with
  | ok count => cases h
  | error error' => rw [error_of_idle h]

/-- The call of a transfer is repeated. -/
theorem transfer_deaf {request : Call} (h : once request = false)
    {exhausted : Bool} {buffers : β}
    {told : request.Answer → Except OsError IoStatus × β}
    (htold : ∀ answer error, (told answer).1 = .error error →
      answer = .error error) :
    Deaf once (fun result => isInterruption result.1 = false)
      (if exhausted = true then pure (.ok (.transferred 0), buffers)
        else Program.retry request >>= fun answer => pure (told answer)) := by
  split
  · exact deaf_pure rfl
  · refine deaf_bind (deaf_retry h) fun answer settled => deaf_pure ?_
    cases hstatus : (told answer).1 with
    | ok status => rfl
    | error error =>
        rw [htold answer error hstatus] at settled
        exact settled

theorem beginTransfer_quiet (direction : Direction) :
    Quiet once (beginTransfer direction) :=
  quiet_holding (quiet_bind ensureOpen_quiet fun _ =>
    quiet_bind (quiet_look fun _ => rfl) fun _ => quiet_ite (quiet_throw nofun)
      (quiet_ite (quiet_bind (enter_quiet _) fun _ => quiet_pure _)
        (quiet_pure _)))

theorem endTransfer_quiet (closing : LeavesClosing once) (direction : Direction)
    (result : Except OsError IoStatus) :
    Quiet once (endTransfer direction result) := by
  refine quiet_bind (leave_quiet closing _ _) fun _ => quiet_ite (quiet_pure _)
    (quiet_holding (quiet_bind (quiet_look fun _ => rfl) fun _ =>
      quiet_pure _))

theorem socketRead_deaf {window : Window}
    (h : once (.read fd window.room) = false) :
    Deaf once (fun result => isInterruption result.1 = false)
      (Socket.read fd window) := by
  rw [Socket.read_eq]
  exact transfer_deaf h fun _ _ => answer_of_received

theorem socketReadMany_deaf {windows : List Window}
    (h : once (.readMany fd (windows.map Window.room)) = false) :
    Deaf once (fun result => isInterruption result.1 = false)
      (Socket.readMany fd windows) := by
  rw [Socket.readMany_eq]
  exact transfer_deaf h fun _ _ => answer_of_received

theorem socketWrite_deaf {window : Window}
    (h : once (.write fd window.remaining) = false) :
    Deaf once (fun result => isInterruption result.1 = false)
      (Socket.write fd window) := by
  rw [Socket.write_eq]
  exact transfer_deaf h fun _ _ => answer_of_sent

theorem socketWriteMany_deaf {windows : List Window}
    (h : once (.writeMany fd (windows.map Window.remaining)) = false) :
    Deaf once (fun result => isInterruption result.1 = false)
      (Socket.writeMany fd windows) := by
  rw [Socket.writeMany_eq]
  exact transfer_deaf h fun _ _ => answer_of_sent

/-- The outcome is not an error as if there had been an interruption. -/
def IsCalm (outcome : Except ChannelError IoStatus) : Prop :=
  ∀ error, outcome = .error error → error.kind ≠ .interrupted

theorem transferWith_deaf (closing : LeavesClosing once) {direction : Direction}
    {shutBefore shutMeanwhile : Except ChannelError IoStatus} {buffers : β}
    {transfer : Program (Except OsError IoStatus × β)}
    (hbefore : IsCalm shutBefore) (hmeanwhile : IsCalm shutMeanwhile)
    (h : Deaf once (fun result => isInterruption result.1 = false) transfer) :
    Deaf once (fun result => IsCalm result.1)
      (transferWith direction shutBefore shutMeanwhile buffers transfer) := by
  refine deaf_holding (deaf_bind (beginTransfer_quiet _) fun began calm => ?_)
  rcases began with error | _ | _
  · refine deaf_pure ?_
    rintro _ ⟨⟩
    exact calm error rfl
  · exact deaf_pure hbefore
  · refine deaf_bind h fun (result, _) settled => ?_
    refine deaf_bind (endTransfer_quiet closing _ result) fun ended calm => ?_
    rcases ended with error | _ | _
    · refine deaf_pure ?_
      rintro _ ⟨⟩
      exact calm error rfl
    · exact deaf_pure hmeanwhile
    · refine deaf_pure ?_
      cases result with
      | ok status => exact fun _ => nofun
      | error error =>
          rintro _ ⟨⟩
          exact ChannelError.kind_socket settled

theorem readWith_deaf (closing : LeavesClosing once) {buffers : β}
    {transfer : Program (Except OsError IoStatus × β)}
    (h : Deaf once (fun result => isInterruption result.1 = false) transfer) :
    Deaf once (fun result => IsCalm result.1) (readWith buffers transfer) :=
  transferWith_deaf closing (fun _ => nofun) (fun _ => nofun) h

theorem writeWith_deaf (closing : LeavesClosing once) {buffers : β}
    {transfer : Program (Except OsError IoStatus × β)}
    (h : Deaf once (fun result => isInterruption result.1 = false) transfer) :
    Deaf once (fun result => IsCalm result.1) (writeWith buffers transfer) := by
  refine transferWith_deaf closing ?_ ?_ h
  all_goals
    rintro _ ⟨⟩
    exact nofun

/-! ## Waiting -/

theorem poll_quiet (closing : LeavesClosing once)
    (h : ∀ events timeout, once (.poll fd events timeout) = false)
    (interest : Interest) (timeout : Option Duration) :
    Quiet once (Channel.poll fd interest timeout) := by
  refine quiet_bind (quiet_look fun _ => rfl) fun _ => quiet_ite
    (quiet_throw nofun) (quiet_holding (quiet_bind (quiet_holding
      (quiet_bind ensureOpen_quiet fun _ => enter_quiet _)) fun _ =>
        quiet_lift_bind (socketPoll_deaf (h _ _)) fun result settled =>
          quiet_bind (leave_quiet closing _ _) fun _ => deaf_pure ?_))
  cases result with
  | ok status => exact fun _ => nofun
  | error error =>
      rintro _ ⟨⟩
      exact ChannelError.kind_socket settled

/-! ## Calls that are made once -/

theorem configureBlocking_frank
    (h : ∀ nonBlocking, once (.setNonBlocking fd nonBlocking) = true)
    (blocking : Bool) : Frank once (configureBlocking fd blocking) := by
  refine frank_holding (frank_holding (frank_holding ?_))
  refine frank_bind ensureOpen_quiet.frank fun _ =>
    frank_bind (quiet_look fun _ => rfl).frank fun isBlocking => ?_
  split
  · exact (quiet_pure _).frank
  · refine frank_bind (quiet_look fun _ => rfl).frank fun fields =>
      frank_ite (Quiet.frank (quiet_throw nofun)) ?_
    exact frank_bind (frank_onSocket (h _)) fun _ =>
      (quiet_look fun _ => rfl).frank

theorem shutdown_frank (h : ∀ how, once (.shutdown fd how) = true)
    (direction : Direction) : Frank once (Channel.shutdown fd direction) :=
  frank_holding (frank_bind ensureOpen_quiet.frank fun _ =>
    frank_bind (quiet_look fun _ => rfl).frank fun _ =>
      frank_ite (Quiet.frank (quiet_throw nofun)) (frank_ite
        (frank_bind (frank_onSocket (h _)) fun _ =>
          (quiet_look fun _ => rfl).frank)
        (quiet_pure _).frank))

theorem remoteAddress_frank (h : once (.peerRecord fd) = true) :
    Frank once (Channel.remoteAddress fd) :=
  frank_holding (frank_bind ensureOpen_quiet.frank fun _ =>
    frank_bind (quiet_look fun _ => rfl).frank fun _ =>
      frank_ite (frank_bind (frank_onSocket h) fun _ =>
        frank_bind (quiet_look fun _ => rfl).frank fun _ =>
          (quiet_pure _).frank)
        (quiet_pure _).frank)

theorem checkSupported_quiet (option : OptionName) :
    Quiet once (checkSupported option) :=
  quiet_ite (quiet_pure _) (quiet_throw nofun)

theorem tells_of_isRefusal {error : ChannelError}
    (h : error.isRefusal = true) :
    tells (.error error : Except ChannelError α) = false :=
  ChannelError.isCutShort_eq_false (ChannelError.kind_of_isRefusal h)

theorem getOption_frank
    (h : ∀ level number form, once (.getOption fd level number form) = true)
    (option : TypedOption) : Frank once (Channel.getOption fd option) := by
  refine frank_bind (checkSupported_quiet _).frank fun _ =>
    frank_holding (frank_bind ensureOpen_quiet.frank fun _ =>
      frank_bind (fun thread => ?_) fun _ => (quiet_pure _).frank)
  rw [ExceptT.run_mk, Socket.getOption]
  split
  · exact (tells_of_isRefusal (resolve_isRefusal ‹_›)).symm
  · refine call_meets (h _ _ _) fun answer => ?_
    cases answer <;> rfl

theorem setOption_frank
    (h : ∀ level number payload,
      once (.setOption fd level number payload) = true)
    (setting : Setting) : Frank once (Channel.setOption fd setting) := by
  refine frank_bind (checkSupported_quiet _).frank fun _ =>
    frank_holding (frank_bind ensureOpen_quiet.frank fun _ =>
      frank_bind (fun thread => ?encode) fun value thread => ?call)
  case encode =>
    rw [meets_run_returning]
    cases hvalue : setting.encode with
    | ok value => rfl
    | error error =>
        exact (tells_of_isRefusal (encode_setting_isRefusal hvalue)).symm
  case call =>
    rw [ExceptT.run_mk, Socket.setOption]
    split
    · exact (tells_of_isRefusal (resolve_isRefusal ‹_›)).symm
    · split
      · exact (tells_of_isRefusal (encode_value_isRefusal ‹_›)).symm
      · refine call_meets (h _ _ _) fun answer => ?_
        cases answer <;> rfl

theorem credentials_frank
    (h : ∀ level number form, once (.getOption fd level number form) = true) :
    Frank once (Channel.credentials fd) := by
  refine frank_bind ensureOpen_quiet.frank fun _ =>
    frank_bind (Quiet.frank (quiet_holding (quiet_bind
      (quiet_look fun _ => rfl) fun _ => quiet_pure _))) fun state => ?_
  refine frank_ite (frank_bind (getOption_frank h _) fun reading => ?_)
    (quiet_pure _).frank
  cases reading <;> exact (quiet_pure _).frank

theorem makeChanges_frank
    (h : ∀ nonBlocking, once (.setNonBlocking fd nonBlocking) = true)
    (hset : ∀ level number payload,
      once (.setOption fd level number payload) = true)
    (changes : List Change) : Frank once (makeChanges fd changes) := by
  induction changes with
  | nil => exact (quiet_pure _).frank
  | cons change rest ih =>
      refine frank_bind ?_ fun _ => ih
      cases change with
      | set setting => exact setOption_frank hset setting
      | nonBlocking => exact configureBlocking_frank h false

/-! ## Binding -/

/-- What binding is going to fail with. -/
def foretells : Except ChannelError (Option OsError) → Bool
  | .ok none => false
  | .ok (some error) => error.isCutShort
  | .error error => error.isCutShort

theorem bindLocked_meets {thread : Thread}
    (h : ∀ record, once (.bind fd record) = true)
    (hname : once (.localRecord fd) = true) (address : Option Address) :
    (hearing once).Meets thread (bindLocked fd address).run
      (fun result heard => heard = foretells result) false := by
  have fails : ∀ {error : ChannelError}, error.kind ≠ .interrupted →
      false = foretells (.error error) := fun calm =>
    (ChannelError.isCutShort_eq_false calm).symm
  refine quiet_then ensureOpen_quiet fails fun _ =>
    quiet_then (quiet_look fun _ => rfl) fails fun fields => ?_
  rw [meets_run_ite]
  split
  · exact fails nofun
  rw [meets_run_ite]
  split
  · exact fails nofun
  refine quiet_then (encode_quiet _) fails fun record => ?_
  refine call_then (h record) fun answer => ?_
  cases answer with
  | error error => rfl
  | ok =>
      refine call_then hname fun answer => ?_
      cases answer with
      | error error => rfl
      | ok bound =>
          exact quiet_then (quiet_look fun _ => rfl) fails fun _ => rfl

theorem bind_frank (closing : LeavesClosing once)
    (h : ∀ record, once (.bind fd record) = true)
    (hname : once (.localRecord fd) = true) (address : Option Address) :
    Frank once (Channel.bind fd address) := by
  refine frank_holding (frank_holding fun thread => ?_)
  rw [meets_run_bind]
  refine holding_meets ((bindLocked_meets h hname address).mono ?_)
  rintro (error | _ | error) heard rfl
  · rfl
  · rfl
  · exact closeAfter_meets closing error thread

/-! ## All operations -/

theorem leavesClosing (operation : Operation) :
    LeavesClosing operation.asksOnce := by
  constructor <;> intro _ <;> cases operation <;> rfl

/-- At the end the thread has heard of an interruption just if the reply tells
of one. -/
def Candid (once : Call → Bool) (program : Program Reply) : Prop :=
  ∀ thread, (hearing once).Meets thread program
    (fun reply heard => heard = reply.isCutShort) false

theorem Frank.reply {make : α → Reply} {operation : Operating α}
    (h : Frank once operation)
    (hmake : ∀ value, (make value).isCutShort = false) :
    Candid once (reply make operation) := by
  intro thread
  rw [meets_reply]
  refine (h thread).mono fun result heard hheard => ?_
  subst hheard
  cases result with
  | ok value => exact (hmake value).symm
  | error error => rfl

theorem Deaf.candid {program : Program Reply}
    (h : Deaf once (fun reply => reply.isCutShort = false) program) :
    Candid once program :=
  fun _ => h.meets fun _ settled => settled.symm

/-- A thread that makes no call just once hears of nothing. -/
theorem hearing_watches (thread : Thread) (heard : Bool) :
    (hearing fun _ => false).Watches thread (· = heard) where
  perform action _ _ hs := hearing_act (fun _ => by cases action <;> rfl)
    fun _ => hs

theorem candid_look {program : Program α} {make : α → Reply}
    (h : ∀ thread heard, (hearing fun _ => false).Watches thread (· = heard) →
      (hearing fun _ => false).Maintains thread (· = heard) program)
    (hmake : ∀ value, (make value).isCutShort = false) :
    Candid (fun _ => false) (program >>= fun value => pure (make value)) := by
  intro thread
  rw [meets_bind_eq]
  refine (h thread false (hearing_watches thread false)).meets rfl
    fun value heard hheard => ?_
  exact hheard.trans (hmake value).symm

theorem IsCalm.streamResult {outcome : Except ChannelError IoStatus}
    (calm : IsCalm outcome) {error : OsError}
    (h : Channel.streamResult outcome = .error error) :
    error.isInterrupted = false := by
  rcases outcome with cause | _ | _ | _
  · cases h
    exact beq_eq_false_iff_ne.mpr (calm cause rfl)
  · cases h
  · cases h
    rfl
  · cases h

theorem isCutShort_of_tells {reply : Reply}
    {outcome : Except ChannelError IoStatus} (told : reply.Tells outcome)
    (calm : IsCalm outcome) : reply.isCutShort = false := by
  cases reply with
  | moved outcome' | movedMany outcome' =>
      obtain rfl : outcome' = outcome := told
      cases outcome' with
      | ok status => rfl
      | error error => exact ChannelError.isCutShort_eq_false (calm error rfl)
  | broken error => exact calm.streamResult told
  | received | sent => rfl
  | _ => cases told

theorem candid_transfer {make : Except ChannelError IoStatus × β → Reply}
    {transfer : Program (Except ChannelError IoStatus × β)}
    (h : Deaf once (fun result => IsCalm result.1) transfer)
    (hmake : ∀ value, (make value).Tells value.1) :
    Candid once (transfer >>= fun value => pure (make value)) := by
  refine Deaf.candid (deaf_bind h fun value calm => deaf_pure ?_)
  exact isCutShort_of_tells (hmake value) calm

end Parts

theorem program_candid (fd : Fd) (operation : Operation) :
    Candid operation.asksOnce (operation.program fd) := by
  have closing := leavesClosing operation
  cases operation with
  | connect address =>
      exact (connect_frank closing (fun _ => rfl) rfl address).reply
        fun _ => rfl
  | finishConnect =>
      exact (finishConnect_frank closing (fun _ => rfl) rfl rfl).reply
        fun _ => rfl
  | bind address =>
      exact (bind_frank closing (fun _ => rfl) rfl address).reply fun _ => rfl
  | configureBlocking blocking =>
      exact (configureBlocking_frank (fun _ => rfl) blocking).reply fun _ => rfl
  | close => exact (close_quiet closing).frank.reply fun _ => rfl
  | shutdown direction =>
      exact (shutdown_frank (fun _ => rfl) direction).reply fun _ => rfl
  | apply settings =>
      exact (makeChanges_frank (fun _ => rfl) (fun _ _ _ => rfl) _).reply
        fun _ => rfl
  | poll interest timeout =>
      exact (poll_quiet closing (fun _ _ => rfl) interest timeout).frank.reply
        fun _ => rfl
  | register => exact register_quiet.frank.reply fun _ => rfl
  | deregister => exact (deregister_quiet closing).frank.reply fun _ => rfl
  | dropRegistration =>
      exact (quiet_quietly (deregister_quiet closing)).frank.reply fun _ => rfl
  | getOption option =>
      exact (getOption_frank (fun _ _ _ => rfl) option).reply fun _ => rfl
  | setOption setting =>
      exact (setOption_frank (fun _ _ _ => rfl) setting).reply fun _ => rfl
  | credentials =>
      exact (credentials_frank fun _ _ _ => rfl).reply fun _ => rfl
  | localAddress =>
      exact (quiet_holding (quiet_bind ensureOpen_quiet fun _ => quiet_bind
        (quiet_look fun _ => rfl) fun _ => quiet_pure _)).frank.reply
          fun _ => rfl
  | remoteAddress => exact (remoteAddress_frank rfl).reply fun _ => rfl
  | read window =>
      exact candid_transfer (readWith_deaf closing (socketRead_deaf rfl))
        fun value => (rfl : Reply.Tells _ (.moved value.1 value.2))
  | readMany windows =>
      exact candid_transfer (readWith_deaf closing (socketReadMany_deaf rfl))
        fun value => (rfl : Reply.Tells _ (.movedMany value.1 value.2))
  | write window =>
      exact candid_transfer (writeWith_deaf closing (socketWrite_deaf rfl))
        fun value => (rfl : Reply.Tells _ (.moved value.1 value.2))
  | writeMany windows =>
      exact candid_transfer (writeWith_deaf closing (socketWriteMany_deaf rfl))
        fun value => (rfl : Reply.Tells _ (.movedMany value.1 value.2))
  | receive length =>
      rw [Looking.receive_eq]
      exact candid_transfer (readWith_deaf closing (socketRead_deaf rfl))
        fun value => streamReply_tells fun _ => id
  | send bytes =>
      rw [Looking.send_eq]
      exact candid_transfer (writeWith_deaf closing (socketWrite_deaf rfl))
        fun value => streamReply_tells fun _ => id
  | flush | supportedOptions => exact fun _ => rfl
  | ready events interest =>
      exact candid_look (fun _ _ watches => watches.ready events interest)
        fun _ => rfl
  | text => exact candid_look (fun _ _ watches => watches.text) fun _ => rfl
  | inspect =>
      exact candid_look (fun _ _ watches => watches.inspect) fun _ => rfl
  | flags => exact candid_look (fun _ _ watches => watches.flags) fun _ => rfl
  | snapshot =>
      exact candid_look (fun _ _ watches => watches.snapshot) fun _ => rfl

end Hearing

end LocalSocket
