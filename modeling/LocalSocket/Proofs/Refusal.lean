import LocalSocket.Proofs.Accounting
import LocalSocket.Proofs.Maintaining

/-!
# Refusals

An operation may turn a request down on its own account: the channel is closed
or in the wrong state, or an argument is of no use.  It finds that out by
looking.  Whatever the operation would go on to do, a refusal comes before its
first system call and before its first change to the channel.

A program is discreet if it refuses only after nothing but looks, and compliant
if it does not refuse at all.  An operation looks first, is discreet then, and
compliant from its first call on.
-/

namespace LocalSocket

/-- Whether an operation reports the error on its own account, rather than for
the system or because of another thread. -/
def ChannelError.isRefusal : ChannelError → Bool
  | closed | alreadyConnected | connectionPending | noConnectionPending
  | notYetConnected | alreadyBound | illegalBlockingMode | unsupportedOption _
  | invalidArgument .. | invalidPath .. => true
  | asynchronousClose | close .. | inappropriateSocket | socket _ => false

namespace Channel

/-- The operation has failed with the error.  A plain stream tells of it in its
own terms. -/
def Reply.Reports : Reply → ChannelError → Prop
  | .failed error', error => error' = error
  | .moved outcome _, error => outcome = .error error
  | .movedMany outcome _, error => outcome = .error error
  | .broken error', error => error' = error.toOsError
  | _, _ => False

/-- Settings are made by one operation after the other; all else is a single
operation. -/
def Operation.isSingle : Operation → Bool
  | .apply _ => false
  | _ => true

end Channel

/-! ## Refusals on a plain stream -/

namespace ChannelError

/-- How the message begins; the first four letters are looked at. -/
def opening : ChannelError → String
  | closed | asynchronousClose | alreadyConnected | notYetConnected
  | alreadyBound => "channel"
  | connectionPending => "a connection"
  | noConnectionPending => "no connection"
  | unsupportedOption _ => "the "
  | invalidArgument .. | invalidPath .. => "invalid"
  | illegalBlockingMode => "operation"
  | close .. => "couldn't close"
  | inappropriateSocket => "socket"
  | socket error => error.category.text

theorem take_message (error : ChannelError) :
    error.message.toList.take 4 = error.opening.toList.take 4 := by
  cases error with
  | unsupportedOption option =>
      show ("the \x60" ++ option.text ++ _).toList.take 4 = _
      simp [String.toList_append, opening]
  | invalidArgument option value fault =>
      show ("invalid value " ++ _ ++ _ ++ _ ++ _ ++ _).toList.take 4 = _
      simp [String.toList_append, opening]
  | invalidPath path fault =>
      show ("invalid Unix-domain socket path " ++ _ ++ _ ++ _).toList.take 4 = _
      simp [String.toList_append, opening]
  | close fd error =>
      show ("couldn't close file descriptor " ++ _ ++ _ ++ _).toList.take 4 = _
      simp [String.toList_append, opening]
  | socket error =>
      show (error.category.text ++ ": " ++ error.message).toList.take 4 =
        error.category.text.toList.take 4
      generalize error.category = category
      cases category <;> simp [String.toList_append, SocketFailure.text]
  | closed =>
      show "channel is closed".toList.take 4 = _
      simp [opening]
  | asynchronousClose =>
      show ("channel was closed by another thread during the operation" :
        String).toList.take 4 = _
      simp [opening]
  | alreadyConnected =>
      show "channel is already connected".toList.take 4 = _
      simp [opening]
  | connectionPending =>
      show "a connection attempt is already pending".toList.take 4 = _
      simp [opening]
  | noConnectionPending =>
      show "no connection attempt is pending".toList.take 4 = _
      simp [opening]
  | notYetConnected =>
      show "channel is not yet connected".toList.take 4 = _
      simp [opening]
  | alreadyBound =>
      show "channel is already bound".toList.take 4 = _
      simp [opening]
  | illegalBlockingMode =>
      show "operation requires a non-blocking channel".toList.take 4 = _
      simp [opening]
  | inappropriateSocket =>
      show ("socket is not a connected Unix-domain stream socket" :
        String).toList.take 4 = _
      simp [opening]

variable {error error' : ChannelError}

theorem isRefusal_of_toOsError (refusal : error.isRefusal = true)
    (h : error'.toOsError = error.toOsError) : error'.isRefusal = true := by
  obtain ⟨-, hmessage⟩ : _ ∧ error'.message = error.message := by
    simpa [toOsError] using h
  have hopening := take_message error'
  rw [hmessage, take_message] at hopening
  cases error' with
  | asynchronousClose =>
      cases error with
      | closed | alreadyConnected | notYetConnected | alreadyBound =>
          exact absurd hmessage (by decide)
      | _ => simp_all [opening, isRefusal]
  | close fd failure =>
      cases error <;> simp_all [opening, isRefusal]
  | inappropriateSocket =>
      cases error <;> simp_all [opening, isRefusal]
  | socket failure =>
      clear h hmessage
      simp only [opening] at hopening
      generalize failure.category = category at hopening
      cases category <;> cases error <;>
        simp_all [isRefusal, SocketFailure.text]
  | _ => rfl

theorem isRefusal_of_streamResult {outcome : Except ChannelError IoStatus}
    (refusal : error.isRefusal = true)
    (h : Channel.streamResult outcome = .error error.toOsError) :
    ∃ error', outcome = .error error' ∧ error'.isRefusal = true := by
  rcases outcome with error' | count | _ | _
  · have hsame : error'.toOsError = error.toOsError := by
      simpa [Channel.streamResult] using h
    exact ⟨error', rfl, isRefusal_of_toOsError refusal hsame⟩
  · cases h
  · obtain ⟨-, hmessage⟩ : _ ∧ "operation would block" = error.message := by
      simpa [Channel.streamResult, Channel.wouldBlock, toOsError] using h
    have hopening := take_message error
    rw [← hmessage] at hopening
    cases error with
    | illegalBlockingMode => exact absurd hmessage (by decide)
    | _ =>
        clear h hmessage
        simp [opening, isRefusal] at hopening refusal
  · cases h

end ChannelError

/-! ## The protocol -/

/-- Whether the action leaves alone all but the locks. -/
def Action.isLook : Action → Bool
  | acquire _ | release _ | fields | isOpen | isBlocking | thread => true
  | _ => false

def Event.isLook : Event → Bool
  | acted _ action => action.isLook
  | _ => false

/-- Threads may do what they like; the standing says whether a thread has only
looked so far. -/
def looking : Protocol Bool where
  act _ s action k := ∀ result, k result (s && action.isLook)
  mono := fun himp h result => himp _ _ (h result)
  rest := true
  opens := fun _ => true
  closes operation reply s := ∀ error, reply.Reports error →
    error.isRefusal = true → s = true ∧
      ∀ direction windows, operation.Offers direction windows →
        reply.windows windows = windows
  covers := fun operation => operation.isSingle = true

namespace Looking

open Protocol Channel

variable {fd : Fd} {α β : Type} {direction : Direction}

/-- The program gets to its end, whatever it does on the way. -/
def Roams (program : Program α) : Prop :=
  ∀ ⦃thread : Thread⦄ ⦃post : α → Bool → Prop⦄ ⦃s : Bool⦄,
    (∀ value s', post value s') → looking.Meets thread program post s

/-- The program does nothing but look. -/
def Looks (program : Program α) : Prop :=
  ∀ ⦃thread : Thread⦄ ⦃post : α → Bool → Prop⦄ ⦃s : Bool⦄,
    (∀ value, post value s) → looking.Meets thread program post s

def Refuses (result : Except ChannelError α) : Prop :=
  ∃ error, result = .error error ∧ error.isRefusal = true

/-- The program refuses only after nothing but looks. -/
def Discreet (operation : Operating α) : Prop :=
  ∀ ⦃thread : Thread⦄ ⦃post : Except ChannelError α → Bool → Prop⦄ ⦃s : Bool⦄,
    (∀ result s', (Refuses result → s' = s) → post result s') →
      looking.Meets thread operation.run post s

/-- The program does not refuse. -/
def Compliant (operation : Operating α) : Prop :=
  ∀ ⦃thread : Thread⦄ ⦃post : Except ChannelError α → Bool → Prop⦄ ⦃s : Bool⦄,
    (∀ result s', ¬Refuses result → post result s') →
      looking.Meets thread operation.run post s

section Rules

theorem meets_of_aloof {program : Program α} {thread other : Thread}
    {post : α → Bool → Prop} {post' : α → Unit → Prop} {s : Bool}
    (h : aloof.Meets other program post' ())
    (himp : ∀ value s', post' value () → post value s') :
    looking.Meets thread program post s := by
  induction program generalizing s with
  | done value => exact himp value s h
  | act action next ih => exact fun result => ih result (h.2 result) himp
  | loop body next ihBody ihNext =>
      obtain ⟨hguard, invariant, hs, hbody⟩ := h
      refine ⟨hguard, fun _ => True, trivial, fun s' _ => ?_⟩
      refine ihBody (hbody () hs) fun value s'' hvalue => ?_
      cases value with
      | none => trivial
      | some value => exact ihNext value hvalue himp

theorem roams_iff {program : Program α} : Roams program ↔
    ∀ thread, looking.Maintains thread (fun _ => True) program := by
  constructor
  · exact fun h thread s _ => h fun _ _ => trivial
  · exact fun h thread post s hpost =>
      (h thread).meets trivial fun value s' _ => hpost value s'

theorem roams_of_isAloof {program : Program α} (h : program.IsAloof) :
    Roams program :=
  fun _ _ _ hpost => meets_of_aloof h fun value s' _ => hpost value s'

theorem roams_pure (value : α) : Roams (pure value) :=
  fun _ _ _ hpost => hpost value _

theorem roams_perform (action : Action) : Roams (Program.perform action) :=
  fun _ _ _ hpost _ => hpost _ _

theorem roams_bind {program : Program α} {f : α → Program β}
    (h : Roams program) (hf : ∀ value, Roams (f value)) :
    Roams (program >>= f) :=
  roams_iff.mpr fun thread => maintains_bind (roams_iff.mp h thread)
    fun value => roams_iff.mp (hf value) thread

theorem roams_loop {body : Program (Option β)} {next : β → Program α}
    (hguard : body.next? ≠ none) (hbody : Roams body)
    (hnext : ∀ value, Roams (next value)) : Roams (.loop body next) :=
  roams_iff.mpr fun thread => maintains_loop hguard (roams_iff.mp hbody thread)
    fun value => roams_iff.mp (hnext value) thread

theorem roams_retry (call : Call) : Roams (Program.retry call) :=
  roams_iff.mpr fun _ => maintains_retry fun _ _ _ => trivial

theorem looks_perform {action : Action} (h : action.isLook = true) :
    Looks (Program.perform action) := by
  intro thread post s hpost result
  simpa [h] using hpost result

theorem looks_run_bind {operation : Operating α} {f : α → Operating β}
    (h : Looks operation.run) (hf : ∀ value, Looks (f value).run) :
    Looks (operation >>= f).run := by
  intro thread post s hpost
  rw [meets_run_bind]
  refine h fun result => ?_
  cases result with
  | ok value => exact hf value hpost
  | error error => exact hpost _

theorem not_refuses_ok (value : α) :
    ¬Refuses (.ok value : Except ChannelError α) := nofun

theorem not_refuses_error {error : ChannelError}
    (h : error.isRefusal = false) :
    ¬Refuses (.error error : Except ChannelError α) := by
  rintro ⟨error', ⟨⟩, refusal⟩
  rw [h] at refusal
  cases refusal

theorem compliant_pure (value : α) : Compliant (pure value : Operating α) :=
  fun _ _ _ hpost => hpost _ _ (not_refuses_ok value)

theorem compliant_throw {error : ChannelError} (h : error.isRefusal = false) :
    Compliant (throw error : Operating α) :=
  fun _ _ _ hpost => hpost _ _ (not_refuses_error h)

theorem compliant_lift {program : Program α} (h : Roams program) :
    Compliant (ExceptT.lift program) := by
  intro thread post s hpost
  rw [meets_run_lift]
  exact h fun value s' => hpost _ _ (not_refuses_ok value)

theorem compliant_perform (action : Action) :
    Compliant (Operating.perform action) :=
  compliant_lift (roams_perform action)

theorem compliant_onSocket {program : Program (Except OsError α)}
    (h : Roams program) : Compliant (Operating.onSocket program) := by
  intro thread post s hpost
  rw [meets_run_onSocket]
  refine h fun result s' => ?_
  cases result with
  | ok value => exact hpost _ _ (not_refuses_ok value)
  | error error => exact hpost _ _ (not_refuses_error rfl)

theorem compliant_quietly {operation : Operating Unit}
    (h : Roams operation.run) : Compliant (Operating.quietly operation) := by
  intro thread post s hpost
  rw [meets_run_quietly]
  exact h fun _ s' => hpost _ _ (not_refuses_ok ())

theorem compliant_bind {operation : Operating α} {f : α → Operating β}
    (h : Compliant operation) (hf : ∀ value, Compliant (f value)) :
    Compliant (operation >>= f) := by
  intro thread post s hpost
  rw [meets_run_bind]
  refine h fun result s' hresult => ?_
  cases result with
  | ok value => exact hf value hpost
  | error error =>
      exact hpost _ _ fun ⟨_, herror, refusal⟩ =>
        hresult ⟨_, by simpa using herror, refusal⟩

theorem compliant_holding {lock : Lock} {body : Operating α}
    (h : Compliant body) : Compliant (Operating.holding lock body) := by
  intro thread post s hpost
  rw [meets_run_holding]
  exact fun _ => h fun result s' hresult _ => hpost _ _ hresult

theorem discreet_of_looks {operation : Operating α}
    (h : Looks operation.run) : Discreet operation :=
  fun _ _ _ hpost => h fun result => hpost result _ fun _ => rfl

theorem discreet_of_compliant {operation : Operating α}
    (h : Compliant operation) : Discreet operation :=
  fun _ _ _ hpost => h fun result s' hresult =>
    hpost result s' fun refuses => absurd refuses hresult

theorem discreet_throw (error : ChannelError) :
    Discreet (throw error : Operating α) :=
  discreet_of_looks fun _ _ _ hpost => hpost _

theorem discreet_pure (value : α) : Discreet (pure value : Operating α) :=
  discreet_of_compliant (compliant_pure value)

theorem discreet_look_bind {operation : Operating α} {f : α → Operating β}
    (h : Looks operation.run) (hf : ∀ value, Discreet (f value)) :
    Discreet (operation >>= f) := by
  intro thread post s hpost
  rw [meets_run_bind]
  refine h fun result => ?_
  cases result with
  | ok value => exact hf value hpost
  | error error => exact hpost _ _ fun _ => rfl

/-- From the first step that is not a look, the program has to be compliant. -/
theorem discreet_bind {operation : Operating α} {f : α → Operating β}
    (h : Discreet operation) (hf : ∀ value, Compliant (f value)) :
    Discreet (operation >>= f) := by
  intro thread post s hpost
  rw [meets_run_bind]
  refine h fun result s' hresult => ?_
  cases result with
  | ok value =>
      exact hf value fun result s'' hnot =>
        hpost result s'' fun refuses => absurd refuses hnot
  | error error =>
      exact hpost _ _ fun ⟨_, herror, refusal⟩ =>
        hresult ⟨_, by simpa using herror, refusal⟩

theorem discreet_ite {condition : Prop} [Decidable condition]
    {operation other : Operating α} (h : Discreet operation)
    (hother : Discreet other) :
    Discreet (if condition then operation else other) := by
  split
  · exact h
  · exact hother

theorem discreet_holding {lock : Lock} {body : Operating α}
    (h : Discreet body) : Discreet (Operating.holding lock body) := by
  intro thread post s hpost
  rw [meets_run_holding]
  intro _
  simp only [Action.isLook, Bool.and_true]
  refine h fun result s' hresult _ => hpost _ _ fun refuses => ?_
  simp [Action.isLook, hresult refuses]

end Rules

/-! ## Parts of operations -/

theorem perform_looks {action : Action} (h : action.isLook = true) :
    Looks (Operating.perform action).run := by
  intro thread post s hpost
  rw [Operating.perform, meets_run_lift]
  exact looks_perform h fun result => hpost (.ok result)

theorem ensureOpen_looks : Looks ensureOpen.run := by
  refine looks_run_bind (perform_looks rfl) fun isOpen => ?_
  cases isOpen <;> exact fun _ _ _ hpost => hpost _

theorem encode_looks (address : Address) : Looks (encode address).run := by
  intro thread post s hpost
  rw [encode]
  split <;> exact hpost _

theorem ensureStillOpen_compliant : Compliant ensureStillOpen := by
  refine compliant_bind (compliant_perform _) fun isOpen => ?_
  cases isOpen
  · exact compliant_throw rfl
  · exact compliant_pure _

theorem leave_compliant (direction : Direction) (completed : Bool) :
    Compliant (leave direction completed) := by
  refine compliant_bind (compliant_holding ?_) fun _ => ?_
  · refine compliant_bind (compliant_perform _) fun fields => ?_
    refine compliant_bind (compliant_perform _) fun _ => ?_
    split
    · exact compliant_quietly (roams_of_isAloof release_isAloof)
    · exact compliant_pure _
  · cases completed with
    | true => exact compliant_pure _
    | false => exact ensureStillOpen_compliant

theorem enter_compliant (direction : Direction) : Compliant (enter direction) :=
  compliant_bind (compliant_perform _) fun _ =>
    compliant_bind (compliant_perform _) fun _ => compliant_perform _

theorem release_compliant : Compliant release := by
  refine compliant_bind (compliant_perform _) fun fields => ?_
  split
  · exact compliant_pure _
  · split
    · exact compliant_perform _
    · refine compliant_bind (compliant_perform _) fun _ => ?_
      split
      · exact compliant_pure _
      · refine compliant_bind (compliant_lift (roams_retry _)) fun result => ?_
        cases result with
        | ok => exact compliant_pure _
        | error error => exact compliant_throw rfl

theorem shutDown_compliant : Compliant shutDown := by
  refine compliant_bind (compliant_perform _) fun fields => ?_
  refine compliant_bind (compliant_perform _) fun _ => ?_
  split
  · split
    · exact release_compliant
    · exact compliant_bind (compliant_lift (roams_perform _))
        fun _ => release_compliant
  · exact release_compliant

theorem close_compliant : Compliant Channel.close := by
  intro thread post s hpost
  simp only [Channel.close, ExceptT.run_mk, meets_bind_eq]
  refine roams_perform _ fun first s' => ?_
  split
  · rw [meets_bind_eq]
    refine compliant_holding shutDown_compliant fun result s'' hresult => ?_
    rw [meets_bind_eq]
    exact roams_of_isAloof signalUsers_isAloof fun _ _ => hpost _ _ hresult
  · exact hpost _ _ (not_refuses_ok ())

theorem deregister_compliant : Compliant deregister := by
  refine compliant_holding (compliant_bind (compliant_perform _) fun _ => ?_)
  refine compliant_bind (compliant_perform _) fun _ => ?_
  split
  · exact release_compliant
  · exact compliant_pure _

theorem closeAfter_compliant (error : OsError) :
    Compliant (closeAfter (.socket error) : Operating α) :=
  compliant_bind (compliant_quietly (roams_of_isAloof close_isAloof))
    fun _ => compliant_throw rfl

theorem markConnected_compliant (remote : Option Address) :
    Compliant (markConnected fd remote) := by
  refine compliant_holding (compliant_bind (compliant_perform _) fun _ => ?_)
  refine compliant_bind ensureStillOpen_compliant fun _ => ?_
  refine compliant_bind (compliant_perform _) fun _ => ?_
  split
  · refine compliant_bind (compliant_lift (roams_perform _)) fun record => ?_
    cases record with
    | ok record => exact compliant_perform _
    | error error => exact compliant_pure _
  · exact compliant_pure _

theorem socketConnect_roams (record : Record) :
    Roams (Socket.connect fd record) := by
  refine roams_bind (roams_perform _) fun answer => ?_
  split
  · exact roams_pure _
  · split
    · exact roams_pure _
    · split <;> exact roams_pure _
  · exact roams_pure _

theorem socketPoll_roams (events : Events) (timeout : Int) :
    Roams (Socket.poll fd events timeout) := by
  refine roams_bind (roams_perform _) fun answer => ?_
  split <;> exact roams_pure _

theorem attempt_roams (record : Record) : Roams (attempt fd record) := by
  refine roams_loop nofun (roams_bind (socketConnect_roams record) ?_)
    fun _ => roams_pure _
  intro result
  split
  · exact roams_bind (roams_perform _) fun _ => roams_pure _
  · exact roams_pure _

theorem awaitConnection_roams (record : Record) (blocking : Bool) :
    Roams (awaitConnection fd record blocking) := by
  refine roams_loop nofun (roams_bind (socketConnect_roams record) ?_)
    fun _ => roams_pure _
  intro result
  split
  · exact roams_pure _
  · split <;> exact roams_pure _
  · exact roams_bind (roams_perform _) fun _ => roams_pure _
  · refine roams_bind (roams_perform _) fun isOpen => ?_
    split
    · refine roams_bind (socketPoll_roams _ _) fun result => ?_
      split
      · exact roams_pure _
      · exact roams_bind (roams_perform _) fun _ => roams_pure _
    · exact roams_pure _

end Looking

end LocalSocket
