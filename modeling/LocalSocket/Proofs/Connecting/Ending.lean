import LocalSocket.Proofs.Connecting.Alone
import LocalSocket.Proofs.Ending

/-!
# Attempts that come to an end

However often an attempt is interrupted, an answer that is no interruption ends
it.  So a thread that has an open channel to itself can connect it, or take up
an attempt again, with all answers that the system may give.
-/

namespace LocalSocket

open Program Operating Channel Pending

variable {fd : Fd} {thread : Thread} {channel : Channel} {record : Record}
  {address : Address} {interruptions : List (Except OsError Unit)}
  {answer : Except OsError Unit}
  (hinterrupted : ∀ interruption ∈ interruptions,
    interruption = .error (.code Errno.interrupted))
  (final : answer ≠ .error (.code Errno.interrupted))

namespace Channel

include hinterrupted final in
theorem attempt_runsAlone (isOpen : channel.isOpen = true) :
    (attempt fd record).RunsAlone thread channel
      ((Call.connect fd record).exchanges (interruptions ++ [answer])) channel
      (Socket.judged answer) := by
  induction interruptions with
  | nil =>
      rw [attempt_eq]
      refine .loop ?_
      rw [unroll_attempt]
      refine .call _ ?_
      rw [Ne, ← judged_eq_interrupted] at final
      generalize Socket.judged answer = result at final ⊢
      rcases result with error | _ | _ | _
      · exact .done _
      · exact .done _
      · exact .done _
      · exact absurd rfl final
  | cons first interruptions ih =>
      obtain ⟨rfl, hrest⟩ := List.forall_mem_cons.mp hinterrupted
      have rest := ih hrest
      rw [attempt_eq]
      refine .loop ?_
      rw [unroll_attempt]
      refine .call _ ?_
      rw [judged_eq_interrupted.mpr rfl]
      refine .act rfl ?_
      rw [isOpen]
      exact rest

include hinterrupted final in
theorem awaitConnection_runsAlone (isOpen : channel.isOpen = true) :
    (awaitConnection fd record false).RunsAlone thread channel
      ((Call.connect fd record).exchanges (interruptions ++ [answer])) channel
      (finishing answer) := by
  induction interruptions with
  | nil =>
      rw [awaitConnection, Socket.connect_eq]
      refine .loop (.call _ ?_)
      rw [Ne, ← judged_eq_interrupted] at final
      dsimp only
      rw [Program.done_bind, finishing]
      generalize Socket.judged answer = result at final ⊢
      rcases result with error | _ | _ | _
      · dsimp only
        split <;> exact .done _
      · exact .done _
      · exact .act rfl (.done _)
      · exact absurd rfl final
  | cons first interruptions ih =>
      obtain ⟨rfl, hrest⟩ := List.forall_mem_cons.mp hinterrupted
      have rest := ih hrest
      rw [awaitConnection, Socket.connect_eq] at rest ⊢
      refine .loop (.call _ ?_)
      dsimp only
      rw [Program.done_bind, judged_eq_interrupted.mpr rfl]
      refine .act rfl ?_
      rw [isOpen]
      exact rest

theorem concludeConnect_isPrompt (result : Except OsError ConnectStatus) :
    (concludeConnect fd address result).run.IsPrompt fun _ => True := by
  rcases result with error | _ | _ | _
  · exact closeAfter_isPrompt trivial
  · refine isPrompt_bind (markConnected_isPrompt fun marked => ?_)
    cases marked <;> trivial
  · refine isPrompt_bind (.holding (isPrompt_bind (isPrompt_perform rfl
      fun fields _ => isPrompt_bind
        (ensureStillOpen_isPrompt fun still => ?_))))
    cases still with
    | error error => trivial
    | ok => exact isPrompt_perform rfl fun _ _ => trivial
  · trivial

theorem leave_ends (unused : channel.IsUnused fd)
    (free : channel.locks.holder .state = none) :
    (leave .input false).run.Ends thread (channel.occupy .input thread) []
      fun result channel' => result = .ok () ∧ channel' = channel :=
  ends_of_prompt [] (Solo.leave_meets unused free ⟨rfl, rfl⟩)
    (leave_isPrompt fun _ => trivial)

theorem beginConnect_ends (isOpen : channel.isOpen = true)
    (free : channel.locks.holder .state = none)
    (unconnected : channel.fields.state = .unconnected) :
    beginConnect.run.Ends thread channel [] fun result channel' =>
      result = .ok () ∧ channel' = channel.occupy .input thread :=
  ends_of_prompt [] (Solo.beginConnect_rests isOpen free unconnected ⟨rfl, rfl⟩)
    (beginConnect_isPrompt fun _ => trivial)

include hinterrupted final in
theorem attempt_ends (isOpen : channel.isOpen = true) :
    (ExceptT.lift (attempt fd record) : Operating _).run.Ends thread channel
      ((Call.connect fd record).exchanges (interruptions ++ [answer]))
      fun result channel' => result = .ok (Socket.judged answer) ∧
        channel' = channel := by
  have answered : (attempt fd record).RunsAlone thread channel _ channel _ :=
    attempt_runsAlone hinterrupted final isOpen
  have h := ends_lift answered
  rwa [Call.filter_exchanges rfl] at h

include final in
theorem concludeConnect_ends (unused : channel.IsUnused fd)
    (free : channel.locks.holder .state = none) :
    (concludeConnect fd address (Socket.judged answer)).run.Ends thread channel
      [] fun result channel' => result = Connecting.concluded answer ∧
        Solo.Rests channel result channel' :=
  ends_of_prompt [] (Solo.concludeConnect_rests unused free final
    fun _ _ _ rests => ⟨rfl, rests⟩) (concludeConnect_isPrompt _)

theorem ends_engaged {body : Operating Bool} {asked : List Exchange}
    {post : Except ChannelError Bool → Channel → Prop}
    (free : ∀ lock, channel.locks.holder lock = none)
    (h : body.run.Ends thread (channel.engaged thread) asked
      fun result channel' =>
        post result ((channel'.hold .write none).hold .read none)) :
    (Operating.holding .read (Operating.holding .write body)).run.Ends thread
      channel asked post :=
  ends_holding (free _) (ends_holding (Solo.free_write free) h)

include hinterrupted final in
/-- However often a thread that has the channel to itself is interrupted when it
connects, an answer that is no interruption brings it to an end. -/
theorem connect_ends (unused : channel.IsUnused fd)
    (free : ∀ lock, channel.locks.holder lock = none)
    (unconnected : channel.fields.state = .unconnected)
    (encoded : Record.ofAddress address = .ok record) :
    (Channel.connect fd address).run.Ends thread channel
      ((Call.connect fd record).exchanges (interruptions ++ [answer]))
      fun result channel' => result = Connecting.concluded answer ∧
        Solo.Rests channel result channel' := by
  rw [connect_of_ok encoded]
  have free' : (channel.engaged thread).locks.holder .state = none :=
    Solo.engaged_free free
  have unused' : (channel.engaged thread).IsUnused fd := unused.engaged
  refine ends_engaged free ?_
  refine ends_run_bind rfl
    (beginConnect_ends unused'.isOpen free' unconnected) ?_
  refine ends_run_bind (List.append_nil _).symm
    (attempt_ends hinterrupted final unused'.isOpen) ?_
  refine ends_run_bind rfl (leave_ends unused' free') ?_
  exact (concludeConnect_ends final unused' free').mono
    fun _ _ ⟨hresult, rests⟩ => ⟨hresult, rests.disengaged free⟩

/-! ### Taking an attempt up again -/

theorem beginFinish_ends (isOpen : channel.isOpen = true)
    (free : channel.locks.holder .state = none)
    (connecting : channel.fields.state = .connecting)
    (remote : channel.fields.remoteAddress = some address)
    (encoded : Record.ofAddress address = .ok record) :
    beginFinish.run.Ends thread channel [] fun result channel' =>
      result = .ok (some record) ∧ channel' = channel.occupy .input thread :=
  ends_of_prompt []
    (Solo.beginFinish_rests isOpen free connecting remote encoded ⟨rfl, rfl⟩)
    (beginFinish_isPrompt fun _ => trivial)

theorem isBlocking_ends (nonBlocking : channel.isBlocking = false) :
    (Operating.perform .isBlocking).run.Ends thread channel []
      fun result channel' => result = .ok false ∧ channel' = channel :=
  ⟨[], channel, .ok channel.isBlocking, .act rfl (.done _), rfl,
    by rw [nonBlocking], rfl⟩

include hinterrupted final in
theorem awaitConnection_ends (isOpen : channel.isOpen = true) :
    (ExceptT.lift (awaitConnection fd record false) : Operating _).run.Ends
      thread channel
      ((Call.connect fd record).exchanges (interruptions ++ [answer]))
      fun result channel' => result = .ok (finishing answer) ∧
        channel' = channel := by
  have answered : (awaitConnection fd record false).RunsAlone thread channel _
      channel _ := awaitConnection_runsAlone hinterrupted final isOpen
  have h := ends_lift answered
  rwa [Call.filter_exchanges rfl] at h

theorem concludeFinish_isPrompt (result : Except OsError Bool) :
    (concludeFinish fd result).run.IsPrompt fun _ => True := by
  rcases result with error | _ | _
  · exact closeAfter_isPrompt trivial
  · trivial
  · refine isPrompt_bind (markConnected_isPrompt fun marked => ?_)
    cases marked <;> trivial

theorem concludeFinish_ends {result : Except OsError Bool}
    (unused : channel.IsUnused fd) (free : channel.locks.holder .state = none)
    (connecting : channel.fields.state = .connecting) :
    (concludeFinish fd result).run.Ends thread channel []
      fun result' channel' => result' = result.mapError .socket ∧
        Solo.Rests channel result' channel' :=
  ends_of_prompt [] (Solo.concludeFinish_rests unused free connecting
    fun _ _ rests => ⟨rfl, rests⟩) (concludeFinish_isPrompt _)

include hinterrupted final in
/-- So does a thread that finishes connecting without blocking. -/
theorem finishConnect_ends (unused : channel.IsUnused fd)
    (free : ∀ lock, channel.locks.holder lock = none)
    (nonBlocking : channel.isBlocking = false)
    (connecting : channel.fields.state = .connecting)
    (remote : channel.fields.remoteAddress = some address)
    (encoded : Record.ofAddress address = .ok record) :
    (Channel.finishConnect fd).run.Ends thread channel
      ((Call.connect fd record).exchanges (interruptions ++ [answer]))
      fun result channel' => result = (finishing answer).mapError .socket ∧
        Solo.Rests channel result channel' := by
  have free' : (channel.engaged thread).locks.holder .state = none :=
    Solo.engaged_free free
  have unused' : (channel.engaged thread).IsUnused fd := unused.engaged
  refine ends_engaged free ?_
  refine ends_run_bind rfl
    (beginFinish_ends unused'.isOpen free' connecting remote encoded) ?_
  refine ends_run_bind rfl (isBlocking_ends nonBlocking) ?_
  refine ends_run_bind (List.append_nil _).symm
    (awaitConnection_ends hinterrupted final unused'.isOpen) ?_
  refine ends_run_bind rfl (leave_ends unused' free') ?_
  exact (concludeFinish_ends unused' free' connecting).mono
    fun _ _ ⟨hresult, rests⟩ => ⟨hresult, rests.disengaged free⟩

end Channel

/-- A thread that nobody interferes with goes through the operation.  In the
calls in which it may be blocked, it asks to be connected and is answered this,
and it is told the result and leaves a channel to match. -/
def Connecting.ComesAlone (fd : Fd) (thread : Thread) (operation : Operation)
    (c : Config) (record : Record) (answers : List (Except OsError Unit))
    (result : Except ChannelError Bool) : Prop :=
  ∃ during reply c', Episode fd thread operation c during reply c' ∧
    (∀ event ∈ during, event.thread = thread) ∧
    ((during.exchanges thread).filter fun exchange =>
      exchange.call.isBlocking) = (Call.connect fd record).exchanges answers ∧
    reply = Connecting.told result ∧ Solo.Rests c.channel result c'.channel

section Episode

variable {before : Trace} {c : Config}

theorem ends_told {operation : Operating Bool} {asked : List Exchange}
    {result : Except ChannelError Bool}
    (h : operation.run.Ends thread channel asked fun result' channel' =>
      result' = result ∧ Solo.Rests channel result' channel') :
    (reply .isConnected operation).Ends thread channel asked
      fun reply channel' => reply = Connecting.told result ∧
        Solo.Rests channel result channel' := by
  refine ends_reply (h.mono ?_)
  rintro result' channel' ⟨rfl, rests⟩
  cases result' with
  | ok value => exact ⟨rfl, rests⟩
  | error error => exact ⟨rfl, rests⟩

include hinterrupted final in
/-- Whatever decides the attempt, some run of a thread that has the channel to
itself takes it to its end. -/
theorem Run.connects (run : Run fd before c) (isOpen : c.channel.isOpen = true)
    (unconnected : c.channel.fields.state = .unconnected)
    (idle : ∀ other, c.activity other = .idle) (isLive : c.isDropped = false)
    (encoded : Record.ofAddress address = .ok record) :
    Connecting.ComesAlone fd thread (.connect address) c record
      (interruptions ++ [answer]) (Connecting.concluded answer) := by
  obtain ⟨unused, free, -⟩ := run.isUnused isOpen idle
  have ends : (Operation.connect address |>.program fd).Ends thread c.channel _
      _ := ends_told (connect_ends hinterrupted final unused free unconnected
        encoded)
  exact ends.episode (idle thread) isLive (by simp [Operation.takesGuard])

include hinterrupted final in
/-- So it does when the thread finishes connecting a channel that does not
block. -/
theorem Run.finishes (run : Run fd before c) (isOpen : c.channel.isOpen = true)
    (nonBlocking : c.channel.isBlocking = false)
    (connecting : c.channel.fields.state = .connecting)
    (idle : ∀ other, c.activity other = .idle) (isLive : c.isDropped = false) :
    ∃ record, Connecting.ComesAlone fd thread .finishConnect c record
      (interruptions ++ [answer]) ((finishing answer).mapError .socket) := by
  obtain ⟨unused, free, -⟩ := run.isUnused isOpen idle
  obtain ⟨address, record, _, remote, encoded, -⟩ := run.hasAttempted connecting
  have ends : (Operation.finishConnect.program fd).Ends thread c.channel _ _ :=
    ends_told (finishConnect_ends hinterrupted final unused free nonBlocking
      connecting remote encoded)
  exact ⟨record, ends.episode (idle thread) isLive
    (by simp [Operation.takesGuard])⟩

/-- A thread that connects the channel comes back with the connection
established, or fails and leaves the channel closed, whatever the system answers
and other threads do, unless the system leaves the attempt pending: then the
thread comes back with the attempt under way, and it makes no difference whether
the channel is blocking.  A thread that has the channel to itself comes back
however the attempt is decided, as soon as it is not interrupted.  So a channel
that has been opened to be connected is connected, unless the system has left
the attempt pending. -/
theorem attempt_decided_unless_pending (run : Run fd before c)
    (encoded : Record.ofAddress address = .ok record) :
    (∀ during reply c', Episode fd thread (.connect address) c during reply c' →
      ¬Steps.Sees fd thread c (during.framed thread (.connect address) reply) c'
        .fields (fun channel => channel.fields.state = .connected ∨
          channel.fields.state = .connecting) →
      Connecting.Comes fd thread c address record during c' reply) ∧
    (c.channel.isOpen = true → c.channel.fields.state = .unconnected →
      (∀ other, c.activity other = .idle) → c.isDropped = false →
      ∀ (interruptions : List (Except OsError Unit))
        (answer : Except OsError Unit),
        (∀ interruption ∈ interruptions,
          interruption = .error (.code Errno.interrupted)) →
        answer ≠ .error (.code Errno.interrupted) →
        Connecting.ComesAlone fd thread (.connect address) c record
          (interruptions ++ [answer]) (Connecting.concluded answer)) ∧
    ∀ settings channel exchanges channel' fd', settings.nonBlocking = false →
      (openConnected address settings).run.RunsAlone thread channel exchanges
        channel' (.ok fd') →
      channel'.isOpen = true ∧ (channel'.fields.state = .connected ∨
        ∃ answer, IsPending answer ∧
          ⟨.connect fd' record, answer⟩ ∈ exchanges) := by
  refine ⟨fun during reply c' episode unrivalled => ?_,
    fun isOpen unconnected idle isLive interruptions answer hinterrupted
      final => ?_,
    fun settings channel exchanges channel' fd' blocks h => ?_⟩
  · exact episode.comes run encoded unrivalled
  · exact run.connects hinterrupted final isOpen unconnected idle isLive encoded
  · exact connected_of_openConnected encoded blocks h

end Episode

/-! ## Attempts on a blocking channel -/

/-- The thread is interrupted, and asks again: the connection is established. -/
def untilConnected : List Move :=
  [Move.steps 1 11, [.answer 1 fun _ => .error (.code Errno.interrupted)],
    Move.steps 1 3,
    [.answer 1 fun
      | .connect .. => .ok ()
      | _ => .error (.code Errno.again)],
    Move.steps 1 10, [.answer 1 fun _ => .error (.code Errno.again)],
    Move.steps 1 3].flatten

theorem untilConnected_isSome :
    ((Config.start (.owning 3 .unconnected true)).operate 3 1
      (.connect ⟨[47]⟩) untilConnected).isSome = true := by
  decide +kernel

def arrived : Trace × Channel.Reply × Config :=
  ((Config.start (.owning 3 .unconnected true)).operate 3 1
    (.connect ⟨[47]⟩) untilConnected).get untilConnected_isSome

theorem episode_arrived : Episode 3 1 (.connect ⟨[47]⟩)
    (.start (.owning 3 .unconnected true)) arrived.1 (.isConnected true)
    arrived.2.2 :=
  Config.episode_get untilConnected_isSome

/-- The thread does not come upon an attempt of another one. -/
theorem unrivalled_arrived : ¬Steps.Sees 3 1
    (.start (.owning 3 .unconnected true))
    (arrived.1.framed 1 (.connect ⟨[47]⟩) (.isConnected true)) arrived.2.2
    .fields fun channel => channel.fields.state = .connected ∨
      channel.fields.state = .connecting :=
  Steps.not_sees rfl (by decide +kernel)

def rootRecord : Record := .holding [47] Record.fullLength

theorem encoded_root : Record.ofAddress ⟨[47]⟩ = .ok rootRecord := rfl

/-- A channel that has been opened and connected. -/
def opened : Channel :=
  { Channel.owning 3 .connected true with
    fields.remoteAddress := some ⟨[47]⟩ }

theorem opened_alone : (openConnected ⟨[47]⟩ {}).run.RunsAlone 1 .uninitialized
    [⟨.socket .stream, .ok 3⟩, ⟨.connect 3 rootRecord, .ok ()⟩,
      ⟨.localRecord 3, .error (.code Errno.again)⟩] opened (.ok 3) := by
  repeat first
    | exact .done _
    | refine .act rfl ?_
    | refine .call _ ?_
    | refine .loop ?_

theorem run_created : Run 3 [] (.start (.owning 3 .unconnected true)) :=
  .start .created

theorem attempts_decided :
    arrived.2.2.channel.fields.state = .connected ∧
    (∃ during c', Episode 3 1 (.connect ⟨[47]⟩)
      (.start (.owning 3 .unconnected true)) during
      (.failed (.socket (.code Errno.connectionRefused))) c' ∧
      c'.channel.isOpen = false) ∧
    opened.fields.state = .connected := by
  obtain ⟨concluded, comes, opens⟩ :=
    attempt_decided_unless_pending run_created encoded_root
  refine ⟨?_, ?_, ?_⟩
  · cases concluded _ _ _ episode_arrived unrivalled_arrived with
    | connected _ _ still => exact still (by decide +kernel)
  · obtain ⟨during, _, c', episode, -, -, rfl, rests⟩ := comes rfl rfl
      (fun _ => rfl) rfl [.error (.code Errno.interrupted)]
      (.error (.code Errno.connectionRefused)) (by simp) (by decide)
    exact ⟨during, c', episode, congrArg Channel.isOpen rests⟩
  · obtain ⟨-, connected | ⟨_, ⟨_, _, rfl⟩, hmem⟩⟩ :=
      opens _ _ _ _ _ rfl opened_alone
    · exact connected
    · simp at hmem

/-- A blocking channel is left with an attempt under way. -/
theorem blocking_attempt_left_pending :
    (Channel.owning 3 .unconnected true).isBlocking = true ∧
    ∃ during c', Episode 3 1 (.connect ⟨[47]⟩)
      (.start (.owning 3 .unconnected true)) during (.isConnected false) c' ∧
      (∀ event ∈ during, event.thread = 1) ∧
      ((during.exchanges 1).filter fun exchange => exchange.call.isBlocking) =
        [⟨.connect 3 rootRecord, .error (.code Errno.inProgress)⟩] ∧
      c'.channel.isOpen = true ∧ c'.channel.fields.state = .connecting := by
  have final : (.error (.code Errno.inProgress) : Except OsError Unit) ≠
      .error (.code Errno.interrupted) := by
    decide
  obtain ⟨during, _, c', episode, alone, asked, rfl, isOpen, stage⟩ :=
    run_created.connects (List.forall_mem_nil _) final rfl rfl (fun _ => rfl)
      rfl encoded_root
  exact ⟨rfl, during, c', episode, alone, asked, isOpen, stage⟩

end LocalSocket
