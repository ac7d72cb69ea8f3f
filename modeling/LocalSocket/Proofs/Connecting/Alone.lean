import LocalSocket.Channel.Open
import LocalSocket.Proofs.Alone
import LocalSocket.Proofs.Connecting
import LocalSocket.Proofs.Failure.Operations

/-!
# Connecting a channel that nobody else uses

A thread that has the channel to itself leaves it as it tells: connected, or
with an attempt under way, or closed.
-/

namespace LocalSocket

/-- What follows the answers to an attempt that has been taken up again. -/
def Channel.concludeFinish (fd : Fd) : Except OsError Bool → Operating Bool
  | .ok true => do
      markConnected fd none
      pure true
  | .ok false => pure false
  | .error error => closeAfter (.socket error)

/-- The channel in the hands of a thread that is connecting it. -/
def Channel.engaged (channel : Channel) (thread : Thread) : Channel :=
  (channel.hold .read (some thread)).hold .write (some thread)

theorem Channel.IsUnused.engaged {fd : Fd} {channel : Channel} {thread : Thread}
    (unused : channel.IsUnused fd) : (channel.engaged thread).IsUnused fd :=
  unused.hold.hold

namespace Solo

open Protocol Channel Pending

variable {fd : Fd} {thread : Thread} {channel : Channel}
  {failures : List (Call × OsError)} {record : Record} {address : Address}

/-- The channel is left as the result says: connected, with an attempt under
way, or closed. -/
def Rests (start : Channel) : Except ChannelError Bool → Channel → Prop
  | .ok value, channel => channel.isOpen = true ∧
      channel.fields.state = if value then .connected else .connecting
  | .error _, channel => channel = start.closed

section Engaged

variable (free : ∀ lock, channel.locks.holder lock = none)

include free

theorem engaged_free : (channel.engaged thread).locks.holder .state = none := by
  simp [engaged, holder_hold, free]

theorem free_write :
    (channel.hold .read (some thread)).locks.holder .write = none := by
  simp [holder_hold, free]

/-- Connecting holds the read and the write lock. -/
theorem meets_engaged {body : Operating Bool}
    {post : Except ChannelError Bool → Solo → Prop}
    (h : solo.Meets thread body.run
      (fun result s =>
        post result ⟨(s.channel.hold .write none).hold .read none, s.failures⟩)
      ⟨channel.engaged thread, failures⟩) :
    solo.Meets thread
      (Operating.holding .read (Operating.holding .write body)).run post
      ⟨channel, failures⟩ :=
  holding_meets (free _) (holding_meets (free_write free) h)

theorem Rests.disengaged {channel' : Channel}
    {result : Except ChannelError Bool}
    (h : Rests (channel.engaged thread) result channel') :
    Rests channel result ((channel'.hold .write none).hold .read none) := by
  cases result with
  | ok value => exact h
  | error error =>
      obtain rfl : channel' = _ := h
      have unlocked : ((channel.closed.engaged thread).hold .write none) =
          channel.closed.hold .read (some thread) := hold_hold (free_write free)
      show ((channel.closed.engaged thread).hold .write none).hold .read none =
        channel.closed
      rw [unlocked]
      exact hold_hold (free _)

end Engaged

theorem closeAfter_rests {error : ChannelError}
    {post : Except ChannelError Bool → Solo → Prop}
    (unused : channel.IsUnused fd) (free : channel.locks.holder .state = none)
    (hpost : ∀ channel' failures', Rests channel (.error error) channel' →
      post (.error error) ⟨channel', failures'⟩) :
    solo.Meets thread (closeAfter error).run post ⟨channel, failures⟩ := by
  rw [closeAfter, meets_run_bind, meets_run_quietly]
  exact close_meets unused free fun _ _ _ _ => hpost _ _ rfl

theorem attempt_judged {post : Except OsError ConnectStatus → Solo → Prop}
    (isOpen : channel.isOpen = true)
    (hpost : ∀ answer failures', answer ≠ .error (.code Errno.interrupted) →
      (∀ error, answer = .error error →
        (.connect fd record, error) ∈ failures') →
      post (Socket.judged answer) ⟨channel, failures'⟩) :
    solo.Meets thread (attempt fd record) post ⟨channel, failures⟩ := by
  rw [attempt_eq]
  refine meets_loop (fun s => s.channel = channel) nofun rfl ?_
  rintro ⟨channel', failures'⟩ hchannel answer
  obtain rfl : channel' = channel := hchannel
  show solo.Meets thread (settling (Socket.judged answer)) _ _
  by_cases final : answer = .error (.code Errno.interrupted)
  · rw [judged_eq_interrupted.mpr final]
    subst final
    show solo.Meets thread
      (.done (if channel'.isOpen then none else some _)) _ _
    rw [isOpen]
    rfl
  · rw [settling_eq (judged_eq_interrupted.not.mpr final)]
    cases answer with
    | ok => exact hpost _ _ final nofun
    | error error => exact hpost _ _ final (by simp)

theorem markConnected_rests {remote : Option Address}
    {post : Except ChannelError Unit → Solo → Prop}
    (isOpen : channel.isOpen = true)
    (free : channel.locks.holder .state = none)
    (hpost : ∀ channel' failures', channel'.isOpen = true →
      channel'.fields.state = .connected →
        post (.ok ()) ⟨channel', failures'⟩) :
    solo.Meets thread (markConnected fd remote).run post
      ⟨channel, failures⟩ := by
  refine holding_meets free (fields_meets ?_)
  rw [meets_run_bind]
  refine ensureStillOpen_meets isOpen (put_meets ?_)
  rw [meets_run_ite]
  split
  · simp only [meets_run_bind, meets_run_lift]
    refine call_meets (fun record => ?_) fun error => ?_
    · exact hpost _ _ isOpen rfl
    · exact hpost _ _ isOpen rfl
  · exact hpost _ _ isOpen rfl

theorem beginConnect_rests {post : Except ChannelError Unit → Solo → Prop}
    (isOpen : channel.isOpen = true)
    (free : channel.locks.holder .state = none)
    (unconnected : channel.fields.state = .unconnected)
    (begun : post (.ok ()) ⟨channel.occupy .input thread, failures⟩) :
    solo.Meets thread beginConnect.run post ⟨channel, failures⟩ := by
  refine holding_meets free ?_
  rw [meets_run_bind]
  refine ensureOpen_meets isOpen (fields_meets ?_)
  simp only [hold_fields, unconnected, reduceCtorEq, if_false]
  refine enter_meets ?_
  show post _ ⟨((channel.hold .state (some thread)).hold .state none).occupy
    .input thread, _⟩
  rw [hold_hold free]
  exact begun

/-- The attempt has been decided, and the thread has left the channel. -/
theorem concludeConnect_rests {answer : Except OsError Unit}
    {post : Except ChannelError Bool → Solo → Prop}
    (unused : channel.IsUnused fd) (free : channel.locks.holder .state = none)
    (final : answer ≠ .error (.code Errno.interrupted))
    (hpost : ∀ channel' failures', (IsPending answer → failures' = failures) →
      Rests channel (Connecting.concluded answer) channel' →
        post (Connecting.concluded answer) ⟨channel', failures'⟩) :
    solo.Meets thread
      (concludeConnect fd address (Socket.judged answer)).run post
      ⟨channel, failures⟩ := by
  rw [← judged_eq_inProgress, Connecting.concluded] at hpost
  rw [Ne, ← judged_eq_interrupted] at final
  rcases hjudged : Socket.judged answer with error | _ | _ | _ <;>
    simp only [hjudged] at hpost
  · exact closeAfter_rests unused free fun _ _ => hpost _ _ (by simp)
  · rw [concludeConnect, meets_run_bind]
    exact markConnected_rests unused.isOpen free
      fun channel' failures' isOpen connected =>
        hpost channel' failures' (by simp) ⟨isOpen, connected⟩
  · rw [concludeConnect, meets_run_bind]
    refine holding_meets free (fields_meets ?_)
    rw [meets_run_bind]
    refine ensureStillOpen_meets unused.isOpen ?_
    exact hpost _ _ (fun _ => rfl) ⟨unused.isOpen, rfl⟩
  · exact absurd hjudged final

/-- How an attempt ends that a thread makes alone. -/
theorem connect_rests {post : Except ChannelError Bool → Solo → Prop}
    (unused : channel.IsUnused fd)
    (free : ∀ lock, channel.locks.holder lock = none)
    (unconnected : channel.fields.state = .unconnected)
    (encoded : Record.ofAddress address = .ok record)
    (hpost : ∀ answer channel' failures', (IsPending answer → ∃ error,
        answer = .error error ∧ (.connect fd record, error) ∈ failures') →
      Rests channel (Connecting.concluded answer) channel' →
        post (Connecting.concluded answer) ⟨channel', failures'⟩) :
    solo.Meets thread (Channel.connect fd address).run post
      ⟨channel, failures⟩ := by
  rw [connect_of_ok encoded]
  refine meets_engaged free ?_
  rw [meets_run_bind]
  have free' : (channel.engaged thread).locks.holder .state = none :=
    engaged_free free
  refine beginConnect_rests unused.isOpen free' unconnected ?_
  simp only [meets_run_bind, meets_run_lift]
  refine attempt_judged unused.isOpen fun answer failures' final known => ?_
  refine leave_meets unused.engaged free' ?_
  refine concludeConnect_rests unused.engaged free' final
    fun channel' failures'' same rests =>
      hpost answer _ _ (fun pending => ?_) (rests.disengaged free)
  obtain ⟨errno, hmem, rfl⟩ := id pending
  exact ⟨_, rfl, same pending ▸ known _ rfl⟩

/-! ### Taking an attempt up again -/

theorem concludeFinish_rests {result : Except OsError Bool}
    {post : Except ChannelError Bool → Solo → Prop}
    (unused : channel.IsUnused fd) (free : channel.locks.holder .state = none)
    (connecting : channel.fields.state = .connecting)
    (hpost : ∀ channel' failures',
      Rests channel (result.mapError .socket) channel' →
        post (result.mapError .socket) ⟨channel', failures'⟩) :
    solo.Meets thread (concludeFinish fd result).run post
      ⟨channel, failures⟩ := by
  rcases result with error | _ | _
  · exact closeAfter_rests unused free hpost
  · exact hpost _ _ ⟨unused.isOpen, connecting⟩
  · rw [concludeFinish, meets_run_bind]
    exact markConnected_rests unused.isOpen free
      fun channel' failures' isOpen connected =>
        hpost channel' failures' ⟨isOpen, connected⟩

theorem beginFinish_rests
    {post : Except ChannelError (Option Record) → Solo → Prop}
    (isOpen : channel.isOpen = true)
    (free : channel.locks.holder .state = none)
    (connecting : channel.fields.state = .connecting)
    (remote : channel.fields.remoteAddress = some address)
    (encoded : Record.ofAddress address = .ok record)
    (begun :
      post (.ok (some record)) ⟨channel.occupy .input thread, failures⟩) :
    solo.Meets thread beginFinish.run post ⟨channel, failures⟩ := by
  refine holding_meets free ?_
  rw [meets_run_bind]
  refine ensureOpen_meets isOpen (fields_meets ?_)
  simp only [hold_fields, connecting, reduceCtorEq, if_true, if_false, remote,
    encode_of_ok encoded]
  show solo.Meets thread
    (enter .input >>= fun _ => pure (some record)).run _ _
  rw [meets_run_bind]
  refine enter_meets ?_
  show post _ ⟨((channel.hold .state (some thread)).hold .state none).occupy
    .input thread, _⟩
  rw [hold_hold free]
  exact begun

theorem finishConnect_rests {post : Except ChannelError Bool → Solo → Prop}
    (unused : channel.IsUnused fd)
    (free : ∀ lock, channel.locks.holder lock = none)
    (connecting : channel.fields.state = .connecting)
    (remote : channel.fields.remoteAddress = some address)
    (encoded : Record.ofAddress address = .ok record)
    (hpost : ∀ result channel' failures', Rests channel result channel' →
      post result ⟨channel', failures'⟩) :
    solo.Meets thread (Channel.finishConnect fd).run post
      ⟨channel, failures⟩ := by
  refine meets_engaged free ?_
  rw [meets_run_bind]
  have free' : (channel.engaged thread).locks.holder .state = none :=
    engaged_free free
  refine beginFinish_rests unused.isOpen free' connecting remote encoded ?_
  simp only [meets_run_bind, meets_run_lift]
  refine awaitConnection_meets fun result failures' _ => ?_
  refine leave_meets unused.engaged free' ?_
  exact concludeFinish_rests unused.engaged free' connecting
    fun _ _ rests => hpost _ _ _ (rests.disengaged free)

/-! ### Opening a connected channel -/

theorem apply_spares {settings : Settings}
    (free : ∀ lock, channel.locks.holder lock = none)
    (blocks : settings.nonBlocking = false) :
    Spares thread channel (Channel.apply fd settings).run := by
  have sets : ∀ change ∈ settings.changes,
      ∃ setting, change = .set setting := by
    rintro (setting | _) hmem
    · exact ⟨setting, rfl⟩
    · simp [Settings.changes, blocks] at hmem
  rw [Channel.apply]
  generalize settings.changes = changes at sets
  induction changes with
  | nil => exact spares_pure _
  | cons change rest ih =>
      obtain ⟨setting, rfl⟩ := sets change List.mem_cons_self
      exact spares_run_bind (setOption_spares free setting) fun _ =>
        ih fun change hmem => sets change (List.mem_cons_of_mem _ hmem)

end Solo

section Opening

open Channel

variable {thread : Thread} {channel channel' : Channel} {fd : Fd}
  {exchanges : List Exchange} {address : Address} {settings : Settings}

/-- A program that spares the channel leaves it as it was. -/
theorem Solo.Spares.channel_eq {α : Type} {program : Program α} {value : α}
    (spares : Solo.Spares thread channel program)
    (h : program.RunsAlone thread channel exchanges channel' value) :
    channel' = channel := by
  have spared : solo.Meets thread program (fun _ s => s.channel = channel)
      ⟨channel, []⟩ := spares fun _ _ => rfl
  obtain ⟨_, rfl, -⟩ := h.of_meets spared
  rfl

theorem Channel.runsAlone_of_orClose {body : Operating Unit}
    (h : (orClose body).run.RunsAlone thread channel exchanges channel'
      (.ok ())) :
    body.run.RunsAlone thread channel exchanges channel' (.ok ()) := by
  obtain ⟨first, rest, channel₁, result, rfl, hbody, h'⟩ :=
    Program.RunsAlone.of_bind h
  cases result with
  | ok =>
      cases h'
      rwa [List.append_nil]
  | error error =>
      obtain ⟨_, _, _, _, _, _, thrown⟩ := Program.RunsAlone.of_run_bind h'
      cases thrown

theorem Channel.channel_eq_of_create {type : SocketType}
    (h : (create type).run.RunsAlone thread channel exchanges channel'
      (.ok fd)) : channel' = .owning fd .unconnected true := by
  have opened : solo.Meets thread (create type).run
      (fun result s => ∀ fd, result = .ok fd →
        s.channel = .owning fd .unconnected true) ⟨channel, []⟩ := by
    simp only [create, Program.call_eq, Protocol.meets_run_bind,
      Protocol.meets_run_onSocket, Protocol.meets_act]
    rintro (error | fd)
    · exact nofun
    · rintro _ ⟨⟩
      rfl
  obtain ⟨_, hpost, _⟩ := h.of_meets opened
  exact hpost fd rfl

/-- A channel that is opened and connected is connected, unless the system has
left the attempt pending. -/
theorem Channel.connected_of_openConnected {record : Record}
    (encoded : Record.ofAddress address = .ok record)
    (blocks : settings.nonBlocking = false)
    (h : (openConnected address settings).run.RunsAlone thread channel
      exchanges channel' (.ok fd)) :
    channel'.isOpen = true ∧ (channel'.fields.state = .connected ∨
      ∃ answer, Pending.IsPending answer ∧
        ⟨.connect fd record, answer⟩ ∈ exchanges) := by
  rw [openConnected] at h
  obtain ⟨_, _, channel₁, fd', rfl, created, h⟩ := h.of_run_bind
  obtain rfl := channel_eq_of_create created
  obtain ⟨_, _, _, ⟨⟩, rfl, h, h'⟩ := h.of_run_bind
  cases h'
  obtain ⟨_, _, channel₂, ⟨⟩, rfl, applied, h⟩ :=
    (runsAlone_of_orClose h).of_run_bind
  obtain ⟨_, _, _, connected, rfl, h, h'⟩ := h.of_run_bind
  cases h'
  have unused : (Channel.owning fd .unconnected true).IsUnused fd :=
    ⟨rfl, rfl, rfl, rfl, rfl⟩
  have free (lock : Lock) :
      (Channel.owning fd .unconnected true).locks.holder lock = none := by
    cases lock <;> rfl
  obtain rfl := (Solo.apply_spares free blocks).channel_eq applied
  have rested : solo.Meets thread (Channel.connect fd address).run
      (fun result s =>
        Solo.Rests (.owning fd .unconnected true) result s.channel ∧
        ∃ answer, result = Connecting.concluded answer ∧
          (Pending.IsPending answer → ∃ error, answer = .error error ∧
            (.connect fd record, error) ∈ s.failures))
      ⟨.owning fd .unconnected true, []⟩ :=
    Solo.connect_rests unused free rfl encoded
      fun answer _ _ known rests => ⟨rests, answer, rfl, known⟩
  obtain ⟨failures, ⟨⟨isOpen, stage⟩, answer, hanswer, known⟩, asked⟩ :=
    h.of_meets rested
  refine ⟨isOpen, ?_⟩
  cases connected with
  | true => exact .inl stage
  | false =>
      have pending := Connecting.concluded_eq_ok_false.mp hanswer.symm
      obtain ⟨error, rfl, failed⟩ := known pending
      have hasked := (asked _ _ failed).resolve_left List.not_mem_nil
      exact .inr ⟨_, pending, by simp [hasked]⟩

end Opening

end LocalSocket
