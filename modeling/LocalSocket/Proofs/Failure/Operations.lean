import LocalSocket.Proofs.Failure
import LocalSocket.Proofs.Refusal.Operations
import LocalSocket.Proofs.Release
import Mathlib.Tactic.SplitIfs

/-!
# What a failed system call does to a channel

Binding and connecting close the channel when one of the calls that they attempt
fails.  All other operations either make their calls before they change anything
or undo what they have changed for the time of the call.
-/

namespace LocalSocket

namespace Solo

open Protocol Channel

variable {fd : Fd} {thread : Thread} {channel : Channel} {α β : Type}

/-! ## Operations that leave the channel as it was -/

section Operations

variable (free : ∀ lock, channel.locks.holder lock = none)

include free

theorem configureBlocking_restores (blocking : Bool) :
    Restores thread channel (configureBlocking fd blocking) := by
  refine restores_holding (free _) ?_
  refine restores_holding (by simp [holder_hold, free]) ?_
  refine restores_holding (by simp [holder_hold, free]) ?_
  refine restores_bind ensureOpen_spares fun _ => ?_
  refine restores_bind (spares_perform rfl) fun isBlocking => ?_
  refine restores_ite (restores_of_spares (spares_pure _)) ?_
  refine restores_bind (spares_perform rfl) fun fields => ?_
  refine restores_ite (restores_of_spares (spares_pure _)) ?_
  refine restores_bind (spares_onSocket (spares_call _)) fun _ => ?_
  exact restores_perform rfl

theorem shutdown_restores (direction : Direction) :
    Restores thread channel (Channel.shutdown fd direction) := by
  refine restores_holding (free _) ?_
  refine restores_bind ensureOpen_spares fun _ => ?_
  refine restores_bind (spares_perform rfl) fun fields => ?_
  refine restores_ite (restores_of_spares (spares_pure _)) (restores_ite ?_ ?_)
  · refine restores_bind (spares_onSocket (spares_call _)) fun _ => ?_
    exact restores_perform rfl
  · exact restores_of_spares (spares_pure _)

theorem getOption_spares (option : TypedOption) :
    Spares thread channel (Channel.getOption fd option).run := by
  refine spares_run_bind ?_ fun _ => spares_holding (free _) ?_
  · rw [checkSupported]
    split <;> exact spares_pure _
  · refine spares_run_bind ensureOpen_spares fun _ => ?_
    refine spares_run_bind ?_ fun _ => spares_pure _
    rw [ExceptT.run_mk, Socket.getOption]
    split
    · exact spares_pure _
    · refine spares_bind (spares_call _) fun answer => ?_
      cases answer <;> exact spares_pure _

theorem setOption_spares (setting : Setting) :
    Spares thread channel (Channel.setOption fd setting).run := by
  refine spares_run_bind ?_ fun _ => spares_holding (free _) ?_
  · rw [checkSupported]
    split <;> exact spares_pure _
  · refine spares_run_bind ensureOpen_spares fun _ => ?_
    refine spares_run_bind (spares_pure _) fun value => ?_
    rw [ExceptT.run_mk, Socket.setOption]
    split
    · exact spares_pure _
    · split
      · exact spares_pure _
      · refine spares_bind (spares_call _) fun answer => ?_
        cases answer <;> exact spares_pure _

theorem credentials_spares :
    Spares thread channel (Channel.credentials fd).run := by
  refine spares_run_bind ensureOpen_spares fun _ => spares_run_bind ?_ ?_
  · refine spares_holding (free _) ?_
    exact spares_run_bind (spares_perform rfl) fun _ => spares_pure _
  · intro state
    split
    · refine spares_run_bind (getOption_spares free _) fun reading => ?_
      cases reading <;> exact spares_pure _
    · exact spares_pure _

theorem localAddress_spares :
    Spares thread channel Channel.localAddress.run := by
  refine spares_holding (free _) ?_
  refine spares_run_bind ensureOpen_spares fun _ => ?_
  exact spares_run_bind (spares_perform rfl) fun _ => spares_pure _

theorem remoteAddress_restores :
    Restores thread channel (Channel.remoteAddress fd) := by
  refine restores_holding (free _) ?_
  refine restores_bind ensureOpen_spares fun _ => ?_
  refine restores_bind (spares_perform rfl) fun fields => restores_ite ?_ ?_
  · refine restores_bind (spares_onSocket (spares_call _)) fun record => ?_
    exact fun failures post hpost => hpost (.ok _) _ _ (by simp [Fails])
  · exact restores_of_spares (spares_pure _)

end Operations

/-! ## Operations that close a channel on a failure -/

section Attempts

variable {failures : List (Call × OsError)}

theorem ensureOpen_meets {post : Except ChannelError Unit → Solo → Prop}
    (isOpen : channel.isOpen = true)
    (hpost : post (.ok ()) ⟨channel, failures⟩) :
    solo.Meets thread ensureOpen.run post ⟨channel, failures⟩ := by
  rw [ensureOpen, meets_run_bind]
  show solo.Meets thread (ExceptT.run (unless channel.isOpen do _)) _ _
  rw [isOpen]
  exact hpost

theorem ensureStillOpen_meets {post : Except ChannelError Unit → Solo → Prop}
    (isOpen : channel.isOpen = true)
    (hpost : post (.ok ()) ⟨channel, failures⟩) :
    solo.Meets thread ensureStillOpen.run post ⟨channel, failures⟩ := by
  rw [ensureStillOpen, meets_run_bind]
  show solo.Meets thread (ExceptT.run (unless channel.isOpen do _)) _ _
  rw [isOpen]
  exact hpost

theorem encode_meets {address : Address}
    {post : Except ChannelError Record → Solo → Prop}
    (encoded : ∀ record, post (.ok record) ⟨channel, failures⟩)
    (invalid : ∀ path fault,
      post (.error (.invalidPath path fault)) ⟨channel, failures⟩) :
    solo.Meets thread (encode address).run post ⟨channel, failures⟩ := by
  rw [encode]
  split
  · exact encoded _
  · exact invalid _ _

/-- Attempts to bind or to connect hold the read and the write lock. -/
theorem closes_holding_both {calls : Call → Prop} {body : Operating α}
    (unused : channel.IsUnused fd)
    (free : ∀ lock, channel.locks.holder lock = none)
    (h : ∀ held : Channel, held.IsUnused fd →
      held.locks.holder .state = none → Closes calls thread held body) :
    Closes calls thread channel
      (Operating.holding .read (Operating.holding .write body)) := by
  refine closes_holding (free _) ?_
  refine closes_holding (by simp [holder_hold, free]) ?_
  exact h _ unused.hold.hold (by simp [holder_hold, free])

/-- The calls that fail an attempt to bind. -/
def Binds (fd : Fd) (call : Call) : Prop :=
  (∃ record, call = .bind fd record) ∨ call = .localRecord fd

/-- The calls that fail an attempt to connect. -/
def Connects (fd : Fd) (call : Call) : Prop :=
  ∃ record, call = .connect fd record

/-- The calls that fail an attempt to finish connecting. -/
def Finishes (fd : Fd) (call : Call) : Prop :=
  Connects fd call ∨ ∃ events timeout, call = .poll fd events timeout

/-- The failure of a call is the value of the locked part. -/
theorem bindLocked_meets {address : Option Address}
    {post : Except ChannelError (Option OsError) → Solo → Prop}
    (isOpen : channel.isOpen = true)
    (failed : ∀ error failures',
      (∃ call, Binds fd call ∧ (call, error) ∈ failures') →
        post (.ok (some error)) ⟨channel, failures'⟩)
    (other : ∀ result channel' failures', (∀ error, result ≠ .ok (some error)) →
      (∀ error, ¬Fails result error) → post result ⟨channel', failures'⟩) :
    solo.Meets thread (bindLocked fd address).run post ⟨channel, failures⟩ := by
  rw [bindLocked, meets_run_bind]
  refine ensureOpen_meets isOpen (fields_meets ?_)
  simp only [meets_run_ite]
  split
  · exact other (.error .connectionPending) _ _ (by simp) (by simp [Fails])
  · split
    · exact other (.error .alreadyBound) _ _ (by simp) (by simp [Fails])
    · rw [meets_run_bind]
      refine encode_meets (fun record => ?_) fun path fault => ?_
      · simp only [meets_run_bind, meets_run_lift]
        refine call_meets (fun _ => ?_) fun error => ?_
        · simp only [meets_run_bind, meets_run_lift]
          refine call_meets (fun bound => ?_) fun error => ?_
          · exact other (.ok none) _ _ (by simp) (by simp [Fails])
          · exact failed error _ ⟨_, .inr rfl, by simp⟩
        · exact failed error _ ⟨_, .inl ⟨record, rfl⟩, by simp⟩
      · exact other (.error (.invalidPath path fault)) _ _ (by simp)
          (by simp [Fails])

theorem bind_closes (unused : channel.IsUnused fd)
    (free : ∀ lock, channel.locks.holder lock = none)
    (address : Option Address) :
    Closes (Binds fd) thread channel (Channel.bind fd address) := by
  refine closes_holding_both unused free fun held unused' free' => ?_
  have hsame : (held.hold .state (some thread)).hold .state none = held :=
    hold_hold free'
  intro failures post hpost
  rw [meets_run_bind]
  refine holding_meets free' (bindLocked_meets unused'.isOpen ?_ ?_)
  · intro error failures' known
    show solo.Meets thread _ _
      ⟨(held.hold .state (some thread)).hold .state none, failures'⟩
    rw [hsame]
    exact closeAfter_meets unused' free' known hpost
  · intro result channel' failures' hresult hfails
    rcases result with error | _ | error
    · exact hpost _ _ _ fun error' fails =>
        absurd (by simpa [Fails] using fails) (hfails error')
    · exact hpost _ _ _ (by simp [Fails])
    · exact absurd rfl (hresult error)

theorem socketConnect_meets {record : Record}
    {post : Except OsError ConnectStatus → Solo → Prop}
    (hpost : ∀ result failures', (∀ error, result = .error error →
      (.connect fd record, error) ∈ failures') →
        post result ⟨channel, failures'⟩) :
    solo.Meets thread (Socket.connect fd record) post ⟨channel, failures⟩ := by
  rw [Socket.connect, meets_bind_eq]
  refine call_meets (fun _ => hpost _ _ (by simp)) fun error => ?_
  cases error with
  | code errno =>
      simp only [meets_ite, meets_pure]
      split_ifs
      · exact hpost _ _ (by simp)
      · exact hpost _ _ (by simp)
      · exact hpost _ _ (by simp)
  | custom kind message => exact hpost _ _ (by simp)

theorem attempt_meets {record : Record}
    {post : Except OsError ConnectStatus → Solo → Prop}
    (hpost : ∀ result failures', (∀ error, result = .error error →
      (.connect fd record, error) ∈ failures') →
        post result ⟨channel, failures'⟩) :
    solo.Meets thread (attempt fd record) post ⟨channel, failures⟩ := by
  refine meets_loop (fun s => s.channel = channel) nofun rfl ?_
  rintro ⟨channel', failures'⟩ rfl
  rw [meets_bind_eq]
  refine socketConnect_meets fun result failures'' hresult => ?_
  split
  · show solo.Meets thread (pure (if channel'.isOpen then none else _)) _ _
    rw [meets_pure]
    split
    · rfl
    · exact hpost _ _ (by simp)
  · exact hpost _ _ hresult

theorem markConnected_calm (isOpen : channel.isOpen = true)
    (free : channel.locks.holder .state = none) (remote : Option Address) :
    Calm thread channel (markConnected fd remote) := by
  intro failures post hpost
  refine holding_meets free (fields_meets ?_)
  rw [meets_run_bind]
  refine ensureStillOpen_meets isOpen (put_meets ?_)
  rw [meets_run_ite]
  split
  · simp only [meets_run_bind, meets_run_lift]
    refine call_meets (fun record => ?_) fun error => ?_
    · exact hpost (.ok ()) _ _ (by simp [Fails])
    · exact hpost (.ok ()) _ _ (by simp [Fails])
  · exact hpost (.ok ()) _ _ (by simp [Fails])

theorem beginConnect_meets {post : Except ChannelError Unit → Solo → Prop}
    (isOpen : channel.isOpen = true)
    (free : channel.locks.holder .state = none)
    (begun : post (.ok ()) ⟨channel.occupy .input thread, failures⟩)
    (other : ∀ error channel' failures', (∀ error', error ≠ .socket error') →
      post (.error error) ⟨channel', failures'⟩) :
    solo.Meets thread beginConnect.run post ⟨channel, failures⟩ := by
  refine holding_meets free ?_
  rw [meets_run_bind]
  refine ensureOpen_meets isOpen (fields_meets ?_)
  simp only [meets_run_ite]
  split
  · exact other .alreadyConnected _ _ (by simp)
  · split
    · exact other .connectionPending _ _ (by simp)
    · refine enter_meets ?_
      show post _ ⟨((channel.hold .state (some thread)).hold .state none).occupy
        .input thread, _⟩
      rw [hold_hold free]
      exact begun

theorem connect_closes (unused : channel.IsUnused fd)
    (free : ∀ lock, channel.locks.holder lock = none) (address : Address) :
    Closes (Connects fd) thread channel (Channel.connect fd address) := by
  intro failures post hpost
  rw [Channel.connect, meets_run_bind]
  refine encode_meets (fun record => ?_) fun path fault =>
    hpost _ _ _ (by simp [Fails])
  refine closes_holding_both unused free (fun held unused' free' => ?_) hpost
  intro failures post hpost
  rw [meets_run_bind]
  refine beginConnect_meets unused'.isOpen free' ?_ fun error _ _ hnot =>
    hpost _ _ _ fun error' fails =>
      absurd (by simpa [Fails] using fails) (hnot error')
  simp only [meets_run_bind, meets_run_lift]
  refine attempt_meets fun result failures' hresult => ?_
  refine leave_meets unused' free' ?_
  rcases result with error | _ | _ | _
  · exact closeAfter_meets unused' free' ⟨_, ⟨record, rfl⟩, hresult _ rfl⟩ hpost
  · exact calm_then_pure (markConnected_calm unused'.isOpen free' _) hpost
  · refine calm_then_pure (fun failures post hpost => ?_) hpost
    refine holding_meets free' (fields_meets ?_)
    rw [meets_run_bind]
    refine ensureStillOpen_meets unused'.isOpen ?_
    exact hpost (.ok ()) _ _ (by simp [Fails])
  · exact hpost (.error .asynchronousClose) _ _ (by simp [Fails])

theorem socketPoll_meets {events : Events} {timeout : Int}
    {post : Except OsError PollStatus → Solo → Prop}
    (hpost : ∀ result failures', (∀ error, result = .error error →
      (.poll fd events timeout, error) ∈ failures') →
        post result ⟨channel, failures'⟩) :
    solo.Meets thread (Socket.poll fd events timeout) post
      ⟨channel, failures⟩ := by
  rw [Socket.poll, meets_bind_eq]
  refine call_meets (fun _ => hpost _ _ (by simp)) fun error => ?_
  rw [meets_pure]
  split
  · exact hpost _ _ (by simp)
  · exact hpost _ _ (by simp)

theorem awaitConnection_meets {record : Record} {blocking : Bool}
    {post : Except OsError Bool → Solo → Prop}
    (hpost : ∀ result failures', (∀ error, result = .error error →
      ∃ call, Finishes fd call ∧ (call, error) ∈ failures') →
        post result ⟨channel, failures'⟩) :
    solo.Meets thread (awaitConnection fd record blocking) post
      ⟨channel, failures⟩ := by
  refine meets_loop (fun s => s.channel = channel) nofun rfl ?_
  rintro ⟨channel', failures'⟩ rfl
  rw [meets_bind_eq]
  refine socketConnect_meets fun result failures'' hresult => ?_
  rcases result with error | _ | _ | _
  · rw [meets_ite]
    split
    · exact hpost (.ok true) _ (by simp)
    · exact hpost (.error error) _ fun error' h =>
        ⟨_, .inl ⟨record, rfl⟩, hresult error' (by simpa using h)⟩
  · exact hpost (.ok true) _ (by simp)
  · show solo.Meets thread (if blocking && channel'.isOpen then _ else _) _ _
    rw [meets_ite]
    split
    · rw [meets_bind_eq]
      refine socketPoll_meets fun result failures'' hresult => ?_
      rcases result with error | status
      · exact hpost (.error error) _ fun error' h =>
          ⟨_, .inr ⟨_, _, rfl⟩, hresult error' (by simpa using h)⟩
      · show solo.Meets thread (pure (if channel'.isOpen then none else _)) _ _
        rw [meets_pure]
        split
        · rfl
        · exact hpost (.ok false) _ (by simp)
    · exact hpost (.ok false) _ (by simp)
  · show solo.Meets thread (pure (if channel'.isOpen then none else _)) _ _
    rw [meets_pure]
    split
    · rfl
    · exact hpost (.ok false) _ (by simp)

theorem enterOpen_meets {post : Except ChannelError Unit → Solo → Prop}
    (isOpen : channel.isOpen = true)
    (free : channel.locks.holder .state = none)
    (hpost : post (.ok ()) ⟨channel.occupy .input thread, failures⟩) :
    solo.Meets thread enterOpen.run post ⟨channel, failures⟩ := by
  refine holding_meets free ?_
  rw [meets_run_bind]
  refine ensureOpen_meets isOpen (enter_meets ?_)
  show post _ ⟨((channel.hold .state (some thread)).hold .state none).occupy
    .input thread, _⟩
  rw [hold_hold free]
  exact hpost

theorem beginFinish_meets
    {post : Except ChannelError (Option Record) → Solo → Prop}
    (isOpen : channel.isOpen = true)
    (free : channel.locks.holder .state = none)
    (begun : ∀ record,
      post (.ok (some record)) ⟨channel.occupy .input thread, failures⟩)
    (stopped : ∀ result channel' failures',
      (∀ record, result ≠ .ok (some record)) → (∀ error, ¬Fails result error) →
        post result ⟨channel', failures'⟩) :
    solo.Meets thread beginFinish.run post ⟨channel, failures⟩ := by
  have hstopped : ∀ (error : ChannelError) channel' failures',
      (∀ error', error ≠ .socket error') →
        post (.error error) ⟨channel', failures'⟩ :=
    fun error _ _ hnot => stopped _ _ _ (by simp) fun error' fails =>
      hnot error' (by simpa [Fails] using fails)
  refine holding_meets free ?_
  rw [meets_run_bind]
  refine ensureOpen_meets isOpen (fields_meets ?_)
  simp only [meets_run_ite]
  split
  · exact stopped (.ok none) _ _ (by simp) (by simp [Fails])
  · split
    · split
      · exact hstopped .noConnectionPending _ _ (by simp)
      · simp only [meets_run_bind]
        refine encode_meets (fun record => enter_meets ?_) fun path fault =>
          hstopped (.invalidPath path fault) _ _ (by simp)
        show post _ ⟨((channel.hold .state (some thread)).hold .state
          none).occupy .input thread, _⟩
        rw [hold_hold free]
        exact begun record
    · exact hstopped .noConnectionPending _ _ (by simp)

theorem finishConnect_closes (unused : channel.IsUnused fd)
    (free : ∀ lock, channel.locks.holder lock = none) :
    Closes (Finishes fd) thread channel (Channel.finishConnect fd) := by
  refine closes_holding_both unused free fun held unused' free' => ?_
  intro failures post hpost
  rw [meets_run_bind]
  refine beginFinish_meets unused'.isOpen free' (fun record => ?_)
    fun result channel' failures' hresult hfails => ?_
  · simp only [meets_run_bind, meets_run_lift]
    show solo.Meets thread _ _ ⟨held.occupy .input thread, failures⟩
    refine awaitConnection_meets fun result failures' hresult => ?_
    refine leave_meets unused' free' ?_
    rcases result with error | _ | _
    · exact closeAfter_meets unused' free' (hresult _ rfl) hpost
    · exact hpost (.ok false) _ _ (by simp [Fails])
    · exact calm_then_pure (markConnected_calm unused'.isOpen free' _) hpost
  · rcases result with error | _ | record
    · exact hpost _ _ _ fun error' fails =>
        absurd (by simpa [Fails] using fails) (hfails error')
    · exact hpost (.ok true) _ _ (by simp [Fails])
    · exact absurd rfl (hresult record)

end Attempts

/-! ## Other operations -/

section Others

theorem poll_spares (unused : channel.IsUnused fd)
    (free : ∀ lock, channel.locks.holder lock = none) (interest : Interest)
    (timeout : Option Duration) :
    Spares thread channel (Channel.poll fd interest timeout).run := by
  refine spares_run_bind (spares_perform rfl) fun isBlocking => ?_
  cases isBlocking with
  | true => exact spares_pure _
  | false =>
      refine spares_holding (free _) fun failures post hpost => ?_
      have free' : (channel.hold .read (some thread)).locks.holder .state =
          none := by
        simp [holder_hold, free]
      simp only [meets_run_bind, meets_run_lift]
      refine enterOpen_meets unused.isOpen free' ?_
      refine socketPoll_meets fun result failures' _ => ?_
      exact leave_meets unused.hold free' (hpost _ _)

theorem transfer_spares {exhausted : Bool}
    {outcome : Except OsError IoStatus × β} {call : Call}
    {next : call.Answer → Program (Except OsError IoStatus × β)}
    (hnext : ∀ answer, Spares thread channel (next answer)) :
    Spares thread channel (if exhausted then pure outcome
      else Program.retry call >>= next) := by
  split
  · exact spares_pure _
  · exact spares_bind (spares_retry _) hnext

theorem socketRead_spares (window : Window) :
    Spares thread channel (Socket.read fd window) := by
  refine transfer_spares fun answer => ?_
  split <;> exact spares_pure _

theorem socketReadMany_spares (windows : List Window) :
    Spares thread channel (Socket.readMany fd windows) := by
  refine transfer_spares fun answer => ?_
  split <;> exact spares_pure _

theorem socketWrite_spares (window : Window) :
    Spares thread channel (Socket.write fd window) := by
  refine transfer_spares fun answer => ?_
  split <;> exact spares_pure _

theorem socketWriteMany_spares (windows : List Window) :
    Spares thread channel (Socket.writeMany fd windows) := by
  refine transfer_spares fun answer => ?_
  split <;> exact spares_pure _

theorem register_calm (isOpen : channel.isOpen = true)
    (free : channel.locks.holder .state = none) :
    Calm thread channel register := by
  intro failures post hpost
  refine holding_meets free (fields_meets ?_)
  rw [meets_run_bind]
  refine ensureOpen_meets isOpen ?_
  rw [meets_run_bind]
  show solo.Meets thread (ExceptT.run (if channel.isBlocking then _ else _)) _ _
  rw [meets_run_ite]
  split
  · exact hpost (.error .illegalBlockingMode) _ _ (by simp [Fails])
  · exact hpost (.ok ()) _ _ (by simp [Fails])

theorem deregister_calm (unused : channel.IsUnused fd)
    (free : channel.locks.holder .state = none) :
    Calm thread channel deregister := by
  intro failures post hpost
  refine holding_meets free (fields_meets (put_meets ?_))
  rw [meets_run_ite, if_neg (by simpa using unused.state_ne.1)]
  exact hpost (.ok ()) _ _ (by simp [Fails])

theorem close_calm (unused : channel.IsUnused fd)
    (free : channel.locks.holder .state = none) :
    Calm thread channel Channel.close :=
  fun _ _ hpost => close_meets unused free fun result failures' hfails _ =>
    hpost result _ failures' hfails

theorem makeChange_restores (free : ∀ lock, channel.locks.holder lock = none)
    (change : Change) : Restores thread channel (makeChange fd change) := by
  cases change with
  | set setting => exact restores_of_spares (setOption_spares free setting)
  | nonBlocking => exact configureBlocking_restores free false

/-- The blocking mode, the only change to the channel itself, is made last. -/
theorem makeChanges_restores (free : ∀ lock, channel.locks.holder lock = none)
    (changes : List Change)
    (sets : ∀ change ∈ changes.dropLast, ∃ setting, change = .set setting) :
    Restores thread channel (makeChanges fd changes) := by
  induction changes with
  | nil => exact restores_of_spares (spares_pure _)
  | cons change rest ih =>
      cases rest with
      | nil => exact restores_then_pure (makeChange_restores free change)
      | cons next rest =>
          obtain ⟨setting, rfl⟩ := sets change (by simp)
          refine restores_bind (setOption_spares free setting) fun _ => ih ?_
          intro change' hmem
          exact sets change' (by simpa using .inr hmem)

theorem apply_restores (free : ∀ lock, channel.locks.holder lock = none)
    (settings : Settings) :
    Restores thread channel (Channel.apply fd settings) := by
  refine makeChanges_restores free _ fun change hmem => ?_
  cases change with
  | set setting => exact ⟨setting, rfl⟩
  | nonBlocking =>
      exfalso
      unfold Settings.changes at hmem
      cases hblocking : settings.nonBlocking with
      | false => simpa [hblocking] using List.mem_of_mem_dropLast hmem
      | true => simp [hblocking] at hmem

section Describing

variable (free : channel.locks.holder .state = none)

include free

theorem seeFields_spares : Spares thread channel seeFields :=
  spares_holding free fun _ _ hpost => hpost _ _

theorem ready_spares (events : Events) (interest : Interest) :
    Spares thread channel (Channel.ready events interest) := by
  rw [Channel.ready]
  split
  · exact spares_pure _
  · exact spares_bind (seeFields_spares free) fun _ => spares_pure _

theorem text_spares : Spares thread channel Channel.text := by
  refine spares_bind (fun _ _ hpost => hpost channel.isOpen _) fun isOpen => ?_
  split
  · exact spares_bind (seeFields_spares free) fun _ => spares_pure _
  · exact spares_pure _

theorem inspect_spares : Spares thread channel (Channel.inspect fd) :=
  spares_holding free fun _ _ hpost => hpost _ _

theorem flags_spares : Spares thread channel (Channel.flags fd) := by
  refine spares_bind (seeFields_spares free) fun _ => ?_
  refine spares_bind (seeFields_spares free) fun _ => ?_
  exact spares_bind (seeFields_spares free) fun _ => spares_pure _

theorem snapshot_spares : Spares thread channel Channel.snapshot := by
  refine spares_bind (seeFields_spares free) fun _ => ?_
  refine spares_bind (fun _ _ hpost => hpost channel.isOpen _) fun _ => ?_
  refine spares_bind (fun _ _ hpost => hpost channel.isBlocking _) fun _ => ?_
  refine spares_bind (seeFields_spares free) fun _ => ?_
  refine spares_bind (seeFields_spares free) fun _ => ?_
  exact spares_bind (seeFields_spares free) fun _ => spares_pure _

end Describing

end Others

/-! ## All operations -/

end Solo

namespace Channel.Operation

/-- Binding and connecting leave a socket of unknown state when they fail. -/
def isAttempt : Operation → Bool
  | bind _ | connect _ | finishConnect => true
  | _ => false

/-- The calls that the operation attempts. -/
def Attempts (fd : Fd) : Operation → Call → Prop
  | bind _ => Solo.Binds fd
  | connect _ => Solo.Connects fd
  | finishConnect => Solo.Finishes fd
  | _ => fun _ => False

end Channel.Operation

namespace Solo

open Protocol Channel

/-- If a call is reported to have failed, the channel is as it was. -/
def Kept (channel : Channel) (reply : Reply) (s : Solo) : Prop :=
  ∀ error, reply.Reports (.socket error) → s.channel = channel

/-- If a call is reported to have failed, it is one of those, and the channel is
closed. -/
def Shut (calls : Call → Prop) (channel : Channel) (reply : Reply) (s : Solo) :
    Prop :=
  ∀ error, reply.Reports (.socket error) → s.channel = channel.closed ∧
    ∃ call, calls call ∧ (call, error) ∈ s.failures

variable {fd : Fd} {thread : Thread} {channel : Channel} {α : Type}

section Replies

theorem kept_of_spares {program : Program Reply}
    (h : Spares thread channel program) :
    solo.Meets thread program (Kept channel) ⟨channel, []⟩ :=
  h fun _ _ _ _ => rfl

theorem reply_kept {make : α → Reply} {program : Operating α}
    (hmake : ∀ value error, ¬(make value).Reports (.socket error))
    (h : Restores thread channel program) :
    solo.Meets thread (reply make program) (Kept channel) ⟨channel, []⟩ := by
  rw [meets_reply]
  refine h fun result channel' failures' hresult => ?_
  cases result with
  | ok value => exact fun error reports => absurd reports (hmake value error)
  | error error =>
      rintro error' rfl
      exact hresult error' rfl

theorem reply_shut {calls : Call → Prop} {make : α → Reply}
    {program : Operating α}
    (hmake : ∀ value error, ¬(make value).Reports (.socket error))
    (h : Closes calls thread channel program) :
    solo.Meets thread (reply make program) (Shut calls channel)
      ⟨channel, []⟩ := by
  rw [meets_reply]
  refine h fun result channel' failures' hresult => ?_
  cases result with
  | ok value => exact fun error reports => absurd reports (hmake value error)
  | error error =>
      rintro error' rfl
      exact hresult error' rfl

variable (unused : channel.IsUnused fd)
  (free : ∀ lock, channel.locks.holder lock = none)

include unused free

theorem read_spares (window : Window) :
    Spares thread channel (Channel.read fd window) :=
  transferWith_spares unused free fun _ => socketRead_spares window

theorem readMany_spares (windows : List Window) :
    Spares thread channel (Channel.readMany fd windows) :=
  transferWith_spares unused free fun _ => socketReadMany_spares windows

theorem write_spares (window : Window) :
    Spares thread channel (Channel.write fd window) :=
  transferWith_spares unused free fun _ => socketWrite_spares window

theorem writeMany_spares (windows : List Window) :
    Spares thread channel (Channel.writeMany fd windows) :=
  transferWith_spares unused free fun _ => socketWriteMany_spares windows

theorem attempt_shut {operation : Operation}
    (hattempt : operation.isAttempt = true) :
    solo.Meets thread (operation.program fd)
      (Shut (operation.Attempts fd) channel) ⟨channel, []⟩ := by
  cases operation with
  | bind address => exact reply_shut (fun _ _ => id) (bind_closes unused free _)
  | connect address =>
      exact reply_shut (fun _ _ => id) (connect_closes unused free _)
  | finishConnect =>
      exact reply_shut (fun _ _ => id) (finishConnect_closes unused free)
  | _ => cases hattempt

theorem other_kept {operation : Operation}
    (hattempt : operation.isAttempt = false) :
    solo.Meets thread (operation.program fd) (Kept channel) ⟨channel, []⟩ := by
  cases operation with
  | bind _ | connect _ | finishConnect => cases hattempt
  | configureBlocking blocking =>
      exact reply_kept (fun _ _ => id) (configureBlocking_restores free _)
  | close =>
      exact reply_kept (fun _ _ => id)
        (restores_of_calm (close_calm unused (free _)))
  | shutdown direction =>
      exact reply_kept (fun _ _ => id) (shutdown_restores free _)
  | apply settings => exact reply_kept (fun _ _ => id) (apply_restores free _)
  | read window =>
      exact kept_of_spares
        (spares_bind (read_spares unused free _) fun _ => spares_pure _)
  | readMany windows =>
      exact kept_of_spares
        (spares_bind (readMany_spares unused free _) fun _ => spares_pure _)
  | write window =>
      exact kept_of_spares
        (spares_bind (write_spares unused free _) fun _ => spares_pure _)
  | writeMany windows =>
      exact kept_of_spares
        (spares_bind (writeMany_spares unused free _) fun _ => spares_pure _)
  | receive length =>
      rw [Looking.receive_eq]
      exact kept_of_spares
        (spares_bind (read_spares unused free _) fun _ => spares_pure _)
  | send bytes =>
      rw [Looking.send_eq]
      exact kept_of_spares
        (spares_bind (write_spares unused free _) fun _ => spares_pure _)
  | flush | supportedOptions => exact kept_of_spares (spares_pure _)
  | poll interest timeout =>
      exact reply_kept (fun _ _ => id)
        (restores_of_spares (poll_spares unused free _ _))
  | register =>
      exact reply_kept (fun _ _ => id)
        (restores_of_calm (register_calm unused.isOpen (free _)))
  | deregister =>
      exact reply_kept (fun _ _ => id)
        (restores_of_calm (deregister_calm unused (free _)))
  | dropRegistration =>
      exact reply_kept (fun _ _ => id)
        (restores_of_calm (quietly_calm (deregister_calm unused (free _))))
  | getOption option =>
      exact reply_kept (fun _ _ => id)
        (restores_of_spares (getOption_spares free _))
  | setOption setting =>
      exact reply_kept (fun _ _ => id)
        (restores_of_spares (setOption_spares free _))
  | credentials =>
      exact reply_kept (fun _ _ => id)
        (restores_of_spares (credentials_spares free))
  | localAddress =>
      exact reply_kept (fun _ _ => id)
        (restores_of_spares (localAddress_spares free))
  | remoteAddress =>
      exact reply_kept (fun _ _ => id) (remoteAddress_restores free)
  | ready events interest =>
      exact kept_of_spares
        (spares_bind (ready_spares (free _) _ _) fun _ => spares_pure _)
  | text =>
      exact kept_of_spares
        (spares_bind (text_spares (free _)) fun _ => spares_pure _)
  | inspect =>
      exact kept_of_spares
        (spares_bind (inspect_spares (free _)) fun _ => spares_pure _)
  | flags =>
      exact kept_of_spares
        (spares_bind (flags_spares (free _)) fun _ => spares_pure _)
  | snapshot =>
      exact kept_of_spares
        (spares_bind (snapshot_spares (free _)) fun _ => spares_pure _)

end Replies

end Solo

theorem Run.isUnused {fd : Fd} {trace : Trace} {c : Config}
    (run : Run fd trace c) (isOpen : c.channel.isOpen = true)
    (idle : ∀ thread, c.activity thread = .idle) :
    c.channel.IsUnused fd ∧ (∀ lock, c.channel.locks.holder lock = none) ∧
      c.channel.fields.registrations = c.guards := by
  obtain ⟨S, coherent, keeps⟩ := run.coherent
  have rest : ∀ t, S t = {} := by
    intro t
    have hkeeps := keeps t
    rwa [idle t] at hkeeps
  obtain ⟨free, threads, hcount⟩ := coherent.at_rest rest
  have live := coherent.phased.live isOpen
  have hslots : c.channel.fields.reader = none ∧
      c.channel.fields.writer = none := by
    simpa [Fields.threads] using threads
  refine ⟨?_, ?_, hcount⟩
  · refine ⟨isOpen, live, ?_, hslots.1, hslots.2⟩
    rw [coherent.phased.holder, if_neg]
    intro killed
    simp [killed, Lifecycle.isLive] at live
  · intro lock
    refine Option.eq_none_iff_forall_not_mem.mpr fun t hholder => ?_
    cases lock with
    | read =>
        have held := (coherent.locked.read t).mpr hholder
        simp [rest t] at held
    | write =>
        have held := (coherent.locked.write t).mpr hholder
        simp [rest t] at held
    | state => simp [Locks.holder, free] at hholder

/-- If an operation that has an open channel to itself reports that a system
call has failed, then, if it binds or connects, one of the calls it attempts has
failed and the channel is closed: its descriptor has been released, once and not
before, unless there are registrations, to which it is left.  After any other
operation the channel is as before. -/
theorem call_failure_settled {fd : Fd} {before during : Trace} {c c' : Config}
    {thread : Thread} {operation : Channel.Operation} {reply : Channel.Reply}
    {error : OsError} (run : Run fd before c) (isOpen : c.channel.isOpen = true)
    (idle : ∀ other, c.activity other = .idle)
    (episode : Episode fd thread operation c during reply c')
    (alone : ∀ event ∈ during, event.thread = thread)
    (reports : reply.Reports (.socket error)) :
    (operation.isAttempt = true →
      c'.channel.isOpen = false ∧
        c'.channel.fields.inputOpen = false ∧
        c'.channel.fields.outputOpen = false ∧
        c'.channel.fields.reader = none ∧ c'.channel.fields.writer = none ∧
        c'.channel.fields.state =
          (if c.guards = 0 then .killed else .killPending) ∧
        (c.guards = 0 → ¬before.HasStarted ∧ during.HasReleased fd ∧
          Trace.ReleasesOnce fd (before ++ .began thread operation :: during ++
            [.ended thread operation reply])) ∧
        ∃ call, operation.Attempts fd call ∧
          .answered thread call (.error error) ∈ during) ∧
    (operation.isAttempt = false → c'.channel = c.channel) := by
  obtain ⟨unused, free, hcount⟩ := run.isUnused isOpen idle
  constructor
  · intro hattempt
    obtain ⟨failures, hshut, hfailed⟩ :=
      episode.solo alone (Solo.attempt_shut unused free hattempt)
    obtain ⟨hchannel, call, hcall, hmem⟩ := hshut error reports
    replace hchannel : c'.channel = c.channel.closed := hchannel
    have hstate : c'.channel.fields.state =
        if c.guards = 0 then .killed else .killPending := by
      simp [hchannel, Channel.closed, hcount]
    have hreleased : c.guards = 0 → ¬before.HasStarted ∧
        during.HasReleased fd ∧ Trace.ReleasesOnce fd
          (before ++ .began thread operation :: during ++
            [.ended thread operation reply]) := by
      intro hguards
      have unstarted : ¬before.HasStarted := by
        obtain ⟨S, coherent, _⟩ := run.coherent
        exact coherent.releasedBy.unstarted unused.state_ne.2
      have run' := episode.run run
      refine ⟨unstarted, ?_, run'.releasesOnce⟩
      obtain ⟨S, coherent, _⟩ := run'.coherent
      have free' : c'.channel.locks.state = none := hchannel ▸ free .state
      rw [if_pos hguards] at hstate
      obtain ⟨t, answer, hmem, hfinal⟩ := coherent.released free' hstate
      have hcases : .answered t (.close fd) answer ∈ before ∨
          .answered t (.close fd) answer ∈ during := by simpa using hmem
      obtain hbefore | hduring := hcases
      · exact absurd ⟨t, fd, run.called_of_answered hbefore⟩ unstarted
      · exact ⟨t, answer, hduring, hfinal⟩
    rw [hchannel] at hstate ⊢
    exact ⟨rfl, rfl, rfl, unused.reader, unused.writer, hstate, hreleased,
      call, hcall, hfailed call error hmem⟩
  · intro hattempt
    obtain ⟨failures, hkept, _⟩ :=
      episode.solo alone (Solo.other_kept unused free hattempt)
    exact hkept error reports

/-- The channel gets its name but cannot tell it.  It is closed, which is
interrupted and then fails. -/
def untilNamingFailed : List Move :=
  [Move.steps 1 6,
    [.answer 1 fun
      | .bind .. => .ok ()
      | _ => .error (.code Errno.again)],
    Move.steps 1 1, [.answer 1 fun _ => .error (.code Errno.again)],
    Move.steps 1 9, [.answer 1 fun _ => .error (.code Errno.interrupted)],
    Move.steps 1 2, [.answer 1 fun _ => .error (.code Errno.again)],
    Move.steps 1 8].flatten

def naming : Config :=
  (Config.start (.owning 3 .unconnected true)).set 1
    (.running (.bind none) ((Channel.Operation.bind none).program 3))

theorem untilNamingFailed_isSome :
    (naming.play 3 untilNamingFailed).isSome = true := by
  decide +kernel

def failedNaming : Trace × Config :=
  (naming.play 3 untilNamingFailed).get untilNamingFailed_isSome

theorem steps_failedNaming : Steps 3 naming failedNaming.1 failedNaming.2 :=
  Config.steps_get untilNamingFailed_isSome

theorem episode_failedNaming : ∃ c, Episode 3 1 (.bind none)
    (.start (.owning 3 .unconnected true)) (failedNaming.1.take 26)
    (.failed (.socket (.code Errno.again))) c := by
  have began : Step 3 (.start (.owning 3 .unconnected true))
      [.began 1 (.bind none)] naming :=
    .begin rfl rfl nofun
  have steps : Steps 3 naming (failedNaming.1.take 26 ++
      .ended 1 (.bind none) (.failed (.socket (.code Errno.again))) :: [])
      failedNaming.2 := steps_failedNaming
  obtain ⟨c₁, c₂, during, ended, _⟩ := steps.split
  exact ⟨c₂, ⟨naming, c₁, began, during, ended⟩,
    Trace.isWithin_of_all (by decide +kernel)⟩

theorem closed_when_naming_failed : ∃ c during, Episode 3 1 (.bind none)
    (.start (.owning 3 .unconnected true)) during
    (.failed (.socket (.code Errno.again))) c ∧
      c.channel.isOpen = false ∧ during.HasReleased 3 := by
  obtain ⟨c, episode⟩ := episode_failedNaming
  have settled := call_failure_settled (.start .created) rfl (fun _ => rfl)
    episode (by decide +kernel) rfl
  have closed := settled.1 rfl
  exact ⟨c, _, episode, closed.1, (closed.2.2.2.2.2.2.1 rfl).2.1⟩

end LocalSocket
