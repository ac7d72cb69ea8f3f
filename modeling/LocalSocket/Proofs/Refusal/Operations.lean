import LocalSocket.Proofs.Refusal

/-!
# A refused operation has done nothing

Every operation is discreet.  So whoever is refused something has made no system
call, has left the channel as it was, and has the windows back untouched,
whatever other threads do with the channel meanwhile.
-/

namespace LocalSocket

open Function (update)

namespace Looking

open Protocol Channel

variable {fd : Fd} {α β : Type}

/-! ## Operations -/

theorem configureBlocking_discreet (blocking : Bool) :
    Discreet (configureBlocking fd blocking) := by
  refine discreet_holding (discreet_holding (discreet_holding ?_))
  refine discreet_look_bind ensureOpen_looks fun _ => ?_
  refine discreet_look_bind (perform_looks rfl) fun isBlocking => ?_
  refine discreet_ite (discreet_pure _) ?_
  refine discreet_look_bind (perform_looks rfl) fun fields => ?_
  refine discreet_ite (discreet_throw _) (discreet_of_compliant ?_)
  exact compliant_bind (compliant_onSocket (roams_perform _))
    fun _ => compliant_perform _

theorem bindLocked_discreet (address : Option Address) :
    Discreet (bindLocked fd address) := by
  refine discreet_look_bind ensureOpen_looks fun _ => ?_
  refine discreet_look_bind (perform_looks rfl) fun fields => ?_
  refine discreet_ite (discreet_throw _) (discreet_ite (discreet_throw _) ?_)
  refine discreet_look_bind (encode_looks _) fun record => ?_
  refine discreet_of_compliant ?_
  refine compliant_bind (compliant_lift (roams_perform _)) fun bound => ?_
  cases bound with
  | error error => exact compliant_pure _
  | ok =>
      refine compliant_bind (compliant_lift (roams_perform _)) fun record => ?_
      cases record with
      | error error => exact compliant_pure _
      | ok record =>
          exact compliant_bind (compliant_perform _) fun _ => compliant_pure _

theorem bind_discreet (address : Option Address) :
    Discreet (Channel.bind fd address) := by
  refine discreet_holding (discreet_holding ?_)
  refine discreet_bind (discreet_holding (bindLocked_discreet address)) ?_
  intro failure
  cases failure with
  | none => exact compliant_pure _
  | some error => exact closeAfter_compliant error

theorem beginConnect_discreet : Discreet beginConnect := by
  refine discreet_holding (discreet_look_bind ensureOpen_looks fun _ => ?_)
  refine discreet_look_bind (perform_looks rfl) fun fields => ?_
  refine discreet_ite (discreet_throw _) (discreet_ite (discreet_throw _) ?_)
  exact discreet_of_compliant (enter_compliant _)

theorem connect_discreet (address : Address) :
    Discreet (Channel.connect fd address) := by
  refine discreet_look_bind (encode_looks _) fun record => ?_
  refine discreet_holding (discreet_holding ?_)
  refine discreet_bind beginConnect_discreet fun _ => ?_
  refine compliant_bind (compliant_lift (attempt_roams record)) fun result => ?_
  refine compliant_bind (leave_compliant _ _) fun _ => ?_
  split
  · exact compliant_bind (markConnected_compliant _) fun _ => compliant_pure _
  · refine compliant_bind (compliant_holding ?_) fun _ => compliant_pure _
    refine compliant_bind (compliant_perform _) fun fields => ?_
    exact compliant_bind ensureStillOpen_compliant fun _ => compliant_perform _
  · exact compliant_throw rfl
  · exact closeAfter_compliant _

theorem beginFinish_discreet : Discreet beginFinish := by
  refine discreet_holding (discreet_look_bind ensureOpen_looks fun _ => ?_)
  refine discreet_look_bind (perform_looks rfl) fun fields => ?_
  refine discreet_ite (discreet_pure _) (discreet_ite ?_ (discreet_throw _))
  cases fields.remoteAddress with
  | none => exact discreet_throw _
  | some address =>
      refine discreet_look_bind (encode_looks address) fun record => ?_
      refine discreet_of_compliant ?_
      exact compliant_bind (enter_compliant _) fun _ => compliant_pure _

theorem finishConnect_discreet : Discreet (Channel.finishConnect fd) := by
  refine discreet_holding (discreet_holding ?_)
  refine discreet_bind beginFinish_discreet fun begun => ?_
  cases begun with
  | none => exact compliant_pure _
  | some record =>
      refine compliant_bind (compliant_perform _) fun blocking => ?_
      refine compliant_bind
        (compliant_lift (awaitConnection_roams record blocking)) fun _ => ?_
      refine compliant_bind (leave_compliant _ _) fun _ => ?_
      split
      · exact compliant_bind (markConnected_compliant _)
          fun _ => compliant_pure _
      · exact compliant_pure _
      · exact closeAfter_compliant _

theorem shutdown_discreet (direction : Direction) :
    Discreet (Channel.shutdown fd direction) := by
  refine discreet_holding (discreet_look_bind ensureOpen_looks fun _ => ?_)
  refine discreet_look_bind (perform_looks rfl) fun fields => ?_
  refine discreet_ite (discreet_throw _) (discreet_ite ?_ (discreet_pure _))
  refine discreet_of_compliant ?_
  exact compliant_bind (compliant_onSocket (roams_perform _))
    fun _ => compliant_perform _

theorem poll_discreet (interest : Interest) (timeout : Option Duration) :
    Discreet (Channel.poll fd interest timeout) := by
  refine discreet_look_bind (perform_looks rfl) fun isBlocking => ?_
  refine discreet_ite (discreet_throw _) (discreet_holding ?_)
  refine discreet_bind (discreet_holding ?_) fun _ => ?_
  · refine discreet_look_bind ensureOpen_looks fun _ => ?_
    exact discreet_of_compliant (enter_compliant _)
  · refine compliant_bind (compliant_lift (socketPoll_roams _ _))
      fun result => ?_
    refine compliant_bind (leave_compliant _ _) fun _ => ?_
    cases result with
    | ok status => exact compliant_pure status
    | error error => exact compliant_throw rfl

theorem register_discreet : Discreet register := by
  refine discreet_holding ?_
  refine discreet_look_bind (perform_looks rfl) fun fields => ?_
  refine discreet_look_bind ensureOpen_looks fun _ => ?_
  refine discreet_look_bind (perform_looks rfl) fun isBlocking => ?_
  refine discreet_ite (discreet_throw _) ?_
  exact discreet_of_compliant (compliant_perform _)

theorem checkSupported_looks (option : OptionName) :
    Looks (checkSupported option).run := by
  intro thread post s hpost
  rw [checkSupported]
  split <;> exact hpost _

theorem socketGetOption_discreet (scope : Scope) (option : OptionName) :
    Discreet (ExceptT.mk (Socket.getOption fd scope option)) := by
  intro thread post s hpost
  rw [ExceptT.run_mk, Socket.getOption]
  split
  · exact hpost _ _ fun _ => rfl
  · rw [meets_bind_eq]
    refine roams_perform _ fun answer s' => ?_
    cases answer with
    | ok payload =>
        exact hpost _ _ fun refuses => absurd refuses (not_refuses_ok _)
    | error error =>
        exact hpost _ _ fun refuses => absurd refuses (not_refuses_error rfl)

theorem socketSetOption_discreet (scope : Scope) (option : OptionName)
    (value : OptionValue) :
    Discreet (ExceptT.mk (Socket.setOption fd scope option value)) := by
  intro thread post s hpost
  rw [ExceptT.run_mk, Socket.setOption]
  split
  · exact hpost _ _ fun _ => rfl
  · split
    · exact hpost _ _ fun _ => rfl
    · rw [meets_bind_eq]
      refine roams_perform _ fun answer s' => ?_
      cases answer with
      | ok => exact hpost _ _ fun refuses => absurd refuses (not_refuses_ok _)
      | error error =>
          exact hpost _ _ fun refuses => absurd refuses (not_refuses_error rfl)

theorem getOption_discreet (option : TypedOption) :
    Discreet (Channel.getOption fd option) := by
  refine discreet_look_bind (checkSupported_looks _) fun _ => ?_
  refine discreet_holding (discreet_look_bind ensureOpen_looks fun _ => ?_)
  exact discreet_bind (socketGetOption_discreet _ _) fun _ => compliant_pure _

theorem setOption_discreet (setting : Setting) :
    Discreet (Channel.setOption fd setting) := by
  refine discreet_look_bind (checkSupported_looks _) fun _ => ?_
  refine discreet_holding (discreet_look_bind ensureOpen_looks fun _ => ?_)
  exact discreet_look_bind (fun _ _ _ hpost => hpost _)
    fun _ => socketSetOption_discreet _ _ _

theorem lifecycle_looks : Looks lifecycle.run := by
  intro thread post s hpost
  simp only [lifecycle, meets_run_holding, Operating.perform_eq,
    meets_run_bind, meets_run_lift, meets_run_pure]
  intro _ fields _
  simpa [Action.isLook] using hpost _

theorem credentials_discreet : Discreet (Channel.credentials fd) := by
  refine discreet_look_bind ensureOpen_looks fun _ => ?_
  refine discreet_look_bind lifecycle_looks fun state => ?_
  refine discreet_ite ?_ (discreet_pure _)
  refine discreet_bind (getOption_discreet _) fun reading => ?_
  cases reading <;> exact compliant_pure _

theorem localAddress_discreet : Discreet Channel.localAddress := by
  refine discreet_holding (discreet_look_bind ensureOpen_looks fun _ => ?_)
  exact discreet_look_bind (perform_looks rfl) fun _ => discreet_pure _

theorem remoteAddress_discreet : Discreet (Channel.remoteAddress fd) := by
  refine discreet_holding (discreet_look_bind ensureOpen_looks fun _ => ?_)
  refine discreet_look_bind (perform_looks rfl) fun fields => ?_
  refine discreet_ite (discreet_of_compliant ?_) (discreet_pure _)
  refine compliant_bind (compliant_onSocket (roams_perform _)) fun _ => ?_
  exact compliant_bind (compliant_perform _) fun _ => compliant_pure _

/-! ## Transfers -/

/-- A transfer that does not begin has only been looked into. -/
theorem beginTransfer_meets {direction : Direction} {thread : Thread} {s : Bool}
    {post : Except ChannelError Bool → Bool → Prop}
    (hpost : ∀ result s', (Refuses result ∨ result = .ok false → s' = s) →
      post result s') :
    looking.Meets thread (beginTransfer direction).run post s := by
  rw [beginTransfer, meets_run_holding]
  intro _
  simp only [Action.isLook, Bool.and_true]
  have hsame : ∀ result,
      looking.act thread s (.release .state) fun _ => post result := by
    intro result _
    simpa [Action.isLook] using hpost result s fun _ => rfl
  rw [meets_run_bind]
  refine ensureOpen_looks fun result => ?_
  cases result with
  | error error => exact hsame _
  | ok =>
      simp only [meets_run_bind]
      refine perform_looks rfl fun result => ?_
      cases result with
      | error error => exact hsame _
      | ok fields =>
          simp only [meets_run_ite]
          split
          · exact hsame _
          · split
            · rw [meets_run_bind]
              refine enter_compliant _ fun result s' hresult => ?_
              cases result with
              | error error =>
                  refine fun _ => hpost _ _ fun h => absurd h ?_
                  rintro (refuses | heq)
                  · exact hresult (refuses.imp fun _ h => ⟨by
                      simpa using h.1, h.2⟩)
                  · cases heq
              | ok => exact fun _ => hpost _ _ (by simp [Refuses])
            · exact hsame _

theorem endTransfer_compliant (direction : Direction)
    (result : Except OsError IoStatus) :
    Compliant (endTransfer direction result) := by
  refine compliant_bind (leave_compliant _ _) fun _ => ?_
  split
  · exact compliant_pure _
  · refine compliant_holding (compliant_bind (compliant_perform _) ?_)
    exact fun _ => compliant_pure _

theorem not_refuses_mapError (result : Except OsError α) :
    ¬Refuses (result.mapError ChannelError.socket) := by
  cases result with
  | ok value => exact not_refuses_ok value
  | error error => exact not_refuses_error rfl

theorem transferWith_meets {direction : Direction} {thread : Thread} {s : Bool}
    {shutBefore shutMeanwhile : Except ChannelError IoStatus} {buffers : β}
    {transfer : Program (Except OsError IoStatus × β)}
    {post : Except ChannelError IoStatus × β → Bool → Prop}
    (roams : Roams transfer) (hmeanwhile : ¬Refuses shutMeanwhile)
    (hpost : ∀ outcome buffers' s',
      (Refuses outcome → s' = s ∧ buffers' = buffers) →
        post (outcome, buffers') s') :
    looking.Meets thread
      (transferWith direction shutBefore shutMeanwhile buffers transfer)
      post s := by
  have hend : ∀ outcome buffers' s', (Refuses outcome → s' = s ∧
      buffers' = buffers) → looking.act thread s' (.release direction.lock)
        fun _ => post (outcome, buffers') := by
    intro outcome buffers' s' houtcome _
    refine hpost _ _ _ fun refuses => ?_
    simpa [Action.isLook] using houtcome refuses
  have hcompliant : ∀ {outcome buffers' s'}, ¬Refuses outcome →
      looking.act thread s' (.release direction.lock)
        fun _ => post (outcome, buffers') :=
    fun hnot => hend _ _ _ fun refuses => absurd refuses hnot
  rw [transferWith, meets_holding]
  intro _
  simp only [Action.isLook, Bool.and_true]
  rw [meets_bind_eq]
  refine beginTransfer_meets fun result s₁ hresult => ?_
  cases result with
  | error error =>
      refine hend _ _ _ fun refuses => ⟨hresult ?_, rfl⟩
      obtain ⟨error', herror, refusal⟩ := refuses
      exact .inl ⟨error', by simpa using herror, refusal⟩
  | ok begun =>
      cases begun with
      | false => exact hend _ _ _ fun _ => ⟨hresult (.inr rfl), rfl⟩
      | true =>
          simp only [meets_bind_eq]
          refine roams fun moved s₂ => ?_
          refine endTransfer_compliant _ _ fun ended s₃ hended => ?_
          cases ended with
          | error error =>
              refine hcompliant fun refuses => hended ?_
              obtain ⟨error', herror, refusal⟩ := refuses
              exact ⟨error', by simpa using herror, refusal⟩
          | ok ended =>
              cases ended with
              | false => exact hcompliant hmeanwhile
              | true => exact hcompliant (not_refuses_mapError _)

theorem transfer_roams {exhausted : Bool}
    {outcome : Except OsError IoStatus × β} {call : Call}
    {next : call.Answer → Program (Except OsError IoStatus × β)}
    (hnext : ∀ answer, Roams (next answer)) :
    Roams (if exhausted then pure outcome
      else Program.retry call >>= next) := by
  split
  · exact roams_pure _
  · exact roams_bind (roams_retry _) hnext

theorem socketRead_roams (window : Window) : Roams (Socket.read fd window) := by
  refine transfer_roams fun answer => ?_
  split <;> exact roams_pure _

theorem socketReadMany_roams (windows : List Window) :
    Roams (Socket.readMany fd windows) := by
  refine transfer_roams fun answer => ?_
  split <;> exact roams_pure _

theorem socketWrite_roams (window : Window) :
    Roams (Socket.write fd window) := by
  refine transfer_roams fun answer => ?_
  split <;> exact roams_pure _

theorem socketWriteMany_roams (windows : List Window) :
    Roams (Socket.writeMany fd windows) := by
  refine transfer_roams fun answer => ?_
  split <;> exact roams_pure _

/-! ## All operations -/

theorem closes_of_not_reports {operation : Operation} {reply : Reply} {s : Bool}
    (h : ∀ error, ¬reply.Reports error) : looking.closes operation reply s :=
  fun error reports => absurd reports (h error)

theorem roams_closes {program : Program α} {make : α → Reply}
    {operation : Operation} {thread : Thread} (h : Roams program)
    (hmake : ∀ value error, ¬(make value).Reports error := by
      exact fun _ _ => id) :
    looking.Meets thread (program >>= fun value => pure (make value))
      (looking.closes operation) true := by
  rw [meets_bind_eq]
  exact h fun value _ => closes_of_not_reports (hmake value)

theorem reply_closes {make : α → Reply} {program : Operating α}
    {operation : Operation} {thread : Thread} (h : Discreet program)
    (hmake : ∀ value error, ¬(make value).Reports error := by
      exact fun _ _ => id) :
    looking.Meets thread (reply make program)
      (looking.closes operation) true := by
  rw [meets_reply]
  refine h fun result s' hresult => ?_
  cases result with
  | ok value => exact closes_of_not_reports (hmake value)
  | error error =>
      rintro _ rfl refusal
      exact ⟨hresult ⟨error, rfl, refusal⟩, fun _ _ _ => rfl⟩

/-- What is left to show of a transfer is that its reply tells of the outcome,
and hands the windows back with it. -/
theorem transfer_closes {direction : Direction} {operation : Operation}
    {shutBefore shutMeanwhile : Except ChannelError IoStatus} {buffers : β}
    {transfer : Program (Except OsError IoStatus × β)} {thread : Thread}
    {next : Except ChannelError IoStatus × β → Program Reply}
    (roams : Roams transfer) (hmeanwhile : ¬Refuses shutMeanwhile)
    (hnext : ∀ outcome buffers', ∃ reply,
      next (outcome, buffers') = pure reply ∧ ∀ error, reply.Reports error →
        error.isRefusal = true → Refuses outcome ∧ (buffers' = buffers →
          ∀ direction windows, operation.Offers direction windows →
            reply.windows windows = windows)) :
    looking.Meets thread
      (transferWith direction shutBefore shutMeanwhile buffers transfer >>=
        next) (looking.closes operation) true := by
  rw [meets_bind_eq]
  refine transferWith_meets roams hmeanwhile fun outcome buffers' s' hsame => ?_
  obtain ⟨reply, hreply, htold⟩ := hnext outcome buffers'
  rw [hreply]
  intro error reports refusal
  obtain ⟨refuses, hwindows⟩ := htold error reports refusal
  obtain ⟨hs, hbuffers⟩ := hsame refuses
  exact ⟨hs, hwindows hbuffers⟩

/-- What a plain stream replies to a transfer. -/
def streamReply (told : Nat → Reply) (outcome : Except ChannelError IoStatus) :
    Reply :=
  match streamResult outcome with
  | .ok count => told count
  | .error error => .broken error

theorem receive_eq (length : Nat) :
    (Operation.receive length).program fd =
      (Channel.read fd ⟨Bytes.zeros length, 0⟩ >>= fun value =>
        pure (streamReply (.received · value.2.buffer) value.1)) := by
  refine (Program.bind_assoc _ _ _).trans ?_
  congr 1
  funext value
  obtain ⟨outcome, window⟩ := value
  simp only [streamReply]
  refine (Program.done_bind _ _).trans ?_
  cases streamResult outcome <;> rfl

theorem send_eq (bytes : Bytes) :
    (Operation.send bytes).program fd =
      (Channel.write fd ⟨bytes, 0⟩ >>= fun value =>
        pure (streamReply .sent value.1)) := by
  refine (Program.bind_assoc _ _ _).trans ?_
  congr 1
  funext value
  simp only [streamReply]
  show (match streamResult value.1 with
    | .ok count => (pure (Reply.sent count) : Program Reply)
    | .error error => pure (.broken error)) = _
  cases streamResult value.1 <;> rfl

theorem refuses_of_streamReply {told : Nat → Reply}
    {outcome : Except ChannelError IoStatus} {error : ChannelError}
    (htold : ∀ count error, ¬(told count).Reports error)
    (refusal : error.isRefusal = true)
    (h : (streamReply told outcome).Reports error) :
    Refuses outcome ∧
      ∀ windows, (streamReply told outcome).windows windows = windows := by
  unfold streamReply at h ⊢
  cases hresult : streamResult outcome with
  | ok count => exact absurd (by simpa [hresult] using h) (htold count error)
  | error error' =>
      obtain rfl : error' = error.toOsError := by
        simpa [hresult, Reply.Reports] using h
      refine ⟨ChannelError.isRefusal_of_streamResult refusal hresult, ?_⟩
      exact fun _ => rfl

theorem obeyed (fd : Fd) : looking.Obeyed fd := by
  intro thread operation hsingle
  cases operation with
  | apply settings => cases hsingle
  | connect address => exact reply_closes (connect_discreet address)
  | finishConnect => exact reply_closes finishConnect_discreet
  | bind address => exact reply_closes (bind_discreet address)
  | configureBlocking blocking =>
      exact reply_closes (configureBlocking_discreet blocking)
  | close => exact reply_closes (discreet_of_compliant close_compliant)
  | shutdown direction => exact reply_closes (shutdown_discreet direction)
  | read window =>
      refine transfer_closes (socketRead_roams window) (not_refuses_ok _) ?_
      refine fun outcome window' => ⟨_, rfl, fun error reports refusal => ?_⟩
      refine ⟨⟨error, reports, refusal⟩, ?_⟩
      rintro rfl direction windows ⟨-, rfl⟩
      rfl
  | readMany windows =>
      refine transfer_closes (socketReadMany_roams windows)
        (not_refuses_ok _) ?_
      refine fun outcome windows' => ⟨_, rfl, fun error reports refusal => ?_⟩
      refine ⟨⟨error, reports, refusal⟩, ?_⟩
      rintro rfl direction windows ⟨-, rfl⟩
      rfl
  | write window =>
      refine transfer_closes (socketWrite_roams window)
        (not_refuses_error rfl) ?_
      refine fun outcome window' => ⟨_, rfl, fun error reports refusal => ?_⟩
      refine ⟨⟨error, reports, refusal⟩, ?_⟩
      rintro rfl direction windows ⟨-, rfl⟩
      rfl
  | writeMany windows =>
      refine transfer_closes (socketWriteMany_roams windows)
        (not_refuses_error rfl) ?_
      refine fun outcome windows' => ⟨_, rfl, fun error reports refusal => ?_⟩
      refine ⟨⟨error, reports, refusal⟩, ?_⟩
      rintro rfl direction windows ⟨-, rfl⟩
      rfl
  | receive length =>
      rw [receive_eq]
      refine transfer_closes (socketRead_roams _) (not_refuses_ok _) ?_
      refine fun outcome window => ⟨_, rfl, fun error reports refusal => ?_⟩
      obtain ⟨refuses, hwindows⟩ :=
        refuses_of_streamReply (fun _ _ => id) refusal reports
      exact ⟨refuses, fun _ _ windows _ => hwindows windows⟩
  | send bytes =>
      rw [send_eq]
      refine transfer_closes (socketWrite_roams _) (not_refuses_error rfl) ?_
      refine fun outcome window => ⟨_, rfl, fun error reports refusal => ?_⟩
      obtain ⟨refuses, hwindows⟩ :=
        refuses_of_streamReply (fun _ _ => id) refusal reports
      exact ⟨refuses, fun _ _ windows _ => hwindows windows⟩
  | flush => exact closes_of_not_reports fun _ => id
  | poll interest timeout =>
      exact reply_closes (poll_discreet interest timeout)
  | ready events interest =>
      exact roams_closes (roams_of_isAloof (ready_isAloof events interest))
  | register => exact reply_closes register_discreet
  | deregister =>
      exact reply_closes (discreet_of_compliant deregister_compliant)
  | dropRegistration =>
      refine reply_closes (discreet_of_compliant ?_)
      exact compliant_quietly (roams_of_isAloof deregister_isAloof)
  | getOption option => exact reply_closes (getOption_discreet option)
  | setOption setting => exact reply_closes (setOption_discreet setting)
  | supportedOptions => exact closes_of_not_reports fun _ => id
  | credentials => exact reply_closes credentials_discreet
  | localAddress => exact reply_closes localAddress_discreet
  | remoteAddress => exact reply_closes remoteAddress_discreet
  | text => exact roams_closes (roams_of_isAloof text_isAloof)
  | inspect => exact roams_closes (roams_of_isAloof inspect_isAloof)
  | flags => exact roams_closes (roams_of_isAloof flags_isAloof)
  | snapshot => exact roams_closes (roams_of_isAloof snapshot_isAloof)

end Looking

/-! ## Runs -/

/-- Whoever has only looked so far, as the standings tell, has done nothing else
inside its operation; the call that a thread is inside of is not told yet. -/
def Watched (trace : Trace) (c : Config) (S : Thread → Bool) : Prop :=
  ∀ t, S t = true →
    (∃ operation call next, c.activity t = .calling operation call next) ∨
      ∀ event ∈ trace.inside t, event.isLook = true

section Watched

variable {fd : Fd} {trace : Trace} {c c' : Config} {S : Thread → Bool}
  {thread : Thread} {operation : Channel.Operation} {event : Event} {s' : Bool}

theorem Watched.step (watched : Watched trace c S)
    (hthread : event.thread = thread)
    (hothers : ∀ t, t ≠ thread → c'.activity t = c.activity t)
    (hself : s' = true →
      (∃ operation call next,
        c'.activity thread = .calling operation call next) ∨
        ∀ event' ∈ Trace.inside thread (trace ++ [event]),
          event'.isLook = true) :
    Watched (trace ++ [event]) c' (update S thread s') := by
  intro t ht
  by_cases hne : t = thread
  · subst hne
    exact hself (by simpa using ht)
  · rw [hothers t hne, Trace.inside_other (hthread ▸ Ne.symm hne)]
    exact watched t (by simpa [hne] using ht)

theorem Watched.boundary (watched : Watched trace c S)
    (hthread : event.thread = thread) (hboundary : event.isBoundary = true)
    (hothers : ∀ t, t ≠ thread → c'.activity t = c.activity t) :
    Watched (trace ++ [event]) c' (update S thread s') := by
  refine watched.step hthread hothers fun _ => .inr ?_
  rw [Trace.inside_boundary hthread hboundary]
  simp

theorem Watched.acted {rest : Program Channel.Reply} {action : Action}
    (watched : Watched trace c S)
    (running : c.activity thread = .running operation rest)
    (hothers : ∀ t, t ≠ thread → c'.activity t = c.activity t) :
    Watched (trace ++ [.acted thread action]) c'
      (update S thread (S thread && action.isLook)) := by
  refine watched.step rfl hothers fun h => .inr ?_
  obtain ⟨hs, hlook⟩ : S thread = true ∧ action.isLook = true := by
    simpa using h
  have hinside : Trace.inside thread (trace ++ [.acted thread action]) =
      trace.inside thread ++ [.acted thread action] := Trace.inside_same rfl rfl
  rw [hinside]
  intro event hmem
  obtain hmem | rfl : event ∈ trace.inside thread ∨
      event = .acted thread action := by simpa using hmem
  · obtain ⟨_, _, _, calling⟩ | hlooks := watched thread hs
    · rw [running] at calling
      cases calling
    · exact hlooks event hmem
  · exact hlook

end Watched

theorem watched_preserved (fd : Fd) : looking.Preserves fd Watched where
  begin := by
    intro trace c S thread operation watched _ _ _ _ _
    exact watched.boundary rfl rfl fun t ht => by simp [ht]
  drop := by
    intro trace c S thread watched _ _ _ _ _
    exact watched.boundary rfl rfl fun t ht => by simp [ht]
  act := by
    intro trace c S thread operation action channel result next k watched _
      running _ hact
    exact ⟨_, fun hcovers => hact hcovers result,
      watched.acted running fun t ht => by simp [ht]⟩
  pause := by
    intro trace c S thread operation next k watched _ running hact
    exact ⟨_, fun hcovers => hact hcovers (),
      watched.acted running fun t ht => by simp [ht]⟩
  unroll := by
    intro trace c S thread operation β body next watched _ running t ht
    by_cases hne : t = thread
    · subst hne
      obtain ⟨_, _, _, calling⟩ | hlooks := watched t ht
      · rw [running] at calling
        cases calling
      · exact .inr hlooks
    · simpa [hne] using watched t ht
  call := by
    intro trace c S thread operation call next k watched _ running _
    rw [← Function.update_eq_self thread S]
    refine watched.step rfl (fun t ht => by simp [ht]) fun _ => .inl ?_
    exact ⟨operation, call, next, by simp⟩
  answer := by
    intro trace c S thread operation call next k answer watched _ calling _ hact
    refine ⟨_, fun hcovers => hact hcovers answer, ?_⟩
    refine watched.step rfl (fun t ht => by simp [ht]) fun h => ?_
    simp [Action.isLook] at h
  finish := by
    intro trace c S thread operation reply watched _ _ _
    exact watched.boundary rfl rfl fun t ht => by simp [ht]

section Runs

variable {fd : Fd} {before during after : Trace} {c c' : Config}
  {thread : Thread} {operation : Channel.Operation} {reply : Channel.Reply}
  {error : ChannelError}

theorem Run.refused
    (run : Run fd (before ++ .began thread operation :: during ++
      .ended thread operation reply :: after) c)
    (within : during.IsWithin thread) (single : operation.isSingle = true)
    (reports : reply.Reports error) (refusal : error.isRefusal = true) :
    (∀ event ∈ during.own thread, event.isLook = true) ∧
      ∀ direction windows, operation.Offers direction windows →
        reply.windows windows = windows := by
  obtain ⟨channel, fresh, hsteps⟩ := run
  obtain ⟨c₁, c₂, hbefore, hended, _⟩ := hsteps.split
  have run₁ : Run fd (before ++ .began thread operation :: during) c₁ :=
    ⟨channel, fresh, hbefore⟩
  have hstart : ∀ channel, Watched [] (.start channel) fun _ => true :=
    fun channel t _ => .inr (by simp [Trace.inside, Trace.own])
  obtain ⟨S, watched, keeps⟩ :=
    Protocol.run (Looking.obeyed fd) (watched_preserved fd)
      (fun channel _ => hstart channel) run₁ fun _ _ _ _ => trivial
  have hdone := keeps thread
  rw [hended.done_of_ended] at hdone
  obtain ⟨hlooked, hwindows⟩ := hdone single error reports refusal
  refine ⟨?_, hwindows⟩
  obtain ⟨_, _, _, calling⟩ | hlooks := watched thread hlooked
  · rw [hended.done_of_ended] at calling
    cases calling
  · rwa [Trace.inside_of_isWithin within] at hlooks

theorem Channel.answer_of_isLook {channel channel' : Channel} {action : Action}
    {result : action.Result} (look : action.isLook = true)
    (answered : channel.answer thread action = .answered channel' result) :
    channel' = { channel with locks := channel'.locks } := by
  cases action with
  | acquire lock =>
      obtain ⟨_, rfl⟩ := Channel.answer_acquire answered
      rfl
  | release | fields | isOpen | isBlocking | thread =>
      cases answered
      rfl
  | _ => cases look

theorem Step.of_isLook {event : Event} (step : Step fd c [event] c')
    (look : event.isLook = true) :
    c'.channel = { c.channel with locks := c'.channel.locks } := by
  cases step with
  | act running answered => exact Channel.answer_of_isLook look answered
  | _ => cases look

/-- Steps of a thread that only looks, with no others in between. -/
theorem Steps.of_isLook (steps : Steps fd c during c')
    (looks : ∀ event ∈ during, event.isLook = true) :
    c'.channel = { c.channel with locks := c'.channel.locks } := by
  induction steps with
  | refl => rfl
  | @tail trace events c₁ c₂ hsteps hstep ih =>
      have hbefore := ih fun event hmem =>
        looks event (List.mem_append_left _ hmem)
      obtain rfl | ⟨event, rfl⟩ := hstep.events
      · cases hstep with
        | unroll running => exact hbefore
      · rw [hstep.of_isLook (looks event (by simp)), hbefore]

/-- If an operation is refused, the thread has made no system call with it; no
step of the thread has changed the channel but for the locks, whatever others
did in the meantime, and if they did nothing, the channel is as before; and the
windows that the operation was called with are left where they were. -/
theorem refused_untouched
    (run : Run fd (before ++ .began thread operation :: during ++
      .ended thread operation reply :: after) c)
    (within : during.IsWithin thread) (single : operation.isSingle = true)
    (reports : reply.Reports error) (refusal : error.isRefusal = true) :
    (∀ call, .called thread call ∉ during) ∧
      (∀ event ∈ during, event.thread = thread → ∀ c₁ c₂,
        Step fd c₁ [event] c₂ →
          c₂.channel = { c₁.channel with locks := c₂.channel.locks }) ∧
      ((∀ event ∈ during, event.thread = thread) → ∀ c₁ c₂,
        Steps fd c₁ during c₂ →
          c₂.channel = { c₁.channel with locks := c₂.channel.locks }) ∧
      ∀ direction windows, operation.Offers direction windows →
        reply.windows windows = windows := by
  obtain ⟨looks, hwindows⟩ := run.refused within single reports refusal
  refine ⟨fun call hmem => ?_, fun event hmem hthread c₁ c₂ hstep => ?_,
    fun halone c₁ c₂ hsteps => ?_, hwindows⟩
  · have hlook := looks _ (Trace.mem_own.mpr ⟨hmem, rfl⟩)
    cases hlook
  · exact hstep.of_isLook (looks event (Trace.mem_own.mpr ⟨hmem, hthread⟩))
  · refine hsteps.of_isLook fun event hmem => ?_
    exact looks event (Trace.mem_own.mpr ⟨hmem, halone event hmem⟩)

end Runs

/-- A thread waits for data, another one shuts the output down and then tries to
write.  The data come while it is being refused. -/
def untilRefused : List Move :=
  [[.begin 2 (.read ⟨[0, 0], 0⟩)], Move.steps 2 10,
    [.begin 1 (.shutdown .output)], Move.steps 1 4,
    [.answer 1 fun
      | .shutdown .. => .ok ()
      | _ => .error (.code Errno.again)],
    Move.steps 1 3, [.begin 1 (.write ⟨[1, 2, 3], 1⟩)], Move.steps 1 3,
    [.answer 2 fun
      | .read .. => .ok [7]
      | _ => .error (.code Errno.again)],
    Move.steps 1 4, Move.steps 2 6].flatten

theorem untilRefused_isSome :
    ((Config.start (.owning 3 .connected true)).play 3 untilRefused).isSome =
    true := by
  decide +kernel

def refusedWriter : Trace × Config :=
  ((Config.start (.owning 3 .connected true)).play 3 untilRefused).get
    untilRefused_isSome

theorem run_refusedWriter : Run 3 refusedWriter.1 refusedWriter.2 :=
  ⟨_, .wrapped true none, Config.steps_get untilRefused_isSome⟩

theorem refused_writer_untouched : ∃ before during after : Trace,
    Run 3 (before ++ .began 1 (.write ⟨[1, 2, 3], 1⟩) :: during ++
      .ended 1 (.write ⟨[1, 2, 3], 1⟩)
        (.moved (.error .closed) ⟨[1, 2, 3], 1⟩) :: after) refusedWriter.2 ∧
      during.IsWithin 1 ∧ ChannelError.closed.isRefusal = true ∧
      ∀ call, .called 1 call ∉ during := by
  have within : Trace.IsWithin 1 ((refusedWriter.1.drop 20).take 7) :=
    Trace.isWithin_of_all (by decide +kernel)
  have run : Run 3 (refusedWriter.1.take 19 ++
      .began 1 (.write ⟨[1, 2, 3], 1⟩) :: (refusedWriter.1.drop 20).take 7 ++
        .ended 1 (.write ⟨[1, 2, 3], 1⟩)
          (.moved (.error .closed) ⟨[1, 2, 3], 1⟩) :: refusedWriter.1.drop 28)
      refusedWriter.2 := run_refusedWriter
  have untouched := refused_untouched run within rfl rfl rfl
  exact ⟨_, _, _, run, within, rfl, untouched.1⟩

end LocalSocket
