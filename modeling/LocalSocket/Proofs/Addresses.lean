import LocalSocket.Proofs.Bookkeeping.Books
import LocalSocket.Proofs.Outlook
import LocalSocket.Proofs.Refusal

/-!
# The addresses of a channel

An address, once it is known, stays what it is.  The remote address is not known
before a connection has been attempted, and while an attempt is under way it is
the address that the attempt was started with, which has a record.  That is what
the attempt is taken up with later, so that two of the errors that taking it up
may report cannot come about.
-/

namespace LocalSocket

/-! ## What an operation is part of -/

theorem Trace.IsWithin.concat {thread : Thread} {during : Trace} {event : Event}
    (within : during.IsWithin thread)
    (h : event.thread = thread → event.isBoundary = false) :
    Trace.IsWithin thread (during ++ [event]) := by
  intro other hmem
  obtain ⟨hmem, hthread⟩ := Trace.mem_own.mp hmem
  obtain hmem | hmem := List.mem_append.mp hmem
  · exact within other (Trace.mem_own.mpr ⟨hmem, hthread⟩)
  · obtain rfl := List.mem_singleton.mp hmem
    exact h hthread

section Began

variable {fd : Fd} {trace : Trace} {c c' : Config} {thread : Thread}
  {operation : Channel.Operation} {event : Event}

theorem Step.operation?_eq {events : Trace} (step : Step fd c events c')
    (thread : Thread) (inside : ∀ event ∈ events, event.thread = thread →
      event.isBoundary = false) :
    (c'.activity thread).operation? = (c.activity thread).operation? := by
  have within : events.IsWithin thread := fun event hmem =>
    inside event (Trace.mem_own.mp hmem).1 (Trace.mem_own.mp hmem).2
  obtain ⟨hactivity, _⟩ | advance := step.advance within
  · rw [hactivity]
  · cases advance with
    | act running | pause running | unroll running | call running
    | answer _ running => simp [running]

/-- An operation that a thread is in the middle of has begun. -/
theorem Run.began (run : Run fd trace c)
    (current : (c.activity thread).operation? = some operation) :
    ∃ before during : Trace,
      trace = before ++ .began thread operation :: during ∧
      during.IsWithin thread := by
  refine run.induct (I := fun trace c =>
    (c.activity thread).operation? = some operation →
    ∃ before during : Trace,
      trace = before ++ .began thread operation :: during ∧
      during.IsWithin thread) (fun _ _ h => by cases h) ?_ current
  intro trace c events c' run step ih current
  obtain rfl | ⟨event, rfl⟩ := step.events
  · simpa using ih ((step.operation?_eq _ (by simp)).symm.trans current)
  by_cases hinside : event.thread = thread → event.isBoundary = false
  · have hsame := step.operation?_eq thread fun event' hmem => by
      rwa [List.mem_singleton.mp hmem]
    obtain ⟨before, during, rfl, within⟩ := ih (hsame.symm.trans current)
    exact ⟨before, during ++ [event], by simp, within.concat hinside⟩
  · obtain ⟨rfl, hboundary⟩ := Classical.not_imp.mp hinside
    cases event with
    | began other operation' =>
        have running := step.running_of_began.1
        rw [Event.thread, running] at current
        cases current
        refine ⟨trace, [], rfl, fun event hmem => ?_⟩
        cases hmem
    | ended other operation' reply =>
        rw [Event.thread, step.idle_of_ended] at current
        cases current
    | _ => exact absurd rfl hboundary

theorem Run.underway (run : Run fd trace c)
    (current : (c.activity thread).operation? = some operation) :
    ∃ (before during : Trace) (c₀ : Config),
      trace = before ++ .began thread operation :: during ∧
      Run fd before c₀ ∧ Underway fd thread operation c₀ during c := by
  obtain ⟨before, during, rfl, within⟩ := run.began current
  obtain ⟨channel, fresh, steps⟩ := run
  obtain ⟨c₀, c₁, hbefore, began, hduring⟩ := steps.split
  exact ⟨before, during, c₀, rfl, ⟨channel, fresh, hbefore⟩,
    ⟨c₁, began, hduring⟩, within⟩

end Began

/-! ## Addresses are written once -/

section Once

variable {fd : Fd} {trace suffix events : Trace} {c c' : Config}
  {fields fields' : Fields}

/-- What is known of the addresses stays known. -/
structure Fields.Keeps (fields fields' : Fields) : Prop where
  localAddress : ∀ address, fields.localAddress = some address →
    fields'.localAddress = some address
  remoteAddress : ∀ address, fields.remoteAddress = some address →
    fields'.remoteAddress = some address

theorem Fields.Keeps.refl (fields : Fields) : fields.Keeps fields :=
  ⟨fun _ => id, fun _ => id⟩

theorem Fields.Keeps.trans {fields'' : Fields} (h : fields.Keeps fields')
    (h' : fields'.Keeps fields'') : fields.Keeps fields'' :=
  ⟨fun address known => h'.localAddress address (h.localAddress address known),
    fun address known =>
      h'.remoteAddress address (h.remoteAddress address known)⟩

theorem Ledger.Revision.localAddress {s : Ledger}
    (revision : s.Revision fields fields') {address : Address}
    (known : fields.localAddress = some address) :
    fields'.localAddress = some address := by
  cases revision with
  | used alike state => exact alike.localAddress.trans known
  | shut current due => cases ‹Direction› <;> exact known
  | named unnamed =>
      rw [unnamed] at known
      cases known
  | closed | attempted | finished | looked => exact known

theorem Step.keeps (step : Step fd c events c') (run : Run fd trace c) :
    c.channel.fields.Keeps c'.channel.fields := by
  obtain hsame | ⟨thread, s, _, _, _, revision⟩ := step.revised run
  · rw [hsame]
    exact .refl _
  · exact ⟨fun _ => revision.localAddress,
      fun _ => revision.remoteAddress run.unnamed⟩

theorem Steps.keeps (steps : Steps fd c suffix c') (run : Run fd trace c) :
    c.channel.fields.Keeps c'.channel.fields := by
  induction steps with
  | refl => exact .refl _
  | tail steps step ih => exact ih.trans (step.keeps (run.steps steps))

end Once

/-! ## The attempt that is under way -/

/-- The thread has tried to connect to the address, in an operation to do so,
and has left the attempt under way: what it has called the system with is the
record. -/
def Trace.HasAttempted (fd : Fd) (thread : Thread) (address : Address)
    (record : Record) (trace : Trace) : Prop :=
  ∃ (before during since : Trace) (answer : Except OsError Unit)
    (fields : Fields),
    trace = before ++ .began thread (.connect address) :: during ++
      .acted thread (.put fields) :: since ∧
    during.IsWithin thread ∧
    .answered thread (.connect fd record) answer ∈ during ∧
    fields.state = .connecting ∧ fields.remoteAddress = some address

section Attempt

variable {fd : Fd} {trace suffix events : Trace} {c c' : Config}
  {thread : Thread} {address : Address} {record : Record}

theorem Trace.HasAttempted.append
    (h : trace.HasAttempted fd thread address record) (events : Trace) :
    Trace.HasAttempted fd thread address record (trace ++ events) := by
  obtain ⟨before, during, since, answer, fields, rfl, h⟩ := h
  exact ⟨before, during, since ++ events, answer, fields, by simp, h⟩

/-- In an operation to connect, the system is called with the record of the
address. -/
theorem Run.answered_connect {other : Fd} {answer : Except OsError Unit}
    (run : Run fd trace c)
    (current : (c.activity thread).operation? = some (.connect address))
    (hmem : .answered thread (.connect other record) answer ∈
      trace.inside thread) :
    other = fd ∧ Record.ofAddress address = .ok record := by
  refine run.induct (I := fun trace c =>
    (c.activity thread).operation? = some (.connect address) →
    .answered thread (.connect other record) answer ∈ trace.inside thread →
      other = fd ∧ Record.ofAddress address = .ok record)
    (fun _ _ h => by cases h) ?_ current hmem
  intro trace c events c' run step ih current hmem
  obtain rfl | ⟨event, rfl⟩ := step.events
  · exact ih ((step.operation?_eq _ (by simp)).symm.trans current)
      (by simpa using hmem)
  by_cases ht : event.thread = thread
  · cases hboundary : event.isBoundary with
    | true =>
        rw [Trace.inside_boundary ht hboundary] at hmem
        cases hmem
    | false =>
        have hsame := step.operation?_eq thread fun event' hevent _ => by
          rwa [List.mem_singleton.mp hevent]
        have before := hsame.symm.trans current
        rw [Trace.inside_same ht hboundary] at hmem
        obtain hmem | hmem := List.mem_append.mp hmem
        · exact ih before hmem
        · obtain rfl := List.mem_singleton.mp hmem
          cases step with
          | answer _ calling =>
              obtain ⟨s, _, records, hfd, address', encoded, h⟩ :=
                run.call_ledger (.inr calling)
              rw [records.operation, before] at h
              obtain ⟨h, _⟩ | ⟨h, _⟩ := h
              · cases h
                exact ⟨hfd, encoded⟩
              · cases h
  · rw [Trace.inside_other ht] at hmem
    rw [step.others (Ne.symm ht)] at current
    exact ih current hmem

/-- The last connect call of an operation has been answered in it. -/
theorem Trace.Attempted.answered_mem {before during : Trace}
    {operation : Channel.Operation} {answer : Except OsError Unit}
    {found : Bool} (h : Trace.Attempted fd thread answer found
      (before ++ .began thread operation :: during)) :
    ∃ record, .answered thread (.connect fd record) answer ∈ during := by
  obtain ⟨past, record, since, htrace, hsince, _⟩ := h
  refine ⟨record, ?_⟩
  obtain ⟨between, -, hrest⟩ | ⟨between, -, hrest⟩ :=
    List.append_eq_append_iff.mp htrace
  · cases between with
    | nil => cases hrest
    | cons first between =>
        obtain ⟨rfl, rfl⟩ := List.cons.inj hrest
        simp
  · cases between with
    | nil => cases hrest
    | cons first between =>
        obtain ⟨rfl, rfl⟩ := List.cons.inj hrest
        cases hsince (.began thread operation) (by simp) rfl

/-- An attempt is under way from then on that the operation leaves it so. -/
theorem Step.hasAttempted (step : Step fd c events c') (run : Run fd trace c)
    (before : c.channel.fields.state ≠ .connecting)
    (after : c'.channel.fields.state = .connecting) :
    ∃ address record thread, c'.channel.fields.remoteAddress = some address ∧
      Record.ofAddress address = .ok record ∧
      Trace.HasAttempted fd thread address record (trace ++ events) := by
  obtain hsame | ⟨thread, s, hevents, _, records, revision⟩ := step.revised run
  · exact absurd (hsame ▸ after) before
  obtain hsame | ⟨thread', s', ⟨fields', hevents'⟩, revision', _, attempted⟩ :=
    step.revision run
  · exact absurd (hsame ▸ after) before
  obtain rfl : thread' = thread := by
    rw [hevents] at hevents'
    cases hevents'
    rfl
  generalize c'.channel.fields = fields at *
  subst hevents
  -- who has made it so knows that its last connect call has been answered
  cases revision' with
  | unmoved same => exact absurd (same.symm.trans after) before
  | ended alive dead =>
      obtain dead | dead := dead <;> cases dead.symm.trans after
  | @raised _ answer _ attempt =>
  -- and it is an operation to connect that the attempt is left to
  cases revision with
  | used alike state =>
      obtain state | state | state := state
      · exact absurd (state.symm.trans after) before
      · cases state.symm.trans after
      · cases state.symm.trans after
  | shut current due =>
      rw [Fields.shutDirection_state] at after
      exact absurd after before
  | closed | named | looked => exact absurd after before
  | finished => cases after
  | @attempted address record _ current encoded =>
      obtain ⟨past, during, rfl, within⟩ := run.began
        (records.operation.symm.trans current)
      obtain ⟨record', answered⟩ := (attempted answer attempt).answered_mem
      obtain ⟨_, encoded'⟩ := run.answered_connect
        (records.operation.symm.trans current) (by
          rw [Trace.inside_of_isWithin within]
          exact Trace.mem_own.mpr ⟨answered, rfl⟩)
      obtain rfl : record = record' := by
        rw [encoded] at encoded'
        cases encoded'
        rfl
      exact ⟨address, record, thread', rfl, encoded, past, during, [], answer,
        _, by simp, within, answered, after, rfl⟩

/-- While an attempt is under way, its address is that which it was started
with. -/
theorem Run.hasAttempted (run : Run fd trace c)
    (connecting : c.channel.fields.state = .connecting) :
    ∃ address record thread, c.channel.fields.remoteAddress = some address ∧
      Record.ofAddress address = .ok record ∧
      trace.HasAttempted fd thread address record := by
  refine run.induct (I := fun trace c =>
    c.channel.fields.state = .connecting → ∃ address record thread,
      c.channel.fields.remoteAddress = some address ∧
      Record.ofAddress address = .ok record ∧
      trace.HasAttempted fd thread address record) (fun channel fresh h => ?_)
    ?_ connecting
  · cases fresh <;> cases h
  intro trace c events c' run step ih after
  by_cases before : c.channel.fields.state = .connecting
  · obtain ⟨address, record, thread, known, encoded, attempted⟩ := ih before
    exact ⟨address, record, thread,
      (step.keeps run).remoteAddress address known, encoded,
      attempted.append events⟩
  · exact step.hasAttempted run before after

end Attempt

/-! ## Taking up the attempt -/

namespace Outlook

open Protocol

/-- Where no call is ruled out, nothing has to be known for what holds whatever
happens. -/
theorem meets_of_looking {ν : Type} {W : Outlook ν} {α : Type}
    {thread other : Thread} {s : View ν} {program : Program α}
    {post : α → Bool → Prop} {looked : Bool}
    (allowed : ∀ call, W.allows call)
    (h : looking.Meets other program post looked) :
    W.protocol.Meets thread program
      (fun value _ => ∃ looked, post value looked) s := by
  induction program generalizing s looked with
  | done value => exact ⟨looked, h⟩
  | act action next ih =>
      cases action with
      | call call =>
          exact ⟨allowed call, fun channel answer => ih answer (h answer)⟩
      | _ =>
          exact act_keeps (fun _ => nofun) fun result s' _ =>
            ih result (h result)
  | loop body next ihBody ihNext =>
      obtain ⟨hguard, invariant, hinvariant, hbody⟩ := h
      refine meets_loop (fun _ => ∃ looked, invariant looked) hguard
        ⟨looked, hinvariant⟩ fun s' ⟨looked', hs'⟩ => ?_
      refine (ihBody (hbody looked' hs')).mono fun value s'' ⟨looked'', h⟩ => ?_
      cases value with
      | none => exact ⟨looked'', h⟩
      | some value => exact ihNext value h

end Outlook

namespace Finishing

open Protocol Channel

/-- What a thread finds that takes up an attempt, in general, when attempts have
started, and when none is under way as long as it looks. -/
def outlook (started settled : Prop) : Outlook Unit :=
  .plain (fun action channel => action = .fields →
      channel.fields.state ≠ .uninitialized ∧
      (channel.fields.state = .connecting → ∃ address record,
        channel.fields.remoteAddress = some address ∧
          Record.ofAddress address = .ok record) ∧
      (started → channel.fields.state ≠ .unconnected) ∧
      (settled → channel.fields.state ≠ .connecting))
    fun call => ∀ fd record, call = .connect fd record → ¬settled

/-- None of the errors that a sound attempt leaves no room for. -/
def Spares (started : Prop) (error : ChannelError) : Prop :=
  (∀ path fault, error ≠ .invalidPath path fault) ∧
    (started → error ≠ .noConnectionPending)

section Finishing

variable {started settled : Prop} {thread : Thread} {α : Type}

theorem spares_of_not_refuses {result : Except ChannelError α}
    {error : ChannelError} (h : ¬Looking.Refuses result)
    (herror : result = .error error) : Spares started error := by
  constructor
  · rintro path fault rfl
    exact h ⟨_, herror, rfl⟩
  · rintro _ rfl
    exact h ⟨_, herror, rfl⟩

/-- Once the thread is going to make calls, no program refuses but to look. -/
theorem meets_of_compliant {operation : Operating α} {s : View Unit}
    (unsettled : ¬settled) (h : Looking.Compliant operation) :
    (outlook started settled).protocol.Meets thread operation.run
      (fun result _ => ∀ error, result = .error error → Spares started error)
      s := by
  have looks : looking.Meets thread operation.run
      (fun result _ => ¬Looking.Refuses result) true := h fun _ _ h => h
  refine (Outlook.meets_of_looking (fun _ _ _ _ => unsettled) looks).mono ?_
  exact fun result s' ⟨_, h⟩ error => spares_of_not_refuses h

theorem beginFinish_meets : (outlook started settled).protocol.Meets thread
    beginFinish.run (fun result _ =>
      (∀ error, result = .error error → Spares started error) ∧
        ∀ record, result = .ok (some record) → ¬settled) { note := () } := by
  let Q : Except ChannelError (Option Record) → Unit → Prop := fun result _ =>
    (∀ error, result = .error error → Spares started error) ∧
      ∀ record, result = .ok (some record) → ¬settled
  refine Outlook.holding_state_meets (Q := Q) fun channel _ _ => ?_
  rw [meets_run_bind]
  refine Outlook.ensureOpen_meets (fun _ _ _ live => ?_) fun _ _ _ => ?_
  · refine Outlook.fields_meets rfl fun channel' hfields found => ?_
    obtain ⟨initialized, origin, hstarted, hsettled⟩ := found rfl
    rw [hfields] at initialized origin hstarted hsettled
    rw [meets_run_ite]
    split
    · exact ⟨nofun, nofun⟩
    rw [meets_run_ite]
    split
    · rename_i connecting
      obtain ⟨address, record, known, encoded⟩ := origin connecting
      have unsettled : ¬settled := fun h => hsettled h connecting
      simp only [known, encode_of_ok encoded]
      refine (meets_of_compliant unsettled (Looking.compliant_bind
        (Looking.enter_compliant _) fun _ => Looking.compliant_pure _)).mono ?_
      exact fun result s' spares => ⟨spares, fun _ _ => unsettled⟩
    · rename_i connected connecting
      have live := live channel.fields rfl
      have unconnected : channel.fields.state = .unconnected :=
        Lifecycle.unconnected_of_isLive live connected connecting
      refine ⟨?_, nofun⟩
      rintro error ⟨⟩
      exact ⟨nofun, fun h => absurd unconnected (hstarted h)⟩
  · refine ⟨?_, nofun⟩
    rintro error ⟨⟩
    exact ⟨nofun, nofun⟩

theorem finishConnect_meets (fd : Fd) (thread : Thread)
    (started settled : Prop) : (outlook started settled).protocol.Meets thread
    (Operation.finishConnect.program fd) (fun reply _ =>
      ∀ error, reply = .failed error → Spares started error)
    { note := () } := by
  let Q : Except ChannelError Bool → Unit → Prop := fun result _ =>
    ∀ error, result = .error error → Spares started error
  have finishes : (outlook started settled).protocol.Meets thread
      (Channel.finishConnect fd).run (fun result s => Q result s.note)
      { note := () } := by
    refine Outlook.holding_meets (Q := Q) nofun ?_
    refine Outlook.holding_meets (Q := Q) nofun ?_
    rw [meets_run_bind]
    refine beginFinish_meets.mono fun result s ⟨spares, unsettled⟩ => ?_
    rcases result with error | _ | record
    · rintro _ ⟨⟩
      exact spares error rfl
    · exact nofun
    · refine meets_of_compliant (unsettled record rfl) ?_
      refine Looking.compliant_bind (Looking.compliant_perform _)
        fun blocking => ?_
      refine Looking.compliant_bind (Looking.compliant_lift
        (Looking.awaitConnection_roams record blocking)) fun result => ?_
      refine Looking.compliant_bind (Looking.leave_compliant _ _) fun _ => ?_
      split
      · exact Looking.compliant_bind (Looking.markConnected_compliant _)
          fun _ => Looking.compliant_pure _
      · exact Looking.compliant_pure _
      · exact Looking.closeAfter_compliant _
  show (outlook started settled).protocol.Meets thread
    (Channel.reply _ (Channel.finishConnect fd)) _ _
  rw [meets_reply]
  refine finishes.mono fun result s spares => ?_
  cases result with
  | ok value => exact nofun
  | error error =>
      rintro _ ⟨⟩
      exact spares error rfl

end Finishing

end Finishing

section Finish

variable {fd : Fd} {before during : Trace} {c c' : Config} {thread : Thread}
  {reply : Channel.Reply}

/-- What an attempt is taken up with is always found to be sound. -/
theorem Run.finds {started settled : Prop} {c' : Config} {trace : Trace}
    (run : Run fd before c)
    (hstarted : started → ¬Steps.Sees fd thread c trace c' .fields
      fun channel => channel.fields.state = .unconnected)
    (hsettled : settled → ¬Steps.Sees fd thread c trace c' .fields
      fun channel => channel.fields.state = .connecting)
    {past rest : Trace} {action : Action} {c₁ c₂ : Config}
    (hpast : Steps fd c past c₁) (step : Step fd c₁ [.acted thread action] c₂)
    (hrest : Steps fd c₂ rest c')
    (htrace : trace = past ++ .acted thread action :: rest) :
    (Finishing.outlook started settled).finds () action c₁.channel := by
  rintro rfl
  have run₁ := run.steps hpast
  obtain ⟨S, coherent, _⟩ := run₁.coherent
  refine ⟨coherent.phased.initialized, fun connecting => ?_,
    fun h unconnected => hstarted h
      ⟨past, rest, c₁, c₂, hpast, step, hrest, htrace, unconnected⟩,
    fun h connecting => hsettled h
      ⟨past, rest, c₁, c₂, hpast, step, hrest, htrace, connecting⟩⟩
  obtain ⟨address, record, _, known, encoded, _⟩ :=
    run₁.hasAttempted connecting
  exact ⟨address, record, known, encoded⟩

/-- Taking up an attempt never fails for want of a record, and says that there
is no attempt only when it has looked at a channel that is not connected. -/
theorem Episode.finished
    (episode : Episode fd thread .finishConnect c during reply c')
    (run : Run fd before c) :
    (∀ path fault, reply ≠ .failed (.invalidPath path fault)) ∧
      (reply = .failed .noConnectionPending →
        Steps.Sees fd thread c (.began thread .finishConnect :: during ++
          [.ended thread .finishConnect reply]) c' .fields
          fun channel => channel.fields.state = .unconnected) := by
  constructor
  · rintro path fault rfl
    obtain ⟨⟨_, spares⟩, _⟩ := episode.plain run
      (Finishing.finishConnect_meets fd thread False False)
      fun _ _ _ _ _ hpast step hrest htrace =>
        run.finds False.elim False.elim hpast step hrest htrace
    exact (spares _ rfl).1 path fault rfl
  · rintro rfl
    by_contra unseen
    obtain ⟨⟨_, spares⟩, _⟩ := episode.plain run
      (Finishing.finishConnect_meets fd thread True False)
      fun _ _ _ _ _ hpast step hrest htrace =>
        run.finds (fun _ => unseen) False.elim hpast step hrest htrace
    exact (spares _ rfl).2 trivial rfl

/-- Taking up an attempt repeats its connect call. -/
theorem Step.called_finishing {other : Fd} {record : Record}
    (step : Step fd c [.called thread (.connect other record)] c')
    (run : Run fd before c)
    (current : (c.activity thread).operation? = some .finishConnect) :
    other = fd ∧ ∃ address starter,
      c.channel.fields.remoteAddress = some address ∧
      before.HasAttempted fd starter address record := by
  cases step with
  | @call _ operation _ next running =>
  obtain ⟨s, agrees, records, hfd, address, encoded, h⟩ :=
    run.call_ledger (.inl running)
  refine ⟨hfd, ?_⟩
  have known : c.channel.fields.remoteAddress = some address := by
    rw [records.operation, current] at h
    obtain ⟨h, _⟩ | ⟨_, remote⟩ := h
    · cases h
    · exact agrees.remote address remote
  obtain ⟨past, during, c₀, rfl, run₀, underway⟩ := run.underway current
  by_cases seen : Steps.Sees fd thread c₀
      (.began thread .finishConnect :: during) c .fields
      fun channel => channel.fields.state = .connecting
  · obtain ⟨first, rest, c₂, c₃, hfirst, look, hrest, htrace, connecting⟩ :=
      seen
    obtain ⟨address', record', starter, known', encoded', attempted⟩ :=
      (run₀.steps hfirst).hasAttempted connecting
    have kept := ((Steps.single look).trans hrest).keeps (run₀.steps hfirst)
    obtain rfl : address = address' := Option.some.inj
      (known.symm.trans (kept.remoteAddress address' known'))
    obtain rfl : record = record' := by
      rw [encoded] at encoded'
      cases encoded'
      rfl
    refine ⟨address, starter, known, ?_⟩
    rw [htrace, ← List.append_assoc]
    exact attempted.append _
  · obtain ⟨s, follows, -⟩ := underway.plain run₀
      (Finishing.finishConnect_meets fd thread False True)
      fun _ _ _ _ _ hpast step hrest htrace =>
        run₀.finds False.elim (fun _ => seen) hpast step hrest htrace
    have allowed := (follows.running running).2.1
    exact absurd trivial (allowed other record rfl)

/-! ## Channels that have been created -/

/-- A channel that has become connected knows whom to. -/
theorem Steps.named (steps : Steps fd (.start (.owning fd .unconnected true))
      before c) (connected : c.channel.fields.state = .connected) :
    ∃ address, c.channel.fields.remoteAddress = some address := by
  induction steps with
  | refl => cases connected
  | @tail trace events c c' steps step ih =>
      have run : Run fd trace c := ⟨_, .created, steps⟩
      by_cases before : c.channel.fields.state = .connected
      · obtain ⟨address, known⟩ := ih before
        exact ⟨address, (step.keeps run).remoteAddress address known⟩
      obtain hsame | ⟨thread, s, _, _, _, revision⟩ := step.revised run
      · exact absurd (hsame ▸ connected) before
      generalize c'.channel.fields = fields at *
      cases revision with
      | used alike state =>
          obtain state | state | state := state
          · exact absurd (state.symm.trans connected) before
          · cases state.symm.trans connected
          · cases state.symm.trans connected
      | shut current due =>
          rw [Fields.shutDirection_state] at connected
          exact absurd connected before
      | closed | named => exact absurd connected before
      | attempted | looked => exact ⟨_, rfl⟩
      | finished current alone remote => exact ⟨_, remote⟩

/-- A channel that has not been made of a connected socket does not ask for the
address at the other end. -/
theorem Steps.unasked (steps : Steps fd (.start (.owning fd .unconnected true))
      before c) (thread : Thread) (other : Fd) :
    .called thread (.peerRecord other) ∉ before := by
  intro hmem
  obtain ⟨past, rest, rfl⟩ := List.append_of_mem hmem
  obtain ⟨c₁, c₂, hpast, step, _⟩ := steps.split
  have run : Run fd past c₁ := ⟨_, .created, hpast⟩
  cases step with
  | call running =>
      obtain ⟨s, agrees, _, -, fields, hfields, unknown, connected⟩ :=
        run.call_ledger (.inl running)
      obtain ⟨_, rfl⟩ := agrees.fields fields hfields
      obtain ⟨address, known⟩ := hpast.named connected
      rw [unknown] at known
      cases known

end Finish

/-! ## Runs -/

/-- In every run: the remote address is not known before a connection has been
attempted; while an attempt is under way, it is the address that the attempt was
started with, which has a record; and an address that is known stays known.
Taking the attempt up never fails for want of a record, says that there is no
attempt only when it finds the channel unconnected, as it has then been all
along, and repeats the call that the attempt was started with.  A channel that
has not been made of a connected socket never asks for the address at the other
end. -/
theorem addresses_settled {fd : Fd} {trace : Trace} {c : Config}
    (run : Run fd trace c) :
    (c.channel.fields.state = .unconnected →
      c.channel.fields.remoteAddress = none) ∧
      (c.channel.fields.state = .connecting → ∃ address record starter,
        c.channel.fields.remoteAddress = some address ∧
        Record.ofAddress address = .ok record ∧
        trace.HasAttempted fd starter address record) ∧
      (∀ suffix c', Steps fd c suffix c' →
        c.channel.fields.Keeps c'.channel.fields) ∧
      (∀ thread during reply c',
        Episode fd thread .finishConnect c during reply c' →
        (∀ path fault, reply ≠ .failed (.invalidPath path fault)) ∧
          (reply = .failed .noConnectionPending →
            c.channel.fields.state = .unconnected ∧
            Steps.Sees fd thread c (.began thread .finishConnect :: during ++
              [.ended thread .finishConnect reply]) c' .fields
              fun channel => channel.fields.state = .unconnected)) ∧
      (∀ thread other record c',
        Step fd c [.called thread (.connect other record)] c' →
        (c.activity thread).operation? = some .finishConnect →
        other = fd ∧ ∃ address starter,
          c.channel.fields.remoteAddress = some address ∧
          trace.HasAttempted fd starter address record) ∧
      (Steps fd (.start (.owning fd .unconnected true)) trace c →
        ∀ thread other, .called thread (.peerRecord other) ∉ trace) := by
  refine ⟨run.unnamed, run.hasAttempted, fun _ _ steps => steps.keeps run,
    fun thread during reply c' episode => ?_,
    fun thread other record c' step current => ?_, fun steps => steps.unasked⟩
  · obtain ⟨valid, sees⟩ := episode.finished run
    refine ⟨valid, fun h => ?_⟩
    obtain ⟨past, rest, c₁, c₂, hpast, step, hrest, htrace, unconnected⟩ :=
      sees h
    refine ⟨?_, past, rest, c₁, c₂, hpast, step, hrest, htrace, unconnected⟩
    obtain ⟨S, coherent, _⟩ := run.coherent
    have initialized := coherent.phased.initialized
    have hrank := hpast.rank_le run
    rw [unconnected] at hrank
    cases h : c.channel.fields.state <;> simp_all [Lifecycle.rank]
  · exact step.called_finishing run current

/-- A connection is under way when the thread comes back to it. -/
def untilTakenUp : List Move :=
  [[.begin 1 (.configureBlocking false)], Move.steps 1 7,
    [.answer 1 fun
      | .setNonBlocking .. => .ok ()
      | _ => .error (.code Errno.again)],
    Move.steps 1 5, [.begin 1 (.connect ⟨[47]⟩)], Move.steps 1 11,
    [.answer 1 fun _ => .error (.code Errno.inProgress)], Move.steps 1 13,
    [.begin 1 .finishConnect], Move.steps 1 11].flatten

theorem untilTakenUp_isSome :
    ((Config.start (.owning 3 .unconnected true)).play 3
      untilTakenUp).isSome = true := by
  decide +kernel

def takenUp : Trace × Config :=
  ((Config.start (.owning 3 .unconnected true)).play 3 untilTakenUp).get
    untilTakenUp_isSome

theorem run_takenUp : Run 3 takenUp.1 takenUp.2 :=
  ⟨_, .created, Config.steps_get untilTakenUp_isSome⟩

theorem takenUp_move_isSome : (takenUp.2.move 3 (.step 1)).isSome = true := by
  decide +kernel

def askedAgain : Trace × Config :=
  (takenUp.2.move 3 (.step 1)).get takenUp_move_isSome

theorem step_askedAgain : Step 3 takenUp.2
    [.called 1 (.connect 3 (.holding [47] Record.fullLength))] askedAgain.2 :=
  Config.step_get takenUp_move_isSome

theorem attempt_taken_up_as_started :
    takenUp.2.channel.fields.state = .connecting ∧
      takenUp.2.channel.fields.remoteAddress = some ⟨[47]⟩ ∧
      ∃ starter, takenUp.1.HasAttempted 3 starter ⟨[47]⟩
        (.holding [47] Record.fullLength) := by
  have connecting : takenUp.2.channel.fields.state = .connecting := by
    decide +kernel
  have remote : takenUp.2.channel.fields.remoteAddress = some ⟨[47]⟩ := by
    decide +kernel
  obtain ⟨_, _, _, _, called, _⟩ := addresses_settled run_takenUp
  have current : (takenUp.2.activity 1).operation? = some .finishConnect := by
    decide +kernel
  obtain ⟨_, address, starter, known, attempted⟩ :=
    called 1 3 _ askedAgain.2 step_askedAgain current
  obtain rfl : address = ⟨[47]⟩ := Option.some.inj (known.symm.trans remote)
  exact ⟨connecting, remote, starter, attempted⟩

end LocalSocket
