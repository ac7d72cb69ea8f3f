import LocalSocket.Proofs.Closing.Record

/-!
# Waking the users

Whoever closes a channel wakes the threads that are inside a call, once all at
once and then one by one until they have left.  A signal must not go to a thread
that has left: it may have come to its end.  It does not, since nobody is
signalled but the users that are recorded at that moment, and a thread that is
recorded is in the middle of the operation that has recorded it.
-/

namespace LocalSocket

/-- The thread is in an operation in which it may be blocked, has recorded
itself as a user there, and is recorded still. -/
def Config.IsUsing (c : Config) (thread : Thread) (trace : Trace) : Prop :=
  ∃ operation direction fields,
    (c.activity thread).operation? = some operation ∧
    operation.isAloof = false ∧
    .acted thread (.put fields) ∈ trace.inside thread ∧
    fields.slot direction = some thread ∧
    c.channel.fields.slot direction = some thread

/-- The first close has entered its locked part. -/
def Trace.HasLocked (trace : Trace) : Prop :=
  ∃ thread rest, trace.firstClose? = some (thread, rest) ∧
    .acted thread (.acquire .state) ∈ rest

/-- The first close has returned: since then, its thread has given up other
locks, or has ended its operation. -/
def Trace.HasReturned (trace : Trace) : Prop :=
  ∃ thread rest, trace.firstClose? = some (thread, rest) ∧
    ∃ event ∈ rest, event.thread = thread ∧ (event.isBoundary = true ∨
      ∃ lock, lock ≠ .state ∧ event = .acted thread (.release lock))

/-- No signal has failed. -/
def Trace.HasReached (trace : Trace) : Prop :=
  ∀ thread user error,
    .answered thread (.signal user) (.error error) ∉ trace

def Event.isFailedSignal : Event → Bool
  | answered _ (.signal _) (.error _) => true
  | _ => false

theorem Trace.hasReached_of_all {trace : Trace}
    (h : trace.all (fun event => !event.isFailedSignal) = true) :
    trace.HasReached := by
  intro thread user error hmem
  cases List.all_eq_true.mp h _ hmem

section Signals

variable {fd : Fd} {trace after : Trace} {c c' : Config}
  {thread user : Thread} {call : Call}

/-- From the moment at which a signal is sent until that is done, the user is
there: the state lock is held. -/
theorem Run.signals (run : Run fd trace c) {operation : Channel.Operation}
    {next : (Call.signal user).Answer → Program Channel.Reply}
    (calling : c.activity thread = .calling operation (.signal user) next) :
    (user ∈ c.channel.fields.threads ∧ c.IsUsing user trace) ∧
      user ≠ thread ∧ c.channel.isOpen = false ∧ trace.IsClosing thread := by
  obtain ⟨S, conducted, keeps⟩ := run.conducted
  have hkeeps := keeps thread
  rw [calling] at hkeeps
  have waking : (S thread).stage = .waking := (hkeeps trivial).1
  have closing : trace.IsClosing thread :=
    (conducted.accords thread).isClosing (by rw [waking]; rfl)
  obtain ⟨S', coherent, keeps'⟩ := run.coherent
  have hkeeps' := keeps' thread
  rw [calling] at hkeeps'
  obtain ⟨_, ⟨fields, known, hmem⟩, _⟩ := hkeeps' trivial
  obtain ⟨_, rfl⟩ := coherent.locked.fields_eq known
  obtain ⟨direction, filled⟩ := Fields.mem_threads.mp hmem
  obtain ⟨untried, ⟨operation, current, blocking⟩, fields, hput, recorded⟩ :=
    (conducted.accords user).uses direction filled
  refine ⟨⟨hmem, operation, direction, fields, ?_, blocking, hput, recorded,
    filled⟩, ?_, ?_, closing⟩
  · rw [← (conducted.accords user).current, current]
  · rintro rfl
    cases untried.symm.trans waking
  · obtain ⟨rest, hfirst, _⟩ := closing
    rw [← Bool.not_eq_true, run.unopened, hfirst]
    exact nofun

theorem Run.wakes (run : Run fd trace c) {other : Fd}
    (step : Step fd c [.called thread (.wake other)] c') :
    other = fd ∧ trace.IsClosing thread ∧ c.channel.fields.threads ≠ [] ∧
      ¬trace.HasStarted ∧ ∀ t g, .called t (.wake g) ∉ trace := by
  obtain ⟨S, conducted, keeps⟩ := run.conducted
  obtain ⟨_, _, running⟩ := step.running
  have hkeeps := keeps thread
  rw [running] at hkeeps
  obtain ⟨⟨shutting, fields, known, used⟩, _⟩ := hkeeps trivial
  obtain ⟨_, rfl⟩ := (conducted.accords thread).sees.known fields known
  obtain ⟨S', coherent, _, permits⟩ := run.permits step
  obtain ⟨hfd, fields, known, live⟩ := permits
  obtain ⟨_, rfl⟩ := coherent.locked.fields_eq known
  have closing : trace.IsClosing thread :=
    (conducted.accords thread).isClosing (by rw [shutting]; rfl)
  refine ⟨Option.some.inj hfd, closing, used, ?_, fun t g hmem => ?_⟩
  · refine coherent.releasedBy.unstarted fun killed => ?_
    simp [killed, Lifecycle.isLive] at live
  · obtain ⟨⟨rest, hfirst, _⟩, _, inside⟩ :=
      (conducted.accords t).wakes g hmem
    obtain ⟨rest', hfirst', _⟩ := closing
    rw [hfirst] at hfirst'
    cases hfirst'
    obtain ⟨_, _, calling⟩ := inside shutting
    cases running.symm.trans calling

/-! ## No new users -/

theorem Trace.HasLocked.append (h : trace.HasLocked) (events : Trace) :
    Trace.HasLocked (trace ++ events) := by
  obtain ⟨thread, rest, hfirst, hmem⟩ := h
  exact ⟨thread, rest ++ events, by rw [Trace.firstClose?_append, hfirst],
    List.mem_append_left _ hmem⟩

/-- Between the first close taking the state lock and giving it up, nobody else
writes the fields, and it does not record anybody; after that, the channel is
not live. -/
theorem Step.slot_of_hasLocked {events : Trace} {direction : Direction}
    (step : Step fd c events c')
    (run : Run fd trace c) (locked : trace.HasLocked)
    (filled : c'.channel.fields.slot direction = some user) :
    c.channel.fields.slot direction = some user := by
  obtain rfl | ⟨event, rfl⟩ := step.events
  · rwa [← step.fields_eq run fun _ _ => nofun]
  obtain before | ⟨rfl, live⟩ := step.slot_of run filled
  · exact before
  obtain ⟨S, conducted, keeps⟩ := run.conducted
  obtain ⟨_, _, _, operation, next, running⟩ := step.put
  have hkeeps := keeps user
  rw [running] at hkeeps
  obtain ⟨⟨_, fields, known, enters | slots⟩, _⟩ := hkeeps trivial
  · -- the thread that shuts the channel down would have to be the user
    obtain ⟨thread, rest, hfirst, hmem⟩ := locked
    obtain ⟨held, _⟩ := (conducted.accords user).sees.known fields known
    have accords := conducted.accords thread
    exfalso
    obtain shutting | shut := accords.shuts rest hfirst
    · have down : (S thread).IsShuttingDown := by
        cases h : (S thread).stage with
        | opened =>
            have since := accords.leads.since (by rw [h]; rfl) hfirst
            exact absurd hmem (since.2.2 h)
        | shutting => exact .inl h
        | woken => exact .inr h
        | _ => rw [h] at shutting; cases shutting
      obtain rfl : user = thread :=
        Option.some.inj (held.symm.trans (accords.sees.locked down))
      rw [Conduct.IsShuttingDown, enters.1] at down
      simp at down
    · obtain ⟨S', coherent, _⟩ := run.coherent
      cases live.symm.trans (coherent.not_live ⟨thread, rest, hfirst, shut⟩)
  · obtain ⟨_, rfl⟩ := (conducted.accords user).sees.known fields known
    exact slots direction user filled

theorem Steps.slot_of_hasLocked {direction : Direction}
    (steps : Steps fd c after c') (run : Run fd trace c)
    (locked : trace.HasLocked)
    (filled : c'.channel.fields.slot direction = some user) :
    c.channel.fields.slot direction = some user := by
  induction steps with
  | refl => exact filled
  | tail steps step ih =>
      exact ih (step.slot_of_hasLocked (run.steps steps) (locked.append _)
        filled)

/-! ## When the first close has returned -/

/-- The first close that has returned has shut the channel down, and has left
no user unless a signal has failed. -/
theorem Run.returned (run : Run fd trace c) (returned : trace.HasReturned) :
    trace.HasShutDown ∧ (trace.HasReached → c.IsDeserted fd trace) := by
  obtain ⟨thread, rest, hfirst, event, hmem, hthread, goes_on⟩ := returned
  obtain ⟨S, conducted, _⟩ := run.conducted
  have accords := conducted.accords thread
  have calm : (S thread).stage.isBusy = false := by
    by_contra busy
    have busy : (S thread).stage.isBusy = true := by simpa using busy
    obtain ⟨within, low, _⟩ :=
      accords.leads.since (Stage.isFirst_of_isBusy busy) hfirst
    obtain boundary | ⟨lock, hlock, rfl⟩ := goes_on
    · cases boundary.symm.trans
        (within event (Trace.mem_own.mpr ⟨hmem, hthread⟩))
    · exact hlock (low busy lock hmem)
  refine ⟨⟨thread, rest, hfirst, accords.shuts.released calm hfirst⟩,
    fun reached => ?_⟩
  obtain busy | deserted | ⟨user, error, hmem⟩ := accords.empties rest hfirst
  · cases calm.symm.trans busy
  · exact deserted
  · obtain ⟨before, rfl⟩ := Trace.eq_of_firstClose? hfirst
    exact absurd (List.mem_append_right _ (List.mem_cons_of_mem _ hmem))
      (reached thread user error)

theorem Steps.stays_deserted (steps : Steps fd c after c')
    (run : Run fd trace c) (shutDown : trace.HasShutDown)
    (deserted : c.IsDeserted fd trace) :
    c'.IsDeserted fd (trace ++ after) := by
  induction steps with
  | refl => simpa using deserted
  | @tail past events c₁ c₂ steps step ih =>
      obtain rfl | ⟨event, rfl⟩ := step.events
      · rw [List.append_nil]
        have goes := fun t => step.operation?_eq t fun _ hmem => by cases hmem
        cases step with
        | unroll => exact ih.frame rfl goes
      · rw [← List.append_assoc]
        exact step.stays_deserted (run.steps steps) (shutDown.append _) ih

/-- Nobody is inside a call on the descriptor of a channel that is deserted, but
for giving up its last registration. -/
theorem Run.calls_of_deserted (run : Run fd trace c)
    (shutDown : trace.HasShutDown) (deserted : c.IsDeserted fd trace)
    {operation : Channel.Operation}
    {next : call.Answer → Program Channel.Reply}
    (calling : c.activity thread = .calling operation call next) :
    call.isBlocking = false ∧ (call.fd? = some fd →
      call = .close fd ∧ operation.takesGuard = true) := by
  obtain ⟨S, coherent, keeps⟩ := run.coherent
  have hkeeps := keeps thread
  rw [calling] at hkeeps
  have permits : (S thread).Permits fd call := (hkeeps trivial).2.1
  have unblocked : call.isBlocking = false := by
    by_contra blocking
    unfold Standing.Permits at permits
    rw [if_pos (by simpa using blocking)] at permits
    obtain ⟨direction, inside⟩ := Option.ne_none_iff_exists'.mp permits.2.2
    have filled := (coherent.recorded.slot thread direction).mp inside
    simp [Fields.threads_eq_nil.mp deserted.unused direction] at filled
  refine ⟨unblocked, fun hfd => ?_⟩
  unfold Standing.Permits at permits
  rw [if_neg (by simp [unblocked])] at permits
  split at permits
  · obtain ⟨rfl, owes⟩ := permits
    obtain ⟨killed, held⟩ := coherent.phased.releaser thread owes
    have unreleased : ¬trace.HasReleased _ := fun released => by
      cases owes.symm.trans ((coherent.releasedBy.final released).2 thread)
    obtain ⟨operation', current, takesGuard⟩ :=
      deserted.due thread held (.inr ⟨killed, unreleased⟩)
    rw [calling] at current
    cases current
    exact ⟨rfl, takesGuard⟩
  · cases hfd
  · obtain ⟨_, fields, known, live⟩ := permits
    obtain ⟨_, rfl⟩ := coherent.locked.fields_eq known
    cases live.symm.trans (coherent.not_live shutDown)

end Signals

/-- In every run: while a signal is sent, it goes to a thread that is recorded
as a user, in the middle of the operation that has recorded it, and comes from
the first thread that closes the channel, which is another one, when the channel
is closed.  The users are woken once at most, by that thread, too, if there are
any, and before the descriptor is released.  Once the first close has entered
its locked part, no user is recorded anymore.  When it has returned and no
signal has failed, there are no users, and never will be: no thread is inside a
call in which it may be blocked, nor in any on the descriptor, but for its
release by a thread that gives up the last registration. -/
theorem users_signalled_until_gone {fd : Fd} {trace : Trace} {c : Config}
    (run : Run fd trace c) :
    (∀ thread operation user next,
      c.activity thread = .calling operation (.signal user) next →
      (user ∈ c.channel.fields.threads ∧ c.IsUsing user trace) ∧
        user ≠ thread ∧ c.channel.isOpen = false ∧ trace.IsClosing thread) ∧
      (∀ thread other c', Step fd c [.called thread (.wake other)] c' →
        other = fd ∧ trace.IsClosing thread ∧
          c.channel.fields.threads ≠ [] ∧ ¬trace.HasStarted ∧
          ∀ t g, .called t (.wake g) ∉ trace) ∧
      (trace.HasLocked → ∀ after c', Steps fd c after c' →
        ∀ direction user, c'.channel.fields.slot direction = some user →
          c.channel.fields.slot direction = some user) ∧
      (trace.HasReturned → trace.HasReached →
        ∀ after c', Steps fd c after c' →
          c'.channel.fields.threads = [] ∧
          ∀ thread operation call next,
            c'.activity thread = .calling operation call next →
            call.isBlocking = false ∧ (call.fd? = some fd →
              call = .close fd ∧ operation.takesGuard = true)) := by
  refine ⟨fun _ _ _ _ calling => run.signals calling,
    fun _ _ _ step => run.wakes step,
    fun locked _ _ steps _ _ => steps.slot_of_hasLocked run locked, ?_⟩
  intro returned reached after c' steps
  obtain ⟨shutDown, deserted⟩ := run.returned returned
  have left := steps.stays_deserted run shutDown (deserted reached)
  exact ⟨left.unused, fun _ _ _ _ =>
    (run.steps steps).calls_of_deserted (shutDown.append after) left⟩

/-- A thread is inside a read when another one closes the channel, and is
signalled. -/
def untilSignal : List Move :=
  [[.begin 1 (.read ⟨[0, 0], 0⟩)], Move.steps 1 10, [.begin 2 .close],
    Move.steps 2 5, [.answer 2 fun _ => .error (.code Errno.notConnected)],
    Move.steps 2 7].flatten

/-- It leaves, and releases the descriptor, before the close returns. -/
def untilGone : List Move :=
  untilSignal ++
    [[.answer 2 fun
      | .signal _ => .ok ()
      | _ => .error (.code Errno.notConnected)], Move.steps 2 2,
      [.answer 1 fun _ => .error (.code Errno.again)], Move.steps 1 7,
      [.answer 1 fun _ => .error (.code Errno.badDescriptor)],
      Move.steps 1 4, Move.steps 2 5].flatten

theorem untilSignal_isSome :
    ((Config.start (.owning 3 .connected true)).play 3 untilSignal).isSome =
    true := by
  decide +kernel

theorem untilGone_isSome :
    ((Config.start (.owning 3 .connected true)).play 3 untilGone).isSome =
    true := by
  decide +kernel

def signalledReader : Trace × Config :=
  ((Config.start (.owning 3 .connected true)).play 3 untilSignal).get
    untilSignal_isSome

def goneReader : Trace × Config :=
  ((Config.start (.owning 3 .connected true)).play 3 untilGone).get
    untilGone_isSome

theorem run_signalledReader : Run 3 signalledReader.1 signalledReader.2 :=
  ⟨_, .wrapped true none, Config.steps_of_play
    (Option.some_get untilSignal_isSome).symm⟩

theorem run_goneReader : Run 3 goneReader.1 goneReader.2 :=
  ⟨_, .wrapped true none, Config.steps_of_play
    (Option.some_get untilGone_isSome).symm⟩

theorem reader_signalled_until_gone :
    Run 3 signalledReader.1 signalledReader.2 ∧
      (∃ next, signalledReader.2.activity 2 =
        .calling .close (.signal 1) next) ∧
      signalledReader.2.IsUsing 1 signalledReader.1 ∧
      Run 3 goneReader.1 goneReader.2 ∧ goneReader.1.HasReturned ∧
      goneReader.1.HasReached ∧
      goneReader.2.channel.fields.threads = [] := by
  have calling : signalledReader.2.activity 2 =
      .calling .close (.signal 1) _ := rfl
  have returned : goneReader.1.HasReturned :=
    ⟨2, _, rfl, .ended 2 .close .finished,
      List.mem_of_getElem? (i := 29) rfl, rfl, .inl rfl⟩
  have reached : goneReader.1.HasReached := Trace.hasReached_of_all rfl
  have signalled :=
    (users_signalled_until_gone run_signalledReader).1 2 _ 1 _ calling
  have gone :=
    (users_signalled_until_gone run_goneReader).2.2.2 returned reached
  exact ⟨run_signalledReader, ⟨_, calling⟩, signalled.1.2, run_goneReader,
    returned, reached, (gone _ _ .refl).1⟩

end LocalSocket
