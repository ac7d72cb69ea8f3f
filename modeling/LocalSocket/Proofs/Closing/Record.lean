import LocalSocket.Proofs.Closing.Operations
import LocalSocket.Proofs.Closing.Stages
import LocalSocket.Proofs.Closing.Users

/-!
# What has happened while a channel was closed

In every run, the conduct of a thread agrees with the channel and with the
trace: what the thread knows of the fields is so, it is recorded as a user only
while it may be one, and its stage tells how far the first close has got.
-/

namespace LocalSocket

open Function (update)

/-! ## Agreement -/

/-- What the thread knows of the fields is so, and it holds the state lock where
it has to. -/
structure Conduct.Sees (s : Conduct) (thread : Thread) (channel : Channel) :
    Prop where
  known : ∀ fields, s.known = some fields →
    channel.locks.state = some thread ∧ fields = channel.fields
  locked : s.IsShuttingDown → channel.locks.state = some thread

/-- A thread is recorded as a user while it is inside an operation in which it
may be blocked, and in which it has recorded itself. -/
def Conduct.Uses (s : Conduct) (thread : Thread) (trace : Trace)
    (fields : Fields) : Prop :=
  ∀ direction, fields.slot direction = some thread →
    s.stage = .untried ∧
    (∃ operation, s.operation = some operation ∧ operation.isAloof = false) ∧
    ∃ fields', .acted thread (.put fields') ∈ trace.inside thread ∧
      fields'.slot direction = some thread

/-- An attempt to release the descriptor has failed in the operation that the
thread is in. -/
def Conduct.Fails (s : Conduct) (thread : Thread) (trace : Trace) : Prop :=
  ∀ fd error, s.failure = some (fd, error) → error.isInterrupted = false ∧
    ∃ before after : Trace,
      trace = before ++ .answered thread (.close fd) (.error error) :: after ∧
      after.IsWithin thread

/-- The thread has closed the channel, in the operation that it is in. -/
def Trace.IsClosing (thread : Thread) (trace : Trace) : Prop :=
  ∃ rest, trace.firstClose? = some (thread, rest) ∧ rest.IsWithin thread

/-- A thread that signals users finds nothing that is due. -/
def Conduct.Relies (s : Conduct) (fd : Fd) (thread : Thread) (trace : Trace)
    (c : Config) : Prop :=
  s.stage = .waking → c.channel.locks.state = some thread → ¬c.IsDue fd trace

structure Conduct.Accords (s : Conduct) (fd : Fd) (thread : Thread)
    (trace : Trace) (c : Config) : Prop where
  current : s.operation = (c.activity thread).operation?
  sees : s.Sees thread c.channel
  relies : s.Relies fd thread trace c
  uses : s.Uses thread trace c.channel.fields
  fails : s.Fails thread trace
  leads : s.stage.Leads thread trace
  shuts : s.stage.Shuts thread trace
  wakes : s.stage.Wakes thread trace (c.activity thread)
  empties : s.stage.Empties thread trace (c.IsDeserted fd trace)
  yields : s.stage.Yields thread trace

section Agreement

variable {fd : Fd} {trace : Trace} {c c' : Config} {thread : Thread}
  {event : Event} {s s' : Conduct}

theorem Conduct.Allows.of_late {action : Action} (allows : s.Allows action)
    (late : s.stage = .late) : s.operation ≠ some .close ∧
      ∃ lock, lock ≠ .state ∧ action = .release lock := by
  cases action with
  | release lock =>
      cases lock with
      | state => exact absurd late allows.1
      | read => exact ⟨allows.2 late, .read, nofun, rfl⟩
      | write => exact ⟨allows.2 late, .write, nofun, rfl⟩
  | put fields => exact absurd late (allows.1.ne (by decide))
  | closeOnce => cases late.symm.trans allows
  | call call =>
      cases call with
      | signal => cases late.symm.trans allows
      | wake => cases late.symm.trans allows.1
      | _ => exact absurd late allows
  | _ => exact absurd late allows

theorem Conduct.Evolves.yields (evolves : s.Evolves thread c.channel event s')
    (hthread : event.thread = thread) (late : s.stage = .late)
    (inside : event.isBoundary = false) :
    ∃ lock, lock ≠ .state ∧ event = .acted thread (.release lock) := by
  subst hthread
  cases event with
  | began | ended => cases inside
  | acted _ action =>
      obtain ⟨_, lock, low, rfl⟩ := (evolves.may action rfl).of_late late
      exact ⟨lock, low, rfl⟩
  | called _ call =>
      obtain ⟨_, lock, _, h⟩ := (evolves.may (.call call) rfl).of_late late
      cases h
  | answered _ call answer =>
      obtain ⟨_, lock, _, h⟩ := (evolves.may (.call call) rfl).of_late late
      cases h

theorem Conduct.Sees.step (sees : s.Sees thread c.channel)
    (step : Step fd c [event] c') (run : Run fd trace c)
    (evolves : s.Evolves thread c.channel event s') :
    s'.Sees thread c'.channel := by
  refine ⟨fun fields known => ?_, fun down => ?_⟩
  · obtain ⟨known, _, stays, unwritten⟩ | ⟨rfl, rfl⟩ | rfl :=
      evolves.known fields known
    · obtain ⟨held, rfl⟩ := sees.known fields known
      obtain ⟨held', same⟩ := step.spares_holder run held stays
      exact ⟨held', (same unwritten).symm⟩
    · cases step with
      | act running answered =>
          cases answered
          exact ⟨(run.holder_of_running running).2.1 rfl, rfl⟩
    · obtain ⟨_, fields', known, _⟩ := evolves.may _ rfl
      obtain ⟨held, _⟩ := sees.known fields' known
      obtain ⟨hchannel, _⟩ := step.put
      simp [hchannel, held]
  · obtain rfl | ⟨down, stays⟩ := evolves.stage.of_shuttingDown down
    · cases step with
      | act running answered =>
          obtain ⟨_, rfl⟩ := Channel.answer_acquire answered
          rfl
    · exact (step.spares_holder run (sees.locked down) stays).1

theorem Conduct.Relies.append_other (relies : s.Relies fd thread trace c)
    (step : Step fd c [event] c') (run : Run fd trace c)
    (hthread : event.thread ≠ thread) :
    s.Relies fd thread (trace ++ [event]) c' := by
  have other : ∀ action, event ≠ .acted thread action := by
    rintro action rfl
    exact hthread rfl
  intro waking held' due'
  have held := (step.held_before run held').resolve_right fun h => other _ h.1
  exact relies waking held (due'.mono
    ((step.spares_holder run held (other _)).2 fun _ => other _))

theorem Conduct.Relies.step (relies : s.Relies fd thread trace c)
    (step : Step fd c [event] c') (run : Run fd trace c)
    (evolves : s.Evolves thread c.channel event s') :
    s'.Relies fd thread (trace ++ [event]) c' := by
  intro waking' held' due'
  obtain rfl | waking := evolves.stage.of_waking waking'
  · cases step with
    | act running answered =>
        cases answered
        cases held'
  · have due := due'.mono (step.fields_eq run fun other fields h => by
      obtain rfl : event = .acted other (.put fields) := by simpa using h
      exact (evolves.may _ rfl).1.ne (by decide) waking)
    have held := (step.held_before run held').resolve_right
      fun ⟨_, free⟩ => run.not_due free due
    exact relies waking held due

theorem Conduct.Uses.append_other (uses : s.Uses thread trace c.channel.fields)
    (step : Step fd c [event] c') (run : Run fd trace c)
    (hthread : event.thread ≠ thread) :
    s.Uses thread (trace ++ [event]) c'.channel.fields := by
  intro direction filled
  rw [Trace.inside_other hthread]
  obtain filled | ⟨rfl, _⟩ := step.slot_of run filled
  · exact uses direction filled
  · exact absurd rfl hthread

theorem Conduct.Uses.step (uses : s.Uses thread trace c.channel.fields)
    (sees : s.Sees thread c.channel) (step : Step fd c [event] c')
    (run : Run fd trace c) (hthread : event.thread = thread)
    (evolves : s.Evolves thread c.channel event s')
    (same : event.isBoundary = false → s'.operation = s.operation) :
    s'.Uses thread (trace ++ [event]) c'.channel.fields := by
  subst hthread
  intro direction filled
  -- it has been recorded before, unless it records itself
  have before : c.channel.fields.slot direction = some event.thread →
      s'.stage = .untried ∧
      (∃ operation, s'.operation = some operation ∧
        operation.isAloof = false) ∧
      ∃ fields', .acted event.thread (.put fields') ∈
          Trace.inside event.thread (trace ++ [event]) ∧
        fields'.slot direction = some event.thread := by
    intro filled
    obtain ⟨inside, apart⟩ := step.inside_of_slot run filled
    obtain ⟨untried, current, fields', hmem, recorded⟩ := uses direction filled
    refine ⟨?_, by rwa [same inside], fields', ?_, recorded⟩
    · exact evolves.stage.of_untried untried apart
    · rw [Trace.inside_same rfl inside]
      exact List.mem_append_left _ hmem
  obtain filled' | ⟨hevent, _⟩ := step.slot_of run filled
  · exact before filled'
  · obtain ⟨_, fields', known, enters | slots⟩ := evolves.may _
      (congrArg Event.action? hevent)
    · obtain ⟨untried, current⟩ := enters
      have inside : event.isBoundary = false := by rw [hevent]; rfl
      refine ⟨?_, by rwa [same inside], c'.channel.fields, ?_, filled⟩
      · exact evolves.stage.of_untried untried (by rw [hevent]; nofun)
      · rw [Trace.inside_same rfl inside, ← hevent]
        simp
    · obtain ⟨_, rfl⟩ := sees.known fields' known
      exact before (slots direction _ filled)

theorem Conduct.Fails.append_other (fails : s.Fails thread trace)
    (hthread : event.thread ≠ thread) :
    s.Fails thread (trace ++ [event]) := by
  intro fd error failure
  obtain ⟨final, before, after, rfl, within⟩ := fails fd error failure
  exact ⟨final, before, after ++ [event], by simp,
    within.concat fun h => absurd h hthread⟩

theorem Conduct.Fails.step (fails : s.Fails thread trace)
    (evolves : s.Evolves thread c.channel event s') :
    s'.Fails thread (trace ++ [event]) := by
  intro fd error failure
  obtain ⟨failure, inside⟩ | ⟨rfl, final⟩ := evolves.failure fd error failure
  · obtain ⟨final, before, after, rfl, within⟩ := fails fd error failure
    exact ⟨final, before, after ++ [event], by simp,
      within.concat fun _ => inside⟩
  · exact ⟨final, trace, [], rfl, fun _ hmem => by cases hmem⟩

theorem Run.unopened (run : Run fd trace c) :
    c.channel.isOpen = true ↔ trace.firstClose? = none := by
  obtain ⟨S, coherent, _⟩ := run.coherent
  exact coherent.closedBy.opened

namespace Conduct.Accords

theorem isClosing (accords : s.Accords fd thread trace c)
    (first : s.stage.isFirst = true) : trace.IsClosing thread := by
  obtain ⟨rest, hfirst, within, _⟩ := accords.leads first
  exact ⟨rest, hfirst, within⟩

/-- The channel stays deserted once a thread is done with closing it. -/
theorem deserted (accords : s.Accords fd thread trace c)
    (step : Step fd c [event] c') (run : Run fd trace c)
    (calm : s.stage.isBusy = false) {rest : Trace}
    (hfirst : trace.firstClose? = some (thread, rest))
    (deserted : c.IsDeserted fd trace) :
    c'.IsDeserted fd (trace ++ [event]) := by
  have released := accords.shuts.released calm hfirst
  exact step.stays_deserted run ⟨thread, rest, hfirst, released⟩ deserted

theorem append_other (accords : s.Accords fd thread trace c)
    (step : Step fd c [event] c') (run : Run fd trace c)
    (hthread : event.thread ≠ thread) :
    s.Accords fd thread (trace ++ [event]) c' where
  current := by rw [accords.current, step.others (Ne.symm hthread)]
  sees := by
    have other : ∀ action, event ≠ .acted thread action := by
      rintro action rfl
      exact hthread rfl
    refine ⟨fun fields known => ?_, fun down => ?_⟩
    · obtain ⟨held, rfl⟩ := accords.sees.known fields known
      obtain ⟨held', same⟩ := step.spares_holder run held (other _)
      exact ⟨held', (same fun _ => other _).symm⟩
    · exact (step.spares_holder run (accords.sees.locked down) (other _)).1
  relies := accords.relies.append_other step run hthread
  uses := accords.uses.append_other step run hthread
  fails := accords.fails.append_other hthread
  leads := accords.leads.append_other hthread
  shuts := accords.shuts.append_other hthread
  wakes := by
    rw [step.others (Ne.symm hthread)]
    exact accords.wakes.append_other hthread
  empties := accords.empties.append_other hthread
    fun calm _ hfirst => accords.deserted step run calm hfirst
  yields := accords.yields.append_other hthread

theorem step (accords : s.Accords fd thread trace c)
    (step : Step fd c [event] c') (run : Run fd trace c)
    (hthread : event.thread = thread)
    (evolves : s.Evolves thread c.channel event s')
    (current : s'.operation = (c'.activity thread).operation?) :
    s'.Accords fd thread (trace ++ [event]) c' where
  current := current
  sees := accords.sees.step step run evolves
  relies := accords.relies.step step run evolves
  uses := by
    refine accords.uses.step accords.sees step run hthread evolves
      fun inside => ?_
    rw [current, accords.current]
    refine step.operation?_eq thread fun other hmem _ => ?_
    rwa [List.mem_singleton.mp hmem]
  fails := accords.fails.step evolves
  leads := by
    refine accords.leads.advance evolves.stage run.unopened.mp ?_
    rintro busy lock rfl
    have allows := evolves.may _ rfl
    cases lock with
    | state => rfl
    | read | write => cases busy.symm.trans allows.1
  shuts := accords.shuts.advance evolves.stage run.unopened.mpr
  wakes := by
    refine accords.wakes.advance evolves.stage accords.leads run.unopened.mp
      ?_ ?_
    · rintro other rfl
      refine ⟨(evolves.may _ rfl).1, ?_⟩
      cases step with
      | call running => exact ⟨_, _, Function.update_self ..⟩
    · intro other operation next calling
      subst hthread
      cases step with
      | answer answer calling' =>
          rw [Event.thread, calling'] at calling
          cases calling
          exact ⟨answer, rfl⟩
      | begin idle | drop idle =>
          simp only [Event.thread, idle] at calling
          cases calling
      | act running | pause running | call running | finish running =>
          rw [Event.thread, running] at calling
          cases calling
  empties := by
    refine accords.empties.advance evolves.stage run.unopened.mpr ?_
      fun calm _ hfirst => accords.deserted step run calm hfirst
    rintro waking rfl unused
    cases step with
    | act running answered =>
        cases answered
        have held := (run.holder_of_running running).2.1 rfl
        refine ⟨unused, fun t held' due => ?_⟩
        exact absurd (due.mono rfl) (accords.relies waking held)
  yields := accords.yields.advance evolves.stage hthread run.unopened.mp
    (evolves.yields hthread)

end Conduct.Accords

end Agreement

/-! ## Runs -/

structure Conducted (fd : Fd) (trace : Trace) (c : Config)
    (S : Thread → Conduct) : Prop where
  run : Run fd trace c
  accords : ∀ t, (S t).Accords fd t trace c

theorem Conducted.step {fd : Fd} {trace : Trace} {c c' : Config}
    {S : Thread → Conduct} {thread : Thread} {event : Event} {s' : Conduct}
    (conducted : Conducted fd trace c S) (step : Step fd c [event] c')
    (hthread : event.thread = thread)
    (evolves : (S thread).Evolves thread c.channel event s')
    (current : s'.operation = (c'.activity thread).operation?) :
    Conducted fd (trace ++ [event]) c' (update S thread s') where
  run := conducted.run.step step
  accords t := by
    by_cases ht : t = thread
    · subst ht
      simpa using (conducted.accords t).step step conducted.run hthread
        evolves current
    · rw [Function.update_of_ne ht]
      exact (conducted.accords t).append_other step conducted.run
        (hthread ▸ Ne.symm ht)

theorem conducted_preserved (fd : Fd) :
    conduct.Preserves fd (Conducted fd) where
  begin := by
    intro trace c S thread operation conducted _ idle rest isLive hasGuard
    refine conducted.step (.begin idle isLive hasGuard) rfl
      (.boundary rfl ?_) (by simp)
    rw [rest]
    rfl
  drop := by
    intro trace c S thread conducted _ idle rest unguarded isLive
    refine conducted.step (.drop idle unguarded isLive) rfl
      (.boundary rfl ?_) (by simp)
    rw [rest thread]
    rfl
  act := by
    intro trace c S thread operation action channel result next k conducted _
      running answered takes
    obtain ⟨allows, hk⟩ := takes trivial
    refine ⟨_, fun _ => hk result, conducted.step (.act running answered) rfl
      (allows.evolves_acted answered) ?_⟩
    have current := (conducted.accords thread).current
    rw [running] at current
    simp [Conduct.after_operation, current]
  pause := by
    intro trace c S thread operation next k conducted _ running takes
    obtain ⟨allows, hk⟩ := takes trivial
    refine ⟨S thread, fun _ => hk (), conducted.step (.pause running) rfl
      (.stay rfl ?_ ?_ fun _ _ => nofun) ?_⟩
    · rintro _ ⟨⟩
      exact allows
    · rintro _ ⟨⟩
      rfl
    · have current := (conducted.accords thread).current
      rw [running] at current
      simp [current]
  unroll := by
    intro trace c S thread operation β body next conducted _ running
    refine ⟨by simpa using conducted.run.step (.unroll running), fun t => ?_⟩
    have unrolled : Step fd c [] _ := .unroll running
    have goes := fun u => unrolled.operation?_eq u fun _ hmem => by cases hmem
    by_cases ht : t = thread
    · subst ht
      have accords := conducted.accords t
      refine { accords with
        current := ?_
        wakes := fun other hmem => ?_
        empties := fun rest hfirst => (accords.empties rest hfirst).imp_right
          (Or.imp_left fun deserted => deserted.frame rfl goes) }
      · rw [accords.current, running]
        simp
      · obtain ⟨first, unlike, inside⟩ := accords.wakes other hmem
        refine ⟨first, unlike, fun shutting => ?_⟩
        obtain ⟨operation, next, calling⟩ := inside shutting
        rw [running] at calling
        cases calling
    · have accords := conducted.accords t
      exact { accords with
        current := by simpa [ht] using accords.current
        wakes := by simpa [ht] using accords.wakes
        empties := fun rest hfirst => (accords.empties rest hfirst).imp_right
          (Or.imp_left fun deserted => deserted.frame rfl goes) }
  call := by
    intro trace c S thread operation call next k conducted _ running takes
    obtain ⟨allows, _⟩ := takes trivial
    rw [← Function.update_eq_self thread S]
    refine conducted.step (.call running) rfl
      (.stay rfl ?_ (fun _ => nofun) fun _ _ => nofun) ?_
    · rintro _ ⟨⟩
      exact allows
    · have current := (conducted.accords thread).current
      rw [running] at current
      simp [current]
  answer := by
    intro trace c S thread operation call next k answer conducted _ calling _
      takes
    obtain ⟨allows, hk⟩ := takes trivial
    refine ⟨_, fun _ => hk answer, conducted.step (.answer answer calling) rfl
      (allows.evolves_answered answer) ?_⟩
    have current := (conducted.accords thread).current
    rw [calling] at current
    simp [Conduct.after_operation, current]
  finish := by
    intro trace c S thread operation reply conducted _ running closes
    exact conducted.step (.finish running) rfl
      (.boundary rfl (closes trivial).1)
      (by simp)

theorem Conducted.start {fd : Fd} {channel : Channel}
    (fresh : channel.IsFresh fd) :
    Conducted fd [] (.start channel) fun _ => {} where
  run := .start fresh
  accords t := by
    have unused : ∀ direction, channel.fields.slot direction = none := by
      intro direction
      cases fresh <;> cases direction <;> rfl
    exact {
      current := rfl
      sees := ⟨fun _ => nofun, fun down => by
        simp [Conduct.IsShuttingDown] at down⟩
      relies := nofun
      uses := fun direction filled => by
        cases (unused direction).symm.trans filled
      fails := fun _ _ => nofun
      leads := nofun
      shuts := fun _ => nofun
      wakes := fun _ hmem => by cases hmem
      empties := fun _ => nofun
      yields := fun before rest htrace => by simp at htrace }

theorem Run.conducted {fd : Fd} {trace : Trace} {c : Config}
    (run : Run fd trace c) : ∃ S, Conducted fd trace c S ∧
      ∀ t, conduct.Keeps t (S t) (c.activity t) :=
  Protocol.run (Conduct.obeyed fd) (conducted_preserved fd)
    (fun _ fresh => .start fresh) run fun _ _ _ _ => trivial

end LocalSocket
