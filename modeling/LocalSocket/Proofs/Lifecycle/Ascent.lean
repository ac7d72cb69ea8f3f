import LocalSocket.Proofs.AsynchronousClose
import LocalSocket.Proofs.Lifecycle.Operations

/-!
# The lifecycle only ascends

In every run, what threads know of the lifecycle is so, whatever the others do.
It follows that a channel that is connected never reverts, and that one that has
been closed never revives.
-/

namespace LocalSocket

open Function (update)

/-- Earlier attempts to connect have nothing to do with what follows. -/
def Event.startsOver : Event → Bool
  | .began .. | .answered _ (.connect ..) _ => true
  | _ => false

/-- The last connect call of the operation that the thread is in has been
answered so, and if `found`, the thread has looked since whether the channel is
open, before it was closed. -/
def Trace.Attempted (fd : Fd) (thread : Thread) (answer : Except OsError Unit)
    (found : Bool) (trace : Trace) : Prop :=
  ∃ past record since,
    trace = past ++ .answered thread (.connect fd record) answer :: since ∧
    (∀ event ∈ since, event.thread = thread → event.startsOver = false) ∧
    (found = true → ∃ before after,
      since = before ++ .acted thread .isOpen :: after ∧
      Trace.firstClose?
        (past ++ .answered thread (.connect fd record) answer :: before) = none)

namespace Trace

variable {fd : Fd} {trace : Trace} {thread : Thread}
  {answer : Except OsError Unit} {found : Bool} {event : Event}

theorem attempted_answered {record : Record} : Trace.Attempted fd thread answer
    false (trace ++ [.answered thread (.connect fd record) answer]) :=
  ⟨trace, record, [], rfl, by simp, by simp⟩

theorem Attempted.append (h : trace.Attempted fd thread answer found)
    (hevent : event.thread = thread → event.startsOver = false) :
    Trace.Attempted fd thread answer found (trace ++ [event]) := by
  obtain ⟨past, record, since, rfl, hsince, hfound⟩ := h
  refine ⟨past, record, since ++ [event], by simp, ?_, fun hf => ?_⟩
  · intro other hmem
    obtain hmem | rfl : other ∈ since ∨ other = event := by simpa using hmem
    · exact hsince other hmem
    · exact hevent
  · obtain ⟨before, after, rfl, hopen⟩ := hfound hf
    exact ⟨before, after ++ [event], by simp, hopen⟩

theorem Attempted.find (h : trace.Attempted fd thread answer found)
    (hopen : trace.firstClose? = none) :
    Trace.Attempted fd thread answer true
      (trace ++ [.acted thread .isOpen]) := by
  obtain ⟨past, record, since, rfl, hsince, _⟩ := h
  refine ⟨past, record, since ++ [.acted thread .isOpen], by simp, ?_, fun _ =>
    ⟨since, [], rfl, hopen⟩⟩
  intro event hmem
  obtain hmem | rfl : event ∈ since ∨ event = .acted thread .isOpen := by
    simpa using hmem
  · exact hsince event hmem
  · exact fun _ => rfl

end Trace

/-- What a thread knows of the channel is so. -/
structure Knowledge.Agrees (s : Knowledge) (channel : Channel)
    (thread : Thread) : Prop where
  reads : s.holdsRead = true → channel.locks.read = some thread
  fields : ∀ fields, s.fields = some fields →
    channel.locks.state = some thread ∧ fields = channel.fields
  apart : s.apart = true → channel.locks.read = some thread ∧
    channel.fields.state.isUnattached = true

/-- What the threads know is so, and what they have learned can be read off the
trace. -/
structure Informed (fd : Fd) (trace : Trace) (c : Config)
    (S : Thread → Knowledge) : Prop where
  run : Run fd trace c
  operation : ∀ t, (S t).operation = (c.activity t).operation?
  agrees : ∀ t, (S t).Agrees c.channel t
  attempted : ∀ t answer, (S t).attempt = some answer →
    trace.Attempted fd t answer (S t).found

/-- A thread gives up only a lock that it holds, and looks at the fields only
while it holds the state lock. -/
theorem Run.holder_of_running {fd : Fd} {trace : Trace} {c : Config}
    {thread : Thread} {operation : Channel.Operation} {action : Action}
    {next : action.Result → Program Channel.Reply} (run : Run fd trace c)
    (running : c.activity thread = .running operation (.act action next)) :
    (∀ lock, action = .release lock →
      c.channel.locks.holder lock = some thread) ∧
      (action = .fields → c.channel.locks.state = some thread) ∧
      ∀ other state blocking, action ≠ .own other state blocking := by
  obtain ⟨S, coherent, keeps⟩ := run.coherent
  have hkeeps := keeps thread
  rw [running] at hkeeps
  have takes := (hkeeps trivial).2
  refine ⟨?_, ?_, ?_⟩
  · rintro lock rfl
    cases lock with
    | read => exact (coherent.locked.read thread).mp takes.1
    | write => exact (coherent.locked.write thread).mp takes.1
    | state =>
        obtain ⟨fields, hfields, _⟩ := takes
        exact (coherent.locked.fields_eq hfields).1
  · rintro rfl
    obtain ⟨fields, hfields, _⟩ := takes
    exact (coherent.locked.fields_eq hfields).1
  · rintro other state blocking rfl
    exact takes

section Agrees

variable {s : Knowledge} {channel channel' : Channel} {thread other : Thread}

theorem Knowledge.agrees_of_ignorance (h : s.holdsRead = false)
    (h' : s.fields = none) (h'' : s.apart = false) : s.Agrees channel thread :=
  ⟨by simp [h], by simp [h'], by simp [h'']⟩

/-- Knowledge is about what only its holder can change. -/
theorem Knowledge.Agrees.frame (h : s.Agrees channel thread)
    (hread : channel.locks.read = some thread →
      channel'.locks.read = some thread)
    (hstate : channel.locks.state = some thread →
      channel'.locks.state = some thread ∧ channel'.fields = channel.fields)
    (hunattached : channel.locks.read = some thread →
      channel.fields.state.isUnattached = true →
        channel'.fields.state.isUnattached = true) :
    s.Agrees channel' thread where
  reads held := hread (h.reads held)
  fields fields known := by
    obtain ⟨hlock, rfl⟩ := h.fields fields known
    obtain ⟨hlock', hsame⟩ := hstate hlock
    exact ⟨hlock', hsame.symm⟩
  apart apart := by
    obtain ⟨hlock, hstate⟩ := h.apart apart
    exact ⟨hread hlock, hunattached hlock hstate⟩

end Agrees

namespace Informed

variable {fd : Fd} {trace : Trace} {c c' : Config} {S : Thread → Knowledge}
  {thread : Thread} {operation : Channel.Operation} {s' : Knowledge}
  {event : Event}

theorem next (informed : Informed fd trace c S) (step : Step fd c [event] c')
    (hthread : event.thread = thread)
    (hothers : ∀ t, t ≠ thread → c'.activity t = c.activity t)
    (hoperation : s'.operation = (c'.activity thread).operation?)
    (hagrees : s'.Agrees c'.channel thread)
    (hframe : ∀ t, t ≠ thread → (S t).Agrees c'.channel t)
    (hattempted : ∀ answer, s'.attempt = some answer →
      Trace.Attempted fd thread answer s'.found (trace ++ [event])) :
    Informed fd (trace ++ [event]) c' (update S thread s') where
  run := informed.run.step step
  operation t := by
    by_cases ht : t = thread
    · subst ht
      simpa using hoperation
    · simpa [ht, hothers t ht] using informed.operation t
  agrees t := by
    by_cases ht : t = thread
    · subst ht
      simpa using hagrees
    · simpa [ht] using hframe t ht
  attempted t answer := by
    by_cases ht : t = thread
    · subst ht
      simpa using hattempted answer
    · intro h
      simp only [Function.update_of_ne ht] at h ⊢
      exact (informed.attempted t answer h).append fun hsame =>
        absurd (hsame.symm.trans hthread) ht

section Act

variable {action : Action} {channel : Channel} {result : action.Result}
  {next : action.Result → Program Channel.Reply}

theorem acted (informed : Informed fd trace c S)
    (running : c.activity thread = .running operation (.act action next))
    (answered : c.channel.answer thread action = .answered channel result)
    (hoperation : s'.operation = (S thread).operation)
    (hagrees : s'.Agrees channel thread)
    (hframe : ∀ t, t ≠ thread → (S t).Agrees channel t)
    (hattempted : ∀ answer, s'.attempt = some answer →
      Trace.Attempted fd thread answer s'.found
        (trace ++ [.acted thread action])) :
    Informed fd (trace ++ [.acted thread action])
      { c.set thread (.running operation (next result)) with
        channel := channel } (update S thread s') := by
  refine informed.next (.act running answered) rfl (fun t ht => ?_) ?_ hagrees
    hframe hattempted
  · simp [ht]
  · rw [hoperation, informed.operation thread, running]
    simp

/-- Actions that are not about the fields, the flag or the locks. -/
theorem acted_aside (informed : Informed fd trace c S)
    (running : c.activity thread = .running operation (.act action next))
    (answered : c.channel.answer thread action = .answered channel result)
    (hlocks : channel.locks = c.channel.locks)
    (hfields : channel.fields = c.channel.fields) :
    Informed fd (trace ++ [.acted thread action])
      { c.set thread (.running operation (next result)) with
        channel := channel } (update S thread (S thread)) := by
  have hagrees : ∀ t, (S t).Agrees channel t := fun t =>
    (informed.agrees t).frame (by simp [hlocks]) (by simp [hlocks, hfields])
      (by simp [hfields])
  exact informed.acted running answered rfl (hagrees thread)
    (fun t _ => hagrees t) fun answer h =>
      (informed.attempted thread answer h).append fun _ => rfl

theorem acquire {lock : Lock} {result : Unit}
    {next : Unit → Program Channel.Reply} {k : Unit → Knowledge → Prop}
    (informed : Informed fd trace c S)
    (running : c.activity thread =
      .running operation (.act (.acquire lock) next))
    (answered : c.channel.answer thread (.acquire lock) =
      .answered channel result)
    (takes : (S thread).Takes fd thread (.acquire lock) k) :
    ∃ s', k result s' ∧ Informed fd (trace ++ [.acted thread (.acquire lock)])
      { c.set thread (.running operation (next result)) with
        channel := channel } (update S thread s') := by
  have hanswered := answered
  obtain ⟨free, rfl⟩ := Channel.answer_acquire answered
  have hframe : ∀ t, (S t).Agrees { c.channel with
      locks := c.channel.locks.setHolder lock (some thread) } t := fun t =>
    (informed.agrees t).frame (Locks.holder_of_taken free .read)
      (fun held => ⟨Locks.holder_of_taken free .state held, rfl⟩) fun _ h => h
  have hattempted : ∀ answer, (S thread).attempt = some answer →
      Trace.Attempted fd thread answer (S thread).found
        (trace ++ [.acted thread (.acquire lock)]) :=
    fun answer h => (informed.attempted thread answer h).append fun _ => rfl
  cases lock with
  | read =>
      refine ⟨{ S thread with holdsRead := true }, takes, ?_⟩
      refine informed.acted running hanswered rfl ?_ (fun t _ => hframe t)
        hattempted
      exact ⟨fun _ => rfl, (hframe thread).fields, (hframe thread).apart⟩
  | write =>
      exact ⟨S thread, takes, informed.acted running hanswered rfl
        (hframe thread) (fun t _ => hframe t) hattempted⟩
  | state =>
      exact ⟨S thread, takes, informed.acted running hanswered rfl
        (hframe thread) (fun t _ => hframe t) hattempted⟩

theorem release {lock : Lock} {result : Unit}
    {next : Unit → Program Channel.Reply} {k : Unit → Knowledge → Prop}
    (informed : Informed fd trace c S)
    (running : c.activity thread =
      .running operation (.act (.release lock) next))
    (answered : c.channel.answer thread (.release lock) =
      .answered channel result)
    (takes : (S thread).Takes fd thread (.release lock) k) :
    ∃ s', k result s' ∧ Informed fd (trace ++ [.acted thread (.release lock)])
      { c.set thread (.running operation (next result)) with
        channel := channel } (update S thread s') := by
  have hanswered := answered
  cases answered
  have held := (informed.run.holder_of_running running).1 lock rfl
  have hframe : ∀ t, t ≠ thread → (S t).Agrees { c.channel with
      locks := c.channel.locks.setHolder lock none } t := by
    intro t ht
    exact (informed.agrees t).frame (Locks.holder_of_given held ht .read)
      (fun h => ⟨Locks.holder_of_given held ht .state h, rfl⟩) fun _ h => h
  have hattempted : ∀ answer, (S thread).attempt = some answer →
      Trace.Attempted fd thread answer (S thread).found
        (trace ++ [.acted thread (.release lock)]) :=
    fun answer h => (informed.attempted thread answer h).append fun _ => rfl
  have hagrees := informed.agrees thread
  cases lock with
  | read =>
      refine ⟨{ S thread with holdsRead := false, apart := false }, takes, ?_⟩
      refine informed.acted running hanswered rfl ?_ hframe hattempted
      exact ⟨by simp, hagrees.fields, by simp⟩
  | write =>
      exact ⟨S thread, takes, informed.acted running hanswered rfl
        ⟨hagrees.reads, hagrees.fields, hagrees.apart⟩ hframe hattempted⟩
  | state =>
      refine ⟨{ S thread with fields := none }, takes, ?_⟩
      refine informed.acted running hanswered rfl ?_ hframe hattempted
      exact ⟨hagrees.reads, by simp, hagrees.apart⟩

theorem see {next : Fields → Program Channel.Reply}
    (informed : Informed fd trace c S)
    (running : c.activity thread = .running operation (.act .fields next)) :
    Informed fd (trace ++ [.acted thread .fields])
      { c.set thread (.running operation (next c.channel.fields)) with
        channel := c.channel }
      (update S thread ((S thread).see c.channel.fields)) := by
  have hagrees := informed.agrees thread
  refine informed.acted running rfl rfl ?_ (fun t _ => informed.agrees t)
    fun answer h => (informed.attempted thread answer h).append fun _ => rfl
  refine ⟨hagrees.reads, fun fields known => ?_, fun apart => ?_⟩
  · obtain rfl : c.channel.fields = fields := by
      simpa [Knowledge.see] using known
    exact ⟨(informed.run.holder_of_running running).2.1 rfl, rfl⟩
  · obtain apart | ⟨held, unattached⟩ : (S thread).apart = true ∨
        (S thread).holdsRead = true ∧
          c.channel.fields.state.isUnattached = true := by
      simpa [Knowledge.see] using apart
    · exact hagrees.apart apart
    · exact ⟨hagrees.reads held, unattached⟩

theorem put {fields : Fields} {next : Unit → Program Channel.Reply}
    (informed : Informed fd trace c S)
    (running : c.activity thread =
      .running operation (.act (.put fields) next))
    (known : (S thread).fields = some c.channel.fields)
    (revision : (S thread).Revision c.channel.fields fields) :
    Informed fd (trace ++ [.acted thread (.put fields)])
      { c.set thread (.running operation (next ())) with
        channel := { c.channel with fields := fields } }
      (update S thread ((S thread).write fields)) := by
  have hagrees := informed.agrees thread
  have held := (hagrees.fields _ known).1
  refine informed.acted running rfl rfl ?_ (fun t ht => ?_) fun answer h =>
    (informed.attempted thread answer h).append fun _ => rfl
  · refine ⟨hagrees.reads, fun fields' known' => ?_, fun apart => ?_⟩
    · obtain rfl : fields = fields' := by simpa [Knowledge.write] using known'
      exact ⟨held, rfl⟩
    · obtain ⟨apart, unattached⟩ : (S thread).apart = true ∧
          fields.state.isUnattached = true := by
        simpa [Knowledge.write] using apart
      exact ⟨(hagrees.apart apart).1, unattached⟩
  · refine (informed.agrees t).frame id (fun h => ?_) fun hread unattached => ?_
    · -- nobody else holds the state lock
      rw [held] at h
      exact absurd (Option.some.inj h).symm ht
    · cases revision with
      | unmoved same => rwa [same]
      | ended alive dead =>
          obtain dead | dead := dead <;> simp [dead, Lifecycle.isUnattached]
      | raised current attempt outcome found alone ascends =>
          -- nobody else holds the read lock
          rw [hagrees.reads alone] at hread
          exact absurd (Option.some.inj hread).symm ht

theorem look {next : Bool → Program Channel.Reply}
    (informed : Informed fd trace c S)
    (running : c.activity thread = .running operation (.act .isOpen next)) :
    Informed fd (trace ++ [.acted thread .isOpen])
      { c.set thread (.running operation (next c.channel.isOpen)) with
        channel := c.channel }
      (update S thread { S thread with
        found := (S thread).found || c.channel.isOpen }) := by
  obtain ⟨S', coherent, _⟩ := informed.run.coherent
  have hagrees := informed.agrees thread
  refine informed.acted running rfl rfl
    ⟨hagrees.reads, hagrees.fields, hagrees.apart⟩
    (fun t _ => informed.agrees t) fun answer h => ?_
  have hattempted := informed.attempted thread answer h
  cases hopen : c.channel.isOpen with
  | true => simpa using hattempted.find (coherent.closedBy.opened.mp hopen)
  | false => simpa using hattempted.append fun _ => rfl

theorem act {k : action.Result → Knowledge → Prop}
    (informed : Informed fd trace c S)
    (running : c.activity thread = .running operation (.act action next))
    (answered : c.channel.answer thread action = .answered channel result)
    (takes : (S thread).Takes fd thread action k) :
    ∃ s', k result s' ∧ Informed fd (trace ++ [.acted thread action])
      { c.set thread (.running operation (next result)) with
        channel := channel } (update S thread s') := by
  cases action with
  | acquire lock => exact informed.acquire running answered takes
  | release lock => exact informed.release running answered takes
  | fields =>
      cases answered
      refine ⟨_, takes c.channel.fields fun apart => ?_, informed.see running⟩
      exact ((informed.agrees thread).apart apart).2
  | put fields =>
      cases answered
      obtain ⟨fields', known, revision, hk⟩ := takes
      obtain ⟨_, rfl⟩ := (informed.agrees thread).fields fields' known
      exact ⟨_, hk, informed.put running known revision⟩
  | isOpen =>
      cases answered
      refine ⟨_, takes c.channel.isOpen fun isOpen fields known => ?_,
        informed.look running⟩
      obtain ⟨_, rfl⟩ := (informed.agrees thread).fields fields known
      obtain ⟨S', coherent, _⟩ := informed.run.coherent
      exact coherent.phased.live isOpen
  | closeOnce =>
      cases answered
      exact ⟨_, takes _, informed.acted_aside running rfl rfl rfl⟩
  | isBlocking =>
      cases answered
      exact ⟨_, takes _, informed.acted_aside running rfl rfl rfl⟩
  | setBlocking blocking =>
      cases answered
      exact ⟨_, takes, informed.acted_aside running rfl rfl rfl⟩
  | thread =>
      cases answered
      exact ⟨_, takes, informed.acted_aside running rfl rfl rfl⟩
  | own => exact takes.elim
  | pause | call => cases answered

end Act

/-- What a step does not do to the channel is known as before. -/
theorem stay (informed : Informed fd trace c S) (step : Step fd c [event] c')
    (hthread : event.thread = thread) (hchannel : c'.channel = c.channel)
    (hothers : ∀ t, t ≠ thread → c'.activity t = c.activity t)
    (hoperation : s'.operation = (c'.activity thread).operation?)
    (hagrees : s'.Agrees c.channel thread)
    (hattempted : ∀ answer, s'.attempt = some answer →
      Trace.Attempted fd thread answer s'.found (trace ++ [event])) :
    Informed fd (trace ++ [event]) c' (update S thread s') :=
  informed.next step hthread hothers hoperation (hchannel ▸ hagrees)
    (fun t _ => hchannel ▸ informed.agrees t) hattempted

end Informed

theorem informed_preserved (fd : Fd) :
    (knowing fd).Preserves fd (Informed fd) where
  begin := by
    intro trace c S thread operation informed _ idle _ isLive hasGuard
    refine informed.stay (.begin idle isLive hasGuard) rfl rfl
      (fun t ht => by simp [ht]) (by simp)
      (Knowledge.agrees_of_ignorance rfl rfl rfl) nofun
  drop := by
    intro trace c S thread informed _ idle _ unguarded isLive
    refine informed.stay (.drop idle unguarded isLive) rfl rfl
      (fun t ht => by simp [ht]) (by simp)
      (Knowledge.agrees_of_ignorance rfl rfl rfl) nofun
  act := by
    intro trace c S thread operation action channel result next k informed _
      running answered takes
    obtain ⟨s', hk, informed'⟩ := informed.act running answered (takes trivial)
    exact ⟨s', fun _ => hk, informed'⟩
  pause := by
    intro trace c S thread operation next k informed _ running takes
    refine ⟨S thread, fun _ => takes trivial, ?_⟩
    refine informed.stay (.pause running) rfl rfl (fun t ht => by simp [ht]) ?_
      (informed.agrees thread) fun answer h =>
        (informed.attempted thread answer h).append fun _ => rfl
    simp [informed.operation thread, running]
  unroll := by
    intro trace c S thread operation β body next informed _ running
    refine ⟨by simpa using informed.run.step (.unroll running), fun t => ?_,
      informed.agrees, informed.attempted⟩
    rw [informed.operation t]
    by_cases ht : t = thread
    · subst ht
      simp [running]
    · simp [ht]
  call := by
    intro trace c S thread operation call next k informed _ running _
    rw [← Function.update_eq_self thread S]
    refine informed.stay (.call running) rfl rfl (fun t ht => by simp [ht]) ?_
      (informed.agrees thread) fun answer h =>
        (informed.attempted thread answer h).append fun _ => rfl
    simp [informed.operation thread, running]
  answer := by
    intro trace c S thread operation call next k answer informed _ calling _
      takes
    refine ⟨(S thread).learn call answer,
      fun _ => (takes trivial).2 answer, ?_⟩
    have hagrees := informed.agrees thread
    by_cases hconnect : ∃ other record, call = .connect other record
    · obtain ⟨other, record, rfl⟩ := hconnect
      obtain rfl := (takes trivial).1 other record rfl
      refine informed.stay (.answer answer calling) rfl rfl
        (fun t ht => by simp [ht]) ?_
        ⟨hagrees.reads, hagrees.fields, hagrees.apart⟩ ?_
      · simp [Knowledge.learn, Knowledge.tried, informed.operation thread,
          calling]
      · rintro answer' ⟨⟩
        exact Trace.attempted_answered
    · have hsame : (S thread).learn call answer = S thread := by
        cases call with
        | connect other record => exact absurd ⟨other, record, rfl⟩ hconnect
        | _ => rfl
      rw [hsame]
      refine informed.stay (.answer answer calling) rfl rfl
        (fun t ht => by simp [ht]) ?_ hagrees fun answer' h =>
          (informed.attempted thread answer' h).append fun _ => ?_
      · simp [informed.operation thread, calling]
      · cases call with
        | connect other record => exact absurd ⟨other, record, rfl⟩ hconnect
        | _ => rfl
  finish := by
    intro trace c S thread operation reply informed _ running _
    exact informed.stay (.finish running) rfl rfl (fun t ht => by simp [ht])
      (by simp)
      (Knowledge.agrees_of_ignorance rfl rfl rfl) nofun

theorem Run.informed {fd : Fd} {trace : Trace} {c : Config}
    (run : Run fd trace c) : ∃ S, Informed fd trace c S ∧
      ∀ t, (knowing fd).Keeps t (S t) (c.activity t) := by
  refine Protocol.run (Knowledge.obeyed fd) (informed_preserved fd)
    (fun channel fresh => ?_) run fun _ _ _ _ => trivial
  exact ⟨.start fresh, fun _ => rfl,
    fun _ => Knowledge.agrees_of_ignorance rfl rfl rfl, nofun⟩

/-! ## What a step makes of the state -/

section Step

variable {fd : Fd} {trace suffix events : Trace} {c c' : Config}
  {thread : Thread}

theorem Knowledge.Revision.rank_le {s : Knowledge} {fields fields' : Fields}
    (revision : s.Revision fields fields') :
    fields.state.rank ≤ fields'.state.rank := by
  cases revision with
  | unmoved same => rw [same]
  | ended alive dead =>
      obtain dead | dead := dead <;> rw [dead] <;>
        cases h : fields.state <;> simp_all [Lifecycle.rank]
  | raised current attempt outcome found alone ascends => exact ascends

/-- The fields are left alone, or written by a thread that knows enough. -/
theorem Step.revision (step : Step fd c events c') (run : Run fd trace c) :
    c'.channel.fields = c.channel.fields ∨
      ∃ (thread : Thread) (s : Knowledge), (∃ fields,
          events = [.acted thread (.put fields)]) ∧
        s.Revision c.channel.fields c'.channel.fields ∧
        s.operation = (c.activity thread).operation? ∧
        ∀ answer, s.attempt = some answer →
          trace.Attempted fd thread answer s.found := by
  obtain ⟨S, informed, keeps⟩ := run.informed
  cases step with
  | @act thread operation action next channel result running answered =>
      cases action with
      | put fields =>
          cases answered
          have hkeeps := keeps thread
          rw [running] at hkeeps
          obtain ⟨fields', known, revision, _⟩ := hkeeps trivial
          obtain ⟨_, rfl⟩ := (informed.agrees thread).fields fields' known
          exact .inr ⟨thread, S thread, ⟨fields, rfl⟩, revision,
            informed.operation thread, informed.attempted thread⟩
      | acquire lock =>
          obtain ⟨_, rfl⟩ := Channel.answer_acquire answered
          exact .inl rfl
      | own => exact absurd rfl ((run.holder_of_running running).2.2 _ _ _)
      | pause | call => cases answered
      | _ =>
          cases answered
          exact .inl rfl
  | _ => exact .inl rfl

theorem Step.rank_le (step : Step fd c events c') (run : Run fd trace c) :
    c.channel.fields.state.rank ≤ c'.channel.fields.state.rank := by
  obtain hsame | ⟨_, _, _, revision, _⟩ := step.revision run
  · rw [hsame]
  · exact revision.rank_le

theorem Steps.rank_le (steps : Steps fd c suffix c') (run : Run fd trace c) :
    c.channel.fields.state.rank ≤ c'.channel.fields.state.rank := by
  induction steps with
  | refl => exact le_rfl
  | tail steps step ih => exact ih.trans (step.rank_le (run.steps steps))

theorem Steps.closed (steps : Steps fd c suffix c') (run : Run fd trace c)
    (closed : c.channel.isOpen = false) : c'.channel.isOpen = false := by
  induction steps with
  | refl => exact closed
  | tail steps step ih => exact step.closed ⟨_, run.steps steps⟩ ih

end Step

/-! ## Sections under the state lock -/

theorem Trace.closeOnce_mem_of_firstClose? {trace rest : Trace}
    {thread : Thread} (h : trace.firstClose? = some (thread, rest)) :
    .acted thread .closeOnce ∈ trace := by
  obtain ⟨before, rfl⟩ := Trace.eq_of_firstClose? h
  simp

/-- The thread holds the state lock of a channel that is not closed, as far as
the fields tell, and it is not the one that closes it. -/
structure Sheltered (thread : Thread) (trace : Trace) (c : Config) : Prop where
  held : c.channel.locks.state = some thread
  live : c.channel.fields.state.isLive = true
  spared : ∀ rest, trace.firstClose? ≠ some (thread, rest)

section Section

variable {fd : Fd} {trace suffix events : Trace} {c c' : Config}
  {thread : Thread}

/-- Nobody starts to close the channel while holding the state lock. -/
theorem Step.unlocked_of_closeOnce (run : Run fd trace c)
    (step : Step fd c [.acted thread .closeOnce] c') :
    c.channel.locks.state ≠ some thread := by
  intro held
  obtain ⟨S, coherent, keeps⟩ := run.coherent
  cases step with
  | act running answered =>
      have hkeeps := keeps thread
      rw [running] at hkeeps
      have unlocked : (S thread).fields = none := (hkeeps trivial).2.1
      simp [coherent.locked.state thread, held] at unlocked

theorem Standing.Update.isLive {s s' : Standing} {fields fields' : Fields}
    (update : s.Update thread fields fields' s')
    (live : fields.state.isLive = true) (settled : s.owesShutDown = false) :
    fields'.state.isLive = true := by
  cases update with
  | defer used due => simp [due.2 live] at settled
  | kill unused due => simp [due.2 live] at settled
  | revise _ live' _ _ _ _ => exact live'
  | enter direction lock outside _ => simpa using live
  | leave direction inside => simpa using live
  | register _ unguarded => exact live
  | deregister guarded => exact live

theorem Sheltered.spared_append (sheltered : Sheltered thread trace c)
    (run : Run fd trace c) (step : Step fd c events c') (rest : Trace) :
    Trace.firstClose? (trace ++ events) ≠ some (thread, rest) := by
  intro h
  rw [Trace.firstClose?_append] at h
  cases hfirst : trace.firstClose? with
  | some first =>
      obtain ⟨other, rest'⟩ := first
      simp only [hfirst, Option.some.injEq, Prod.mk.injEq] at h
      exact sheltered.spared rest' (h.1 ▸ hfirst)
  | none =>
      simp only [hfirst] at h
      have hmem := Trace.closeOnce_mem_of_firstClose? h
      obtain rfl | ⟨event, rfl⟩ := step.events
      · simp at hmem
      · obtain rfl : .acted thread .closeOnce = event := by simpa using hmem
        exact Step.unlocked_of_closeOnce run step sheltered.held

theorem Sheltered.step (sheltered : Sheltered thread trace c)
    (run : Run fd trace c) (step : Step fd c events c')
    (stays : .acted thread (.release .state) ∉ events) :
    Sheltered thread (trace ++ events) c' := by
  have spared := sheltered.spared_append run step
  cases step with
  | @act other operation action next channel result running answered =>
      obtain ⟨S, coherent, keeps⟩ := run.coherent
      have hkeeps := keeps other
      rw [running] at hkeeps
      obtain ⟨s', _, moves⟩ := moves_of_takes coherent.locked
        coherent.recorded coherent.phased (hkeeps trivial) answered
      have alone : ∀ fields, (S other).fields = some fields →
          other = thread := fun fields h => by
        have hlock := (coherent.locked.fields_eq h).1
        rw [sheltered.held] at hlock
        exact (Option.some.inj hlock).symm
      cases moves with
      | acquireState free =>
          rw [sheltered.held] at free
          cases free
      | releaseState held mayLeave calm =>
          obtain rfl := alone _ held
          simp at stays
      | put held calm update =>
          obtain rfl := alone _ held
          refine ⟨sheltered.held, ?_, spared⟩
          have settled : (S other).owesShutDown = false := by
            by_contra owes
            obtain ⟨rest, hrest, _⟩ :=
              coherent.closedBy.closing other (by simpa using owes)
            exact sheltered.spared rest hrest
          exact update.isLive sheltered.live settled
      | _ => exact ⟨sheltered.held, sheltered.live, spared⟩
  | _ => exact ⟨sheltered.held, sheltered.live, spared⟩

theorem Steps.sheltered (steps : Steps fd c suffix c') (run : Run fd trace c)
    (sheltered : Sheltered thread trace c)
    (stays : .acted thread (.release .state) ∉ suffix) :
    Sheltered thread (trace ++ suffix) c' := by
  induction steps with
  | refl => simpa using sheltered
  | tail steps step ih =>
      have hbefore := ih fun hmem => stays (List.mem_append_left _ hmem)
      rw [← List.append_assoc]
      exact hbefore.step (run.steps steps) step fun hmem =>
        stays (List.mem_append_right _ hmem)

end Section

/-! ## Runs -/

/-- In every run: the state is never uninitialized and never descends, and a
channel that has been closed stays so; once the release of the descriptor is
due, the channel has been closed, so that a thread that finds it open under the
state lock sees it connected at most, until it gives up the lock; and it becomes
connected, or about to be, by a thread only whose operation makes that of the
answer to its last connect call, and which has found the channel open since. -/
theorem lifecycle_ascends {fd : Fd} {trace : Trace} {c : Config}
    (run : Run fd trace c) :
    c.channel.fields.state ≠ .uninitialized ∧
      (c.channel.fields.state = .killPending ∨
        c.channel.fields.state = .killed → c.channel.isOpen = false) ∧
      (∀ suffix c', Steps fd c suffix c' →
        c.channel.fields.state.rank ≤ c'.channel.fields.state.rank ∧
        (c.channel.isOpen = false → c'.channel.isOpen = false) ∧
        ∀ thread, c.channel.locks.state = some thread →
          c.channel.isOpen = true →
          .acted thread (.release .state) ∉ suffix →
          c'.channel.fields.state.rank ≤ Lifecycle.connected.rank) ∧
      ∀ events c', Step fd c events c' →
        c'.channel.fields.state ≠ c.channel.fields.state →
        c'.channel.fields.state = .connecting ∨
          c'.channel.fields.state = .connected →
        ∃ thread operation answer,
          (∃ fields, events = [.acted thread (.put fields)]) ∧
          (c.activity thread).operation? = some operation ∧
          operation.outcome? answer = some c'.channel.fields.state ∧
          trace.Attempted fd thread answer true := by
  obtain ⟨S, coherent, _⟩ := run.coherent
  refine ⟨coherent.phased.initialized, fun ended => ?_, ?_, ?_⟩
  · cases hopen : c.channel.isOpen with
    | false => rfl
    | true =>
        have live := coherent.phased.live hopen
        obtain ended | ended := ended <;>
          simp [ended, Lifecycle.isLive] at live
  · intro suffix c' steps
    refine ⟨steps.rank_le run, steps.closed run,
      fun thread held isOpen stays => ?_⟩
    have unclosed := coherent.closedBy.opened.mp isOpen
    have sheltered : Sheltered thread trace c :=
      ⟨held, coherent.phased.live isOpen, by simp [unclosed]⟩
    exact Lifecycle.rank_le_connected
      (steps.sheltered run sheltered stays).live
  · intro events c' step changed risen
    obtain hsame | ⟨thread, s, hevents, revision, hoperation, hattempted⟩ :=
      step.revision run
    · exact absurd (congrArg Fields.state hsame) changed
    · cases revision with
      | unmoved same => exact absurd same changed
      | ended alive dead =>
          obtain dead | dead := dead <;> simp [dead] at risen
      | @raised operation answer current attempt outcome found alone ascends =>
          refine ⟨thread, operation, answer, hevents,
            hoperation.symm.trans current, outcome, ?_⟩
          rw [← found]
          exact hattempted answer attempt

/-- A connection is under way when the thread comes back to it.  While it asks
again, another thread registers; the connection is found to be established. -/
def untilEstablished : List Move :=
  [[.begin 1 (.configureBlocking false)], Move.steps 1 7,
    [.answer 1 fun
      | .setNonBlocking .. => .ok ()
      | _ => .error (.code Errno.again)],
    Move.steps 1 5, [.begin 1 (.connect ⟨[47]⟩)], Move.steps 1 11,
    [.answer 1 fun _ => .error (.code Errno.inProgress)], Move.steps 1 13,
    [.begin 1 .finishConnect], Move.steps 1 12,
    [.begin 2 .register], Move.steps 2 7,
    [.answer 1 fun _ => .error (.code Errno.isConnected)],
    Move.steps 1 8].flatten

theorem untilEstablished_isSome :
    ((Config.start (.owning 3 .unconnected true)).play 3
      untilEstablished).isSome = true := by
  decide +kernel

def established : Trace × Config :=
  ((Config.start (.owning 3 .unconnected true)).play 3 untilEstablished).get
    untilEstablished_isSome

theorem run_established : Run 3 established.1 established.2 :=
  ⟨_, .created, Config.steps_get untilEstablished_isSome⟩

theorem established_move_isSome :
    (established.2.move 3 (.step 1)).isSome = true := by
  decide +kernel

def risen : Trace × Config :=
  (established.2.move 3 (.step 1)).get established_move_isSome

theorem step_risen : Step 3 established.2 risen.1 risen.2 :=
  Config.step_get established_move_isSome

theorem lifecycle_ascends_to_connected :
    Run 3 established.1 established.2 ∧ Step 3 established.2 risen.1 risen.2 ∧
      established.2.channel.fields.state = .connecting ∧
      risen.2.channel.fields.state = .connected ∧
      ∃ thread answer, established.1.Attempted 3 thread answer true := by
  have before : established.2.channel.fields.state = .connecting := by
    decide +kernel
  have after : risen.2.channel.fields.state = .connected := by
    decide +kernel
  have ascends := lifecycle_ascends run_established
  obtain ⟨thread, operation, answer, _, _, _, hattempted⟩ :=
    ascends.2.2.2 _ _ step_risen (by simp [before, after]) (.inr after)
  exact ⟨run_established, step_risen, before, after, thread, answer,
    hattempted⟩

end LocalSocket
