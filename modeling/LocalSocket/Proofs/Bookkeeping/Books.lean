import LocalSocket.Proofs.Bookkeeping.Operations
import LocalSocket.Proofs.Lifecycle.Ascent

/-!
# The books are right

In every run, what the ledgers of the threads say of the channel is so, and what
they say of the threads can be read off the trace.  Every fact about a single
write, or about a single call, follows from the ledger of its thread.
-/

namespace LocalSocket

open Function (update)

/-- What a thread has to do next if this is the last that it has seen. -/
def Event.due? (fields : Fields) : Event → Option Action
  | answered _ call answer => call.due? fields answer
  | _ => none

namespace Trace

/-- The thread has written the fields in the operation that it is in. -/
def HasPut (thread : Thread) (trace : Trace) : Prop :=
  ∃ fields, .acted thread (.put fields) ∈ trace.inside thread

def due? (thread : Thread) (fields : Fields) (trace : Trace) : Option Action :=
  (trace.last? thread).bind (Event.due? fields)

variable {thread : Thread} {trace : Trace} {event : Event}
  {fields fields' : Fields}

theorem hasPut_other (h : event.thread ≠ thread) :
    HasPut thread (trace ++ [event]) ↔ trace.HasPut thread := by
  rw [HasPut, inside_other h, HasPut]

theorem not_hasPut_boundary (h : event.thread = thread)
    (hboundary : event.isBoundary = true) :
    ¬HasPut thread (trace ++ [event]) := by
  rw [HasPut, inside_boundary h hboundary]
  simp

theorem hasPut_same (h : event.thread = thread)
    (hboundary : event.isBoundary = false) :
    HasPut thread (trace ++ [event]) ↔
      trace.HasPut thread ∨ ∃ fields, event = .acted thread (.put fields) := by
  simp only [HasPut, inside_same h hboundary, List.mem_append,
    List.mem_singleton, exists_or, eq_comm]

theorem due?_append_same (h : event.thread = thread) :
    due? thread fields (trace ++ [event]) = event.due? fields := by
  rw [due?, last?_append, if_pos h]
  rfl

theorem due?_append_other (h : event.thread ≠ thread) :
    due? thread fields (trace ++ [event]) = trace.due? thread fields := by
  rw [due?, last?_append, if_neg h, due?]

/-- Whether anything is due does not depend on the fields. -/
theorem due?_eq_none (h : trace.due? thread fields = none) :
    trace.due? thread fields' = none := by
  unfold due? at h ⊢
  cases hlast : trace.last? thread with
  | none => rfl
  | some event =>
      rw [hlast] at h
      cases event with
      | answered _ call answer =>
          cases call with
          | setNonBlocking _ nonBlocking =>
              cases answer with
              | error => rfl
              | ok => cases h
          | shutdown _ how =>
              cases answer <;> cases how <;> first | rfl | cases h
          | _ => exact h
      | _ => exact h

/-- Only writes are ever due. -/
theorem eq_write_of_due? {action : Action}
    (h : trace.due? thread fields = some action) :
    (∃ fields', action = .put fields') ∨
      ∃ blocking, action = .setBlocking blocking := by
  obtain ⟨event, -, h⟩ := Option.bind_eq_some_iff.mp h
  cases event with
  | answered _ call answer =>
      cases call with
      | setNonBlocking _ nonBlocking =>
          cases answer <;> cases h
          exact .inr ⟨_, rfl⟩
      | shutdown _ how =>
          cases answer with
          | error => cases h
          | ok =>
              obtain ⟨direction, -, rfl⟩ := Option.map_eq_some_iff.mp h
              exact .inl ⟨_, rfl⟩
      | _ => cases h
  | _ => cases h

end Trace

/-- What the ledger of a thread says of the channel is so. -/
structure Ledger.Agrees (s : Ledger) (channel : Channel) (thread : Thread) :
    Prop where
  reads : s.holdsRead = true → channel.locks.read = some thread
  fields : ∀ fields, s.fields = some fields →
    channel.locks.state = some thread ∧ fields = channel.fields
  blocking : ∀ blocking, s.blocking = some blocking →
    channel.locks.state = some thread ∧ blocking = channel.isBlocking
  apart : s.apart = true → channel.locks.read = some thread ∧
    channel.fields.state.isUnattached = true
  remote : ∀ address, s.remote = some address →
    channel.fields.remoteAddress = some address
  due : s.due ≠ none → channel.locks.state = some thread

/-- What the ledger of a thread says of the thread can be read off the trace. -/
structure Ledger.Records (s : Ledger) (trace : Trace) (c : Config)
    (thread : Thread) : Prop where
  operation : s.operation = (c.activity thread).operation?
  closing : s.closing = true → ∃ rest, trace.firstClose? = some (thread, rest)
  hasPut : s.hasPut = true ↔ trace.HasPut thread
  due : s.due = trace.due? thread c.channel.fields

structure Booked (fd : Fd) (trace : Trace) (c : Config) (S : Thread → Ledger) :
    Prop where
  run : Run fd trace c
  unnamed : c.channel.fields.state = .unconnected →
    c.channel.fields.remoteAddress = none
  agrees : ∀ t, (S t).Agrees c.channel t
  records : ∀ t, (S t).Records trace c t

namespace Ledger

variable {s s' : Ledger} {channel channel' : Channel} {thread : Thread}
  {trace : Trace} {event : Event} {c c' : Config} {fields fields' : Fields}

/-- The ledger is about what only its holder can change. -/
theorem Agrees.frame (h : s.Agrees channel thread)
    (hread : channel.locks.read = some thread →
      channel'.locks.read = some thread)
    (hstate : channel.locks.state = some thread →
      channel'.locks.state = some thread ∧ channel'.fields = channel.fields ∧
        channel'.isBlocking = channel.isBlocking)
    (hunattached : channel.locks.read = some thread →
      channel.fields.state.isUnattached = true →
        channel'.fields.state.isUnattached = true)
    (hremote : ∀ address, channel.fields.remoteAddress = some address →
      channel'.fields.remoteAddress = some address) :
    s.Agrees channel' thread where
  reads held := hread (h.reads held)
  fields fields known := by
    obtain ⟨hlock, rfl⟩ := h.fields fields known
    exact ⟨(hstate hlock).1, (hstate hlock).2.1.symm⟩
  blocking blocking known := by
    obtain ⟨hlock, rfl⟩ := h.blocking blocking known
    exact ⟨(hstate hlock).1, (hstate hlock).2.2.symm⟩
  apart apart := by
    obtain ⟨hlock, hapart⟩ := h.apart apart
    exact ⟨hread hlock, hunattached hlock hapart⟩
  remote address seen := hremote address (h.remote address seen)
  due hdue := (hstate (h.due hdue)).1

theorem agrees_start {operation : Option Channel.Operation} :
    ({ operation := operation } : Ledger).Agrees channel thread :=
  ⟨nofun, fun _ => nofun, fun _ => nofun, nofun, fun _ => nofun,
    fun h => absurd rfl h⟩

/-- What other threads do does not show on the ledger. -/
theorem Records.frame (records : s.Records trace c thread)
    (agrees : s.Agrees c.channel thread) (hthread : event.thread ≠ thread)
    (hactivity : c'.activity thread = c.activity thread)
    (hfields : c.channel.locks.state = some thread →
      c'.channel.fields = c.channel.fields) :
    s.Records (trace ++ [event]) c' thread where
  operation := hactivity ▸ records.operation
  closing closing := by
    obtain ⟨rest, hfirst⟩ := records.closing closing
    exact ⟨rest ++ [event], by rw [Trace.firstClose?_append, hfirst]⟩
  hasPut := records.hasPut.trans (Trace.hasPut_other hthread).symm
  due := by
    rw [Trace.due?_append_other hthread]
    cases hdue : s.due with
    | none => exact (Trace.due?_eq_none (records.due.symm.trans hdue)).symm
    | some action =>
        rw [hfields (agrees.due (by simp [hdue])), ← records.due, hdue]

theorem Records.start {operation : Option Channel.Operation}
    (hthread : event.thread = thread) (hboundary : event.isBoundary = true)
    (hoperation : (c.activity thread).operation? = operation) :
    ({ operation := operation } : Ledger).Records (trace ++ [event]) c
      thread where
  operation := hoperation.symm
  closing := nofun
  hasPut := ⟨nofun, fun h =>
    absurd h (Trace.not_hasPut_boundary hthread hboundary)⟩
  due := by
    rw [Trace.due?_append_same hthread]
    cases event <;> first | rfl | cases hboundary

/-- What has just happened to the thread itself, other than a write of the
fields. -/
theorem Records.same (records : s.Records trace c thread)
    (hthread : event.thread = thread) (hboundary : event.isBoundary = false)
    (unwritten : ∀ fields, event ≠ .acted thread (.put fields))
    (hoperation : (c'.activity thread).operation? =
      (c.activity thread).operation?)
    (operation : s'.operation = s.operation) (hasPut : s'.hasPut = s.hasPut)
    (closing : s'.closing = true → s.closing = true)
    (due : s'.due = event.due? c'.channel.fields) :
    s'.Records (trace ++ [event]) c' thread where
  operation := (operation.trans records.operation).trans hoperation.symm
  closing h := by
    obtain ⟨rest, hfirst⟩ := records.closing (closing h)
    exact ⟨rest ++ [event], by rw [Trace.firstClose?_append, hfirst]⟩
  hasPut := by
    rw [hasPut, records.hasPut, Trace.hasPut_same hthread hboundary]
    simp [unwritten]
  due := by rw [Trace.due?_append_same hthread, due]

/-- Nothing is due when something else is done. -/
theorem Records.calm (records : s.Records trace c thread) {action : Action}
    (due : ∀ next, s.due = some next → action = next)
    (hput : ∀ fields, action ≠ .put fields)
    (hset : ∀ blocking, action ≠ .setBlocking blocking) : s.due = none := by
  cases hdue : s.due with
  | none => rfl
  | some next =>
      obtain rfl := due next hdue
      obtain ⟨fields, rfl⟩ | ⟨blocking, rfl⟩ :=
        Trace.eq_write_of_due? (records.due.symm.trans hdue)
      · exact absurd rfl (hput fields)
      · exact absurd rfl (hset blocking)

/-- A remote address that is known stays what it is. -/
theorem Revision.remoteAddress (revision : s.Revision fields fields')
    (unnamed : fields.state = .unconnected → fields.remoteAddress = none)
    {address : Address} (h : fields.remoteAddress = some address) :
    fields'.remoteAddress = some address := by
  cases revision with
  | used alike state => exact alike.remoteAddress.trans h
  | shut current due => cases ‹Direction› <;> exact h
  | closed | named | finished => exact h
  | attempted current encoded alone unconnected attached =>
      rw [unnamed unconnected] at h
      cases h
  | looked unknown connected =>
      rw [unknown] at h
      cases h

theorem Revision.unnamed (revision : s.Revision fields fields')
    (unnamed : fields.state = .unconnected → fields.remoteAddress = none)
    (unconnected : fields'.state = .unconnected) :
    fields'.remoteAddress = none := by
  cases revision with
  | used alike state =>
      rw [alike.remoteAddress]
      obtain state | state | state := state
      · exact unnamed (state.symm.trans unconnected)
      all_goals
        rw [state] at unconnected
        cases unconnected
  | shut current due =>
      rw [Fields.shutDirection_state] at unconnected
      cases ‹Direction› <;> exact unnamed unconnected
  | closed | named => exact unnamed unconnected
  | attempted current encoded alone unconnected' attached =>
      obtain rfl | rfl := attached <;> cases unconnected
  | finished current alone remote => cases unconnected
  | looked unknown connected =>
      cases connected.symm.trans unconnected

/-- Only a thread that holds the read lock connects the channel. -/
theorem Revision.isUnattached (revision : s.Revision fields fields')
    (others : s.holdsRead = false) (h : fields.state.isUnattached = true) :
    fields'.state.isUnattached = true := by
  cases revision with
  | used alike state =>
      obtain state | state | state := state <;> rw [state]
      · exact h
      · rfl
      · rfl
  | shut current due => rwa [Fields.shutDirection_state]
  | attempted current encoded alone | finished current alone =>
      rw [others] at alone
      cases alone
  | closed | named | looked => exact h

end Ledger

namespace Booked

variable {fd : Fd} {trace : Trace} {c c' : Config} {S : Thread → Ledger}
  {thread : Thread} {operation : Channel.Operation} {s' : Ledger}
  {event : Event}

theorem next (booked : Booked fd trace c S) (step : Step fd c [event] c')
    (hthread : event.thread = thread)
    (hothers : ∀ t, t ≠ thread → c'.activity t = c.activity t)
    (hfields : ∀ t, t ≠ thread → c.channel.locks.state = some t →
      c'.channel.fields = c.channel.fields)
    (unnamed : c'.channel.fields.state = .unconnected →
      c'.channel.fields.remoteAddress = none)
    (agrees : s'.Agrees c'.channel thread)
    (hframe : ∀ t, t ≠ thread → (S t).Agrees c'.channel t)
    (records : s'.Records (trace ++ [event]) c' thread) :
    Booked fd (trace ++ [event]) c' (update S thread s') where
  run := booked.run.step step
  unnamed := unnamed
  agrees t := by
    by_cases ht : t = thread
    · subst ht
      simpa using agrees
    · simpa [ht] using hframe t ht
  records t := by
    by_cases ht : t = thread
    · subst ht
      simpa using records
    · rw [Function.update_of_ne ht]
      exact (booked.records t).frame (booked.agrees t)
        (hthread ▸ Ne.symm ht) (hothers t ht) (hfields t ht)

/-- What a step does not do to the channel stays on the ledgers. -/
theorem stay (booked : Booked fd trace c S) (step : Step fd c [event] c')
    (hthread : event.thread = thread) (hchannel : c'.channel = c.channel)
    (hothers : ∀ t, t ≠ thread → c'.activity t = c.activity t)
    (agrees : s'.Agrees c.channel thread)
    (records : s'.Records (trace ++ [event]) c' thread) :
    Booked fd (trace ++ [event]) c' (update S thread s') :=
  booked.next step hthread hothers (fun _ _ _ => by rw [hchannel])
    (hchannel ▸ booked.unnamed) (hchannel ▸ agrees)
    (fun t _ => hchannel ▸ booked.agrees t) records

section Act

variable {action : Action} {channel : Channel} {result : action.Result}
  {next : action.Result → Program Channel.Reply}

/-- Actions that leave the fields alone. -/
theorem acted (booked : Booked fd trace c S)
    (running : c.activity thread = .running operation (.act action next))
    (answered : c.channel.answer thread action = .answered channel result)
    (hput : ∀ fields, action ≠ .put fields)
    (hfields : channel.fields = c.channel.fields)
    (hoperation : s'.operation = (S thread).operation)
    (hasPut : s'.hasPut = (S thread).hasPut)
    (closing : s'.closing = true → (S thread).closing = true)
    (calm : s'.due = none) (agrees : s'.Agrees channel thread)
    (hframe : ∀ t, t ≠ thread → (S t).Agrees channel t) :
    Booked fd (trace ++ [.acted thread action])
      { c.set thread (.running operation (next result)) with
        channel := channel } (update S thread s') := by
  refine booked.next (.act running answered) rfl (fun t ht => by simp [ht])
    (fun _ _ _ => hfields) (by simpa [hfields] using booked.unnamed) agrees
    hframe ((booked.records thread).same rfl rfl ?_ ?_ hoperation hasPut
      closing calm)
  · rintro fields ⟨⟩
    exact hput fields rfl
  · simp [running]

/-- Actions that are not about the channel at all. -/
theorem acted_aside (booked : Booked fd trace c S)
    (running : c.activity thread = .running operation (.act action next))
    (answered : c.channel.answer thread action = .answered c.channel result)
    (hput : ∀ fields, action ≠ .put fields) (calm : (S thread).due = none) :
    Booked fd (trace ++ [.acted thread action])
      { c.set thread (.running operation (next result)) with
        channel := c.channel } (update S thread (S thread)) :=
  booked.acted running answered hput rfl rfl rfl id calm (booked.agrees thread)
    fun t _ => booked.agrees t

theorem acquire {lock : Lock} {result : Unit}
    {next : Unit → Program Channel.Reply} {k : Unit → Ledger → Prop}
    (booked : Booked fd trace c S)
    (running : c.activity thread =
      .running operation (.act (.acquire lock) next))
    (answered : c.channel.answer thread (.acquire lock) =
      .answered channel result)
    (calm : (S thread).due = none)
    (takes : (S thread).Takes fd thread (.acquire lock) k) :
    ∃ s', k result s' ∧ Booked fd (trace ++ [.acted thread (.acquire lock)])
      { c.set thread (.running operation (next result)) with
        channel := channel } (update S thread s') := by
  have hanswered := answered
  obtain ⟨free, rfl⟩ := Channel.answer_acquire answered
  have hframe : ∀ t, (S t).Agrees { c.channel with
      locks := c.channel.locks.setHolder lock (some thread) } t := fun t =>
    (booked.agrees t).frame (Locks.holder_of_taken free .read)
      (fun held => ⟨Locks.holder_of_taken free .state held, rfl, rfl⟩)
      (fun _ h => h) fun _ h => h
  have hagrees := hframe thread
  cases lock with
  | read =>
      refine ⟨{ S thread with holdsRead := true }, takes, ?_⟩
      exact booked.acted running hanswered (fun _ => nofun) rfl rfl rfl id calm
        ⟨fun _ => rfl, hagrees.fields, hagrees.blocking, hagrees.apart,
          hagrees.remote, hagrees.due⟩ fun t _ => hframe t
  | write =>
      exact ⟨S thread, takes, booked.acted running hanswered (fun _ => nofun)
        rfl rfl rfl id calm hagrees fun t _ => hframe t⟩
  | state =>
      exact ⟨S thread, takes, booked.acted running hanswered (fun _ => nofun)
        rfl rfl rfl id calm hagrees fun t _ => hframe t⟩

theorem release {lock : Lock} {result : Unit}
    {next : Unit → Program Channel.Reply} {k : Unit → Ledger → Prop}
    (booked : Booked fd trace c S)
    (running : c.activity thread =
      .running operation (.act (.release lock) next))
    (answered : c.channel.answer thread (.release lock) =
      .answered channel result)
    (calm : (S thread).due = none)
    (takes : (S thread).Takes fd thread (.release lock) k) :
    ∃ s', k result s' ∧ Booked fd (trace ++ [.acted thread (.release lock)])
      { c.set thread (.running operation (next result)) with
        channel := channel } (update S thread s') := by
  have hanswered := answered
  cases answered
  have held := (booked.run.holder_of_running running).1 lock rfl
  have hframe : ∀ t, t ≠ thread → (S t).Agrees { c.channel with
      locks := c.channel.locks.setHolder lock none } t := by
    intro t ht
    exact (booked.agrees t).frame (Locks.holder_of_given held ht .read)
      (fun h => ⟨Locks.holder_of_given held ht .state h, rfl, rfl⟩)
      (fun _ h => h) fun _ h => h
  have hagrees := booked.agrees thread
  have hdue : (S thread).due ≠ none →
      (c.channel.locks.setHolder lock none).state = some thread :=
    fun h => absurd calm h
  cases lock with
  | read =>
      refine ⟨{ S thread with holdsRead := false, apart := false }, takes, ?_⟩
      exact booked.acted running hanswered (fun _ => nofun) rfl rfl rfl id calm
        ⟨nofun, hagrees.fields, hagrees.blocking, nofun, hagrees.remote, hdue⟩
        hframe
  | write =>
      exact ⟨S thread, takes, booked.acted running hanswered (fun _ => nofun)
        rfl rfl rfl id calm ⟨hagrees.reads, hagrees.fields, hagrees.blocking,
          hagrees.apart, hagrees.remote, hdue⟩ hframe⟩
  | state =>
      refine ⟨{ S thread with fields := none, blocking := none }, takes, ?_⟩
      exact booked.acted running hanswered (fun _ => nofun) rfl rfl rfl id calm
        ⟨hagrees.reads, fun _ => nofun, nofun, hagrees.apart, hagrees.remote,
          hdue⟩
        hframe

theorem see {next : Fields → Program Channel.Reply}
    (booked : Booked fd trace c S)
    (running : c.activity thread = .running operation (.act .fields next))
    (calm : (S thread).due = none) :
    Booked fd (trace ++ [.acted thread .fields])
      { c.set thread (.running operation (next c.channel.fields)) with
        channel := c.channel }
      (update S thread ((S thread).see c.channel.fields)) := by
  have hagrees := booked.agrees thread
  refine booked.acted running rfl (fun _ => nofun) rfl rfl rfl id calm ?_
    fun t _ => booked.agrees t
  refine ⟨hagrees.reads, fun fields known => ?_, hagrees.blocking,
    fun apart => ?_, fun address seen => seen, hagrees.due⟩
  · obtain rfl : c.channel.fields = fields := by
      simpa [Ledger.see] using known
    exact ⟨(booked.run.holder_of_running running).2.1 rfl, rfl⟩
  · obtain apart | ⟨held, unattached⟩ : (S thread).apart = true ∨
        (S thread).holdsRead = true ∧
          c.channel.fields.state.isUnattached = true := by
      simpa [Ledger.see] using apart
    · exact hagrees.apart apart
    · exact ⟨hagrees.reads held, unattached⟩

theorem put {fields : Fields} {next : Unit → Program Channel.Reply}
    (booked : Booked fd trace c S)
    (running : c.activity thread =
      .running operation (.act (.put fields) next))
    (known : (S thread).fields = some c.channel.fields)
    (revision : (S thread).Revision c.channel.fields fields) :
    Booked fd (trace ++ [.acted thread (.put fields)])
      { c.set thread (.running operation (next ())) with
        channel := { c.channel with fields := fields } }
      (update S thread ((S thread).write fields)) := by
  have hagrees := booked.agrees thread
  have held := (hagrees.fields _ known).1
  have alone : ∀ t, t ≠ thread → c.channel.locks.state ≠ some t := by
    intro t ht hlock
    exact ht (Option.some.inj (hlock.symm.trans held))
  have records := booked.records thread
  refine booked.next (.act running rfl) rfl (fun t ht => by simp [ht])
    (fun t ht hlock => absurd hlock (alone t ht))
    (revision.unnamed booked.unnamed) ?_ (fun t ht => ?_) ?_
  · refine ⟨hagrees.reads, fun fields' known' => ?_, hagrees.blocking,
      fun apart => ?_, fun address seen => seen, fun h => absurd rfl h⟩
    · obtain rfl : fields = fields' := by simpa [Ledger.write] using known'
      exact ⟨held, rfl⟩
    · obtain ⟨apart, unattached⟩ : (S thread).apart = true ∧
          fields.state.isUnattached = true := by
        simpa [Ledger.write] using apart
      exact ⟨(hagrees.apart apart).1, unattached⟩
  · refine (booked.agrees t).frame id (fun hlock => absurd hlock (alone t ht))
      (fun hread unattached => revision.isUnattached ?_ unattached)
      fun address h => revision.remoteAddress booked.unnamed h
    -- nobody else holds the read lock
    by_contra hheld
    have hthread := hagrees.reads (by simpa using hheld)
    exact ht (Option.some.inj (hread.symm.trans hthread))
  · have hsame : (Event.acted thread (.put fields)).thread = thread := rfl
    refine ⟨?_, fun closing => ?_, ?_, ?_⟩
    · simp [Ledger.write, records.operation, running]
    · obtain ⟨rest, hfirst⟩ := records.closing closing
      exact ⟨_, by rw [Trace.firstClose?_append, hfirst]⟩
    · exact iff_of_true rfl ((Trace.hasPut_same hsame rfl).mpr
        (.inr ⟨fields, rfl⟩))
    · rw [Trace.due?_append_same hsame]
      rfl

theorem closeOnce {next : Bool → Program Channel.Reply}
    (booked : Booked fd trace c S)
    (running : c.activity thread = .running operation (.act .closeOnce next))
    (calm : (S thread).due = none) :
    Booked fd (trace ++ [.acted thread .closeOnce])
      { c.set thread (.running operation (next c.channel.isOpen)) with
        channel := { c.channel with isOpen := false } }
      (update S thread { S thread with closing := c.channel.isOpen }) := by
  obtain ⟨S', coherent, _⟩ := booked.run.coherent
  have hagrees := booked.agrees thread
  have records := booked.records thread
  have hsame : (Event.acted thread .closeOnce).thread = thread := rfl
  have hframe : ∀ t, (S t).Agrees { c.channel with isOpen := false } t :=
    fun t => (booked.agrees t).frame id (fun h => ⟨h, rfl, rfl⟩) (fun _ h => h)
      fun _ h => h
  refine booked.next (.act running rfl) rfl (fun t ht => by simp [ht])
    (fun _ _ _ => rfl) booked.unnamed ⟨hagrees.reads, hagrees.fields,
      hagrees.blocking, hagrees.apart, hagrees.remote, hagrees.due⟩
    (fun t _ => hframe t) ⟨?_, fun isOpen => ?_, ?_, ?_⟩
  · simp [records.operation, running]
  · refine ⟨[], ?_⟩
    rw [Trace.firstClose?_append, coherent.closedBy.opened.mp isOpen]
    rfl
  · rw [Trace.hasPut_same hsame rfl]
    simpa using records.hasPut
  · rw [Trace.due?_append_same hsame]
    exact calm

/-- The blocking flag, like the fields, is looked at and changed under the state
lock where it matters. -/
theorem lookBlocking {next : Bool → Program Channel.Reply}
    (booked : Booked fd trace c S)
    (running : c.activity thread = .running operation (.act .isBlocking next))
    (calm : (S thread).due = none) :
    Booked fd (trace ++ [.acted thread .isBlocking])
      { c.set thread (.running operation (next c.channel.isBlocking)) with
        channel := c.channel }
      (update S thread { S thread with
        blocking := (S thread).fields.map fun _ => c.channel.isBlocking }) := by
  have hagrees := booked.agrees thread
  refine booked.acted running rfl (fun _ => nofun) rfl rfl rfl id calm
    ⟨hagrees.reads, hagrees.fields, fun blocking known => ?_, hagrees.apart,
      hagrees.remote, hagrees.due⟩ fun t _ => booked.agrees t
  obtain ⟨fields, hknown, rfl⟩ := Option.map_eq_some_iff.mp known
  exact ⟨(hagrees.fields fields hknown).1, rfl⟩

theorem setBlocking {blocking : Bool} {fields : Fields}
    {next : Unit → Program Channel.Reply} (booked : Booked fd trace c S)
    (running : c.activity thread =
      .running operation (.act (.setBlocking blocking) next))
    (known : (S thread).fields = some fields) :
    Booked fd (trace ++ [.acted thread (.setBlocking blocking)])
      { c.set thread (.running operation (next ())) with
        channel := { c.channel with isBlocking := blocking } }
      (update S thread { S thread with
        blocking := some blocking, due := none }) := by
  have hagrees := booked.agrees thread
  have held := (hagrees.fields fields known).1
  refine booked.acted running rfl (fun _ => nofun) rfl rfl rfl id rfl
    ⟨hagrees.reads, hagrees.fields, ?_, hagrees.apart, hagrees.remote,
      fun h => absurd rfl h⟩ fun t ht => (booked.agrees t).frame id
        (fun hlock => ?_) (fun _ h => h) fun _ h => h
  · rintro _ ⟨⟩
    exact ⟨held, rfl⟩
  · exact absurd (Option.some.inj (hlock.symm.trans held)) ht

theorem act {k : action.Result → Ledger → Prop} (booked : Booked fd trace c S)
    (running : c.activity thread = .running operation (.act action next))
    (answered : c.channel.answer thread action = .answered channel result)
    (takes : (bookkeeping fd).act thread (S thread) action k) :
    ∃ s', k result s' ∧ Booked fd (trace ++ [.acted thread action])
      { c.set thread (.running operation (next result)) with
        channel := channel } (update S thread s') := by
  obtain ⟨hdue, takes⟩ := takes
  have calm := (booked.records thread).calm hdue
  have hagrees := booked.agrees thread
  cases action with
  | acquire lock =>
      exact booked.acquire running answered (calm (fun _ => nofun) nofun) takes
  | release lock =>
      exact booked.release running answered (calm (fun _ => nofun) nofun) takes
  | fields =>
      cases answered
      exact ⟨_, takes c.channel.fields (fun apart => (hagrees.apart apart).2)
        hagrees.remote, booked.see running (calm (fun _ => nofun) nofun)⟩
  | put fields =>
      cases answered
      obtain ⟨fields', known, _, revision, hk⟩ := takes
      obtain ⟨_, rfl⟩ := hagrees.fields fields' known
      exact ⟨_, hk, booked.put running known revision⟩
  | isOpen =>
      cases answered
      refine ⟨_, takes c.channel.isOpen fun isOpen fields known => ?_,
        booked.acted_aside running rfl (fun _ => nofun)
          (calm (fun _ => nofun) nofun)⟩
      obtain ⟨_, rfl⟩ := hagrees.fields fields known
      obtain ⟨S', coherent, _⟩ := booked.run.coherent
      exact coherent.phased.live isOpen
  | closeOnce =>
      cases answered
      exact ⟨_, takes _,
        booked.closeOnce running (calm (fun _ => nofun) nofun)⟩
  | isBlocking =>
      cases answered
      exact ⟨_, takes _,
        booked.lookBlocking running (calm (fun _ => nofun) nofun)⟩
  | setBlocking blocking =>
      cases answered
      obtain ⟨_, ⟨fields, known, _⟩, hk⟩ := takes
      exact ⟨_, hk, booked.setBlocking running known⟩
  | thread =>
      cases answered
      exact ⟨_, takes,
        booked.acted_aside running rfl (fun _ => nofun)
          (calm (fun _ => nofun) nofun)⟩
  | own => exact takes.elim
  | pause | call => cases answered

end Act

/-- What has been answered is due to be recorded by whoever knows the fields. -/
theorem learn {call : Call} {next : call.Answer → Program Channel.Reply}
    (booked : Booked fd trace c S)
    (calling : c.activity thread = .calling operation call next)
    (permits : (S thread).Permits fd call) (answer : call.Answer) :
    Booked fd (trace ++ [.answered thread call answer])
      (c.set thread (.running operation (next answer)))
      (update S thread ((S thread).learn call answer)) := by
  have hagrees := booked.agrees thread
  refine booked.stay (.answer answer calling) rfl rfl (fun t ht => by simp [ht])
    ⟨hagrees.reads, hagrees.fields, hagrees.blocking, hagrees.apart,
      hagrees.remote, fun hdue => ?_⟩
    ((booked.records thread).same rfl rfl (fun _ => nofun) ?_ rfl rfl id ?_)
  · obtain ⟨action, hdue⟩ := Option.ne_none_iff_exists'.mp hdue
    obtain ⟨fields, known, _⟩ := Option.bind_eq_some_iff.mp hdue
    exact (hagrees.fields fields known).1
  · simp [calling]
  · show ((S thread).fields.bind fun fields => call.due? fields answer) =
      call.due? c.channel.fields answer
    cases hknown : (S thread).fields with
    | some fields =>
        obtain ⟨_, rfl⟩ := hagrees.fields fields hknown
        rfl
    | none =>
        cases call with
        | setNonBlocking other nonBlocking =>
            obtain ⟨_, fields, known, _⟩ := permits
            rw [hknown] at known
            cases known
        | shutdown other how =>
            obtain ⟨_, fields, direction, known, _⟩ := permits
            rw [hknown] at known
            cases known
        | _ => rfl

end Booked

theorem booked_preserved (fd : Fd) :
    (bookkeeping fd).Preserves fd (Booked fd) where
  begin := by
    intro trace c S thread operation booked _ idle _ isLive hasGuard
    exact booked.stay (.begin idle isLive hasGuard) rfl rfl
      (fun t ht => by simp [ht]) Ledger.agrees_start
      (.start rfl rfl (by simp))
  drop := by
    intro trace c S thread booked _ idle _ unguarded isLive
    exact booked.stay (.drop idle unguarded isLive) rfl rfl
      (fun t ht => by simp [ht]) Ledger.agrees_start
      (.start rfl rfl (by simp))
  act := by
    intro trace c S thread operation action channel result next k booked _
      running answered takes
    obtain ⟨s', hk, booked'⟩ := booked.act running answered (takes trivial)
    exact ⟨s', fun _ => hk, booked'⟩
  pause := by
    intro trace c S thread operation next k booked _ running takes
    obtain ⟨hdue, hk⟩ := takes trivial
    refine ⟨S thread, fun _ => hk, booked.stay (.pause running) rfl rfl
      (fun t ht => by simp [ht]) (booked.agrees thread) ?_⟩
    refine (booked.records thread).same rfl rfl (fun _ => nofun) ?_ rfl rfl id
      ((booked.records thread).calm hdue (fun _ => nofun) nofun)
    simp [running]
  unroll := by
    intro trace c S thread operation β body next booked _ running
    refine ⟨by simpa using booked.run.step (.unroll running), booked.unnamed,
      booked.agrees, fun t => ?_⟩
    obtain ⟨operation', closing, hasPut, due⟩ := booked.records t
    refine ⟨?_, closing, hasPut, due⟩
    rw [operation']
    by_cases ht : t = thread
    · subst ht
      simp [running]
    · simp [ht]
  call := by
    intro trace c S thread operation call next k booked _ running takes
    rw [← Function.update_eq_self thread S]
    refine booked.stay (.call running) rfl rfl (fun t ht => by simp [ht])
      (booked.agrees thread) ((booked.records thread).same rfl rfl
        (fun _ => nofun) ?_ rfl rfl id ((booked.records thread).calm
          (takes trivial).1 (fun _ => nofun) nofun))
    simp [running]
  answer := by
    intro trace c S thread operation call next k answer booked _ calling _
      takes
    obtain ⟨_, permits, hk⟩ := takes trivial
    exact ⟨_, fun _ => hk answer, booked.learn calling permits answer⟩
  finish := by
    intro trace c S thread operation reply booked _ running _
    exact booked.stay (.finish running) rfl rfl (fun t ht => by simp [ht])
      Ledger.agrees_start (.start rfl rfl (by simp))

theorem Run.booked {fd : Fd} {trace : Trace} {c : Config}
    (run : Run fd trace c) : ∃ S, Booked fd trace c S ∧
      ∀ t, (bookkeeping fd).Keeps t (S t) (c.activity t) := by
  refine Protocol.run (Ledger.obeyed fd) (booked_preserved fd)
    (fun channel fresh => ?_) run fun _ _ _ _ => trivial
  refine ⟨.start fresh, fun unconnected => ?_, fun _ => Ledger.agrees_start,
    fun _ => ⟨rfl, nofun, ⟨nofun, ?_⟩, rfl⟩⟩
  · cases fresh with
    | created => rfl
    | wrapped blocking address => cases unconnected
  · rintro ⟨fields, hmem⟩
    cases hmem

/-! ## What the books say of a run -/

section Run

variable {fd : Fd} {trace events : Trace} {c c' : Config} {thread : Thread}
  {operation : Channel.Operation}

theorem Run.ledger (run : Run fd trace c) (thread : Thread) : ∃ s : Ledger,
    s.Agrees c.channel thread ∧ s.Records trace c thread ∧
      (bookkeeping fd).Keeps thread s (c.activity thread) := by
  obtain ⟨S, booked, keeps⟩ := run.booked
  exact ⟨S thread, booked.agrees thread, booked.records thread, keeps thread⟩

theorem Run.unnamed (run : Run fd trace c)
    (unconnected : c.channel.fields.state = .unconnected) :
    c.channel.fields.remoteAddress = none := by
  obtain ⟨S, booked, _⟩ := run.booked
  exact booked.unnamed unconnected

/-- Whoever is about to write the fields has a reason for it. -/
theorem Run.put_ledger {fields : Fields} {next : Unit → Program Channel.Reply}
    (run : Run fd trace c)
    (running : c.activity thread =
      .running operation (.act (.put fields) next)) :
    ∃ s : Ledger, s.Agrees c.channel thread ∧ s.Records trace c thread ∧
      s.fields = some c.channel.fields ∧ s.Counts c.channel.fields fields ∧
        s.Revision c.channel.fields fields := by
  obtain ⟨s, agrees, records, keeps⟩ := run.ledger thread
  rw [running] at keeps
  obtain ⟨_, fields', known, counts, revision, _⟩ := keeps trivial
  obtain ⟨_, rfl⟩ := agrees.fields fields' known
  exact ⟨s, agrees, records, known, counts, revision⟩

/-- Whoever is inside a call, or about to make it, is entitled to it. -/
theorem Run.call_ledger {call : Call}
    {next : call.Answer → Program Channel.Reply} (run : Run fd trace c)
    (running : c.activity thread =
        .running operation (.act (.call call) next) ∨
      c.activity thread = .calling operation call next) :
    ∃ s : Ledger, s.Agrees c.channel thread ∧ s.Records trace c thread ∧
      s.Permits fd call := by
  obtain ⟨s, agrees, records, keeps⟩ := run.ledger thread
  obtain running | calling := running
  · rw [running] at keeps
    exact ⟨s, agrees, records, (keeps trivial).2.1⟩
  · rw [calling] at keeps
    exact ⟨s, agrees, records, (keeps trivial).2.1⟩

/-- What is due comes next. -/
theorem Run.next_of_due {action : Action} (run : Run fd trace c)
    (due : trace.due? thread c.channel.fields = some action) :
    c.channel.locks.state = some thread ∧ ∃ operation rest,
      c.activity thread = .running operation rest ∧
        rest.next? = some action := by
  obtain ⟨s, agrees, records, keeps⟩ := run.ledger thread
  have hdue : s.due = some action := records.due.trans due
  refine ⟨agrees.due (by simp [hdue]), ?_⟩
  cases hactivity : c.activity thread with
  | idle =>
      rw [hactivity] at keeps
      obtain rfl : s = {} := keeps
      cases hdue
  | calling operation call next =>
      rw [hactivity] at keeps
      obtain rfl := (keeps trivial).1 action hdue
      obtain ⟨_, h⟩ | ⟨_, h⟩ := Trace.eq_write_of_due? due <;> cases h
  | running operation rest =>
      rw [hactivity] at keeps
      refine ⟨operation, rest, rfl, ?_⟩
      cases hnext : rest.next? with
      | none =>
          obtain ⟨reply, rfl⟩ :=
            (keeps trivial).done_of_next?_eq_none hnext
          cases hdue.symm.trans (keeps trivial).1
      | some first =>
          rw [((keeps trivial).next hnext).1 action hdue]

theorem Step.eq_of_due {event : Event} {action : Action}
    (step : Step fd c [event] c') (run : Run fd trace c)
    (due : trace.due? event.thread c.channel.fields = some action) :
    event = .acted event.thread action := by
  obtain ⟨_, operation, rest, running, hnext⟩ := run.next_of_due due
  have differs : ∀ {activity}, c.activity event.thread = activity →
      activity = .running operation rest := fun h => h.symm.trans running
  cases step with
  | begin idle => cases differs idle
  | drop idle => cases differs (idle _)
  | act running' | pause running' =>
      cases differs running'
      cases hnext
      rfl
  | call running' =>
      cases differs running'
      cases hnext
      obtain ⟨_, h⟩ | ⟨_, h⟩ := Trace.eq_write_of_due? due <;> cases h
  | answer answer calling => cases differs calling
  | finish running' =>
      cases differs running'
      cases hnext

/-- The fields change by a write only. -/
theorem Step.fields_eq (step : Step fd c events c') (run : Run fd trace c)
    (unwritten : ∀ thread fields, events ≠ [.acted thread (.put fields)]) :
    c'.channel.fields = c.channel.fields := by
  cases step with
  | @act thread operation action next channel result running answered =>
      cases action with
      | put fields => exact absurd rfl (unwritten thread fields)
      | acquire lock =>
          obtain ⟨_, rfl⟩ := Channel.answer_acquire answered
          rfl
      | own => exact absurd rfl ((run.holder_of_running running).2.2 _ _ _)
      | pause | call => cases answered
      | _ =>
          cases answered
          rfl
  | _ => rfl

/-- The blocking flag changes only when a mode is recorded. -/
theorem Step.isBlocking_eq (step : Step fd c events c') (run : Run fd trace c)
    (unset : ∀ thread blocking,
      events ≠ [.acted thread (.setBlocking blocking)]) :
    c'.channel.isBlocking = c.channel.isBlocking := by
  cases step with
  | @act thread operation action next channel result running answered =>
      cases action with
      | setBlocking blocking => exact absurd rfl (unset thread blocking)
      | acquire lock =>
          obtain ⟨_, rfl⟩ := Channel.answer_acquire answered
          rfl
      | own => exact absurd rfl ((run.holder_of_running running).2.2 _ _ _)
      | pause | call => cases answered
      | _ =>
          cases answered
          rfl
  | _ => rfl

theorem Step.put {fields : Fields}
    (step : Step fd c [.acted thread (.put fields)] c') :
    c'.channel = { c.channel with fields := fields } ∧
      c'.guards = c.guards ∧ (∀ t, (c'.activity t).operation? =
        (c.activity t).operation?) ∧ ∃ operation next, c.activity thread =
          .running operation (.act (.put fields) next) := by
  cases step with
  | act running answered =>
      cases answered
      refine ⟨rfl, rfl, fun t => ?_, _, _, running⟩
      by_cases ht : t = thread
      · subst ht
        simp [running]
      · simp [ht]

/-- The fields stay as they are, or are written by a thread that has a reason
for it. -/
theorem Step.revised (step : Step fd c events c') (run : Run fd trace c) :
    c'.channel.fields = c.channel.fields ∨
      ∃ (thread : Thread) (s : Ledger),
        events = [.acted thread (.put c'.channel.fields)] ∧
        s.Agrees c.channel thread ∧ s.Records trace c thread ∧
        s.Revision c.channel.fields c'.channel.fields := by
  by_cases hput : ∃ thread fields, events = [.acted thread (.put fields)]
  · obtain ⟨thread, fields, rfl⟩ := hput
    obtain ⟨hchannel, _, _, operation, next, running⟩ := step.put
    obtain ⟨s, agrees, records, _, _, revision⟩ := run.put_ledger running
    rw [hchannel]
    exact .inr ⟨thread, s, rfl, agrees, records, revision⟩
  · exact .inl (step.fields_eq run fun thread fields h =>
      hput ⟨thread, fields, h⟩)

theorem Step.setBlocking {blocking : Bool}
    (step : Step fd c [.acted thread (.setBlocking blocking)] c')
    (run : Run fd trace c) :
    c'.channel = { c.channel with isBlocking := blocking } ∧
      trace.due? thread c.channel.fields = some (.setBlocking blocking) ∧
      (blocking = true → c.channel.fields.registrations = 0) := by
  cases step with
  | act running answered =>
      cases answered
      obtain ⟨s, agrees, records, keeps⟩ := run.ledger thread
      rw [running] at keeps
      obtain ⟨_, due, ⟨fields, known, unguarded⟩, _⟩ := keeps trivial
      obtain ⟨_, rfl⟩ := agrees.fields fields known
      exact ⟨rfl, records.due.symm.trans due, unguarded⟩

end Run

end LocalSocket
