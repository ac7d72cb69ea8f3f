import LocalSocket.Channel.Operation
import Mathlib.Logic.Function.Basic

/-!
# Runs of a channel

Any number of threads use one channel.  Each of them takes up operations, one
after the other, and any thread may take the next action of its operation at any
moment, also while others are inside a system call or hold a lock.  A system
call may be answered in any way.

A run is what has happened so far, along with the configuration that it has led
to. It starts with a channel that has just been created or wrapped, and no
operation begins after the channel has been dropped.
-/

namespace LocalSocket

inductive Activity where
  | idle
  /-- In the middle of an operation. -/
  | running (operation : Channel.Operation) (rest : Program Channel.Reply)
  /-- Inside a system call of an operation. -/
  | calling (operation : Channel.Operation) (call : Call)
      (next : call.Answer → Program Channel.Reply)

def Activity.operation? : Activity → Option Channel.Operation
  | idle => none
  | running operation _ | calling operation _ _ => some operation

namespace Activity

variable {operation : Channel.Operation} {rest : Program Channel.Reply}
  {call : Call} {next : call.Answer → Program Channel.Reply}

@[simp] theorem operation?_idle : idle.operation? = none := rfl

@[simp] theorem operation?_running :
    (running operation rest).operation? = some operation := rfl

@[simp] theorem operation?_calling :
    (calling operation call next).operation? = some operation := rfl

end Activity

inductive Event where
  | began (thread : Thread) (operation : Channel.Operation)
  | acted (thread : Thread) (action : Action)
  | called (thread : Thread) (call : Call)
  | answered (thread : Thread) (call : Call) (answer : call.Answer)
  | ended (thread : Thread) (operation : Channel.Operation)
      (reply : Channel.Reply)

abbrev Trace := List Event

def Event.thread : Event → Thread
  | began thread _ | acted thread _ | called thread _ | answered thread _ _
  | ended thread _ _ => thread

section Thread

variable {thread : Thread} {operation : Channel.Operation} {call : Call}

@[simp] theorem Event.thread_began : (began thread operation).thread = thread :=
  rfl

@[simp] theorem Event.thread_acted {action : Action} :
    (acted thread action).thread = thread := rfl

@[simp] theorem Event.thread_called : (called thread call).thread = thread :=
  rfl

@[simp] theorem Event.thread_answered {answer : call.Answer} :
    (answered thread call answer).thread = thread := rfl

@[simp] theorem Event.thread_ended {reply : Channel.Reply} :
    (ended thread operation reply).thread = thread := rfl

end Thread

/-- What a thread does, and is told, itself. -/
def Trace.own (thread : Thread) (trace : Trace) : Trace :=
  trace.filter fun event => event.thread == thread

theorem Trace.own_append (thread : Thread) (trace events : Trace) :
    Trace.own thread (trace ++ events) =
      trace.own thread ++ Trace.own thread events :=
  List.filter_append ..

theorem Trace.mem_own {thread : Thread} {trace : Trace} {event : Event} :
    event ∈ trace.own thread ↔ event ∈ trace ∧ event.thread = thread := by
  simp [own]

theorem Trace.own_append_same {thread : Thread} {event : Event} (trace : Trace)
    (h : event.thread = thread) :
    Trace.own thread (trace ++ [event]) = trace.own thread ++ [event] := by
  rw [own_append]
  simp [own, h]

theorem Trace.own_append_other {thread : Thread} {event : Event} (trace : Trace)
    (h : event.thread ≠ thread) :
    Trace.own thread (trace ++ [event]) = trace.own thread := by
  rw [own_append]
  simp [own, h]

namespace Channel.Operation

/-- Whether the operation gives up a registration, which the thread then must
have. -/
def takesGuard : Operation → Bool
  | deregister | dropRegistration => true
  | _ => false

/-- Whether the operation hands out a registration by ending with `reply`. -/
def givesGuard : Operation → Reply → Bool
  | register, .finished => true
  | _, _ => false

end Channel.Operation

structure Config where
  channel : Channel
  activity : Thread → Activity
  guards : Nat
  isDropped : Bool

/-- A program with its loop entered once more. -/
def Program.unroll {α β : Type} (body : Program (Option β))
    (next : β → Program α) : Program α :=
  body.bind fun
    | some value => next value
    | none => .loop body next

namespace Config

def start (channel : Channel) : Config where
  channel := channel
  activity := fun _ => .idle
  guards := 0
  isDropped := false

def set (c : Config) (thread : Thread) (activity : Activity) : Config :=
  { c with activity := Function.update c.activity thread activity }

@[simp] theorem set_channel (c : Config) (thread : Thread)
    (activity : Activity) :
    (c.set thread activity).channel = c.channel := rfl

@[simp] theorem set_guards (c : Config) (thread : Thread)
    (activity : Activity) :
    (c.set thread activity).guards = c.guards := rfl

@[simp] theorem set_isDropped (c : Config) (thread : Thread)
    (activity : Activity) :
    (c.set thread activity).isDropped = c.isDropped := rfl

@[simp] theorem set_activity (c : Config) (thread : Thread)
    (activity : Activity) :
    (c.set thread activity).activity =
    Function.update c.activity thread activity := rfl

end Config

/-- A single step, with what there is to be seen of it. -/
inductive Step (fd : Fd) : Config → Trace → Config → Prop where
  | begin {c : Config} {thread : Thread} {operation : Channel.Operation}
      (idle : c.activity thread = .idle) (isLive : c.isDropped = false)
      (hasGuard : operation.takesGuard = true → 0 < c.guards) :
      Step fd c [.began thread operation]
        { c.set thread (.running operation (operation.program fd)) with
          guards := c.guards - operation.takesGuard.toNat }
  /-- Dropping the channel closes it; nobody else uses it anymore. -/
  | drop {c : Config} {thread : Thread}
      (idle : ∀ other, c.activity other = .idle)
      (unguarded : c.guards = 0) (isLive : c.isDropped = false) :
      Step fd c [.began thread .close]
        { c.set thread (.running .close
          (Channel.Operation.close.program fd)) with
          isDropped := true }
  | act {c : Config} {thread : Thread} {operation : Channel.Operation}
      {action : Action}
      {next : action.Result → Program Channel.Reply} {channel : Channel}
      {result : action.Result}
      (running : c.activity thread = .running operation (.act action next))
      (answered : c.channel.answer thread action = .answered channel result) :
      Step fd c [.acted thread action]
        { c.set thread (.running operation (next result)) with
          channel := channel }
  | pause {c : Config} {thread : Thread} {operation : Channel.Operation}
      {next : Unit → Program Channel.Reply}
      (running : c.activity thread = .running operation (.act .pause next)) :
      Step fd c [.acted thread .pause]
        (c.set thread (.running operation (next ())))
  | unroll {c : Config} {thread : Thread} {operation : Channel.Operation}
      {β : Type}
      {body : Program (Option β)} {next : β → Program Channel.Reply}
      (running : c.activity thread = .running operation (.loop body next)) :
      Step fd c [] (c.set thread (.running operation (.unroll body next)))
  | call {c : Config} {thread : Thread} {operation : Channel.Operation}
      {call : Call}
      {next : call.Answer → Program Channel.Reply}
      (running : c.activity thread =
        .running operation (.act (.call call) next)) :
      Step fd c [.called thread call]
        (c.set thread (.calling operation call next))
  | answer {c : Config} {thread : Thread} {operation : Channel.Operation}
      {call : Call}
      {next : call.Answer → Program Channel.Reply} (answer : call.Answer)
      (calling : c.activity thread = .calling operation call next) :
      Step fd c [.answered thread call answer]
        (c.set thread (.running operation (next answer)))
  | finish {c : Config} {thread : Thread} {operation : Channel.Operation}
      {reply : Channel.Reply}
      (running : c.activity thread = .running operation (.done reply)) :
      Step fd c [.ended thread operation reply]
        { c.set thread .idle with
          guards := c.guards + (operation.givesGuard reply).toNat }

inductive Steps (fd : Fd) (c : Config) : Trace → Config → Prop where
  | refl : Steps fd c [] c
  | tail {trace events : Trace} {c' c'' : Config} :
      Steps fd c trace c' → Step fd c' events c'' →
        Steps fd c (trace ++ events) c''

/-- A channel as it is created, or as it is made of a connected socket whose own
address is known or not. -/
inductive Channel.IsFresh (fd : Fd) : Channel → Prop where
  | created : IsFresh fd (.owning fd .unconnected true)
  | wrapped (blocking : Bool) (address : Option Address) :
      IsFresh fd { Channel.owning fd .connected blocking with
        fields.localAddress := address }

/-- A run of a channel that owns `fd`. -/
def Run (fd : Fd) (trace : Trace) (c : Config) : Prop :=
  ∃ channel : Channel, channel.IsFresh fd ∧ Steps fd (.start channel) trace c

theorem Steps.trans {fd : Fd} {c c' c'' : Config} {first second : Trace}
    (h : Steps fd c first c') (h' : Steps fd c' second c'') :
    Steps fd c (first ++ second) c'' := by
  induction h' with
  | refl => simpa using h
  | tail _ hstep ih =>
      rw [← List.append_assoc]
      exact ih.tail hstep

theorem Steps.single {fd : Fd} {c c' : Config} {events : Trace}
    (h : Step fd c events c') :
    Steps fd c events c' := by
  simpa using Steps.refl.tail h

theorem Run.start {fd : Fd} {channel : Channel} (fresh : channel.IsFresh fd) :
    Run fd [] (.start channel) :=
  ⟨channel, fresh, .refl⟩

theorem Run.steps {fd : Fd} {trace suffix : Trace} {c c' : Config}
    (run : Run fd trace c) (h : Steps fd c suffix c') :
    Run fd (trace ++ suffix) c' := by
  obtain ⟨channel, fresh, before⟩ := run
  exact ⟨channel, fresh, before.trans h⟩

theorem Run.step {fd : Fd} {trace events : Trace} {c c' : Config}
    (run : Run fd trace c) (h : Step fd c events c') :
    Run fd (trace ++ events) c' :=
  run.steps (.single h)

theorem Step.events {fd : Fd} {c c' : Config} {events : Trace}
    (h : Step fd c events c') :
    events = [] ∨ ∃ event, events = [event] := by
  cases h with
  | unroll => exact .inl rfl
  | _ => exact .inr ⟨_, rfl⟩

/-- What every step preserves holds in every run. -/
theorem Run.induct {fd : Fd} {I : Trace → Config → Prop}
    (start : ∀ channel : Channel, channel.IsFresh fd → I [] (.start channel))
    (step : ∀ trace c events c', Run fd trace c → Step fd c events c' →
      I trace c → I (trace ++ events) c')
    {trace : Trace} {c : Config} (run : Run fd trace c) : I trace c := by
  obtain ⟨channel, fresh, steps⟩ := run
  induction steps with
  | refl => exact start channel fresh
  | tail steps hstep ih => exact step _ _ _ _ ⟨channel, fresh, steps⟩ hstep ih

/-- A step is that of one thread. -/
theorem Step.others {fd : Fd} {c c' : Config} {event : Event}
    (h : Step fd c [event] c') {thread : Thread} (ht : thread ≠ event.thread) :
    c'.activity thread = c.activity thread := by
  cases h <;> simp_all

/-- Whatever is seen in a sequence of steps is seen in a single step of it. -/
theorem Steps.split {fd : Fd} {c c' : Config} {before after : Trace}
    {event : Event} (h : Steps fd c (before ++ event :: after) c') :
    ∃ c₁ c₂, Steps fd c before c₁ ∧ Step fd c₁ [event] c₂ ∧
      Steps fd c₂ after c' := by
  generalize htrace : before ++ event :: after = trace at h
  -- the event is the last one that is seen, or was seen before the last step
  induction h generalizing after with
  | refl => simp at htrace
  | @tail past events c' c'' hsteps hstep ih =>
      obtain rfl | ⟨last, rfl⟩ := hstep.events
      · rw [List.append_nil] at htrace
        obtain ⟨c₁, c₂, hbefore, hevent, hafter⟩ := ih htrace
        exact ⟨c₁, c₂, hbefore, hevent, by simpa using hafter.tail hstep⟩
      · obtain rfl | ⟨init, final, rfl⟩ := List.eq_nil_or_concat after
        · obtain ⟨rfl, hlast⟩ := List.append_inj' htrace rfl
          obtain rfl : event = last := by simpa using hlast
          exact ⟨c', c'', hsteps, hstep, .refl⟩
        · have hconcat :
              (before ++ event :: init) ++ [final] = past ++ [last] := by
            simpa using htrace
          obtain ⟨hinit, hlast⟩ := List.append_inj' hconcat rfl
          obtain rfl : final = last := by simpa using hlast
          obtain ⟨c₁, c₂, hbefore, hevent, hafter⟩ := ih hinit
          refine ⟨c₁, c₂, hbefore, hevent, ?_⟩
          simpa using hafter.tail hstep

theorem Step.called {fd : Fd} {c c' : Config} {events : Trace}
    (h : Step fd c events c') {thread : Thread} {operation : Channel.Operation}
    {call : Call} {next : call.Answer → Program Channel.Reply}
    (calling : c'.activity thread = .calling operation call next) :
    c.activity thread = .calling operation call next ∨
      .called thread call ∈ events := by
  cases h with
  | @call other =>
      by_cases ht : thread = other
      · subst ht
        simp only [Config.set_activity, Function.update_self,
          Activity.calling.injEq] at calling
        obtain ⟨rfl, rfl, _⟩ := calling
        exact .inr (by simp)
      · exact .inl (by simpa [ht] using calling)
  | @begin other | @drop other | @act other | @pause other | @unroll other
        | @answer other
  | @finish other =>
      by_cases ht : thread = other
      · simp [ht] at calling
      · exact .inl (by simpa [ht] using calling)

theorem Step.done_of_ended {fd : Fd} {c c' : Config} {thread : Thread}
    {operation : Channel.Operation} {reply : Channel.Reply}
    (h : Step fd c [.ended thread operation reply] c') :
    c.activity thread = .running operation (.done reply) := by
  cases h with
  | finish running => exact running

theorem Step.idle_of_ended {fd : Fd} {c c' : Config} {thread : Thread}
    {operation : Channel.Operation} {reply : Channel.Reply}
    (h : Step fd c [.ended thread operation reply] c') :
    c'.activity thread = .idle := by
  cases h with
  | finish running => simp

theorem Run.called {fd : Fd} {trace : Trace} {c : Config} (run : Run fd trace c)
    {thread : Thread} {operation : Channel.Operation} {call : Call}
    {next : call.Answer → Program Channel.Reply}
    (calling : c.activity thread = .calling operation call next) :
    .called thread call ∈ trace := by
  obtain ⟨channel, _, hsteps⟩ := run
  induction hsteps with
  | refl => cases calling
  | tail hsteps hstep ih =>
      obtain before | now := hstep.called calling
      · exact List.mem_append_left _ (ih before)
      · exact List.mem_append_right _ now

end LocalSocket
