import LocalSocket.Proofs.Conversation
import LocalSocket.Proofs.Outlook

/-!
# The journal of an operation

A thread that keeps a journal of an operation writes down what each of its
actions has made of the channel, and how each of its calls was answered.  In
between, the channel is in the hands of the other threads; all that is known of
it then is what nobody can undo, and what nobody else can change.

What a program says of the journals that it ends with, whatever is found on the
way, is so of the trace of every episode in which it runs.
-/

namespace LocalSocket

/-! ## What a thread has said -/

namespace Event

def exchange? (thread : Thread) : Event → Option Exchange
  | answered other call answer =>
      if other = thread then some ⟨call, answer⟩ else none
  | _ => none

def call? (thread : Thread) : Event → Option Call
  | called other call => if other = thread then some call else none
  | _ => none

section Own

variable {thread other : Thread} {operation : Channel.Operation}
  {reply : Channel.Reply} {action : Action} {call : Call}
  {answer : call.Answer}

@[simp] theorem exchange?_began :
    (began other operation).exchange? thread = none := rfl

@[simp] theorem exchange?_acted :
    (acted other action).exchange? thread = none := rfl

@[simp] theorem exchange?_called :
    (called other call).exchange? thread = none := rfl

@[simp] theorem exchange?_answered :
    (answered thread call answer).exchange? thread = some ⟨call, answer⟩ :=
  if_pos rfl

@[simp] theorem exchange?_ended :
    (ended other operation reply).exchange? thread = none := rfl

@[simp] theorem call?_began : (began other operation).call? thread = none := rfl

@[simp] theorem call?_acted : (acted other action).call? thread = none := rfl

@[simp] theorem call?_called :
    (called thread call).call? thread = some call :=
  if_pos rfl

@[simp] theorem call?_answered :
    (answered other call answer).call? thread = none := rfl

@[simp] theorem call?_ended :
    (ended other operation reply).call? thread = none := rfl

end Own

variable {thread : Thread} {event : Event}

theorem exchange?_of_ne (h : event.thread ≠ thread) :
    event.exchange? thread = none := by
  cases event <;> simp_all [exchange?]

theorem call?_of_ne (h : event.thread ≠ thread) :
    event.call? thread = none := by
  cases event <;> simp_all [call?]

end Event

namespace Trace

/-- What the thread has asked the system and been answered. -/
def exchanges (thread : Thread) (trace : Trace) : List Exchange :=
  trace.filterMap (Event.exchange? thread)

def calls (thread : Thread) (trace : Trace) : List Call :=
  trace.filterMap (Event.call? thread)

variable {thread : Thread} {trace events : Trace}

theorem exchanges_append : Trace.exchanges thread (trace ++ events) =
    trace.exchanges thread ++ Trace.exchanges thread events :=
  List.filterMap_append ..

theorem calls_append : Trace.calls thread (trace ++ events) =
    trace.calls thread ++ Trace.calls thread events :=
  List.filterMap_append ..

theorem exchanges_concat {event : Event} :
    Trace.exchanges thread (trace ++ [event]) =
      trace.exchanges thread ++ (event.exchange? thread).toList := by
  rw [exchanges_append, exchanges, exchanges, List.filterMap_cons]
  cases event.exchange? thread <;> rfl

theorem calls_concat {event : Event} :
    Trace.calls thread (trace ++ [event]) =
      trace.calls thread ++ (event.call? thread).toList := by
  rw [calls_append, calls, calls, List.filterMap_cons]
  cases event.call? thread <;> rfl

theorem exchanges_of_others (h : ∀ event ∈ events, event.thread ≠ thread) :
    Trace.exchanges thread events = [] :=
  List.filterMap_eq_nil_iff.mpr fun event hmem =>
    Event.exchange?_of_ne (h event hmem)

theorem calls_of_others (h : ∀ event ∈ events, event.thread ≠ thread) :
    Trace.calls thread events = [] :=
  List.filterMap_eq_nil_iff.mpr fun event hmem =>
    Event.call?_of_ne (h event hmem)

end Trace

/-- What happens during an operation, from its beginning to its end. -/
def Trace.framed (during : Trace) (thread : Thread)
    (operation : Channel.Operation) (reply : Channel.Reply) : Trace :=
  .began thread operation :: during ++ [.ended thread operation reply]

theorem Trace.IsWithin.of_subset {thread : Thread} {trace events : Trace}
    (within : trace.IsWithin thread) (h : events ⊆ trace) :
    events.IsWithin thread := fun event hmem =>
  within event (Trace.mem_own.mpr
    ⟨h (Trace.mem_own.mp hmem).1, (Trace.mem_own.mp hmem).2⟩)

/-- Each call that a thread has made has been answered, but for the one that it
is inside of. -/
def Activity.Accounts (thread : Thread) (trace : Trace) : Activity → Prop
  | calling _ call _ => trace.calls thread =
      (trace.exchanges thread).map Exchange.call ++ [call]
  | _ => trace.calls thread = (trace.exchanges thread).map Exchange.call

theorem Activity.Accounts.append_others {thread : Thread}
    {trace events : Trace} {activity : Activity}
    (h : activity.Accounts thread trace)
    (others : ∀ event ∈ events, event.thread ≠ thread) :
    activity.Accounts thread (trace ++ events) := by
  have hcalls : Trace.calls thread (trace ++ events) = trace.calls thread := by
    rw [Trace.calls_append, Trace.calls_of_others others, List.append_nil]
  have hexchanges : Trace.exchanges thread (trace ++ events) =
      trace.exchanges thread := by
    rw [Trace.exchanges_append, Trace.exchanges_of_others others,
      List.append_nil]
  cases activity with
  | calling => exact hcalls.trans (hexchanges ▸ h)
  | idle | running => exact hcalls.trans (hexchanges ▸ h)

theorem Step.accounts {fd : Fd} {trace events : Trace} {c c' : Config}
    {thread : Thread} (step : Step fd c events c')
    (within : events.IsWithin thread)
    (h : (c.activity thread).Accounts thread trace) :
    (c'.activity thread).Accounts thread (trace ++ events) := by
  obtain ⟨hactivity, others⟩ | advance := step.advance within
  · rw [hactivity]
    exact h.append_others others
  · cases advance with
    | act running | pause running | unroll running | call running =>
        rw [running] at h
        simpa [Activity.Accounts, Trace.calls_concat, Trace.exchanges_concat]
          using h
    | answer answer calling =>
        rw [calling] at h
        simpa [Activity.Accounts, Trace.calls_concat, Trace.exchanges_concat]
          using h

theorem Steps.accounts {fd : Fd} {trace during : Trace} {c c' : Config}
    {thread : Thread} (steps : Steps fd c during c')
    (within : during.IsWithin thread)
    (h : (c.activity thread).Accounts thread trace) :
    (c'.activity thread).Accounts thread (trace ++ during) := by
  induction steps with
  | refl => simpa using h
  | tail _ step ih =>
      rw [← List.append_assoc]
      exact step.accounts (within.of_subset (List.subset_append_right ..))
        (ih (within.of_subset (List.subset_append_left ..)))

/-- All calls of an operation that has ended have been answered. -/
theorem Episode.calls_eq {fd : Fd} {thread : Thread}
    {operation : Channel.Operation} {during : Trace} {c c' : Config}
    {reply : Channel.Reply}
    (episode : Episode fd thread operation c during reply c') :
    during.calls thread = (during.exchanges thread).map Exchange.call := by
  obtain ⟨c₁, c₂, began, steps, ended⟩ := episode.passes
  have start : (c₁.activity thread).Accounts thread [] := by
    rw [began.running_of_began.1]
    rfl
  have h := steps.accounts episode.within start
  rw [ended.done_of_ended] at h
  exact h

/-! ## While others have the channel -/

/-- What is sure of a channel that the thread has left alone meanwhile. -/
structure Channel.Drifts (thread : Thread) (channel channel' : Channel) :
    Prop where
  closed : channel.isOpen = false → channel'.isOpen = false
  rank_le : channel.fields.state.rank ≤ channel'.fields.state.rank
  known : channel'.known thread = channel.known thread

namespace Channel.Drifts

variable {thread : Thread} {channel channel' channel'' : Channel}

theorem refl (channel : Channel) : channel.Drifts thread channel :=
  ⟨id, le_rfl, rfl⟩

theorem trans (h : channel.Drifts thread channel')
    (h' : channel'.Drifts thread channel'') :
    channel.Drifts thread channel'' :=
  ⟨h'.closed ∘ h.closed, h.rank_le.trans h'.rank_le, h'.known.trans h.known⟩

/-- A thread that holds the state lock finds the fields as it has left them. -/
theorem fields_eq (h : channel.Drifts thread channel')
    (held : channel.locks.state = some thread) :
    channel'.fields = channel.fields := by
  have known : channel'.known thread = some channel.fields :=
    h.known.trans (known_eq_some.mpr ⟨held, rfl⟩)
  exact (known_eq_some.mp known).2

theorem locks_state (h : channel.Drifts thread channel')
    (held : channel.locks.state = some thread) :
    channel'.locks.state = some thread := by
  have known : channel'.known thread = some channel.fields :=
    h.known.trans (known_eq_some.mpr ⟨held, rfl⟩)
  exact (known_eq_some.mp known).1

end Channel.Drifts

theorem Step.drifts {fd : Fd} {before events : Trace} {c c' : Config}
    {thread : Thread} (step : Step fd c events c') (run : Run fd before c)
    (others : ∀ event ∈ events, event.thread ≠ thread) :
    c.channel.Drifts thread c'.channel :=
  ⟨step.closed ⟨_, run⟩, step.rank_le run, Outlook.known_eq step run others⟩

/-- Nothing but an action changes the channel. -/
theorem Step.channel_eq_of_silent {fd : Fd} {c c' : Config}
    (step : Step fd c [] c') : c'.channel = c.channel := by
  cases step
  rfl

theorem Steps.channel_eq_of_silent {fd : Fd} {c c' : Config}
    (steps : Steps fd c [] c') : c'.channel = c.channel := by
  generalize htrace : ([] : Trace) = trace at steps
  induction steps with
  | refl => rfl
  | tail _ step ih =>
      obtain ⟨rfl, rfl⟩ := List.append_eq_nil_iff.mp htrace.symm
      exact step.channel_eq_of_silent.trans (ih rfl)

namespace Protocol

variable {σ : Type} {P : Protocol σ} {thread : Thread} {I : σ → Prop} {α : Type}

/-- Aloof programs maintain what aloof actions maintain. -/
theorem maintains_of_aloof {program : Program α} (aloof : program.IsAloof)
    (hact : ∀ action s, action.isAloof = true → I s →
      P.act thread s action fun _ => I) : P.Maintains thread I program := by
  suffices along : ∀ (post : α → Unit → Prop) (s : σ),
      Protocol.aloof.Meets 0 program post () → I s →
      P.Meets thread program (fun value s' => I s' ∧ post value ()) s from
    fun s hs => (along _ s aloof hs).mono fun _ _ h => h.1
  clear aloof
  induction program with
  | done value => exact fun post s h hs => ⟨hs, h⟩
  | act action next ih =>
      rintro post s ⟨haloof, hnext⟩ hs
      exact P.mono (fun result s' hs' => ih result post s' (hnext result) hs')
        (hact action s haloof hs)
  | loop body next ihBody ihNext =>
      rintro post s ⟨hguard, invariant, hinvariant, hbody⟩ hs
      refine meets_loop I hguard hs fun s' hs' => ?_
      refine (ihBody _ s' (hbody () hinvariant) hs').mono ?_
      rintro (_ | value) s'' ⟨hs'', hvalue⟩
      · exact hs''
      · exact ihNext value post s'' hvalue hs''

end Protocol

/-! ## Keeping a journal -/

structure Journal where
  /-- The channel as the last action of the thread has left it. -/
  left : Channel
  /-- The channel before and after each action. -/
  changes : List (Channel × Channel) := []
  exchanges : List Exchange := []

/-- What an operation may come upon. -/
structure Prospect where
  /-- No other thread does anything meanwhile. -/
  alone : Prop := False
  /-- How the channel may be when the operation takes an action. -/
  finds : Action → Channel → Prop := fun _ _ => True

namespace Journal

def acted (s : Journal) (channel channel' : Channel) : Journal :=
  { s with left := channel', changes := s.changes ++ [(channel, channel')] }

def heard (s : Journal) (exchange : Exchange) : Journal :=
  { s with exchanges := s.exchanges ++ [exchange] }

section Fields

variable {s : Journal} {channel channel' : Channel} {exchange : Exchange}

@[simp] theorem acted_left : (s.acted channel channel').left = channel' := rfl

@[simp] theorem acted_changes : (s.acted channel channel').changes =
    s.changes ++ [(channel, channel')] := rfl

@[simp] theorem acted_exchanges :
    (s.acted channel channel').exchanges = s.exchanges := rfl

@[simp] theorem heard_left : (s.heard exchange).left = s.left := rfl

@[simp] theorem heard_changes : (s.heard exchange).changes = s.changes := rfl

@[simp] theorem heard_exchanges :
    (s.heard exchange).exchanges = s.exchanges ++ [exchange] := rfl

end Fields

/-- How the thread may come upon the channel when it takes an action. -/
structure Finds (J : Prospect) (thread : Thread) (s : Journal)
    (action : Action) (channel : Channel) : Prop where
  drifts : s.left.Drifts thread channel
  alone : J.alone → channel = s.left
  live : channel.isOpen = true → channel.fields.state.isLive = true
  found : J.finds action channel

def Takes (J : Prospect) (thread : Thread) (s : Journal) :
    (action : Action) → (action.Result → Journal → Prop) → Prop
  | .call call, k => ∀ answer, k answer (s.heard ⟨call, answer⟩)
  | .pause, k =>
      ∀ channel, s.Finds J thread .pause channel →
        k () (s.acted channel channel)
  | action, k =>
      ∀ channel channel' result, s.Finds J thread action channel →
        channel.answer thread action = .answered channel' result →
        k result (s.acted channel channel')

end Journal

namespace Prospect

def protocol (J : Prospect) : Protocol Journal where
  act thread s action k := s.Takes J thread action k
  mono := by
    intro thread s action k k' himp h
    cases action with
    | call call => exact fun answer => himp _ _ (h answer)
    | pause => exact fun channel finds => himp _ _ (h channel finds)
    | _ =>
        exact fun channel channel' result finds answered =>
          himp _ _ (h channel channel' result finds answered)
  rest := { left := .uninitialized }
  opens := fun _ => { left := .uninitialized }
  closes := fun _ _ _ => True

end Prospect

/-- Whether the channel itself answers the action. -/
def Action.isInward : Action → Bool
  | .pause | .call _ => false
  | _ => true

/-- What is open stays what it is; nothing aloof opens a channel. -/
theorem Channel.closed_of_answer {channel channel' : Channel} {thread : Thread}
    {action : Action} {result : action.Result}
    (answered : channel.answer thread action = .answered channel' result)
    (aloof : action.isAloof = true) (closed : channel.isOpen = false) :
    channel'.isOpen = false := by
  cases action with
  | acquire lock =>
      obtain ⟨_, rfl⟩ := answer_acquire answered
      exact closed
  | closeOnce =>
      cases answered
      rfl
  | own => cases aloof
  | pause | call => cases answered
  | _ =>
      cases answered
      exact closed

namespace Prospect

open Protocol

section Rules

variable {J : Prospect} {thread : Thread} {s : Journal} {α β : Type}

theorem act_inward {action : Action} {k : action.Result → Journal → Prop}
    (inward : action.isInward = true)
    (hk : ∀ channel channel' result, s.Finds J thread action channel →
      channel.answer thread action = .answered channel' result →
      k result (s.acted channel channel')) :
    J.protocol.act thread s action k := by
  cases action with
  | call | pause => cases inward
  | _ => exact hk

theorem perform_meets {action : Action} {next : action.Result → Operating α}
    {post : Except ChannelError α → Journal → Prop}
    (inward : action.isInward = true)
    (hnext : ∀ channel channel' result, s.Finds J thread action channel →
      channel.answer thread action = .answered channel' result →
      J.protocol.Meets thread (next result).run post
        (s.acted channel channel')) :
    J.protocol.Meets thread (Operating.perform action >>= next).run post s := by
  rw [meets_run_bind]
  exact act_inward inward hnext

theorem lift_meets {program : Program β} {next : β → Operating α}
    {post : Except ChannelError α → Journal → Prop}
    (h : J.protocol.Meets thread program
      (fun value => J.protocol.Meets thread (next value).run post) s) :
    J.protocol.Meets thread (ExceptT.lift program >>= next).run post s := by
  rw [meets_run_bind, meets_run_lift]
  exact h

/-- Looking whether the channel is open. -/
theorem look_meets {error : ChannelError}
    {post : Except ChannelError Unit → Journal → Prop}
    (opened : ∀ channel, s.Finds J thread .isOpen channel →
      channel.isOpen = true → post (.ok ()) (s.acted channel channel))
    (closed : ∀ channel, s.Finds J thread .isOpen channel →
      channel.isOpen = false → post (.error error) (s.acted channel channel)) :
    J.protocol.Meets thread (ExceptT.run do
      unless ← Operating.perform .isOpen do throw error) post s := by
  refine perform_meets rfl fun channel channel' result finds answered => ?_
  cases answered
  cases hopen : channel.isOpen with
  | true => exact opened channel finds hopen
  | false => exact closed channel finds hopen

/-- What no aloof action and no answer to a call that does not block makes a
difference to, an aloof program maintains. -/
theorem maintains_of_isAloof {I : Journal → Prop} {program : Program α}
    (aloof : program.IsAloof)
    (acted : ∀ {s : Journal} {channel channel' : Channel},
      s.left.Drifts thread channel →
      (channel.isOpen = false → channel'.isOpen = false) → I s →
      I (s.acted channel channel'))
    (heard : ∀ {s : Journal} {call : Call} (answer : call.Answer),
      call.isBlocking = false → I s → I (s.heard ⟨call, answer⟩)) :
    J.protocol.Maintains thread I program :=
  maintains_of_aloof aloof fun action s haloof hs => by
    cases action with
    | call call => exact fun answer => heard answer (by simpa using haloof) hs
    | pause => exact fun channel finds => acted finds.drifts id hs
    | _ =>
        exact fun channel channel' result finds answered =>
          acted finds.drifts (Channel.closed_of_answer answered haloof) hs

end Rules

end Prospect

/-- On the way, an action of the thread has turned the channel from one into
another. -/
def Steps.Turns (fd : Fd) (thread : Thread) (c : Config) (trace : Trace)
    (c' : Config) (channel channel' : Channel) : Prop :=
  ∃ past action rest c₁ c₂, Steps fd c past c₁ ∧
    Step fd c₁ [.acted thread action] c₂ ∧ Steps fd c₂ rest c' ∧
    trace = past ++ .acted thread action :: rest ∧
    c₁.channel = channel ∧ c₂.channel = channel'

theorem Steps.Turns.append {fd : Fd} {thread : Thread} {c c' c'' : Config}
    {trace events : Trace} {channel channel' : Channel}
    (h : Steps.Turns fd thread c trace c' channel channel')
    (steps : Steps fd c' events c'') :
    Steps.Turns fd thread c (trace ++ events) c'' channel channel' := by
  obtain ⟨past, action, rest, c₁, c₂, hpast, step, hrest, rfl, hchannel⟩ := h
  exact ⟨past, action, rest ++ events, c₁, c₂, hpast, step, hrest.trans steps,
    by simp, hchannel⟩

/-! ## Following an operation -/

namespace Prospect

/-- The thread is inside the operation, its journal tells what has happened
since `start`, and it is bound to end as `post` says. -/
structure Follows (J : Prospect) (fd : Fd) (thread : Thread)
    (operation : Channel.Operation) (post : Channel.Reply → Journal → Prop)
    (start : Config) (trace : Trace) (c : Config) (s : Journal) : Prop where
  path : Steps fd start trace c
  drifts : s.left.Drifts thread c.channel
  alone : J.alone → c.channel = s.left
  exchanges : s.exchanges = trace.exchanges thread
  turns : ∀ change ∈ s.changes,
    Steps.Turns fd thread start trace c change.1 change.2
  inside : (∃ rest, c.activity thread = .running operation rest ∧
      J.protocol.Meets thread rest post s) ∨
    ∃ call next, c.activity thread = .calling operation call next ∧
      ∀ answer, J.protocol.Meets thread (next answer) post
        (s.heard ⟨call, answer⟩)

section Follows

variable {J : Prospect} {fd : Fd} {thread : Thread}
  {operation : Channel.Operation} {post : Channel.Reply → Journal → Prop}
  {before trace events during : Trace} {start c c' : Config} {s : Journal}

theorem Follows.running
    (follows : J.Follows fd thread operation post start trace c s)
    {operation' : Channel.Operation} {rest : Program Channel.Reply}
    (running : c.activity thread = .running operation' rest) :
    operation' = operation ∧ J.protocol.Meets thread rest post s := by
  obtain ⟨rest', running', hmeets⟩ | ⟨call, next, calling, _⟩ := follows.inside
  · rw [running] at running'
    cases running'
    exact ⟨rfl, hmeets⟩
  · rw [running] at calling
    cases calling

theorem Follows.calling
    (follows : J.Follows fd thread operation post start trace c s)
    {operation' : Channel.Operation} {call : Call}
    {next : call.Answer → Program Channel.Reply}
    (calling : c.activity thread = .calling operation' call next) :
    operation' = operation ∧
      ∀ answer, J.protocol.Meets thread (next answer) post
        (s.heard ⟨call, answer⟩) := by
  obtain ⟨rest', running, _⟩ | ⟨call, next, calling', hmeets⟩ := follows.inside
  · rw [calling] at running
    cases running
  · rw [calling] at calling'
    cases calling'
    exact ⟨rfl, hmeets⟩

/-- What the other threads do is not in the journal. -/
theorem Follows.frame
    (follows : J.Follows fd thread operation post start trace c s)
    (step : Step fd c events c')
    (hactivity : c'.activity thread = c.activity thread)
    (drifts : c.channel.Drifts thread c'.channel)
    (still : J.alone → c'.channel = c.channel)
    (others : ∀ event ∈ events, event.thread ≠ thread) :
    J.Follows fd thread operation post start (trace ++ events) c' s where
  path := follows.path.tail step
  drifts := follows.drifts.trans drifts
  alone h := (still h).trans (follows.alone h)
  exchanges := by
    rw [Trace.exchanges_append, Trace.exchanges_of_others others,
      List.append_nil, follows.exchanges]
  turns change hmem := (follows.turns change hmem).append (.single step)
  inside := by simpa [hactivity] using follows.inside

theorem Takes.answered {action : Action} {channel channel' : Channel}
    {result : action.Result} {k : action.Result → Journal → Prop}
    (takes : J.protocol.act thread s action k)
    (finds : s.Finds J thread action channel)
    (answered : channel.answer thread action = .answered channel' result) :
    k result (s.acted channel channel') := by
  cases action with
  | call | pause => cases answered
  | _ => exact takes channel channel' result finds answered

/-- A step of the thread is one of its program, and goes into the journal. -/
theorem Follows.step
    (follows : J.Follows fd thread operation post start trace c s)
    (run : Run fd before start) (step : Step fd c events c')
    (within : events.IsWithin thread)
    (alone : J.alone → ∀ event ∈ events, event.thread = thread)
    (finds : ∀ action, events = [.acted thread action] →
      J.finds action c.channel) :
    ∃ s', J.Follows fd thread operation post start (trace ++ events) c' s' ∧
      s.changes <+: s'.changes ∧
      ∀ action, events = [.acted thread action] →
        (c.channel, c'.channel) ∈ s'.changes := by
  have path := follows.path.tail step
  have run' := run.steps follows.path
  obtain ⟨hactivity, others⟩ | advance := step.advance within
  · refine ⟨s, follows.frame step hactivity (step.drifts run' others)
      (fun h => ?_) others, List.prefix_refl _, ?_⟩
    · obtain rfl : events = [] := List.eq_nil_iff_forall_not_mem.mpr
        fun event hmem => others event hmem (alone h event hmem)
      exact step.channel_eq_of_silent
    · rintro action rfl
      exact absurd rfl (others _ (List.mem_singleton.mpr rfl))
  have turned : ∀ change ∈ s.changes, Steps.Turns fd thread start
      (trace ++ events) c' change.1 change.2 :=
    fun change hmem => (follows.turns change hmem).append (.single step)
  have acts : ∀ {action}, events = [.acted thread action] →
      ∀ change ∈ (s.acted c.channel c'.channel).changes,
        Steps.Turns fd thread start (trace ++ events) c' change.1 change.2 := by
    rintro action rfl change hmem
    obtain hmem | hmem := List.mem_append.mp hmem
    · exact turned change hmem
    · obtain rfl := List.mem_singleton.mp hmem
      exact ⟨trace, action, [], c, c', follows.path, step, .refl, rfl, rfl,
        rfl⟩
  have unheard : ∀ {event}, event.exchange? thread = none →
      s.exchanges = Trace.exchanges thread (trace ++ [event]) := by
    intro event h
    rw [Trace.exchanges_concat, h, follows.exchanges]
    exact (List.append_nil _).symm
  cases advance with
  | @act _ action _ channel result running answered =>
      obtain ⟨rfl, takes⟩ := follows.running running
      obtain ⟨S, coherent, _⟩ := run'.coherent
      have found : s.Finds J thread action c.channel :=
        ⟨follows.drifts, follows.alone, coherent.phased.live, finds action rfl⟩
      exact ⟨s.acted c.channel channel,
        ⟨path, .refl _, fun _ => rfl, unheard rfl, acts rfl, .inl ⟨_, by simp,
          Takes.answered takes found answered⟩⟩,
        List.prefix_append .., fun _ _ => by simp⟩
  | @pause _ next running =>
      obtain ⟨rfl, takes⟩ := follows.running running
      obtain ⟨S, coherent, _⟩ := run'.coherent
      have found : s.Finds J thread .pause c.channel :=
        ⟨follows.drifts, follows.alone, coherent.phased.live, finds .pause rfl⟩
      exact ⟨s.acted c.channel c.channel,
        ⟨path, .refl _, fun _ => rfl, unheard rfl, acts rfl, .inl ⟨_, by simp,
          takes c.channel found⟩⟩,
        List.prefix_append .., fun _ _ => by simp⟩
  | unroll running =>
      obtain ⟨rfl, hmeets⟩ := follows.running running
      exact ⟨s, ⟨path, follows.drifts, follows.alone,
          by simpa using follows.exchanges, turned,
          .inl ⟨_, by simp, hmeets.unroll⟩⟩,
        List.prefix_refl _, fun _ h => by cases h⟩
  | @call _ call next running =>
      obtain ⟨rfl, takes⟩ := follows.running running
      exact ⟨s, ⟨path, follows.drifts, follows.alone, unheard rfl, turned,
          .inr ⟨call, next, by simp, takes⟩⟩,
        List.prefix_refl _, fun _ h => by cases h⟩
  | @answer _ call next answer calling =>
      obtain ⟨rfl, takes⟩ := follows.calling calling
      exact ⟨s.heard ⟨call, answer⟩,
        ⟨path, follows.drifts, follows.alone,
          by simp [Trace.exchanges_concat, follows.exchanges], turned,
          .inl ⟨next answer, by simp, takes answer⟩⟩,
        List.prefix_refl _, fun _ h => by cases h⟩

/-- Whenever the thread has taken an action on the way, it has come upon the
channel as expected. -/
def Holds (J : Prospect) (fd : Fd) (thread : Thread) (c : Config)
    (trace : Trace) (c' : Config) : Prop :=
  ∀ action, ¬Steps.Sees fd thread c trace c' action
    fun channel => ¬J.finds action channel

theorem Holds.of_append {c'' : Config}
    (holds : J.Holds fd thread c (trace ++ events) c'')
    (steps : Steps fd c' events c'') : J.Holds fd thread c trace c' := by
  rintro action ⟨past, rest, c₁, c₂, hpast, step, hrest, rfl, found⟩
  exact holds action ⟨past, rest ++ events, c₁, c₂, hpast, step,
    hrest.trans steps, by simp, found⟩

theorem Holds.finds {c'' : Config} {action : Action}
    (holds : J.Holds fd thread c (trace ++ [.acted thread action]) c'')
    (steps : Steps fd c trace c')
    (step : Step fd c' [.acted thread action] c'') :
    J.finds action c'.channel := by
  by_contra unexpected
  exact holds action ⟨trace, [], c', c'', steps, step, .refl, rfl, unexpected⟩

theorem holds_of_empty : ({} : Prospect).Holds fd thread c trace c' := by
  rintro action ⟨_, _, _, _, _, _, _, _, found⟩
  exact found trivial

theorem Follows.steps
    (follows : J.Follows fd thread operation post start trace c s)
    (run : Run fd before start) (steps : Steps fd c during c')
    (within : during.IsWithin thread)
    (alone : J.alone → ∀ event ∈ during, event.thread = thread)
    (holds : J.Holds fd thread start (trace ++ during) c') :
    ∃ s', J.Follows fd thread operation post start (trace ++ during) c' s' ∧
      s.changes <+: s'.changes := by
  induction steps with
  | refl => exact ⟨s, by simpa using follows, List.prefix_refl _⟩
  | @tail past events c' c'' hpast hstep ih =>
      rw [← List.append_assoc] at holds ⊢
      obtain ⟨s', follows', hgrown⟩ := ih
        (within.of_subset (List.subset_append_left ..))
        (fun h event hmem => alone h event (List.mem_append_left _ hmem))
        (holds.of_append (.single hstep))
      obtain ⟨s'', follows'', hgrown', -⟩ := follows'.step run hstep
        (within.of_subset (List.subset_append_right ..))
        (fun h event hmem => alone h event (List.mem_append_right _ hmem))
        (by
          rintro action rfl
          exact holds.finds follows'.path hstep)
      exact ⟨s'', follows'', hgrown.trans hgrown'⟩

/-- From the beginning of an operation on, its thread keeps a journal. -/
theorem follows_of_began
    (steps : Steps fd c (.began thread operation :: during) c')
    (run : Run fd before c) (within : during.IsWithin thread)
    (meets : J.protocol.Meets thread (operation.program fd) post
      { left := c.channel })
    (alone : J.alone → ∀ event ∈ during, event.thread = thread)
    (holds : J.Holds fd thread c (.began thread operation :: during) c') :
    ∃ s, J.Follows fd thread operation post c
      (.began thread operation :: during) c' s := by
  have path : Steps fd c ([] ++ .began thread operation :: during) c' := steps
  obtain ⟨c₁, c₂, silent, began, rest⟩ := path.split
  obtain ⟨running, hchannel⟩ := began.running_of_began
  replace hchannel : c₂.channel = c.channel :=
    hchannel.trans silent.channel_eq_of_silent
  have opened : J.Follows fd thread operation post c
      [.began thread operation] c₂ { left := c.channel } :=
    ⟨silent.tail began, hchannel ▸ .refl _, fun _ => hchannel, rfl, by simp,
      .inl ⟨_, running, meets⟩⟩
  obtain ⟨s, follows, _⟩ := opened.steps run rest within alone holds
  exact ⟨s, follows⟩

/-- What the journal of an operation tells, once it has ended. -/
structure Tells (J : Prospect) (fd : Fd) (thread : Thread)
    (operation : Channel.Operation) (c : Config) (during : Trace)
    (reply : Channel.Reply) (c' : Config) (s : Journal) : Prop where
  drifts : s.left.Drifts thread c'.channel
  alone : J.alone → c'.channel = s.left
  exchanges : during.exchanges thread = s.exchanges
  turns : ∀ change ∈ s.changes, Steps.Turns fd thread c
    (during.framed thread operation reply) c' change.1 change.2

/-- What the journal says at the end of the operation. -/
theorem Follows.ended {reply : Channel.Reply}
    (follows : J.Follows fd thread operation post start
      (.began thread operation :: during) c s) (run : Run fd before start)
    (steps : Steps fd c [.ended thread operation reply] c')
    (holds : J.Holds fd thread start (during.framed thread operation reply)
      c') :
    ∃ s', s.changes <+: s'.changes ∧ post reply s' ∧
      J.Tells fd thread operation start during reply c' s' := by
  have path : Steps fd c ([] ++ .ended thread operation reply :: []) c' := steps
  obtain ⟨c₁, c₂, silent, ended, silent'⟩ := path.split
  have closing : Steps fd c₁ [.ended thread operation reply] c' :=
    (Steps.single ended).trans silent'
  obtain ⟨s', follows', hgrown⟩ := follows.steps run silent
    (fun _ hmem => nomatch hmem) (fun _ _ hmem => nomatch hmem)
    (by
      rw [List.append_nil]
      exact holds.of_append closing)
  rw [List.append_nil] at follows'
  obtain ⟨-, hpost⟩ := follows'.running ended.done_of_ended
  have hchannel : c'.channel = c₁.channel := by
    rw [silent'.channel_eq_of_silent]
    cases ended
    rfl
  exact ⟨s', hgrown, hpost, hchannel ▸ follows'.drifts,
    fun h => hchannel.trans (follows'.alone h), follows'.exchanges.symm,
    fun change hmem => (follows'.turns change hmem).append closing⟩

end Follows

end Prospect

section Episode

variable {J : Prospect} {fd : Fd} {thread : Thread}
  {operation : Channel.Operation} {post : Channel.Reply → Journal → Prop}
  {before during : Trace} {c c' : Config} {reply : Channel.Reply}

theorem Episode.steps
    (episode : Episode fd thread operation c during reply c') :
    Steps fd c (during.framed thread operation reply) c' := by
  obtain ⟨c₁, c₂, began, steps, ended⟩ := episode.passes
  exact ((Steps.single began).trans steps).tail ended

/-- An operation ends as its program says of the journals that it ends with. -/
theorem Episode.journal
    (episode : Episode fd thread operation c during reply c')
    (run : Run fd before c)
    (meets : J.protocol.Meets thread (operation.program fd) post
      { left := c.channel })
    (alone : J.alone → ∀ event ∈ during, event.thread = thread)
    (holds : J.Holds fd thread c (during.framed thread operation reply) c') :
    ∃ s, post reply s ∧
      J.Tells fd thread operation c during reply c' s := by
  obtain ⟨c₂, underway, ended⟩ := episode.underway
  obtain ⟨s, follows⟩ := Prospect.follows_of_began underway.steps run
    episode.within meets alone (holds.of_append (.single ended))
  obtain ⟨s', -, hpost, tells⟩ := follows.ended run (.single ended) holds
  exact ⟨s', hpost, tells⟩

/-- An action on the way from the beginning of an operation to its end is in the
journal. -/
theorem Prospect.journal_through {past rest : Trace} {action : Action}
    {c₁ c₂ c₃ : Config}
    (hpast : Steps fd c (.began thread operation :: past) c₁)
    (step : Step fd c₁ [.acted thread action] c₂)
    (hrest : Steps fd c₂ rest c₃)
    (ended : Steps fd c₃ [.ended thread operation reply] c')
    (run : Run fd before c)
    (within : Trace.IsWithin thread (past ++ [.acted thread action] ++ rest))
    (meets : J.protocol.Meets thread (operation.program fd) post
      { left := c.channel })
    (alone : J.alone → ∀ event ∈ past ++ [.acted thread action] ++ rest,
      event.thread = thread)
    (holds : J.Holds fd thread c (Trace.framed
      (past ++ [.acted thread action] ++ rest) thread operation reply) c') :
    ∃ s, post reply s ∧ (c₁.channel, c₂.channel) ∈ s.changes ∧
      J.Tells fd thread operation c (past ++ [.acted thread action] ++ rest)
        reply c' s := by
  have holds₃ : J.Holds fd thread c (.began thread operation ::
      past ++ [.acted thread action] ++ rest) c₃ := holds.of_append ended
  have holds₂ : J.Holds fd thread c (.began thread operation ::
      past ++ [.acted thread action]) c₂ := holds₃.of_append hrest
  obtain ⟨s, follows⟩ := follows_of_began hpast run
    (within.of_subset fun event hmem => by simp [hmem]) meets
    (fun h event hmem => alone h event (by simp [hmem]))
    (holds₂.of_append (.single step))
  obtain ⟨s₁, follows₁, -, hacted⟩ := follows.step run step
    (within.of_subset (by simp))
    (fun h event hmem => alone h event (by simp_all)) (by
      rintro _ ⟨⟩
      exact holds₂.finds hpast step)
  obtain ⟨s₂, follows₂, hgrown⟩ := follows₁.steps run hrest
    (within.of_subset (List.subset_append_right ..))
    (fun h event hmem => alone h event (List.mem_append_right _ hmem)) holds₃
  obtain ⟨s₃, hgrown', hpost, tells⟩ := follows₂.ended run ended holds
  exact ⟨s₃, hpost, hgrown'.subset (hgrown.subset (hacted action rfl)), tells⟩

/-- Each action of the thread is in a journal of the operation. -/
theorem Episode.journal_of_turns {channel channel' : Channel}
    (episode : Episode fd thread operation c during reply c')
    (run : Run fd before c)
    (meets : J.protocol.Meets thread (operation.program fd) post
      { left := c.channel })
    (alone : J.alone → ∀ event ∈ during, event.thread = thread)
    (holds : J.Holds fd thread c (during.framed thread operation reply) c')
    (turns : Steps.Turns fd thread c (during.framed thread operation reply) c'
      channel channel') :
    ∃ s, post reply s ∧ (channel, channel') ∈ s.changes ∧
      J.Tells fd thread operation c during reply c' s := by
  obtain ⟨past, action, rest, c₁, c₂, hpast, step, hrest, htrace, rfl, rfl⟩ :=
    turns
  rw [Trace.framed] at htrace
  obtain _ | ⟨first, past⟩ := past
  · cases htrace
  obtain rfl | ⟨rest, last, rfl⟩ := List.eq_nil_or_concat rest
  · have h := (List.append_inj' htrace rfl).2
    cases h
  obtain ⟨rfl, htrace⟩ := List.cons_eq_cons.mp htrace
  have hsplit : during ++ [.ended thread operation reply] =
      past ++ [.acted thread action] ++ rest ++ [last] := by
    simpa using htrace
  obtain ⟨rfl, hlast⟩ := List.append_inj' hsplit rfl
  obtain rfl := List.singleton_inj.mp hlast
  rw [List.concat_eq_append] at hrest
  obtain ⟨c₃, c₄, hrest, ended, silent⟩ := hrest.split
  exact Prospect.journal_through hpast step hrest
    ((Steps.single ended).trans silent) run episode.within meets alone holds

end Episode

end LocalSocket
