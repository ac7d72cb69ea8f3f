import LocalSocket.Proofs.Aloof
import LocalSocket.Proofs.Lifecycle.Ascent
import LocalSocket.Proofs.Solo

/-!
# Operations in the midst of others

What an operation comes to depends on what it finds of the channel on its way.
An outlook says what that may be: nothing more is known of the other threads.
The fields are another matter while the state lock is held, since then nobody
else can change them.

What is assumed of the channel is used in the program of the operation, and is
shown of every moment of a run at which the operation takes an action.
-/

namespace LocalSocket

/-- The fields, for a thread that holds the state lock. -/
def Channel.known (channel : Channel) (thread : Thread) : Option Fields :=
  if channel.locks.state = some thread then some channel.fields else none

theorem Channel.known_eq_some {channel : Channel} {thread : Thread}
    {fields : Fields} : channel.known thread = some fields ↔
      channel.locks.state = some thread ∧ channel.fields = fields := by
  unfold known
  split <;> simp_all

/-- A step of the thread inside its operation. -/
inductive Advance (thread : Thread) (c : Config) : Trace → Config → Prop where
  | act {operation : Channel.Operation} {action : Action}
      {next : action.Result → Program Channel.Reply} {channel : Channel}
      {result : action.Result}
      (running : c.activity thread = .running operation (.act action next))
      (answered : c.channel.answer thread action = .answered channel result) :
      Advance thread c [.acted thread action]
        { c.set thread (.running operation (next result)) with
          channel := channel }
  | pause {operation : Channel.Operation}
      {next : Unit → Program Channel.Reply}
      (running : c.activity thread = .running operation (.act .pause next)) :
      Advance thread c [.acted thread .pause]
        (c.set thread (.running operation (next ())))
  | unroll {operation : Channel.Operation} {β : Type}
      {body : Program (Option β)} {next : β → Program Channel.Reply}
      (running : c.activity thread = .running operation (.loop body next)) :
      Advance thread c []
        (c.set thread (.running operation (.unroll body next)))
  | call {operation : Channel.Operation} {call : Call}
      {next : call.Answer → Program Channel.Reply}
      (running : c.activity thread =
        .running operation (.act (.call call) next)) :
      Advance thread c [.called thread call]
        (c.set thread (.calling operation call next))
  | answer {operation : Channel.Operation} {call : Call}
      {next : call.Answer → Program Channel.Reply} (answer : call.Answer)
      (calling : c.activity thread = .calling operation call next) :
      Advance thread c [.answered thread call answer]
        (c.set thread (.running operation (next answer)))

/-- As long as a thread neither begins nor ends anything, a step is one of its
own, or leaves it where it is. -/
theorem Step.advance {fd : Fd} {c c' : Config} {events : Trace}
    (step : Step fd c events c') {thread : Thread}
    (within : events.IsWithin thread) :
    (c'.activity thread = c.activity thread ∧
        ∀ event ∈ events, event.thread ≠ thread) ∨
      Advance thread c events c' := by
  cases step with
  | @begin other | @drop other | @finish other =>
      have hne : other ≠ thread := by
        rintro rfl
        cases within _ (Trace.mem_own.mpr ⟨List.mem_singleton.mpr rfl, rfl⟩)
      exact .inl ⟨by simp [Ne.symm hne], by simpa using hne⟩
  | @act other _ _ _ _ _ running answered =>
      by_cases ht : other = thread
      · subst ht
        exact .inr (.act running answered)
      · exact .inl ⟨by simp [Ne.symm ht], by simpa using ht⟩
  | @pause other _ _ running =>
      by_cases ht : other = thread
      · subst ht
        exact .inr (.pause running)
      · exact .inl ⟨by simp [Ne.symm ht], by simpa using ht⟩
  | @unroll other _ _ _ _ running =>
      by_cases ht : other = thread
      · subst ht
        exact .inr (.unroll running)
      · exact .inl ⟨by simp [Ne.symm ht], by simp⟩
  | @call other _ _ _ running =>
      by_cases ht : other = thread
      · subst ht
        exact .inr (.call running)
      · exact .inl ⟨by simp [Ne.symm ht], by simpa using ht⟩
  | @answer other _ _ _ answer calling =>
      by_cases ht : other = thread
      · subst ht
        exact .inr (.answer answer calling)
      · exact .inl ⟨by simp [Ne.symm ht], by simpa using ht⟩

/-- What the thread of an operation knows: the fields, while it holds the state
lock, and what it has noted. -/
structure View (ν : Type) where
  fields : Option Fields := none
  note : ν

structure Outlook (ν : Type) where
  start : ν
  /-- How the channel may be when the operation takes an action. -/
  finds : ν → Action → Channel → Prop
  /-- What is noted of an answer, and of the channel at the time. -/
  notes : ν → (call : Call) → call.Answer → Channel → ν
  /-- The calls that the operation may make. -/
  allows : Call → Prop

namespace Outlook

variable {ν : Type} (W : Outlook ν)

def Takes (thread : Thread) (s : View ν) :
    (action : Action) → (action.Result → View ν → Prop) → Prop
  | .call call, k =>
      W.allows call ∧ ∀ channel answer,
        k answer { s with note := W.notes s.note call answer channel }
  | .pause, k => k () s
  | action, k =>
      ∀ channel channel' result,
        channel.answer thread action = .answered channel' result →
        channel.known thread = s.fields →
        (channel.isOpen = true → channel.fields.state.isLive = true) →
        W.finds s.note action channel →
        k result { s with fields := channel'.known thread }

def protocol : Protocol (View ν) where
  act thread s action k := W.Takes thread s action k
  mono := by
    intro thread s action k k' himp h
    cases action with
    | call call =>
        exact ⟨h.1, fun channel answer => himp _ _ (h.2 channel answer)⟩
    | pause => exact himp _ _ h
    | _ =>
        exact fun channel channel' result answered known live found =>
          himp _ _ (h channel channel' result answered known live found)
  rest := { note := W.start }
  opens := fun _ => { note := W.start }
  closes := fun _ _ _ => True

section Rules

open Protocol

variable {W} {thread : Thread} {s : View ν} {fields : Fields} {α : Type}

theorem act_acquire_state {k : Unit → View ν → Prop}
    (hk : ∀ channel : Channel,
      (channel.isOpen = true → channel.fields.state.isLive = true) →
      W.finds s.note (.acquire .state) channel →
        k () { s with fields := some channel.fields }) :
    W.protocol.act thread s (.acquire .state) k := by
  intro channel channel' result answered known live found
  obtain ⟨_, rfl⟩ := Channel.answer_acquire answered
  have hknown : Channel.known { channel with
      locks := channel.locks.setHolder .state (some thread) } thread =
      some channel.fields := Channel.known_eq_some.mpr ⟨rfl, rfl⟩
  rw [hknown]
  exact hk channel live found

theorem known_setHolder {channel : Channel} {lock : Lock} (h : lock ≠ .state)
    (holder : Option Thread) : Channel.known { channel with
      locks := channel.locks.setHolder lock holder } thread =
      channel.known thread := by
  cases lock <;> first | rfl | exact absurd rfl h

theorem act_acquire {lock : Lock} {k : Unit → View ν → Prop}
    (h : lock ≠ .state) (hk : k () s) :
    W.protocol.act thread s (.acquire lock) k := by
  have h' : W.protocol.act thread s (.acquire lock) k := by
    intro channel channel' result answered known live found
    obtain ⟨_, rfl⟩ := Channel.answer_acquire answered
    rw [known_setHolder h, known]
    exact hk
  exact h'

theorem act_fields {k : Fields → View ν → Prop} (known : s.fields = some fields)
    (hk : ∀ channel : Channel, channel.fields = fields →
      W.finds s.note .fields channel → k fields s) :
    W.protocol.act thread s .fields k := by
  intro channel channel' result answered hknown live found
  cases answered
  obtain ⟨_, rfl⟩ := Channel.known_eq_some.mp (hknown.trans known)
  rw [hknown]
  exact hk channel rfl found

theorem act_put {fields' : Fields} {k : Unit → View ν → Prop}
    (known : s.fields = some fields)
    (hk : k () { s with fields := some fields' }) :
    W.protocol.act thread s (.put fields') k := by
  intro channel channel' result answered hknown live found
  cases answered
  obtain ⟨held, rfl⟩ := Channel.known_eq_some.mp (hknown.trans known)
  have hput : Channel.known { channel with fields := fields' } thread =
      some fields' := Channel.known_eq_some.mpr ⟨held, rfl⟩
  rw [hput]
  exact hk

/-- A thread that finds the channel open knows what that means for the
fields. -/
theorem act_isOpen {k : Bool → View ν → Prop}
    (hk : ∀ channel : Channel, W.finds s.note .isOpen channel →
      (channel.isOpen = true → ∀ fields, s.fields = some fields →
        fields.state.isLive = true) → k channel.isOpen s) :
    W.protocol.act thread s .isOpen k := by
  intro channel channel' result answered known live found
  cases answered
  rw [known]
  refine hk channel found fun isOpen fields hfields => ?_
  obtain ⟨_, rfl⟩ := Channel.known_eq_some.mp (known.trans hfields)
  exact live isOpen

theorem act_isBlocking {k : Bool → View ν → Prop}
    (hk : ∀ channel : Channel, W.finds s.note .isBlocking channel →
      k channel.isBlocking s) : W.protocol.act thread s .isBlocking k := by
  intro channel channel' result answered known live found
  cases answered
  rw [known]
  exact hk channel found

/-- Whatever is done, other than making a call, what has been noted stays. -/
theorem act_keeps {action : Action} {k : action.Result → View ν → Prop}
    (h : ∀ call, action ≠ .call call)
    (hk : ∀ result s', s'.note = s.note → k result s') :
    W.protocol.act thread s action k := by
  cases action with
  | call call => exact absurd rfl (h call)
  | pause => exact hk () s rfl
  | _ => exact fun _ _ _ _ _ _ _ => hk _ _ rfl

/-- What a section leaves behind does not depend on the lock. -/
theorem holding_meets {lock : Lock} {body : Program α} {Q : α → ν → Prop}
    (h : lock ≠ .state)
    (hbody : W.protocol.Meets thread body (fun value s' => Q value s'.note) s) :
    W.protocol.Meets thread (Program.holding lock body)
      (fun value s' => Q value s'.note) s := by
  rw [meets_holding]
  exact act_acquire h (hbody.mono fun value s' hvalue =>
    act_keeps (fun _ => nofun) fun _ s'' hnote => by rwa [hnote])

/-- In a section under the state lock, the fields are those of the moment in
which the lock was taken. -/
theorem holding_state_meets {body : Program α} {Q : α → ν → Prop}
    (hbody : ∀ channel : Channel,
      (channel.isOpen = true → channel.fields.state.isLive = true) →
      W.finds s.note (.acquire .state) channel →
      W.protocol.Meets thread body (fun value s' => Q value s'.note)
        { s with fields := some channel.fields }) :
    W.protocol.Meets thread (Program.holding .state body)
      (fun value s' => Q value s'.note) s := by
  rw [meets_holding]
  exact act_acquire_state fun channel live found =>
    (hbody channel live found).mono fun value s' hvalue =>
      act_keeps (fun _ => nofun) fun _ s'' hnote => by rwa [hnote]

theorem fields_meets {next : Fields → Operating α}
    {post : Except ChannelError α → View ν → Prop}
    (known : s.fields = some fields)
    (hnext : ∀ channel : Channel, channel.fields = fields →
      W.finds s.note .fields channel →
        W.protocol.Meets thread (next fields).run post s) :
    W.protocol.Meets thread (Operating.perform .fields >>= next).run post
      s := by
  rw [meets_run_bind]
  exact act_fields known hnext

theorem ensureOpen_meets {post : Except ChannelError Unit → View ν → Prop}
    (opened : ∀ channel : Channel, W.finds s.note .isOpen channel →
      channel.isOpen = true → (∀ fields, s.fields = some fields →
        fields.state.isLive = true) → post (.ok ()) s)
    (closed : ∀ channel : Channel, W.finds s.note .isOpen channel →
      channel.isOpen = false → post (.error .closed) s) :
    W.protocol.Meets thread Channel.ensureOpen.run post s := by
  rw [Channel.ensureOpen, meets_run_bind]
  refine act_isOpen fun channel found live => ?_
  cases hopen : channel.isOpen with
  | true => exact opened channel found hopen (live hopen)
  | false => exact closed channel found hopen

/-- An aloof program makes no difference to what has been noted. -/
theorem meets_of_aloof {I : ν → Prop}
    (allowed : ∀ call, call.isBlocking = false → W.allows call)
    (unnoted : ∀ note call answer channel, call.isBlocking = false → I note →
      I (W.notes note call answer channel))
    {program : Program α} {post : α → Unit → Prop}
    (aloof : Protocol.aloof.Meets 0 program post ()) (hs : I s.note) :
    W.protocol.Meets thread program
      (fun value s' => I s'.note ∧ post value ()) s := by
  induction program generalizing s with
  | done value => exact ⟨hs, aloof⟩
  | act action next ih =>
      obtain ⟨haloof, hnext⟩ := aloof
      cases action with
      | call call =>
          have hcall : call.isBlocking = false := by
            simpa using haloof
          exact ⟨allowed call hcall, fun channel answer =>
            ih answer (hnext answer) (unnoted _ _ _ _ hcall hs)⟩
      | _ =>
          exact act_keeps (fun _ => nofun) fun result s' hnote =>
            ih result (hnext result) (by simpa [hnote] using hs)
  | loop body next ihBody ihNext =>
      obtain ⟨hguard, invariant, hinvariant, hbody⟩ := aloof
      refine meets_loop (fun s' => I s'.note) hguard hs fun s' hs' => ?_
      refine (ihBody (hbody () hinvariant) hs').mono
        fun value s'' ⟨hnote, hvalue⟩ => ?_
      cases value with
      | none => exact hnote
      | some value => exact ihNext value hvalue hnote

theorem maintains_of_isAloof {I : ν → Prop}
    (allowed : ∀ call, call.isBlocking = false → W.allows call)
    (unnoted : ∀ note call answer channel, call.isBlocking = false → I note →
      I (W.notes note call answer channel))
    {program : Program α} (aloof : program.IsAloof) :
    W.protocol.Maintains thread (fun s => I s.note) program :=
  fun _ hs => (meets_of_aloof allowed unnoted aloof hs).mono fun _ _ h => h.1

end Rules

/-! ## Following an operation -/

/-- The thread is inside the operation, has come as far with it as its program
and what it knows say, and is bound to end as `post` says. -/
structure Follows (W : Outlook ν) (thread : Thread)
    (operation : Channel.Operation) (post : Channel.Reply → View ν → Prop)
    (c : Config) (s : View ν) : Prop where
  known : c.channel.known thread = s.fields
  inside : (∃ rest, c.activity thread = .running operation rest ∧
      W.protocol.Meets thread rest post s) ∨
    ∃ call next, c.activity thread = .calling operation call next ∧
      W.protocol.act thread s (.call call) fun answer =>
        W.protocol.Meets thread (next answer) post

section Follows

variable {W : Outlook ν} {fd : Fd} {thread : Thread}
  {operation : Channel.Operation} {post : Channel.Reply → View ν → Prop}
  {trace events : Trace} {c c' : Config} {s : View ν}

/-- Nobody else changes what a thread knows of the fields. -/
theorem known_eq (step : Step fd c events c') (run : Run fd trace c)
    (others : ∀ event ∈ events, event.thread ≠ thread) :
    c'.channel.known thread = c.channel.known thread := by
  cases step with
  | @act other operation action next channel result running answered =>
      obtain ⟨S, coherent, keeps⟩ := run.coherent
      have hkeeps := keeps other
      rw [running] at hkeeps
      obtain ⟨s', _, moves⟩ := moves_of_takes coherent.locked
        coherent.recorded coherent.phased (hkeeps trivial) answered
      have hne : other ≠ thread := others _ (List.mem_singleton.mpr rfl)
      have hbefore := coherent.locked.state thread
      have hafter := (coherent.locked.move moves).state thread
      rw [Function.update_of_ne (Ne.symm hne)] at hafter
      exact hafter.symm.trans hbefore
  | _ => rfl

theorem Follows.running (follows : W.Follows thread operation post c s)
    {operation' : Channel.Operation} {rest : Program Channel.Reply}
    (running : c.activity thread = .running operation' rest) :
    operation' = operation ∧ W.protocol.Meets thread rest post s := by
  obtain ⟨rest', running', hmeets⟩ | ⟨call, next, calling, _⟩ := follows.inside
  · rw [running] at running'
    cases running'
    exact ⟨rfl, hmeets⟩
  · rw [running] at calling
    cases calling

theorem Follows.calling (follows : W.Follows thread operation post c s)
    {operation' : Channel.Operation} {call : Call}
    {next : call.Answer → Program Channel.Reply}
    (calling : c.activity thread = .calling operation' call next) :
    operation' = operation ∧ W.protocol.act thread s (.call call) fun answer =>
      W.protocol.Meets thread (next answer) post := by
  obtain ⟨rest', running, _⟩ | ⟨call, next, calling', hact⟩ := follows.inside
  · rw [calling] at running
    cases running
  · rw [calling] at calling'
    cases calling'
    exact ⟨rfl, hact⟩

/-- How a step changes what has been noted: by an answer to the thread only. -/
structure Notes (W : Outlook ν) (thread : Thread) (events : Trace)
    (channel : Channel) (note note' : ν) : Prop where
  answered : ∀ call answer, events = [.answered thread call answer] →
    note' = W.notes note call answer channel
  otherwise : (∀ call answer, events ≠ [.answered thread call answer]) →
    note' = note

theorem Notes.same {channel : Channel} {note : ν}
    (h : ∀ call answer, events ≠ [.answered thread call answer]) :
    W.Notes thread events channel note note :=
  ⟨fun call answer hevents => absurd hevents (h call answer), fun _ => rfl⟩

theorem Follows.frame (follows : W.Follows thread operation post c s)
    (hactivity : c'.activity thread = c.activity thread)
    (hknown : c'.channel.known thread = c.channel.known thread) :
    W.Follows thread operation post c' s :=
  ⟨hknown.trans follows.known, by simpa [hactivity] using follows.inside⟩

theorem Takes.answered {action : Action} {channel channel' : Channel}
    {result : action.Result} {k : action.Result → View ν → Prop}
    (takes : W.protocol.act thread s action k)
    (answered : channel.answer thread action = .answered channel' result)
    (known : channel.known thread = s.fields)
    (live : channel.isOpen = true → channel.fields.state.isLive = true)
    (found : W.finds s.note action channel) :
    k result { s with fields := channel'.known thread } := by
  cases action with
  | call | pause => cases answered
  | _ => exact takes channel channel' result answered known live found

/-- A step of the thread is one of its program, and others do not change what it
knows. -/
theorem Follows.step (follows : W.Follows thread operation post c s)
    (run : Run fd trace c) (step : Step fd c events c')
    (within : events.IsWithin thread)
    (finds : ∀ action, events = [.acted thread action] →
      W.finds s.note action c.channel) :
    ∃ s', W.Follows thread operation post c' s' ∧
      W.Notes thread events c.channel s.note s'.note ∧
      ∀ call, .called thread call ∈ events → W.allows call := by
  obtain ⟨hactivity, hothers⟩ | advance := step.advance within
  · refine ⟨s, follows.frame hactivity (known_eq step run hothers), .same ?_,
      fun call hmem => absurd rfl (hothers _ hmem)⟩
    rintro call answer rfl
    exact hothers _ (List.mem_singleton.mpr rfl) rfl
  cases advance with
  | @act _ action _ channel result running answered =>
      obtain ⟨rfl, takes⟩ := follows.running running
      obtain ⟨S, coherent, _⟩ := run.coherent
      exact ⟨_, ⟨rfl, .inl ⟨_, by simp, Takes.answered takes answered
        follows.known coherent.phased.live (finds action rfl)⟩⟩,
        .same (by simp), by simp⟩
  | @pause _ next running =>
      obtain ⟨rfl, takes⟩ := follows.running running
      exact ⟨s, ⟨follows.known, .inl ⟨next (), by simp, takes⟩⟩,
        .same (by simp), by simp⟩
  | unroll running =>
      obtain ⟨rfl, hmeets⟩ := follows.running running
      exact ⟨s, ⟨follows.known, .inl ⟨_, by simp, hmeets.unroll⟩⟩,
        .same (by simp), by simp⟩
  | @call _ call next running =>
      obtain ⟨rfl, takes⟩ := follows.running running
      refine ⟨s, ⟨follows.known, .inr ⟨call, next, by simp, takes⟩⟩,
        .same (by simp), fun call' hmem => ?_⟩
      obtain rfl : call' = call := by simpa using hmem
      exact takes.1
  | @answer _ call next answer calling =>
      obtain ⟨rfl, takes⟩ := follows.calling calling
      refine ⟨{ s with note := W.notes s.note call answer c.channel },
        ⟨follows.known, .inl ⟨next answer, by simp,
          takes.2 c.channel answer⟩⟩, ⟨?_, ?_⟩, by simp⟩
      · rintro _ _ ⟨⟩
        rfl
      · exact fun h => absurd rfl (h call answer)

/-- What is shown of an operation moment by moment: `N` holds of what has been
noted, and implies what the operation may find. -/
structure Accompanies (W : Outlook ν) (fd : Fd) (thread : Thread)
    (during : Trace) (c₁ c₂ : Config) (N : Trace → Config → ν → Prop) :
    Prop where
  finds : ∀ {past action rest c c' note}, Steps fd c₁ past c →
    Step fd c [.acted thread action] c' → Steps fd c' rest c₂ →
    during = past ++ [.acted thread action] ++ rest → N past c note →
      W.finds note action c.channel
  goesOn : ∀ {past events rest c c' note note'}, Steps fd c₁ past c →
    Step fd c events c' → Steps fd c' rest c₂ →
    during = past ++ events ++ rest → N past c note →
      W.Notes thread events c.channel note note' → N (past ++ events) c' note'

theorem Follows.steps {before during : Trace} {c₁ c₂ : Config} {s : View ν}
    {N : Trace → Config → ν → Prop}
    (follows : W.Follows thread operation post c₁ s) (run : Run fd before c₁)
    (steps : Steps fd c₁ during c₂) (within : during.IsWithin thread)
    (accompanies : W.Accompanies fd thread during c₁ c₂ N)
    (start : N [] c₁ s.note) :
    ∃ s', W.Follows thread operation post c₂ s' ∧ N during c₂ s'.note ∧
      ∀ call, .called thread call ∈ during → W.allows call := by
  -- along the way, the rest of the steps is kept in view
  suffices along : ∀ past c, Steps fd c₁ past c →
      ∀ rest, Steps fd c rest c₂ → during = past ++ rest →
      ∃ s', W.Follows thread operation post c s' ∧ N past c s'.note ∧
        ∀ call, .called thread call ∈ past → W.allows call from
    along during c₂ steps [] .refl (by simp)
  intro past c hpast
  induction hpast with
  | refl => exact fun _ _ _ => ⟨s, follows, start, by simp⟩
  | @tail past events c c' hpast hstep ih =>
      intro rest hrest hduring
      obtain ⟨s', follows', hnote, hallows⟩ :=
        ih (events ++ rest) ((Steps.single hstep).trans hrest)
          (by rw [hduring, List.append_assoc])
      have hwithin : events.IsWithin thread := by
        intro event hmem
        apply within
        obtain ⟨hmem, hthread⟩ := Trace.mem_own.mp hmem
        exact Trace.mem_own.mpr ⟨by simp [hduring, hmem], hthread⟩
      obtain ⟨s'', follows'', hnotes, hallows'⟩ :=
        follows'.step (run.steps hpast) hstep hwithin fun action hevents => by
          subst hevents
          exact accompanies.finds hpast hstep hrest hduring hnote
      refine ⟨s'', follows'',
        accompanies.goesOn hpast hstep hrest hduring hnote hnotes,
        fun call hmem => ?_⟩
      obtain hmem | hmem := List.mem_append.mp hmem
      · exact hallows call hmem
      · exact hallows' call hmem

end Follows

/-- An outlook on which nothing is noted. -/
def plain (finds : Action → Channel → Prop) (allows : Call → Prop) :
    Outlook Unit where
  start := ()
  finds _ := finds
  notes _ _ _ _ := ()
  allows := allows

end Outlook

/-- An operation of a thread from its beginning on, with what has been seen
since. -/
structure Underway (fd : Fd) (thread : Thread) (operation : Channel.Operation)
    (c : Config) (during : Trace) (c' : Config) : Prop where
  passes : ∃ c₁, Step fd c [.began thread operation] c₁ ∧ Steps fd c₁ during c'
  within : during.IsWithin thread

/-- The thread has found the channel so when it has taken the action. -/
def Steps.Sees (fd : Fd) (thread : Thread) (c : Config) (trace : Trace)
    (c' : Config) (action : Action) (found : Channel → Prop) : Prop :=
  ∃ past rest c₁ c₂, Steps fd c past c₁ ∧
    Step fd c₁ [.acted thread action] c₂ ∧ Steps fd c₂ rest c' ∧
    trace = past ++ .acted thread action :: rest ∧ found c₁.channel

section Underway

variable {fd : Fd} {thread : Thread} {operation : Channel.Operation}
  {before during : Trace} {c c' : Config} {reply : Channel.Reply}

theorem Episode.underway
    (episode : Episode fd thread operation c during reply c') : ∃ c₂,
    Underway fd thread operation c during c₂ ∧
      Step fd c₂ [.ended thread operation reply] c' := by
  obtain ⟨c₁, c₂, began, steps, ended⟩ := episode.passes
  exact ⟨c₂, ⟨⟨c₁, began, steps⟩, episode.within⟩, ended⟩

theorem Underway.steps (underway : Underway fd thread operation c during c') :
    Steps fd c (.began thread operation :: during) c' := by
  obtain ⟨c₁, began, steps⟩ := underway.passes
  exact (Steps.single began).trans steps

theorem Step.known_of_began (step : Step fd c [.began thread operation] c')
    (run : Run fd before c) : c'.channel.known thread = none := by
  have idle : c.activity thread = .idle := by
    cases step with
    | begin idle => exact idle
    | drop idle => exact idle thread
  obtain ⟨S, coherent, keeps⟩ := run.coherent
  have rest := keeps thread
  rw [idle] at rest
  rw [step.running_of_began.2, Channel.known, ← coherent.locked.state thread]
  exact congrArg Standing.fields rest

/-- An operation that is underway is as far as its program is. -/
theorem Underway.follows {ν : Type} {W : Outlook ν}
    {post : Channel.Reply → View ν → Prop} {N : Trace → Config → ν → Prop}
    (underway : Underway fd thread operation c during c')
    (run : Run fd before c)
    (meets : W.protocol.Meets thread (operation.program fd) post
      { note := W.start })
    (accompanies : ∀ c₁, Step fd c [.began thread operation] c₁ →
      W.Accompanies fd thread during c₁ c' N)
    (start : ∀ c₁, Step fd c [.began thread operation] c₁ → N [] c₁ W.start) :
    ∃ s, W.Follows thread operation post c' s ∧ N during c' s.note ∧
      ∀ call, .called thread call ∈ during → W.allows call := by
  obtain ⟨c₁, began, steps⟩ := underway.passes
  have follows : W.Follows thread operation post c₁ { note := W.start } :=
    ⟨began.known_of_began run, .inl ⟨_, began.running_of_began.1, meets⟩⟩
  exact follows.steps (run.step began) steps underway.within
    (accompanies c₁ began) (start c₁ began)

section Plain

variable {finds : Action → Channel → Prop} {allows : Call → Prop}
  {post : Channel.Reply → View Unit → Prop}

/-- If an operation finds, whenever it takes an action, what its program relies
on, it makes only calls that its program allows. -/
theorem Underway.plain (underway : Underway fd thread operation c during c')
    (run : Run fd before c)
    (meets : (Outlook.plain finds allows).protocol.Meets thread
      (operation.program fd) post { note := () })
    (found : ∀ past action rest c₁ c₂, Steps fd c past c₁ →
      Step fd c₁ [.acted thread action] c₂ → Steps fd c₂ rest c' →
      .began thread operation :: during =
        past ++ .acted thread action :: rest → finds action c₁.channel) :
    ∃ s, (Outlook.plain finds allows).Follows thread operation post c' s ∧
      ∀ call, .called thread call ∈ during → allows call := by
  obtain ⟨s, follows, -, allowed⟩ := underway.follows
    (N := fun _ _ _ => True) run meets
    (fun c₁ began => ⟨fun hpast hstep hrest hduring _ => found _ _ _ _ _
      ((Steps.single began).trans hpast) hstep hrest (by simp [hduring]),
      fun _ _ _ _ _ _ => trivial⟩)
    fun _ _ => trivial
  exact ⟨s, follows, allowed⟩

/-- …and ends as its program does. -/
theorem Episode.plain (episode : Episode fd thread operation c during reply c')
    (run : Run fd before c)
    (meets : (Outlook.plain finds allows).protocol.Meets thread
      (operation.program fd) post { note := () })
    (found : ∀ past action rest c₁ c₂, Steps fd c past c₁ →
      Step fd c₁ [.acted thread action] c₂ → Steps fd c₂ rest c' →
      .began thread operation :: during ++ [.ended thread operation reply] =
        past ++ .acted thread action :: rest → finds action c₁.channel) :
    (∃ s, post reply s) ∧
      ∀ call, .called thread call ∈ during → allows call := by
  obtain ⟨c₂, underway, ended⟩ := episode.underway
  obtain ⟨s, follows, allowed⟩ := underway.plain run meets
    fun past action rest c₃ c₄ hpast hstep hrest hduring => by
      refine found past action (rest ++ [.ended thread operation reply]) c₃ c₄
        hpast hstep (hrest.tail ended) ?_
      rw [hduring]
      simp
  exact ⟨⟨s, (follows.running ended.done_of_ended).2⟩, allowed⟩

end Plain

end Underway

end LocalSocket
