import LocalSocket.Proofs.HalfClose.Transfers

/-!
# What does not depend on a direction being open

Two programs are alike if they take the same actions, of the same results, and
come to the same end, when all that they find differs in is whether a direction
is open; what they write may then differ in that, too.  Threads whose programs
are alike can be followed step by step from one configuration in another one
that differs from it in no more than that.
-/

namespace LocalSocket

namespace Fields

def withDirection (fields : Fields) (direction : Direction) (isOpen : Bool) :
    Fields :=
  { fields with
    inputOpen := if direction = .input then isOpen else fields.inputOpen
    outputOpen := if direction = .output then isOpen else fields.outputOpen }

variable (fields : Fields) (direction other : Direction) (isOpen : Bool)

@[simp] theorem withDirection_state :
    (fields.withDirection direction isOpen).state = fields.state := rfl

@[simp] theorem withDirection_holder :
    (fields.withDirection direction isOpen).holder = fields.holder := rfl

@[simp] theorem withDirection_remoteAddress :
    (fields.withDirection direction isOpen).remoteAddress =
      fields.remoteAddress := rfl

@[simp] theorem withDirection_threads :
    (fields.withDirection direction isOpen).threads = fields.threads := rfl

@[simp] theorem withDirection_isDirectionOpen :
    fields.withDirection direction (fields.isDirectionOpen direction) =
      fields := by
  cases direction <;> rfl

theorem isDirectionOpen_withDirection (h : other ≠ direction) :
    (fields.withDirection direction isOpen).isDirectionOpen other =
      fields.isDirectionOpen other := by
  cases direction <;> cases other <;> first | rfl | exact absurd rfl h

theorem withDirection_setSlot (thread : Option Thread) :
    (fields.withDirection direction isOpen).setSlot other thread =
      (fields.setSlot other thread).withDirection direction isOpen := by
  cases other <;> rfl

/-- Shutting down a direction changes nothing else. -/
theorem shutDirection_eq :
    fields.shutDirection direction = fields.withDirection direction false := by
  cases direction <;> rfl

theorem shutDirection_withDirection (h : other ≠ direction) :
    (fields.withDirection direction isOpen).shutDirection other =
      (fields.shutDirection other).withDirection direction isOpen := by
  cases direction <;> cases other <;> first | rfl | exact absurd rfl h

theorem withDirection_withDirection (isOpen' : Bool) :
    (fields.withDirection direction isOpen).withDirection direction isOpen' =
      fields.withDirection direction isOpen' := by
  cases direction <;> rfl

end Fields

namespace Channel

def withDirection (channel : Channel) (direction : Direction) (isOpen : Bool) :
    Channel :=
  { channel with fields := channel.fields.withDirection direction isOpen }

/-- Nothing but the fields shows whether a direction is open. -/
theorem answer_withDirection {channel channel' : Channel} {thread : Thread}
    {action : Action} {result : action.Result} {direction : Direction}
    (isOpen : Bool) (unseen : action ≠ .fields)
    (h : channel.answer thread action = .answered channel' result) :
    ∃ isOpen', (channel.withDirection direction isOpen).answer thread action =
      .answered (channel'.withDirection direction isOpen') result := by
  cases action with
  | acquire lock =>
      refine ⟨isOpen, ?_⟩
      simp only [answer, withDirection] at h ⊢
      split at h <;> cases h
      rfl
  | fields => exact absurd rfl unseen
  | put fields =>
      cases h
      refine ⟨fields.isDirectionOpen direction, ?_⟩
      simp [answer, withDirection]
  | own fd state blocking =>
      cases h
      exact ⟨true, by cases direction <;> rfl⟩
  | pause | call => cases h
  | _ =>
      cases h
      exact ⟨isOpen, rfl⟩

end Channel

/-! ## Programs -/

/-- The programs differ in no more than what they find, and write, of the
direction; they end with values in `R`. -/
inductive Program.Alike (direction : Direction) :
    {α : Type} → (α → α → Prop) → Program α → Program α → Prop where
  | done {α : Type} {R : α → α → Prop} {value value' : α} (h : R value value') :
      Alike direction R (.done value) (.done value')
  | fields {α : Type} {R : α → α → Prop} {next next' : Fields → Program α}
      (h : ∀ fields isOpen, Alike direction R (next fields)
        (next' (fields.withDirection direction isOpen))) :
      Alike direction R (.act .fields next) (.act .fields next')
  | put {α : Type} {R : α → α → Prop} {fields : Fields} {isOpen : Bool}
      {next next' : Unit → Program α}
      (h : Alike direction R (next ()) (next' ())) :
      Alike direction R (.act (.put fields) next)
        (.act (.put (fields.withDirection direction isOpen)) next')
  | act {α : Type} {R : α → α → Prop} {action : Action}
      {next next' : action.Result → Program α} (unseen : action ≠ .fields)
      (h : ∀ result, Alike direction R (next result) (next' result)) :
      Alike direction R (.act action next) (.act action next')
  | loop {α β : Type} {R : α → α → Prop} {body body' : Program (Option β)}
      {next next' : β → Program α} (hbody : Alike direction Eq body body')
      (hnext : ∀ value, Alike direction R (next value) (next' value)) :
      Alike direction R (.loop body next) (.loop body' next')

namespace Program

variable {direction : Direction} {α β : Type} {R : α → α → Prop}
  {S : β → β → Prop} {program program' : Program α}

theorem Alike.bind (h : program.Alike direction R program')
    {f f' : α → Program β}
    (hf : ∀ value value', R value value' →
      (f value).Alike direction S (f' value')) :
    (program.bind f).Alike direction S (program'.bind f') := by
  induction h with
  | done h => exact hf _ _ h
  | fields _ ih => exact .fields fun fields isOpen => ih fields isOpen hf
  | put _ ih => exact .put (ih hf)
  | act unseen _ ih => exact .act unseen fun result => ih result hf
  | loop hbody _ _ ihNext => exact .loop hbody fun value => ihNext value hf

theorem Alike.mono {R' : α → α → Prop} (h : program.Alike direction R program')
    (himp : ∀ value value', R value value' → R' value value') :
    program.Alike direction R' program' := by
  induction h with
  | done h => exact .done (himp _ _ h)
  | fields _ ih => exact .fields fun fields isOpen => ih fields isOpen himp
  | put _ ih => exact .put (ih himp)
  | act unseen _ ih => exact .act unseen fun result => ih result himp
  | loop hbody _ _ ihNext => exact .loop hbody fun value => ihNext value himp

theorem Alike.unroll {body body' : Program (Option β)}
    {next next' : β → Program α}
    (h : (Program.loop body next).Alike direction R (.loop body' next')) :
    (Program.unroll body next).Alike direction R
      (.unroll body' next') := by
  cases h with
  | loop hbody hnext =>
      refine hbody.bind ?_
      rintro value _ rfl
      cases value with
      | none => exact .loop hbody hnext
      | some value => exact hnext value

/-- A program that is like itself goes on so. -/
theorem Alike.next {action : Action} {next : action.Result → Program α}
    (h : (Program.act action next).Alike direction R (.act action next))
    (result : action.Result) :
    (next result).Alike direction R (next result) := by
  suffices goesOn : ∀ {program}, (Program.act action next).Alike direction R
      program → program = .act action next →
        (next result).Alike direction R (next result) from goesOn h rfl
  intro program h heq
  cases h with
  | fields alike =>
      cases heq
      have hsame := alike result (result.isDirectionOpen direction)
      rwa [Fields.withDirection_isDirectionOpen] at hsame
  | put alike =>
      obtain ⟨_, hnext⟩ := Program.act.inj heq
      rwa [eq_of_heq hnext] at alike
  | act _ alike =>
      cases heq
      exact alike result

end Program

/-! ## Configurations -/

namespace Channel.Operation

/-- What the operation does depends on whether the direction is open. -/
def heeds (direction : Direction) : Operation → Bool
  | shutdown other => other == direction
  | operation => operation.direction? == some direction

theorem heeds_of_direction? {direction other : Direction}
    {operation : Operation} (h : operation.direction? = some other) :
    operation.heeds direction = (other == direction) := by
  cases operation <;> cases h <;> rfl

/-- How the operation ends depends on it. -/
def tells (direction : Direction) : Operation → Bool
  | text | snapshot => true
  | operation => operation.heeds direction

theorem tells_of_direction? {direction : Direction} {operation : Operation}
    (h : operation.direction? = some direction) :
    operation.tells direction = true := by
  cases operation <;> cases h <;> rfl

/-- The operation ends in the same way, unless it tells of the direction. -/
def EndsAlike (direction : Direction) (operation : Operation)
    (reply reply' : Reply) : Prop :=
  operation.tells direction = false → reply' = reply

theorem EndsAlike.givesGuard {direction : Direction} {operation : Operation}
    {reply reply' : Reply} (h : operation.EndsAlike direction reply reply') :
    operation.givesGuard reply' = operation.givesGuard reply := by
  cases operation with
  | register => rw [h rfl]
  | _ => rfl

end Channel.Operation

inductive Activity.Alike (direction : Direction) : Activity → Activity → Prop
    where
  | idle : Alike direction .idle .idle
  | running {operation : Channel.Operation}
      {rest rest' : Program Channel.Reply}
      (h : rest.Alike direction (operation.EndsAlike direction) rest') :
      Alike direction (.running operation rest) (.running operation rest')
  | calling {operation : Channel.Operation} {call : Call}
      {next next' : call.Answer → Program Channel.Reply}
      (h : ∀ answer, (next answer).Alike direction
        (operation.EndsAlike direction) (next' answer)) :
      Alike direction (.calling operation call next)
        (.calling operation call next')

inductive Event.Alike (direction : Direction) : Event → Event → Prop where
  | same (event : Event) : Alike direction event event
  | put {thread : Thread} {fields : Fields} {isOpen : Bool} :
      Alike direction (.acted thread (.put fields))
        (.acted thread (.put (fields.withDirection direction isOpen)))
  | ended {thread : Thread} {operation : Channel.Operation}
      {reply reply' : Channel.Reply}
      (tells : operation.tells direction = true) :
      Alike direction (.ended thread operation reply)
        (.ended thread operation reply')

/-- The same has been seen, as far as it does not tell of the direction. -/
def Trace.Alike (direction : Direction) : Trace → Trace → Prop :=
  List.Forall₂ (Event.Alike direction)

/-- The configuration with the direction open or not, and all else the same. -/
def Config.withDirection (c : Config) (direction : Direction) (isOpen : Bool) :
    Config :=
  { c with channel := c.channel.withDirection direction isOpen }

structure Config.Alike (direction : Direction) (c c' : Config) : Prop where
  channel : ∃ isOpen, c'.channel = c.channel.withDirection direction isOpen
  activity : ∀ thread,
    (c.activity thread).Alike direction (c'.activity thread)
  guards : c'.guards = c.guards
  isDropped : c'.isDropped = c.isDropped

section Steps

variable {fd : Fd} {direction : Direction} {c c' d : Config}
  {trace events : Trace}

namespace Config.Alike

variable {thread : Thread} {operation : Channel.Operation}

theorem set (alike : c.Alike direction d) (thread : Thread)
    {activity activity' : Activity}
    (h : activity.Alike direction activity') :
    (c.set thread activity).Alike direction (d.set thread activity') := by
  refine ⟨alike.channel, fun other => ?_, alike.guards, alike.isDropped⟩
  by_cases ht : other = thread
  · subst ht
    simpa using h
  · simpa [ht] using alike.activity other

/-! What a thread does in one of the configurations, it does in the other. -/

theorem idle (alike : c.Alike direction d) (h : c.activity thread = .idle) :
    d.activity thread = .idle := by
  have like := alike.activity thread
  rw [h] at like
  generalize d.activity thread = activity at like
  cases like
  rfl

theorem running {program : Program Channel.Reply} (alike : c.Alike direction d)
    (h : c.activity thread = .running operation program) :
    ∃ program', d.activity thread = .running operation program' ∧
      program.Alike direction (operation.EndsAlike direction) program' := by
  have like := alike.activity thread
  rw [h] at like
  generalize d.activity thread = activity at like
  cases like with
  | running like => exact ⟨_, rfl, like⟩

theorem calling {call : Call} {next : call.Answer → Program Channel.Reply}
    (alike : c.Alike direction d)
    (h : c.activity thread = .calling operation call next) :
    ∃ next', d.activity thread = .calling operation call next' ∧
      ∀ answer, (next answer).Alike direction (operation.EndsAlike direction)
        (next' answer) := by
  have like := alike.activity thread
  rw [h] at like
  generalize d.activity thread = activity at like
  cases like with
  | calling like => exact ⟨_, rfl, like⟩

/-- Fields are found, and written, that differ in the direction; any other
action is the same in both configurations. -/
theorem act {action : Action} {next : action.Result → Program Channel.Reply}
    {program : Program Channel.Reply} {channel : Channel}
    {result : action.Result} (alike : c.Alike direction d)
    (running : d.activity thread = .running operation program)
    (like : (Program.act action next).Alike direction
      (operation.EndsAlike direction) program)
    (answered : c.channel.answer thread action = .answered channel result) :
    ∃ events d', Step fd d events d' ∧
      Trace.Alike direction [.acted thread action] events ∧
      Config.Alike direction
        { c.set thread (.running operation (next result)) with
          channel := channel } d' := by
  obtain ⟨isOpen, hchannel⟩ := alike.channel
  cases like with
  | fields like =>
      cases answered
      have hset := alike.set thread (.running (like c.channel.fields isOpen))
      have answered' : d.channel.answer thread .fields = .answered d.channel
          (c.channel.fields.withDirection direction isOpen) := by
        rw [hchannel]
        rfl
      exact ⟨_, _, .act running answered', .cons (.same _) .nil,
        ⟨_, hchannel⟩, hset.activity, alike.guards, alike.isDropped⟩
  | put like =>
      cases answered
      have hset := alike.set thread (.running like)
      exact ⟨_, _, .act running rfl, .cons .put .nil,
        ⟨_, by rw [hchannel]; rfl⟩, hset.activity, alike.guards,
        alike.isDropped⟩
  | act unseen like =>
      obtain ⟨isOpen', answered'⟩ :=
        Channel.answer_withDirection isOpen unseen answered
      have hset := alike.set thread (.running (like result))
      exact ⟨_, _, .act running (hchannel ▸ answered'), .cons (.same _) .nil,
        ⟨_, rfl⟩, hset.activity, alike.guards, alike.isDropped⟩

end Config.Alike

theorem Channel.Operation.EndsAlike.event {operation : Channel.Operation}
    {reply reply' : Channel.Reply} (thread : Thread)
    (h : operation.EndsAlike direction reply reply') :
    Event.Alike direction (.ended thread operation reply)
      (.ended thread operation reply') := by
  cases htells : operation.tells direction with
  | true => exact .ended htells
  | false =>
      rw [h htells]
      exact .same _

/-- A step from one of two configurations that are alike can be taken from the
other. -/
theorem Step.alike (step : Step fd c events c') (alike : c.Alike direction d)
    (programs : ∀ thread operation, .began thread operation ∈ events →
      (operation.program fd).Alike direction (operation.EndsAlike direction)
        (operation.program fd)) :
    ∃ events' d', Step fd d events' d' ∧ Trace.Alike direction events events' ∧
      c'.Alike direction d' := by
  cases step with
  | @begin thread operation idle isLive hasGuard =>
      have hset := alike.set thread
        (.running (programs thread operation (by simp)))
      rw [← alike.guards] at hasGuard
      exact ⟨_, _, .begin (alike.idle idle) (alike.isDropped.trans isLive)
        hasGuard, .cons (.same _) .nil, hset.channel, hset.activity,
        congrArg (· - _) alike.guards, alike.isDropped⟩
  | @drop thread idle unguarded isLive =>
      have hset := alike.set thread
        (.running (programs thread .close (by simp)))
      exact ⟨_, _, .drop (fun other => alike.idle (idle other))
        (alike.guards.trans unguarded) (alike.isDropped.trans isLive),
        .cons (.same _) .nil, hset.channel, hset.activity, alike.guards, rfl⟩
  | act running answered =>
      obtain ⟨_, running', like⟩ := alike.running running
      exact alike.act running' like answered
  | @pause thread operation next running =>
      obtain ⟨_, running', like⟩ := alike.running running
      cases like with
      | act _ like =>
          exact ⟨_, _, .pause running', .cons (.same _) .nil,
            alike.set thread (.running (like ()))⟩
  | @unroll thread operation β body next running =>
      obtain ⟨_, running', like⟩ := alike.running running
      cases like with
      | loop hbody hnext =>
          exact ⟨_, _, .unroll running', .nil, alike.set thread
            (.running (Program.Alike.loop hbody hnext).unroll)⟩
  | @call thread operation call next running =>
      obtain ⟨_, running', like⟩ := alike.running running
      cases like with
      | act _ like =>
          exact ⟨_, _, .call running', .cons (.same _) .nil,
            alike.set thread (.calling like)⟩
  | @answer thread operation call next answer calling =>
      obtain ⟨_, calling', like⟩ := alike.calling calling
      exact ⟨_, _, .answer answer calling', .cons (.same _) .nil,
        alike.set thread (.running (like answer))⟩
  | @finish thread operation reply running =>
      obtain ⟨_, running', like⟩ := alike.running running
      cases like with
      | @done _ _ _ reply' ends =>
          have hset := alike.set thread .idle
          have hguards : d.guards + (operation.givesGuard reply').toNat =
              c.guards + (operation.givesGuard reply).toNat := by
            rw [alike.guards, ends.givesGuard]
          exact ⟨_, _, .finish running', .cons (ends.event thread) .nil,
            hset.channel, hset.activity, hguards, alike.isDropped⟩

/-- Whole sequences of steps are matched. -/
theorem Steps.alike (steps : Steps fd c trace c') (alike : c.Alike direction d)
    (programs : ∀ thread operation, .began thread operation ∈ trace →
      (operation.program fd).Alike direction (operation.EndsAlike direction)
        (operation.program fd)) :
    ∃ trace' d', Steps fd d trace' d' ∧ Trace.Alike direction trace trace' ∧
      c'.Alike direction d' := by
  induction steps with
  | refl => exact ⟨_, _, .refl, .nil, alike⟩
  | tail _ step ih =>
      obtain ⟨trace', d', steps', htrace, alike'⟩ :=
        ih fun thread operation hmem =>
          programs thread operation (List.mem_append_left _ hmem)
      obtain ⟨events', d'', step', hevents, alike''⟩ :=
        step.alike alike' fun thread operation hmem =>
          programs thread operation (List.mem_append_right _ hmem)
      exact ⟨_, d'', steps'.tail step', List.rel_append htrace hevents, alike''⟩

end Steps

end LocalSocket
