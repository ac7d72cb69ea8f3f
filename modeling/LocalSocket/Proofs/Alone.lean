import LocalSocket.Proofs.Journal

/-!
# Programs that are run alone

A thread that has the channel to itself takes its program from the beginning to
the end, and nothing is open but what the system answers.  These answers decide
how the program ends and how it leaves the channel.  Conversely, whatever a
program may come to on its own, an operation comes to in a run.
-/

namespace LocalSocket

namespace Program

variable {α β : Type} {thread : Thread}

/-- Run from a channel on, with these exchanges, the program leaves the channel
and ends like that. -/
inductive RunsAlone {α : Type} (thread : Thread) :
    Program α → Channel → List Exchange → Channel → α → Prop where
  | done {channel : Channel} (value : α) :
      RunsAlone thread (.done value) channel [] channel value
  | act {action : Action} {next : action.Result → Program α}
      {channel channel' channel'' : Channel} {result : action.Result}
      {exchanges : List Exchange} {value : α}
      (answered : channel.answer thread action = .answered channel' result)
      (rest : RunsAlone thread (next result) channel' exchanges channel''
        value) :
      RunsAlone thread (.act action next) channel exchanges channel'' value
  | pause {next : Unit → Program α} {channel channel' : Channel}
      {exchanges : List Exchange} {value : α}
      (rest : RunsAlone thread (next ()) channel exchanges channel' value) :
      RunsAlone thread (.act .pause next) channel exchanges channel' value
  | call {request : Call} {next : request.Answer → Program α}
      {channel channel' : Channel} {exchanges : List Exchange} {value : α}
      (answer : request.Answer)
      (rest : RunsAlone thread (next answer) channel exchanges channel'
        value) :
      RunsAlone thread (.act (.call request) next) channel
        (⟨request, answer⟩ :: exchanges) channel' value
  | loop {γ : Type} {body : Program (Option γ)} {next : γ → Program α}
      {channel channel' : Channel} {exchanges : List Exchange} {value : α}
      (rest : RunsAlone thread (.unroll body next) channel exchanges channel'
        value) :
      RunsAlone thread (.loop body next) channel exchanges channel' value

/-- The answers of the system decide it all. -/
theorem RunsAlone.unique {program : Program α}
    {channel channel₁ channel₂ : Channel} {exchanges : List Exchange}
    {value₁ value₂ : α}
    (h₁ : program.RunsAlone thread channel exchanges channel₁ value₁)
    (h₂ : program.RunsAlone thread channel exchanges channel₂ value₂) :
    channel₂ = channel₁ ∧ value₂ = value₁ := by
  induction h₁ with
  | done value =>
      cases h₂
      exact ⟨rfl, rfl⟩
  | act answered _ ih =>
      cases h₂ with
      | act answered' rest =>
          rw [answered] at answered'
          cases answered'
          exact ih rest
      | pause | call => cases answered
  | pause _ ih =>
      cases h₂ with
      | act answered => cases answered
      | pause rest => exact ih rest
  | call answer _ ih =>
      cases h₂ with
      | act answered => cases answered
      | call _ rest => exact ih rest
  | loop _ ih =>
      cases h₂ with
      | loop rest => exact ih rest

theorem RunsAlone.bind {program : Program α} {f : α → Program β}
    {channel channel' channel'' : Channel} {first rest : List Exchange}
    {value : α} {value' : β}
    (h : program.RunsAlone thread channel first channel' value)
    (h' : (f value).RunsAlone thread channel' rest channel'' value') :
    (program.bind f).RunsAlone thread channel (first ++ rest) channel''
      value' := by
  induction h with
  | done => exact h'
  | act answered _ ih => exact .act answered (ih h')
  | pause _ ih => exact .pause (ih h')
  | call answer _ ih => exact .call answer (ih h')
  | loop _ ih => exact .loop (unroll_bind ▸ ih h')

/-- The run is one of the program and one of what follows it. -/
def Splits (thread : Thread) (program : Program α) (f : α → Program β)
    (channel : Channel) (exchanges : List Exchange) (channel' : Channel)
    (value : β) : Prop :=
  ∃ first rest channel₁ value₁, exchanges = first ++ rest ∧
    program.RunsAlone thread channel first channel₁ value₁ ∧
    (f value₁).RunsAlone thread channel₁ rest channel' value

theorem splits_done {value₁ : α} {f : α → Program β} {whole : Program β}
    {channel channel' : Channel} {exchanges : List Exchange} {value : β}
    (h : whole.RunsAlone thread channel exchanges channel' value)
    (hwhole : (Program.done value₁).bind f = whole) :
    Splits thread (.done value₁) f channel exchanges channel' value := by
  subst hwhole
  exact ⟨[], exchanges, channel, value₁, rfl, .done _, h⟩

theorem RunsAlone.of_bind {program : Program α} {f : α → Program β}
    {channel channel' : Channel} {exchanges : List Exchange} {value : β}
    (h : (program.bind f).RunsAlone thread channel exchanges channel' value) :
    Splits thread program f channel exchanges channel' value := by
  generalize hprogram : program.bind f = whole at h
  induction h generalizing program with
  | done value =>
      cases program with
      | done => exact splits_done (.done value) hprogram
      | act | loop => cases hprogram
  | act answered others ih =>
      cases program with
      | done => exact splits_done (.act answered others) hprogram
      | loop => cases hprogram
      | act =>
          cases hprogram
          obtain ⟨first, rest, channel₁, value₁, rfl, h, h'⟩ := ih rfl
          exact ⟨first, rest, channel₁, value₁, rfl, .act answered h, h'⟩
  | pause others ih =>
      cases program with
      | done => exact splits_done (.pause others) hprogram
      | loop => cases hprogram
      | act =>
          cases hprogram
          obtain ⟨first, rest, channel₁, value₁, rfl, h, h'⟩ := ih rfl
          exact ⟨first, rest, channel₁, value₁, rfl, .pause h, h'⟩
  | call answer others ih =>
      cases program with
      | done => exact splits_done (.call answer others) hprogram
      | loop => cases hprogram
      | act =>
          cases hprogram
          obtain ⟨first, rest, channel₁, value₁, rfl, h, h'⟩ := ih rfl
          exact ⟨_ :: first, rest, channel₁, value₁, rfl, .call answer h, h'⟩
  | loop others ih =>
      cases program with
      | done => exact splits_done (.loop others) hprogram
      | act => cases hprogram
      | loop =>
          cases hprogram
          obtain ⟨first, rest, channel₁, value₁, rfl, h, h'⟩ := ih unroll_bind
          exact ⟨first, rest, channel₁, value₁, rfl, .loop h, h'⟩

theorem RunsAlone.of_run_bind {operation : Operating α} {f : α → Operating β}
    {channel channel' : Channel} {exchanges : List Exchange} {value : β}
    (h : (operation >>= f).run.RunsAlone thread channel exchanges channel'
      (.ok value)) :
    ∃ first rest channel₁ value₁, exchanges = first ++ rest ∧
      operation.run.RunsAlone thread channel first channel₁ (.ok value₁) ∧
      (f value₁).run.RunsAlone thread channel₁ rest channel' (.ok value) := by
  obtain ⟨first, rest, channel₁, result, rfl, h, h'⟩ := RunsAlone.of_bind h
  cases result with
  | ok value₁ => exact ⟨first, rest, channel₁, value₁, rfl, h, h'⟩
  | error error => cases h'

/-- What holds of a program that has the channel to itself holds however it
ends. -/
theorem RunsAlone.of_meets {program : Program α} {channel channel' : Channel}
    {exchanges : List Exchange} {value : α} {failures : List (Call × OsError)}
    {post : α → Solo → Prop}
    (h : program.RunsAlone thread channel exchanges channel' value)
    (meets : solo.Meets thread program post ⟨channel, failures⟩) :
    ∃ failures', post value ⟨channel', failures'⟩ ∧
      ∀ call error, (call, error) ∈ failures' →
        (call, error) ∈ failures ∨ ⟨call, .error error⟩ ∈ exchanges := by
  induction h generalizing failures with
  | done => exact ⟨failures, meets, fun _ _ => .inl⟩
  | act answered _ ih =>
      refine ih ?_
      simpa [solo, answered] using meets
  | pause _ ih => exact ih (meets ())
  | @call request _ _ _ _ _ answer _ ih =>
      have rest := meets answer
      cases answer with
      | ok value =>
          obtain ⟨failures', hpost, known⟩ := ih rest
          exact ⟨failures', hpost, fun call error hmem =>
            (known call error hmem).imp_right (List.mem_cons_of_mem _)⟩
      | error error =>
          obtain ⟨failures', hpost, known⟩ := ih rest
          refine ⟨failures', hpost, fun call error' hmem => ?_⟩
          obtain hmem | hmem := known call error' hmem
          · obtain hmem | hmem := List.mem_append.mp hmem
            · exact .inl hmem
            · cases List.mem_singleton.mp hmem
              exact .inr List.mem_cons_self
          · exact .inr (List.mem_cons_of_mem _ hmem)
  | loop _ ih => exact ih meets.unroll

end Program

/-! ## Operations of a thread that is alone -/

def Activity.RunsAlone (thread : Thread) :
    Activity → Channel → List Exchange → Channel → Channel.Reply → Prop
  | idle, _, _, _, _ => False
  | running _ rest, channel, exchanges, channel', reply =>
      rest.RunsAlone thread channel exchanges channel' reply
  | calling _ call next, channel, exchanges, channel', reply =>
      ∃ answer others, exchanges = ⟨call, answer⟩ :: others ∧
        (next answer).RunsAlone thread channel others channel' reply

section Operations

variable {fd : Fd} {thread : Thread} {operation : Channel.Operation}
  {during events : Trace} {c c' : Config} {reply : Channel.Reply}
  {channel : Channel} {exchanges : List Exchange}

theorem Step.runsAlone (step : Step fd c events c')
    (alone : ∀ event ∈ events, event.thread = thread)
    (within : events.IsWithin thread)
    (h : (c'.activity thread).RunsAlone thread c'.channel exchanges channel
      reply) :
    (c.activity thread).RunsAlone thread c.channel
      (events.exchanges thread ++ exchanges) channel reply := by
  obtain ⟨hactivity, others⟩ | advance := step.advance within
  · obtain rfl : events = [] := List.eq_nil_iff_forall_not_mem.mpr
      fun event hmem => others event hmem (alone event hmem)
    rw [step.channel_eq_of_silent, hactivity] at h
    exact h
  · cases advance with
    | @act operation action next channel' result running answered =>
        rw [running]
        have rest : (next result).RunsAlone thread channel' exchanges channel
            reply := by
          simpa [Activity.RunsAlone] using h
        exact .act answered rest
    | @pause operation next running =>
        rw [running]
        have rest : (next ()).RunsAlone thread c.channel exchanges channel
            reply := by
          simpa [Activity.RunsAlone] using h
        exact .pause rest
    | @unroll operation _ body next running =>
        rw [running]
        have rest : (Program.unroll body next).RunsAlone thread c.channel
            exchanges channel reply := by
          simpa [Activity.RunsAlone] using h
        exact .loop rest
    | @call operation call next running =>
        rw [running]
        obtain ⟨answer, others, rfl, rest⟩ : ∃ answer others,
            exchanges = ⟨call, answer⟩ :: others ∧
              (next answer).RunsAlone thread c.channel others channel
                reply := by
          simpa [Activity.RunsAlone] using h
        exact .call answer rest
    | answer answer calling =>
        rw [calling]
        exact ⟨answer, exchanges, by simp [Trace.exchanges],
          by simpa [Activity.RunsAlone] using h⟩

theorem Steps.runsAlone (steps : Steps fd c during c')
    (alone : ∀ event ∈ during, event.thread = thread)
    (within : during.IsWithin thread)
    (h : (c'.activity thread).RunsAlone thread c'.channel exchanges channel
      reply) :
    (c.activity thread).RunsAlone thread c.channel
      (during.exchanges thread ++ exchanges) channel reply := by
  induction steps generalizing exchanges with
  | refl => exact h
  | tail _ step ih =>
      rw [Trace.exchanges_append, List.append_assoc]
      exact ih (fun event hmem => alone event (List.mem_append_left _ hmem))
        (within.of_subset (List.subset_append_left ..))
        (step.runsAlone
          (fun event hmem => alone event (List.mem_append_right _ hmem))
          (within.of_subset (List.subset_append_right ..)) h)

theorem Episode.runsAlone
    (episode : Episode fd thread operation c during reply c')
    (alone : ∀ event ∈ during, event.thread = thread) :
    (operation.program fd).RunsAlone thread c.channel (during.exchanges thread)
      c'.channel reply := by
  obtain ⟨c₁, c₂, began, steps, ended⟩ := episode.passes
  obtain ⟨running, hchannel⟩ := began.running_of_began
  have hsame : c'.channel = c₂.channel := by
    cases ended
    rfl
  have finished : (c₂.activity thread).RunsAlone thread c₂.channel [] c'.channel
      reply := by
    rw [ended.done_of_ended, hsame]
    exact .done reply
  have h := steps.runsAlone alone episode.within finished
  rw [running, hchannel, List.append_nil] at h
  exact h

/-- Two operations of a thread that is alone end alike, if the system answers
them alike. -/
theorem Episode.alike_alone {during₁ during₂ : Trace} {c₁ c₂ : Config}
    {reply₁ reply₂ : Channel.Reply}
    (episode₁ : Episode fd thread operation c during₁ reply₁ c₁)
    (episode₂ : Episode fd thread operation c during₂ reply₂ c₂)
    (alone₁ : ∀ event ∈ during₁, event.thread = thread)
    (alone₂ : ∀ event ∈ during₂, event.thread = thread)
    (alike : during₂.exchanges thread = during₁.exchanges thread) :
    c₂.channel = c₁.channel ∧ reply₂ = reply₁ := by
  have h₂ := episode₂.runsAlone alone₂
  rw [alike] at h₂
  exact (episode₁.runsAlone alone₁).unique h₂

/-- The thread can get there by itself, with these exchanges. -/
def GetsTo (fd : Fd) (thread : Thread) (c : Config) (activity : Activity)
    (channel : Channel) (exchanges : List Exchange) : Prop :=
  ∃ trace, Steps fd c trace { c.set thread activity with channel := channel } ∧
    trace.exchanges thread = exchanges ∧
    ∀ event ∈ trace, event.thread = thread ∧ event.isBoundary = false

theorem GetsTo.head {activity activity' : Activity} {channel' : Channel}
    (step : Step fd c events { c.set thread activity with channel := channel })
    (own : ∀ event ∈ events, event.thread = thread ∧ event.isBoundary = false)
    (h : GetsTo fd thread { c.set thread activity with channel := channel }
      activity' channel' exchanges) :
    GetsTo fd thread c activity' channel'
      (events.exchanges thread ++ exchanges) := by
  obtain ⟨trace, steps, rfl, howns⟩ := h
  simp only [Config.set, Function.update_idem] at steps
  exact ⟨_, (Steps.single step).trans steps, Trace.exchanges_append,
    List.forall_mem_append.mpr ⟨own, howns⟩⟩

/-- What a program comes to on its own is what its thread can do. -/
theorem Program.RunsAlone.getsTo {rest : Program Channel.Reply}
    {channel' : Channel}
    (h : rest.RunsAlone thread channel exchanges channel' reply)
    (running : c.activity thread = .running operation rest)
    (hchannel : c.channel = channel) :
    GetsTo fd thread c (.running operation (.done reply)) channel'
      exchanges := by
  induction h generalizing c with
  | done =>
      refine ⟨[], ?_, rfl, List.forall_mem_nil _⟩
      subst hchannel
      rw [Config.set, ← running, Function.update_eq_self]
      exact .refl
  | act answered _ ih =>
      subst hchannel
      exact .head (.act running answered) (by simp [Event.isBoundary])
        (ih (by simp) rfl)
  | pause _ ih =>
      subst hchannel
      exact .head (.pause running) (by simp [Event.isBoundary])
        (ih (by simp) rfl)
  | @call request next _ _ _ _ answer _ ih =>
      subst hchannel
      have answered : Step fd (c.set thread (.calling operation request next))
          [.answered thread request answer] _ :=
        .answer answer (Function.update_self ..)
      have heard : Trace.exchanges thread [.answered thread request answer] =
          [⟨request, answer⟩] := by
        simp [Trace.exchanges]
      have rest := GetsTo.head answered (by simp [Event.isBoundary])
        (ih (by simp) rfl)
      rw [heard] at rest
      exact .head (.call running) (by simp [Event.isBoundary]) rest
  | loop _ ih =>
      subst hchannel
      exact .head (.unroll running) (List.forall_mem_nil _) (ih (by simp) rfl)

/-- A thread that is between operations can go through one as its program
does on its own. -/
theorem Program.RunsAlone.episode {channel' : Channel}
    (h : (operation.program fd).RunsAlone thread c.channel exchanges channel'
      reply)
    (idle : c.activity thread = .idle) (isLive : c.isDropped = false)
    (hasGuard : operation.takesGuard = true → 0 < c.guards) :
    ∃ during c', Episode fd thread operation c during reply c' ∧
      (∀ event ∈ during, event.thread = thread) ∧
      during.exchanges thread = exchanges ∧ c'.channel = channel' := by
  have began : Step fd c _ _ := .begin idle isLive hasGuard
  obtain ⟨during, steps, asked, own⟩ :
      GetsTo fd thread _ _ channel' exchanges :=
    h.getsTo began.running_of_began.1 began.running_of_began.2
  refine ⟨during, _, ⟨⟨_, _, began, steps, .finish (by simp)⟩, ?_⟩,
    fun event hmem => (own event hmem).1, asked, rfl⟩
  exact fun event hmem => (own event (Trace.mem_own.mp hmem).1).2

end Operations

/-! ## What a thread comes upon -/

/-- What is left of the channel. -/
def Event.effect (channel : Channel) : Event → Channel
  | acted thread action =>
      match channel.answer thread action with
      | .answered channel' _ => channel'
      | _ => channel
  | _ => channel

/-- Each event with the channel that its thread comes upon. -/
def Trace.views (channel : Channel) : Trace → List (Event × Channel)
  | [] => []
  | event :: rest => (event, channel) :: Trace.views (event.effect channel) rest

/-- The thread takes this action to look at the channel. -/
def Event.looksFor : Action → Event → Bool
  | .isOpen, acted _ .isOpen | .isBlocking, acted _ .isBlocking
  | .fields, acted _ .fields => true
  | _, _ => false

section Views

variable {fd : Fd} {thread : Thread} {trace events : Trace} {c c' : Config}

theorem Trace.views_append {channel : Channel} {past rest : Trace} :
    Trace.views channel (past ++ rest) = Trace.views channel past ++
      Trace.views (past.foldl Event.effect channel) rest := by
  induction past generalizing channel with
  | nil => rfl
  | cons event past ih => simp [Trace.views, ih]

theorem Step.channel_eq (step : Step fd c events c') :
    c'.channel = events.foldl Event.effect c.channel := by
  cases step with
  | act running answered => simp [Event.effect, answered]
  | _ => simp [Event.effect, Channel.answer]

theorem Steps.channel_eq (steps : Steps fd c trace c') :
    c'.channel = trace.foldl Event.effect c.channel := by
  induction steps with
  | refl => rfl
  | tail _ step ih => rw [List.foldl_append, ← ih, step.channel_eq]

theorem Steps.Sees.mem_views {action : Action} {found : Channel → Prop}
    (sees : Steps.Sees fd thread c trace c' action found) :
    ∃ channel, (.acted thread action, channel) ∈ trace.views c.channel ∧
      found channel := by
  obtain ⟨past, rest, c₁, _, hpast, _, _, rfl, h⟩ := sees
  refine ⟨c₁.channel, ?_, h⟩
  simp [Trace.views_append, Trace.views, hpast.channel_eq]

/-- That a thread does not find the channel so can be read off what is seen. -/
theorem Steps.not_sees {action : Action} {found : Channel → Prop}
    (look : Event.looksFor action (.acted thread action) = true)
    (h : ∀ view ∈ trace.views c.channel, view.1.looksFor action = true →
      ¬found view.2) :
    ¬Steps.Sees fd thread c trace c' action found := by
  intro sees
  obtain ⟨channel, hmem, hfound⟩ := sees.mem_views
  exact h _ hmem look hfound

end Views

/-! ## Playing out an operation -/

/-- Plays out an operation from its beginning to its end, with these moves in
between. -/
def Config.operate (fd : Fd) (c : Config) (thread : Thread)
    (operation : Channel.Operation) (moves : List Move) :
    Option (Trace × Channel.Reply × Config) := do
  let (_, c₁) ← c.move fd (.begin thread operation)
  let (during, c₂) ← c₁.play fd moves
  match c₂.activity thread with
  | .running current (.done reply) =>
      if current = operation ∧
        (during.own thread).all (fun event => !event.isBoundary) = true then
        some (during, reply, { c₂.set thread .idle with
          guards := c₂.guards + (operation.givesGuard reply).toNat })
      else none
  | _ => none

theorem Config.events_of_begin {fd : Fd} {c c' : Config} {thread : Thread}
    {operation : Channel.Operation} {events : Trace}
    (h : c.move fd (.begin thread operation) = some (events, c')) :
    events = [.began thread operation] := by
  simp only [Config.move] at h
  split at h
  · split at h
    · cases h
      rfl
    · cases h
  · cases h

theorem Config.episode_of_operate {fd : Fd} {c c' : Config} {thread : Thread}
    {operation : Channel.Operation} {moves : List Move} {during : Trace}
    {reply : Channel.Reply}
    (h : c.operate fd thread operation moves = some (during, reply, c')) :
    Episode fd thread operation c during reply c' := by
  simp only [Config.operate, Option.bind_eq_bind, Option.bind_eq_some_iff] at h
  obtain ⟨⟨events, c₁⟩, hbegin, ⟨played, c₂⟩, hplay, h⟩ := h
  dsimp only at h
  split at h
  · rename_i current reply' running
    split at h
    · rename_i hcurrent
      obtain ⟨rfl, within⟩ := hcurrent
      obtain rfl := Config.events_of_begin hbegin
      cases h
      exact ⟨⟨c₁, c₂, Config.step_of_move hbegin, Config.steps_of_play hplay,
        .finish running⟩, Trace.isWithin_of_all within⟩
    · cases h
  · cases h

theorem Config.episode_get {fd : Fd} {c : Config} {thread : Thread}
    {operation : Channel.Operation} {moves : List Move}
    (h : (c.operate fd thread operation moves).isSome = true) :
    Episode fd thread operation c
      ((c.operate fd thread operation moves).get h).1
      ((c.operate fd thread operation moves).get h).2.1
      ((c.operate fd thread operation moves).get h).2.2 :=
  Config.episode_of_operate (Option.some_get h).symm

end LocalSocket
