import LocalSocket.Proofs.AsynchronousClose
import LocalSocket.Proofs.Reaching

/-!
# Interrupted calls

A thread whose program insists on a request goes once round when the call is
interrupted: it looks whether the channel is open, and is back inside the same
call.  Nobody else can tell, since the others do not look at what the thread is
doing.  So the rounds may be taken out of what has happened, or put in where the
thread is inside the call of an open channel, and all else happens as it did.
-/

namespace LocalSocket

open Program

/-! ## What the other threads do -/

namespace Trace

def others (thread : Thread) (trace : Trace) : Trace :=
  trace.filter fun event => event.thread != thread

variable {thread : Thread} {trace events : Trace}

theorem others_append : Trace.others thread (trace ++ events) =
    trace.others thread ++ Trace.others thread events :=
  List.filter_append ..

theorem mem_others {event : Event} :
    event ∈ trace.others thread ↔ event ∈ trace ∧ event.thread ≠ thread := by
  simp [others]

theorem others_of_others (h : ∀ event ∈ events, event.thread ≠ thread) :
    Trace.others thread events = events :=
  List.filter_eq_self.mpr fun event hmem => by simpa using h event hmem

theorem others_of_own (h : ∀ event ∈ events, event.thread = thread) :
    Trace.others thread events = [] :=
  List.filter_eq_nil_iff.mpr fun event hmem => by simpa using h event hmem

theorem others_others :
    Trace.others thread (trace.others thread) = trace.others thread :=
  others_of_others fun _ hmem => (mem_others.mp hmem).2

theorem exchanges_others :
    Trace.exchanges thread (trace.others thread) = [] :=
  exchanges_of_others fun _ hmem => (mem_others.mp hmem).2

/-- The place of an exchange in a trace. -/
theorem split_of_exchanges {call : Call} {answer : call.Answer}
    {first rest : List Exchange}
    (h : trace.exchanges thread = first ++ ⟨call, answer⟩ :: rest) :
    ∃ past later : Trace,
      trace = past ++ .answered thread call answer :: later ∧
      past.exchanges thread = first ∧ later.exchanges thread = rest := by
  obtain ⟨past, tail, rfl, hpast, htail⟩ := List.filterMap_eq_append_iff.mp h
  obtain ⟨silent, event, later, rfl, hsilent, hevent, hlater⟩ :=
    List.filterMap_eq_cons_iff.mp htail
  have hanswered : event = .answered thread call answer := by
    cases event with
    | answered other =>
        simp only [Event.exchange?, Option.ite_none_right_eq_some,
          Option.some.injEq, Exchange.mk.injEq] at hevent
        obtain ⟨rfl, rfl, heq⟩ := hevent
        rw [eq_of_heq heq]
    | _ => cases hevent
  subst hanswered
  refine ⟨past ++ silent, later, by simp, ?_, hlater⟩
  rw [exchanges, List.filterMap_append, hpast,
    List.filterMap_eq_nil_iff.mpr hsilent, List.append_nil]

end Trace

namespace Config

variable {fd : Fd} {c c' : Config} {thread other : Thread}
  {activity activity' : Activity} {events : Trace}

theorem set_comm (h : other ≠ thread) :
    (c.set thread activity).set other activity' =
      (c.set other activity').set thread activity := by
  simp only [set, Function.update_comm h]

theorem set_set :
    (c.set thread activity).set thread activity' = c.set thread activity' := by
  simp only [set, Function.update_idem]

theorem set_self (h : c.activity thread = activity) :
    c.set thread activity = c := by
  subst h
  simp only [set, Function.update_eq_self]

end Config

/-- No other thread minds what a busy thread is doing. -/
theorem Step.aside {fd : Fd} {c c' : Config} {events : Trace} {thread : Thread}
    {activity : Activity} (step : Step fd c events c')
    (hactivity : c'.activity thread = c.activity thread)
    (others : ∀ event ∈ events, event.thread ≠ thread)
    (busy : c.activity thread ≠ .idle) :
    Steps fd (c.set thread activity) events (c'.set thread activity) := by
  have apart {other : Thread} (h : other ≠ thread) :
      (c.set thread activity).activity other = c.activity other := by
    simp [h]
  cases step with
  | @begin other operation idle isLive hasGuard =>
      have ht : other ≠ thread := others _ (List.mem_singleton.mpr rfl)
      have step : Step fd (c.set thread activity) _ _ :=
        .begin ((apart ht).trans idle) isLive hasGuard
      rw [Config.set_comm ht] at step
      exact .single step
  | drop idle => exact absurd (idle thread) busy
  | @act other _ _ _ _ _ running answered =>
      have ht : other ≠ thread := others _ (List.mem_singleton.mpr rfl)
      have step : Step fd (c.set thread activity) _ _ :=
        .act ((apart ht).trans running) answered
      rw [Config.set_comm ht] at step
      exact .single step
  | @pause other _ _ running =>
      have ht : other ≠ thread := others _ (List.mem_singleton.mpr rfl)
      have step : Step fd (c.set thread activity) _ _ :=
        .pause ((apart ht).trans running)
      rw [Config.set_comm ht] at step
      exact .single step
  | @unroll other _ _ _ _ running =>
      by_cases ht : other = thread
      · subst ht
        rw [Config.set_set]
        exact .refl
      · have step : Step fd (c.set thread activity) _ _ :=
          .unroll ((apart ht).trans running)
        rw [Config.set_comm ht] at step
        exact .single step
  | @call other _ _ _ running =>
      have ht : other ≠ thread := others _ (List.mem_singleton.mpr rfl)
      have step : Step fd (c.set thread activity) _ _ :=
        .call ((apart ht).trans running)
      rw [Config.set_comm ht] at step
      exact .single step
  | @answer other _ _ _ answer calling =>
      have ht : other ≠ thread := others _ (List.mem_singleton.mpr rfl)
      have step : Step fd (c.set thread activity) _ _ :=
        .answer answer ((apart ht).trans calling)
      rw [Config.set_comm ht] at step
      exact .single step
  | @finish other _ _ running =>
      have ht : other ≠ thread := others _ (List.mem_singleton.mpr rfl)
      have step : Step fd (c.set thread activity) _ _ :=
        .finish ((apart ht).trans running)
      rw [Config.set_comm ht] at step
      exact .single step

/-! ## Taking interruptions out -/

/-- The thread is inside the call, or on its way back into it. -/
inductive Activity.Returns (operation : Channel.Operation) (request : Call)
    (next : request.Answer → Program Channel.Reply) : Activity → Prop where
  | inside : Returns operation request next (.calling operation request next)
  | underway {rest : Program Channel.Reply}
      (resumes : rest.Resumes (.act (.call request) next)) :
      Returns operation request next (.running operation rest)

section Steps

variable {fd : Fd} {thread : Thread} {operation : Channel.Operation}
  {request : Call} {next : request.Answer → Program Channel.Reply}
  {before events suffix : Trace} {c c' : Config}

theorem Activity.Returns.ne_idle {activity : Activity}
    (returns : activity.Returns operation request next) : activity ≠ .idle := by
  cases returns <;> exact nofun

theorem Activity.Returns.eq_calling {operation' : Channel.Operation}
    {request' : Call} {next' : request'.Answer → Program Channel.Reply}
    (returns : (Activity.calling operation' request' next').Returns operation
      request next) :
    Activity.calling operation' request' next' =
      .calling operation request next := by
  cases returns
  rfl

/-- A step of a thread on its way back into the call leads further on that way,
and makes no difference to anything else. -/
theorem Advance.returns (advance : Advance thread c events c')
    (returns : (c.activity thread).Returns operation request next)
    (again : (next request.interrupted).Resumes (.act (.call request) next))
    (isOpen : c.channel.isOpen = true)
    (interrupted : ∀ exchange ∈ events.exchanges thread,
      exchange = ⟨request, request.interrupted⟩) :
    (c'.activity thread).Returns operation request next ∧
      c'.set thread (.calling operation request next) =
        c.set thread (.calling operation request next) := by
  cases advance with
  | act running answered =>
      rw [running] at returns
      cases returns with
      | underway resumes =>
          cases resumes with
          | refl => cases answered
          | look rest =>
              cases answered
              rw [isOpen]
              exact ⟨by simpa using .underway rest, Config.set_set⟩
  | pause running =>
      rw [running] at returns
      cases returns with
      | underway resumes => cases resumes
  | unroll running =>
      rw [running] at returns
      cases returns with
      | underway resumes =>
          cases resumes with
          | loop rest =>
              exact ⟨by simpa using .underway rest, Config.set_set⟩
  | call running =>
      rw [running] at returns
      cases returns with
      | underway resumes =>
          cases resumes
          exact ⟨by simpa using .inside, Config.set_set⟩
  | answer answer calling =>
      rw [calling] at returns
      cases returns
      have heq := interrupted ⟨request, answer⟩ (by simp [Trace.exchanges])
      obtain rfl : answer = request.interrupted := by cases heq; rfl
      exact ⟨by simpa using .underway again, Config.set_set⟩

/-- As long as the thread is told no more than that it has been interrupted, it
might as well have stayed inside the call. -/
theorem Steps.stay_inside (steps : Steps fd c suffix c') (run : Run fd before c)
    (within : suffix.IsWithin thread)
    (returns : (c.activity thread).Returns operation request next)
    (again : (next request.interrupted).Resumes (.act (.call request) next))
    (isOpen : c'.channel.isOpen = true)
    (interrupted : ∀ exchange ∈ suffix.exchanges thread,
      exchange = ⟨request, request.interrupted⟩) :
    (c'.activity thread).Returns operation request next ∧
      Steps fd (c.set thread (.calling operation request next))
        (suffix.others thread)
        (c'.set thread (.calling operation request next)) := by
  induction steps with
  | refl => exact ⟨returns, .refl⟩
  | @tail past events c₁ c₂ hpast step ih =>
      have hopen : c₁.channel.isOpen = true := by
        by_contra closed
        have := step.closed ⟨_, run.steps hpast⟩ (by simpa using closed)
        simp [this] at isOpen
      rw [Trace.exchanges_append] at interrupted
      obtain ⟨returns₁, steps₁⟩ := ih
        (within.of_subset (List.subset_append_left ..)) hopen
        fun exchange hmem => interrupted exchange (List.mem_append_left _ hmem)
      rw [Trace.others_append]
      obtain ⟨hactivity, apart⟩ | advance :=
        step.advance (within.of_subset (List.subset_append_right ..))
      · rw [Trace.others_of_others apart]
        exact ⟨hactivity ▸ returns₁,
          steps₁.trans (step.aside hactivity apart returns₁.ne_idle)⟩
      · obtain ⟨returns₂, same⟩ := advance.returns returns₁ again hopen
          fun exchange hmem =>
            interrupted exchange (List.mem_append_right _ hmem)
        have own : ∀ event ∈ events, event.thread = thread := by
          intro event hmem
          cases advance <;> simp_all
        rw [Trace.others_of_own own, List.append_nil, same]
        exact ⟨returns₂, steps₁⟩

theorem Steps.without_rounds (count : Nat) {answer : request.Answer}
    {c₂ : Config} (steps : Steps fd c suffix c') (run : Run fd before c)
    (within : suffix.IsWithin thread)
    (calling : c.activity thread = .calling operation request next)
    (again : (next request.interrupted).Resumes (.act (.call request) next))
    (asked : suffix.exchanges thread =
      request.exchanges (.replicate count request.interrupted))
    (decided : Step fd c' [.answered thread request answer] c₂)
    (isOpen : c'.channel.isOpen = true) :
    Steps fd c (suffix.others thread) c' := by
  have interrupted : ∀ exchange ∈ suffix.exchanges thread,
      exchange = ⟨request, request.interrupted⟩ := by
    intro exchange hmem
    rw [asked] at hmem
    obtain ⟨interruption, hcount, rfl⟩ := List.mem_map.mp hmem
    rw [List.eq_of_mem_replicate hcount]
  have entered : (c.activity thread).Returns operation request next :=
    calling ▸ .inside
  obtain ⟨returns, stayed⟩ :=
    steps.stay_inside run within entered again isOpen interrupted
  have still : c'.activity thread = .calling operation request next := by
    cases decided with
    | answer _ calling' =>
        rw [calling'] at returns ⊢
        exact returns.eq_calling
  rwa [Config.set_self calling, Config.set_self still] at stayed

/-! ## Putting interruptions in -/

/-- On an open channel, nothing keeps the thread from its way. -/
theorem Program.Resumes.steps {rest program : Program Channel.Reply}
    (resumes : rest.Resumes program)
    (running : c.activity thread = .running operation rest)
    (isOpen : c.channel.isOpen = true) :
    ∃ trace, Steps fd c trace (c.set thread (.running operation program)) ∧
      ∀ event ∈ trace, event = .acted thread .isOpen := by
  induction resumes generalizing c with
  | refl program =>
      rw [Config.set_self running]
      exact ⟨[], .refl, List.forall_mem_nil _⟩
  | @look next program rest ih =>
      have answered :
          c.channel.answer thread .isOpen = .answered c.channel true :=
        isOpen ▸ rfl
      obtain ⟨trace, steps, looks⟩ :=
        @ih (c.set thread (.running operation (next true))) (by simp) isOpen
      rw [Config.set_set] at steps
      exact ⟨_, (Steps.single (.act running answered)).trans steps,
        List.forall_mem_cons.mpr ⟨rfl, looks⟩⟩
  | @loop _ body next program rest ih =>
      obtain ⟨trace, steps, looks⟩ :=
        @ih (c.set thread (.running operation (.unroll body next))) (by simp)
          isOpen
      rw [Config.set_set] at steps
      exact ⟨_, (Steps.single (.unroll running)).trans steps, looks⟩

/-- Interrupted once, the thread comes back to where it has been. -/
theorem Steps.round (calling : c.activity thread =
      .calling operation request next)
    (again : (next request.interrupted).Resumes (.act (.call request) next))
    (isOpen : c.channel.isOpen = true) :
    ∃ trace, Steps fd c trace c ∧
      trace.exchanges thread = [⟨request, request.interrupted⟩] ∧
      ∀ event ∈ trace, event.thread = thread ∧ event.isBoundary = false := by
  have answered : Step fd c _ _ := .answer request.interrupted calling
  obtain ⟨looks, back, hlooks⟩ : ∃ looks, Steps fd
      (c.set thread (.running operation (next request.interrupted))) looks
      _ ∧ _ := again.steps (Function.update_self ..) isOpen
  have called : Step fd (c.set thread
      (.running operation (.act (.call request) next))) _ _ :=
    .call (Function.update_self ..)
  rw [Config.set_set, Config.set_self calling] at called
  rw [Config.set_set] at back
  refine ⟨_, ((Steps.single answered).trans back).tail called, ?_, ?_⟩
  · have silent : Trace.exchanges thread looks = [] :=
      List.filterMap_eq_nil_iff.mpr fun event hmem => by
        rw [hlooks event hmem]
        rfl
    rw [Trace.exchanges_concat, Trace.exchanges_append, silent]
    simp [Trace.exchanges]
  · intro event hmem
    obtain rfl | hmem | rfl :
        event = .answered thread request request.interrupted ∨
          event ∈ looks ∨ event = .called thread request := by
      simpa [or_assoc] using hmem
    · exact ⟨rfl, rfl⟩
    · rw [hlooks event hmem]
      exact ⟨rfl, rfl⟩
    · exact ⟨rfl, rfl⟩

theorem Steps.rounds (calling : c.activity thread =
      .calling operation request next)
    (again : (next request.interrupted).Resumes (.act (.call request) next))
    (isOpen : c.channel.isOpen = true) (count : Nat) :
    ∃ trace, Steps fd c trace c ∧ trace.exchanges thread =
        request.exchanges (List.replicate count request.interrupted) ∧
      ∀ event ∈ trace, event.thread = thread ∧ event.isBoundary = false := by
  induction count with
  | zero => exact ⟨[], .refl, rfl, List.forall_mem_nil _⟩
  | succ count ih =>
      obtain ⟨first, hfirst, asked, own⟩ := Steps.round calling again isOpen
      obtain ⟨rest, hrest, asked', own'⟩ := ih
      refine ⟨first ++ rest, hfirst.trans hrest, ?_,
        List.forall_mem_append.mpr ⟨own, own'⟩⟩
      rw [Trace.exchanges_append, asked, asked', List.replicate_succ]
      rfl

end Steps

/-! ## Operations with interruptions and without -/

/-- The thread goes through the operation, with these exchanges and while the
other threads do this. -/
def Undergoes (fd : Fd) (thread : Thread) (operation : Channel.Operation)
    (c : Config) (exchanges : List Exchange) (others : Trace)
    (reply : Channel.Reply) (c' : Config) : Prop :=
  ∃ during, Episode fd thread operation c during reply c' ∧
    during.exchanges thread = exchanges ∧ during.others thread = others

section Episode

variable {fd : Fd} {thread : Thread} {operation : Channel.Operation}
  {request : Call} {answer : request.Answer} {reply : Channel.Reply}
  {before during others past later : Trace} {first rest : List Exchange}
  {c c' c₁ c₂ c₃ : Config}

/-- A call that is answered after the channel has been closed is the end of an
operation, in one of the ways in which an overtaken operation may end. -/
theorem Step.isOpen_of_answered (run : Run fd before c₁)
    (step : Step fd c₁ [.answered thread request answer] c₂)
    (rest : Steps fd c₂ later c₃) (within : later.IsWithin thread)
    (ended : Step fd c₃ [.ended thread operation reply] c')
    (inside : (c₁.activity thread).IsInside fd operation)
    (blocking : request.isBlocking = true)
    (lively : ∀ gain, ¬operation.Ends gain reply) :
    c₁.channel.isOpen = true := by
  by_contra closed
  obtain ⟨next, calling⟩ : ∃ next,
      c₁.activity thread = .calling operation request next := by
    cases step with
    | answer _ calling =>
        rw [calling] at inside ⊢
        exact ⟨_, by rw [inside.1]⟩
  have steps := (Steps.single step).trans rest
  obtain ⟨S, pursued, keeps⟩ := run.pursued_of_closed calling blocking
    (by simpa using closed) steps
  have done := ended.done_of_ended
  have hkeeps := keeps thread
  cases pursued.leaving with
  | inside calling' =>
      rw [calling'] at done
      cases done
  | overtaken credit course =>
      rw [course, done] at hkeeps
      exact lively _ (hkeeps trivial)
  | @ended operation' reply' hmem =>
      obtain hmem | hmem := List.mem_append.mp hmem
      · simp at hmem
      · have := within _ (Trace.mem_own.mpr ⟨hmem, rfl⟩)
        cases this

/-- What leads to an exchange of an operation, and what follows it. -/
theorem Episode.at_exchange
    (episode : Episode fd thread operation c during reply c')
    (asked : during.exchanges thread = first ++ ⟨request, answer⟩ :: rest) :
    ∃ (past later : Trace) (c₀ c₁ c₂ c₃ : Config),
      during = past ++ .answered thread request answer :: later ∧
      past.exchanges thread = first ∧ later.exchanges thread = rest ∧
      Step fd c [.began thread operation] c₀ ∧ Steps fd c₀ past c₁ ∧
      Step fd c₁ [.answered thread request answer] c₂ ∧ Steps fd c₂ later c₃ ∧
      Step fd c₃ [.ended thread operation reply] c' ∧
      ∃ next, c₁.activity thread = .calling operation request next ∧
        (operation.program fd).Reaches (.act (.call request) next) := by
  obtain ⟨c₀, c₃, began, steps, ended⟩ := episode.passes
  obtain ⟨past, later, rfl, hfirst, hrest⟩ := Trace.split_of_exchanges asked
  obtain ⟨c₁, c₂, hpast, step, hlater⟩ := steps.split
  refine ⟨past, later, c₀, c₁, c₂, c₃, rfl, hfirst, hrest, began, hpast, step,
    hlater, ended, ?_⟩
  have inside := hpast.isInside
    (episode.within.of_subset (List.subset_append_left ..))
    began.isInside_of_began
  cases step with
  | answer _ calling =>
      rw [calling] at inside ⊢
      exact ⟨_, by rw [inside.1], inside.2⟩

theorem Undergoes.without_interruptions {count : Nat} (run : Run fd before c)
    (insists : (operation.program fd).Insists request)
    (blocking : request.isBlocking = true)
    (lively : ∀ gain, ¬operation.Ends gain reply)
    (undergoes : Undergoes fd thread operation c
      (request.exchanges (.replicate count request.interrupted ++ [answer]) ++
        rest) others reply c') :
    Undergoes fd thread operation c (request.exchanges [answer] ++ rest) others
      reply c' := by
  obtain _ | count := count
  · exact undergoes
  obtain ⟨during, episode, asked, rfl⟩ := undergoes
  -- the first interruption and the deciding answer, with the rounds in between
  have asked : during.exchanges thread =
      [] ++ ⟨request, request.interrupted⟩ :: _ := asked
  obtain ⟨past, later, c₀, c₁, c₂, c₃, rfl, hpast, hlater, began, steps, first,
    steps', ended, next, calling, reaches⟩ := episode.at_exchange asked
  have hlater : later.exchanges thread = request.exchanges
      (.replicate count request.interrupted) ++ ⟨request, answer⟩ :: rest := by
    simpa [Call.exchanges] using hlater
  obtain ⟨between, final, rfl, hbetween, hfinal⟩ :=
    Trace.split_of_exchanges hlater
  obtain ⟨c₄, c₅, round, decided, steps''⟩ := steps'.split
  let interrupted : Event := .answered thread request request.interrupted
  have within := episode.within
  have run₁ := (run.step began).steps steps
  have rounds : Steps fd c₁ (interrupted :: between) c₄ :=
    (Steps.single first).trans round
  have withinRounds : Trace.IsWithin thread (interrupted :: between) :=
    within.of_subset fun event hmem => by
      simp only [List.mem_append, List.mem_cons] at hmem ⊢
      tauto
  have withinFinal : final.IsWithin thread :=
    within.of_subset fun event hmem => by simp [hmem]
  have isOpen := decided.isOpen_of_answered (run₁.steps rounds) steps''
    withinFinal ended
    (rounds.isInside withinRounds (calling ▸ ⟨rfl, reaches⟩)) blocking lively
  have stayed := rounds.without_rounds (count + 1) run₁ withinRounds
    calling (insists reaches)
    (by
      rw [List.replicate_succ]
      simpa [Trace.exchanges, interrupted, Call.exchanges] using hbetween)
    decided isOpen
  refine ⟨past ++ Trace.others thread (interrupted :: between) ++
      .answered thread request answer :: final,
    ⟨⟨c₀, c₃, began, ?_, ended⟩, ?_⟩, ?_, ?_⟩
  · exact (steps.trans stayed).trans ((Steps.single decided).trans steps'')
  · refine within.of_subset fun event hmem => ?_
    simp only [List.mem_append, List.mem_cons, Trace.mem_others] at hmem ⊢
    tauto
  · rw [Trace.exchanges_append, Trace.exchanges_append, hpast,
      Trace.exchanges_others]
    simpa [Trace.exchanges, Call.exchanges] using hfinal
  · have split : past ++ interrupted :: (between ++
        .answered thread request answer :: final) =
        past ++ (interrupted :: between) ++
          .answered thread request answer :: final := by simp
    rw [split, Trace.others_append, Trace.others_append, Trace.others_append,
      Trace.others_append, Trace.others_others]

theorem Undergoes.with_interruptions (count : Nat) (run : Run fd before c)
    (insists : (operation.program fd).Insists request)
    (blocking : request.isBlocking = true)
    (lively : ∀ gain, ¬operation.Ends gain reply)
    (undergoes : Undergoes fd thread operation c
      (request.exchanges [answer] ++ rest) others reply c') :
    Undergoes fd thread operation c
      (request.exchanges (.replicate count request.interrupted ++ [answer]) ++
        rest) others reply c' := by
  obtain ⟨during, episode, asked, rfl⟩ := undergoes
  have asked : during.exchanges thread = [] ++ ⟨request, answer⟩ :: rest :=
    asked
  obtain ⟨past, later, c₀, c₁, c₂, c₃, rfl, hpast, hlater, began, steps,
    decided, steps', ended, next, calling, reaches⟩ := episode.at_exchange asked
  have within := episode.within
  have isOpen := decided.isOpen_of_answered ((run.step began).steps steps)
    steps' (within.of_subset (by simp)) ended (calling ▸ ⟨rfl, reaches⟩)
    blocking lively
  obtain ⟨trace, rounds, hrounds, own⟩ := Steps.rounds calling
    (insists reaches) isOpen count
  refine ⟨past ++ trace ++ .answered thread request answer :: later,
    ⟨⟨c₀, c₃, began, ?_, ended⟩, ?_⟩, ?_, ?_⟩
  · exact (steps.trans rounds).trans ((Steps.single decided).trans steps')
  · intro event hmem
    obtain ⟨hmem, hthread⟩ := Trace.mem_own.mp hmem
    obtain hmem | hmem : event ∈ trace ∨
        event ∈ past ++ .answered thread request answer :: later := by
      simp only [List.mem_append, List.mem_cons] at hmem ⊢
      tauto
    · exact (own event hmem).2
    · exact within event (Trace.mem_own.mpr ⟨hmem, hthread⟩)
  · rw [Trace.exchanges_append, Trace.exchanges_append, hpast, hrounds]
    simpa [Trace.exchanges, Call.exchanges] using hlater
  · rw [Trace.others_append, Trace.others_append,
      Trace.others_of_own fun event hmem => (own event hmem).1,
      List.append_nil, Trace.others_append]

end Episode

end LocalSocket
