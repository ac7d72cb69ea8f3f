import LocalSocket.Proofs.Accounting

/-!
# Threads that have the channel to themselves

While nobody else uses the channel, an operation does to it what its program
says: actions take effect one after the other, no lock has to be waited for, and
only the answers of the system are open.  What the operation comes to can then
be worked out on the program alone.
-/

namespace LocalSocket

/-- An operation of a thread from its beginning to its end, with what is seen in
between. -/
structure Episode (fd : Fd) (thread : Thread) (operation : Channel.Operation)
    (c : Config) (during : Trace) (reply : Channel.Reply) (c' : Config) :
    Prop where
  passes : ∃ c₁ c₂, Step fd c [.began thread operation] c₁ ∧
    Steps fd c₁ during c₂ ∧ Step fd c₂ [.ended thread operation reply] c'
  within : during.IsWithin thread

/-- A channel that one thread has to itself, and the calls of the thread that
have failed. -/
structure Solo where
  channel : Channel
  failures : List (Call × OsError) := []

def Solo.after (s : Solo) : (action : Action) → action.Result → Solo
  | .call call, .error error =>
      { s with failures := s.failures ++ [(call, error)] }
  | _, _ => s

/-- The thread may take every action that it need not wait for. -/
def solo : Protocol Solo where
  act thread s action k :=
    match s.channel.answer thread action with
    | .answered channel result => k result { s with channel := channel }
    | .waits => False
    | .outside => ∀ result, k result (s.after action result)
  mono := by
    intro thread s action k k' himp h
    cases hanswer : s.channel.answer thread action with
    | answered channel result =>
        simp only [hanswer] at h ⊢
        exact himp _ _ h
    | waits => simp [hanswer] at h
    | outside =>
        simp only [hanswer] at h ⊢
        exact fun result => himp _ _ (h result)
  rest := { channel := .uninitialized }
  opens := fun _ => { channel := .uninitialized }
  closes := fun _ _ _ => True

namespace Solo

open Protocol

/-- A thread has come as far with an operation as its program and the standing
say, and is bound to end as `post` says. -/
structure Follows (thread : Thread) (operation : Channel.Operation)
    (post : Channel.Reply → Solo → Prop) (during : Trace) (c : Config)
    (s : Solo) : Prop where
  channel : s.channel = c.channel
  failed : ∀ call error, (call, error) ∈ s.failures →
    .answered thread call (.error error) ∈ during
  inside : (∃ rest, c.activity thread = .running operation rest ∧
      solo.Meets thread rest post s) ∨
    ∃ call next, c.activity thread = .calling operation call next ∧
      ∀ answer, solo.Meets thread (next answer) post
        (s.after (.call call) answer)

section Follows

variable {fd : Fd} {thread : Thread} {operation : Channel.Operation}
  {post : Channel.Reply → Solo → Prop} {during events : Trace} {c c' : Config}
  {s : Solo}

theorem Follows.running (follows : Follows thread operation post during c s)
    {operation' : Channel.Operation} {rest : Program Channel.Reply}
    (running : c.activity thread = .running operation' rest) :
    operation' = operation ∧ solo.Meets thread rest post s := by
  obtain ⟨rest', running', hmeets⟩ | ⟨call, next, calling, _⟩ := follows.inside
  · rw [running] at running'
    cases running'
    exact ⟨rfl, hmeets⟩
  · rw [running] at calling
    cases calling

theorem Follows.calling (follows : Follows thread operation post during c s)
    {operation' : Channel.Operation} {call : Call}
    {next : call.Answer → Program Channel.Reply}
    (calling : c.activity thread = .calling operation' call next)
    (answer : call.Answer) :
    operation' = operation ∧ solo.Meets thread (next answer) post
      (s.after (.call call) answer) := by
  obtain ⟨rest', running, _⟩ | ⟨call, next, calling', hmeets⟩ := follows.inside
  · rw [calling] at running
    cases running
  · rw [calling] at calling'
    cases calling'
    exact ⟨rfl, hmeets answer⟩

/-- Inside an operation, a step of the thread is one of its program. -/
theorem Follows.step (follows : Follows thread operation post during c s)
    (step : Step fd c events c')
    (alone : ∀ event ∈ events, event.thread = thread)
    (within : ∀ event ∈ events, event.isBoundary = false) :
    ∃ s', Follows thread operation post (during ++ events) c' s' := by
  have hfailed : ∀ {events : Trace} call error, (call, error) ∈ s.failures →
      .answered thread call (.error error) ∈ during ++ events :=
    fun call error hmem => List.mem_append_left _ (follows.failed _ _ hmem)
  cases step with
  | begin | drop | finish =>
      have hboundary := within _ (List.mem_singleton.mpr rfl)
      cases hboundary
  | @act thread' operation' action next channel result running answered =>
      obtain rfl : thread' = thread := alone (.acted thread' action) (by simp)
      obtain ⟨rfl, hmeets⟩ := follows.running running
      have hact := follows.channel ▸ answered
      refine ⟨{ s with channel := channel }, rfl, hfailed,
        .inl ⟨next result, by simp, ?_⟩⟩
      simpa [solo, hact] using hmeets
  | @pause thread' operation' next running =>
      obtain rfl : thread' = thread := alone (.acted thread' .pause) (by simp)
      obtain ⟨rfl, hmeets⟩ := follows.running running
      exact ⟨s, follows.channel, hfailed, .inl ⟨next (), by simp, hmeets ()⟩⟩
  | @unroll thread' operation' β body next running =>
      by_cases ht : thread' = thread
      · subst ht
        obtain ⟨rfl, hmeets⟩ := follows.running running
        exact ⟨s, follows.channel, hfailed, .inl ⟨_, by simp, hmeets.unroll⟩⟩
      · refine ⟨s, follows.channel, hfailed, ?_⟩
        simpa [Ne.symm ht] using follows.inside
  | @call thread' operation' call next running =>
      obtain rfl : thread' = thread := alone (.called thread' call) (by simp)
      obtain ⟨rfl, hmeets⟩ := follows.running running
      exact ⟨s, follows.channel, hfailed, .inr ⟨call, next, by simp, hmeets⟩⟩
  | @answer thread' operation' call next answer calling =>
      obtain rfl : thread' = thread :=
        alone (.answered thread' call answer) (by simp)
      obtain ⟨rfl, hmeets⟩ := follows.calling calling answer
      refine ⟨_, ?_, ?_, .inl ⟨_, by simp, hmeets⟩⟩
      · cases answer <;> exact follows.channel
      · cases answer with
        | ok value => exact hfailed
        | error error =>
            intro call' error' hmem
            obtain hmem | ⟨rfl, rfl⟩ : (call', error') ∈ s.failures ∨
                call' = call ∧ error' = error := by simpa [after] using hmem
            · exact hfailed _ _ hmem
            · simp

theorem Follows.steps (follows : Follows thread operation post [] c s)
    (steps : Steps fd c during c')
    (alone : ∀ event ∈ during, event.thread = thread)
    (within : during.IsWithin thread) :
    ∃ s', Follows thread operation post during c' s' := by
  have hboundary : ∀ event ∈ during, event.isBoundary = false :=
    fun event hmem =>
      within event (Trace.mem_own.mpr ⟨hmem, alone event hmem⟩)
  clear within
  induction steps with
  | refl => exact ⟨s, follows⟩
  | tail _ hstep ih =>
      obtain ⟨s', hfollows⟩ :=
        ih (fun event hmem => alone event (List.mem_append_left _ hmem))
          fun event hmem => hboundary event (List.mem_append_left _ hmem)
      exact hfollows.step hstep
        (fun event hmem => alone event (List.mem_append_right _ hmem))
        fun event hmem => hboundary event (List.mem_append_right _ hmem)

end Follows

end Solo

section Episode

variable {fd : Fd} {thread : Thread} {operation : Channel.Operation}
  {reply : Channel.Reply} {before during : Trace} {c c' : Config}

theorem Step.running_of_began (step : Step fd c [.began thread operation] c') :
    c'.activity thread = .running operation (operation.program fd) ∧
      c'.channel = c.channel := by
  cases step <;> simp

/-- An operation that has the channel to itself ends as its program does. -/
theorem Episode.solo {post : Channel.Reply → Solo → Prop}
    (episode : Episode fd thread operation c during reply c')
    (alone : ∀ event ∈ during, event.thread = thread)
    (hmeets : solo.Meets thread (operation.program fd) post ⟨c.channel, []⟩) :
    ∃ failures, post reply ⟨c'.channel, failures⟩ ∧
      ∀ call error, (call, error) ∈ failures →
        .answered thread call (.error error) ∈ during := by
  obtain ⟨c₁, c₂, began, steps, ended⟩ := episode.passes
  obtain ⟨running, hchannel⟩ := began.running_of_began
  have start : Solo.Follows thread operation post [] c₁ ⟨c.channel, []⟩ :=
    ⟨hchannel.symm, by simp, .inl ⟨_, running, hmeets⟩⟩
  obtain ⟨s, follows⟩ := start.steps steps alone episode.within
  obtain ⟨-, hpost⟩ := follows.running ended.done_of_ended
  have hsame : c'.channel = s.channel := by
    cases ended with
    | finish => exact follows.channel.symm
  exact ⟨s.failures, hsame ▸ hpost, follows.failed⟩

theorem Episode.run (episode : Episode fd thread operation c during reply c')
    (run : Run fd before c) :
    Run fd (before ++ .began thread operation :: during ++
      [.ended thread operation reply]) c' := by
  obtain ⟨c₁, c₂, began, steps, ended⟩ := episode.passes
  have hrun := ((run.step began).steps steps).step ended
  simpa using hrun

end Episode

end LocalSocket
