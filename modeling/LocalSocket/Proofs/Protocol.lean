import LocalSocket.Channel.Close
import LocalSocket.Proofs.Run

/-!
# Protocols

A protocol says, for every action of a thread, when the thread may take it and
what it then may rely on.  What a thread has done so far enters as its standing,
a value that only the proofs know of.

That a program keeps to a protocol is said of the program alone, whatever the
other threads do: `Protocol.Meets` is its weakest precondition.  What the
threads may rely on is justified once, by an invariant of the configuration and
all standings, in `Protocol.Preserves`; `Protocol.steps` puts the two together.
-/

namespace LocalSocket

/-- The action that comes next, if the program is not at its end. -/
def Program.next? {α : Type} : Program α → Option Action
  | .done _ => none
  | .act action _ => some action
  | .loop body _ => body.next?

structure Protocol (σ : Type) where
  /-- Whether a thread may take an action, provided that it can go on with every
  result. -/
  act : Thread → σ → (action : Action) → (action.Result → σ → Prop) → Prop
  mono : ∀ {thread : Thread} {s : σ} {action : Action}
    {k k' : action.Result → σ → Prop},
    (∀ result s', k result s' → k' result s') → act thread s action k →
      act thread s action k'
  rest : σ
  opens : Channel.Operation → σ
  closes : Channel.Operation → Channel.Reply → σ → Prop
  /-- The operations that the protocol is about. -/
  covers : Channel.Operation → Prop := fun _ => True
  /-- What is assumed about answers of the system. -/
  trusts : (call : Call) → call.Answer → Prop := fun _ _ => True

@[simp] theorem Program.perform_eq (action : Action) :
    Program.perform action = .act action .done := rfl

@[simp] theorem Program.call_eq (request : Call) :
    Program.call request = .act (.call request) .done := rfl

@[simp] theorem Operating.perform_eq (action : Action) :
    Operating.perform action = ExceptT.lift (.act action .done) := rfl

namespace Protocol

variable {σ : Type} (P : Protocol σ) (thread : Thread)

/-- The program keeps to the protocol from the standing `s` on, and ends as
`post` says. -/
def Meets {α : Type} : Program α → (α → σ → Prop) → σ → Prop
  | .done value, post, s => post value s
  | .act action next, post, s =>
      P.act thread s action fun result => Meets (next result) post
  | .loop body next, post, s =>
      body.next? ≠ none ∧
        ∃ invariant : σ → Prop, invariant s ∧
          ∀ s', invariant s' → Meets body (fun
            | none => invariant
            | some value => Meets (next value) post) s'

section Rules

variable {P thread} {α β : Type}

theorem Meets.mono {program : Program α} {post post' : α → σ → Prop} {s : σ}
    (h : P.Meets thread program post s)
    (himp : ∀ value s', post value s' → post' value s') :
    P.Meets thread program post' s := by
  induction program generalizing s with
  | done value => exact himp value s h
  | act action next ih =>
      simp only [Meets] at h ⊢
      exact P.mono (fun result s' hnext => ih result hnext himp) h
  | loop body next ihBody ihNext =>
      simp only [Meets] at h ⊢
      obtain ⟨hguard, invariant, hs, hbody⟩ := h
      refine ⟨hguard, invariant, hs, fun s' hs' => ihBody (hbody s' hs') ?_⟩
      intro value s'' hvalue
      cases value with
      | none => exact hvalue
      | some value => exact ihNext value hvalue himp

theorem meets_bind (program : Program α) (f : α → Program β)
    (post : β → σ → Prop) :
    P.Meets thread (program.bind f) post =
      P.Meets thread program fun value => P.Meets thread (f value) post := by
  induction program with
  | done value => rfl
  | act action next ih =>
      funext s
      simp only [Program.bind, Meets]
      congr 1
      funext result
      exact ih result f
  | loop body next _ ihNext =>
      funext s
      simp only [Program.bind, Meets]
      simp only [ihNext]

theorem Meets.unroll {body : Program (Option β)} {next : β → Program α}
    {post : α → σ → Prop} {s : σ}
    (h : P.Meets thread (.loop body next) post s) :
    P.Meets thread (.unroll body next) post s := by
  obtain ⟨hguard, invariant, hs, hbody⟩ := h
  -- coming round, the loop starts over with the same invariant
  rw [Program.unroll, meets_bind]
  refine (hbody s hs).mono fun value s' hvalue => ?_
  cases value with
  | none => exact ⟨hguard, invariant, hvalue, hbody⟩
  | some value => exact hvalue

theorem Meets.next {program : Program α} {post : α → σ → Prop} {s : σ}
    {action : Action} (h : P.Meets thread program post s)
    (hnext : program.next? = some action) :
    P.act thread s action fun _ _ => True := by
  induction program generalizing s with
  | done => cases hnext
  | act first next =>
      cases hnext
      exact P.mono (fun _ _ _ => trivial) h
  | loop body next ihBody _ =>
      obtain ⟨_, invariant, hs, hbody⟩ := h
      exact ihBody (hbody s hs) hnext

theorem Meets.done_of_next?_eq_none {program : Program α} {post : α → σ → Prop}
    {s : σ} (h : P.Meets thread program post s) (hnext : program.next? = none) :
    ∃ value, program = .done value := by
  cases program with
  | done value => exact ⟨value, rfl⟩
  | act action next => cases hnext
  | loop body next => exact absurd hnext h.1

variable {post : α → σ → Prop}

@[simp] theorem meets_done (value : α) :
    P.Meets thread (.done value) post = post value := rfl

@[simp] theorem meets_pure (value : α) :
    P.Meets thread (pure value) post = post value := rfl

@[simp] theorem meets_bind_eq (program : Program β) (f : β → Program α) :
    P.Meets thread (program >>= f) post =
      P.Meets thread program fun value => P.Meets thread (f value) post :=
  meets_bind program f post

@[simp] theorem meets_map (program : Program β) (f : β → α) :
    P.Meets thread (f <$> program) post = P.Meets thread program
      fun value => post (f value) :=
  meets_bind program (fun value => .done (f value)) post

@[simp] theorem meets_ite (condition : Prop) [Decidable condition]
    (program other : Program α) :
    P.Meets thread (if condition then program else other) post =
      if condition then P.Meets thread program post
      else P.Meets thread other post := by
  split <;> rfl

@[simp] theorem meets_act (action : Action) (next : action.Result → Program α) :
    P.Meets thread (.act action next) post = fun s =>
      P.act thread s action fun result => P.Meets thread (next result) post :=
  rfl

theorem meets_loop {body : Program (Option β)} {next : β → Program α} {s : σ}
    (invariant : σ → Prop) (hguard : body.next? ≠ none) (hs : invariant s)
    (hbody : ∀ s', invariant s' → P.Meets thread body (fun
      | none => invariant
      | some value => P.Meets thread (next value) post) s') :
    P.Meets thread (.loop body next) post s :=
  ⟨hguard, invariant, hs, hbody⟩

/-- A call that is repeated has to be allowed whenever it has been
interrupted. -/
theorem meets_retry {request : Call} {post : request.Answer → σ → Prop} {s : σ}
    (invariant : σ → Prop) (hs : invariant s)
    (hcall : ∀ s', invariant s' →
      P.act thread s' (.call request) fun
        | .ok value, s'' => post (.ok value) s''
        | .error error, s'' =>
            if error.isInterrupted then invariant s''
            else post (.error error) s'') :
    P.Meets thread (Program.retry request) post s := by
  refine meets_loop invariant (by simp [Program.next?]) hs fun s' hs' => ?_
  refine P.mono (fun answer s'' hanswer => ?_) (hcall s' hs')
  cases answer with
  | ok value => exact hanswer
  | error error =>
      by_cases hinterrupted : error.isInterrupted = true
      · simpa [hinterrupted] using hanswer
      · simpa [hinterrupted] using hanswer

theorem meets_holding {lock : Lock} {body : Program α} :
    P.Meets thread (Program.holding lock body) post = fun s =>
      P.act thread s (.acquire lock) fun _ =>
        P.Meets thread body fun value s' =>
          P.act thread s' (.release lock) fun _ => post value := by
  simp [Program.holding]

section Operating

variable {post : Except ChannelError α → σ → Prop}

@[simp] theorem meets_run_pure (value : α) :
    P.Meets thread (pure value : Operating α).run post = post (.ok value) := rfl

@[simp] theorem meets_run_throw (error : ChannelError) :
    P.Meets thread (throw error : Operating α).run post = post (.error error) :=
  rfl

@[simp] theorem meets_run_bind (operation : Operating β) (f : β → Operating α) :
    P.Meets thread (operation >>= f).run post =
      P.Meets thread operation.run fun
        | .ok value => P.Meets thread (f value).run post
        | .error error => post (.error error) := by
  refine (meets_bind operation.run (ExceptT.bindCont f) post).trans ?_
  congr 1
  funext result
  cases result <;> rfl

theorem meets_run_lift (program : Program α) :
    P.Meets thread (ExceptT.lift program : Operating α).run post =
      P.Meets thread program fun value => post (.ok value) :=
  meets_map program Except.ok

@[simp] theorem meets_run_ite (condition : Prop) [Decidable condition]
    (operation other : Operating α) :
    P.Meets thread (ExceptT.run (if condition then operation else other)) post =
      if condition then P.Meets thread operation.run post
      else P.Meets thread other.run post := by
  split <;> rfl

@[simp] theorem meets_run_returning (result : Except ChannelError α) :
    P.Meets thread (Operating.returning result).run post = post result := rfl

@[simp] theorem meets_run_onSocket (program : Program (Except OsError α)) :
    P.Meets thread (Operating.onSocket program).run post =
      P.Meets thread program fun
        | .ok value => post (.ok value)
        | .error error => post (.error (.socket error)) := by
  refine (meets_bind program _ post).trans ?_
  congr 1
  funext result
  cases result <;> rfl

@[simp] theorem meets_run_quietly {post : Except ChannelError Unit → σ → Prop}
    (operation : Operating Unit) :
    P.Meets thread (Operating.quietly operation).run post =
      P.Meets thread operation.run fun _ => post (.ok ()) :=
  (meets_run_lift _).trans (meets_bind operation.run (fun _ => .done ()) _)

theorem meets_run_holding {lock : Lock} {body : Operating α} :
    P.Meets thread (Operating.holding lock body).run post = fun s =>
      P.act thread s (.acquire lock) fun _ =>
        P.Meets thread body.run fun value s' =>
          P.act thread s' (.release lock) fun _ => post value :=
  meets_holding

theorem meets_reply {make : α → Channel.Reply} {operation : Operating α}
    {post : Channel.Reply → σ → Prop} :
    P.Meets thread (Channel.reply make operation) post =
      P.Meets thread operation.run fun
        | .ok value => post (make value)
        | .error error => post (.failed error) := by
  refine (meets_bind operation.run _ post).trans ?_
  congr 1
  funext result
  cases result <;> rfl

end Operating

end Rules

/-- What a program says of its standing carries over to one that goes along with
it, action by action. -/
theorem Meets.simulate {τ α : Type} {P : Protocol σ} {Q : Protocol τ}
    {thread : Thread} {R : σ → τ → Prop}
    (hact : ∀ {s : σ} {t : τ} {action : Action} {k : action.Result → σ → Prop},
      R s t → P.act thread s action k →
      Q.act thread t action fun result t' => ∃ s', R s' t' ∧ k result s')
    {program : Program α} {post : α → σ → Prop} {s : σ} {t : τ} (goes : R s t)
    (h : P.Meets thread program post s) :
    Q.Meets thread program (fun value t' => ∃ s', R s' t' ∧ post value s')
      t := by
  induction program generalizing s t with
  | done value => exact ⟨s, goes, h⟩
  | act action next ih =>
      refine Q.mono (fun result t' hnext => ?_) (hact goes h)
      obtain ⟨s', goes', h'⟩ := hnext
      exact ih result goes' h'
  | loop body next ihBody ihNext =>
      obtain ⟨hguard, invariant, hs, hbody⟩ := h
      refine ⟨hguard, fun t' => ∃ s', R s' t' ∧ invariant s', ⟨s, goes, hs⟩, ?_⟩
      rintro t' ⟨s', goes', hs'⟩
      refine (ihBody goes' (hbody s' hs')).mono fun value t'' hvalue => ?_
      obtain ⟨s'', goes'', hs''⟩ := hvalue
      cases value with
      | none => exact ⟨s'', goes'', hs''⟩
      | some value => exact ihNext value goes'' hs''

/-! ## Threads that keep to a protocol -/

def Keeps (s : σ) : Activity → Prop
  | .idle => s = P.rest
  | .running operation rest =>
      P.covers operation → P.Meets thread rest (P.closes operation) s
  | .calling operation call next =>
      P.covers operation → P.act thread s (.call call) fun answer =>
        P.Meets thread (next answer) (P.closes operation)

def Obeyed (fd : Fd) : Prop :=
  ∀ thread operation, P.covers operation →
    P.Meets thread (operation.program fd) (P.closes operation)
      (P.opens operation)

def Reachable (fd : Fd) (c : Config) : Prop := ∃ trace, Run fd trace c

/-- An invariant of what has happened, the configuration and the standings is
preserved by every step of a thread that keeps to the protocol.  A thread goes
on with a standing that the protocol lets it rely on. -/
structure Preserves (fd : Fd) (I : Trace → Config → (Thread → σ) → Prop) :
    Prop where
  begin : ∀ {trace c S thread operation}, I trace c S → Reachable fd c →
    c.activity thread = .idle → S thread = P.rest → c.isDropped = false →
    (operation.takesGuard = true → 0 < c.guards) →
    I (trace ++ [.began thread operation])
      { c.set thread (.running operation (operation.program fd)) with
        guards := c.guards - operation.takesGuard.toNat }
      (Function.update S thread (P.opens operation))
  drop : ∀ {trace c S thread}, I trace c S → Reachable fd c →
    (∀ other, c.activity other = .idle) → (∀ other, S other = P.rest) →
    c.guards = 0 → c.isDropped = false →
    I (trace ++ [.began thread .close])
      { c.set thread (.running .close (Channel.Operation.close.program fd)) with
        isDropped := true }
      (Function.update S thread (P.opens .close))
  act : ∀ {trace c S thread operation action channel result}
    {next : action.Result → Program Channel.Reply}
    {k : action.Result → σ → Prop},
    I trace c S → Reachable fd c →
      c.activity thread = .running operation (.act action next) →
    c.channel.answer thread action = .answered channel result →
    (P.covers operation → P.act thread (S thread) action k) →
    ∃ s', (P.covers operation → k result s') ∧
      I (trace ++ [.acted thread action])
        { c.set thread (.running operation (next result)) with
          channel := channel }
        (Function.update S thread s')
  pause : ∀ {trace c S thread operation} {next : Unit → Program Channel.Reply}
    {k : Unit → σ → Prop},
    I trace c S → Reachable fd c →
      c.activity thread = .running operation (.act .pause next) →
    (P.covers operation → P.act thread (S thread) .pause k) →
    ∃ s', (P.covers operation → k () s') ∧
      I (trace ++ [.acted thread .pause])
        (c.set thread (.running operation (next ())))
        (Function.update S thread s')
  unroll : ∀ {trace c S thread operation} {β : Type} {body : Program (Option β)}
    {next : β → Program Channel.Reply},
    I trace c S → Reachable fd c →
      c.activity thread = .running operation (.loop body next) →
    I trace (c.set thread (.running operation (.unroll body next))) S
  call : ∀ {trace c S thread operation call}
    {next : call.Answer → Program Channel.Reply}
    {k : call.Answer → σ → Prop},
    I trace c S → Reachable fd c →
    c.activity thread = .running operation (.act (.call call) next) →
    (P.covers operation → P.act thread (S thread) (.call call) k) →
    I (trace ++ [.called thread call])
      (c.set thread (.calling operation call next)) S
  answer : ∀ {trace c S thread operation call}
    {next : call.Answer → Program Channel.Reply}
    {k : call.Answer → σ → Prop} (answer : call.Answer),
    I trace c S → Reachable fd c →
      c.activity thread = .calling operation call next →
    P.trusts call answer →
      (P.covers operation → P.act thread (S thread) (.call call) k) →
    ∃ s', (P.covers operation → k answer s') ∧
      I (trace ++ [.answered thread call answer])
        (c.set thread (.running operation (next answer)))
        (Function.update S thread s')
  finish : ∀ {trace c S thread operation reply}, I trace c S → Reachable fd c →
    c.activity thread = .running operation (.done reply) →
    (P.covers operation → P.closes operation reply (S thread)) →
    I (trace ++ [.ended thread operation reply])
      { c.set thread .idle with
        guards := c.guards + (operation.givesGuard reply).toNat }
      (Function.update S thread P.rest)

variable {P} {fd : Fd}

private theorem keeps_update {c : Config} {S : Thread → σ} {thread : Thread}
    {activity : Activity} {s : σ} (hkeeps : ∀ t, P.Keeps t (S t) (c.activity t))
    (h : P.Keeps thread s activity) (t : Thread) :
    P.Keeps t (Function.update S thread s t)
      ((c.set thread activity).activity t) := by
  by_cases ht : t = thread
  · subst ht
    simpa using h
  · simpa [ht] using hkeeps t

theorem step {I : Trace → Config → (Thread → σ) → Prop} (obeyed : P.Obeyed fd)
    (preserves : P.Preserves fd I) {trace events : Trace} {c c' : Config}
    {S : Thread → σ} (hstep : Step fd c events c') (reach : Reachable fd c)
    (trusted : ∀ t call answer, .answered t call answer ∈ events →
      P.trusts call answer)
    (hI : I trace c S) (hkeeps : ∀ t, P.Keeps t (S t) (c.activity t)) :
    ∃ S', I (trace ++ events) c' S' ∧ ∀ t, P.Keeps t (S' t)
      (c'.activity t) := by
  -- only the thread that takes the step gets a new standing
  have rest_of_idle : ∀ t, c.activity t = .idle → S t = P.rest := fun t ht => by
    simpa [Keeps, ht] using hkeeps t
  cases hstep with
  | @begin thread operation idle isLive hasGuard =>
      exact ⟨_, preserves.begin hI reach idle
        (rest_of_idle _ idle) isLive hasGuard,
        keeps_update hkeeps (obeyed thread operation)⟩
  | @drop thread idle unguarded isLive =>
      exact ⟨_, preserves.drop hI reach idle
        (fun t => rest_of_idle t (idle t)) unguarded isLive,
        keeps_update hkeeps (obeyed thread .close)⟩
  | @act thread operation action next channel result running answered =>
      have hmeets :
          P.Keeps thread (S thread) (.running operation (.act action next)) :=
        running ▸ hkeeps thread
      obtain ⟨s', hnext, hI'⟩ := preserves.act hI reach running answered hmeets
      exact ⟨_, hI', keeps_update hkeeps hnext⟩
  | @pause thread operation next running =>
      have hmeets :
          P.Keeps thread (S thread) (.running operation (.act .pause next)) :=
        running ▸ hkeeps thread
      obtain ⟨s', hnext, hI'⟩ := preserves.pause hI reach running hmeets
      exact ⟨_, hI', keeps_update hkeeps hnext⟩
  | @unroll thread operation β body next running =>
      have hmeets :
          P.Keeps thread (S thread) (.running operation (.loop body next)) :=
        running ▸ hkeeps thread
      refine ⟨S, by simpa using preserves.unroll hI reach running, fun t => ?_⟩
      have hunrolled :
          P.Keeps thread (S thread) (.running operation (.unroll body next)) :=
        fun hcovers => (hmeets hcovers).unroll
      simpa using keeps_update hkeeps hunrolled t
  | @call thread operation call next running =>
      have hmeets : P.Keeps thread (S thread)
          (.running operation (.act (.call call) next)) :=
        running ▸ hkeeps thread
      refine ⟨S, preserves.call hI reach running hmeets, fun t => ?_⟩
      have hinside : P.Keeps thread (S thread) (.calling operation call next) :=
        hmeets
      simpa using keeps_update hkeeps hinside t
  | @answer thread operation call next answer calling =>
      have hmeets : P.Keeps thread (S thread) (.calling operation call next) :=
        calling ▸ hkeeps thread
      obtain ⟨s', hnext, hI'⟩ :=
        preserves.answer answer hI reach calling
          (trusted thread call answer (by simp)) hmeets
      exact ⟨_, hI', keeps_update hkeeps hnext⟩
  | @finish thread operation reply running =>
      have hmeets :
          P.Keeps thread (S thread) (.running operation (.done reply)) :=
        running ▸ hkeeps thread
      exact ⟨_, preserves.finish hI reach running hmeets,
        keeps_update hkeeps rfl⟩

/-- If all operations keep to the protocol, what its steps preserve is preserved
by every sequence of steps. -/
theorem steps {I : Trace → Config → (Thread → σ) → Prop} (obeyed : P.Obeyed fd)
    (preserves : P.Preserves fd I) {trace : Trace} {c c' : Config}
    {S : Thread → σ} (hsteps : Steps fd c trace c') (reach : Reachable fd c)
    (trusted : ∀ t call answer, .answered t call answer ∈ trace →
      P.trusts call answer)
    (hI : I [] c S) (hkeeps : ∀ t, P.Keeps t (S t) (c.activity t)) :
    ∃ S', I trace c' S' ∧ ∀ t, P.Keeps t (S' t) (c'.activity t) := by
  induction hsteps with
  | refl => exact ⟨S, hI, hkeeps⟩
  | tail hsteps hstep ih =>
      obtain ⟨S', hI', hkeeps'⟩ := ih fun t call answer hmem =>
        trusted t call answer (List.mem_append_left _ hmem)
      obtain ⟨past, run⟩ := reach
      exact step obeyed preserves hstep ⟨_, run.steps hsteps⟩
        (fun t call answer hmem => trusted t call answer
          (List.mem_append_right _ hmem))
        hI' hkeeps'

theorem run {I : Trace → Config → (Thread → σ) → Prop} (obeyed : P.Obeyed fd)
    (preserves : P.Preserves fd I)
    (start : ∀ channel : Channel, channel.IsFresh fd →
      I [] (.start channel) fun _ => P.rest)
    {trace : Trace} {c : Config} (hrun : Run fd trace c)
    (trusted : ∀ t call answer, .answered t call answer ∈ trace →
      P.trusts call answer) :
    ∃ S, I trace c S ∧ ∀ t, P.Keeps t (S t) (c.activity t) := by
  obtain ⟨channel, fresh, hsteps⟩ := hrun
  exact steps obeyed preserves hsteps ⟨_, .start fresh⟩ trusted
    (start channel fresh)
    fun t => rfl

end Protocol

end LocalSocket
