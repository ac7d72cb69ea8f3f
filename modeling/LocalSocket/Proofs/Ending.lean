import LocalSocket.Proofs.Alone
import LocalSocket.Proofs.Aloof
import LocalSocket.Proofs.Failure

/-!
# Programs that come to an end

A call may be interrupted again and again, and a program that repeats it goes
on for as long as the system has it so.  But a prompt program ends with the
first round of each of its loops if the system refuses its calls.  A thread that
has the channel to itself and need not wait can bring such a program to its end.
-/

namespace LocalSocket

/-- What is counted on if the system refuses all calls. -/
def Action.Refuses : (action : Action) → action.Result → Prop
  | .call _, answer => answer = .error (.code Errno.again)
  | _, _ => True

namespace Program

variable {α β : Type}

/-- If its calls are refused, the program ends like that, with the first round
of each loop.  In none of the calls the thread may be blocked. -/
def IsPrompt {α : Type} : Program α → (α → Prop) → Prop
  | .done value, post => post value
  | .act action next, post => action.isAloof = true ∧
      ∀ result, action.Refuses result → (next result).IsPrompt post
  | .loop body next, post => body.IsPrompt fun
      | none => False
      | some value => (next value).IsPrompt post

namespace IsPrompt

variable {post post' : α → Prop}

theorem mono {program : Program α} (h : program.IsPrompt post)
    (himp : ∀ value, post value → post' value) : program.IsPrompt post' := by
  induction program with
  | done value => exact himp value h
  | act action next ih =>
      exact ⟨h.1, fun result hresult => ih result (h.2 result hresult) himp⟩
  | loop body next ihBody ihNext =>
      rw [IsPrompt] at h ⊢
      refine ihBody h fun value hvalue => ?_
      cases value with
      | none => exact hvalue
      | some value => exact ihNext value hvalue himp

theorem bind {program : Program α} {f : α → Program β} {post : β → Prop}
    (h : program.IsPrompt fun value => (f value).IsPrompt post) :
    (program >>= f).IsPrompt post := by
  show (program.bind f).IsPrompt post
  induction program with
  | done value => exact h
  | act action next ih =>
      exact ⟨h.1, fun result hresult => ih result (h.2 result hresult)⟩
  | loop body next _ ihNext =>
      rw [Program.bind, IsPrompt]
      rw [IsPrompt] at h
      refine h.mono fun value hvalue => ?_
      cases value with
      | none => exact hvalue
      | some value => exact ihNext value hvalue

theorem perform {action : Action} (aloof : action.isAloof = true)
    {post : action.Result → Prop}
    (hpost : ∀ result, action.Refuses result → post result) :
    (Program.perform action).IsPrompt post :=
  ⟨aloof, hpost⟩

theorem holding {lock : Lock} {body : Program α} (h : body.IsPrompt post) :
    (Program.holding lock body).IsPrompt post := by
  refine .bind (.perform rfl fun _ _ => .bind (h.mono fun value hvalue => ?_))
  exact .bind (.perform rfl fun _ _ => hvalue)

theorem retry {request : Call} (aloof : request.isBlocking = false)
    {post : request.Answer → Prop}
    (hpost : post (.error (.code Errno.again))) :
    (Program.retry request).IsPrompt post := by
  rw [Program.retry, IsPrompt]
  refine ⟨by simp [aloof], ?_⟩
  rintro _ rfl
  exact hpost

end IsPrompt

end Program

/-! ## Bringing a program to its end -/

section Alone

variable {thread : Thread} {channel channel' : Channel} {action : Action}

theorem Action.refuses_of_answered {result : action.Result}
    (answered : channel.answer thread action = .answered channel' result) :
    action.Refuses result := by
  cases action with
  | call request => cases answered
  | _ => trivial

/-- What a thread that is alone may do is done at once, unless the surroundings
have to answer it. -/
theorem solo_act {failures : List (Call × OsError)}
    {k : action.Result → Solo → Prop}
    (h : solo.act thread ⟨channel, failures⟩ action k) :
    (∃ channel' result, channel.answer thread action =
      .answered channel' result ∧ k result ⟨channel', failures⟩) ∨
    channel.answer thread action = .outside ∧
      ∀ result, k result (Solo.after ⟨channel, failures⟩ action result) := by
  cases hanswer : channel.answer thread action with
  | answered channel' result =>
      simp only [solo, hanswer] at h
      exact .inl ⟨channel', result, rfl, h⟩
  | waits => simp [solo, hanswer] at h
  | outside =>
      simp only [solo, hanswer] at h
      exact .inr ⟨rfl, h⟩

end Alone

namespace Program

variable {α β : Type} {thread : Thread} {channel : Channel}

theorem RunsAlone.of_prompt {program : Program α} {ending : α → Prop}
    {post : α → Solo → Prop} {failures : List (Call × OsError)}
    (meets : solo.Meets thread program post ⟨channel, failures⟩)
    (prompt : program.IsPrompt ending) :
    ∃ exchanges channel' value failures',
      program.RunsAlone thread channel exchanges channel' value ∧
      (∀ exchange ∈ exchanges, exchange.call.isBlocking = false) ∧
      ending value ∧ post value ⟨channel', failures'⟩ := by
  induction program generalizing channel failures with
  | done value =>
      exact ⟨[], channel, value, failures, .done value, by simp, prompt, meets⟩
  | act action next ih =>
      obtain ⟨aloof, hnext⟩ := prompt
      obtain ⟨channel₁, result, answered, hmeets⟩ | ⟨outside, hmeets⟩ :=
        solo_act meets
      · obtain ⟨exchanges, channel', value, failures', h, hrest⟩ :=
          ih result hmeets (hnext result (Action.refuses_of_answered answered))
        exact ⟨exchanges, channel', value, failures', .act answered h, hrest⟩
      cases action with
      | pause =>
          obtain ⟨exchanges, channel', value, failures', h, hrest⟩ :=
            ih () (hmeets ()) (hnext () trivial)
          exact ⟨exchanges, channel', value, failures', .pause h, hrest⟩
      | call request =>
          obtain ⟨exchanges, channel', value, failures', h, hcalls, hrest⟩ :=
            ih _ (hmeets _) (hnext (.error (.code Errno.again)) rfl)
          exact ⟨_, channel', value, failures', .call _ h,
            List.forall_mem_cons.mpr ⟨by simpa using aloof, hcalls⟩, hrest⟩
      | acquire lock =>
          simp only [Channel.answer] at outside
          split at outside <;> cases outside
      | _ => cases outside
  | loop body next ihBody ihNext =>
      rw [IsPrompt] at prompt
      obtain ⟨-, invariant, hs, hbody⟩ := meets
      obtain ⟨first, channel₁, result, failures₁, h, hfirst, hresult, hmeets⟩ :=
        ihBody (hbody _ hs) prompt
      cases result with
      | none => exact hresult.elim
      | some value =>
          obtain ⟨rest, channel', value', failures', h', hrest, hending,
            hpost⟩ := ihNext value hmeets hresult
          exact ⟨first ++ rest, channel', value', failures', .loop (h.bind h'),
            List.forall_mem_append.mpr ⟨hfirst, hrest⟩, hending, hpost⟩

/-- A thread that has the channel to itself can bring the program to an end like
that.  In the calls in which it may be blocked, this is asked and answered. -/
def Ends (thread : Thread) (program : Program α) (channel : Channel)
    (asked : List Exchange) (post : α → Channel → Prop) : Prop :=
  ∃ exchanges channel' value,
    program.RunsAlone thread channel exchanges channel' value ∧
    (exchanges.filter fun exchange => exchange.call.isBlocking) = asked ∧
    post value channel'

section Ends

variable {asked more : List Exchange}

theorem ends_of_prompt {program : Program α} (failures : List (Call × OsError))
    {post : α → Channel → Prop}
    (meets : solo.Meets thread program (fun value s => post value s.channel)
      ⟨channel, failures⟩)
    (prompt : program.IsPrompt fun _ => True) :
    program.Ends thread channel [] post := by
  obtain ⟨exchanges, channel', value, _, h, hcalls, -, hpost⟩ :=
    RunsAlone.of_prompt meets prompt
  refine ⟨exchanges, channel', value, h, ?_, hpost⟩
  simpa using hcalls

theorem Ends.bind {program : Program α} {f : α → Program β}
    {post : β → Channel → Prop}
    (h : program.Ends thread channel asked fun value channel' =>
      (f value).Ends thread channel' more post) :
    (program >>= f).Ends thread channel (asked ++ more) post := by
  obtain ⟨first, channel₁, value₁, h, rfl, rest, channel', value, h', rfl,
    hpost⟩ := h
  exact ⟨first ++ rest, channel', value, h.bind h', List.filter_append ..,
    hpost⟩

theorem ends_holding {lock : Lock} {body : Program α}
    {post : α → Channel → Prop} (free : channel.locks.holder lock = none)
    (h : body.Ends thread (channel.hold lock (some thread)) asked
      fun value channel' => post value (channel'.hold lock none)) :
    (Program.holding lock body).Ends thread channel asked post := by
  obtain ⟨exchanges, channel', value, h, rfl, hpost⟩ := h
  have taken : channel.answer thread (.acquire lock) =
      .answered (channel.hold lock (some thread)) () := by
    simp [Channel.answer, free, Channel.hold]
  let leaving : α → Program α := fun value =>
    (Program.perform (.release lock)).bind fun _ => .done value
  have given : (leaving value).RunsAlone thread channel' []
      (channel'.hold lock none) value := .act rfl (.done value)
  have rest := h.bind (f := leaving) given
  rw [List.append_nil] at rest
  exact ⟨exchanges, _, value, .act taken rest, rfl, hpost⟩

theorem Ends.mono {program : Program α} {post post' : α → Channel → Prop}
    (h : program.Ends thread channel asked post)
    (himp : ∀ value channel', post value channel' → post' value channel') :
    program.Ends thread channel asked post' := by
  obtain ⟨exchanges, channel', value, h, hasked, hpost⟩ := h
  exact ⟨exchanges, channel', value, h, hasked, himp value channel' hpost⟩

/-- The first operation does not fail. -/
theorem ends_run_bind {operation : Operating α} {f : α → Operating β}
    {value : α} {channel₁ : Channel} {all : List Exchange}
    {post : Except ChannelError β → Channel → Prop}
    (hall : all = asked ++ more)
    (first : operation.run.Ends thread channel asked fun result channel' =>
      result = .ok value ∧ channel' = channel₁)
    (rest : (f value).run.Ends thread channel₁ more post) :
    (operation >>= f).run.Ends thread channel all post := by
  subst hall
  refine Ends.bind (first.mono ?_)
  rintro _ _ ⟨rfl, rfl⟩
  exact rest

theorem ends_lift {program : Program α} {exchanges : List Exchange}
    {channel' : Channel} {value : α}
    (h : program.RunsAlone thread channel exchanges channel' value) :
    (ExceptT.lift program : Operating α).run.Ends thread channel
      (exchanges.filter fun exchange => exchange.call.isBlocking)
      fun result channel₁ => result = .ok value ∧ channel₁ = channel' := by
  refine ⟨exchanges, channel', .ok value, ?_, rfl, rfl, rfl⟩
  rw [← List.append_nil exchanges]
  exact h.bind (.done _)

theorem ends_reply {operation : Operating α} {make : α → Channel.Reply}
    {post : Channel.Reply → Channel → Prop}
    (h : operation.run.Ends thread channel asked fun result channel' =>
      match result with
      | .ok value => post (make value) channel'
      | .error error => post (.failed error) channel') :
    (Channel.reply make operation).Ends thread channel asked post := by
  rw [← List.append_nil asked]
  refine Ends.bind (h.mono fun result channel' hresult => ?_)
  cases result with
  | ok value => exact ⟨[], channel', _, .done _, rfl, hresult⟩
  | error error => exact ⟨[], channel', _, .done _, rfl, hresult⟩

end Ends

end Program

/-- An operation that can come to an end comes to it in a run. -/
theorem Program.Ends.episode {fd : Fd} {thread : Thread} {c : Config}
    {operation : Channel.Operation} {asked : List Exchange}
    {post : Channel.Reply → Channel → Prop}
    (h : (operation.program fd).Ends thread c.channel asked post)
    (idle : c.activity thread = .idle) (isLive : c.isDropped = false)
    (hasGuard : operation.takesGuard = true → 0 < c.guards) :
    ∃ during reply c', Episode fd thread operation c during reply c' ∧
      (∀ event ∈ during, event.thread = thread) ∧
      ((during.exchanges thread).filter
        fun exchange => exchange.call.isBlocking) = asked ∧
      post reply c'.channel := by
  obtain ⟨exchanges, channel', reply, h, rfl, hpost⟩ := h
  obtain ⟨during, c', episode, alone, rfl, rfl⟩ :=
    h.episode idle isLive hasGuard
  exact ⟨during, reply, c', episode, alone, rfl, hpost⟩


namespace Operating

open Program

variable {α β : Type} {post : Except ChannelError α → Prop}

theorem isPrompt_bind {operation : Operating β} {f : β → Operating α}
    (h : operation.run.IsPrompt fun
      | .ok value => (f value).run.IsPrompt post
      | .error error => post (.error error)) :
    (operation >>= f).run.IsPrompt post := by
  refine IsPrompt.bind (f := ExceptT.bindCont f)
    (h.mono fun result hresult => ?_)
  cases result <;> exact hresult

theorem isPrompt_lift {program : Program α}
    (h : program.IsPrompt fun value => post (.ok value)) :
    (ExceptT.lift program : Operating α).run.IsPrompt post :=
  .bind h

theorem isPrompt_perform {action : Action} (aloof : action.isAloof = true)
    {post : Except ChannelError action.Result → Prop}
    (hpost : ∀ result, action.Refuses result → post (.ok result)) :
    (perform action).run.IsPrompt post :=
  isPrompt_lift (.perform aloof hpost)

theorem isPrompt_quietly {operation : Operating Unit}
    {post : Except ChannelError Unit → Prop}
    (h : operation.run.IsPrompt fun _ => post (.ok ())) :
    (quietly operation).run.IsPrompt post :=
  isPrompt_lift (.bind h)

end Operating

namespace Channel

open Operating Program

variable {fd : Fd} {α : Type}

/-! ## Prompt parts of the operations -/

section Prompt

variable {post : Except ChannelError Unit → Prop}
  (hpost : ∀ result, post result)

include hpost

theorem ensureStillOpen_isPrompt : ensureStillOpen.run.IsPrompt post := by
  refine isPrompt_bind (isPrompt_perform rfl fun isOpen _ => ?_)
  cases isOpen <;> exact hpost _

theorem release_isPrompt : release.run.IsPrompt post := by
  refine isPrompt_bind (isPrompt_perform rfl fun fields _ => ?_)
  dsimp only
  split
  · exact hpost _
  · split
    · exact isPrompt_perform rfl fun _ _ => hpost _
    · refine isPrompt_bind (isPrompt_perform rfl fun _ _ => ?_)
      dsimp only
      split
      · exact hpost _
      · exact isPrompt_bind (isPrompt_lift (.retry rfl (hpost _)))

theorem shutDown_isPrompt : shutDown.run.IsPrompt post := by
  refine isPrompt_bind (isPrompt_perform rfl fun fields _ => ?_)
  refine isPrompt_bind (isPrompt_perform rfl fun _ _ => ?_)
  have released := release_isPrompt hpost
  dsimp only
  split
  · split
    · exact released
    · exact isPrompt_bind (isPrompt_lift (.perform rfl fun _ _ => released))
  · exact released

end Prompt

theorem signalUsers_isPrompt {post : Unit → Prop} (hpost : post ()) :
    signalUsers.IsPrompt post := by
  rw [signalUsers, IsPrompt]
  refine .bind (.holding (.bind (.perform rfl fun fields _ => ?_)))
  split
  · exact hpost
  · rename_i users
    obtain ⟨thread, rest, hthreads⟩ : ∃ thread rest,
        fields.threads = thread :: rest :=
      List.exists_cons_of_ne_nil (by simpa using users)
    rw [hthreads, signalAll]
    refine .bind (.perform rfl fun answer refused => ?_)
    cases refused
    exact hpost

theorem close_isPrompt {post : Except ChannelError Unit → Prop}
    (hpost : ∀ result, post result) : close.run.IsPrompt post := by
  refine .bind (.perform rfl fun isOpen _ => ?_)
  split
  · exact .bind (.holding (shutDown_isPrompt fun result =>
      .bind (signalUsers_isPrompt (hpost result))))
  · exact hpost _

theorem closeAfter_isPrompt {error : ChannelError}
    {post : Except ChannelError α → Prop} (hpost : post (.error error)) :
    (closeAfter error : Operating α).run.IsPrompt post :=
  isPrompt_bind (isPrompt_quietly (close_isPrompt fun _ => hpost))

section Users

variable {post : Except ChannelError Unit → Prop}
  (hpost : ∀ result, post result)

include hpost

theorem ensureOpen_isPrompt : ensureOpen.run.IsPrompt post := by
  refine isPrompt_bind (isPrompt_perform rfl fun isOpen _ => ?_)
  cases isOpen <;> exact hpost _

theorem enter_isPrompt {direction : Direction} :
    (enter direction).run.IsPrompt post :=
  isPrompt_bind (isPrompt_perform rfl fun _ _ =>
    isPrompt_bind (isPrompt_perform rfl fun _ _ =>
      isPrompt_perform rfl fun _ _ => hpost _))

theorem leave_isPrompt {direction : Direction} :
    (leave direction false).run.IsPrompt post := by
  refine isPrompt_bind (.holding (isPrompt_bind
    (isPrompt_perform rfl fun fields _ => isPrompt_bind
      (isPrompt_perform rfl fun _ _ => ?_))))
  have still := ensureStillOpen_isPrompt hpost
  dsimp only
  split
  · exact isPrompt_quietly (release_isPrompt fun _ => still)
  · exact still

theorem markConnected_isPrompt {remote : Option Address} :
    (markConnected fd remote).run.IsPrompt post := by
  refine .holding (isPrompt_bind (isPrompt_perform rfl fun fields _ =>
    isPrompt_bind (ensureStillOpen_isPrompt fun result => ?_)))
  cases result with
  | error error => exact hpost _
  | ok =>
      refine isPrompt_bind (isPrompt_perform rfl fun _ _ => ?_)
      dsimp only
      split
      · refine isPrompt_bind (isPrompt_lift (.perform rfl fun answer _ => ?_))
        cases answer with
        | ok record => exact isPrompt_perform rfl fun _ _ => hpost _
        | error error => exact hpost _
      · exact hpost _

theorem beginConnect_isPrompt : beginConnect.run.IsPrompt post := by
  refine .holding (isPrompt_bind (ensureOpen_isPrompt fun result => ?_))
  cases result with
  | error error => exact hpost _
  | ok =>
      refine isPrompt_bind (isPrompt_perform rfl fun fields _ => ?_)
      dsimp only
      split
      · exact hpost _
      · split
        · exact hpost _
        · exact enter_isPrompt hpost

end Users

theorem beginFinish_isPrompt {post : Except ChannelError (Option Record) → Prop}
    (hpost : ∀ result, post result) : beginFinish.run.IsPrompt post := by
  refine .holding (isPrompt_bind (ensureOpen_isPrompt fun result => ?_))
  cases result with
  | error error => exact hpost _
  | ok =>
      refine isPrompt_bind (isPrompt_perform rfl fun fields _ => ?_)
      dsimp only
      split
      · exact hpost _
      · split
        · split
          · exact hpost _
          · rename_i address _
            rw [encode]
            split
            · refine isPrompt_bind (isPrompt_bind
                (enter_isPrompt fun result => ?_))
              cases result <;> exact hpost _
            · exact hpost _
        · exact hpost _

end Channel

end LocalSocket
