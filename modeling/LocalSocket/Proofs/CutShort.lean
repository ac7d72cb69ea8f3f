import LocalSocket.Channel.Operation
import LocalSocket.Proofs.Journal

/-!
# Calls that are cut short

Some calls are made again when a signal has interrupted them, others are made
once.  A thread that hears whether one of those that it makes once has been cut
short need not be able to tell anything else about its calls.

A program is deaf if that makes no difference to it, and an operation is frank
if it fails with the interruption just when it has heard of one.
-/

namespace LocalSocket

/-- A signal has interrupted the call. -/
def OsError.isCutShort (error : OsError) : Bool :=
  error == .code Errno.interrupted

def ChannelError.isCutShort : ChannelError → Bool
  | .socket error | .close _ error => error.isCutShort
  | _ => false

def cutShort {α : Type} : Except OsError α → Bool
  | .ok _ => false
  | .error error => error.isCutShort

theorem cutShort_iff {request : Call} {answer : request.Answer} :
    cutShort answer = true ↔ answer = .error (.code Errno.interrupted) := by
  cases answer <;> simp [cutShort, OsError.isCutShort]

/-- What has been cut short is of the kind of interruptions. -/
theorem OsError.isCutShort_eq_false {error : OsError}
    (h : error.isInterrupted = false) : error.isCutShort = false := by
  by_contra hcut
  obtain rfl : error = .code Errno.interrupted := by
    simpa [isCutShort] using hcut
  exact absurd h (by decide)

theorem ChannelError.isCutShort_eq_false {error : ChannelError}
    (h : error.kind ≠ .interrupted) : error.isCutShort = false := by
  have hcause : ∀ cause : OsError, cause.kind ≠ .interrupted →
      cause.isCutShort = false := fun cause hcause =>
    OsError.isCutShort_eq_false (by simpa [OsError.isInterrupted] using hcause)
  cases error with
  | socket cause | close fd cause => exact hcause cause h
  | _ => rfl

/-! ## Hearing of interruptions -/

section Hearing

variable (once : Call → Bool)

/-- A call that is made once has been cut short. -/
def Action.cutsShort : (action : Action) → action.Result → Bool
  | .call request, answer => once request && cutShort answer
  | _, _ => false

def hearing : Protocol Bool where
  act _ heard action k :=
    ∀ result, k result (heard || action.cutsShort once result)
  mono := fun himp h result => himp _ _ (h result)
  rest := false
  opens := fun _ => false
  closes := fun _ _ _ => True

variable {once} in
theorem hearing_act {thread : Thread} {heard : Bool} {action : Action}
    {k : action.Result → Bool → Prop}
    (silent : ∀ result, action.cutsShort once result = false)
    (hk : ∀ result, k result heard) :
    (hearing once).act thread heard action k := by
  intro result
  rw [silent result, Bool.or_false]
  exact hk result

end Hearing

namespace Hearing

/-! ## Deaf programs -/

section Deaf

open Protocol

variable {once : Call → Bool} {α β : Type} {p : α → Prop} {q : β → Prop}

/-- Whatever the thread has heard, the program adds nothing to it, and it gives
a value as `p` says. -/
def Deaf (once : Call → Bool) (p : α → Prop) (program : Program α) : Prop :=
  ∀ thread heard, (hearing once).Meets thread program
    (fun value heard' => heard' = heard ∧ p value) heard

theorem Deaf.meets {program : Program α} (h : Deaf once p program)
    {thread : Thread} {post : α → Bool → Prop} {heard : Bool}
    (hpost : ∀ value, p value → post value heard) :
    (hearing once).Meets thread program post heard := by
  refine (h thread heard).mono fun value heard' hvalue => ?_
  obtain ⟨rfl, hvalue⟩ := hvalue
  exact hpost value hvalue

theorem deaf_pure {value : α} (h : p value) :
    Deaf once p (pure value : Program α) :=
  fun _ _ => ⟨rfl, h⟩

theorem deaf_perform {action : Action}
    (h : ∀ result, action.cutsShort once result = false) :
    Deaf once (fun _ => True) (Program.perform action) :=
  fun _ _ => hearing_act h fun _ => ⟨rfl, trivial⟩

/-- A call that is not made just once. -/
theorem deaf_call {request : Call} (h : once request = false) :
    Deaf once (fun _ => True) (Program.call request) :=
  deaf_perform fun _ => by rw [Action.cutsShort, h, Bool.false_and]

theorem deaf_bind {program : Program α} {f : α → Program β}
    (h : Deaf once p program) (hf : ∀ value, p value → Deaf once q (f value)) :
    Deaf once q (program >>= f) := by
  intro thread heard
  rw [meets_bind_eq]
  exact h.meets fun value hvalue => hf value hvalue thread heard

theorem deaf_loop {body : Program (Option β)} {next : β → Program α}
    (hguard : body.next? ≠ none)
    (hbody : Deaf once (fun result => ∀ value, result = some value →
      Deaf once p (next value)) body) :
    Deaf once p (.loop body next) := by
  intro thread heard
  refine meets_loop (· = heard) hguard rfl fun heard' hheard => ?_
  subst hheard
  refine hbody.meets fun result hresult => ?_
  cases result with
  | none => rfl
  | some value => exact hresult value rfl thread heard'

theorem deaf_holding {lock : Lock} {body : Program α} (h : Deaf once p body) :
    Deaf once p (Program.holding lock body) :=
  deaf_bind (deaf_perform fun _ => rfl) fun _ _ => deaf_bind h fun _ hvalue =>
    deaf_bind (deaf_perform fun _ => rfl) fun _ _ => deaf_pure hvalue

/-- What a call that is repeated ends with is no interruption. -/
theorem deaf_retry {request : Call} (h : once request = false) :
    Deaf once (fun answer => isInterruption answer = false)
      (Program.retry request) := by
  refine deaf_loop nofun (deaf_bind (deaf_call h) fun answer _ => ?_)
  cases answer with
  | ok value =>
      refine deaf_pure fun result hresult => ?_
      cases hresult
      exact deaf_pure rfl
  | error error =>
      refine deaf_pure fun result hresult => ?_
      cases interrupted : error.isInterrupted with
      | true => simp [interrupted] at hresult
      | false =>
          obtain rfl : Except.error error = result := by
            simpa [interrupted] using hresult
          exact deaf_pure interrupted

end Deaf

/-! ## Quiet operations -/

section Quiet

open Protocol

variable {once : Call → Bool} {α β : Type} {p : β → Prop}

/-- The operation is deaf, and does not fail as if it had been interrupted. -/
def Quiet (once : Call → Bool) (operation : Operating α) : Prop :=
  Deaf once (fun result => ∀ error, result = .error error →
    error.kind ≠ .interrupted) operation.run

theorem quiet_pure (value : α) : Quiet once (pure value) :=
  deaf_pure fun _ => nofun

theorem quiet_throw {error : ChannelError} (h : error.kind ≠ .interrupted) :
    Quiet once (throw error : Operating α) := by
  refine deaf_pure ?_
  rintro _ ⟨⟩
  exact h

theorem quiet_bind {operation : Operating α} {f : α → Operating β}
    (h : Quiet once operation) (hf : ∀ value, Quiet once (f value)) :
    Quiet once (operation >>= f) := by
  intro thread heard
  rw [meets_run_bind]
  refine h.meets fun result calm => ?_
  cases result with
  | ok value => exact hf value thread heard
  | error error =>
      refine ⟨rfl, ?_⟩
      rintro _ ⟨⟩
      exact calm error rfl

theorem quiet_ite {condition : Prop} [Decidable condition]
    {operation other : Operating α} (h : Quiet once operation)
    (hother : Quiet once other) :
    Quiet once (if condition then operation else other) := by
  split
  · exact h
  · exact hother

theorem quiet_holding {lock : Lock} {body : Operating α} (h : Quiet once body) :
    Quiet once (Operating.holding lock body) :=
  deaf_holding h

theorem quiet_look {action : Action}
    (h : ∀ result, action.cutsShort once result = false) :
    Quiet once (Operating.perform action) := by
  intro thread heard
  rw [Operating.perform, meets_run_lift]
  refine (deaf_perform h).meets fun _ _ => ⟨rfl, fun _ failed => ?_⟩
  cases failed

theorem quiet_lift_bind {program : Program β} {f : β → Operating α}
    (h : Deaf once p program) (hf : ∀ value, p value → Quiet once (f value)) :
    Quiet once (ExceptT.lift program >>= f) := by
  intro thread heard
  rw [meets_run_bind, meets_run_lift]
  exact h.meets fun value hvalue => hf value hvalue thread heard

theorem quiet_quietly {operation : Operating Unit} (h : Quiet once operation) :
    Quiet once (Operating.quietly operation) := by
  intro thread heard
  rw [meets_run_quietly]
  exact h.meets fun _ _ => ⟨rfl, fun _ => nofun⟩

end Quiet

/-! ## Frank operations -/

section Frank

open Protocol

variable {once : Call → Bool} {α β : Type} {p : β → Prop}

def tells : Except ChannelError α → Bool
  | .ok _ => false
  | .error error => error.isCutShort

/-- The operation fails with an interruption just if it has heard of one. -/
def Frank (once : Call → Bool) (operation : Operating α) : Prop :=
  ∀ thread, (hearing once).Meets thread operation.run
    (fun result heard => heard = tells result) false

theorem Quiet.frank {operation : Operating α} (h : Quiet once operation) :
    Frank once operation := by
  refine fun _ => h.meets fun result calm => ?_
  cases result with
  | ok value => rfl
  | error error =>
      exact (ChannelError.isCutShort_eq_false (calm error rfl)).symm

/-- What comes after a quiet operation goes on from what has been heard. -/
theorem quiet_then {operation : Operating β} {f : β → Operating α}
    {thread : Thread} {post : Except ChannelError α → Bool → Prop}
    {heard : Bool} (h : Quiet once operation)
    (hfail : ∀ {error : ChannelError}, error.kind ≠ .interrupted →
      post (.error error) heard)
    (hf : ∀ value, (hearing once).Meets thread (f value).run post heard) :
    (hearing once).Meets thread (operation >>= f).run post heard := by
  rw [meets_run_bind]
  refine h.meets fun result calm => ?_
  cases result with
  | ok value => exact hf value
  | error error => exact hfail (calm error rfl)

theorem frank_bind {operation : Operating α} {f : α → Operating β}
    (h : Frank once operation) (hf : ∀ value, Frank once (f value)) :
    Frank once (operation >>= f) := by
  intro thread
  rw [meets_run_bind]
  refine (h thread).mono fun result heard hheard => ?_
  subst hheard
  cases result with
  | ok value => exact hf value thread
  | error error => rfl

theorem frank_ite {condition : Prop} [Decidable condition]
    {operation other : Operating α} (h : Frank once operation)
    (hother : Frank once other) :
    Frank once (if condition then operation else other) := by
  split
  · exact h
  · exact hother

theorem frank_lift_bind {program : Program β} {f : β → Operating α}
    (h : Deaf once p program) (hf : ∀ value, p value → Frank once (f value)) :
    Frank once (ExceptT.lift program >>= f) := by
  intro thread
  rw [meets_run_bind, meets_run_lift]
  exact h.meets fun value hvalue => hf value hvalue thread

theorem holding_meets {lock : Lock} {body : Operating α} {thread : Thread}
    {post : Except ChannelError α → Bool → Prop} {heard : Bool}
    (h : (hearing once).Meets thread body.run post heard) :
    (hearing once).Meets thread (Operating.holding lock body).run post
      heard := by
  rw [meets_run_holding]
  refine hearing_act (fun _ => rfl) fun _ => h.mono fun _ _ hresult => ?_
  exact hearing_act (fun _ => rfl) fun _ => hresult

theorem frank_holding {lock : Lock} {body : Operating α} (h : Frank once body) :
    Frank once (Operating.holding lock body) :=
  fun thread => holding_meets (h thread)

/-- A call that is made just once. -/
theorem call_meets {request : Call} (h : once request = true) {thread : Thread}
    {f : request.Answer → Program α} {post : α → Bool → Prop}
    (hf : ∀ answer, (hearing once).Meets thread (f answer) post
      (cutShort answer)) :
    (hearing once).Meets thread (Program.call request >>= f) post false := by
  rw [meets_bind_eq]
  intro answer
  show (hearing once).Meets thread (f answer) post
    (false || (once request && cutShort answer))
  rw [h, Bool.true_and, Bool.false_or]
  exact hf answer

theorem call_then {request : Call} (h : once request = true) {thread : Thread}
    {f : request.Answer → Operating α}
    {post : Except ChannelError α → Bool → Prop}
    (hf : ∀ answer, (hearing once).Meets thread (f answer).run post
      (cutShort answer)) :
    (hearing once).Meets thread
      (ExceptT.lift (Program.call request) >>= f).run post false := by
  rw [meets_run_bind, meets_run_lift]
  exact call_meets h hf

theorem frank_onSocket {request : Call} (h : once request = true) :
    Frank once (Operating.onSocket (Program.call request)) := by
  refine fun _ => call_meets h fun answer => ?_
  cases answer <;> rfl

end Frank

end Hearing

end LocalSocket
