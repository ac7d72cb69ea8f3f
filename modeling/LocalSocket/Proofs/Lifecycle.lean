import LocalSocket.Channel.Operation
import LocalSocket.Proofs.Discipline
import LocalSocket.Proofs.Maintaining
import Mathlib.Tactic.SplitIfs

/-!
# What threads know of the lifecycle

The state of a channel is written in several places, twice of them after a call
that was made without the state lock, while anything may have happened to the
channel.  What justifies these writes is what the thread has learned: from the
answer to its last attempt to connect, from finding the channel open since, and
from holding the read lock, without which nobody else connects the channel.
-/

namespace LocalSocket

/-- Neither connected nor about to be. -/
def Lifecycle.isUnattached : Lifecycle → Bool
  | connecting | connected => false
  | _ => true

namespace Lifecycle

variable {state : Lifecycle}

theorem rank_le_connected (live : state.isLive = true) :
    state.rank ≤ connected.rank := by
  cases state <;> simp_all [isLive, rank]

theorem rank_le_connecting (live : state.isLive = true)
    (unattached : state.isUnattached = true) :
    state.rank ≤ connecting.rank := by
  cases state <;> simp_all [isLive, isUnattached, rank]

end Lifecycle

/-- The state of the channel that an answer to the last connect call of an
operation leads to. -/
def Channel.Operation.outcome? :
    Operation → Except OsError Unit → Option Lifecycle
  | .connect _, .ok () => some .connected
  | .connect _, .error (.code errno) =>
      if errno ∈ Socket.pendingCodes then some .connecting else none
  | .finishConnect, .ok () => some .connected
  | .finishConnect, .error error =>
      if error.errno? = some Errno.isConnected then some .connected else none
  | _, _ => none

structure Knowledge where
  operation : Option Channel.Operation := none
  holdsRead : Bool := false
  /-- The fields, while nobody else can change them. -/
  fields : Option Fields := none
  /-- The channel was seen to be unattached, and nobody else can change that. -/
  apart : Bool := false
  /-- How the last connect call of the operation was answered. -/
  attempt : Option (Except OsError Unit) := none
  /-- The channel has been found open since that call. -/
  found : Bool := false

namespace Knowledge

def see (s : Knowledge) (fields : Fields) : Knowledge :=
  { s with
    fields := some fields
    apart := s.apart || (s.holdsRead && fields.state.isUnattached) }

def write (s : Knowledge) (fields : Fields) : Knowledge :=
  { s with
    fields := some fields, apart := s.apart && fields.state.isUnattached }

def tried (s : Knowledge) (answer : Except OsError Unit) : Knowledge :=
  { s with attempt := some answer, found := false }

def learn (s : Knowledge) : (call : Call) → call.Answer → Knowledge
  | .connect .., answer => s.tried answer
  | _, _ => s

/-- What a thread may make of the state. -/
inductive Revision (s : Knowledge) (fields fields' : Fields) : Prop where
  | unmoved (same : fields'.state = fields.state)
  | ended (alive : fields.state ≠ .killed)
      (dead : fields'.state = .killPending ∨ fields'.state = .killed)
  | raised {operation : Channel.Operation} {answer : Except OsError Unit}
      (current : s.operation = some operation)
      (attempt : s.attempt = some answer)
      (outcome : operation.outcome? answer = some fields'.state)
      (found : s.found = true) (alone : s.holdsRead = true)
      (ascends : fields.state.rank ≤ fields'.state.rank)

def Takes (fd : Fd) (thread : Thread) (s : Knowledge) :
    (action : Action) → (action.Result → Knowledge → Prop) → Prop
  | .acquire .read, k => k () { s with holdsRead := true }
  | .acquire _, k => k () s
  | .release .read, k => k () { s with holdsRead := false, apart := false }
  | .release .write, k => k () s
  | .release .state, k => k () { s with fields := none }
  | .fields, k =>
      ∀ fields, (s.apart = true → fields.state.isUnattached = true) →
        k fields (s.see fields)
  | .put fields', k =>
      ∃ fields, s.fields = some fields ∧ s.Revision fields fields' ∧
        k () (s.write fields')
  | .isOpen, k =>
      ∀ isOpen, (isOpen = true → ∀ fields, s.fields = some fields →
        fields.state.isLive = true) →
        k isOpen { s with found := s.found || isOpen }
  | .closeOnce, k => ∀ first, k first s
  | .isBlocking, k => ∀ isBlocking, k isBlocking s
  | .setBlocking _, k => k () s
  | .thread, k => k thread s
  | .own .., _ => False
  | .pause, k => k () s
  | .call call, k =>
      (∀ other record, call = .connect other record → other = fd) ∧
        ∀ answer, k answer (s.learn call answer)

end Knowledge

/-- Threads write the state as their knowledge justifies. -/
def knowing (fd : Fd) : Protocol Knowledge where
  act thread s action k := s.Takes fd thread action k
  mono := by
    intro thread s action k k' himp h
    unfold Knowledge.Takes at h ⊢
    split <;> grind
  rest := {}
  opens operation := { operation := some operation }
  closes _ _ _ := True

@[simp] theorem operation_knowing_rest {fd : Fd} :
    (knowing fd).rest.operation = none := rfl

@[simp] theorem operation_knowing_opens {fd : Fd}
    (operation : Channel.Operation) :
    ((knowing fd).opens operation).operation = some operation := rfl

/-- A thread need not know anything to take the action. -/
def Action.isNeutral : Action → Bool
  | .put _ | .own .. | .call (.connect ..) => false
  | _ => true

namespace Knowledge

open Protocol Channel

/-- What a thread knows before a part of an operation, it knows afterwards. -/
structure Retains (s s' : Knowledge) : Prop where
  operation : s'.operation = s.operation
  holdsRead : s'.holdsRead = s.holdsRead
  attempt : s'.attempt = s.attempt
  apart : s.apart = true → s'.apart = true

/-- The program can do without knowledge, and none is left of it. -/
def Roams (fd : Fd) (thread : Thread) {α : Type} (program : Program α) : Prop :=
  (knowing fd).Maintains thread (fun _ => True) program

section Retains

variable {s s' : Knowledge} {fields : Fields}

theorem Retains.refl (s : Knowledge) : s.Retains s := ⟨rfl, rfl, rfl, id⟩

theorem Retains.trans {s'' : Knowledge} (h : s.Retains s')
    (h' : s'.Retains s'') : s.Retains s'' :=
  ⟨h'.operation.trans h.operation, h'.holdsRead.trans h.holdsRead,
    h'.attempt.trans h.attempt, fun apart => h'.apart (h.apart apart)⟩

theorem Retains.see (h : s.Retains s') : s.Retains (s'.see fields) :=
  ⟨h.operation, h.holdsRead, h.attempt, fun apart => by
    simp [Knowledge.see, h.apart apart]⟩

theorem Retains.write (h : s.Retains s')
    (unattached : s.apart = true → fields.state.isUnattached = true) :
    s.Retains (s'.write fields) :=
  ⟨h.operation, h.holdsRead, h.attempt, fun apart => by
    simp [Knowledge.write, h.apart apart, unattached apart]⟩

theorem Retains.unlock (h : s.Retains s') :
    s.Retains { s' with fields := none } :=
  ⟨h.operation, h.holdsRead, h.attempt, h.apart⟩

theorem Retains.find {found : Bool} (h : s.Retains s') :
    s.Retains { s' with found := found } :=
  ⟨h.operation, h.holdsRead, h.attempt, h.apart⟩

end Retains

section Rules

variable {fd : Fd} {thread : Thread} {s : Knowledge} {fields fields' : Fields}
  {α β : Type}

theorem takes_of_isNeutral {action : Action}
    {k : action.Result → Knowledge → Prop} (h : action.isNeutral = true)
    (hk : ∀ result s', k result s') : s.Takes fd thread action k := by
  cases action with
  | put | own => cases h
  | acquire lock => cases lock <;> exact hk _ _
  | release lock => cases lock <;> exact hk _ _
  | fields | isOpen => exact fun _ _ => hk _ _
  | closeOnce | isBlocking => exact fun _ => hk _ _
  | call call =>
      refine ⟨?_, fun _ => hk _ _⟩
      rintro other record rfl
      cases h
  | _ => exact hk _ _

theorem roams_pure (value : α) : Roams fd thread (pure value) :=
  maintains_pure value

theorem roams_perform {action : Action} (h : action.isNeutral = true) :
    Roams fd thread (Program.perform action) :=
  fun _ _ => takes_of_isNeutral h fun _ _ => trivial

theorem roams_holding {lock : Lock} {body : Program α}
    (h : Roams fd thread body) :
    Roams fd thread (Program.holding lock body) :=
  maintains_holding (fun _ _ => takes_of_isNeutral rfl fun _ _ => trivial)
    (fun _ _ => takes_of_isNeutral rfl fun _ _ => trivial) h

theorem roams_retry {call : Call} (h : (Action.call call).isNeutral = true) :
    Roams fd thread (Program.retry call) :=
  maintains_retry (roams_perform h)

theorem roams_look {action : Action} (h : action.isNeutral = true) :
    Roams fd thread (Operating.perform action).run :=
  maintains_lift (roams_perform h)

theorem isOpen_meets {post : Bool → Knowledge → Prop}
    (hpost : ∀ isOpen, post isOpen { s with found := s.found || isOpen }) :
    (knowing fd).Meets thread (Program.perform .isOpen) post s :=
  fun isOpen _ => hpost isOpen

theorem fields_meets {next : Fields → Operating α}
    {post : Except ChannelError α → Knowledge → Prop}
    (hnext : ∀ fields, (s.apart = true → fields.state.isUnattached = true) →
      (knowing fd).Meets thread (next fields).run post (s.see fields)) :
    (knowing fd).Meets thread (Operating.perform .fields >>= next).run
      post s := by
  rw [meets_run_bind]
  exact hnext

/-- What is done with the fields may rely on knowing them. -/
theorem roams_fields {next : Fields → Operating α}
    (h : ∀ fields s, s.fields = some fields →
      (knowing fd).Meets thread (next fields).run (fun _ _ => True) s) :
    Roams fd thread (Operating.perform .fields >>= next).run :=
  fun _ _ => fields_meets fun fields _ => h fields _ rfl

theorem put_meets {next : Unit → Operating α}
    {post : Except ChannelError α → Knowledge → Prop}
    (known : s.fields = some fields) (revision : s.Revision fields fields')
    (hnext : (knowing fd).Meets thread (next ()).run post (s.write fields')) :
    (knowing fd).Meets thread (Operating.perform (.put fields') >>= next).run
      post s := by
  rw [meets_run_bind]
  exact ⟨fields, known, revision, hnext⟩

theorem put_roams (known : s.fields = some fields)
    (revision : s.Revision fields fields') :
    (knowing fd).Meets thread (Operating.perform (.put fields')).run
      (fun _ _ => True) s :=
  ⟨fields, known, revision, trivial⟩

end Rules

/-! ## Users of the descriptor, and closing -/

section Closing

variable {fd : Fd} {thread : Thread} {s : Knowledge} {fields : Fields}
  {direction : Direction}

theorem ensureOpen_roams : Roams fd thread ensureOpen.run := by
  refine maintains_run_bind (roams_look rfl) fun isOpen => ?_
  cases isOpen <;> exact roams_pure _

theorem ensureOpen_knows : (knowing fd).Maintains thread
    (fun s => s.fields = some fields) ensureOpen.run := by
  refine maintains_run_bind (maintains_lift fun s known _ _ => known)
    fun isOpen => ?_
  cases isOpen <;> exact maintains_pure _

theorem ensureOpen_retains :
    (knowing fd).Maintains thread s.Retains ensureOpen.run := by
  refine maintains_run_bind (maintains_lift fun _ h _ _ => h.find) fun isOpen =>
    ?_
  cases isOpen <;> exact maintains_pure _

theorem ensureStillOpen_retains :
    (knowing fd).Maintains thread s.Retains ensureStillOpen.run := by
  refine maintains_run_bind (maintains_lift fun _ h _ _ => h.find) fun isOpen =>
    ?_
  cases isOpen <;> exact maintains_pure _

theorem retry_close_retains {other : Fd} :
    (knowing fd).Maintains thread s.Retains (Program.retry (.close other)) :=
  maintains_retry fun _ h => ⟨by simp, fun _ => h⟩

theorem release_retains :
    (knowing fd).Maintains thread s.Retains release.run := by
  intro s' h
  refine fields_meets fun fields _ => ?_
  rw [meets_run_ite]
  split
  · exact h.see
  · rename_i alive
    rw [meets_run_ite]
    split
    · exact ⟨fields, rfl, .ended alive (.inl rfl), h.see.write fun _ => rfl⟩
    · refine put_meets rfl (.ended alive (.inr rfl)) ?_
      have hkilled : s.Retains ((s'.see fields).write
          { fields with state := .killed, holder := none }) :=
        h.see.write fun _ => rfl
      split
      · exact hkilled
      · rw [meets_run_bind, Socket.close]
        refine (maintains_lift retry_close_retains).meets hkilled
          fun result s'' h' => ?_
        rcases result with _ | _ | _ <;> exact h'

theorem enter_retains :
    (knowing fd).Maintains thread s.Retains (enter direction).run := by
  intro s' h fields hfields
  refine ⟨fields, rfl, .unmoved (Fields.setSlot_state ..), h.see.write ?_⟩
  rw [Fields.setSlot_state]
  exact fun apart => hfields (h.apart apart)

theorem leave_retains {completed : Bool} :
    (knowing fd).Maintains thread s.Retains
      (leave direction completed).run := by
  refine maintains_run_bind (maintains_holding
    (fun _ h => h) (fun _ h => h.unlock)
    fun s' h => ?_) fun _ => ?_
  · refine fields_meets fun fields hfields => ?_
    refine put_meets rfl (.unmoved (Fields.setSlot_state ..)) ?_
    have hleft : s.Retains ((s'.see fields).write
        (fields.setSlot direction none)) := by
      refine h.see.write ?_
      rw [Fields.setSlot_state]
      exact fun apart => hfields (h.apart apart)
    rw [meets_run_ite]
    split
    · exact maintains_quietly release_retains hleft
    · exact hleft
  · cases completed with
    | true => exact maintains_pure _
    | false => exact ensureStillOpen_retains

theorem release_roams : Roams fd thread release.run :=
  fun s _ => release_retains.meets (.refl s) fun _ _ _ => trivial

theorem enter_roams : Roams fd thread (enter direction).run :=
  fun s _ => enter_retains.meets (.refl s) fun _ _ _ => trivial

theorem leave_roams {completed : Bool} :
    Roams fd thread (leave direction completed).run :=
  fun s _ => leave_retains.meets (.refl s) fun _ _ _ => trivial

theorem signalAll_roams (threads : List Thread) :
    Roams fd thread (signalAll threads) := by
  induction threads with
  | nil => exact roams_pure _
  | cons other rest ih =>
      refine maintains_bind (roams_perform rfl) fun answer => ?_
      cases answer with
      | ok => exact ih
      | error => exact roams_pure _

theorem signalUsers_roams : Roams fd thread signalUsers := by
  refine maintains_loop (by nofun) (maintains_bind (roams_holding
    (maintains_bind (roams_perform rfl) fun fields => ?_)) fun isOver => ?_)
    roams_pure
  · split
    · exact roams_pure _
    · exact signalAll_roams _
  · cases isOver with
    | true => exact roams_pure _
    | false => exact maintains_bind (roams_perform rfl) fun _ => roams_pure _

theorem shutDown_roams : Roams fd thread shutDown.run := by
  refine roams_fields fun fields s known => put_meets known (.unmoved rfl) ?_
  split
  · split
    · exact release_roams trivial
    · exact maintains_run_bind (maintains_lift (roams_perform rfl))
        (fun _ => release_roams) trivial
  · exact release_roams trivial

theorem close_roams : Roams fd thread Channel.close.run := by
  refine maintains_bind (roams_perform rfl) fun first => ?_
  cases first with
  | true =>
      exact maintains_bind (roams_holding shutDown_roams) fun _ =>
        maintains_bind signalUsers_roams fun _ => roams_pure _
  | false => exact roams_pure _

theorem closeAfter_roams {α : Type} (error : ChannelError) :
    Roams fd thread (closeAfter error : Operating α).run :=
  maintains_run_bind (maintains_quietly close_roams) fun _ => roams_pure _

theorem register_roams : Roams fd thread register.run := by
  refine roams_holding (roams_fields fun fields s known => ?_)
  rw [meets_run_bind]
  refine ensureOpen_knows.meets known fun result s' known' => ?_
  cases result with
  | error error => trivial
  | ok =>
      rw [meets_run_bind]
      intro isBlocking
      cases isBlocking with
      | true => trivial
      | false => exact put_roams known' (.unmoved rfl)

theorem deregister_roams : Roams fd thread deregister.run := by
  refine roams_holding (roams_fields fun fields s known => ?_)
  refine put_meets known (.unmoved rfl) ?_
  rw [meets_run_ite]
  split
  · exact release_roams trivial
  · trivial

end Closing

/-! ## Connecting -/

section Connecting

variable {fd : Fd} {thread : Thread} {s : Knowledge} {fields : Fields}
  {operation : Channel.Operation} {answer : Except OsError Unit} {α : Type}

/-- How the answer to a connect call is understood. -/
def understand : Except OsError Unit → Except OsError ConnectStatus
  | .ok () => .ok .connected
  | .error (.code errno) =>
      if errno ∈ Socket.pendingCodes then .ok .inProgress
      else if errno = Errno.interrupted then .ok .interrupted
      else .error (.code errno)
  | .error error => .error error

theorem socketConnect_eq (record : Record) :
    Socket.connect fd record = (Program.call (.connect fd record) >>=
      fun answer => pure (understand answer)) := by
  rw [Socket.connect]
  congr 1
  funext answer
  rcases answer with (errno | _) | _
  · simp only [understand]
    split_ifs <;> rfl
  · rfl
  · rfl

theorem outcome?_of_inProgress {address : Address}
    (h : understand answer = .ok .inProgress) :
    (Operation.connect address).outcome? answer = some .connecting := by
  rcases answer with (errno | _) | _
  · simp only [understand] at h
    split_ifs at h with hmem
    · simp [Operation.outcome?, hmem]
    · simp at h
  · simp [understand] at h
  · simp [understand] at h

theorem eq_ok_of_connected (h : understand answer = .ok .connected) :
    answer = .ok () := by
  rcases answer with (errno | _) | _
  · simp only [understand] at h
    split_ifs at h <;> simp at h
  · simp [understand] at h
  · rfl

theorem eq_error_of_error {error : OsError}
    (h : understand answer = .error error) : answer = .error error := by
  rcases answer with (errno | _) | _
  · simp only [understand] at h
    split_ifs at h
    exact congrArg _ (by simpa using h)
  · simpa [understand] using h
  · simp [understand] at h

theorem socketConnect_meets {record : Record}
    {post : Except OsError ConnectStatus → Knowledge → Prop}
    (hpost : ∀ answer, post (understand answer) (s.tried answer)) :
    (knowing fd).Meets thread (Socket.connect fd record) post s := by
  rw [socketConnect_eq, meets_bind_eq]
  exact ⟨by rintro _ _ ⟨⟩; rfl, hpost⟩

theorem Retains.weaken {s' : Knowledge} {answer : Except OsError Unit}
    (h : (s.tried answer).Retains s') :
    ({ s with attempt := some answer } : Knowledge).Retains s' :=
  ⟨h.operation, h.holdsRead, h.attempt, h.apart⟩

/-- All but the last answer is forgotten. -/
theorem Retains.tried {s' : Knowledge} {attempt : Option (Except OsError Unit)}
    (h : ({ s with attempt := attempt } : Knowledge).Retains s')
    (answer : Except OsError Unit) :
    (s.tried answer).Retains (s'.tried answer) :=
  ⟨h.operation, h.holdsRead, rfl, h.apart⟩

theorem attempt_meets {record : Record}
    {post : Except OsError ConnectStatus → Knowledge → Prop}
    (hpost : ∀ answer s', (s.tried answer).Retains s' →
      post (understand answer) s') :
    (knowing fd).Meets thread (Channel.attempt fd record) post s := by
  refine meets_loop (fun s' => ∃ attempt,
    ({ s with attempt := attempt } : Knowledge).Retains s')
    (by nofun) ⟨s.attempt, .refl s⟩ ?_
  rintro s' ⟨_, h⟩
  rw [meets_bind_eq]
  refine socketConnect_meets fun answer => ?_
  split
  · rename_i hinterrupted
    rw [meets_bind_eq]
    refine isOpen_meets fun isOpen => ?_
    rw [meets_pure]
    cases isOpen with
    | true => exact ⟨some answer, h.tried answer |>.find.weaken⟩
    | false => exact hinterrupted ▸ hpost answer _ (h.tried answer).find
  · exact hpost answer _ (h.tried answer)

theorem socketPoll_maintains {I : Knowledge → Prop} {events : Events}
    {timeout : Int} :
    (knowing fd).Maintains thread I (Socket.poll fd events timeout) := by
  have hcall : (knowing fd).Maintains thread I
      (Program.call (.poll fd events timeout)) :=
    maintains_perform fun _ hs => ⟨nofun, fun _ => hs⟩
  refine maintains_bind hcall fun answer => ?_
  cases answer <;> exact maintains_pure _

theorem awaitConnection_meets {record : Record} {blocking : Bool}
    {post : Except OsError Bool → Knowledge → Prop}
    (hpost : ∀ result answer s', (s.tried answer).Retains s' →
      (result = .ok true →
        Operation.finishConnect.outcome? answer = some .connected) →
          post result s') :
    (knowing fd).Meets thread (awaitConnection fd record blocking) post s := by
  refine meets_loop (fun s' => ∃ attempt,
    ({ s with attempt := attempt } : Knowledge).Retains s')
    (by nofun) ⟨s.attempt, .refl s⟩ ?_
  rintro s' ⟨_, h⟩
  rw [meets_bind_eq]
  refine socketConnect_meets fun answer => ?_
  have htried := h.tried answer
  cases hresult : understand answer with
  | error error =>
      obtain rfl := eq_error_of_error hresult
      rw [meets_ite]
      split
      · rename_i hconnected
        exact hpost (.ok true) _ _ htried fun _ => by
          simp [Operation.outcome?, hconnected]
      · exact hpost (.error error) _ _ htried (by simp)
  | ok status =>
      cases status with
      | connected =>
          obtain rfl := eq_ok_of_connected hresult
          exact hpost (.ok true) _ _ htried fun _ => rfl
      | interrupted =>
          rw [meets_bind_eq]
          refine isOpen_meets fun isOpen => ?_
          cases isOpen with
          | true => exact ⟨some answer, htried.find.weaken⟩
          | false => exact hpost (.ok false) answer _ htried.find (by simp)
      | inProgress =>
          rw [meets_bind_eq]
          refine isOpen_meets fun isOpen => ?_
          rw [meets_ite]
          split
          · rw [meets_bind_eq]
            refine socketPoll_maintains.meets htried.find
              fun polled s'' h' => ?_
            cases polled with
            | error error => exact hpost (.error error) answer _ h' (by simp)
            | ok status =>
                rw [meets_bind_eq]
                refine isOpen_meets fun isOpen => ?_
                cases isOpen with
                | true => exact ⟨some answer, h'.find.weaken⟩
                | false => exact hpost (.ok false) answer _ h'.find (by simp)
          · exact hpost (.ok false) answer _ htried.find (by simp)

theorem encode_meets {address : Address}
    {post : Except ChannelError Record → Knowledge → Prop}
    (hpost : ∀ result, post result s) :
    (knowing fd).Meets thread (encode address).run post s := by
  rw [encode]
  split <;> exact hpost _

/-- A thread that still finds the channel open knows what that means for the
fields. -/
theorem ensureStillOpen_meets
    {post : Except ChannelError Unit → Knowledge → Prop}
    (closed : ∀ s', post (.error .asynchronousClose) s')
    (still : (∀ fields, s.fields = some fields → fields.state.isLive = true) →
      post (.ok ()) { s with found := true }) :
    (knowing fd).Meets thread ensureStillOpen.run post s := by
  rw [ensureStillOpen, meets_run_bind]
  intro isOpen live
  cases isOpen with
  | true =>
      show post (.ok ()) { s with found := s.found || true }
      simpa using still (live rfl)
  | false => exact closed _

theorem markConnected_meets {remote : Option Address}
    (current : s.operation = some operation) (attempt : s.attempt = some answer)
    (alone : s.holdsRead = true)
    (outcome : operation.outcome? answer = some .connected) :
    (knowing fd).Meets thread (markConnected fd remote).run (fun _ _ => True)
      s := by
  rw [markConnected, meets_run_holding]
  refine fields_meets fun fields _ => ?_
  rw [meets_run_bind]
  refine ensureStillOpen_meets (fun _ => trivial) fun live => ?_
  refine put_meets rfl (.raised current attempt outcome rfl alone
    (Lifecycle.rank_le_connected (live fields rfl))) ?_
  rw [meets_run_ite]
  split
  · rw [meets_run_bind, meets_run_lift]
    refine ⟨nofun, fun record => ?_⟩
    cases record with
    | ok record => exact put_roams rfl (.unmoved rfl)
    | error error => trivial
  · trivial

/-- The channel is unattached when a connection is begun, and stays so while the
thread holds the read lock. -/
theorem beginConnect_meets {post : Except ChannelError Unit → Knowledge → Prop}
    (alone : s.holdsRead = true)
    (begun : ∀ s', s.Retains s' → s'.apart = true → post (.ok ()) s')
    (stopped : ∀ error s', post (.error error) s') :
    (knowing fd).Meets thread beginConnect.run post s := by
  rw [beginConnect, meets_run_holding, meets_run_bind]
  refine ensureOpen_retains.meets (.refl s) fun result s₁ h₁ => ?_
  cases result with
  | error error => exact stopped error _
  | ok =>
      refine fields_meets fun fields _ => ?_
      simp only [meets_run_ite]
      split
      · exact stopped _ _
      · rename_i hconnected
        split
        · exact stopped _ _
        · rename_i hconnecting
          have hseen : (s₁.see fields).apart = true := by
            have hunattached : fields.state.isUnattached = true := by
              cases h : fields.state <;>
                simp_all [Lifecycle.isUnattached]
            simp [see, h₁.holdsRead, alone, hunattached]
          refine enter_retains.meets (.refl (s₁.see fields))
            fun result s₂ h₂ => ?_
          cases result with
          | error error => exact stopped error _
          | ok => exact begun _ (h₁.see.trans h₂).unlock (h₂.apart hseen)

theorem markPending_meets {address : Address} {remote : Option Address}
    (current : s.operation = some (.connect address))
    (attempt : s.attempt = some answer)
    (hpending : understand answer = .ok .inProgress)
    (alone : s.holdsRead = true) (apart : s.apart = true) :
    (knowing fd).Meets thread
      (ExceptT.run (Operating.holding .state do
        let fields ← Operating.perform .fields
        ensureStillOpen
        Operating.perform (.put { fields with
          state := .connecting, remoteAddress := remote })))
      (fun _ _ => True) s := by
  rw [meets_run_holding]
  refine fields_meets fun fields unattached => ?_
  rw [meets_run_bind]
  refine ensureStillOpen_meets (fun _ => trivial) fun live => ?_
  exact put_roams rfl (.raised current attempt
    (outcome?_of_inProgress hpending) rfl alone
    (Lifecycle.rank_le_connecting (live fields rfl) (unattached apart)))

theorem connect_meets {address : Address}
    (current : s.operation = some (.connect address)) :
    (knowing fd).Meets thread (Channel.connect fd address).run
      (fun _ _ => True) s := by
  rw [Channel.connect, meets_run_bind]
  refine encode_meets fun record => ?_
  cases record with
  | error error => trivial
  | ok record =>
      simp only [meets_run_holding]
      show (knowing fd).Meets thread _ _ { s with holdsRead := true }
      simp only [meets_run_bind, meets_run_lift]
      refine beginConnect_meets rfl (fun s₁ h₁ apart => ?_) fun _ _ => trivial
      refine attempt_meets fun answer s₂ h₂ => ?_
      refine leave_retains.meets (.refl s₂) fun result s₃ h₃ => ?_
      cases result with
      | error error => trivial
      | ok =>
          have current' : s₃.operation = some (.connect address) :=
            h₃.operation.trans (h₂.operation.trans (h₁.operation.trans current))
          have attempt' : s₃.attempt = some answer :=
            h₃.attempt.trans h₂.attempt
          have alone' : s₃.holdsRead = true :=
            h₃.holdsRead.trans (h₂.holdsRead.trans h₁.holdsRead)
          cases hresult : understand answer with
          | error error =>
              exact (closeAfter_roams _).meets trivial fun _ _ _ => trivial
          | ok status =>
              cases status with
              | connected =>
                  obtain rfl := eq_ok_of_connected hresult
                  rw [meets_run_bind]
                  refine (markConnected_meets current' attempt' alone' rfl).mono
                    fun result _ _ => ?_
                  cases result <;> trivial
              | inProgress =>
                  rw [meets_run_bind]
                  have apart' : s₃.apart = true := h₃.apart (h₂.apart apart)
                  refine (markPending_meets current' attempt' hresult alone'
                    apart').mono fun result _ _ => ?_
                  cases result <;> trivial
              | interrupted => trivial

theorem beginFinish_meets
    {post : Except ChannelError (Option Record) → Knowledge → Prop}
    (begun : ∀ record s', s.Retains s' → post (.ok (some record)) s')
    (finished : ∀ s', post (.ok none) s')
    (stopped : ∀ error s', post (.error error) s') :
    (knowing fd).Meets thread beginFinish.run post s := by
  rw [beginFinish, meets_run_holding, meets_run_bind]
  refine ensureOpen_retains.meets (.refl s) fun result s₁ h₁ => ?_
  cases result with
  | error error => exact stopped error _
  | ok =>
      refine fields_meets fun fields _ => ?_
      simp only [meets_run_ite]
      split
      · exact finished _
      · split
        · split
          · exact stopped _ _
          · simp only [meets_run_bind]
            refine encode_meets fun result => ?_
            cases result with
            | error error => exact stopped error _
            | ok record =>
                refine enter_retains.meets h₁.see fun result s₂ h₂ => ?_
                cases result with
                | error error => exact stopped error _
                | ok => exact begun record _ h₂.unlock
        · exact stopped _ _

theorem finishConnect_meets (current : s.operation = some .finishConnect) :
    (knowing fd).Meets thread (Channel.finishConnect fd).run
      (fun _ _ => True) s := by
  rw [Channel.finishConnect]
  simp only [meets_run_holding]
  show (knowing fd).Meets thread _ _ { s with holdsRead := true }
  rw [meets_run_bind]
  refine beginFinish_meets (fun record s₁ h₁ => ?_) (fun _ => trivial)
    fun _ _ => trivial
  simp only [meets_run_bind, meets_run_lift]
  intro isBlocking
  refine awaitConnection_meets fun result answer s₂ h₂ outcome => ?_
  refine leave_retains.meets (.refl s₂) fun left s₃ h₃ => ?_
  cases left with
  | error error => trivial
  | ok =>
      rcases result with error | _ | _
      · exact (closeAfter_roams _).meets trivial fun _ _ _ => trivial
      · trivial
      · have current' : s₃.operation = some .finishConnect :=
          h₃.operation.trans (h₂.operation.trans (h₁.operation.trans current))
        have attempt' : s₃.attempt = some answer := h₃.attempt.trans h₂.attempt
        have alone' : s₃.holdsRead = true :=
          h₃.holdsRead.trans (h₂.holdsRead.trans h₁.holdsRead)
        rw [meets_run_bind]
        refine (markConnected_meets current' attempt' alone'
          (outcome rfl)).mono fun result _ _ => ?_
        cases result <;> trivial

end Connecting

end Knowledge

end LocalSocket
