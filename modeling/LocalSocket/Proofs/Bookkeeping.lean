import LocalSocket.Channel.Operation
import LocalSocket.Proofs.Discipline
import LocalSocket.Proofs.Lifecycle
import LocalSocket.Proofs.Maintaining

/-!
# The books of a channel

Besides its state, a channel keeps a count of registrations, a blocking flag, a
flag for each direction and two addresses.  Every write to one of these has a
reason of its own: an operation that is entitled to it, a call that has just
succeeded, or something that was seen under a lock that is still held.  The
ledger of a thread holds what it needs for its reasons; all of them are listed
once, in `Ledger.Counts` and `Ledger.Revision`.
-/

namespace LocalSocket

structure Ledger where
  operation : Option Channel.Operation := none
  holdsRead : Bool := false
  /-- The fields, while nobody else can change them. -/
  fields : Option Fields := none
  /-- The blocking flag, if it was looked at while the fields were known. -/
  blocking : Option Bool := none
  /-- The channel was seen to be unattached, and nobody else can change that. -/
  apart : Bool := false
  /-- The remote address, if it has been seen; it stays what it is. -/
  remote : Option Address := none
  /-- The thread has closed the channel. -/
  closing : Bool := false
  /-- The thread has written the fields in this operation. -/
  hasPut : Bool := false
  /-- What the thread has to do next, since a call has just succeeded. -/
  due : Option Action := none

/-- The direction that a call shuts down. -/
def Shutdown.direction? : Shutdown → Option Direction
  | .read => some .input
  | .write => some .output
  | .both => none

theorem Shutdown.direction?_how (direction : Direction) :
    (Channel.Direction.how direction).direction? = some direction := by
  cases direction <;> rfl

/-- What has to be recorded of the answer to a call, at once. -/
def Call.due? (fields : Fields) : (call : Call) → call.Answer → Option Action
  | .setNonBlocking _ nonBlocking, .ok () => some (.setBlocking !nonBlocking)
  | .shutdown _ how, .ok () =>
      how.direction?.map fun direction => .put (fields.shutDirection direction)
  | _, _ => none

/-- The fields that only change with a reason of their own, the count of
registrations apart. -/
structure Fields.Alike (fields fields' : Fields) : Prop where
  localAddress : fields'.localAddress = fields.localAddress
  remoteAddress : fields'.remoteAddress = fields.remoteAddress
  inputOpen : fields'.inputOpen = fields.inputOpen
  outputOpen : fields'.outputOpen = fields.outputOpen

namespace Fields

variable (fields : Fields) (direction : Direction) (thread : Option Thread)

theorem alike_setSlot : fields.Alike (fields.setSlot direction thread) := by
  cases direction <;> exact ⟨rfl, rfl, rfl, rfl⟩

theorem Alike.isDirectionOpen {fields' : Fields} (h : fields.Alike fields')
    (direction : Direction) :
    fields'.isDirectionOpen direction = fields.isDirectionOpen direction := by
  cases direction
  · exact h.inputOpen
  · exact h.outputOpen

end Fields

namespace Ledger

def see (s : Ledger) (fields : Fields) : Ledger :=
  { s with
    fields := some fields
    apart := s.apart || (s.holdsRead && fields.state.isUnattached)
    remote := fields.remoteAddress }

def write (s : Ledger) (fields : Fields) : Ledger :=
  { s with
    fields := some fields
    apart := s.apart && fields.state.isUnattached
    remote := fields.remoteAddress
    hasPut := true
    due := none }

/-- The operation of the thread does not count a registration, or has done
so. -/
def IsSettled (s : Ledger) : Prop :=
  ∀ operation, s.operation = some operation → operation ≠ .register ∧
    (operation.takesGuard = true → s.hasPut = true)

/-- A registration is counted that is in the hands of this thread. -/
def hasHand (s : Ledger) : Bool :=
  match s.operation with
  | some .register => s.hasPut
  | some operation => operation.takesGuard && !s.hasPut
  | none => false

/-- What a write makes of the count of registrations. -/
inductive Counts (s : Ledger) (fields fields' : Fields) : Prop where
  | registered (current : s.operation = some .register)
      (first : s.hasPut = false) (nonBlocking : s.blocking = some false)
      (counted : fields'.registrations = fields.registrations + 1)
  | deregistered {operation : Channel.Operation}
      (current : s.operation = some operation)
      (takesGuard : operation.takesGuard = true) (first : s.hasPut = false)
      (counted : fields'.registrations = fields.registrations - 1)
  | aside (settled : s.IsSettled)
      (same : fields'.registrations = fields.registrations)

/-- What a write makes of all else. -/
inductive Revision (s : Ledger) (fields : Fields) : Fields → Prop where
  /-- Users come and go, and the last of them, or the end of the channel, is
  recorded. -/
  | used {fields' : Fields} (alike : fields.Alike fields')
      (state : fields'.state = fields.state ∨
        fields'.state = .killPending ∨ fields'.state = .killed) :
      Revision s fields fields'
  | shut {direction : Direction}
      (current : s.operation = some (.shutdown direction))
      (due : s.due = some (.put (fields.shutDirection direction))) :
      Revision s fields (fields.shutDirection direction)
  | closed (closing : s.closing = true) :
      Revision s fields { fields with inputOpen := false, outputOpen := false }
  | named {address : Address} (unnamed : fields.localAddress = none) :
      Revision s fields { fields with localAddress := some address }
  /-- An attempt to connect is under way, or has succeeded. -/
  | attempted {address : Address} {record : Record} {state : Lifecycle}
      (current : s.operation = some (.connect address))
      (encoded : Record.ofAddress address = .ok record)
      (alone : s.holdsRead = true) (unconnected : fields.state = .unconnected)
      (attached : state = .connecting ∨ state = .connected) :
      Revision s fields
        { fields with state := state, remoteAddress := some address }
  | finished {address : Address}
      (current : s.operation = some .finishConnect)
      (alone : s.holdsRead = true)
      (remote : fields.remoteAddress = some address) :
      Revision s fields { fields with state := .connected }
  | looked {address : Address} (unknown : fields.remoteAddress = none)
      (connected : fields.state = .connected) :
      Revision s fields { fields with remoteAddress := some address }

/-- What a thread has to know before it makes a call. -/
def Permits (fd : Fd) (s : Ledger) : Call → Prop
  | .setNonBlocking other nonBlocking =>
      other = fd ∧ ∃ fields, s.fields = some fields ∧
        (nonBlocking = false → fields.registrations = 0)
  | .shutdown other how =>
      other = fd ∧ ∃ fields direction, s.fields = some fields ∧
        how.direction? = some direction ∧
        s.operation = some (.shutdown direction) ∧
        fields.state = .connected ∧ fields.isDirectionOpen direction = true
  | .connect other record =>
      other = fd ∧ ∃ address, Record.ofAddress address = .ok record ∧
        (s.operation = some (.connect address) ∧ s.apart = true ∨
          s.operation = some .finishConnect ∧ s.remote = some address)
  | .peerRecord other =>
      other = fd ∧ ∃ fields, s.fields = some fields ∧
        fields.remoteAddress = none ∧ fields.state = .connected
  | _ => True

def learn (s : Ledger) (call : Call) (answer : call.Answer) : Ledger :=
  { s with due := s.fields.bind fun fields => call.due? fields answer }

def Takes (fd : Fd) (thread : Thread) (s : Ledger) :
    (action : Action) → (action.Result → Ledger → Prop) → Prop
  | .acquire .read, k => k () { s with holdsRead := true }
  | .acquire _, k => k () s
  | .release .read, k => k () { s with holdsRead := false, apart := false }
  | .release .write, k => k () s
  | .release .state, k => k () { s with fields := none, blocking := none }
  | .fields, k =>
      ∀ fields, (s.apart = true → fields.state.isUnattached = true) →
        (∀ address, s.remote = some address →
          fields.remoteAddress = some address) →
        k fields (s.see fields)
  | .put fields', k =>
      ∃ fields, s.fields = some fields ∧ s.Counts fields fields' ∧
        s.Revision fields fields' ∧ k () (s.write fields')
  | .isOpen, k =>
      ∀ isOpen, (isOpen = true → ∀ fields, s.fields = some fields →
        fields.state.isLive = true) → k isOpen s
  | .closeOnce, k => ∀ first, k first { s with closing := first }
  | .isBlocking, k =>
      ∀ blocking, k blocking
        { s with blocking := s.fields.map fun _ => blocking }
  | .setBlocking blocking, k =>
      s.due = some (.setBlocking blocking) ∧
        (∃ fields, s.fields = some fields ∧
          (blocking = true → fields.registrations = 0)) ∧
        k () { s with blocking := some blocking, due := none }
  | .thread, k => k thread s
  | .own .., _ => False
  | .pause, k => k () s
  | .call call, k =>
      s.Permits fd call ∧ ∀ answer, k answer (s.learn call answer)

end Ledger

/-- Threads write what they have a reason for, and at once what they have to. -/
def bookkeeping (fd : Fd) : Protocol Ledger where
  act thread s action k :=
    (∀ next, s.due = some next → action = next) ∧ s.Takes fd thread action k
  mono := by
    intro thread s action k k' himp ⟨hdue, h⟩
    refine ⟨hdue, ?_⟩
    unfold Ledger.Takes at h ⊢
    split <;> grind
  rest := {}
  opens operation := { operation := some operation }
  closes operation reply s :=
    s.due = none ∧ s.hasHand = operation.givesGuard reply

namespace Ledger

open Protocol Channel

/-- What a thread knows before a part of an operation, it knows afterwards, and
there is nothing that it has to do at once. -/
structure Retains (s s' : Ledger) : Prop where
  operation : s'.operation = s.operation
  holdsRead : s'.holdsRead = s.holdsRead
  closing : s'.closing = s.closing
  apart : s.apart = true → s'.apart = true
  remote : ∀ address, s.remote = some address → s'.remote = some address
  hasPut : s.hasPut = true → s'.hasPut = true
  due : s'.due = none

/-- In an operation of which no more is known, nothing has to be done at once,
and no registration is counted anymore. -/
structure IsCalm (operation : Channel.Operation) (s : Ledger) : Prop where
  current : s.operation = some operation
  settled : s.IsSettled
  due : s.due = none

/-- The program needs to know no more than which operation it is part of. -/
def Roams (fd : Fd) (thread : Thread) (operation : Channel.Operation) {α : Type}
    (program : Program α) : Prop :=
  (bookkeeping fd).Maintains thread (IsCalm operation) program

section Retains

variable {s s' : Ledger} {fields : Fields}

theorem Retains.refl (calm : s.due = none) : s.Retains s :=
  ⟨rfl, rfl, rfl, id, fun _ => id, id, calm⟩

theorem Retains.trans {s'' : Ledger} (h : s.Retains s') (h' : s'.Retains s'') :
    s.Retains s'' :=
  ⟨h'.operation.trans h.operation, h'.holdsRead.trans h.holdsRead,
    h'.closing.trans h.closing, fun apart => h'.apart (h.apart apart),
    fun address known => h'.remote address (h.remote address known),
    fun hasPut => h'.hasPut (h.hasPut hasPut), h'.due⟩

theorem Retains.settled (h : s.Retains s') (settled : s.IsSettled) :
    s'.IsSettled := by
  intro operation current
  have hbefore := settled operation (h.operation ▸ current)
  exact ⟨hbefore.1, fun takesGuard => h.hasPut (hbefore.2 takesGuard)⟩

theorem Retains.calm {operation : Channel.Operation} (h : s.Retains s')
    (calm : IsCalm operation s) : IsCalm operation s' :=
  ⟨h.operation.trans calm.current, h.settled calm.settled, h.due⟩

theorem Retains.see (h : s.Retains s')
    (remote : ∀ address, s'.remote = some address →
      fields.remoteAddress = some address) : s.Retains (s'.see fields) :=
  ⟨h.operation, h.holdsRead, h.closing,
    fun apart => by simp [Ledger.see, h.apart apart],
    fun address known => remote address (h.remote address known), h.hasPut,
    h.due⟩

theorem Retains.write (h : s.Retains s')
    (unattached : s.apart = true → fields.state.isUnattached = true)
    (remote : ∀ address, s.remote = some address →
      fields.remoteAddress = some address) : s.Retains (s'.write fields) :=
  ⟨h.operation, h.holdsRead, h.closing,
    fun apart => by simp [Ledger.write, h.apart apart, unattached apart],
    remote, fun _ => rfl, rfl⟩

theorem Retains.unlock (h : s.Retains s') :
    s.Retains { s' with fields := none, blocking := none } :=
  ⟨h.operation, h.holdsRead, h.closing, h.apart, h.remote, h.hasPut, h.due⟩

theorem Retains.looked (h : s.Retains s') {blocking : Option Bool} :
    s.Retains { s' with blocking := blocking } :=
  ⟨h.operation, h.holdsRead, h.closing, h.apart, h.remote, h.hasPut, h.due⟩

end Retains

section Rules

variable {fd : Fd} {thread : Thread} {s : Ledger} {fields fields' : Fields}
  {operation : Channel.Operation} {α β : Type}

theorem act_of_calm {action : Action} {k : action.Result → Ledger → Prop}
    (calm : s.due = none) (takes : s.Takes fd thread action k) :
    (bookkeeping fd).act thread s action k :=
  ⟨by simp [calm], takes⟩

/-- An action that needs no reason. -/
def isFree : Action → Bool
  | .put _ | .setBlocking _ | .own .. => false
  | .call (.setNonBlocking ..) | .call (.shutdown ..) | .call (.connect ..)
  | .call (.peerRecord _) => false
  | _ => true

theorem learn_eq {call : Call} {answer : call.Answer} (calm : s.due = none)
    (idle : ∀ fields, call.due? fields answer = none) :
    s.learn call answer = s := by
  have hnone :
      (s.fields.bind fun fields => call.due? fields answer) = none := by
    cases s.fields
    · rfl
    · exact idle _
  rw [learn, hnone, ← calm]

theorem due?_of_isFree {call : Call} (h : isFree (.call call) = true)
    (answer : call.Answer) (fields : Fields) :
    call.due? fields answer = none := by
  cases call with
  | setNonBlocking | shutdown => cases h
  | _ => rfl

theorem IsCalm.takes {action : Action} {k : action.Result → Ledger → Prop}
    (calm : IsCalm operation s) (h : isFree action = true)
    (hk : ∀ result s', IsCalm operation s' → k result s') :
    s.Takes fd thread action k := by
  obtain ⟨current, settled, due⟩ := calm
  cases action with
  | put | setBlocking | own => cases h
  | acquire lock => cases lock <;> exact hk _ _ ⟨current, settled, due⟩
  | release lock => cases lock <;> exact hk _ _ ⟨current, settled, due⟩
  | fields => exact fun _ _ _ => hk _ _ ⟨current, settled, due⟩
  | isOpen => exact fun _ _ => hk _ _ ⟨current, settled, due⟩
  | closeOnce | isBlocking => exact fun _ => hk _ _ ⟨current, settled, due⟩
  | thread | pause => exact hk _ _ ⟨current, settled, due⟩
  | call call =>
      refine ⟨?_, fun answer => ?_⟩
      · cases call with
        | setNonBlocking | shutdown | connect | peerRecord => cases h
        | _ => trivial
      · rw [learn_eq due (due?_of_isFree h answer)]
        exact hk _ _ ⟨current, settled, due⟩

theorem roams_pure (value : α) : Roams fd thread operation (pure value) :=
  maintains_pure value

theorem roams_perform {action : Action} (h : isFree action = true) :
    Roams fd thread operation (Program.perform action) :=
  fun _ calm => act_of_calm calm.due (calm.takes h fun _ _ => id)

theorem roams_holding {lock : Lock} {body : Program α}
    (h : Roams fd thread operation body) :
    Roams fd thread operation (Program.holding lock body) :=
  maintains_holding
    (fun _ calm => act_of_calm calm.due (calm.takes rfl fun _ _ => id))
    (fun _ calm => act_of_calm calm.due (calm.takes rfl fun _ _ => id)) h

/-- What is known before a section under the state lock may be relied on in
it. -/
theorem IsCalm.section_meets {body : Operating α} (calm : IsCalm operation s)
    (h : (bookkeeping fd).Meets thread body.run (fun _ => IsCalm operation)
      s) :
    (bookkeeping fd).Meets thread (Operating.holding .state body).run
      (fun _ => IsCalm operation) s := by
  rw [meets_run_holding]
  exact act_of_calm calm.due (h.mono fun _ _ calm' =>
    act_of_calm calm'.due ⟨calm'.current, calm'.settled, calm'.due⟩)

theorem roams_look {action : Action} (h : isFree action = true) :
    Roams fd thread operation (Operating.perform action).run :=
  maintains_lift (roams_perform h)

theorem fields_meets {next : Fields → Operating α}
    {post : Except ChannelError α → Ledger → Prop} (calm : s.due = none)
    (hnext : ∀ fields, (s.apart = true → fields.state.isUnattached = true) →
      (∀ address, s.remote = some address →
        fields.remoteAddress = some address) →
      (bookkeeping fd).Meets thread (next fields).run post (s.see fields)) :
    (bookkeeping fd).Meets thread (Operating.perform .fields >>= next).run
      post s := by
  rw [meets_run_bind]
  exact act_of_calm calm hnext

/-- What is done with the fields may rely on knowing them. -/
theorem roams_fields {next : Fields → Operating α}
    (h : ∀ fields s, s.fields = some fields → IsCalm operation s →
      (bookkeeping fd).Meets thread (next fields).run
        (fun _ => IsCalm operation) s) :
    Roams fd thread operation (Operating.perform .fields >>= next).run :=
  fun _ calm => fields_meets calm.due fun fields _ _ =>
    h fields _ rfl ⟨calm.current, calm.settled, calm.due⟩

/-- A write that the count of registrations does not depend on. -/
theorem IsCalm.put {k : Unit → Ledger → Prop} (calm : IsCalm operation s)
    (known : s.fields = some fields)
    (same : fields'.registrations = fields.registrations)
    (revision : s.Revision fields fields')
    (hk : IsCalm operation (s.write fields') → k () (s.write fields')) :
    (bookkeeping fd).act thread s (.put fields') k := by
  refine act_of_calm calm.due ⟨fields, known, .aside calm.settled same,
    revision, hk ⟨calm.current, fun operation current => ?_, rfl⟩⟩
  exact ⟨(calm.settled operation current).1, fun _ => rfl⟩

end Rules

/-! ## Users of the descriptor, and closing -/

section Closing

variable {fd : Fd} {thread : Thread} {s : Ledger} {fields : Fields}
  {operation : Channel.Operation} {direction : Direction}

theorem Retains.acquire_state {s' : Ledger} {k : Unit → Ledger → Prop}
    (h : s.Retains s') (hk : k () s') :
    (bookkeeping fd).act thread s' (.acquire .state) k :=
  act_of_calm h.due hk

theorem Retains.release_state {s' : Ledger} {k : Unit → Ledger → Prop}
    (h : s.Retains s')
    (hk : k () { s' with fields := none, blocking := none }) :
    (bookkeeping fd).act thread s' (.release .state) k :=
  act_of_calm h.due hk

theorem isOpen_retains : (bookkeeping fd).Maintains thread s.Retains
    (Operating.perform .isOpen).run :=
  maintains_lift fun _ h => act_of_calm h.due fun _ _ => h

theorem ensureOpen_retains :
    (bookkeeping fd).Maintains thread s.Retains ensureOpen.run := by
  refine maintains_run_bind isOpen_retains fun isOpen => ?_
  cases isOpen <;> exact maintains_pure _

theorem ensureStillOpen_retains :
    (bookkeeping fd).Maintains thread s.Retains ensureStillOpen.run := by
  refine maintains_run_bind isOpen_retains fun isOpen => ?_
  cases isOpen <;> exact maintains_pure _

theorem retry_close_retains {other : Fd} : (bookkeeping fd).Maintains thread
    s.Retains (Program.retry (.close other)) :=
  maintains_retry fun s' h => act_of_calm h.due ⟨trivial, fun answer => by
    rwa [learn_eq h.due fun _ => rfl]⟩

/-- A user comes or goes, or the end is recorded. -/
theorem Retains.put {s' : Ledger} {fields fields' : Fields}
    {k : Unit → Ledger → Prop} (settled : s.IsSettled) (h : s.Retains s')
    (known : s'.fields = some fields) (alike : fields.Alike fields')
    (same : fields'.registrations = fields.registrations)
    (state : fields'.state = fields.state ∨
      fields'.state = .killPending ∨ fields'.state = .killed)
    (apart : s.apart = true → fields.state.isUnattached = true)
    (remote : ∀ address, s.remote = some address →
      fields.remoteAddress = some address)
    (hk : s.Retains (s'.write fields') → k () (s'.write fields')) :
    (bookkeeping fd).act thread s' (.put fields') k := by
  refine act_of_calm h.due ⟨fields, known, .aside (h.settled settled) same,
    .used alike state, hk (h.write (fun held => ?_) fun address seen => ?_)⟩
  · obtain state | state | state := state
    · exact state ▸ apart held
    · rw [state]
      rfl
    · rw [state]
      rfl
  · exact alike.remoteAddress.trans (remote address seen)

theorem release_retains (settled : s.IsSettled) :
    (bookkeeping fd).Maintains thread s.Retains release.run := by
  intro s' h
  refine fields_meets h.due fun fields apart remote => ?_
  have hseen : s.Retains (s'.see fields) := h.see remote
  have apart' : s.apart = true → fields.state.isUnattached = true :=
    fun held => apart (h.apart held)
  have remote' : ∀ address, s.remote = some address →
      fields.remoteAddress = some address :=
    fun address seen => remote address (h.remote address seen)
  rw [meets_run_ite]
  split
  · exact hseen
  · rw [meets_run_ite]
    split
    · exact hseen.put settled rfl ⟨rfl, rfl, rfl, rfl⟩ rfl (.inr (.inl rfl))
        apart' remote' id
    · rw [meets_run_bind]
      refine hseen.put settled rfl ⟨rfl, rfl, rfl, rfl⟩ rfl (.inr (.inr rfl))
        apart' remote' fun hkilled => ?_
      split
      · exact hkilled
      · rw [meets_run_bind, Socket.close]
        refine (maintains_lift retry_close_retains).meets hkilled
          fun result s'' h' => ?_
        rcases result with _ | _ | _ <;> exact h'

theorem enter_retains (settled : s.IsSettled) :
    (bookkeeping fd).Maintains thread s.Retains (enter direction).run := by
  intro s' h
  rw [enter, meets_run_bind, Operating.perform_eq, meets_run_lift]
  refine act_of_calm h.due (fields_meets h.due fun fields apart remote => ?_)
  exact (h.see remote).put settled rfl (fields.alike_setSlot ..)
    (Fields.setSlot_registrations ..) (.inl (Fields.setSlot_state ..))
    (fun held => apart (h.apart held))
    (fun address seen => remote address (h.remote address seen)) id

theorem leave_retains (settled : s.IsSettled) {completed : Bool} :
    (bookkeeping fd).Maintains thread s.Retains
      (leave direction completed).run := by
  refine maintains_run_bind (maintains_holding
    (fun _ h => h.acquire_state h) (fun _ h => h.release_state h.unlock)
    fun s' h => ?_) fun _ => ?_
  · refine fields_meets h.due fun fields apart remote => ?_
    rw [meets_run_bind]
    refine (h.see remote).put settled rfl (fields.alike_setSlot ..)
      (Fields.setSlot_registrations ..) (.inl (Fields.setSlot_state ..))
      (fun held => apart (h.apart held))
      (fun address seen => remote address (h.remote address seen))
      fun hleft => ?_
    rw [meets_run_ite]
    split
    · exact maintains_quietly (release_retains settled) hleft
    · exact hleft
  · cases completed with
    | true => exact maintains_pure _
    | false => exact ensureStillOpen_retains

theorem ensureOpen_roams : Roams fd thread operation ensureOpen.run :=
  fun _ calm => ensureOpen_retains.meets (.refl calm.due)
    fun _ _ h => h.calm calm

theorem release_roams : Roams fd thread operation release.run :=
  fun _ calm => (release_retains calm.settled).meets (.refl calm.due)
    fun _ _ h => h.calm calm

theorem enter_roams : Roams fd thread operation (enter direction).run :=
  fun _ calm => (enter_retains calm.settled).meets (.refl calm.due)
    fun _ _ h => h.calm calm

theorem leave_roams {completed : Bool} :
    Roams fd thread operation (leave direction completed).run :=
  fun _ calm => (leave_retains calm.settled).meets (.refl calm.due)
    fun _ _ h => h.calm calm

theorem signalAll_roams (threads : List Thread) :
    Roams fd thread operation (signalAll threads) := by
  induction threads with
  | nil => exact roams_pure _
  | cons other rest ih =>
      refine maintains_bind (roams_perform rfl) fun answer => ?_
      cases answer with
      | ok => exact ih
      | error => exact roams_pure _

theorem signalUsers_roams : Roams fd thread operation signalUsers := by
  refine maintains_loop (by nofun) (maintains_bind (roams_holding
    (maintains_bind (roams_perform rfl) fun fields => ?_)) fun isOver => ?_)
    roams_pure
  · split
    · exact roams_pure _
    · exact signalAll_roams _
  · cases isOver with
    | true => exact roams_pure _
    | false => exact maintains_bind (roams_perform rfl) fun _ => roams_pure _

/-- Only the thread that has closed the channel may clear its flags. -/
theorem shutDown_meets (calm : IsCalm operation s)
    (closing : s.closing = true) :
    (bookkeeping fd).Meets thread shutDown.run (fun _ => IsCalm operation)
      s := by
  refine fields_meets calm.due fun fields _ _ => ?_
  have seen : IsCalm operation (s.see fields) :=
    ⟨calm.current, calm.settled, calm.due⟩
  rw [meets_run_bind]
  refine seen.put rfl rfl (.closed closing) fun closed => ?_
  split
  · split
    · exact release_roams closed
    · exact maintains_run_bind (maintains_lift (roams_perform rfl))
        (fun _ => release_roams) closed
  · exact release_roams closed

theorem close_roams : Roams fd thread operation Channel.close.run := by
  intro s calm
  rw [Channel.close, ExceptT.run_mk, meets_bind_eq]
  refine act_of_calm calm.due fun first => ?_
  cases first with
  | true =>
      have closing : IsCalm operation { s with closing := true } :=
        ⟨calm.current, calm.settled, calm.due⟩
      show (bookkeeping fd).Meets thread
        ((Operating.holding .state shutDown).run >>= fun result =>
          signalUsers >>= fun _ => pure result) _ _
      rw [meets_bind_eq, meets_run_holding]
      refine act_of_calm closing.due ((shutDown_meets closing rfl).mono
        fun result s' calm' => act_of_calm calm'.due ?_)
      exact signalUsers_roams.meets
        ⟨calm'.current, calm'.settled, calm'.due⟩ fun _ _ h => h
  | false => exact ⟨calm.current, calm.settled, calm.due⟩

theorem closeAfter_roams {α : Type} (error : ChannelError) :
    Roams fd thread operation (closeAfter error : Operating α).run :=
  maintains_run_bind (maintains_quietly close_roams) fun _ => roams_pure _

/-! ## Registrations -/

/-- A thread that registers has put nothing before, and does so once. -/
theorem register_meets (current : s.operation = some .register)
    (first : s.hasPut = false) (calm : s.due = none) :
    (bookkeeping fd).Meets thread register.run (fun result s' =>
      s'.due = none ∧ s'.operation = some .register ∧
        s'.hasPut = result.isOk) s := by
  rw [register, meets_run_holding]
  refine act_of_calm calm (fields_meets calm fun fields _ _ => ?_)
  -- the fields stay known while the thread looks at the two flags
  have knows : (bookkeeping fd).Maintains thread (fun s' =>
      (s.see fields).Retains s' ∧ s'.fields = some fields ∧
        s'.hasPut = false) ensureOpen.run := by
    refine maintains_run_bind (maintains_lift fun s' h =>
      act_of_calm h.1.due fun _ _ => h) fun isOpen => ?_
    cases isOpen <;> exact maintains_pure _
  rw [meets_run_bind]
  refine knows.meets ⟨.refl calm, rfl, first⟩ fun result s' h => ?_
  obtain ⟨retains, known, unput⟩ := h
  have current' : s'.operation = some .register :=
    retains.operation.trans current
  cases result with
  | error error => exact act_of_calm retains.due ⟨retains.due, current', unput⟩
  | ok =>
      rw [meets_run_bind]
      refine act_of_calm retains.due fun blocking => ?_
      cases blocking with
      | true => exact act_of_calm retains.due ⟨retains.due, current', unput⟩
      | false =>
          refine act_of_calm retains.due ⟨fields, known, ?_, ?_, ?_⟩
          · exact .registered current' unput (by rw [known]; rfl) rfl
          · exact .used ⟨rfl, rfl, rfl, rfl⟩ (.inl rfl)
          · exact act_of_calm rfl ⟨rfl, current', rfl⟩

/-- A thread that gives up a registration counts it down before all else. -/
theorem deregister_meets (current : s.operation = some operation)
    (takesGuard : operation.takesGuard = true) (first : s.hasPut = false)
    (calm : s.due = none) :
    (bookkeeping fd).Meets thread deregister.run (fun _ => IsCalm operation)
      s := by
  rw [deregister, meets_run_holding]
  refine act_of_calm calm (fields_meets calm fun fields _ _ => ?_)
  rw [meets_run_bind]
  refine act_of_calm calm ⟨fields, rfl, .deregistered current takesGuard first
    rfl, .used ⟨rfl, rfl, rfl, rfl⟩ (.inl rfl), ?_⟩
  have counted : IsCalm operation ((s.see fields).write
      { fields with registrations := fields.registrations - 1 }) := by
    refine ⟨current, fun other hother => ⟨?_, fun _ => rfl⟩, rfl⟩
    rintro rfl
    obtain rfl : operation = .register :=
      Option.some.inj (current.symm.trans hother)
    cases takesGuard
  have ends : (bookkeeping fd).Meets thread
      (ExceptT.run (if fields.state = .killPending then release else pure ()))
      (fun _ => IsCalm operation) ((s.see fields).write
        { fields with registrations := fields.registrations - 1 }) := by
    rw [meets_run_ite]
    split
    · exact release_roams counted
    · exact counted
  exact ends.mono fun _ _ h =>
    act_of_calm h.due ⟨h.current, h.settled, h.due⟩

end Closing

end Ledger

end LocalSocket
