import LocalSocket.Proofs.Discipline
import LocalSocket.Proofs.Maintaining
import LocalSocket.Proofs.Solo

/-!
# Failed system calls

A call that the system refuses while a channel is bound or connected leaves a
socket of which nobody knows what has become, and the channel is closed.  Any
other operation passes the failure on and leaves the channel as it was.
-/

namespace LocalSocket

namespace Channel

/-- The channel with a lock in the hands of `thread`, or free. -/
def hold (channel : Channel) (lock : Lock) (thread : Option Thread) : Channel :=
  { channel with locks := channel.locks.setHolder lock thread }

/-- The channel with `thread` inside a call. -/
def occupy (channel : Channel) (direction : Direction) (thread : Thread) :
    Channel :=
  { channel with fields := channel.fields.setSlot direction (some thread) }

/-- An open channel that nobody is using. -/
structure IsUnused (fd : Fd) (channel : Channel) : Prop where
  isOpen : channel.isOpen = true
  live : channel.fields.state.isLive = true
  holder : channel.fields.holder = some fd
  reader : channel.fields.reader = none
  writer : channel.fields.writer = none

/-- What becomes of an unused channel that is closed: the descriptor is released
unless there are registrations. -/
def closed (channel : Channel) : Channel :=
  { channel with
    isOpen := false
    fields := { channel.fields with
      inputOpen := false
      outputOpen := false
      state :=
        if channel.fields.registrations = 0 then .killed else .killPending
      holder :=
        if channel.fields.registrations = 0 then none
        else channel.fields.holder } }

section Hold

variable {channel : Channel} {fd : Fd} {lock other : Lock}
  {thread : Option Thread}

@[simp] theorem hold_isOpen :
    (channel.hold lock thread).isOpen = channel.isOpen := rfl

@[simp] theorem hold_isBlocking :
    (channel.hold lock thread).isBlocking = channel.isBlocking := rfl

@[simp] theorem hold_fields :
    (channel.hold lock thread).fields = channel.fields := rfl

theorem holder_hold : (channel.hold lock thread).locks.holder other =
    if other = lock then thread else channel.locks.holder other :=
  Locks.holder_setHolder ..

theorem hold_hold (free : channel.locks.holder lock = none) :
    (channel.hold lock thread).hold lock none = channel := by
  obtain ⟨_, _, _, _, _, _⟩ := channel
  cases lock <;> simp_all [hold, Locks.setHolder, Locks.holder]

@[simp] theorem occupy_isOpen {direction : Direction} {thread : Thread} :
    (channel.occupy direction thread).isOpen = channel.isOpen := rfl

@[simp] theorem occupy_fields {direction : Direction} {thread : Thread} :
    (channel.occupy direction thread).fields =
      channel.fields.setSlot direction (some thread) := rfl

theorem closed_hold :
    (channel.hold lock thread).closed = channel.closed.hold lock thread := rfl

theorem IsUnused.hold (unused : channel.IsUnused fd) :
    (channel.hold lock thread).IsUnused fd where
  isOpen := unused.isOpen
  live := unused.live
  holder := unused.holder
  reader := unused.reader
  writer := unused.writer

theorem IsUnused.slot (unused : channel.IsUnused fd) (direction : Direction) :
    channel.fields.slot direction = none := by
  cases direction
  · exact unused.reader
  · exact unused.writer

theorem IsUnused.state_ne (unused : channel.IsUnused fd) :
    channel.fields.state ≠ .killPending ∧ channel.fields.state ≠ .killed := by
  have live := unused.live
  constructor <;> intro h <;> simp [h, Lifecycle.isLive] at live

end Hold

end Channel

theorem Fields.setSlot_setSlot {fields : Fields} {direction : Direction}
    {thread : Option Thread} (h : fields.slot direction = none) :
    (fields.setSlot direction thread).setSlot direction none = fields := by
  cases fields
  cases direction <;> simp_all [Fields.setSlot, Fields.slot]

namespace Solo

open Protocol Channel

variable {fd : Fd} {thread : Thread} {channel : Channel} {α β : Type}

/-! ## What a failure leaves behind -/

/-- Whatever comes of the program, the channel is left as it was. -/
def Spares (thread : Thread) (channel : Channel) (program : Program α) : Prop :=
  ∀ ⦃failures : List (Call × OsError)⦄ ⦃post : α → Solo → Prop⦄,
    (∀ value failures', post value ⟨channel, failures'⟩) →
      solo.Meets thread program post ⟨channel, failures⟩

/-- The result is that a call has failed. -/
def Fails (result : Except ChannelError α) (error : OsError) : Prop :=
  result = .error (.socket error)

/-- If the program fails because of a call, the channel is left as it was. -/
def Restores (thread : Thread) (channel : Channel) (program : Operating α) :
    Prop :=
  ∀ ⦃failures : List (Call × OsError)⦄
    ⦃post : Except ChannelError α → Solo → Prop⦄,
    (∀ result channel' failures', (∀ error, Fails result error →
      channel' = channel) → post result ⟨channel', failures'⟩) →
      solo.Meets thread program.run post ⟨channel, failures⟩

/-- If the program fails because of a call, it is one of those, and the channel
is closed. -/
def Closes (calls : Call → Prop) (thread : Thread) (channel : Channel)
    (program : Operating α) : Prop :=
  ∀ ⦃failures : List (Call × OsError)⦄
    ⦃post : Except ChannelError α → Solo → Prop⦄,
    (∀ result channel' failures', (∀ error, Fails result error →
      channel' = channel.closed ∧
        ∃ call, calls call ∧ (call, error) ∈ failures') →
          post result ⟨channel', failures'⟩) →
      solo.Meets thread program.run post ⟨channel, failures⟩

/-- The program does not fail because of a call. -/
def Calm (thread : Thread) (channel : Channel) (program : Operating α) : Prop :=
  ∀ ⦃failures : List (Call × OsError)⦄
    ⦃post : Except ChannelError α → Solo → Prop⦄,
    (∀ result channel' failures', (∀ error, ¬Fails result error) →
      post result ⟨channel', failures'⟩) →
      solo.Meets thread program.run post ⟨channel, failures⟩

section Rules

variable {failures : List (Call × OsError)}

theorem acquire_iff {lock : Lock} {k : Unit → Solo → Prop}
    (free : channel.locks.holder lock = none) :
    solo.act thread ⟨channel, failures⟩ (.acquire lock) k ↔
      k () ⟨channel.hold lock (some thread), failures⟩ := by
  simp [solo, Channel.answer, free, Channel.hold]

/-- A section under a lock that is free. -/
theorem holding_meets {lock : Lock} {body : Program α}
    {post : α → Solo → Prop} (free : channel.locks.holder lock = none)
    (hbody : solo.Meets thread body
      (fun value s => post value ⟨s.channel.hold lock none, s.failures⟩)
      ⟨channel.hold lock (some thread), failures⟩) :
    solo.Meets thread (Program.holding lock body) post ⟨channel, failures⟩ := by
  rw [meets_holding]
  exact (acquire_iff free).mpr hbody

theorem fields_meets {next : Fields → Operating α}
    {post : Except ChannelError α → Solo → Prop}
    (hnext : solo.Meets thread (next channel.fields).run post
      ⟨channel, failures⟩) :
    solo.Meets thread (Operating.perform .fields >>= next).run post
      ⟨channel, failures⟩ := by
  rw [meets_run_bind]
  exact hnext

theorem put_meets {fields : Fields} {next : Unit → Operating α}
    {post : Except ChannelError α → Solo → Prop}
    (hnext : solo.Meets thread (next ()).run post
      ⟨{ channel with fields := fields }, failures⟩) :
    solo.Meets thread (Operating.perform (.put fields) >>= next).run post
      ⟨channel, failures⟩ := by
  rw [meets_run_bind]
  exact hnext

/-- The program maintains that the channel is as it was. -/
theorem spares_iff {program : Program α} : Spares thread channel program ↔
    solo.Maintains thread (fun s => s.channel = channel) program := by
  constructor
  · rintro h ⟨_, failures⟩ rfl
    exact h fun _ _ => rfl
  · intro h failures post hpost
    refine h.meets rfl ?_
    rintro value ⟨_, failures'⟩ rfl
    exact hpost value failures'

theorem spares_pure (value : α) : Spares thread channel (pure value) :=
  fun _ _ hpost => hpost _ _

theorem act_call_spares (call : Call) (s : Solo) (hs : s.channel = channel) :
    solo.act thread s (.call call) fun _ s' => s'.channel = channel := by
  intro answer
  cases answer <;> exact hs

theorem spares_call (call : Call) : Spares thread channel (Program.call call) :=
  spares_iff.mpr (maintains_perform (act_call_spares call))

theorem spares_retry (call : Call) :
    Spares thread channel (Program.retry call) :=
  spares_iff.mpr (maintains_retry (act_call_spares call))

theorem spares_bind {program : Program α} {f : α → Program β}
    (h : Spares thread channel program)
    (hf : ∀ value, Spares thread channel (f value)) :
    Spares thread channel (program >>= f) :=
  spares_iff.mpr
    (maintains_bind (spares_iff.mp h) fun value => spares_iff.mp (hf value))

theorem spares_holding {lock : Lock} {body : Program α}
    (free : channel.locks.holder lock = none)
    (h : Spares thread (channel.hold lock (some thread)) body) :
    Spares thread channel (Program.holding lock body) := by
  intro failures post hpost
  refine holding_meets free (h fun value failures' => ?_)
  rw [hold_hold free]
  exact hpost _ _

theorem spares_run_bind {operation : Operating α} {f : α → Operating β}
    (h : Spares thread channel operation.run)
    (hf : ∀ value, Spares thread channel (f value).run) :
    Spares thread channel (operation >>= f).run :=
  spares_iff.mpr
    (maintains_run_bind (spares_iff.mp h) fun value => spares_iff.mp (hf value))

theorem spares_lift {program : Program α} (h : Spares thread channel program) :
    Spares thread channel (ExceptT.lift program : Operating α).run :=
  spares_iff.mpr (maintains_lift (spares_iff.mp h))

theorem spares_onSocket {program : Program (Except OsError α)}
    (h : Spares thread channel program) :
    Spares thread channel (Operating.onSocket program).run :=
  spares_iff.mpr (maintains_onSocket (spares_iff.mp h))

theorem spares_perform {action : Action} {result : action.Result}
    (h : channel.answer thread action = .answered channel result) :
    Spares thread channel (Operating.perform action).run := by
  refine spares_lift fun failures post hpost => ?_
  simpa [Program.perform, solo, h] using hpost result failures

theorem restores_of_spares {program : Operating α}
    (h : Spares thread channel program.run) : Restores thread channel program :=
  fun _ _ hpost => h fun result failures' => hpost result _ failures'
    fun _ _ => rfl

theorem restores_perform {action : Action} {result : action.Result}
    {channel' : Channel}
    (h : channel.answer thread action = .answered channel' result) :
    Restores thread channel (Operating.perform action) := by
  intro failures post hpost
  rw [Operating.perform, meets_run_lift]
  simpa [Program.perform, solo, h] using hpost (.ok result) channel' failures
    (by simp [Fails])

theorem restores_bind {operation : Operating α} {f : α → Operating β}
    (h : Spares thread channel operation.run)
    (hf : ∀ value, Restores thread channel (f value)) :
    Restores thread channel (operation >>= f) := by
  intro failures post hpost
  rw [meets_run_bind]
  refine h fun result failures' => ?_
  cases result with
  | ok value => exact hf value hpost
  | error error => exact hpost _ _ _ fun _ _ => rfl

theorem restores_ite {condition : Prop} [Decidable condition]
    {operation other : Operating α} (h : Restores thread channel operation)
    (hother : Restores thread channel other) :
    Restores thread channel (if condition then operation else other) := by
  split
  · exact h
  · exact hother

theorem restores_holding {lock : Lock} {body : Operating α}
    (free : channel.locks.holder lock = none)
    (h : Restores thread (channel.hold lock (some thread)) body) :
    Restores thread channel (Operating.holding lock body) := by
  intro failures post hpost
  refine holding_meets free (h fun result channel' failures' hresult => ?_)
  refine hpost _ _ _ fun error fails => ?_
  show channel'.hold lock none = channel
  rw [hresult error fails, hold_hold free]

theorem closes_holding {calls : Call → Prop} {lock : Lock} {body : Operating α}
    (free : channel.locks.holder lock = none)
    (h : Closes calls thread (channel.hold lock (some thread)) body) :
    Closes calls thread channel (Operating.holding lock body) := by
  intro failures post hpost
  refine holding_meets free (h fun result channel' failures' hresult => ?_)
  refine hpost _ _ _ fun error fails => ?_
  obtain ⟨hchannel, hcall⟩ := hresult error fails
  refine ⟨?_, hcall⟩
  show channel'.hold lock none = channel.closed
  rw [hchannel, closed_hold]
  exact hold_hold free

theorem restores_then_pure {operation : Operating α} {value : β}
    (h : Restores thread channel operation) :
    Restores thread channel (operation >>= fun _ => pure value) := by
  intro failures post hpost
  rw [meets_run_bind]
  refine h fun result channel' failures' hresult => ?_
  cases result with
  | ok => exact hpost _ _ _ (by simp [Fails])
  | error error =>
      exact hpost _ _ _ fun error' fails =>
        hresult error' (by simpa [Fails] using fails)

theorem quietly_calm {operation : Operating Unit}
    (h : Calm thread channel operation) :
    Calm thread channel (Operating.quietly operation) := by
  intro failures post hpost
  rw [meets_run_quietly]
  exact h fun _ channel' failures' _ => hpost (.ok ()) channel' failures'
    (by simp [Fails])

theorem restores_of_calm {operation : Operating α}
    (h : Calm thread channel operation) : Restores thread channel operation :=
  fun _ _ hpost => h fun result channel' failures' hfails =>
    hpost result channel' failures' fun error fails =>
      absurd fails (hfails error)

theorem calm_then_pure {calls : Call → Prop} {operation : Operating Unit}
    {value : α} {closed : Channel} (h : Calm thread channel operation)
    {post : Except ChannelError α → Solo → Prop}
    (hpost : ∀ result channel' failures', (∀ error, Fails result error →
      channel' = closed ∧ ∃ call, calls call ∧ (call, error) ∈ failures') →
        post result ⟨channel', failures'⟩) :
    solo.Meets thread (operation >>= fun _ => pure value).run post
      ⟨channel, failures⟩ := by
  rw [meets_run_bind]
  refine h fun result channel' failures' hfails => ?_
  cases result with
  | ok => exact hpost _ _ _ (by simp [Fails])
  | error error =>
      exact hpost _ _ _ fun error' fails =>
        absurd (by simpa [Fails] using fails) (hfails error')

end Rules

/-! ## Users of the descriptor -/

section Users

variable {failures : List (Call × OsError)} {direction : Direction}

theorem ensureOpen_spares : Spares thread channel ensureOpen.run := by
  refine spares_run_bind (spares_perform rfl) fun isOpen => ?_
  cases isOpen <;> exact spares_pure _

theorem enter_meets {post : Except ChannelError Unit → Solo → Prop}
    (hpost : post (.ok ()) ⟨channel.occupy direction thread, failures⟩) :
    solo.Meets thread (enter direction).run post ⟨channel, failures⟩ := hpost

theorem leave_meets {completed : Bool}
    {post : Except ChannelError Unit → Solo → Prop}
    (unused : channel.IsUnused fd) (free : channel.locks.holder .state = none)
    (hpost : post (.ok ()) ⟨channel, failures⟩) :
    solo.Meets thread (leave direction completed).run post
      ⟨channel.occupy direction thread, failures⟩ := by
  have hafter : solo.Meets thread
      (ExceptT.run (if completed then pure PUnit.unit else ensureStillOpen))
        post ⟨channel, failures⟩ := by
    cases completed with
    | true => exact hpost
    | false =>
        rw [if_neg (by simp), ensureStillOpen, meets_run_bind]
        show solo.Meets thread (ExceptT.run (unless channel.isOpen do _)) _ _
        rw [unused.isOpen]
        exact hpost
  rw [leave, meets_run_bind]
  refine holding_meets free (fields_meets (put_meets ?_))
  rw [meets_run_ite, if_neg (by simpa using unused.state_ne.1)]
  simp only [hold_fields, occupy_fields,
    Fields.setSlot_setSlot (unused.slot direction)]
  have hsame : (channel.hold .state (some thread)).hold .state none = channel :=
    hold_hold free
  show solo.Meets thread _ post
    ⟨(channel.hold .state (some thread)).hold .state none, failures⟩
  rw [hsame]
  exact hafter

/-- The thread enters if the channel is connected and the direction open. -/
theorem beginTransfer_meets {post : Except ChannelError Bool → Solo → Prop}
    (free : channel.locks.holder .state = none)
    (begun : ∀ failures',
      post (.ok true) ⟨channel.occupy direction thread, failures'⟩)
    (stopped : ∀ result failures', result ≠ .ok true →
      post result ⟨channel, failures'⟩) :
    solo.Meets thread (beginTransfer direction).run post
      ⟨channel, failures⟩ := by
  have hsame : (channel.hold .state (some thread)).hold .state none = channel :=
    hold_hold free
  have hstopped : ∀ result failures', result ≠ .ok true → post result
      ⟨(channel.hold .state (some thread)).hold .state none, failures'⟩ := by
    rw [hsame]
    exact stopped
  have hbegun : ∀ failures', post (.ok true)
      ⟨((channel.hold .state (some thread)).occupy direction thread).hold .state
        none, failures'⟩ := by
    intro failures'
    show post _ ⟨((channel.hold .state (some thread)).hold .state none).occupy
      direction thread, _⟩
    rw [hsame]
    exact begun failures'
  refine holding_meets free ?_
  rw [meets_run_bind]
  refine ensureOpen_spares fun result failures' => ?_
  cases result with
  | error error => exact hstopped _ _ (by simp)
  | ok =>
      refine fields_meets ?_
      simp only [meets_run_ite]
      split
      · exact hstopped _ _ (by simp)
      · split
        · rw [meets_run_bind]
          refine enter_meets ?_
          exact hbegun _
        · exact hstopped _ _ (by simp)

theorem endTransfer_meets {result : Except OsError IoStatus}
    {post : Except ChannelError Bool → Solo → Prop}
    (unused : channel.IsUnused fd) (free : channel.locks.holder .state = none)
    (hpost : ∀ result failures', post result ⟨channel, failures'⟩) :
    solo.Meets thread (endTransfer direction result).run post
      ⟨channel.occupy direction thread, failures⟩ := by
  rw [endTransfer, meets_run_bind]
  refine leave_meets unused free ?_
  simp only [meets_run_ite]
  split_ifs
  · exact hpost _ _
  · have hlook : Spares thread channel (isDirectionOpen direction).run :=
      spares_holding free
        (spares_run_bind (spares_perform rfl) fun _ => spares_pure _)
    exact hlook hpost

theorem transferWith_spares {buffers : β}
    {shutBefore shutMeanwhile : Except ChannelError IoStatus}
    {transfer : Program (Except OsError IoStatus × β)}
    (unused : channel.IsUnused fd)
    (free : ∀ lock, channel.locks.holder lock = none)
    (htransfer : ∀ channel, Spares thread channel transfer) :
    Spares thread channel
      (transferWith direction shutBefore shutMeanwhile buffers transfer) := by
  have hstate :
      (channel.hold direction.lock (some thread)).locks.holder .state =
        none := by
    cases direction <;> simp [holder_hold, Direction.lock, free]
  refine spares_holding (free _) fun failures post hpost => ?_
  rw [meets_bind_eq]
  refine beginTransfer_meets hstate (fun failures' => ?_)
    fun result failures' hresult => ?_
  · simp only [meets_bind_eq]
    refine htransfer _ fun moved failures'' => ?_
    refine endTransfer_meets unused.hold hstate fun result _ => ?_
    rcases result with error | _ | _ <;> exact hpost _ _
  · rcases result with error | _ | _
    · exact hpost _ _
    · exact hpost _ _
    · exact absurd rfl hresult

end Users

/-! ## Closing -/

section Closing

variable {failures : List (Call × OsError)}

theorem call_meets {call : Call} {post : call.Answer → Solo → Prop}
    (accepted : ∀ value, post (.ok value) ⟨channel, failures⟩)
    (failed : ∀ error,
      post (.error error) ⟨channel, failures ++ [(call, error)]⟩) :
    solo.Meets thread (Program.call call) post ⟨channel, failures⟩ := by
  intro answer
  cases answer with
  | ok value => exact accepted value
  | error error => exact failed error

theorem retry_meets {call : Call} {post : call.Answer → Solo → Prop}
    (hpost : ∀ answer failures', failures <+: failures' →
      post answer ⟨channel, failures'⟩) :
    solo.Meets thread (Program.retry call) post ⟨channel, failures⟩ := by
  refine Protocol.meets_retry
    (fun s => s.channel = channel ∧ failures <+: s.failures)
    ⟨rfl, List.prefix_refl _⟩ ?_
  rintro ⟨channel', failures'⟩ ⟨rfl, hprefix⟩ answer
  cases answer with
  | ok value => exact hpost _ _ hprefix
  | error error =>
      have hmore : failures <+: failures' ++ [(call, error)] :=
        hprefix.trans (List.prefix_append _ _)
      by_cases hinterrupted : error.isInterrupted = true
      · simpa [hinterrupted] using ⟨rfl, hmore⟩
      · simpa [hinterrupted, after] using hpost (.error error) _ hmore

theorem release_meets {post : Except ChannelError Unit → Solo → Prop}
    (unused : channel.IsUnused fd)
    (hpost : ∀ result failures', (∀ error, ¬Fails result error) →
      failures <+: failures' → post result ⟨channel.closed, failures'⟩) :
    solo.Meets thread release.run post
      ⟨{ channel with
          isOpen := false
          fields := { channel.fields with
            inputOpen := false, outputOpen := false } }, failures⟩ := by
  have hused : Fields.isUsed { channel.fields with
      inputOpen := false, outputOpen := false } =
        (channel.fields.registrations != 0) := by
    simp [Fields.isUsed, Fields.threads, unused.reader, unused.writer]
  refine fields_meets ?_
  rw [meets_run_ite, if_neg unused.state_ne.2, meets_run_ite, hused]
  by_cases hzero : channel.fields.registrations = 0
  · have hclosed : channel.closed = { channel with
        isOpen := false
        fields := { channel.fields with
          inputOpen := false, outputOpen := false
          state := .killed, holder := none } } := by
      rw [closed, if_pos hzero, if_pos hzero]
    rw [hclosed] at hpost
    rw [if_neg (by simp [hzero])]
    refine put_meets ?_
    simp only [unused.holder, meets_run_bind, meets_run_lift]
    refine retry_meets fun answer failures' hprefix => ?_
    cases answer with
    | ok => exact hpost (.ok ()) _ (by simp [Fails]) hprefix
    | error error =>
        exact hpost (.error (.close fd error)) _ (by simp [Fails]) hprefix
  · have hclosed : channel.closed = { channel with
        isOpen := false
        fields := { channel.fields with
          inputOpen := false, outputOpen := false
          state := .killPending } } := by
      rw [closed, if_neg hzero, if_neg hzero]
    rw [hclosed] at hpost
    rw [if_pos (by simp [hzero])]
    exact hpost (.ok ()) _ (by simp [Fails]) (List.prefix_refl _)

/-- There is nobody to be signalled. -/
theorem signalUsers_meets {post : Unit → Solo → Prop}
    (free : channel.locks.holder .state = none)
    (reader : channel.fields.reader = none)
    (writer : channel.fields.writer = none)
    (hpost : post () ⟨channel, failures⟩) :
    solo.Meets thread signalUsers post ⟨channel, failures⟩ := by
  refine meets_loop (fun s => s = ⟨channel, failures⟩) (by nofun) rfl ?_
  rintro s rfl
  have hthreads : channel.fields.threads = [] := by
    simp [Fields.threads, reader, writer]
  have hsame : (channel.hold .state (some thread)).hold .state none = channel :=
    hold_hold free
  simp only [meets_bind_eq]
  refine holding_meets free ?_
  show solo.Meets thread
    (if channel.fields.threads.isEmpty then pure true
      else signalAll channel.fields.threads) _ _
  rw [hthreads, if_pos List.isEmpty_nil]
  show solo.Meets thread _ _ ⟨(channel.hold .state (some thread)).hold .state
    none, failures⟩
  rw [hsame]
  exact hpost

theorem close_meets {post : Except ChannelError Unit → Solo → Prop}
    (unused : channel.IsUnused fd) (free : channel.locks.holder .state = none)
    (hpost : ∀ result failures', (∀ error, ¬Fails result error) →
      failures <+: failures' → post result ⟨channel.closed, failures'⟩) :
    solo.Meets thread Channel.close.run post ⟨channel, failures⟩ := by
  have hthreads : channel.fields.threads = [] := by
    simp [Fields.threads, unused.reader, unused.writer]
  have hsame : (channel.closed.hold .state (some thread)).hold .state none =
      channel.closed := hold_hold free
  show solo.Meets thread
    (if channel.isOpen then (do
        let result ← (Operating.holding .state shutDown).run
        signalUsers
        pure result)
      else pure (.ok ())) post ⟨{ channel with isOpen := false }, failures⟩
  rw [unused.isOpen, if_pos rfl, meets_bind_eq]
  refine holding_meets free (fields_meets (put_meets ?_))
  have unused' : (channel.hold .state (some thread)).IsUnused fd := unused.hold
  have hrelease : solo.Meets thread release.run (fun result s =>
      solo.Meets thread (signalUsers >>= fun _ => pure result) post
        ⟨s.channel.hold .state none, s.failures⟩)
      ⟨{ channel.hold .state (some thread) with
          isOpen := false
          fields := { channel.fields with
            inputOpen := false, outputOpen := false } }, failures⟩ := by
    refine release_meets unused' fun result failures' hresult hprefix => ?_
    show solo.Meets thread _ _
      ⟨(channel.closed.hold .state (some thread)).hold .state none, failures'⟩
    rw [hsame, meets_bind_eq]
    have free' : channel.closed.locks.holder .state = none := free
    exact signalUsers_meets free' unused.reader unused.writer
      (hpost _ _ hresult hprefix)
  split
  · simp only [hold_fields, hthreads, List.isEmpty_nil, if_true]
    exact hrelease
  · exact hrelease

theorem closeAfter_meets {calls : Call → Prop} {error : OsError}
    {post : Except ChannelError α → Solo → Prop}
    (unused : channel.IsUnused fd) (free : channel.locks.holder .state = none)
    (known : ∃ call, calls call ∧ (call, error) ∈ failures)
    (hpost : ∀ result channel' failures', (∀ error, Fails result error →
      channel' = channel.closed ∧
        ∃ call, calls call ∧ (call, error) ∈ failures') →
          post result ⟨channel', failures'⟩) :
    solo.Meets thread (closeAfter (.socket error) : Operating α).run post
      ⟨channel, failures⟩ := by
  rw [closeAfter, meets_run_bind, meets_run_quietly]
  refine close_meets unused free fun result failures' _ hprefix => ?_
  refine hpost _ _ _ fun error' fails => ⟨rfl, ?_⟩
  obtain rfl : error = error' := by simpa [Fails] using fails
  obtain ⟨call, hcall, hmem⟩ := known
  exact ⟨call, hcall, hprefix.subset hmem⟩

end Closing

end Solo

end LocalSocket
