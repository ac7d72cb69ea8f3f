import LocalSocket.Proofs.Addresses
import LocalSocket.Proofs.Attempt
import LocalSocket.Proofs.Play

/-!
# Finishing a pending connection

A connection attempt that is under way is taken up again to be finished.  A
thread that blocks comes back with the connection established or with the
channel closed; one that does not block asks once, and if the attempt is still
under way it leaves everything as it was.
-/

namespace LocalSocket

/-- The channel is the same, but for who is using it. -/
def Channel.Resembles (channel channel' : Channel) : Prop :=
  ∃ locks reader, channel' = { channel with
    locks := locks, fields := { channel.fields with reader := reader } }

theorem Channel.Resembles.refl (channel : Channel) :
    channel.Resembles channel :=
  ⟨channel.locks, channel.fields.reader, rfl⟩

theorem Call.filter_exchanges {request : Call}
    (blocking : request.isBlocking = true) (answers : List request.Answer) :
    (request.exchanges answers).filter (fun exchange =>
      exchange.call.isBlocking) = request.exchanges answers := by
  rw [List.filter_eq_self]
  intro exchange hmem
  obtain ⟨_, _, rfl⟩ := List.mem_map.mp hmem
  exact blocking

namespace Journal

/-- From one journal to the other, the system was asked and answered `asked`,
and the thread has made no difference to the channel but for who uses it. -/
structure Calm (asked : List Exchange) (s s' : Journal) : Prop where
  exchanges : s'.exchanges = s.exchanges ++ asked
  kept : s.changes ⊆ s'.changes
  changes : ∀ change ∈ s'.changes,
    change ∈ s.changes ∨ change.1.Resembles change.2
  closed : s.left.isOpen = false → s'.left.isOpen = false
  rank_le : s.left.fields.state.rank ≤ s'.left.fields.state.rank

namespace Calm

variable {s s' s'' : Journal} {asked more : List Exchange}
  {channel channel' : Channel} {thread : Thread}

theorem refl (s : Journal) : Calm [] s s :=
  ⟨by simp, fun _ => id, fun _ => .inl, id, le_rfl⟩

theorem trans (h : Calm asked s s') (h' : Calm more s' s'') :
    Calm (asked ++ more) s s'' where
  exchanges := by rw [h'.exchanges, h.exchanges, List.append_assoc]
  kept := fun _ hmem => h'.kept (h.kept hmem)
  changes change hmem := (h'.changes change hmem).elim (h.changes change) .inr
  closed := h'.closed ∘ h.closed
  rank_le := h.rank_le.trans h'.rank_le

theorem trans_quiet (h : Calm asked s s') (h' : Calm [] s' s'') :
    Calm asked s s'' := by
  simpa using h.trans h'

theorem acted (drifts : s.left.Drifts thread channel)
    (resembles : channel.Resembles channel') :
    Calm [] s (s.acted channel channel') where
  exchanges := by simp
  kept := List.subset_append_left ..
  changes change hmem := by
    obtain hmem | hmem := List.mem_append.mp hmem
    · exact .inl hmem
    · obtain rfl := List.mem_singleton.mp hmem
      exact .inr resembles
  closed := by
    obtain ⟨_, _, rfl⟩ := resembles
    exact drifts.closed
  rank_le := by
    obtain ⟨_, _, rfl⟩ := resembles
    exact drifts.rank_le

theorem heard (exchange : Exchange) : Calm [exchange] s (s.heard exchange) :=
  ⟨rfl, fun _ => id, fun _ => .inl, id, le_rfl⟩

end Calm

/-- What is asked of the calls in which the thread may be blocked. -/
def blocked (s : Journal) : List Exchange :=
  s.exchanges.filter fun exchange => exchange.call.isBlocking

theorem blocked_heard {s : Journal} {call : Call} (answer : call.Answer)
    (h : call.isBlocking = false) :
    (s.heard ⟨call, answer⟩).blocked = s.blocked := by
  simp [blocked, h]

/-- The thread has seen or made the channel connected. -/
def Connects (s : Journal) : Prop :=
  ∃ change ∈ s.changes, change.2.fields.state = .connected

theorem connects_acted {s : Journal} {channel channel' : Channel}
    (connected : channel'.fields.state = .connected) :
    (s.acted channel channel').Connects :=
  ⟨(channel, channel'), by simp, connected⟩

theorem Connects.of_subset {s s' : Journal} (h : s.Connects)
    (kept : s.changes ⊆ s'.changes) : s'.Connects := by
  obtain ⟨change, hmem, connected⟩ := h
  exact ⟨change, kept hmem, connected⟩

/-- Calm steps make no difference to it. -/
def Stable {α : Type} (post : α → Journal → Prop) : Prop :=
  ∀ value s s', Calm [] s s' → post value s → post value s'

end Journal

namespace Pending

open Protocol Channel

/-- How a thread comes upon a channel whose connection it is finishing, if it
finds it blocking or not; if `steady`, it always finds it open, and the attempt
has not been finished by another thread. -/
def prospect (blocking : Bool) (steady : Prop) : Prospect where
  finds action channel :=
    (action = .isBlocking → channel.isBlocking = blocking) ∧
    (action = .fields → channel.fields.state = .connecting →
      ∃ address record, channel.fields.remoteAddress = some address ∧
        Record.ofAddress address = .ok record) ∧
    (steady → (action = .isOpen → channel.isOpen = true) ∧
      (action = .fields → channel.fields.state ≠ .connected))

section Rules

variable {J : Prospect} {thread : Thread} {s : Journal} {α : Type}

theorem holding_meets {lock : Lock} {body : Program α}
    {post : α → Journal → Prop} (stable : Journal.Stable post)
    (hbody : ∀ s', Journal.Calm [] s s' →
      s'.left.locks.holder lock = some thread →
      J.protocol.Meets thread body post s') :
    J.protocol.Meets thread (Program.holding lock body) post s := by
  rw [Protocol.meets_holding]
  refine Prospect.act_inward rfl fun channel channel' _ finds answered => ?_
  obtain ⟨_, rfl⟩ := answer_acquire answered
  refine (hbody _ (.acted finds.drifts ⟨_, channel.fields.reader, rfl⟩)
    (by simp [Locks.holder_setHolder])).mono fun value s' hvalue => ?_
  refine Prospect.act_inward rfl fun channel channel' _ finds answered => ?_
  cases answered
  exact stable value s' _ (.acted finds.drifts ⟨_, channel.fields.reader, rfl⟩)
    hvalue

/-- Under the state lock, the fields are those that the thread has left. -/
theorem fields_meets {next : Fields → Operating α}
    {post : Except ChannelError α → Journal → Prop}
    (held : s.left.locks.state = some thread)
    (hnext : ∀ channel, s.Finds J thread .fields channel →
      channel.fields = s.left.fields →
      J.protocol.Meets thread (next s.left.fields).run post
        (s.acted channel channel)) :
    J.protocol.Meets thread (Operating.perform .fields >>= next).run post
      s := by
  refine Prospect.perform_meets rfl fun channel _ _ finds answered => ?_
  have hfields := finds.drifts.fields_eq held
  cases answered
  rw [hfields]
  exact hnext channel finds hfields

theorem put_meets {fields : Fields} {next : Unit → Operating α}
    {post : Except ChannelError α → Journal → Prop}
    (held : s.left.locks.state = some thread)
    (hnext : ∀ channel, s.Finds J thread (.put fields) channel →
      channel.fields = s.left.fields → channel.locks.state = some thread →
      J.protocol.Meets thread (next ()).run post
        (s.acted channel { channel with fields := fields })) :
    J.protocol.Meets thread (Operating.perform (.put fields) >>= next).run post
      s := by
  refine Prospect.perform_meets rfl fun channel _ _ finds answered => ?_
  have hfields := finds.drifts.fields_eq held
  have hlocks := finds.drifts.locks_state held
  cases answered
  exact hnext channel finds hfields hlocks

/-- Writing down who is inside a call. -/
theorem calm_setReader {channel : Channel} {fields : Fields}
    {reader : Option Thread} (drifts : s.left.Drifts thread channel)
    (hfields : channel.fields = fields) :
    Journal.Calm [] s (s.acted channel
      { channel with fields := fields.setSlot .input reader }) := by
  subst hfields
  exact .acted drifts ⟨channel.locks, reader, rfl⟩

end Rules

/-- The system says that the attempt is still under way. -/
def IsPending (answer : Except OsError Unit) : Prop :=
  ∃ errno ∈ Socket.pendingCodes, answer = .error (.code errno)

theorem not_isPending_interrupted :
    ¬IsPending (.error (.code Errno.interrupted)) := by
  rintro ⟨_, hmem, ⟨⟩⟩
  exact absurd hmem (by decide)

theorem judged_eq_inProgress {answer : Except OsError Unit} :
    Socket.judged answer = .ok .inProgress ↔ IsPending answer := by
  rcases answer with (errno | _) | _
  · rw [Socket.judged]
    split_ifs <;> simp_all [IsPending]
  · simp [Socket.judged, IsPending]
  · simp [Socket.judged, IsPending]

theorem judged_eq_interrupted {answer : Except OsError Unit} :
    Socket.judged answer = .ok .interrupted ↔
      answer = .error (.code Errno.interrupted) := by
  rcases answer with (errno | _) | _
  · rw [Socket.judged]
    split_ifs with pending
    · simp only [reduceCtorEq, Except.ok.injEq, false_iff]
      rintro ⟨⟩
      exact not_isPending_interrupted ⟨_, pending, rfl⟩
    · simp_all
    · simp_all
  · simp [Socket.judged]
  · simp [Socket.judged]

/-- What a thread that does not block makes of the answer to its attempt. -/
def finishing (answer : Except OsError Unit) : Except OsError Bool :=
  match Socket.judged answer with
  | .ok .connected => .ok true
  | .ok _ => .ok false
  | .error error =>
      if error.errno? = some Errno.isConnected then .ok true else .error error

theorem finishing_eq_ok_false {answer : Except OsError Unit}
    (final : answer ≠ .error (.code Errno.interrupted)) :
    finishing answer = .ok false ↔ IsPending answer := by
  rw [← judged_eq_inProgress, finishing]
  rw [Ne, ← judged_eq_interrupted] at final
  rcases h : Socket.judged answer with error | _ | _ | _
  · simp only [reduceCtorEq, iff_false]
    split_ifs <;> simp
  · simp
  · simp
  · exact absurd h final

section Parts

variable {J : Prospect} {fd : Fd} {thread : Thread} {blocking : Bool}
  {steady : Prop} {s : Journal}

theorem enter_meets {post : Except ChannelError Unit → Journal → Prop}
    (held : s.left.locks.state = some thread)
    (hpost : ∀ s', Journal.Calm [] s s' → post (.ok ()) s') :
    J.protocol.Meets thread (enter .input).run post s := by
  refine Prospect.perform_meets rfl fun channel _ _ finds answered => ?_
  cases answered
  have held₁ := finds.drifts.locks_state held
  refine fields_meets held₁ fun channel₂ finds₂ _ => ?_
  have held₂ := finds₂.drifts.locks_state held₁
  refine Prospect.act_inward rfl fun channel₃ _ _ finds₃ answered => ?_
  have hfields := finds₃.drifts.fields_eq held₂
  have hsame : channel₂.fields = channel.fields := finds₂.drifts.fields_eq held₁
  cases answered
  refine hpost _ (((Journal.Calm.acted finds.drifts (.refl _)).trans_quiet
    (.acted finds₂.drifts (.refl _))).trans_quiet ?_)
  exact calm_setReader finds₃.drifts (hfields.trans hsame)

def Begun (steady : Prop) (s : Journal) :
    Except ChannelError (Option Record) → Journal → Prop
  | .error _, s' => ¬steady ∧ s'.left.isOpen = false
  | .ok none, s' => ¬steady ∧ s'.Connects
  | .ok (some _), s' => Journal.Calm [] s s'

theorem begun_stable : Journal.Stable (Begun steady s) := by
  rintro (error | _ | record) s' s'' calm h
  · exact ⟨h.1, calm.closed h.2⟩
  · exact ⟨h.1, h.2.of_subset calm.kept⟩
  · exact h.trans_quiet calm

/-- A thread that finds the channel open finds an attempt under way, unless that
has been finished by another thread. -/
theorem beginFinish_meets
    (pending : Lifecycle.connecting.rank ≤ s.left.fields.state.rank) :
    (prospect blocking steady).protocol.Meets thread beginFinish.run
      (Begun steady s) s := by
  refine holding_meets begun_stable fun s₁ calm₁ held => ?_
  rw [meets_run_bind]
  refine Prospect.look_meets (fun channel finds isOpen => ?_)
    fun channel finds closed => ?_
  · have held₁ := finds.drifts.locks_state held
    refine fields_meets held₁ fun channel₂ finds₂ hfields => ?_
    have calm₂ : Journal.Calm [] s
        ((s₁.acted channel channel).acted channel₂ channel₂) :=
      (calm₁.trans_quiet (.acted finds.drifts (.refl _))).trans_quiet
        (.acted finds₂.drifts (.refl _))
    obtain ⟨-, origin, settled⟩ := finds₂.found
    rw [hfields] at origin settled
    rw [meets_run_ite]
    split
    · rename_i connected
      exact ⟨fun h => (settled h).2 rfl connected,
        Journal.connects_acted (hfields ▸ connected)⟩
    rw [meets_run_ite]
    split
    · rename_i connecting
      obtain ⟨address, record, known, encoded⟩ := origin rfl connecting
      simp only [known, encode_of_ok encoded]
      have entered : (prospect blocking steady).protocol.Meets thread
          (do
            enter .input
            pure (some record)).run (Begun steady s)
          ((s₁.acted channel channel).acted channel₂ channel₂) := by
        rw [meets_run_bind]
        exact enter_meets (finds₂.drifts.locks_state held₁) fun s' calm' =>
          calm₂.trans_quiet calm'
      exact entered
    · rename_i connected connecting
      have unconnected := Lifecycle.unconnected_of_isLive
        (finds.live isOpen) connected connecting
      have hrank := pending.trans (calm₁.rank_le.trans finds.drifts.rank_le)
      rw [unconnected] at hrank
      exact absurd hrank (by decide)
  · exact ⟨fun h => by simpa [closed] using (finds.found.2.2 h).1, closed⟩

theorem prospect_opens (h : steady) (channel : Channel)
    (found : (prospect blocking steady).finds .isOpen channel) :
    channel.isOpen = true :=
  (found.2.2 h).1 rfl

/-! ### Asking again -/

theorem connect_meets {record : Record}
    {post : Except OsError ConnectStatus → Journal → Prop}
    (hpost : ∀ answer, post (Socket.judged answer)
      (s.heard ⟨.connect fd record, answer⟩)) :
    J.protocol.Meets thread (Socket.connect fd record) post s := by
  rw [Socket.connect_eq]
  exact hpost

theorem poll_meets {events : Events} {timeout : Int}
    {post : Except OsError PollStatus → Journal → Prop}
    (hpost : ∀ answer result,
      post result (s.heard ⟨.poll fd events timeout, answer⟩)) :
    J.protocol.Meets thread (Socket.poll fd events timeout) post s := by
  intro answer
  cases answer with
  | ok revents => exact hpost _ _
  | error error => exact hpost _ _

/-- What is asked in non-blocking mode, and what comes of it: the last attempt
is the only one that is not interrupted. -/
def Decides (fd : Fd) (record : Record) (asked : List Exchange)
    (result : Except OsError Bool) : Prop :=
  ∃ (interruptions : List (Except OsError Unit)) (answer : Except OsError Unit),
    (∀ interruption ∈ interruptions,
      interruption = .error (.code Errno.interrupted)) ∧
    answer ≠ .error (.code Errno.interrupted) ∧
    asked = (Call.connect fd record).exchanges (interruptions ++ [answer]) ∧
    result = finishing answer

/-- So far, each attempt has been interrupted. -/
def Repeats (fd : Fd) (record : Record) (asked : List Exchange) : Prop :=
  ∃ interruptions : List (Except OsError Unit),
    (∀ interruption ∈ interruptions,
      interruption = .error (.code Errno.interrupted)) ∧
    asked = (Call.connect fd record).exchanges interruptions

theorem Repeats.again {record : Record} {asked : List Exchange}
    (h : Repeats fd record asked) : Repeats fd record (asked ++
      [⟨.connect fd record, .error (.code Errno.interrupted)⟩]) := by
  obtain ⟨interruptions, hinterrupted, rfl⟩ := h
  refine ⟨interruptions ++ [.error (.code Errno.interrupted)],
    fun interruption hmem => ?_, by simp [Call.exchanges]⟩
  obtain hmem | hmem := List.mem_append.mp hmem
  · exact hinterrupted interruption hmem
  · exact List.mem_singleton.mp hmem

theorem Repeats.decides {record : Record} {asked : List Exchange}
    {answer : Except OsError Unit} (h : Repeats fd record asked)
    (final : answer ≠ .error (.code Errno.interrupted)) :
    Decides fd record (asked ++ [⟨.connect fd record, answer⟩])
      (finishing answer) := by
  obtain ⟨interruptions, hinterrupted, rfl⟩ := h
  exact ⟨interruptions, answer, hinterrupted, final, by simp [Call.exchanges],
    rfl⟩

structure Awaited (fd : Fd) (record : Record) (blocking : Bool) (steady : Prop)
    (s : Journal) (result : Except OsError Bool) (s' : Journal) : Prop where
  calm : ∃ asked, Journal.Calm asked s s' ∧
    (blocking = false → steady → Decides fd record asked result)
  closed : result = .ok false → blocking = true → s'.left.isOpen = false

theorem awaitConnection_meets {record : Record} :
    (prospect blocking steady).protocol.Meets thread
      (awaitConnection fd record blocking)
      (Awaited fd record blocking steady s) s := by
  refine meets_loop (fun s' => ∃ asked, Journal.Calm asked s s' ∧
    (blocking = false → Repeats fd record asked))
    (Option.some_ne_none _) ⟨[], .refl s, fun _ => ⟨[], by simp, rfl⟩⟩ ?_
  rintro s₁ ⟨asked, calm, repeats⟩
  rw [meets_bind_eq]
  refine connect_meets fun answer => ?_
  have decided (final : answer ≠ .error (.code Errno.interrupted)) :
      ∃ asked, Journal.Calm asked s (s₁.heard ⟨.connect fd record, answer⟩) ∧
        (blocking = false → steady →
          Decides fd record asked (finishing answer)) :=
    ⟨_, calm.trans (.heard _),
      fun nonBlocking _ => (repeats nonBlocking).decides final⟩
  rw [Ne, ← judged_eq_interrupted, finishing] at decided
  rcases hjudged : Socket.judged answer with error | _ | _ | _
  · simp only [hjudged] at decided
    show (prospect blocking steady).protocol.Meets thread (if _ then _ else _)
      _ _
    rw [meets_ite]
    split at decided
    · rw [if_pos ‹_›]
      exact ⟨decided (by simp), by simp⟩
    · rw [if_neg ‹_›]
      exact ⟨decided (by simp), by simp⟩
  · simp only [hjudged] at decided
    exact ⟨decided (by simp), by simp⟩
  · simp only [hjudged] at decided
    rw [meets_bind_eq]
    refine Prospect.act_inward rfl fun channel _ _ finds answered => ?_
    cases answered
    rw [meets_done, meets_ite]
    have looked := Journal.Calm.acted finds.drifts (.refl channel)
    obtain ⟨asked', calm', hdecided⟩ := decided (by simp)
    split
    · rename_i waits
      simp only [Bool.and_eq_true] at waits
      rw [meets_bind_eq]
      refine poll_meets fun polled result => ?_
      have calm₂ := (calm'.trans_quiet looked).trans (.heard ⟨_, polled⟩)
      cases result with
      | error error => exact ⟨⟨_, calm₂, by simp [waits.1]⟩, by simp⟩
      | ok status =>
          refine Prospect.act_inward rfl fun channel₃ _ _ finds₃ answered => ?_
          cases answered
          have calm₃ :=
            calm₂.trans_quiet (.acted finds₃.drifts (.refl channel₃))
          cases isOpen : channel₃.isOpen with
          | true => exact ⟨_, calm₃, by simp [waits.1]⟩
          | false => exact ⟨⟨_, calm₃, by simp [waits.1]⟩, fun _ _ => isOpen⟩
    · rename_i waits
      refine ⟨⟨_, calm'.trans_quiet looked, hdecided⟩, fun _ isBlocking => ?_⟩
      simpa [isBlocking] using waits
  · refine Prospect.act_inward rfl fun channel _ _ finds answered => ?_
    cases answered
    obtain rfl := judged_eq_interrupted.mp hjudged
    have calm₂ := (calm.trans (.heard _)).trans_quiet
      (.acted finds.drifts (.refl channel))
    cases isOpen : channel.isOpen with
    | true => exact ⟨_, calm₂, fun nonBlocking => (repeats nonBlocking).again⟩
    | false =>
        refine ⟨⟨_, calm₂, fun _ h => ?_⟩, fun _ _ => isOpen⟩
        simpa [isOpen] using (finds.found.2.2 h).1

/-! ### What follows -/

def Left (steady : Prop) (s : Journal) :
    Except ChannelError Unit → Journal → Prop
  | .error _, s' => ¬steady ∧ s'.left.isOpen = false
  | .ok (), s' => Journal.Calm [] s s' ∧ s.left.isOpen ≠ false

/-- A thread that finds the descriptor left to it on leaving finds the channel
closed. -/
theorem leave_meets (opens : steady → ∀ channel, J.finds .isOpen channel →
      channel.isOpen = true) :
    J.protocol.Meets thread (leave .input false).run (Left steady s) s := by
  let Q : Except ChannelError Unit → Journal → Prop := fun result s' =>
    result = .ok () ∧ (Journal.Calm [] s s' ∨ s'.left.isOpen = false)
  have stable : Journal.Stable Q := fun result s₁ s₂ calm ⟨hresult, h⟩ =>
    ⟨hresult, h.imp (·.trans_quiet calm) calm.closed⟩
  rw [leave, meets_run_bind]
  refine (holding_meets stable fun s₁ calm₁ held => ?_).mono ?_
  · refine fields_meets held fun channel finds hfields => ?_
    refine put_meets (finds.drifts.locks_state held)
      fun channel₂ finds₂ hfields₂ _ => ?_
    have hsame : channel₂.fields = s₁.left.fields := hfields₂.trans hfields
    rw [meets_run_ite]
    split
    · rename_i killPending
      have closed : channel₂.isOpen = false := by
        by_contra isOpen
        have live := finds₂.live (by simpa using isOpen)
        rw [hsame, killPending] at live
        cases live
      rw [meets_run_quietly]
      exact (Prospect.maintains_of_isAloof release_isAloof
        (fun drifts hclosed h => hclosed (drifts.closed h)) (fun _ _ h => h)
        closed).mono fun _ _ h => ⟨rfl, .inr h⟩
    · have calm := calm₁.trans_quiet (.acted finds.drifts (.refl _))
      exact ⟨rfl, .inl (calm.trans_quiet (calm_setReader finds₂.drifts hsame))⟩
  · rintro _ s₁ ⟨rfl, h⟩
    refine Prospect.look_meets (fun channel finds isOpen => ?_)
      fun channel finds closed => ?_
    · have unclosed : s₁.left.isOpen ≠ false := fun h => by
        simp [finds.drifts.closed h] at isOpen
      have calm := h.resolve_right unclosed
      exact ⟨calm.trans_quiet (.acted finds.drifts (.refl _)),
        fun h => unclosed (calm.closed h)⟩
    · exact ⟨fun h => by simpa [closed] using opens h _ finds.found, closed⟩

/-- Closing makes no call in which the thread could be blocked. -/
theorem closeAfter_meets {error : ChannelError} {α : Type} :
    J.protocol.Meets thread
      (closeAfter error : Operating α).run (fun result s' =>
        result = .error error ∧ s'.left.isOpen = false ∧
          s'.blocked = s.blocked) s := by
  rw [closeAfter, meets_run_bind, meets_run_quietly]
  refine Prospect.act_inward rfl fun channel _ _ finds answered => ?_
  cases answered
  let I : Journal → Prop := fun s' =>
    s'.left.isOpen = false ∧ s'.blocked = s.blocked
  have rest : J.protocol.Maintains thread I _ :=
    Prospect.maintains_of_isAloof (close_isAloof.2 channel.isOpen)
      (fun drifts hclosed h => ⟨hclosed (drifts.closed h.1), h.2⟩)
      fun answer h hI => ⟨hI.1, (Journal.blocked_heard answer h).trans hI.2⟩
  have closed : I (s.acted channel { channel with isOpen := false }) :=
    ⟨rfl, rfl⟩
  exact (rest closed).mono fun _ _ h => ⟨rfl, h⟩

def Marked (steady : Prop) (s : Journal) :
    Except ChannelError Unit → Journal → Prop
  | .error _, s' => ¬steady ∧ s'.left.isOpen = false
  | .ok (), s' => s'.Connects ∧ s'.blocked = s.blocked

theorem marked_stable : Journal.Stable (Marked steady s) := by
  rintro (error | _) s' s'' calm h
  · exact ⟨h.1, calm.closed h.2⟩
  · refine ⟨h.1.of_subset calm.kept, ?_⟩
    simpa [Journal.blocked, calm.exchanges] using h.2

theorem markConnected_meets {remote : Option Address}
    (opens : steady → ∀ channel, J.finds .isOpen channel →
      channel.isOpen = true) :
    J.protocol.Meets thread (markConnected fd remote).run (Marked steady s)
      s := by
  refine holding_meets marked_stable fun s₁ calm₁ held => ?_
  refine fields_meets held fun channel finds _ => ?_
  have held₁ := finds.drifts.locks_state held
  rw [meets_run_bind]
  refine Prospect.look_meets (fun channel₂ finds₂ isOpen => ?_)
    fun channel₂ finds₂ closed => ?_
  · have held₂ := finds₂.drifts.locks_state held₁
    refine put_meets held₂ fun channel₃ finds₃ _ held₃ => ?_
    have hblocked : s₁.blocked = s.blocked := by
      simp [Journal.blocked, calm₁.exchanges]
    have connects {channel' : Channel}
        (connected : channel'.fields.state = .connected) :
        (((s₁.acted channel channel).acted channel₂ channel₂).acted channel₃
          channel').Connects := Journal.connects_acted connected
    rw [meets_run_ite]
    split
    · refine Prospect.lift_meets fun answer => ?_
      have hasked := (Journal.blocked_heard (s := s₁) answer rfl).trans hblocked
      cases answer with
      | ok record =>
          refine Prospect.act_inward rfl fun channel₄ _ _ finds₄ answered => ?_
          cases answered
          exact ⟨Journal.connects_acted rfl, hasked⟩
      | error error => exact ⟨connects rfl, hasked⟩
    · exact ⟨connects rfl, hblocked⟩
  · exact ⟨fun h => by simpa [closed] using opens h _ finds₂.found, closed⟩

/-! ### The whole of it -/

/-- In non-blocking mode, the system is asked once, but for interruptions.  If
the attempt is still under way, nothing is changed. -/
def AsksOnce (fd : Fd) (result : Except ChannelError Bool) (s : Journal) :
    Prop :=
  ∃ (record : Record) (interruptions : List (Except OsError Unit))
    (answer : Except OsError Unit),
    (∀ interruption ∈ interruptions,
      interruption = .error (.code Errno.interrupted)) ∧
    answer ≠ .error (.code Errno.interrupted) ∧
    s.blocked = (Call.connect fd record).exchanges (interruptions ++ [answer]) ∧
    (result = .ok false ↔ IsPending answer) ∧
    (IsPending answer → ∀ change ∈ s.changes, change.1.Resembles change.2) ∧
    result = (finishing answer).mapError .socket

theorem Decides.asksOnce {record : Record} {asked : List Exchange}
    {result : Except OsError Bool} (decides : Decides fd record asked result)
    (hblocked : s.blocked =
      asked.filter fun exchange => exchange.call.isBlocking)
    (resembles : result = .ok false →
      ∀ change ∈ s.changes, change.1.Resembles change.2) :
    AsksOnce fd (result.mapError .socket) s := by
  obtain ⟨interruptions, answer, hinterrupted, hanswer, rfl, rfl⟩ := decides
  have verdict := finishing_eq_ok_false hanswer
  have hfinal : (finishing answer).mapError ChannelError.socket = .ok false ↔
      finishing answer = .ok false := by
    cases finishing answer <;> simp [Except.mapError]
  refine ⟨record, interruptions, answer, hinterrupted, hanswer, ?_,
    hfinal.trans verdict, fun pending => resembles (verdict.mpr pending), rfl⟩
  exact hblocked.trans (Call.filter_exchanges rfl _)

structure Finished (fd : Fd) (blocking : Bool) (steady : Prop)
    (result : Except ChannelError Bool) (s : Journal) : Prop where
  outcome : match result with
    | .error _ => s.left.isOpen = false
    | .ok true => s.Connects
    | .ok false => blocking = false
  asked : blocking = false → steady → AsksOnce fd result s

theorem finished_stable : Journal.Stable (Finished fd blocking steady) := by
  rintro result s₁ s₂ calm ⟨outcome, asked⟩
  refine ⟨?_, fun nonBlocking h => ?_⟩
  · rcases result with error | _ | _
    · exact calm.closed outcome
    · exact outcome
    · exact Journal.Connects.of_subset outcome calm.kept
  · obtain ⟨record, interruptions, answer, hinterrupted, hanswer, hblocked,
      verdict, resembles, told⟩ := asked nonBlocking h
    refine ⟨record, interruptions, answer, hinterrupted, hanswer, ?_, verdict,
      fun pending change hmem => (calm.changes change hmem).elim
        (resembles pending change) id, told⟩
    simpa [Journal.blocked, calm.exchanges] using hblocked

/-- From the beginning of the operation on, with an attempt that has been
started. -/
theorem finishConnect_meets {channel : Channel}
    (pending : Lifecycle.connecting.rank ≤ channel.fields.state.rank) :
    (prospect blocking steady).protocol.Meets thread
      (Channel.finishConnect fd).run (Finished fd blocking steady)
      { left := channel } := by
  refine holding_meets finished_stable fun s₁ calm₁ _ => ?_
  refine holding_meets finished_stable fun s₂ calm₂ _ => ?_
  have calm := calm₁.trans_quiet calm₂
  rw [meets_run_bind]
  refine (beginFinish_meets (pending.trans calm.rank_le)).mono
    fun result s₃ begun => ?_
  rcases result with error | _ | record
  · exact ⟨begun.2, fun _ h => absurd h begun.1⟩
  · exact ⟨begun.2, fun _ h => absurd h begun.1⟩
  refine Prospect.perform_meets rfl fun channel₃ _ _ finds answered => ?_
  have hblocking := finds.found.1 rfl
  cases answered
  have calm₃ := (calm.trans_quiet begun).trans_quiet
    (.acted finds.drifts (.refl channel₃))
  rw [hblocking]
  refine Prospect.lift_meets (awaitConnection_meets.mono
    fun result s₄ ⟨⟨asked, calm₄, decides⟩, closed⟩ => ?_)
  rw [meets_run_bind]
  refine (leave_meets prospect_opens).mono fun left s₅ hleft => ?_
  obtain error | _ := left
  · exact ⟨hleft.2, fun _ h => absurd h hleft.1⟩
  obtain ⟨calm₅, isOpen⟩ := hleft
  have calm₅ : Journal.Calm asked { left := channel } s₅ := by
    simpa using (calm₃.trans calm₄).trans_quiet calm₅
  have hblocked : s₅.blocked =
      asked.filter fun exchange => exchange.call.isBlocking := by
    simp [Journal.blocked, calm₅.exchanges]
  rcases result with error | _ | _
  · refine closeAfter_meets.mono fun result s₆ ⟨hresult, closed, h⟩ => ?_
    subst hresult
    exact ⟨closed, fun nonBlocking h' =>
      (decides nonBlocking h').asksOnce (h.trans hblocked) (by simp)⟩
  · have nonBlocking : blocking = false := by
      by_contra isBlocking
      exact isOpen (closed rfl (by simpa using isBlocking))
    exact ⟨nonBlocking, fun _ h => (decides nonBlocking h).asksOnce hblocked
      fun _ change hmem => (calm₅.changes change hmem).resolve_left (by simp)⟩
  · rw [meets_run_bind]
    refine (markConnected_meets prospect_opens).mono fun marked s₆ hmarked => ?_
    obtain error | _ := marked
    · exact ⟨hmarked.2, fun _ h => absurd h hmarked.1⟩
    · exact ⟨hmarked.1, fun nonBlocking h => (decides nonBlocking h).asksOnce
        (hmarked.2.trans hblocked) (by simp)⟩

end Parts

end Pending

section Episode

variable {fd : Fd} {before during trace : Trace} {c c' : Config}
  {thread : Thread} {reply : Channel.Reply}

theorem Pending.holds {blocking : Bool} {steady : Prop} (run : Run fd before c)
    (mode : ¬Steps.Sees fd thread c trace c' .isBlocking
      fun channel => channel.isBlocking = !blocking)
    (stays : steady → ¬Steps.Sees fd thread c trace c' .isOpen
      fun channel => channel.isOpen = false)
    (unfinished : steady → ¬Steps.Sees fd thread c trace c' .fields
      fun channel => channel.fields.state = .connected) :
    (prospect blocking steady).Holds fd thread c trace c' := by
  rintro action ⟨past, rest, c₁, c₂, hpast, step, hrest, htrace, unexpected⟩
  have sees {found : Channel → Prop} (h : found c₁.channel) :
      Steps.Sees fd thread c trace c' action found :=
    ⟨past, rest, c₁, c₂, hpast, step, hrest, htrace, h⟩
  refine unexpected ⟨?_, ?_, fun h => ⟨?_, ?_⟩⟩
  · rintro rfl
    by_contra other
    exact mode (sees (Bool.eq_not.mpr other))
  · rintro rfl connecting
    obtain ⟨address, record, _, known, encoded, _⟩ :=
      (run.steps hpast).hasAttempted connecting
    exact ⟨address, record, known, encoded⟩
  · rintro rfl
    by_contra closed
    exact stays h (sees (by simpa using closed))
  · rintro rfl connected
    exact unfinished h (sees connected)

/-- A thread that is between operations holds no lock. -/
theorem Run.unlocked_of_idle (run : Run fd trace c)
    (idle : c.activity thread = .idle) (lock : Lock) :
    c.channel.locks.holder lock ≠ some thread := by
  obtain ⟨S, coherent, keeps⟩ := run.coherent
  have rest : S thread = {} := by
    have hkeeps := keeps thread
    rwa [idle] at hkeeps
  intro held
  cases lock with
  | read =>
      have h := (coherent.locked.read thread).mpr held
      simp [rest] at h
  | write =>
      have h := (coherent.locked.write thread).mpr held
      simp [rest] at h
  | state =>
      have h := coherent.locked.state thread
      have held : c.channel.locks.state = some thread := held
      simp [rest, held] at h

/-- A channel that is open after it has been connected still is. -/
theorem Steps.Turns.connected_of_isOpen {channel channel' : Channel}
    (turns : Steps.Turns fd thread c trace c' channel channel')
    (run : Run fd before c) (connected : channel'.fields.state = .connected)
    (isOpen : c'.channel.isOpen = true) :
    c'.channel.fields.state = .connected := by
  obtain ⟨past, action, rest, c₁, c₂, hpast, step, hrest, -, -, rfl⟩ := turns
  have run₂ := run.steps (hpast.tail step)
  have hrank := hrest.rank_le run₂
  obtain ⟨S, coherent, _⟩ := (run₂.steps hrest).coherent
  have hlive := Lifecycle.rank_le_connected (coherent.phased.live isOpen)
  rw [connected] at hrank
  cases h : c'.channel.fields.state <;> simp_all [Lifecycle.rank]

theorem Pending.program_meets {blocking : Bool} {steady : Prop}
    {channel : Channel} (connecting : channel.fields.state = .connecting) :
    (prospect blocking steady).protocol.Meets thread
      (Channel.Operation.finishConnect.program fd)
      (fun reply s => ∃ result, Finished fd blocking steady result s ∧
        reply = match result with
          | .ok value => .isConnected value
          | .error error => .failed error)
      { left := channel } := by
  show (prospect blocking steady).protocol.Meets thread
    (Channel.reply .isConnected (Channel.finishConnect fd)) _ _
  rw [Protocol.meets_reply]
  refine (finishConnect_meets (by rw [connecting])).mono
    fun result s finished => ?_
  cases result with
  | ok value => exact ⟨.ok value, finished, rfl⟩
  | error error => exact ⟨.error error, finished, rfl⟩

/-- In blocking mode, the connection is established at the end or the channel is
closed. -/
theorem Episode.finished_blocking
    (episode : Episode fd thread .finishConnect c during reply c')
    (run : Run fd before c) (connecting : c.channel.fields.state = .connecting)
    (holds : (Pending.prospect true False).Holds fd thread c
      (during.framed thread .finishConnect reply) c') :
    (reply = .isConnected true ∧ ∃ channel channel',
      Steps.Turns fd thread c (during.framed thread .finishConnect reply) c'
        channel channel' ∧ channel'.fields.state = .connected) ∨
    ∃ error, reply = .failed error ∧ c'.channel.isOpen = false := by
  obtain ⟨s, ⟨result, ⟨outcome, _⟩, rfl⟩, tells⟩ :=
    episode.journal run (Pending.program_meets connecting) False.elim holds
  rcases result with error | _ | _
  · exact .inr ⟨error, rfl, tells.drifts.closed outcome⟩
  · cases outcome
  · obtain ⟨change, hmem, connected⟩ := outcome
    exact .inl ⟨rfl, _, _, tells.turns change hmem, connected⟩

/-- If the connection is not established, the thread has changed nothing. -/
theorem Episode.unchanged_of_unfinished {channel channel' : Channel}
    (episode : Episode fd thread .finishConnect c during (.isConnected false)
      c') (run : Run fd before c)
    (connecting : c.channel.fields.state = .connecting)
    (holds : (Pending.prospect false True).Holds fd thread c
      (during.framed thread .finishConnect (.isConnected false)) c')
    (turns : Steps.Turns fd thread c
      (during.framed thread .finishConnect (.isConnected false)) c' channel
      channel') : channel.Resembles channel' := by
  obtain ⟨s, ⟨result, ⟨_, asked⟩, hreply⟩, hmem, _⟩ :=
    episode.journal_of_turns run (Pending.program_meets connecting) False.elim
      holds turns
  obtain ⟨_, _, answer, _, _, _, verdict, resembles, _⟩ := asked rfl trivial
  refine resembles (verdict.mp ?_) _ hmem
  rcases result with error | _ | _
  · cases hreply
  · rfl
  · cases hreply

/-- A connection attempt that is under way is finished in a way that depends on
the mode, whatever the system answers and other threads do.  A thread that finds
the channel blocking comes back with the connection established, or fails and
leaves the channel closed.  One that finds it non-blocking, and open whenever it
looks, with the attempt not finished by somebody else, makes a single call that
is not interrupted, an attempt to connect, and reports that the connection is
not established just if that is what the system says; it then has changed
nothing but who uses the channel, which it no longer does. -/
theorem pending_connection_finished (run : Run fd before c)
    (connecting : c.channel.fields.state = .connecting)
    (episode : Episode fd thread .finishConnect c during reply c') :
    (¬Steps.Sees fd thread c (during.framed thread .finishConnect reply) c'
        .isBlocking (fun channel => channel.isBlocking = false) →
      (reply = .isConnected true ∧
        (∃ channel channel', Steps.Turns fd thread c
          (during.framed thread .finishConnect reply) c' channel channel' ∧
          channel'.fields.state = .connected) ∧
        (c'.channel.isOpen = true → c'.channel.fields.state = .connected)) ∨
      ∃ error, reply = .failed error ∧ c'.channel.isOpen = false) ∧
    (¬Steps.Sees fd thread c (during.framed thread .finishConnect reply) c'
        .isBlocking (fun channel => channel.isBlocking = true) →
      ¬Steps.Sees fd thread c (during.framed thread .finishConnect reply) c'
        .isOpen (fun channel => channel.isOpen = false) →
      ¬Steps.Sees fd thread c (during.framed thread .finishConnect reply) c'
        .fields (fun channel => channel.fields.state = .connected) →
      ∃ (record : Record) (interruptions : List (Except OsError Unit))
        (answer : Except OsError Unit),
        (∀ interruption ∈ interruptions,
          interruption = .error (.code Errno.interrupted)) ∧
        answer ≠ .error (.code Errno.interrupted) ∧
        ((during.exchanges thread).filter
            fun exchange => exchange.call.isBlocking) =
          (Call.connect fd record).exchanges (interruptions ++ [answer]) ∧
        (reply = .isConnected false ↔ Pending.IsPending answer) ∧
        (Pending.IsPending answer →
          (∀ channel channel', Steps.Turns fd thread c
            (during.framed thread .finishConnect reply) c' channel channel' →
            channel.Resembles channel') ∧
          (∀ lock, c'.channel.locks.holder lock ≠ some thread) ∧
          thread ∉ c'.channel.fields.threads)) ∧
    during.calls thread = (during.exchanges thread).map Exchange.call := by
  refine ⟨fun blocking => ?_, fun nonBlocking stays unfinished => ?_, ?_⟩
  · have holds : (Pending.prospect true False).Holds fd thread c _ c' :=
      Pending.holds run blocking False.elim False.elim
    refine (episode.finished_blocking run connecting holds).imp_left ?_
    rintro ⟨hreply, channel, channel', turns, connected⟩
    exact ⟨hreply, ⟨channel, channel', turns, connected⟩,
      turns.connected_of_isOpen run connected⟩
  · have holds : (Pending.prospect false True).Holds fd thread c _ c' :=
      Pending.holds run nonBlocking (fun _ => stays) fun _ => unfinished
    obtain ⟨s, ⟨result, ⟨_, asked⟩, rfl⟩, tells⟩ := episode.journal run
      (Pending.program_meets connecting) False.elim holds
    obtain ⟨record, interruptions, answer, hinterrupted, hanswer, hblocked,
      verdict, _⟩ := asked rfl trivial
    refine ⟨record, interruptions, answer, hinterrupted, hanswer,
      tells.exchanges ▸ hblocked, ?_, fun pending => ?_⟩
    · rw [← verdict]
      rcases result with error | _ | _
      · simp
      · exact iff_of_true rfl rfl
      · simp
    · obtain rfl := verdict.mpr pending
      have run' := run.steps episode.steps
      have idle : c'.activity thread = .idle := by
        obtain ⟨_, _, _, _, ended⟩ := episode.passes
        exact ended.idle_of_ended
      exact ⟨fun _ _ turns =>
          episode.unchanged_of_unfinished run connecting holds turns,
        run'.unlocked_of_idle idle, run'.not_recorded_of_idle idle⟩
  · exact episode.calls_eq

end Episode

/-! ## An attempt that stays under way -/

def Event.setsMode : Event → Bool
  | acted _ (.setBlocking _) => true
  | _ => false

theorem Steps.isBlocking_eq {fd : Fd} {before trace : Trace} {c c' : Config}
    (steps : Steps fd c trace c') (run : Run fd before c)
    (unset : ∀ event ∈ trace, event.setsMode = false) :
    c'.channel.isBlocking = c.channel.isBlocking := by
  induction steps with
  | refl => rfl
  | @tail past events _ _ hpast step ih =>
      have before := ih fun event hmem =>
        unset event (List.mem_append_left _ hmem)
      refine (step.isBlocking_eq (run.steps hpast) ?_).trans before
      rintro thread blocking rfl
      have hunset := unset (.acted thread (.setBlocking blocking)) (by simp)
      cases hunset

/-- A connection is under way. -/
def untilStarted : List Move :=
  [[.begin 1 (.configureBlocking false)], Move.steps 1 7,
    [.answer 1 fun
      | .setNonBlocking .. => .ok ()
      | _ => .error (.code Errno.again)],
    Move.steps 1 5, [.begin 1 (.connect ⟨[47]⟩)], Move.steps 1 11,
    [.answer 1 fun _ => .error (.code Errno.inProgress)],
    Move.steps 1 13].flatten

/-- The thread asks, is interrupted, and asks again: it is still under way. -/
def untilAskedTwice : List Move :=
  [Move.steps 1 12, [.answer 1 fun _ => .error (.code Errno.interrupted)],
    Move.steps 1 3, [.answer 1 fun _ => .error (.code Errno.already)],
    Move.steps 1 8].flatten

theorem untilStarted_isSome :
    ((Config.start (.owning 3 .unconnected true)).play 3
      untilStarted).isSome = true := by
  decide +kernel

def started : Trace × Config :=
  ((Config.start (.owning 3 .unconnected true)).play 3 untilStarted).get
    untilStarted_isSome

theorem run_started : Run 3 started.1 started.2 :=
  ⟨_, .created, Config.steps_get untilStarted_isSome⟩

theorem started_move_isSome :
    (started.2.move 3 (.begin 1 .finishConnect)).isSome = true := by
  decide +kernel

def resumed : Trace × Config :=
  (started.2.move 3 (.begin 1 .finishConnect)).get started_move_isSome

theorem untilAskedTwice_isSome :
    (resumed.2.play 3 untilAskedTwice).isSome = true := by
  decide +kernel

def askedTwice : Trace × Config :=
  (resumed.2.play 3 untilAskedTwice).get untilAskedTwice_isSome

theorem askedTwice_move_isSome :
    (askedTwice.2.move 3 (.step 1)).isSome = true := by
  decide +kernel

def leftPending : Trace × Config :=
  (askedTwice.2.move 3 (.step 1)).get askedTwice_move_isSome

theorem episode_leftPending : Episode 3 1 .finishConnect started.2 askedTwice.1
    (.isConnected false) leftPending.2 := by
  have began : Step 3 started.2 [.began 1 .finishConnect] resumed.2 :=
    Config.step_get started_move_isSome
  have ended : Step 3 askedTwice.2
      [.ended 1 .finishConnect (.isConnected false)] leftPending.2 :=
    Config.step_get askedTwice_move_isSome
  exact ⟨⟨_, _, began, Config.steps_get untilAskedTwice_isSome, ended⟩,
    Trace.isWithin_of_all (by decide +kernel)⟩

theorem connection_left_pending :
    started.2.channel.fields.state = .connecting ∧
      ∃ (record : Record) (interruptions : List (Except OsError Unit))
        (answer : Except OsError Unit),
        ((askedTwice.1.exchanges 1).filter
            fun exchange => exchange.call.isBlocking) =
          (Call.connect 3 record).exchanges (interruptions ++ [answer]) ∧
        Pending.IsPending answer ∧
        ∀ channel channel', Steps.Turns 3 1 started.2
          (askedTwice.1.framed 1 .finishConnect (.isConnected false))
          leftPending.2 channel channel' → channel.Resembles channel' := by
  have connecting : started.2.channel.fields.state = .connecting := by
    decide +kernel
  have finished := pending_connection_finished run_started connecting
    episode_leftPending
  have nonBlocking : started.2.channel.isBlocking = false := by decide +kernel
  have isOpen : leftPending.2.channel.isOpen = true := by decide +kernel
  have still : leftPending.2.channel.fields.state = .connecting := by
    decide +kernel
  have unset : ∀ event ∈ askedTwice.1.framed 1 .finishConnect
      (.isConnected false), event.setsMode = false := by
    decide +kernel
  obtain ⟨record, interruptions, answer, _, _, exchanges, verdict, unchanged⟩ :=
    finished.2.1
      (by
        rintro ⟨past, rest, c₁, _, hpast, _, _, htrace, blocking⟩
        have mode := hpast.isBlocking_eq run_started fun event hmem =>
          unset event (by simp [htrace, hmem])
        simp [blocking, nonBlocking] at mode)
      (by
        rintro ⟨past, rest, c₁, _, hpast, step, hrest, _, closed⟩
        have closed := ((Steps.single step).trans hrest).closed
          (run_started.steps hpast) closed
        simp [isOpen] at closed)
      (by
        rintro ⟨past, rest, c₁, _, hpast, step, hrest, _, connected⟩
        have hrank := ((Steps.single step).trans hrest).rank_le
          (run_started.steps hpast)
        rw [connected, still] at hrank
        exact absurd hrank (by decide))
  exact ⟨connecting, record, interruptions, answer, exchanges,
    verdict.mp rfl, (unchanged (verdict.mp rfl)).1⟩

end LocalSocket
