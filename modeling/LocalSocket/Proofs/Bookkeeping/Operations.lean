import LocalSocket.Proofs.Bookkeeping
import LocalSocket.Proofs.Ordinary

/-!
# All operations keep the books

Most operations have nothing to do with the books, or write them under a lock
that they have looked under before.  Connecting is different: between the look
and the write, the state lock is given up for a call; what is still known then
is that nobody else has connected the channel.
-/

namespace LocalSocket.Ledger

open Protocol Channel

variable {fd : Fd} {thread : Thread} {s : Ledger} {fields : Fields}
  {operation : Channel.Operation} {α β : Type}

/-! ## Connecting -/

theorem encode_meets {address : Address}
    {post : Except ChannelError Record → Ledger → Prop}
    (encoded : ∀ record, Record.ofAddress address = .ok record →
      post (.ok record) s)
    (refused : ∀ fault, post (.error (.invalidPath address.path fault)) s) :
    (bookkeeping fd).Meets thread (encode address).run post s := by
  rw [encode]
  split
  · exact encoded _ ‹_›
  · exact refused _

theorem Retains.permits_connect {s' : Ledger} {other : Fd} {record : Record}
    (h : s.Retains s') (permits : s.Permits fd (.connect other record)) :
    s'.Permits fd (.connect other record) := by
  obtain ⟨hfd, address, encoded,
    ⟨current, apart⟩ | ⟨current, remote⟩⟩ := permits
  · exact ⟨hfd, address, encoded,
      .inl ⟨h.operation.trans current, h.apart apart⟩⟩
  · exact ⟨hfd, address, encoded,
      .inr ⟨h.operation.trans current, h.remote address remote⟩⟩

theorem socketConnect_retains {record : Record}
    (permits : s.Permits fd (.connect fd record)) :
    (bookkeeping fd).Maintains thread s.Retains
      (Socket.connect fd record) := by
  rw [Knowledge.socketConnect_eq]
  refine maintains_bind (maintains_perform fun s' h => ?_)
    fun _ => maintains_pure _
  refine act_of_calm h.due ⟨h.permits_connect permits, fun answer => ?_⟩
  rwa [learn_eq h.due fun _ => rfl]

theorem lookOpen_retains : (bookkeeping fd).Maintains thread s.Retains
    (Program.perform .isOpen) :=
  maintains_perform fun _ h => act_of_calm h.due fun _ _ => h

theorem attempt_retains {record : Record}
    (permits : s.Permits fd (.connect fd record)) :
    (bookkeeping fd).Maintains thread s.Retains
      (Channel.attempt fd record) := by
  refine maintains_loop (by nofun) (maintains_bind
    (socketConnect_retains permits) fun result => ?_) maintains_pure
  split
  · exact maintains_bind lookOpen_retains fun _ => maintains_pure _
  · exact maintains_pure _

theorem socketPoll_retains {events : Events} {timeout : Int} :
    (bookkeeping fd).Maintains thread s.Retains
      (Socket.poll fd events timeout) := by
  refine maintains_bind (maintains_perform fun s' h => ?_) fun answer => ?_
  · refine act_of_calm h.due ⟨trivial, fun answer => ?_⟩
    rwa [learn_eq h.due fun _ => rfl]
  · cases answer <;> exact maintains_pure _

theorem awaitConnection_retains {record : Record} {blocking : Bool}
    (permits : s.Permits fd (.connect fd record)) :
    (bookkeeping fd).Maintains thread s.Retains
      (awaitConnection fd record blocking) := by
  refine maintains_loop (by nofun) (maintains_bind
    (socketConnect_retains permits) fun result => ?_) maintains_pure
  rcases result with error | _ | _ | _
  · dsimp only
    split <;> exact maintains_pure _
  · exact maintains_pure _
  · refine maintains_bind lookOpen_retains fun isOpen => ?_
    split
    · refine maintains_bind socketPoll_retains fun polled => ?_
      cases polled with
      | error error => exact maintains_pure _
      | ok => exact maintains_bind lookOpen_retains fun _ => maintains_pure _
    · exact maintains_pure _
  · exact maintains_bind lookOpen_retains fun _ => maintains_pure _

/-- A thread that still finds the channel open knows what that means for the
fields. -/
theorem ensureStillOpen_meets {post : Except ChannelError Unit → Ledger → Prop}
    (calm : s.due = none) (closed : ∀ error, post (.error error) s)
    (still : (∀ fields, s.fields = some fields → fields.state.isLive = true) →
      post (.ok ()) s) :
    (bookkeeping fd).Meets thread ensureStillOpen.run post s := by
  rw [ensureStillOpen, meets_run_bind]
  refine act_of_calm calm fun isOpen live => ?_
  cases isOpen with
  | true => exact still (live rfl)
  | false => exact closed _

theorem eq_unconnected {state : Lifecycle} (live : state.isLive = true)
    (unattached : state.isUnattached = true) : state = .unconnected := by
  cases state <;> simp_all [Lifecycle.isLive, Lifecycle.isUnattached]

/-- Becoming connected takes a reason for the state and the remote address; the
local address is recorded on the way. -/
theorem markConnected_meets {remote : Option Address}
    (calm : IsCalm operation s)
    (revises : ∀ fields, fields.state.isLive = true →
      (s.apart = true → fields.state.isUnattached = true) →
      (∀ address, s.remote = some address →
        fields.remoteAddress = some address) →
      (s.see fields).Revision fields { fields with
        state := .connected
        remoteAddress := remote <|> fields.remoteAddress }) :
    (bookkeeping fd).Meets thread (markConnected fd remote).run
      (fun _ => IsCalm operation) s := by
  refine calm.section_meets (fields_meets calm.due fun fields apart seen => ?_)
  have sees : IsCalm operation (s.see fields) :=
    ⟨calm.current, calm.settled, calm.due⟩
  rw [meets_run_bind]
  refine ensureStillOpen_meets calm.due (fun _ => sees) fun live => ?_
  rw [meets_run_bind]
  refine sees.put rfl rfl (revises fields (live fields rfl) apart seen)
    fun marked => ?_
  rw [meets_run_ite]
  split
  · rename_i unnamed
    rw [meets_run_bind, meets_run_lift]
    refine act_of_calm rfl ⟨trivial, fun answer => ?_⟩
    rw [learn_eq rfl fun _ => rfl]
    cases answer with
    | error error => exact marked
    | ok record =>
        exact marked.put rfl rfl (.named (Option.isNone_iff_eq_none.mp unnamed))
          id
  · exact marked

/-- The channel is unattached when a connection is begun, and stays so while the
thread holds the read lock. -/
theorem beginConnect_meets {post : Except ChannelError Unit → Ledger → Prop}
    (calm : IsCalm operation s) (alone : s.holdsRead = true)
    (begun : ∀ s', s.Retains s' → s'.apart = true → post (.ok ()) s')
    (stopped : ∀ error s', s.Retains s' → post (.error error) s') :
    (bookkeeping fd).Meets thread beginConnect.run post s := by
  rw [beginConnect, meets_run_holding]
  have leaves : ∀ result s', s.Retains s' →
      (∀ s', s.Retains s' → post result s') →
      (bookkeeping fd).act thread s' (.release .state)
        fun _ s'' => post result s'' :=
    fun result s' h hpost => act_of_calm h.due (hpost _ h.unlock)
  refine act_of_calm calm.due ?_
  rw [meets_run_bind]
  refine ensureOpen_retains.meets (.refl calm.due) fun result s₁ h₁ => ?_
  cases result with
  | error error => exact leaves _ _ h₁ fun _ h => stopped error _ h
  | ok =>
      refine fields_meets h₁.due fun fields apart seen => ?_
      have sees : s.Retains (s₁.see fields) := h₁.see seen
      simp only [meets_run_ite]
      split
      · exact leaves _ _ sees fun _ h => stopped _ _ h
      · rename_i hconnected
        split
        · exact leaves _ _ sees fun _ h => stopped _ _ h
        · rename_i hconnecting
          have unattached : fields.state.isUnattached = true := by
            cases hstate : fields.state <;>
              simp_all [Lifecycle.isUnattached]
          have hseen : (s₁.see fields).apart = true := by
            simp [Ledger.see, h₁.holdsRead, alone, unattached]
          refine (enter_retains (sees.settled calm.settled)).meets
            (.refl sees.due) fun result s₂ h₂ => act_of_calm h₂.due ?_
          have h₂' := (sees.trans h₂).unlock
          cases result with
          | error error => exact stopped error _ h₂'
          | ok => exact begun _ h₂' (h₂.apart hseen)

/-- What the thread that has found the channel unattached makes of it. -/
theorem attempted_revision {address : Address} {record : Record}
    {state : Lifecycle} (current : s.operation = some (.connect address))
    (encoded : Record.ofAddress address = .ok record)
    (alone : s.holdsRead = true) (live : fields.state.isLive = true)
    (unattached : fields.state.isUnattached = true)
    (attached : state = .connecting ∨ state = .connected) :
    s.Revision fields
      { fields with state := state, remoteAddress := some address } :=
  .attempted current encoded alone (eq_unconnected live unattached) attached

theorem markPending_meets {address : Address} {record : Record}
    (calm : IsCalm (.connect address) s) (alone : s.holdsRead = true)
    (apart : s.apart = true) (encoded : Record.ofAddress address = .ok record) :
    (bookkeeping fd).Meets thread
      (ExceptT.run (Operating.holding .state do
        let fields ← Operating.perform .fields
        ensureStillOpen
        Operating.perform (.put { fields with
          state := .connecting, remoteAddress := some address })))
      (fun _ => IsCalm (.connect address)) s := by
  refine calm.section_meets (fields_meets calm.due
    fun fields unattached seen => ?_)
  have sees : IsCalm (.connect address) (s.see fields) :=
    ⟨calm.current, calm.settled, calm.due⟩
  rw [meets_run_bind]
  refine ensureStillOpen_meets calm.due (fun _ => sees) fun live => ?_
  exact sees.put rfl rfl (attempted_revision calm.current encoded alone
    (live fields rfl) (unattached apart) (.inl rfl)) id

/-- Nobody else connects the channel while a thread holds the read lock. -/
theorem IsCalm.alone {body : Operating α} (calm : IsCalm operation s)
    (h : (bookkeeping fd).Meets thread body.run (fun _ => IsCalm operation)
      { s with holdsRead := true }) :
    (bookkeeping fd).Meets thread
      (Operating.holding .read (Operating.holding .write body)).run
      (fun _ => IsCalm operation) s := by
  simp only [meets_run_holding]
  exact act_of_calm calm.due (act_of_calm calm.due (h.mono fun _ _ calm' =>
    act_of_calm calm'.due (act_of_calm calm'.due
      ⟨calm'.current, calm'.settled, calm'.due⟩)))

theorem connect_roams (address : Address) :
    Roams fd thread (.connect address) (Channel.connect fd address).run := by
  intro s calm
  rw [Channel.connect, meets_run_bind]
  refine encode_meets (fun record encoded => ?_) fun _ => calm
  have alone : IsCalm (.connect address) { s with holdsRead := true } :=
    ⟨calm.current, calm.settled, calm.due⟩
  refine calm.alone ?_
  simp only [meets_run_bind, meets_run_lift]
  refine beginConnect_meets alone rfl (fun s₁ h₁ apart₁ => ?_)
    fun _ _ h₁ => h₁.calm alone
  have calm₁ := h₁.calm alone
  refine (attempt_retains ⟨rfl, address, encoded,
    .inl ⟨calm₁.current, apart₁⟩⟩).meets (.refl calm₁.due)
      fun result s₂ h₂ => ?_
  have calm₂ := h₂.calm calm₁
  refine (leave_retains calm₂.settled).meets (.refl calm₂.due)
    fun left s₃ h₃ => ?_
  have calm₃ := h₃.calm calm₂
  have alone₃ : s₃.holdsRead = true :=
    h₃.holdsRead.trans (h₂.holdsRead.trans h₁.holdsRead)
  have apart₃ := h₃.apart (h₂.apart apart₁)
  cases left with
  | error error => exact calm₃
  | ok =>
      rcases result with error | _ | _ | _
      · exact closeAfter_roams _ calm₃
      · rw [meets_run_bind]
        refine (markConnected_meets calm₃ ?_).mono fun result _ calm₄ => ?_
        · exact fun fields live unattached _ => attempted_revision
            calm₃.current encoded alone₃ live (unattached apart₃) (.inr rfl)
        · cases result <;> exact calm₄
      · rw [meets_run_bind]
        refine (markPending_meets calm₃ alone₃ apart₃ encoded).mono
          fun result _ calm₄ => ?_
        cases result <;> exact calm₄
      · exact calm₃

theorem beginFinish_meets
    {post : Except ChannelError (Option Record) → Ledger → Prop}
    (calm : IsCalm operation s)
    (begun : ∀ address record s', Record.ofAddress address = .ok record →
      s.Retains s' → s'.remote = some address → post (.ok (some record)) s')
    (stopped : ∀ result s', s.Retains s' →
      (∀ record, result ≠ .ok (some record)) → post result s') :
    (bookkeeping fd).Meets thread beginFinish.run post s := by
  show (bookkeeping fd).Meets thread (Operating.holding .state _).run post s
  rw [meets_run_holding]
  have stops : ∀ result s', s.Retains s' →
      (∀ record, result ≠ .ok (some record)) →
      (bookkeeping fd).act thread s' (.release .state)
        fun _ s'' => post result s'' :=
    fun result s' h hne => act_of_calm h.due (stopped _ _ h.unlock hne)
  refine act_of_calm calm.due ?_
  rw [meets_run_bind]
  refine ensureOpen_retains.meets (.refl calm.due) fun result s₁ h₁ => ?_
  cases result with
  | error error => exact stops _ _ h₁ nofun
  | ok =>
      refine fields_meets h₁.due fun fields apart seen => ?_
      have sees : s.Retains (s₁.see fields) := h₁.see seen
      simp only [meets_run_ite]
      split
      · exact stops _ _ sees nofun
      · split
        · cases hremote : fields.remoteAddress with
          | none => exact stops _ _ sees nofun
          | some address =>
              simp only [meets_run_bind]
              refine encode_meets (fun record encoded => ?_)
                fun _ => stops _ _ sees nofun
              refine (enter_retains (sees.settled calm.settled)).meets
                (.refl sees.due) fun result s₂ h₂ => ?_
              have h₂' := sees.trans h₂
              cases result with
              | error error => exact stops _ _ h₂' nofun
              | ok =>
                  exact act_of_calm h₂.due (begun address record _ encoded
                    h₂'.unlock (h₂.remote address hremote))
        · exact stops _ _ sees nofun

theorem finishConnect_roams :
    Roams fd thread .finishConnect (Channel.finishConnect fd).run := by
  intro s calm
  have alone : IsCalm .finishConnect { s with holdsRead := true } :=
    ⟨calm.current, calm.settled, calm.due⟩
  rw [Channel.finishConnect]
  refine calm.alone ?_
  rw [meets_run_bind]
  refine beginFinish_meets alone
    (fun address record s₁ encoded h₁ remote₁ => ?_) fun result s₁ h₁ hne => ?_
  · have calm₁ := h₁.calm alone
    simp only [meets_run_bind, meets_run_lift]
    refine act_of_calm calm₁.due fun blocking => ?_
    have looks : s₁.Retains
        { s₁ with blocking := s₁.fields.map fun _ => blocking } :=
      (Retains.refl calm₁.due).looked
    refine (awaitConnection_retains ⟨rfl, address, encoded,
      .inr ⟨calm₁.current, remote₁⟩⟩).meets looks fun result s₂ h₂ => ?_
    have calm₂ := h₂.calm calm₁
    refine (leave_retains calm₂.settled).meets (.refl calm₂.due)
      fun left s₃ h₃ => ?_
    have calm₃ := h₃.calm calm₂
    have alone₃ : s₃.holdsRead = true :=
      h₃.holdsRead.trans (h₂.holdsRead.trans h₁.holdsRead)
    have remote₃ := h₃.remote address (h₂.remote address remote₁)
    cases left with
    | error error => exact calm₃
    | ok =>
        rcases result with error | _ | _
        · exact closeAfter_roams _ calm₃
        · exact calm₃
        · rw [meets_run_bind]
          refine (markConnected_meets calm₃ ?_).mono fun result _ calm₄ => ?_
          · exact fun fields _ _ seen =>
              .finished calm₃.current alone₃ (seen address remote₃)
          · cases result <;> exact calm₄
  · have calm₁ := h₁.calm alone
    rcases result with error | _ | record
    · exact calm₁
    · exact calm₁
    · exact absurd rfl (hne record)

/-! ## Modes, addresses and directions -/

theorem configureBlocking_roams (blocking : Bool) :
    Roams fd thread operation (configureBlocking fd blocking).run := by
  refine roams_holding (roams_holding (roams_holding ?_))
  refine maintains_run_bind ensureOpen_roams fun _ => ?_
  refine maintains_run_bind (roams_look rfl) fun isBlocking => ?_
  split
  · exact roams_pure _
  · refine roams_fields fun fields s known calm => ?_
    rw [meets_run_ite]
    split
    · exact calm
    · rename_i allowed
      have unguarded : blocking = true → fields.registrations = 0 := by
        rintro rfl
        simpa using allowed
      rw [meets_run_bind, meets_run_onSocket]
      refine act_of_calm calm.due ⟨⟨rfl, fields, known, fun h =>
        unguarded (by simpa using h)⟩, fun answer => ?_⟩
      cases answer with
      | error error =>
          rw [learn_eq calm.due fun _ => rfl]
          exact calm
      | ok =>
          have hdue : (s.learn (.setNonBlocking fd !blocking) (.ok ())).due =
              some (.setBlocking blocking) := by
            simp [learn, known, Call.due?]
          refine ⟨fun next hnext => ?_, hdue, ⟨fields, known, unguarded⟩,
            calm.current, calm.settled, rfl⟩
          exact Option.some.inj (hdue.symm.trans hnext)

theorem bindLocked_roams (address : Option Address) :
    Roams fd thread operation (bindLocked fd address).run := by
  refine maintains_run_bind ensureOpen_roams fun _ => ?_
  refine roams_fields fun fields s known calm => ?_
  simp only [meets_run_ite]
  split
  · exact calm
  · split
    · exact calm
    · rename_i unbound
      rw [meets_run_bind]
      refine encode_meets (fun record _ => ?_) fun _ => calm
      simp only [meets_run_bind, meets_run_lift]
      refine act_of_calm calm.due ⟨trivial, fun bound => ?_⟩
      rw [learn_eq calm.due fun _ => rfl]
      cases bound with
      | error error => exact calm
      | ok =>
          refine act_of_calm calm.due ⟨trivial, fun named => ?_⟩
          rw [learn_eq calm.due fun _ => rfl]
          cases named with
          | error error => exact calm
          | ok record =>
              exact calm.put known rfl (.named (by simpa using unbound)) id

theorem shutdown_roams (direction : Direction) : Roams fd thread
    (.shutdown direction) (Channel.shutdown fd direction).run := by
  refine roams_holding (maintains_run_bind ensureOpen_roams fun _ => ?_)
  refine roams_fields fun fields s known calm => ?_
  simp only [meets_run_ite]
  split
  · exact calm
  · rename_i connected
    split
    · rename_i isOpen
      rw [meets_run_bind, meets_run_onSocket]
      refine act_of_calm calm.due ⟨⟨rfl, fields, direction, known,
        Shutdown.direction?_how direction, calm.current,
        Decidable.not_not.mp connected, isOpen⟩, fun answer => ?_⟩
      cases answer with
      | error error =>
          rw [learn_eq calm.due fun _ => rfl]
          exact calm
      | ok =>
          have hdue : (s.learn (.shutdown fd (Direction.how direction))
              (.ok ())).due = some (.put (fields.shutDirection direction)) := by
            simp [learn, known, Call.due?, Shutdown.direction?_how]
          refine ⟨fun next hnext => Option.some.inj (hdue.symm.trans hnext),
            fields, known, .aside calm.settled ?_, .shut calm.current hdue,
            calm.current, fun other hother => ?_, rfl⟩
          · exact Fields.shutDirection_registrations ..
          · exact ⟨(calm.settled other hother).1, fun _ => rfl⟩
    · exact calm

theorem remoteAddress_roams :
    Roams fd thread operation (Channel.remoteAddress fd).run := by
  refine roams_holding (maintains_run_bind ensureOpen_roams fun _ => ?_)
  refine roams_fields fun fields s known calm => ?_
  rw [meets_run_ite]
  split
  · rename_i unknown
    obtain ⟨unknown, connected⟩ : fields.remoteAddress = none ∧
        fields.state = .connected := by simpa using unknown
    rw [meets_run_bind, meets_run_onSocket]
    refine act_of_calm calm.due
      ⟨⟨rfl, fields, known, unknown, connected⟩, fun answer => ?_⟩
    rw [learn_eq calm.due fun _ => rfl]
    cases answer with
    | error error => exact calm
    | ok record => exact calm.put known rfl (.looked unknown connected) id
  · exact calm

theorem bind_roams (address : Option Address) :
    Roams fd thread operation (Channel.bind fd address).run := by
  refine roams_holding (roams_holding ?_)
  refine maintains_run_bind (roams_holding (bindLocked_roams address)) fun
    | none => roams_pure _
    | some error => closeAfter_roams _

/-! ## All operations -/

theorem isFree_of_isOrdinary {action : Action} (h : action.isOrdinary = true) :
    isFree action = true := by
  cases action with
  | call call => cases call <;> first | rfl | cases h
  | put | setBlocking | own => cases h
  | _ => rfl

theorem hosts (fd : Fd) (thread : Thread) (operation : Channel.Operation) :
    (bookkeeping fd).Hosts thread (IsCalm operation) where
  perform _ h := roams_perform (isFree_of_isOrdinary h)
  enter _ := enter_roams
  leave _ _ := leave_roams

theorem makeChanges_roams (changes : List Change) :
    Roams fd thread operation (makeChanges fd changes).run := by
  induction changes with
  | nil => exact roams_pure _
  | cons change rest ih =>
      refine maintains_run_bind ?_ fun _ => ih
      cases change with
      | set setting => exact (hosts fd thread operation).setOption setting
      | nonBlocking => exact configureBlocking_roams false

theorem program_roams {operation : Operation}
    (hregister : operation ≠ .register)
    (htakes : operation.takesGuard = false) :
    Roams fd thread operation (operation.program fd) := by
  cases operation with
  | connect address => exact maintains_reply (connect_roams address)
  | finishConnect => exact maintains_reply finishConnect_roams
  | bind address => exact maintains_reply (bind_roams address)
  | configureBlocking blocking =>
      exact maintains_reply (configureBlocking_roams blocking)
  | close => exact maintains_reply close_roams
  | shutdown direction => exact maintains_reply (shutdown_roams direction)
  | apply settings => exact maintains_reply (makeChanges_roams _)
  | register => exact absurd rfl hregister
  | deregister | dropRegistration => cases htakes
  | remoteAddress => exact maintains_reply remoteAddress_roams
  | _ => exact (hosts fd thread _).program rfl

/-- Whoever neither registers nor gives up a registration ends without one in
hand. -/
theorem IsCalm.closes {operation : Operation} (calm : IsCalm operation s)
    (reply : Reply) : (bookkeeping fd).closes operation reply s := by
  obtain ⟨hregister, hput⟩ := calm.settled operation calm.current
  refine ⟨calm.due, ?_⟩
  rw [hasHand, calm.current]
  cases operation with
  | register => exact absurd rfl hregister
  | deregister | dropRegistration =>
      simp [hput rfl, Operation.takesGuard, Operation.givesGuard]
  | _ => rfl

theorem program_keeps {operation : Operation}
    (hregister : operation ≠ .register)
    (htakes : operation.takesGuard = false) :
    (bookkeeping fd).Meets thread (operation.program fd)
      ((bookkeeping fd).closes operation) { operation := some operation } := by
  refine (program_roams hregister htakes).meets ⟨rfl, ?_, rfl⟩
    fun reply _ calm => calm.closes reply
  rintro other ⟨⟩
  exact ⟨hregister, by simp [htakes]⟩

theorem obeyed (fd : Fd) : (bookkeeping fd).Obeyed fd := by
  intro thread operation _
  cases operation with
  | register =>
      show (bookkeeping fd).Meets thread (reply _ Channel.register) _ _
      rw [meets_reply]
      refine (register_meets rfl rfl rfl).mono
        fun result s ⟨due, current, put⟩ => ?_
      cases result <;> exact ⟨due, by rw [hasHand, current, put]; rfl⟩
  | deregister =>
      show (bookkeeping fd).Meets thread (reply _ Channel.deregister) _ _
      rw [meets_reply]
      refine (deregister_meets rfl rfl rfl rfl).mono fun result s calm => ?_
      cases result <;> exact calm.closes _
  | dropRegistration =>
      show (bookkeeping fd).Meets thread
        (reply _ (Operating.quietly Channel.deregister)) _ _
      rw [meets_reply, meets_run_quietly]
      exact (deregister_meets rfl rfl rfl rfl).mono
        fun _ _ calm => calm.closes _
  | _ => exact program_keeps (by simp) rfl

end LocalSocket.Ledger
