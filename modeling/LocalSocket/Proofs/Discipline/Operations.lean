import LocalSocket.Proofs.Discipline.Close
import Mathlib.Tactic.SplitIfs

/-!
# All operations keep to the discipline

Most operations leave the standing of a thread as it was before.  A section that
makes calls on the descriptor has seen before that the channel is live; a call
in which the thread may be blocked is made from inside a slot.
-/

namespace LocalSocket.Discipline

open Protocol Channel

variable {fd : Fd} {thread : Thread} {s : Standing}

/-- Whether a thread that has nothing and owes nothing may run the program, and
afterwards has nothing and owes nothing again. -/
def IsNeutral (fd : Fd) (thread : Thread) {α : Type} (program : Program α) :
    Prop :=
  ∀ {post : α → Standing → Prop}, (∀ value, post value {}) →
    (discipline fd).Meets thread program post {}

theorem isFree_empty : ({} : Standing).IsFree := ⟨rfl, rfl, rfl, rfl⟩

def exclusive : Standing := { holdsRead := true, holdsWrite := true }

theorem isFree_exclusive : exclusive.IsFree := ⟨rfl, rfl, rfl, rfl⟩

theorem isNeutral_exclusively {α : Type} {body : Operating α}
    (hbody : ∀ {post : Except ChannelError α → Standing → Prop},
      (∀ value, post value exclusive) →
      (discipline fd).Meets thread body.run post exclusive) :
    IsNeutral fd thread
      (Operating.holding .read (Operating.holding .write body)).run := by
  intro post hpost
  simp only [meets_run_holding]
  simp [Standing.Takes]
  exact hbody
    fun value => by simpa [exclusive, Standing.Takes] using hpost value

theorem live_call_meets {call : Call} {fields : Fields}
    {post : call.Answer → Standing → Prop} (calm : s.owesRelease = false)
    (live : fields.state.isLive = true) (hfd : call.fd? = some fd)
    (ordinary : call.isBlocking = false ∧ call ≠ .close fd)
    (hpost : ∀ answer, post answer (s.lock fields)) :
    (discipline fd).Meets thread (Program.call call) post (s.lock fields) := by
  refine ⟨by simp [calm], ?_, fun answer => ?_⟩
  · obtain ⟨notBlocking, notClose⟩ := ordinary
    cases call <;> simp_all [Standing.Permits, Call.fd?]
  · obtain ⟨_, notClose⟩ := ordinary
    have hafter : (s.lock fields).afterCall call answer = s.lock fields := by
      cases call <;> simp_all [Standing.afterCall, Call.fd?]
    rw [hafter]
    exact hpost answer

theorem configureBlocking_isNeutral (blocking : Bool) :
    IsNeutral fd thread (configureBlocking fd blocking).run := by
  refine isNeutral_exclusively fun hpost => ?_
  refine section_meets isFree_exclusive (fun fields post finds hend => ?_) hpost
  have hsame : ∀ result, post result (exclusive.lock fields) :=
    fun result => hend result fields finds.settled
  rw [meets_run_bind]
  refine ensureOpen_meets rfl (hsame _) fun hlive => ?_
  refine isBlocking_meets rfl fun isBlocking => ?_
  rw [meets_run_ite]
  split_ifs
  · exact hsame _
  · refine fields_meets rfl ?_
    simp only [meets_run_ite, meets_run_bind, meets_run_throw,
      meets_run_onSocket]
    split_ifs
    · exact hsame _
    · refine live_call_meets rfl (hlive _ rfl) rfl (by simp [Call.isBlocking])
        fun answer => ?_
      cases answer with
      | ok => exact ⟨by simp [exclusive], hsame _⟩
      | error error => exact hsame _

theorem closeAfter_meets {α : Type} {error : ChannelError}
    {post : Except ChannelError α → Standing → Prop} (free : s.IsFree)
    (hpost : ∀ result, post result { s with owesClose := false }) :
    (discipline fd).Meets thread (closeAfter error).run post s := by
  simp only [closeAfter, meets_run_bind, meets_run_quietly, meets_run_throw]
  exact close_meets free fun _ => hpost _

theorem encode_meets {address : Address}
    {post : Except ChannelError Record → Standing → Prop}
    (hpost : ∀ result, post result s) :
    (discipline fd).Meets thread (encode address).run post s := by
  rw [encode]
  split
  · exact hpost _
  · exact hpost _

theorem bindLocked_meets {address : Option Address} {fields : Fields}
    {post : Except ChannelError (Option OsError) → Standing → Prop}
    (calm : s.owesRelease = false) (finds : s.Finds fd thread fields)
    (hend : ∀ result fields',
      fields'.IsSettled → post result (s.lock fields')) :
    (discipline fd).Meets thread (bindLocked fd address).run post
      (s.lock fields) := by
  have hsame : ∀ result, post result (s.lock fields) :=
    fun result => hend result fields finds.settled
  rw [bindLocked, meets_run_bind]
  refine ensureOpen_meets calm (hsame _) fun hlive => ?_
  have live := hlive fields rfl
  refine fields_meets calm ?_
  simp only [meets_run_ite, meets_run_bind, meets_run_throw]
  split_ifs
  · exact hsame _
  · exact hsame _
  · refine encode_meets fun result => ?_
    cases result with
    | error error => exact hsame _
    | ok record =>
        simp only [meets_run_lift]
        refine live_call_meets calm live rfl (by simp [Call.isBlocking])
          fun answer => ?_
        cases answer with
        | error error => exact hsame _
        | ok =>
            simp only [meets_run_bind, meets_run_lift]
            refine live_call_meets calm live rfl (by simp [Call.isBlocking])
              fun answer => ?_
            cases answer with
            | error error => exact hsame _
            | ok bound =>
                refine put_meets calm (.revise live live rfl rfl rfl rfl) ?_
                exact hend _ _ (Fields.isSettled_of_isLive live)

theorem bind_isNeutral (address : Option Address) :
    IsNeutral fd thread (Channel.bind fd address).run := by
  refine isNeutral_exclusively fun hpost => ?_
  simp only [meets_run_bind]
  refine section_meets isFree_exclusive (fun fields post finds hend => ?_)
    fun result => ?_
  · exact bindLocked_meets rfl finds hend
  · cases result with
    | error error => exact hpost _
    | ok failure =>
        cases failure with
        | none => exact hpost _
        | some error => exact closeAfter_meets isFree_exclusive hpost

/-! ## Connecting -/

theorem blocking_call_meets {call : Call} {post : call.Answer → Standing → Prop}
    (calm : s.owesRelease = false) (unlocked : s.fields = none)
    (inside : s.slot ≠ none) (hfd : call.fd? = some fd)
    (blocking : call.isBlocking = true) (hpost : ∀ answer, post answer s) :
    (discipline fd).Meets thread (Program.call call) post s := by
  refine ⟨by simp [calm], by simp [Standing.Permits, *], fun answer => ?_⟩
  have hafter : s.afterCall call answer = s := by
    cases call <;> simp_all [Standing.afterCall, Call.isBlocking]
  rw [hafter]
  exact hpost answer

theorem retry_meets {call : Call} {post : call.Answer → Standing → Prop}
    (calm : s.owesRelease = false) (unlocked : s.fields = none)
    (inside : s.slot ≠ none) (hfd : call.fd? = some fd)
    (blocking : call.isBlocking = true) (hpost : ∀ answer, post answer s) :
    (discipline fd).Meets thread (Program.retry call) post s := by
  refine meets_retry (fun s' => s' = s) rfl fun s' hs' => ?_
  subst hs'
  refine blocking_call_meets calm unlocked inside hfd blocking fun answer => ?_
  cases answer with
  | ok value => exact hpost _
  | error error =>
      simp only []
      split
      · trivial
      · exact hpost _

theorem markConnected_meets {remote : Option Address}
    {post : Except ChannelError Unit → Standing → Prop} (free : s.IsFree)
    (hpost : ∀ result, post result s) :
    (discipline fd).Meets thread (markConnected fd remote).run post s := by
  refine section_meets free (fun fields post finds hend => ?_) hpost
  refine fields_meets free.calm ?_
  rw [meets_run_bind]
  refine ensureStillOpen_meets free.calm (hend _ _ finds.settled)
    fun hlive => ?_
  have live := hlive fields rfl
  have live' : Lifecycle.connected.isLive = true := rfl
  have hend' : ∀ result fields', fields'.state = .connected →
      post result (s.lock fields') := fun result fields' h =>
    hend result fields' (Fields.isSettled_of_isLive (by rw [h]; rfl))
  refine put_meets free.calm (.revise live live' rfl rfl rfl rfl) ?_
  rw [meets_run_ite]
  split_ifs
  · simp only [meets_run_bind, meets_run_lift]
    refine live_call_meets free.calm live' rfl (by simp [Call.isBlocking])
      fun answer => ?_
    cases answer with
    | error error => exact hend' _ _ rfl
    | ok record =>
        refine ⟨by simp [free.calm], _, _, rfl,
          .revise live' live' rfl rfl rfl rfl, ?_⟩
        exact hend' _ _ rfl
  · exact hend' _ _ rfl

/-- A section under the state lock that may end with the thread recorded in a
slot, as the value tells. -/
theorem entering_meets {α : Type} {body : Program α}
    {post : α → Standing → Prop} (direction : Direction) (entered : α → Bool)
    (free : s.IsFree)
    (hbody : ∀ fields (post' : α → Standing → Prop), s.Finds fd thread fields →
      (∀ value, entered value = false → post' value (s.lock fields)) →
      (∀ value fields', entered value = true → fields'.state.isLive = true →
        post' value ({ s with slot := some direction }.lock fields')) →
          (discipline fd).Meets thread body post' (s.lock fields))
    (outside : ∀ value, entered value = false → post value s)
    (inside : ∀ value, entered value = true →
      post value { s with slot := some direction }) :
    (discipline fd).Meets thread (Program.holding .state body) post s := by
  refine locked_meets free.calm free.unlocked fun fields finds => ?_
  refine hbody fields _ finds (fun value h => ?_) fun value fields' h live => ?_
  · refine ⟨free.calm, fields, rfl, ⟨finds.settled, free.settled⟩, ?_⟩
    simpa [Standing.unlock_eq free.unlocked] using outside value h
  · refine ⟨free.calm, fields', rfl,
      ⟨Fields.isSettled_of_isLive live, free.settled⟩, ?_⟩
    simpa [Standing.lock, Standing.unlock, free.unlocked] using inside value h

theorem beginConnect_meets {post : Except ChannelError Unit → Standing → Prop}
    (free : s.IsFree) (holds : s.holdsRead = true)
    (failed : ∀ error, post (.error error) s)
    (begun : post (.ok ()) { s with slot := some .input }) :
    (discipline fd).Meets thread beginConnect.run post s := by
  refine entering_meets .input (fun result => result.isOk) free
    (fun fields post finds hout hin => ?_)
    ?_ ?_
  · rw [meets_run_bind]
    refine ensureOpen_meets free.calm (hout _ rfl) fun hlive => ?_
    have live := hlive fields rfl
    refine fields_meets free.calm ?_
    simp only [meets_run_ite, meets_run_bind, meets_run_throw]
    split_ifs
    · exact hout _ rfl
    · exact hout _ rfl
    · exact enter_meets free.calm holds free.outside live
        (hin _ _ rfl (by simpa using live))
  · intro result h
    cases result with
    | error error => exact failed error
    | ok => cases h
  · intro result h
    cases result with
    | error error => cases h
    | ok => exact begun

theorem socketConnect_meets {record : Record}
    {post : Except OsError ConnectStatus → Standing → Prop}
    (calm : s.owesRelease = false) (unlocked : s.fields = none)
    (inside : s.slot ≠ none) (hpost : ∀ result, post result s) :
    (discipline fd).Meets thread (Socket.connect fd record) post s := by
  simp only [Socket.connect, meets_bind_eq]
  refine blocking_call_meets calm unlocked inside rfl rfl fun answer => ?_
  split
  · exact hpost _
  · simp only [meets_ite, meets_pure]
    split_ifs <;> exact hpost _
  · exact hpost _

theorem socketPoll_meets {events : Events} {timeout : Int}
    {post : Except OsError PollStatus → Standing → Prop}
    (calm : s.owesRelease = false) (unlocked : s.fields = none)
    (inside : s.slot ≠ none) (hpost : ∀ result, post result s) :
    (discipline fd).Meets thread (Socket.poll fd events timeout) post s := by
  simp only [Socket.poll, meets_bind_eq]
  refine blocking_call_meets calm unlocked inside rfl rfl fun answer => ?_
  split <;> exact hpost _

theorem attempt_meets {record : Record}
    {post : Except OsError ConnectStatus → Standing → Prop}
    (calm : s.owesRelease = false) (unlocked : s.fields = none)
    (inside : s.slot ≠ none) (hpost : ∀ result, post result s) :
    (discipline fd).Meets thread (attempt fd record) post s := by
  refine meets_loop (fun s' => s' = s) (by nofun) rfl fun s' hs' => ?_
  subst hs'
  simp only [meets_bind_eq]
  refine socketConnect_meets calm unlocked inside fun result => ?_
  split
  · simp [Standing.Takes, calm]
    exact hpost _
  · exact hpost _

theorem awaitConnection_meets {record : Record} {blocking : Bool}
    {post : Except OsError Bool → Standing → Prop}
    (calm : s.owesRelease = false) (unlocked : s.fields = none)
    (inside : s.slot ≠ none) (hpost : ∀ result, post result s) :
    (discipline fd).Meets thread
      (awaitConnection fd record blocking) post s := by
  refine meets_loop (fun s' => s' = s) (by nofun) rfl fun s' hs' => ?_
  subst hs'
  simp only [meets_bind_eq]
  refine socketConnect_meets calm unlocked inside fun result => ?_
  split
  · exact hpost _
  · simp only [meets_ite, meets_pure]
    split_ifs <;> exact hpost _
  · simp [Standing.Takes, calm]
    exact hpost _
  · simp only [meets_bind_eq, Program.perform_eq, meets_act, meets_done]
    refine ⟨by simp [calm], fun isOpen _ => ?_⟩
    simp only [meets_ite, meets_bind_eq, meets_pure]
    split_ifs
    · refine socketPoll_meets calm unlocked inside fun result => ?_
      split
      · exact hpost _
      · simp [Standing.Takes, calm]
        exact hpost _
    · exact hpost _

theorem connect_isNeutral (address : Address) :
    IsNeutral fd thread (Channel.connect fd address).run := by
  intro post hpost
  simp only [Channel.connect, meets_run_bind]
  refine encode_meets fun result => ?_
  cases result with
  | error error => exact hpost _
  | ok record =>
      refine isNeutral_exclusively (fun hpost => ?_) hpost
      simp only [meets_run_bind, meets_run_lift]
      refine beginConnect_meets isFree_exclusive rfl (fun _ => hpost _) ?_
      refine attempt_meets rfl rfl nofun fun result => ?_
      refine leave_meets rfl rfl rfl rfl fun left => ?_
      cases left with
      | error error => exact hpost _
      | ok =>
          split
          · simp only [meets_run_bind]
            refine markConnected_meets isFree_exclusive fun marked => ?_
            cases marked <;> exact hpost _
          · simp only [meets_run_bind]
            refine section_meets isFree_exclusive
              (fun fields post finds hend => ?_) fun noted => ?_
            · refine fields_meets rfl ?_
              rw [meets_run_bind]
              refine ensureStillOpen_meets rfl (hend _ _ finds.settled)
                fun hlive => ?_
              have live := hlive fields rfl
              refine ⟨nofun, _, _, rfl, .revise live rfl rfl rfl rfl rfl, ?_⟩
              exact hend _ _ (Fields.isSettled_of_isLive rfl)
            · cases noted <;> exact hpost _
          · exact hpost _
          · exact closeAfter_meets isFree_exclusive hpost

def isUnderWay : Except ChannelError (Option Record) → Bool
  | .ok (some _) => true
  | _ => false

theorem beginFinish_meets
    {post : Except ChannelError (Option Record) → Standing → Prop}
    (free : s.IsFree) (holds : s.holdsRead = true)
    (failed : ∀ error, post (.error error) s) (decided : post (.ok none) s)
    (begun : ∀ record,
      post (.ok (some record)) { s with slot := some .input }) :
    (discipline fd).Meets thread beginFinish.run post s := by
  refine entering_meets .input isUnderWay free
    (fun fields post finds hout hin => ?_) ?_ ?_
  · rw [meets_run_bind]
    refine ensureOpen_meets free.calm (hout _ rfl) fun hlive => ?_
    have live := hlive fields rfl
    simp [Standing.Takes, free.calm, ite_apply]
    split_ifs
    · exact hout _ rfl
    · cases fields.remoteAddress with
      | none => exact hout _ rfl
      | some address =>
          simp only [meets_run_bind]
          refine encode_meets fun result => ?_
          cases result with
          | error error => exact hout _ rfl
          | ok record =>
              simp only
              exact enter_meets free.calm holds free.outside live
                (hin (.ok (some record)) _ rfl (by simpa using live))
    · exact hout _ rfl
  · intro result h
    rcases result with error | _ | record
    · exact failed error
    · exact decided
    · cases h
  · intro result h
    rcases result with error | _ | record
    · cases h
    · cases h
    · exact begun record

theorem finishConnect_isNeutral :
    IsNeutral fd thread (finishConnect fd).run := by
  refine isNeutral_exclusively fun hpost => ?_
  simp only [meets_run_bind]
  refine beginFinish_meets isFree_exclusive rfl (fun _ => hpost _) (hpost _)
    fun record => ?_
  refine isBlocking_meets rfl fun blocking => ?_
  simp only [meets_run_bind, meets_run_lift]
  refine awaitConnection_meets rfl rfl nofun fun result => ?_
  refine leave_meets rfl rfl rfl rfl fun left => ?_
  cases left with
  | error error => exact hpost _
  | ok =>
      split
      · simp only [meets_run_bind]
        refine markConnected_meets isFree_exclusive fun marked => ?_
        cases marked <;> exact hpost _
      · exact hpost _
      · exact closeAfter_meets isFree_exclusive hpost

/-! ## Transfers -/

def isBegun : Except ChannelError Bool → Bool
  | .ok begun => begun
  | .error _ => false

theorem beginTransfer_meets {direction : Direction}
    {post : Except ChannelError Bool → Standing → Prop} (free : s.IsFree)
    (holds : s.holds direction = true) (failed : ∀ error, post (.error error) s)
    (shut : post (.ok false) s)
    (begun : post (.ok true) { s with slot := some direction }) :
    (discipline fd).Meets thread (beginTransfer direction).run post s := by
  refine entering_meets direction isBegun free
    (fun fields post finds hout hin => ?_) ?_ ?_
  · rw [meets_run_bind]
    refine ensureOpen_meets free.calm (hout _ rfl) fun hlive => ?_
    have live := hlive fields rfl
    simp [Standing.Takes, free.calm, ite_apply]
    split_ifs
    · exact enter_meets free.calm holds free.outside live
        (hin (.ok true) _ rfl (by simpa using live))
    · exact hout _ rfl
    · exact hout _ rfl
  · intro result h
    rcases result with error | _ | _
    · exact failed error
    · exact shut
    · cases h
  · intro result h
    rcases result with error | _ | _
    · cases h
    · cases h
    · exact begun

theorem endTransfer_meets {direction : Direction}
    {result : Except OsError IoStatus}
    {post : Except ChannelError Bool → Standing → Prop}
    (calm : s.owesRelease = false) (unlocked : s.fields = none)
    (inside : s.slot = some direction) (settled : s.owesShutDown = false)
    (left : ∀ result, post result { s with slot := none }) :
    (discipline fd).Meets thread (endTransfer direction result).run post s := by
  simp only [endTransfer, meets_run_bind]
  refine leave_meets calm unlocked inside settled fun outcome => ?_
  cases outcome with
  | error error => exact left _
  | ok =>
      simp only [meets_run_ite]
      split_ifs
      · exact left _
      · refine section_meets ⟨unlocked, rfl, settled, calm⟩
          (fun fields post finds hend => ?_) left
        simp [Standing.Takes, calm]
        simpa [calm] using hend (.ok (fields.isDirectionOpen direction)) fields
          finds.settled

def IsTransfer (fd : Fd) (thread : Thread) {α : Type} (program : Program α) :
    Prop :=
  ∀ {s : Standing} {post : α → Standing → Prop}, s.owesRelease = false →
    s.fields = none →
    s.slot ≠ none → (∀ value, post value s) →
      (discipline fd).Meets thread program post s

theorem isTransfer_retry {α : Type} {call : Call} {value : α} {exhausted : Bool}
    {next : call.Answer → Program α} (hfd : call.fd? = some fd)
    (blocking : call.isBlocking = true)
    (hnext : ∀ answer, ∃ value, next answer = pure value) :
    IsTransfer fd thread (if exhausted then pure value
                          else Program.retry call >>= next) := by
  intro s post calm unlocked inside hpost
  split_ifs
  · exact hpost _
  · simp only [meets_bind_eq]
    refine retry_meets calm unlocked inside hfd blocking fun answer => ?_
    obtain ⟨value, hvalue⟩ := hnext answer
    rw [hvalue]
    exact hpost value

theorem socketRead_isTransfer (window : Window) :
    IsTransfer fd thread (Socket.read fd window) :=
  isTransfer_retry rfl rfl fun answer => by split <;> exact ⟨_, rfl⟩

theorem socketReadMany_isTransfer (windows : List Window) :
    IsTransfer fd thread (Socket.readMany fd windows) :=
  isTransfer_retry rfl rfl fun answer => by split <;> exact ⟨_, rfl⟩

theorem socketWrite_isTransfer (window : Window) :
    IsTransfer fd thread (Socket.write fd window) :=
  isTransfer_retry rfl rfl fun answer => by split <;> exact ⟨_, rfl⟩

theorem socketWriteMany_isTransfer (windows : List Window) :
    IsTransfer fd thread (Socket.writeMany fd windows) :=
  isTransfer_retry rfl rfl fun answer => by split <;> exact ⟨_, rfl⟩

theorem transferWith_isNeutral {β : Type} {direction : Direction}
    {shutBefore shutMeanwhile : Except ChannelError IoStatus} {buffers : β}
    {transfer : Program (Except OsError IoStatus × β)}
    (htransfer : IsTransfer fd thread transfer) :
    IsNeutral fd thread
      (transferWith direction shutBefore shutMeanwhile buffers transfer) := by
  intro post hpost
  rw [transferWith, meets_holding]
  cases direction <;>
  · simp [Standing.Takes, Direction.lock]
    refine beginTransfer_meets ⟨rfl, rfl, rfl, rfl⟩ rfl ?_ ?_ ?_
    · exact fun error => by simpa using hpost _
    · simpa using hpost _
    · simp
      refine htransfer rfl rfl (by simp) fun outcome => ?_
      refine endTransfer_meets rfl rfl rfl rfl fun result => ?_
      split <;> simpa using hpost _

theorem shutdown_isNeutral (direction : Direction) :
    IsNeutral fd thread (Channel.shutdown fd direction).run := by
  intro post hpost
  refine section_meets isFree_empty (fun fields post finds hend => ?_) hpost
  have hsame : ∀ result, post result (({} : Standing).lock fields) :=
    fun result => hend result fields finds.settled
  rw [meets_run_bind]
  refine ensureOpen_meets rfl (hsame _) fun hlive => ?_
  have live := hlive fields rfl
  simp [Standing.Takes, ite_apply]
  split_ifs
  · refine live_call_meets rfl live rfl (by simp [Call.isBlocking])
      fun answer => ?_
    cases answer with
    | error error => exact hsame _
    | ok =>
        have live' : (fields.shutDirection direction).state.isLive = true := by
          simpa using live
        refine ⟨rfl, fields, rfl, _, .revise live live' ?_ ?_ ?_ ?_, ?_⟩
        · simp
        · simp
        · simp
        · simp
        · exact hend _ _ (Fields.isSettled_of_isLive live')
  · exact hsame _
  · exact hsame _

theorem enterOpen_meets {post : Except ChannelError Unit → Standing → Prop}
    (free : s.IsFree) (holds : s.holdsRead = true)
    (failed : ∀ error, post (.error error) s)
    (entered : post (.ok ()) { s with slot := some .input }) :
    (discipline fd).Meets thread enterOpen.run post s := by
  refine entering_meets .input (fun result => result.isOk) free
    (fun fields post finds hout hin => ?_) ?_ ?_
  · rw [meets_run_bind]
    refine ensureOpen_meets free.calm (hout _ rfl) fun hlive => ?_
    have live := hlive fields rfl
    exact enter_meets free.calm holds free.outside live
      (hin _ _ rfl (by simpa using live))
  · intro result h
    cases result with
    | error error => exact failed error
    | ok => cases h
  · intro result h
    cases result with
    | error error => cases h
    | ok => exact entered

theorem poll_isNeutral (interest : Interest) (timeout : Option Duration) :
    IsNeutral fd thread (Channel.poll fd interest timeout).run := by
  intro post hpost
  refine isBlocking_meets rfl fun blocking => ?_
  cases blocking with
  | true => exact hpost _
  | false =>
      simp only [Bool.false_eq_true, if_false, meets_run_holding,
        meets_run_bind, meets_run_lift]
      refine ⟨nofun, rfl, rfl, rfl, ?_⟩
      refine enterOpen_meets ⟨rfl, rfl, rfl, rfl⟩ rfl
        (fun _ => ⟨nofun, rfl, nofun, hpost _⟩) ?_
      refine socketPoll_meets rfl rfl nofun fun result => ?_
      refine leave_meets rfl rfl rfl rfl fun left => ?_
      cases left <;> exact ⟨nofun, rfl, nofun, hpost _⟩

/-! ## Options and addresses -/

theorem socketGetOption_meets {fields : Fields} {scope : Scope}
    {option : OptionName}
    {post : Except ChannelError OptionValue → Standing → Prop}
    (calm : s.owesRelease = false) (live : fields.state.isLive = true)
    (hpost : ∀ result, post result (s.lock fields)) :
    (discipline fd).Meets thread (Socket.getOption fd scope option) post
      (s.lock fields) := by
  rw [Socket.getOption]
  split
  · exact hpost _
  · simp only [meets_bind_eq]
    refine live_call_meets calm live rfl (by simp [Call.isBlocking])
      fun answer => ?_
    split <;> exact hpost _

theorem socketSetOption_meets {fields : Fields} {scope : Scope}
    {option : OptionName} {value : OptionValue}
    {post : Except ChannelError Unit → Standing → Prop}
    (calm : s.owesRelease = false) (live : fields.state.isLive = true)
    (hpost : ∀ result, post result (s.lock fields)) :
    (discipline fd).Meets thread (Socket.setOption fd scope option value) post
      (s.lock fields) := by
  rw [Socket.setOption]
  split
  · exact hpost _
  · split
    · exact hpost _
    · simp only [meets_bind_eq]
      refine live_call_meets calm live rfl (by simp [Call.isBlocking])
        fun answer => ?_
      split <;> exact hpost _

theorem getOption_isNeutral (option : TypedOption) :
    IsNeutral fd thread (Channel.getOption fd option).run := by
  intro post hpost
  simp only [Channel.getOption, checkSupported, meets_run_bind, meets_run_ite]
  split_ifs
  · refine section_meets isFree_empty (fun fields post finds hend => ?_) hpost
    have hsame : ∀ result, post result (({} : Standing).lock fields) :=
      fun result => hend result fields finds.settled
    simp only [meets_run_bind]
    refine ensureOpen_meets rfl (hsame _) fun hlive => ?_
    refine socketGetOption_meets rfl (hlive fields rfl) fun result => ?_
    cases result <;> exact hsame _
  · exact hpost _

theorem setOption_isNeutral (setting : Setting) :
    IsNeutral fd thread (Channel.setOption fd setting).run := by
  intro post hpost
  simp only [Channel.setOption, checkSupported, meets_run_bind, meets_run_ite]
  split_ifs
  · refine section_meets isFree_empty (fun fields post finds hend => ?_) hpost
    have hsame : ∀ result, post result (({} : Standing).lock fields) :=
      fun result => hend result fields finds.settled
    simp only [meets_run_bind]
    refine ensureOpen_meets rfl (hsame _) fun hlive => ?_
    simp only [meets_run_returning]
    cases setting.encode with
    | error error => exact hsame _
    | ok value => exact socketSetOption_meets rfl (hlive fields rfl) hsame
  · exact hpost _

theorem lifecycle_isNeutral : IsNeutral fd thread lifecycle.run := by
  intro post hpost
  refine section_meets isFree_empty (fun fields post finds hend => ?_) hpost
  simp [Standing.Takes]
  exact hend _ _ finds.settled

theorem credentials_isNeutral :
    IsNeutral fd thread (Channel.credentials fd).run := by
  intro post hpost
  simp only [Channel.credentials, meets_run_bind]
  refine ensureOpen_meets rfl (hpost _) fun _ => ?_
  refine lifecycle_isNeutral fun state => ?_
  cases state with
  | error error => exact hpost _
  | ok state =>
      simp only [meets_run_ite]
      split_ifs
      · simp only [meets_run_bind]
        refine getOption_isNeutral .peerCredentials fun reading => ?_
        cases reading with
        | error error => exact hpost _
        | ok reading => cases reading <;> exact hpost _
      · exact hpost _

theorem localAddress_isNeutral :
    IsNeutral fd thread Channel.localAddress.run := by
  intro post hpost
  refine section_meets isFree_empty (fun fields post finds hend => ?_) hpost
  rw [meets_run_bind]
  refine ensureOpen_meets rfl (hend _ _ finds.settled) fun _ => ?_
  simp [Standing.Takes]
  exact hend _ _ finds.settled

theorem remoteAddress_isNeutral :
    IsNeutral fd thread (Channel.remoteAddress fd).run := by
  intro post hpost
  refine section_meets isFree_empty (fun fields post finds hend => ?_) hpost
  have hsame : ∀ result, post result (({} : Standing).lock fields) :=
    fun result => hend result fields finds.settled
  rw [meets_run_bind]
  refine ensureOpen_meets rfl (hsame _) fun hlive => ?_
  have live := hlive fields rfl
  simp [Standing.Takes, ite_apply]
  split_ifs
  · refine live_call_meets rfl live rfl (by simp [Call.isBlocking])
      fun answer => ?_
    cases answer with
    | error error => exact hsame _
    | ok record =>
        simp
        exact ⟨_, .revise live live rfl rfl rfl rfl,
          hend _ _ (Fields.isSettled_of_isLive live)⟩
  · exact hsame _

/-! ## Settings -/

theorem makeChange_isNeutral (change : Change) :
    IsNeutral fd thread (makeChange fd change).run := by
  cases change with
  | set setting => exact setOption_isNeutral setting
  | nonBlocking => exact configureBlocking_isNeutral false

theorem makeChanges_isNeutral (changes : List Change) :
    IsNeutral fd thread (makeChanges fd changes).run := by
  induction changes with
  | nil =>
      intro post hpost
      exact hpost _
  | cons change rest ih =>
      intro post hpost
      simp only [makeChanges, meets_run_bind]
      refine makeChange_isNeutral change fun result => ?_
      cases result with
      | error error => exact hpost _
      | ok => exact ih hpost

/-! ## Descriptions -/

theorem seeFields_isNeutral : IsNeutral fd thread seeFields := by
  intro post hpost
  refine section_meets isFree_empty (fun fields post finds hend => ?_) hpost
  simp [Standing.Takes]
  exact hend _ _ finds.settled

theorem snapshot_isNeutral : IsNeutral fd thread Channel.snapshot := by
  intro post hpost
  simp only [Channel.snapshot, meets_bind_eq, Program.perform_eq, meets_act,
    meets_done]
  refine seeFields_isNeutral
    fun _ => ⟨nofun, fun isOpen _ => ⟨nofun, fun isBlocking => ?_⟩⟩
  refine seeFields_isNeutral fun _ => ?_
  refine seeFields_isNeutral fun _ => ?_
  exact seeFields_isNeutral fun _ => hpost _

theorem flags_isNeutral : IsNeutral fd thread (Channel.flags fd) := by
  intro post hpost
  simp only [Channel.flags, meets_bind_eq]
  refine seeFields_isNeutral fun _ => ?_
  refine seeFields_isNeutral fun _ => ?_
  exact seeFields_isNeutral fun _ => hpost _

theorem text_isNeutral : IsNeutral fd thread Channel.text := by
  intro post hpost
  simp only [Channel.text, meets_bind_eq, Program.perform_eq, meets_act,
    meets_done, meets_ite]
  refine ⟨nofun, fun isOpen _ => ?_⟩
  cases isOpen with
  | true => exact seeFields_isNeutral fun _ => hpost _
  | false => exact hpost _

theorem inspect_isNeutral : IsNeutral fd thread (Channel.inspect fd) := by
  intro post hpost
  refine section_meets isFree_empty (fun fields post finds hend => ?_) hpost
  simp only [meets_bind_eq, Program.perform_eq, meets_act, meets_done]
  refine ⟨nofun, fields, rfl, nofun,
    fun isOpen _ => ⟨nofun, fun isBlocking => ?_⟩⟩
  exact hend _ _ finds.settled

theorem ready_isNeutral (events : Events) (interest : Interest) :
    IsNeutral fd thread (Channel.ready events interest) := by
  intro post hpost
  rw [Channel.ready]
  split_ifs
  · exact hpost _
  · exact seeFields_isNeutral fun _ => hpost _

/-! ## All operations -/

theorem isNeutral_reply {α : Type} (make : α → Reply) {operation : Operating α}
    (h : IsNeutral fd thread operation.run) :
    IsNeutral fd thread (reply make operation) := by
  intro post hpost
  simp only [meets_reply]
  refine h fun result => ?_
  cases result <;> exact hpost _

theorem isNeutral_bind {α β : Type} {program : Program α} (f : α → Program β)
    (h : IsNeutral fd thread program)
    (hf : ∀ value, IsNeutral fd thread (f value)) :
    IsNeutral fd thread (program >>= f) := by
  intro post hpost
  simp only [meets_bind_eq]
  exact h fun value => hf value hpost

theorem isNeutral_pure {α : Type} (value : α) :
    IsNeutral fd thread (pure value) :=
  fun hpost => hpost value

/-- Whether the standing of a thread is of account in the operation, or changed
by it. -/
def hasStanding : Operation → Bool
  | .close | .register | .deregister | .dropRegistration => true
  | _ => false

theorem program_isNeutral {operation : Operation}
    (h : hasStanding operation = false) :
    IsNeutral fd thread (operation.program fd) := by
  cases operation with
  | connect address => exact isNeutral_reply _ (connect_isNeutral address)
  | finishConnect => exact isNeutral_reply _ finishConnect_isNeutral
  | bind address => exact isNeutral_reply _ (bind_isNeutral address)
  | configureBlocking blocking =>
      exact isNeutral_reply _ (configureBlocking_isNeutral blocking)
  | close => cases h
  | shutdown direction => exact isNeutral_reply _ (shutdown_isNeutral direction)
  | apply settings =>
      exact isNeutral_reply _ (makeChanges_isNeutral settings.changes)
  | read window =>
      exact isNeutral_bind _
        (transferWith_isNeutral (socketRead_isTransfer window)) fun _ =>
        isNeutral_pure _
  | write window =>
      exact isNeutral_bind _
        (transferWith_isNeutral (socketWrite_isTransfer window)) fun _ =>
        isNeutral_pure _
  | readMany windows =>
      exact isNeutral_bind _
        (transferWith_isNeutral (socketReadMany_isTransfer windows)) fun _ =>
        isNeutral_pure _
  | writeMany windows =>
      exact isNeutral_bind _
        (transferWith_isNeutral (socketWriteMany_isTransfer windows)) fun _ =>
        isNeutral_pure _
  | receive length =>
      refine isNeutral_bind _ (isNeutral_bind _
        (transferWith_isNeutral (socketRead_isTransfer _))
          fun _ => isNeutral_pure _) fun moved => ?_
      split <;> exact isNeutral_pure _
  | send bytes =>
      refine isNeutral_bind _ (isNeutral_bind _
        (transferWith_isNeutral (socketWrite_isTransfer _))
          fun _ => isNeutral_pure _) fun moved => ?_
      split <;> exact isNeutral_pure _
  | flush => exact isNeutral_pure _
  | poll interest timeout =>
      exact isNeutral_reply _ (poll_isNeutral interest timeout)
  | ready events interest =>
      exact isNeutral_bind _ (ready_isNeutral events interest)
        fun _ => isNeutral_pure _
  | register => cases h
  | deregister => cases h
  | dropRegistration => cases h
  | getOption option => exact isNeutral_reply _ (getOption_isNeutral option)
  | setOption setting => exact isNeutral_reply _ (setOption_isNeutral setting)
  | supportedOptions => exact isNeutral_pure _
  | credentials => exact isNeutral_reply _ credentials_isNeutral
  | localAddress => exact isNeutral_reply _ localAddress_isNeutral
  | remoteAddress => exact isNeutral_reply _ remoteAddress_isNeutral
  | text => exact isNeutral_bind _ text_isNeutral fun _ => isNeutral_pure _
  | inspect =>
      exact isNeutral_bind _ inspect_isNeutral fun _ => isNeutral_pure _
  | flags => exact isNeutral_bind _ flags_isNeutral fun _ => isNeutral_pure _
  | snapshot =>
      exact isNeutral_bind _ snapshot_isNeutral fun _ => isNeutral_pure _

theorem obeyed : (discipline fd).Obeyed fd := by
  intro thread operation _
  cases h : hasStanding operation with
  | false =>
      have hrest : operation.standing = {} := by
        cases operation <;> first | rfl | cases h
      have hguard : ∀ reply, operation.givesGuard reply = false := by
        intro reply
        cases operation <;> first | rfl | cases h
      show (discipline fd).Meets thread _ _ operation.standing
      rw [hrest]
      refine program_isNeutral h fun reply => ?_
      simp [discipline, hguard reply]
  | true =>
      cases operation with
      | close =>
          simp only [Operation.program, meets_reply]
          refine close_meets ⟨rfl, rfl, rfl, rfl⟩ fun result => ?_
          cases result <;> rfl
      | register =>
          simp only [Operation.program, meets_reply]
          exact register_meets ⟨rfl, rfl, rfl, rfl⟩ rfl (fun error => rfl) rfl
      | deregister =>
          simp only [Operation.program, meets_reply]
          refine deregister_meets ⟨rfl, rfl, rfl, rfl⟩ rfl fun result => ?_
          cases result <;> rfl
      | dropRegistration =>
          simp only [Operation.program, meets_reply, meets_run_quietly]
          exact deregister_meets ⟨rfl, rfl, rfl, rfl⟩ rfl fun result => rfl
      | _ => cases h

end LocalSocket.Discipline
