import LocalSocket.Proofs.Overtaken

/-!
# All operations keep to their way out

Transfers, attempts to connect and waiting are the only operations in which a
thread can be overtaken.  What their calls bring decides how they end from there
on.
-/

namespace LocalSocket.Overtaking

open Protocol Channel Course

variable {fd : Fd} {thread : Thread}

/-! ## Transfers -/

theorem isBlocking_of_isTransfer {call : Call} (h : call.isTransfer = true) :
    call.isBlocking = true := by
  cases call <;> first | rfl | cases h

theorem gain?_error (call : Call) (error : OsError) :
    call.gain? (.error error) = none := by
  cases call <;> rfl

def told : Except OsError IoStatus → Option Gain
  | .ok (.transferred count) => Gain.ofCount count
  | _ => none

theorem told_idle (error : OsError) : told (Socket.idle error) = none := by
  unfold Socket.idle
  split <;> rfl

theorem retry_undisturbed {call : Call} {post : call.Answer → Course → Prop}
    (transfer : call.isTransfer = true)
    (hundisturbed : ∀ answer, post answer .undisturbed)
    (hovertaken : ∀ answer left, 11 ≤ left →
      post answer (.overtaken (call.gain? answer) left)) :
    overtaking.Meets thread (Program.retry call) post .undisturbed := by
  have blocking := isBlocking_of_isTransfer transfer
  -- once overtaken, the thread is so in all further attempts, with nothing
  -- brought yet
  refine meets_retry (fun s => s = .undisturbed ∨ s = .overtaken none patience)
    (.inl rfl) ?_
  have hafter : ∀ error : OsError, error.isInterrupted = true →
      Course.after call (.error error) = .overtaken none patience := by
    intro error hinterrupted
    simp [Course.after, gain?_error, Call.isInterrupted, hinterrupted]
  rintro s (rfl | rfl)
  · intro answer
    cases answer with
    | ok value =>
        exact ⟨hundisturbed _, fun _ => hovertaken (.ok value) (patience - 1)
          (by decide)⟩
    | error error =>
        by_cases hinterrupted : error.isInterrupted = true
        · simp [hinterrupted, hafter error]
        · simp [hinterrupted, Course.after, Call.isInterrupted, hundisturbed]
          exact fun _ => hovertaken (.error error) (patience - 1) (by decide)
  · simp only [overtaking_act, Course.Takes, blocking, if_true]
    refine ⟨transfer, trivial, trivial, fun answer => ?_⟩
    cases answer with
    | ok value => exact hovertaken (.ok value) (patience - 1) (by decide)
    | error error =>
        by_cases hinterrupted : error.isInterrupted = true
        · simp [hinterrupted, hafter error]
        · simp [hinterrupted, Course.after, Call.isInterrupted]
          exact hovertaken (.error error) (patience - 1) (by decide)

def IsTransfer {β : Type} (transfer : Program (Except OsError IoStatus × β)) :
    Prop :=
  ∀ {thread : Thread} {post : Except OsError IoStatus × β → Course → Prop},
    (∀ outcome, post outcome .undisturbed) →
    (∀ outcome left, 11 ≤ left →
      post outcome (.overtaken (told outcome.1) left)) →
      overtaking.Meets thread transfer post .undisturbed

theorem isTransfer_retry {β : Type} {call : Call}
    {outcome : Except OsError IoStatus × β} {exhausted : Bool}
    {next : call.Answer → Program (Except OsError IoStatus × β)}
    (transfer : call.isTransfer = true)
    (hnext : ∀ answer, ∃ outcome, next answer = pure outcome ∧
      told outcome.1 = call.gain? answer) :
    IsTransfer (if exhausted then pure outcome
                else Program.retry call >>= next) := by
  intro thread post hundisturbed hovertaken
  split
  · exact hundisturbed _
  · rw [meets_bind_eq]
    refine retry_undisturbed transfer (fun answer => ?_)
      fun answer left hleft => ?_
    · obtain ⟨outcome, hvalue, -⟩ := hnext answer
      rw [hvalue]
      exact hundisturbed _
    · obtain ⟨outcome, hvalue, htold⟩ := hnext answer
      rw [hvalue, ← htold]
      exact hovertaken _ left hleft

theorem socketRead_isTransfer (window : Window) :
    IsTransfer (Socket.read fd window) :=
  isTransfer_retry rfl fun answer => by
    split
    · exact ⟨_, rfl, rfl⟩
    · exact ⟨_, rfl, rfl⟩
    · exact ⟨_, rfl, told_idle _⟩

theorem socketReadMany_isTransfer (windows : List Window) :
    IsTransfer (Socket.readMany fd windows) :=
  isTransfer_retry rfl fun answer => by
    split
    · exact ⟨_, rfl, rfl⟩
    · exact ⟨_, rfl, rfl⟩
    · exact ⟨_, rfl, told_idle _⟩

theorem socketWrite_isTransfer (window : Window) :
    IsTransfer (Socket.write fd window) :=
  isTransfer_retry rfl fun answer => by
    split
    · exact ⟨_, rfl, rfl⟩
    · exact ⟨_, rfl, told_idle _⟩

theorem socketWriteMany_isTransfer (windows : List Window) :
    IsTransfer (Socket.writeMany fd windows) :=
  isTransfer_retry rfl fun answer => by
    split
    · exact ⟨_, rfl, rfl⟩
    · exact ⟨_, rfl, told_idle _⟩

theorem endTransfer_isAloof (direction : Direction)
    (result : Except OsError IoStatus) :
    (endTransfer direction result).run.IsAloof := by
  refine Operating.isAloof_bind (leave_isAloof _ _) fun _ => ?_
  split
  · trivial
  · exact isDirectionOpen_isAloof direction

theorem endTransfer_overtaken {direction : Direction}
    {result : Except OsError IoStatus} {credit : Nat}
    {post : Except ChannelError Bool → Course → Prop} (hcredit : 8 ≤ credit)
    (hpost : ∀ left, credit ≤ left + 8 →
      post (if movedSomething result then .ok true
            else .error .asynchronousClose) (.overtaken (told result) left)) :
    overtaking.Meets thread (endTransfer direction result).run post
      (.overtaken (told result) credit) := by
  simp only [endTransfer, meets_run_bind]
  refine leave_overtaken hcredit fun left hleft => ?_
  have hend := hpost left hleft
  cases h : movedSomething result with
  | true =>
      rw [h] at hend
      exact hend
  | false =>
      rw [h] at hend
      exact hend

theorem outcome_of_movedSomething {result : Except OsError IoStatus}
    (h : movedSomething result = true) :
    result.mapError ChannelError.socket = Gain.outcome (told result) := by
  rcases result with error | count | _ | _
  · cases h
  · have hpos : count ≠ 0 := by
      rintro rfl
      cases h
    simp [Except.mapError, Gain.outcome, told, Gain.ofCount, hpos]
  · cases h
  · cases h

theorem outcome_of_not_movedSomething {result : Except OsError IoStatus}
    (h : movedSomething result = false) :
    Gain.outcome (told result) = .error .asynchronousClose := by
  rcases result with error | count | _ | _
  · rfl
  · have hzero : count = 0 := by
      simpa [movedSomething, IoStatus.madeProgress] using h
    simp [told, Gain.ofCount, hzero, Gain.outcome]
  · rfl
  · rfl

theorem transferWith_meets {β : Type} {direction : Direction}
    {shutBefore shutMeanwhile : Except ChannelError IoStatus} {buffers : β}
    {transfer : Program (Except OsError IoStatus × β)}
    {post : Except ChannelError IoStatus × β → Course → Prop}
    (htransfer : IsTransfer transfer)
    (hundisturbed : ∀ outcome, post outcome .undisturbed)
    (hovertaken : ∀ gain left buffers,
      post (Gain.outcome gain, buffers) (.overtaken gain left)) :
    overtaking.Meets thread
      (transferWith direction shutBefore shutMeanwhile buffers transfer) post
      .undisturbed := by
  rw [transferWith, meets_holding]
  refine fun _ => ?_
  rw [meets_bind_eq]
  refine undisturbed_of_isAloof (beginTransfer_isAloof direction)
    fun begun => ?_
  split
  · exact fun _ => hundisturbed _
  · exact fun _ => hundisturbed _
  · rw [meets_bind_eq]
    refine htransfer (fun outcome => ?_) fun outcome left hleft => ?_
    · simp only [meets_bind_eq]
      refine undisturbed_of_isAloof (endTransfer_isAloof _ _) fun ended => ?_
      split <;> exact fun _ => hundisturbed _
    · simp only [meets_bind_eq]
      refine endTransfer_overtaken (by omega) fun left' hleft' => ?_
      have hcredit : 0 < left' := by omega
      cases h : movedSomething outcome.1 with
      | true =>
          refine ⟨hcredit, fun _ => ?_⟩
          rw [outcome_of_movedSomething h]
          exact hovertaken _ _ _
      | false =>
          refine ⟨hcredit, fun _ => ?_⟩
          rw [← outcome_of_not_movedSomething h]
          exact hovertaken _ _ _

/-! ## Connecting and waiting -/

theorem call_undisturbed {α : Type} {call : Call}
    {next : call.Answer → Program α} {post : α → Course → Prop}
    (hnext : ∀ answer, ∃ value, next answer = pure value)
    (hundisturbed : ∀ value, post value .undisturbed)
    (hovertaken : ∀ answer value left, next answer = pure value → 11 ≤ left →
      post value (.overtaken (call.gain? answer) left)) :
    overtaking.Meets thread (Program.call call >>= next) post .undisturbed := by
  rw [meets_bind_eq]
  intro answer
  obtain ⟨value, hvalue⟩ := hnext answer
  have hleft : 11 ≤ if call.isInterrupted answer then patience
                    else patience - 1 := by
    split <;> decide
  have hmeets : ∀ s, post value s →
      overtaking.Meets thread (next answer) post s := by
    intro s hs
    rw [hvalue]
    exact hs
  exact ⟨hmeets _ (hundisturbed value),
    fun _ => hmeets _ (hovertaken answer value _ hvalue hleft)⟩

def awaited : Except OsError PollStatus → Option Gain
  | .ok (.ready events) => some (.raised events)
  | _ => none

section Connecting

variable {record : Record}

theorem socketConnect_undisturbed
    {post : Except OsError ConnectStatus → Course → Prop}
    (hundisturbed : ∀ result, post result .undisturbed)
    (hovertaken : ∀ result left,
      11 ≤ left → post result (.overtaken none left)) :
    overtaking.Meets thread (Socket.connect fd record) post .undisturbed := by
  refine call_undisturbed (fun answer => ?_) hundisturbed
    fun answer result left _ hleft => ?_
  · split
    · exact ⟨_, rfl⟩
    · split
      · exact ⟨_, rfl⟩
      · split <;> exact ⟨_, rfl⟩
    · exact ⟨_, rfl⟩
  · exact hovertaken result left hleft

theorem socketPoll_undisturbed {events : Events} {timeout : Int}
    {post : Except OsError PollStatus → Course → Prop}
    (hundisturbed : ∀ result, post result .undisturbed)
    (hovertaken : ∀ result left, 11 ≤ left →
      post result (.overtaken (awaited result) left)) :
    overtaking.Meets thread (Socket.poll fd events timeout) post
      .undisturbed := by
  refine call_undisturbed (fun answer => ?_) hundisturbed
    fun answer result left hvalue hleft => ?_
  · split <;> exact ⟨_, rfl⟩
  · have hgain : Call.gain? (.poll fd events timeout) answer =
        awaited result := by
      cases answer with
      | ok revents =>
          cases hvalue
          by_cases h : revents = 0
          · simp [Call.gain?, awaited, h]
          · simp [Call.gain?, awaited, h]
      | error error =>
          cases hvalue
          by_cases h : error.isInterrupted = true
          · simp [Call.gain?, awaited, h]
          · simp [Call.gain?, awaited, h]
    rw [hgain]
    exact hovertaken result left hleft

theorem isOpen_undisturbed {α : Type} {next : Bool → Program α}
    {post : α → Course → Prop}
    (hnext : ∀ isOpen,
      overtaking.Meets thread (next isOpen) post .undisturbed) :
    overtaking.Meets thread (Program.perform .isOpen >>= next) post
      .undisturbed := by
  rw [meets_bind_eq]
  exact hnext

theorem isOpen_overtaken {α : Type} {gain : Option Gain} {credit : Nat}
    {next : Bool → Program α} {post : α → Course → Prop} (hcredit : 0 < credit)
    (hnext : overtaking.Meets thread (next false) post
      (.overtaken gain (credit - 1))) :
    overtaking.Meets thread (Program.perform .isOpen >>= next) post
      (.overtaken gain credit) := by
  rw [meets_bind_eq]
  exact ⟨hcredit, hnext⟩

theorem canSpare_undisturbed {n : Nat} :
    Course.CanSpare n .undisturbed := trivial

theorem canSpare_overtaken {n credit : Nat} {gain : Option Gain}
    (h : n ≤ credit) :
    Course.CanSpare n (.overtaken gain credit) := h

theorem attempt_meets {post : Except OsError ConnectStatus → Course → Prop}
    (hpost : ∀ result s, s.CanSpare 10 → post result s) :
    overtaking.Meets thread (attempt fd record) post .undisturbed := by
  refine meets_loop (fun s => s = .undisturbed) nofun rfl fun s hs => ?_
  subst hs
  rw [meets_bind_eq]
  refine socketConnect_undisturbed (fun result => ?_)
    fun result left hleft => ?_
  · split
    · refine isOpen_undisturbed fun isOpen => ?_
      cases isOpen with
      | true => rfl
      | false => exact hpost _ _ canSpare_undisturbed
    · exact hpost _ _ canSpare_undisturbed
  · split
    · exact isOpen_overtaken (by omega)
        (hpost _ _ (canSpare_overtaken (by omega)))
    · exact hpost _ _ (canSpare_overtaken (by omega))

/-- Neither an attempt nor the waiting in between is repeated once the thread
has been overtaken. -/
theorem awaitConnection_meets {blocking : Bool}
    {post : Except OsError Bool → Course → Prop}
    (hpost : ∀ result s, s.CanSpare 10 → post result s) :
    overtaking.Meets thread (awaitConnection fd record blocking) post
      .undisturbed := by
  have hundisturbed : ∀ result, post result .undisturbed :=
    fun result => hpost result _ canSpare_undisturbed
  have hovertaken :
      ∀ result gain left, 10 ≤ left → post result (.overtaken gain left) :=
    fun result gain left hleft => hpost result _ (canSpare_overtaken hleft)
  refine meets_loop (fun s => s = .undisturbed) nofun rfl fun s hs => ?_
  subst hs
  rw [meets_bind_eq]
  refine socketConnect_undisturbed (fun result => ?_)
    fun result left hleft => ?_
  · split
    · exact hundisturbed _
    · split <;> exact hundisturbed _
    · refine isOpen_undisturbed fun isOpen => ?_
      cases isOpen with
      | true => rfl
      | false => exact hundisturbed _
    · refine isOpen_undisturbed fun isOpen => ?_
      split
      · rw [meets_bind_eq]
        refine socketPoll_undisturbed (fun polled => ?_)
          fun polled left hleft => ?_
        · split
          · exact hundisturbed _
          · refine isOpen_undisturbed fun isOpen => ?_
            cases isOpen with
            | true => rfl
            | false => exact hundisturbed _
        · split
          · exact hovertaken _ _ _ (by omega)
          · exact isOpen_overtaken (by omega) (hovertaken _ _ _ (by omega))
      · exact hundisturbed _
  · split
    · exact hovertaken _ _ _ (by omega)
    · split <;> exact hovertaken _ _ _ (by omega)
    · exact isOpen_overtaken (by omega) (hovertaken _ _ _ (by omega))
    · refine isOpen_overtaken (by omega) ?_
      rw [Bool.and_false]
      exact hovertaken _ _ _ (by omega)

theorem exclusively_meets {α : Type} {body : Operating α}
    {post : Except ChannelError α → Course → Prop}
    (hbody : ∀ {post' : Except ChannelError α → Course → Prop},
      (∀ result, post' result .undisturbed) →
      (∀ gain left, 2 ≤ left → post' (.error .asynchronousClose)
        (.overtaken gain left)) →
          overtaking.Meets thread body.run post' .undisturbed)
    (hundisturbed : ∀ result, post result .undisturbed)
    (hovertaken : ∀ gain left, post (.error .asynchronousClose)
      (.overtaken gain left)) :
    overtaking.Meets thread
      (Operating.holding .read (Operating.holding .write body)).run post
      .undisturbed := by
  rw [meets_run_holding]
  refine fun _ => ?_
  rw [meets_run_holding]
  refine fun _ => hbody (fun result => fun _ _ => hundisturbed result)
    fun gain left hleft => ?_
  exact ⟨by omega, fun _ => ⟨by omega, fun _ => hovertaken gain _⟩⟩

theorem leave_then_meets {α : Type} {rest : Operating α} {s : Course}
    {post : Except ChannelError α → Course → Prop} (hs : s.CanSpare 10)
    (hundisturbed : ∀ result, post result .undisturbed)
    (hovertaken : ∀ gain left, 2 ≤ left →
      post (.error .asynchronousClose) (.overtaken gain left))
    (hrest : rest.run.IsAloof) :
    overtaking.Meets thread (leave .input false >>= fun _ => rest).run
      post s := by
  cases s with
  | undisturbed =>
      exact undisturbed_of_isAloof
        (Operating.isAloof_bind (leave_isAloof _ _) fun _ => hrest)
        hundisturbed
  | overtaken gain credit =>
      have hcredit : 10 ≤ credit := hs
      rw [meets_run_bind]
      exact leave_overtaken (by omega)
        fun left hleft => hovertaken gain left (by omega)

theorem connect_meets {address : Address}
    {post : Except ChannelError Bool → Course → Prop}
    (hundisturbed : ∀ result, post result .undisturbed)
    (hovertaken : ∀ gain left, post (.error .asynchronousClose)
      (.overtaken gain left)) :
    overtaking.Meets thread (Channel.connect fd address).run post
      .undisturbed := by
  rw [Channel.connect, meets_run_bind]
  refine undisturbed_of_isAloof (encode_isAloof address) fun encoded => ?_
  cases encoded with
  | error error => exact hundisturbed _
  | ok record =>
      refine exclusively_meets (fun hundisturbed hovertaken => ?_) hundisturbed
        hovertaken
      rw [meets_run_bind]
      refine undisturbed_of_isAloof beginConnect_isAloof fun begun => ?_
      cases begun with
      | error error => exact hundisturbed _
      | ok =>
          rw [meets_run_bind, meets_run_lift]
          refine attempt_meets
            fun result s hs => leave_then_meets hs hundisturbed hovertaken ?_
          split
          · exact Operating.isAloof_bind (markConnected_isAloof _)
              fun _ => Operating.isAloof_pure _
          · refine Operating.isAloof_bind (Operating.isAloof_holding ?_)
              fun _ =>
              Operating.isAloof_pure _
            refine Operating.isAloof_bind (Operating.isAloof_perform rfl)
              fun fields => ?_
            exact Operating.isAloof_bind ensureStillOpen_isAloof fun _ =>
              Operating.isAloof_perform rfl
          · trivial
          · exact closeAfter_isAloof _

theorem finishConnect_meets {post : Except ChannelError Bool → Course → Prop}
    (hundisturbed : ∀ result, post result .undisturbed)
    (hovertaken : ∀ gain left, post (.error .asynchronousClose)
      (.overtaken gain left)) :
    overtaking.Meets thread (finishConnect fd).run post .undisturbed := by
  refine exclusively_meets (fun hundisturbed hovertaken => ?_) hundisturbed
    hovertaken
  rw [meets_run_bind]
  refine undisturbed_of_isAloof beginFinish_isAloof fun begun => ?_
  rcases begun with error | _ | record
  · exact hundisturbed _
  · exact hundisturbed _
  · refine perform_undisturbed rfl fun blocking => ?_
    rw [meets_run_bind, meets_run_lift]
    refine awaitConnection_meets fun result s hs =>
      leave_then_meets hs hundisturbed hovertaken ?_
    split
    · exact Operating.isAloof_bind (markConnected_isAloof _)
        fun _ => Operating.isAloof_pure _
    · trivial
    · exact closeAfter_isAloof _

end Connecting

theorem poll_meets {interest : Interest} {timeout : Option Duration}
    {post : Except ChannelError PollStatus → Course → Prop}
    (hundisturbed : ∀ result, post result .undisturbed)
    (hraised : ∀ events left, post (.ok (.ready events))
      (.overtaken (some (.raised events)) left))
    (hovertaken : ∀ left, post (.error .asynchronousClose)
      (.overtaken none left)) :
    overtaking.Meets thread (Channel.poll fd interest timeout).run post
      .undisturbed := by
  refine perform_undisturbed rfl fun blocking => ?_
  cases blocking with
  | true => exact hundisturbed _
  | false =>
      show overtaking.Meets thread
          (Operating.holding .read _).run post .undisturbed
      rw [meets_run_holding]
      refine fun _ => ?_
      rw [meets_run_bind]
      refine undisturbed_of_isAloof enterOpen_isAloof fun entered => ?_
      cases entered with
      | error error => exact fun _ => hundisturbed _
      | ok =>
          simp only [meets_run_bind, meets_run_lift]
          refine socketPoll_undisturbed (fun result => ?_)
            fun result left hleft => ?_
          · refine undisturbed_of_isAloof (leave_isAloof _ _) fun left => ?_
            cases left <;> exact fun _ => hundisturbed _
          · refine leave_overtaken (by omega) fun left' hleft' => ?_
            rcases result with error | events | _ | _
            · exact ⟨by omega, fun _ => hovertaken _⟩
            · exact ⟨by omega, fun _ => hraised _ _⟩
            · exact ⟨by omega, fun _ => hovertaken _⟩
            · exact ⟨by omega, fun _ => hovertaken _⟩

/-! ## All operations -/

theorem obeyed (fd : Fd) : overtaking.Obeyed fd := by
  intro thread operation _
  have hclose : ∀ reply, Course.Closes operation reply .undisturbed :=
    fun _ => trivial
  cases operation with
  | connect address =>
      simp only [Operation.program, meets_reply]
      refine connect_meets (fun result => ?_) fun gain left => rfl
      cases result <;> trivial
  | finishConnect =>
      simp only [Operation.program, meets_reply]
      refine finishConnect_meets (fun result => ?_) fun gain left => rfl
      cases result <;> trivial
  | poll interest timeout =>
      simp only [Operation.program, meets_reply]
      refine poll_meets (fun result => ?_) (fun events left => rfl)
        fun left => rfl
      cases result <;> trivial
  | read window =>
      simp only [Operation.program, meets_bind_eq]
      exact transferWith_meets (socketRead_isTransfer window) (fun _ => trivial)
        fun gain left window => ⟨window, rfl⟩
  | readMany windows =>
      simp only [Operation.program, meets_bind_eq]
      exact transferWith_meets (socketReadMany_isTransfer windows)
        (fun _ => trivial)
        fun gain left windows => ⟨windows, rfl⟩
  | write window =>
      simp only [Operation.program, meets_bind_eq]
      exact transferWith_meets (socketWrite_isTransfer window)
        (fun _ => trivial)
        fun gain left window => ⟨window, rfl⟩
  | writeMany windows =>
      simp only [Operation.program, meets_bind_eq]
      exact transferWith_meets (socketWriteMany_isTransfer windows)
        (fun _ => trivial)
        fun gain left windows => ⟨windows, rfl⟩
  | receive length =>
      simp only [Operation.program, Channel.receive, meets_bind_eq]
      refine transferWith_meets (socketRead_isTransfer _) (fun outcome => ?_)
        fun gain left window => ?_
      · simp only [meets_pure]
        split <;> trivial
      · rcases gain with _ | count | events
        · rfl
        · exact ⟨window.buffer, rfl⟩
        · rfl
  | send bytes =>
      simp only [Operation.program, Channel.send, meets_bind_eq]
      refine transferWith_meets (socketWrite_isTransfer _) (fun outcome => ?_)
        fun gain left window => ?_
      · simp only [meets_pure]
        split <;> trivial
      · rcases gain with _ | count | events <;> rfl
  | _ => exact undisturbed_of_isAloof (program_isAloof rfl) hclose

end LocalSocket.Overtaking
