import LocalSocket.Proofs.Pending

/-!
# What becomes of a connection attempt

A thread that connects the channel asks the system until it is not interrupted,
and that answer decides: the connection is established, the attempt has failed
and the channel is closed, or the system has left the attempt pending.  The
thread takes the last for an answer whether or not the channel is blocking.
-/

namespace LocalSocket

/-- The thread has made the channel one with an attempt under way. -/
def Journal.Starts (s : Journal) (address : Address) : Prop :=
  ∃ change ∈ s.changes, change.2.fields.state = .connecting ∧
    change.2.fields.remoteAddress = some address

theorem Journal.Starts.of_subset {s s' : Journal} {address : Address}
    (h : s.Starts address) (kept : s.changes ⊆ s'.changes) :
    s'.Starts address := by
  obtain ⟨change, hmem, started⟩ := h
  exact ⟨change, kept hmem, started⟩

namespace Connecting

open Protocol Channel Pending

/-- How a thread comes upon a channel that it is connecting: if `steady`, it
finds it open; if `unrivalled`, with no attempt of another thread. -/
def prospect (steady unrivalled : Prop) : Prospect where
  finds action channel :=
    (steady → action = .isOpen → channel.isOpen = true) ∧
    (unrivalled → action = .fields → channel.fields.state ≠ .connected ∧
      channel.fields.state ≠ .connecting)

/-- How the operation tells its result. -/
def told : Except ChannelError Bool → Channel.Reply
  | .ok value => .isConnected value
  | .error error => .failed error

/-- What the answer that decides an attempt means for the operation. -/
def concluded (answer : Except OsError Unit) : Except ChannelError Bool :=
  match Socket.judged answer with
  | .ok .connected => .ok true
  | .ok .inProgress => .ok false
  | .ok .interrupted => .error .asynchronousClose
  | .error error => .error (.socket error)

theorem concluded_eq_ok_false {answer : Except OsError Unit} :
    concluded answer = .ok false ↔ IsPending answer := by
  rw [← judged_eq_inProgress, concluded]
  rcases Socket.judged answer with _ | _ | _ | _ <;> simp

section Parts

variable {fd : Fd} {thread : Thread} {steady unrivalled : Prop} {s : Journal}
  {record : Record} {address : Address}

theorem prospect_opens (h : steady) (channel : Channel)
    (found : (prospect steady unrivalled).finds .isOpen channel) :
    channel.isOpen = true :=
  found.1 h rfl

/-- Refused, the attempt is not made. -/
def Refused (steady unrivalled : Prop) (error : ChannelError) (s : Journal) :
    Prop :=
  error ≠ .asynchronousClose ∧ s.blocked = [] ∧
    (¬steady ∧ s.left.isOpen = false ∨ ¬unrivalled ∧
      (error = .alreadyConnected ∨ error = .connectionPending))

def Begun (steady unrivalled : Prop) (s : Journal) :
    Except ChannelError Unit → Journal → Prop
  | .error error, s' => Refused steady unrivalled error s'
  | .ok (), s' => Journal.Calm [] s s'

theorem Refused.of_calm {error : ChannelError} {s' : Journal}
    (h : Refused steady unrivalled error s) (calm : Journal.Calm [] s s') :
    Refused steady unrivalled error s' := by
  obtain ⟨told, unasked, refused⟩ := h
  refine ⟨told, ?_, refused.imp_left (.imp_right calm.closed)⟩
  rw [Journal.blocked, calm.exchanges, List.append_nil]
  exact unasked

theorem begun_stable : Journal.Stable (Begun steady unrivalled s) := by
  rintro (error | _) s' s'' calm h
  · exact Refused.of_calm h calm
  · exact Journal.Calm.trans_quiet h calm

theorem beginConnect_meets (unasked : s.blocked = []) :
    (prospect steady unrivalled).protocol.Meets thread beginConnect.run
      (Begun steady unrivalled s) s := by
  refine holding_meets begun_stable fun s₁ calm₁ held => ?_
  have unasked₁ : s₁.blocked = [] := by
    simpa [Journal.blocked, calm₁.exchanges] using unasked
  rw [meets_run_bind]
  refine Prospect.look_meets (fun channel finds isOpen => ?_)
    fun channel finds closed => ?_
  · have held₁ := finds.drifts.locks_state held
    refine fields_meets held₁ fun channel₂ finds₂ hfields => ?_
    have calm₂ : Journal.Calm [] s
        ((s₁.acted channel channel).acted channel₂ channel₂) :=
      (calm₁.trans_quiet (.acted finds.drifts (.refl _))).trans_quiet
        (.acted finds₂.drifts (.refl _))
    have unstarted := finds₂.found.2
    rw [hfields] at unstarted
    rw [meets_run_ite]
    split
    · rename_i connected
      exact ⟨by simp, unasked₁,
        .inr ⟨fun h => (unstarted h rfl).1 connected, .inl rfl⟩⟩
    rw [meets_run_ite]
    split
    · rename_i connecting
      exact ⟨by simp, unasked₁,
        .inr ⟨fun h => (unstarted h rfl).2 connecting, .inr rfl⟩⟩
    · exact enter_meets (finds₂.drifts.locks_state held₁) fun s' calm' =>
        calm₂.trans_quiet calm'
  · refine ⟨by simp, unasked₁, .inl ⟨fun h => ?_, closed⟩⟩
    simpa [closed] using prospect_opens h _ finds.found

/-- The attempt has come to this result.  The last answer tells it, and that is
an interruption only if the attempt has been given up on a closed channel. -/
def Attempted (fd : Fd) (record : Record) (steady : Prop) (s : Journal)
    (result : Except OsError ConnectStatus) (s' : Journal) : Prop :=
  ∃ (interruptions : List (Except OsError Unit)) (answer : Except OsError Unit),
    (∀ interruption ∈ interruptions,
      interruption = .error (.code Errno.interrupted)) ∧
    Journal.Calm ((Call.connect fd record).exchanges
      (interruptions ++ [answer])) s s' ∧
    result = Socket.judged answer ∧
    (answer = .error (.code Errno.interrupted) →
      ¬steady ∧ s'.left.isOpen = false)

theorem attempt_meets : (prospect steady unrivalled).protocol.Meets thread
    (attempt fd record) (Attempted fd record steady s) s := by
  rw [attempt_eq]
  refine meets_loop (fun s' => ∃ asked, Journal.Calm asked s s' ∧
    Repeats fd record asked) (by simp [Program.next?])
    ⟨[], .refl s, [], by simp, rfl⟩ ?_
  rintro s₁ ⟨_, calm, interruptions, hinterrupted, rfl⟩ answer
  show (prospect steady unrivalled).protocol.Meets thread
    (settling (Socket.judged answer)) _ _
  have heard : Journal.Calm
      ((Call.connect fd record).exchanges (interruptions ++ [answer])) s
      (s₁.heard ⟨.connect fd record, answer⟩) := by
    simpa [Call.exchanges] using
      calm.trans (.heard ⟨.connect fd record, answer⟩)
  by_cases final : answer = .error (.code Errno.interrupted)
  · rw [judged_eq_interrupted.mpr final]
    refine Prospect.act_inward rfl fun channel _ _ finds answered => ?_
    cases answered
    have calm₂ := heard.trans_quiet (.acted finds.drifts (.refl channel))
    cases isOpen : channel.isOpen with
    | true =>
        subst final
        exact ⟨_, calm₂, _, List.forall_mem_append.mpr
          ⟨hinterrupted, by simp⟩, rfl⟩
    | false =>
        refine ⟨interruptions, answer, hinterrupted, calm₂,
          (judged_eq_interrupted.mpr final).symm,
          fun _ => ⟨fun h => ?_, isOpen⟩⟩
        simpa [isOpen] using prospect_opens h _ finds.found
  · rw [settling_eq (judged_eq_interrupted.not.mpr final)]
    exact ⟨interruptions, answer, hinterrupted, heard, rfl,
      fun h => absurd h final⟩

/-! ### The whole of it -/

/-- Of the calls in which the thread may be blocked, the last is the only one
that is not interrupted, and its answer tells the result. -/
def AnswerDecides (fd : Fd) (record : Record)
    (result : Except ChannelError Bool) (s : Journal) : Prop :=
  ∃ (interruptions : List (Except OsError Unit)) (answer : Except OsError Unit),
    (∀ interruption ∈ interruptions,
      interruption = .error (.code Errno.interrupted)) ∧
    answer ≠ .error (.code Errno.interrupted) ∧
    s.blocked =
      (Call.connect fd record).exchanges (interruptions ++ [answer]) ∧
    result = concluded answer

structure Concluded (fd : Fd) (record : Record) (address : Address)
    (steady unrivalled : Prop) (result : Except ChannelError Bool)
    (s : Journal) : Prop where
  outcome : match result with
    | .error error => s.left.isOpen = false ∨ ¬unrivalled ∧
        (error = .alreadyConnected ∨ error = .connectionPending)
    | .ok true => s.Connects
    | .ok false => s.Starts address ∧ ∃ answer, IsPending answer ∧
        ⟨.connect fd record, answer⟩ ∈ s.exchanges
  told : steady → result ≠ .error .asynchronousClose
  decided : steady → unrivalled → AnswerDecides fd record result s

theorem concluded_stable :
    Journal.Stable (Concluded fd record address steady unrivalled) := by
  rintro result s₁ s₂ calm ⟨outcome, told, decided⟩
  refine ⟨?_, told, ?_⟩
  · rcases result with error | _ | _
    · exact outcome.imp_left calm.closed
    · obtain ⟨starts, answer, pending, hmem⟩ := outcome
      refine ⟨starts.of_subset calm.kept, answer, pending, ?_⟩
      simpa [calm.exchanges] using hmem
    · exact Journal.Connects.of_subset outcome calm.kept
  · simpa [AnswerDecides, Journal.blocked, calm.exchanges] using decided

/-- The system has been asked until an answer has decided the attempt. -/
def Decided (fd : Fd) (record : Record)
    (result : Except OsError ConnectStatus) (s : Journal) : Prop :=
  ∃ (interruptions : List (Except OsError Unit)) (answer : Except OsError Unit),
    (∀ interruption ∈ interruptions,
      interruption = .error (.code Errno.interrupted)) ∧
    answer ≠ .error (.code Errno.interrupted) ∧
    s.exchanges =
      (Call.connect fd record).exchanges (interruptions ++ [answer]) ∧
    result = Socket.judged answer

def Started (address : Address) (steady : Prop) (s : Journal) :
    Except ChannelError Unit → Journal → Prop
  | .error _, s' => ¬steady ∧ s'.left.isOpen = false
  | .ok (), s' => s'.Starts address ∧ s'.exchanges = s.exchanges

theorem started_stable : Journal.Stable (Started address steady s) := by
  rintro (error | _) s' s'' calm h
  · exact ⟨h.1, calm.closed h.2⟩
  · exact ⟨h.1.of_subset calm.kept, by simpa [calm.exchanges] using h.2⟩

/-- The attempt is recorded. -/
theorem start_meets : (prospect steady unrivalled).protocol.Meets thread
    (Operating.holding .state do
      let fields ← Operating.perform .fields
      ensureStillOpen
      Operating.perform (.put { fields with
        state := .connecting, remoteAddress := some address })).run
    (Started address steady s) s := by
  refine holding_meets started_stable fun s₁ calm₁ held => ?_
  refine fields_meets held fun channel finds _ => ?_
  have held₁ := finds.drifts.locks_state held
  rw [meets_run_bind]
  refine Prospect.look_meets (fun channel₂ finds₂ isOpen => ?_)
    fun channel₂ finds₂ closed => ?_
  · refine Prospect.act_inward rfl fun channel₃ _ _ finds₃ answered => ?_
    cases answered
    exact ⟨⟨_, List.mem_append_right _ (List.mem_singleton.mpr rfl), rfl, rfl⟩,
      by simpa using calm₁.exchanges⟩
  · refine ⟨fun h => ?_, closed⟩
    simpa [closed] using prospect_opens h _ finds₂.found

theorem concludeConnect_meets {result : Except OsError ConnectStatus}
    (hdecided : Decided fd record result s) :
    (prospect steady unrivalled).protocol.Meets thread
      (concludeConnect fd address result).run
      (Concluded fd record address steady unrivalled) s := by
  obtain ⟨interruptions, answer, hinterrupted, final, asked, rfl⟩ := hdecided
  have hblocked : s.blocked =
      (Call.connect fd record).exchanges (interruptions ++ [answer]) := by
    rw [Journal.blocked, asked, Call.filter_exchanges rfl]
  have decides {s' : Journal} (h : s'.blocked = s.blocked) :
      AnswerDecides fd record (concluded answer) s' :=
    ⟨interruptions, answer, hinterrupted, final, h.trans hblocked, rfl⟩
  rw [concluded] at decides
  rcases hjudged : Socket.judged answer with error | _ | _ | _
  · simp only [hjudged] at decides
    refine closeAfter_meets.mono ?_
    rintro result s₁ ⟨rfl, closed, h⟩
    exact ⟨.inl closed, fun _ => by simp, fun _ _ => decides h⟩
  · simp only [hjudged] at decides
    rw [concludeConnect, meets_run_bind]
    refine (markConnected_meets prospect_opens).mono fun marked s₁ hmarked => ?_
    obtain error | _ := marked
    · exact ⟨.inl hmarked.2, fun h => absurd h hmarked.1,
        fun h => absurd h hmarked.1⟩
    · exact ⟨hmarked.1, fun _ => by simp, fun _ _ => decides hmarked.2⟩
  · simp only [hjudged] at decides
    have pending := judged_eq_inProgress.mp hjudged
    rw [concludeConnect, meets_run_bind]
    refine start_meets.mono fun started s₁ hstarted => ?_
    obtain error | _ := started
    · exact ⟨.inl hstarted.2, fun h => absurd h hstarted.1,
        fun h => absurd h hstarted.1⟩
    · refine ⟨⟨hstarted.1, answer, pending, ?_⟩, fun _ => by simp,
        fun _ _ =>
          decides (by rw [Journal.blocked, hstarted.2, Journal.blocked])⟩
      rw [hstarted.2, asked]
      simp [Call.exchanges]
  · exact absurd (judged_eq_interrupted.mp hjudged) final

/-- From the beginning of the operation on. -/
theorem connect_meets {channel : Channel}
    (encoded : Record.ofAddress address = .ok record) :
    (prospect steady unrivalled).protocol.Meets thread
      (Channel.connect fd address).run
      (Concluded fd record address steady unrivalled) { left := channel } := by
  rw [connect_of_ok encoded]
  refine holding_meets concluded_stable fun s₁ calm₁ _ => ?_
  refine holding_meets concluded_stable fun s₂ calm₂ _ => ?_
  have calm := calm₁.trans_quiet calm₂
  have unasked : s₂.blocked = [] := by simp [Journal.blocked, calm.exchanges]
  rw [meets_run_bind]
  refine (beginConnect_meets unasked).mono fun begun s₃ hbegun => ?_
  obtain error | _ := begun
  · obtain ⟨told, unasked, refused⟩ := hbegun
    refine ⟨refused.imp And.right id, fun _ h => told (Except.error.inj h),
      fun h h' => ?_⟩
    exact absurd refused (not_or.mpr ⟨fun h'' => h''.1 h, fun h'' => h''.1 h'⟩)
  · refine Prospect.lift_meets (attempt_meets.mono
      fun result s₄ attempted => ?_)
    rw [meets_run_bind]
    refine (leave_meets prospect_opens).mono fun left s₅ hleft => ?_
    obtain error | _ := left
    · exact ⟨.inl hleft.2, fun h => absurd h hleft.1,
        fun h => absurd h hleft.1⟩
    · refine concludeConnect_meets ?_
      obtain ⟨interruptions, answer, hinterrupted, calm₄, rfl, given⟩ :=
        attempted
      have asked := ((calm.trans_quiet hbegun).trans calm₄).trans_quiet hleft.1
      exact ⟨interruptions, answer, hinterrupted,
        fun interrupted => hleft.2 (given interrupted).2,
        by simpa using asked.exchanges, rfl⟩

end Parts

end Connecting

section Episode

variable {fd : Fd} {before during trace : Trace} {c c' : Config}
  {thread : Thread} {reply : Channel.Reply} {address : Address}
  {record : Record}

theorem Connecting.holds {steady unrivalled : Prop}
    (stays : steady → ¬Steps.Sees fd thread c trace c' .isOpen
      fun channel => channel.isOpen = false)
    (unstarted : unrivalled → ¬Steps.Sees fd thread c trace c' .fields
      fun channel => channel.fields.state = .connected ∨
        channel.fields.state = .connecting) :
    (prospect steady unrivalled).Holds fd thread c trace c' := by
  rintro action ⟨past, rest, c₁, c₂, hpast, step, hrest, htrace, unexpected⟩
  have sees {found : Channel → Prop} (h : found c₁.channel) :
      Steps.Sees fd thread c trace c' action found :=
    ⟨past, rest, c₁, c₂, hpast, step, hrest, htrace, h⟩
  refine unexpected ⟨?_, ?_⟩
  · rintro h rfl
    by_contra closed
    exact stays h (sees (by simpa using closed))
  · rintro h rfl
    exact ⟨fun connected => unstarted h (sees (.inl connected)),
      fun connecting => unstarted h (sees (.inr connecting))⟩

theorem Connecting.program_meets {steady unrivalled : Prop} {channel : Channel}
    (encoded : Record.ofAddress address = .ok record) :
    (prospect steady unrivalled).protocol.Meets thread
      (Channel.Operation.connect address |>.program fd)
      (fun reply s => ∃ result,
        Concluded fd record address steady unrivalled result s ∧
        reply = told result)
      { left := channel } := by
  show (prospect steady unrivalled).protocol.Meets thread
    (Channel.reply .isConnected (Channel.connect fd address)) _ _
  rw [Protocol.meets_reply]
  refine (connect_meets encoded).mono fun result s hresult => ?_
  cases result with
  | ok value => exact ⟨.ok value, hresult, rfl⟩
  | error error => exact ⟨.error error, hresult, rfl⟩

/-- What may have become of the attempt when the thread is told of it: a
connection, which the channel has had at some point of the operation and still
has if it is open; a closed channel; or an attempt that is under way, because
the system has said so. -/
inductive Connecting.Comes (fd : Fd) (thread : Thread) (c : Config)
    (address : Address) (record : Record) (during : Trace) (c' : Config) :
    Channel.Reply → Prop where
  | connected {channel channel' : Channel}
      (turns : Steps.Turns fd thread c
        (during.framed thread (.connect address) (.isConnected true)) c'
        channel channel')
      (connected : channel'.fields.state = .connected)
      (still : c'.channel.isOpen = true →
        c'.channel.fields.state = .connected) :
      Comes fd thread c address record during c' (.isConnected true)
  | failed (error : ChannelError) (closed : c'.channel.isOpen = false) :
      Comes fd thread c address record during c' (.failed error)
  | pending {channel channel' : Channel} {answer : Except OsError Unit}
      (turns : Steps.Turns fd thread c
        (during.framed thread (.connect address) (.isConnected false)) c'
        channel channel')
      (connecting : channel'.fields.state = .connecting)
      (remote : channel'.fields.remoteAddress = some address)
      (pending : Pending.IsPending answer)
      (answered : ⟨.connect fd record, answer⟩ ∈ during.exchanges thread) :
      Comes fd thread c address record during c' (.isConnected false)

theorem Episode.comes (run : Run fd before c)
    (encoded : Record.ofAddress address = .ok record)
    (episode : Episode fd thread (.connect address) c during reply c')
    (unrivalled : ¬Steps.Sees fd thread c
      (during.framed thread (.connect address) reply) c' .fields
      fun channel => channel.fields.state = .connected ∨
        channel.fields.state = .connecting) :
    Connecting.Comes fd thread c address record during c' reply := by
  have holds : (Connecting.prospect False True).Holds fd thread c _ c' :=
    Connecting.holds False.elim fun _ => unrivalled
  obtain ⟨s, ⟨result, ⟨outcome, _, _⟩, rfl⟩, tells⟩ :=
    episode.journal run (Connecting.program_meets encoded) False.elim holds
  rcases result with error | _ | _
  · have closed := outcome.resolve_right fun h => h.1 trivial
    exact .failed error (tells.drifts.closed closed)
  · obtain ⟨⟨change, hmem, connecting, remote⟩, answer, pending, hasked⟩ :=
      outcome
    exact .pending (tells.turns change hmem) connecting remote pending
      (tells.exchanges ▸ hasked)
  · obtain ⟨change, hmem, connected⟩ := outcome
    have turns := tells.turns change hmem
    exact .connected turns connected (turns.connected_of_isOpen run connected)

end Episode

end LocalSocket
