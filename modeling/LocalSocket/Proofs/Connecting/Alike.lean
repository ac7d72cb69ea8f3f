import LocalSocket.Proofs.Connecting.Ending
import LocalSocket.Proofs.LockOrder.Waiting

/-!
# Two ways of making an attempt

An attempt is made when a thread connects the channel, and made again when a
thread finishes connecting it.  Both go by the first answer that is no
interruption, and they take it alike, but for one: a socket that is connected
already is an established connection to the one and a failure to the other.
-/

namespace LocalSocket

open Program Operating Channel Pending

/-- What an attempt to connect has been answered. -/
def Exchange.attempt? : Exchange → Option (Except OsError Unit)
  | ⟨.connect .., answer⟩ => some answer
  | _ => none

/-- The answer that decides an attempt. -/
def decisive? (answers : List (Except OsError Unit)) :
    Option (Except OsError Unit) :=
  answers.find? fun answer => answer ≠ .error (.code Errno.interrupted)

theorem decisive?_of_prefix {interruptions answers : List (Except OsError Unit)}
    {answer : Except OsError Unit}
    (hinterrupted : ∀ interruption ∈ interruptions,
      interruption = .error (.code Errno.interrupted))
    (final : answer ≠ .error (.code Errno.interrupted))
    (driven : interruptions ++ [answer] <+: answers) :
    decisive? answers = some answer := by
  obtain ⟨rest, rfl⟩ := driven
  have passed : decisive? interruptions = none := by
    simpa [decisive?] using hinterrupted
  rw [decisive?, List.append_assoc, List.find?_append, ← decisive?, passed,
    Option.none_or, List.singleton_append, List.find?_cons_of_pos]
  simpa using final

theorem attempts_of_blocked {fd : Fd} {record : Record}
    {exchanges : List Exchange} {answers : List (Except OsError Unit)}
    (h : (exchanges.filter fun exchange => exchange.call.isBlocking) =
      (Call.connect fd record).exchanges answers) :
    exchanges.filterMap Exchange.attempt? = answers := by
  have known : exchanges.filterMap Exchange.attempt? =
      (exchanges.filter fun exchange =>
        exchange.call.isBlocking).filterMap Exchange.attempt? := by
    rw [List.filterMap_filter]
    refine List.filterMap_congr fun exchange _ => ?_
    split
    · rfl
    · rename_i calm
      rcases exchange with ⟨call, answer⟩
      cases call <;> first | rfl | exact absurd rfl calm
  rw [known, h, Call.exchanges, List.filterMap_map]
  exact List.filterMap_some

theorem eq_of_judged_eq_error {answer : Except OsError Unit} {error : OsError}
    (h : Socket.judged answer = .error error) : answer = .error error := by
  rcases answer with (errno | ⟨kind, message⟩) | _
  · rw [Socket.judged] at h
    split at h
    · cases h
    · split at h
      · cases h
      · cases h
        rfl
  · cases h
    rfl
  · cases h

/-- But for one answer, both take it alike. -/
theorem concluded_eq_finishing {answer : Except OsError Unit}
    (final : answer ≠ .error (.code Errno.interrupted))
    (unknown : answer ≠ .error (.code Errno.isConnected)) :
    Connecting.concluded answer = (finishing answer).mapError .socket := by
  rw [Ne, ← judged_eq_interrupted] at final
  rw [Connecting.concluded, finishing]
  rcases hjudged : Socket.judged answer with error | _ | _ | _
  · obtain rfl := eq_of_judged_eq_error hjudged
    have known : error.errno? ≠ some Errno.isConnected := by
      cases error with
      | code errno =>
          intro h
          obtain rfl := Option.some.inj h
          exact unknown rfl
      | custom => simp [OsError.errno?]
    simp only [if_neg known]
    rfl
  · rfl
  · rfl
  · exact absurd hjudged final

/-! ## Attempts that nobody interferes with -/

/-- The thread connects the channel on these answers.  It finds it open whenever
it looks, with no attempt of another thread. -/
structure Connects (fd : Fd) (thread : Thread) (address : Address) (c : Config)
    (during : Trace) (reply : Reply) (c' : Config)
    (answers : List (Except OsError Unit)) : Prop where
  episode : Episode fd thread (.connect address) c during reply c'
  stays : ¬Steps.Sees fd thread c
    (during.framed thread (.connect address) reply) c' .isOpen
    fun channel => channel.isOpen = false
  unrivalled : ¬Steps.Sees fd thread c
    (during.framed thread (.connect address) reply) c' .fields
    fun channel => channel.fields.state = .connected ∨
      channel.fields.state = .connecting
  driven : (during.exchanges thread).filterMap Exchange.attempt? <+: answers

/-- The thread finishes connecting the channel on these answers.  It finds it
open and not blocking whenever it looks, with the attempt not finished by
another thread. -/
structure Finishes (fd : Fd) (thread : Thread) (c : Config) (during : Trace)
    (reply : Reply) (c' : Config) (answers : List (Except OsError Unit)) :
    Prop where
  episode : Episode fd thread .finishConnect c during reply c'
  nonBlocking : ¬Steps.Sees fd thread c
    (during.framed thread .finishConnect reply) c' .isBlocking
    fun channel => channel.isBlocking = true
  stays : ¬Steps.Sees fd thread c (during.framed thread .finishConnect reply) c'
    .isOpen fun channel => channel.isOpen = false
  unfinished : ¬Steps.Sees fd thread c
    (during.framed thread .finishConnect reply) c' .fields
    fun channel => channel.fields.state = .connected
  driven : (during.exchanges thread).filterMap Exchange.attempt? <+: answers

section Episodes

variable {fd : Fd} {thread : Thread} {address : Address} {record : Record}
  {before during : Trace} {c c' : Config} {reply : Reply}
  {answers : List (Except OsError Unit)}

theorem Connects.decided (connects : Connects fd thread address c during reply
      c' answers) (run : Run fd before c)
    (encoded : Record.ofAddress address = .ok record) :
    ∃ answer, decisive? answers = some answer ∧
      answer ≠ .error (.code Errno.interrupted) ∧
      reply = Connecting.told (Connecting.concluded answer) ∧
      ∀ error, reply = .failed error → c'.channel.isOpen = false := by
  have holds : (Connecting.prospect True True).Holds fd thread c _ c' :=
    Connecting.holds (fun _ => connects.stays) fun _ => connects.unrivalled
  obtain ⟨s, ⟨result, ⟨outcome, _, decided⟩, rfl⟩, tells⟩ :=
    connects.episode.journal run (Connecting.program_meets encoded) False.elim
      holds
  obtain ⟨interruptions, answer, hinterrupted, final, hblocked, rfl⟩ :=
    decided trivial trivial
  rw [Journal.blocked, ← tells.exchanges] at hblocked
  have asked := attempts_of_blocked hblocked
  refine ⟨answer, decisive?_of_prefix hinterrupted final
    (asked ▸ connects.driven), final, rfl, fun error failed => ?_⟩
  cases hresult : Connecting.concluded answer with
  | ok value =>
      rw [hresult] at failed
      cases failed
  | error error =>
      rw [hresult] at outcome
      exact tells.drifts.closed (outcome.resolve_right fun h => h.1 trivial)

theorem Finishes.decided (finishes : Finishes fd thread c during reply c'
      answers) (run : Run fd before c)
    (connecting : c.channel.fields.state = .connecting) :
    ∃ answer, decisive? answers = some answer ∧
      answer ≠ .error (.code Errno.interrupted) ∧
      reply = Connecting.told ((finishing answer).mapError .socket) := by
  have holds : (Pending.prospect false True).Holds fd thread c _ c' :=
    Pending.holds run finishes.nonBlocking (fun _ => finishes.stays)
      fun _ => finishes.unfinished
  obtain ⟨s, ⟨result, ⟨_, asked⟩, rfl⟩, tells⟩ := finishes.episode.journal run
    (Pending.program_meets connecting) False.elim holds
  obtain ⟨record, interruptions, answer, hinterrupted, final, hblocked, _, _,
    rfl⟩ := asked rfl trivial
  rw [Journal.blocked, ← tells.exchanges] at hblocked
  have asked := attempts_of_blocked hblocked
  refine ⟨answer, decisive?_of_prefix hinterrupted final
    (asked ▸ finishes.driven), final, ?_⟩
  cases (finishing answer).mapError ChannelError.socket <;> rfl

/-! ### Threads that have the channel to themselves -/

/-- The channel is open, and nobody uses it but the thread. -/
structure Uses (thread : Thread) (c : Config) (during : Trace) : Prop where
  isOpen : c.channel.isOpen = true
  idle : ∀ other, c.activity other = .idle
  alone : ∀ event ∈ during, event.thread = thread

/-- What rests of the program rests of the operation. -/
theorem Uses.rests {operation : Operation} {program : Operating Bool}
    (uses : Uses thread c during)
    (episode : Episode fd thread operation c during reply c')
    (hprogram : operation.program fd = Channel.reply .isConnected program)
    (meets : solo.Meets thread program.run
      (fun result s => Solo.Rests c.channel result s.channel)
      ⟨c.channel, []⟩) :
    ∃ result, reply = Connecting.told result ∧
      Solo.Rests c.channel result c'.channel := by
  have told : solo.Meets thread (operation.program fd)
      (fun reply s => ∃ result, reply = Connecting.told result ∧
        Solo.Rests c.channel result s.channel) ⟨c.channel, []⟩ := by
    rw [hprogram, Protocol.meets_reply]
    refine meets.mono fun result s rests => ?_
    cases result with
    | ok value => exact ⟨.ok value, rfl, rests⟩
    | error error => exact ⟨.error error, rfl, rests⟩
  obtain ⟨_, hpost, -⟩ := episode.solo uses.alone told
  exact hpost

theorem Connects.rests (connects : Connects fd thread address c during reply
      c' answers) (run : Run fd before c) (uses : Uses thread c during)
    (unconnected : c.channel.fields.state = .unconnected)
    (encoded : Record.ofAddress address = .ok record) :
    ∃ result, reply = Connecting.told result ∧
      Solo.Rests c.channel result c'.channel := by
  obtain ⟨unused, free, -⟩ := run.isUnused uses.isOpen uses.idle
  exact uses.rests connects.episode rfl (Solo.connect_rests unused free
    unconnected encoded fun _ _ _ _ rests => rests)

theorem Finishes.rests (finishes : Finishes fd thread c during reply c'
      answers) (run : Run fd before c) (uses : Uses thread c during)
    (connecting : c.channel.fields.state = .connecting) :
    ∃ result, reply = Connecting.told result ∧
      Solo.Rests c.channel result c'.channel := by
  obtain ⟨unused, free, -⟩ := run.isUnused uses.isOpen uses.idle
  obtain ⟨address, record, _, remote, encoded, -⟩ := run.hasAttempted connecting
  exact uses.rests finishes.episode rfl (Solo.finishConnect_rests unused free
    connecting remote encoded fun _ _ _ rests => rests)

/-- The same result leaves channels with as many registrations at the same stage
of their lives. -/
theorem Solo.Rests.state_eq {start₁ start₂ channel₁ channel₂ : Channel}
    {result : Except ChannelError Bool}
    (rests₁ : Solo.Rests start₁ result channel₁)
    (rests₂ : Solo.Rests start₂ result channel₂)
    (registered : start₂.fields.registrations = start₁.fields.registrations) :
    channel₂.fields.state = channel₁.fields.state := by
  cases result with
  | ok value => exact rests₂.2.trans rests₁.2.symm
  | error error =>
      obtain rfl : channel₁ = start₁.closed := rests₁
      obtain rfl : channel₂ = start₂.closed := rests₂
      simp only [Channel.closed, registered]

end Episodes

theorem Connecting.told_inj {result₁ result₂ : Except ChannelError Bool}
    (h : Connecting.told result₁ = Connecting.told result₂) :
    result₁ = result₂ := by
  rcases result₁ with _ | _ <;> rcases result₂ with _ | _ <;> cases h <;> rfl

/-- Threads that connect a channel and that finish connecting one, undisturbed
and on the same answers, go by the same answer, and reply alike unless it says
that the socket is connected already.  If they have their channels to
themselves, with as many registrations, these end at the same stage of their
lives.  A socket that is connected already is an established connection to the
thread that finishes connecting; the other one fails and closes the channel.
Whatever the answers, as long as they are not interruptions for ever, threads
that have their channels to themselves come to such ends. -/
theorem attempts_taken_alike {fd₁ fd₂ : Fd} {thread₁ thread₂ : Thread}
    {before₁ before₂ : Trace} {c₁ c₂ : Config} {address : Address}
    {record : Record} (run₁ : Run fd₁ before₁ c₁) (run₂ : Run fd₂ before₂ c₂)
    (encoded : Record.ofAddress address = .ok record)
    (connecting : c₂.channel.fields.state = .connecting) :
    (∀ during₁ reply₁ c₁' during₂ reply₂ c₂' answers,
      Connects fd₁ thread₁ address c₁ during₁ reply₁ c₁' answers →
      Finishes fd₂ thread₂ c₂ during₂ reply₂ c₂' answers →
      ∃ answer, decisive? answers = some answer ∧
        (answer ≠ .error (.code Errno.isConnected) → reply₂ = reply₁ ∧
          (Uses thread₁ c₁ during₁ → Uses thread₂ c₂ during₂ →
            c₁.channel.fields.state = .unconnected → c₂.guards = c₁.guards →
            c₂'.channel.fields.state = c₁'.channel.fields.state)) ∧
        (answer = .error (.code Errno.isConnected) →
          reply₂ = .isConnected true ∧
          reply₁ = .failed (.socket (.code Errno.isConnected)) ∧
          c₁'.channel.isOpen = false)) ∧
    (c₁.channel.isOpen = true → c₁.channel.fields.state = .unconnected →
      (∀ other, c₁.activity other = .idle) → c₁.isDropped = false →
      c₂.channel.isOpen = true → c₂.channel.isBlocking = false →
      (∀ other, c₂.activity other = .idle) → c₂.isDropped = false →
      ∀ (interruptions : List (Except OsError Unit))
        (answer : Except OsError Unit),
        (∀ interruption ∈ interruptions,
          interruption = .error (.code Errno.interrupted)) →
        answer ≠ .error (.code Errno.interrupted) →
        Connecting.ComesAlone fd₁ thread₁ (.connect address) c₁ record
          (interruptions ++ [answer]) (Connecting.concluded answer) ∧
        ∃ record, Connecting.ComesAlone fd₂ thread₂ .finishConnect c₂ record
          (interruptions ++ [answer])
          ((finishing answer).mapError .socket)) := by
  refine ⟨fun during₁ reply₁ c₁' during₂ reply₂ c₂' answers connects finishes =>
    ?_, fun isOpen₁ unconnected idle₁ isLive₁ isOpen₂ nonBlocking idle₂ isLive₂
      interruptions answer hinterrupted final => ⟨?_, ?_⟩⟩
  · obtain ⟨answer, hdecisive, final, rfl, closed⟩ :=
      connects.decided run₁ encoded
    obtain ⟨answer', hdecisive', -, rfl⟩ := finishes.decided run₂ connecting
    obtain rfl : answer = answer' :=
      Option.some.inj (hdecisive.symm.trans hdecisive')
    refine ⟨answer, hdecisive, fun unknown => ?_, ?_⟩
    · rw [← concluded_eq_finishing final unknown] at finishes ⊢
      refine ⟨rfl, fun uses₁ uses₂ unconnected guarded => ?_⟩
      obtain ⟨result₁, told₁, rests₁⟩ :=
        connects.rests run₁ uses₁ unconnected encoded
      obtain ⟨result₂, told₂, rests₂⟩ := finishes.rests run₂ uses₂ connecting
      obtain rfl := Connecting.told_inj (told₁.symm.trans told₂)
      refine rests₁.state_eq rests₂ ?_
      rw [(run₁.isUnused uses₁.isOpen uses₁.idle).2.2,
        (run₂.isUnused uses₂.isOpen uses₂.idle).2.2, guarded]
    · rintro rfl
      exact ⟨rfl, rfl, closed _ rfl⟩
  · exact run₁.connects hinterrupted final isOpen₁ unconnected idle₁ isLive₁
      encoded
  · exact run₂.finishes hinterrupted final isOpen₂ nonBlocking connecting idle₂
      isLive₂

/-! ## Attempts that are interrupted -/

/-- The channel is made non-blocking. -/
def untilUnblocked : List Move :=
  [Move.steps 1 7,
    [.answer 1 fun
      | .setNonBlocking .. => .ok ()
      | _ => .error (.code Errno.again)],
    Move.steps 1 4].flatten

theorem untilUnblocked_isSome :
    ((Config.start (.owning 3 .unconnected true)).operate 3 1
      (.configureBlocking false) untilUnblocked).isSome = true := by
  decide +kernel

def unblocked : Trace × Channel.Reply × Config :=
  ((Config.start (.owning 3 .unconnected true)).operate 3 1
    (.configureBlocking false) untilUnblocked).get untilUnblocked_isSome

theorem run_unblocked : Run 3
    ([] ++ .began 1 (.configureBlocking false) :: unblocked.1 ++
      [.ended 1 (.configureBlocking false) unblocked.2.1]) unblocked.2.2 :=
  (Config.episode_get untilUnblocked_isSome).run run_created

/-- A thread connects it: it is interrupted, and asks again. -/
theorem unblocked_connect_isSome : (unblocked.2.2.operate 3 1
    (.connect ⟨[47]⟩) untilConnected).isSome = true := by
  decide +kernel

def connectedAtOnce : Trace × Channel.Reply × Config :=
  (unblocked.2.2.operate 3 1 (.connect ⟨[47]⟩) untilConnected).get
    unblocked_connect_isSome

def untilFinished : List Move :=
  [Move.steps 1 12, [.answer 1 fun _ => .error (.code Errno.interrupted)],
    Move.steps 1 3,
    [.answer 1 fun
      | .connect .. => .ok ()
      | _ => .error (.code Errno.again)],
    Move.steps 1 10, [.answer 1 fun _ => .error (.code Errno.again)],
    Move.steps 1 3].flatten

theorem started_finish_isSome : (started.2.operate 3 1 .finishConnect
    untilFinished).isSome = true := by
  decide +kernel

def connectedLater : Trace × Channel.Reply × Config :=
  (started.2.operate 3 1 .finishConnect untilFinished).get
    started_finish_isSome

theorem connects_interrupted : Connects 3 1 ⟨[47]⟩ unblocked.2.2
    connectedAtOnce.1 (.isConnected true) connectedAtOnce.2.2
    [.error (.code Errno.interrupted), .ok ()] where
  episode := Config.episode_get unblocked_connect_isSome
  stays := Steps.not_sees rfl (by decide +kernel)
  unrivalled := Steps.not_sees rfl (by decide +kernel)
  driven := by decide +kernel

theorem finishes_interrupted : Finishes 3 1 started.2 connectedLater.1
    (.isConnected true) connectedLater.2.2
    [.error (.code Errno.interrupted), .ok ()] where
  episode := Config.episode_get started_finish_isSome
  nonBlocking := Steps.not_sees rfl (by decide +kernel)
  stays := Steps.not_sees rfl (by decide +kernel)
  unfinished := Steps.not_sees rfl (by decide +kernel)
  driven := by decide +kernel

/-- Nobody does anything if nobody has done anything but a thread that is
idle. -/
theorem Run.idle_of_own {fd : Fd} {trace : Trace} {c : Config}
    (run : Run fd trace c) (thread : Thread)
    (own : ∀ event ∈ trace, event.thread = thread)
    (idle : c.activity thread = .idle) (other : Thread) :
    c.activity other = .idle := by
  by_cases h : other = thread
  · exact h ▸ idle
  · exact run.idle_of_unseen fun event hmem same =>
      h (same.symm.trans (own event hmem))

theorem uses_unblocked : Uses 1 unblocked.2.2 connectedAtOnce.1 where
  isOpen := by decide +kernel
  idle := run_unblocked.idle_of_own 1 (by decide +kernel) rfl
  alone := by decide +kernel

theorem uses_started : Uses 1 started.2 connectedLater.1 where
  isOpen := by decide +kernel
  idle := run_started.idle_of_own 1 (by decide +kernel) rfl
  alone := by decide +kernel

theorem started_connecting : started.2.channel.fields.state = .connecting := by
  decide +kernel

theorem interrupted_attempts_alike :
    connectedLater.2.2.channel.fields.state =
      connectedAtOnce.2.2.channel.fields.state ∧
    ∃ during c', Episode 3 1 .finishConnect started.2 during
      (.isConnected true) c' ∧
      (during.exchanges 1).filterMap Exchange.attempt? =
        [.error (.code Errno.interrupted), .ok ()] := by
  obtain ⟨alike, comes⟩ := attempts_taken_alike run_unblocked run_started
    encoded_root started_connecting
  constructor
  · obtain ⟨answer, hdecisive, other, -⟩ := alike _ _ _ _ _ _ _
      connects_interrupted finishes_interrupted
    obtain rfl : .ok () = answer := Option.some.inj hdecisive
    exact (other (by decide)).2 uses_unblocked uses_started
      (by decide +kernel) (by decide +kernel)
  · obtain ⟨-, _, during, _, c', episode, -, asked, rfl, -⟩ := comes
      uses_unblocked.isOpen (by decide +kernel) uses_unblocked.idle
      (by decide +kernel) uses_started.isOpen (by decide +kernel)
      uses_started.idle (by decide +kernel)
      [.error (.code Errno.interrupted)] (.ok ()) (by simp) (by decide)
    exact ⟨during, c', episode, attempts_of_blocked asked⟩

/-- On being told that the socket is connected already, one thread closes the
channel and the other one finds it connected. -/
theorem interrupted_attempts_differ :
    unblocked.2.2.channel.isBlocking = false ∧
    started.2.channel.isBlocking = false ∧
    (∃ during c', Episode 3 1 (.connect ⟨[47]⟩) unblocked.2.2 during
      (.failed (.socket (.code Errno.isConnected))) c' ∧
      (during.exchanges 1).filterMap Exchange.attempt? =
        [.error (.code Errno.interrupted), .error (.code Errno.isConnected)] ∧
      c'.channel.isOpen = false) ∧
    ∃ during c', Episode 3 1 .finishConnect started.2 during
      (.isConnected true) c' ∧
      (during.exchanges 1).filterMap Exchange.attempt? =
        [.error (.code Errno.interrupted), .error (.code Errno.isConnected)] ∧
      c'.channel.isOpen = true ∧ c'.channel.fields.state = .connected := by
  have hinterrupted : ∀ interruption ∈
      [(.error (.code Errno.interrupted) : Except OsError Unit)],
      interruption = .error (.code Errno.interrupted) := by
    simp
  have final : (.error (.code Errno.isConnected) : Except OsError Unit) ≠
      .error (.code Errno.interrupted) := by
    decide
  refine ⟨by decide +kernel, by decide +kernel, ?_, ?_⟩
  · obtain ⟨during, _, c', episode, -, asked, rfl, rests⟩ :=
      run_unblocked.connects hinterrupted final uses_unblocked.isOpen
        (by decide +kernel) uses_unblocked.idle (by decide +kernel) encoded_root
    exact ⟨during, c', episode, attempts_of_blocked asked,
      congrArg Channel.isOpen rests⟩
  · obtain ⟨_, during, _, c', episode, -, asked, rfl, isOpen, stage⟩ :=
      run_started.finishes hinterrupted final uses_started.isOpen
        (by decide +kernel) started_connecting uses_started.idle
        (by decide +kernel)
    exact ⟨during, c', episode, attempts_of_blocked asked, isOpen, stage⟩

end LocalSocket
