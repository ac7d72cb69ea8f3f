import LocalSocket.Proofs.Alone
import LocalSocket.Proofs.Closing.Replies
import Mathlib.Data.Rat.Floor

/-!
# How long a thread waits for events

A thread that polls a channel may be blocked in one call only, which it makes
once, and which tells the system for how many milliseconds to wait.  These are
the time that the thread has been given, rounded up: a short wait is still a
wait, and however long a wait is, it has an end.
-/

namespace LocalSocket

/-! ## Rounding up -/

namespace Duration

/-- The seconds fit into 64 bits, and the nanoseconds make less than a
second. -/
structure IsRepresentable (t : Duration) : Prop where
  seconds_lt : t.seconds < 2 ^ 64
  nanos_lt : t.nanos < 10 ^ 9

variable {t t' : Duration}

theorem toNanos_eq_zero_iff : t.toNanos = 0 ↔ t = .zero := by
  obtain ⟨seconds, nanos⟩ := t
  simp only [toNanos, zero, Duration.mk.injEq]
  omega

theorem ceil_millis (nanos : Nat) :
    ⌈(nanos : ℚ) / 1000000⌉ = ((nanos + 999999) / 1000000 : Nat) := by
  generalize hmillis : (nanos + 999999) / 1000000 = millis
  have enough : nanos ≤ millis * 1000000 := by omega
  have close : millis * 1000000 < nanos + 1000000 := by omega
  rw [Int.ceil_eq_iff, lt_div_iff₀ (by norm_num), div_le_iff₀ (by norm_num)]
  constructor
  · have close' : (millis : ℚ) * 1000000 < nanos + 1000000 := by
      exact_mod_cast close
    push_cast
    linarith
  · exact_mod_cast enough

theorem timeoutMillis_eq_ceil : (t.timeoutMillis : Int) =
    min ⌈(t.toNanos : ℚ) / 1000000⌉ (2 ^ 31 - 1) := by
  rw [ceil_millis, timeoutMillis, Nat.cast_min]
  rfl

theorem timeoutMillis_eq_zero_iff : t.timeoutMillis = 0 ↔ t = .zero := by
  rw [← toNanos_eq_zero_iff, timeoutMillis, intMax]
  omega

/-- A wait that the system can take is not cut short, and not drawn out by a
millisecond. -/
theorem timeoutMillis_bounds (short : t.toNanos ≤ (2 ^ 31 - 1) * 1000000) :
    t.toNanos ≤ t.timeoutMillis * 1000000 ∧
      t.timeoutMillis * 1000000 < t.toNanos + 1000000 := by
  rw [timeoutMillis, intMax]
  omega

example : (⟨0, 2001000⟩ : Duration).timeoutMillis = 3 := by decide

theorem timeoutMillis_mono (h : t.toNanos ≤ t'.toNanos) :
    t.timeoutMillis ≤ t'.timeoutMillis := by
  rw [timeoutMillis, timeoutMillis]
  omega

/-! ### In words of the machine -/

/-- The milliseconds, rounded up in 128 bits.  The seconds come with 64 bits
and the nanoseconds with 32. -/
def millisWord (t : Duration) : BitVec 128 :=
  ((BitVec.ofNat 64 t.seconds).setWidth 128 * 1000000000#128 +
    (BitVec.ofNat 32 t.nanos).setWidth 128 + 999999#128) / 1000000#128

/-- The milliseconds in 32 bits with a sign, or as many as these can hold. -/
def timeoutWord (t : Duration) : BitVec 32 :=
  if t.millisWord.toNat ≤ intMax then t.millisWord.setWidth 32
  else BitVec.ofNat 32 intMax

theorem toNat_rounded {seconds nanos : BitVec 128}
    (seconds_lt : seconds.toNat < 2 ^ 64) (nanos_lt : nanos.toNat < 10 ^ 9) :
    ((seconds * 1000000000#128 + nanos + 999999#128) / 1000000#128).toNat =
      (seconds.toNat * 1000000000 + nanos.toNat + 999999) / 1000000 := by
  have scaled : (seconds * 1000000000#128).toNat =
      seconds.toNat * 1000000000 := by
    rw [BitVec.toNat_mul, BitVec.toNat_ofNat]
    omega
  have total : (seconds * 1000000000#128 + nanos).toNat =
      seconds.toNat * 1000000000 + nanos.toNat := by
    rw [BitVec.toNat_add, scaled]
    omega
  have raised : (seconds * 1000000000#128 + nanos + 999999#128).toNat =
      seconds.toNat * 1000000000 + nanos.toNat + 999999 := by
    rw [BitVec.toNat_add, total, BitVec.toNat_ofNat]
    omega
  rw [BitVec.toNat_udiv, raised]
  rfl

namespace IsRepresentable

theorem sum_lt (h : t.IsRepresentable) : t.toNanos + 999999 < 2 ^ 128 := by
  obtain ⟨seconds_lt, nanos_lt⟩ := h
  rw [toNanos]
  omega

/-- None of the words wraps around. -/
theorem toNat_millisWord (h : t.IsRepresentable) :
    t.millisWord.toNat = (t.toNanos + 999999) / 1000000 := by
  obtain ⟨seconds_lt, nanos_lt⟩ := h
  have hseconds : ((BitVec.ofNat 64 t.seconds).setWidth 128).toNat =
      t.seconds := by
    rw [BitVec.toNat_setWidth, BitVec.toNat_ofNat]
    omega
  have hnanos : ((BitVec.ofNat 32 t.nanos).setWidth 128).toNat = t.nanos := by
    rw [BitVec.toNat_setWidth, BitVec.toNat_ofNat]
    omega
  rw [millisWord, toNat_rounded, hseconds, hnanos, toNanos]
  · rwa [hseconds]
  · rwa [hnanos]

theorem toInt_timeoutWord (h : t.IsRepresentable) :
    t.timeoutWord.toInt = t.timeoutMillis := by
  have hmillis := h.toNat_millisWord
  have hword : t.timeoutWord.toNat = t.timeoutMillis := by
    rw [timeoutWord, timeoutMillis, ← hmillis]
    split
    · rw [BitVec.toNat_setWidth, intMax] at *
      omega
    · rw [BitVec.toNat_ofNat, intMax] at *
      omega
  have small : t.timeoutMillis ≤ intMax := Nat.min_le_right ..
  rw [BitVec.toInt_eq_toNat_of_lt, hword]
  rw [hword]
  rw [intMax] at small
  omega

end IsRepresentable

end Duration

/-! ## The one call that blocks -/

/-- The channel was found blocking, or closed, before a call was made. -/
def ChannelError.turnsAway : ChannelError → Bool
  | illegalBlockingMode | closed => true
  | _ => false

def Channel.Reply.isTurnedAway : Channel.Reply → Bool
  | .failed error => error.turnsAway
  | _ => false

/-- In no other call than this one may a thread be blocked that is inside the
operation, and it makes the call once, unless it is turned away. -/
structure Channel.Operation.BlocksIn (fd : Fd) (operation : Operation)
    (request : Call) : Prop where
  only : ∀ {trace : Trace} {c : Config} {thread : Thread} {call : Call}
    {next : call.Answer → Program Reply}, Run fd trace c →
    c.activity thread = .calling operation call next →
    call.isBlocking = true → call = request
  once : ∀ {before during : Trace} {c c' : Config} {thread : Thread}
    {reply : Reply}, Run fd before c →
    Episode fd thread operation c during reply c' →
    (during.calls thread).filter Call.isBlocking =
      if reply.isTurnedAway then [] else [request]

namespace Protocol

/-- Whether a thread has made the call that its operation blocks in. -/
def asking (operation : Channel.Operation) (request : Call) :
    Protocol Bool where
  act _ made action k :=
    (action.isAloof = false → made = false ∧ action = .call request) ∧
      ∀ result, k result (made || !action.isAloof)
  mono := fun himp h => ⟨h.1, fun result => himp _ _ (h.2 result)⟩
  rest := false
  opens := fun _ => false
  closes := fun _ reply made => made = !reply.isTurnedAway
  covers := fun other => other = operation

section Asking

variable {operation : Channel.Operation} {request : Call} {thread : Thread}
  {made : Bool} {α : Type}

theorem asking_aloof {action : Action} {k : action.Result → Bool → Prop}
    (aloof : action.isAloof = true) (hk : ∀ result, k result made) :
    (asking operation request).act thread made action k := by
  refine ⟨fun h => ?_, fun result => ?_⟩
  · cases aloof.symm.trans h
  · rw [aloof, Bool.not_true, Bool.or_false]
    exact hk result

/-- An aloof program makes no difference to whether the call has been made. -/
theorem asking_meets {program : Program α} {p : α → Prop}
    {post : α → Bool → Prop} (aloof : program.IsAloof)
    (gives : program.Gives p) (hpost : ∀ value, p value → post value made) :
    (asking operation request).Meets thread program post made :=
  Meets.of_aloof asking_aloof
    ((aloof.gives gives).mono fun value _ h => hpost value h.2)

theorem asking_call (blocking : request.isBlocking = true)
    {k : request.Answer → Bool → Prop} (hk : ∀ answer, k answer true) :
    (asking operation request).act thread false (.call request) k := by
  refine ⟨fun _ => ⟨rfl, rfl⟩, fun answer => ?_⟩
  rw [Action.isAloof_call, blocking]
  exact hk answer

end Asking

end Protocol

namespace Channel

open Operating Protocol

/-- The milliseconds to wait for; a wait without a limit is negative. -/
def pollTimeout : Option Duration → Int
  | none => -1
  | some timeout => timeout.timeoutMillis

/-- If the operation has failed, then not because it was turned away. -/
def GoesOn {α : Type} (result : Except ChannelError α) : Prop :=
  ∀ error, result = .error error → error.turnsAway = false

variable {fd : Fd} {interest : Interest} {timeout : Option Duration}
  {thread : Thread} {operation : Operation}

theorem enterOpen_gives : enterOpen.run.Gives fun result =>
    result = .ok () ∨ result = .error .closed := by
  rintro _ (_ | _)
  · exact fun _ => .inr rfl
  · exact fun _ _ _ _ => .inl rfl

theorem leave_gives (direction : Direction) (completed : Bool) :
    (leave direction completed).run.Gives GoesOn := by
  have unlocked : (holding .state do
      let fields ← perform .fields
      perform (.put (fields.setSlot direction none))
      if fields.state = .killPending then
        quietly release).run.Gives fun result => result = .ok () := by
    refine Program.gives_holding fun fields _ => ?_
    show Program.Gives (ExceptT.run
      (if fields.state = .killPending then quietly release else pure ())) _
    split
    · refine (Program.gives_bind _ _ _).mpr ?_
      exact (Program.gives_true _).mono fun _ _ => rfl
    · rfl
  refine (Program.gives_bind _ _ _).mpr (unlocked.mono ?_)
  rintro _ rfl
  cases completed with
  | true => exact fun _ => nofun
  | false =>
      rintro (_ | _)
      · rintro _ ⟨⟩
        rfl
      · exact fun _ => nofun

theorem socketPoll_asks {events : Events} {millis : Int}
    {post : Except OsError PollStatus → Bool → Prop}
    (hpost : ∀ result, post result true) :
    (asking operation (.poll fd events millis)).Meets thread
      (Socket.poll fd events millis) post false :=
  asking_call rfl fun answer => by cases answer <;> exact hpost _

/-- After the call, the thread leaves and is not turned away anymore. -/
theorem endPoll_asks {request : Call} {result : Except OsError PollStatus}
    {post : Except ChannelError PollStatus → Bool → Prop}
    (asked : ∀ result, GoesOn result → post result true) :
    (asking operation request).Meets thread
      (leave .input (isReady result) >>= fun _ =>
        returning (result.mapError .socket)).run post true := by
  rw [meets_run_bind]
  refine asking_meets (leave_isAloof _ _) (leave_gives _ _)
    fun left goesOn => ?_
  cases left with
  | error failure =>
      refine asked _ ?_
      rintro _ ⟨⟩
      exact goesOn failure rfl
  | ok =>
      refine asked (result.mapError .socket) ?_
      cases result with
      | ok status => exact fun _ => nofun
      | error cause =>
          rintro _ ⟨⟩
          rfl

theorem poll_asks {post : Except ChannelError PollStatus → Bool → Prop}
    (turned : ∀ error, error.turnsAway = true → post (.error error) false)
    (asked : ∀ result, GoesOn result → post result true) :
    (asking operation (.poll fd interest.events (pollTimeout timeout))).Meets
      thread (Channel.poll fd interest timeout).run post false := by
  refine asking_aloof rfl fun blocking => ?_
  cases blocking with
  | true => exact turned _ rfl
  | false =>
      show Protocol.Meets _ thread (holding .read _).run post false
      rw [meets_run_holding]
      refine asking_aloof rfl fun _ => ?_
      rw [meets_run_bind]
      refine asking_meets enterOpen_isAloof enterOpen_gives fun entered h => ?_
      obtain rfl | rfl := h
      · rw [meets_run_bind, meets_run_lift]
        exact socketPoll_asks fun result => endPoll_asks fun ended goesOn =>
          asking_aloof rfl fun _ => asked ended goesOn
      · exact asking_aloof rfl fun _ => turned _ rfl

theorem program_asks :
    (asking operation (.poll fd interest.events (pollTimeout timeout))).Meets
      thread (Operation.program fd (.poll interest timeout))
      (fun reply made => made = !reply.isTurnedAway) false := by
  show Protocol.Meets _ thread (reply .polled _) _ _
  rw [meets_reply]
  refine poll_asks (fun error turnsAway => ?_) fun result goesOn => ?_
  · simp [Reply.isTurnedAway, turnsAway]
  · cases result with
    | ok status => rfl
    | error error => simp [Reply.isTurnedAway, goesOn error rfl]

end Channel

namespace Protocol

variable {operation : Channel.Operation} {request : Call} {thread : Thread}
  {fd : Fd}

/-- What the protocol asks of a thread does not hang on what others do. -/
theorem asking_preserved :
    (asking operation request).Preserves fd fun _ _ _ => True where
  begin := fun _ _ _ _ _ _ => trivial
  drop := fun _ _ _ _ _ _ => trivial
  act := fun _ _ _ _ takes => ⟨_, fun covers => (takes covers).2 _, trivial⟩
  pause := fun _ _ _ takes => ⟨_, fun covers => (takes covers).2 _, trivial⟩
  unroll := fun _ _ _ => trivial
  call := fun _ _ _ _ => trivial
  answer := fun _ _ _ _ _ takes =>
    ⟨_, fun covers => (takes covers).2 _, trivial⟩
  finish := fun _ _ _ _ => trivial

/-- The journal knows of the call just if the thread has made it. -/
def Noted (request : Call) (made : Bool) (s : Journal) : Prop :=
  (s.exchanges.map Exchange.call).filter Call.isBlocking =
    if made then [request] else []

theorem Noted.along {J : Prospect} {made : Bool} {s : Journal}
    {action : Action} {k : action.Result → Bool → Prop}
    (noted : Noted request made s)
    (h : (asking operation request).act thread made action k) :
    J.protocol.act thread s action fun result s' =>
      ∃ made', Noted request made' s' ∧ k result made' := by
  cases action with
  | call call =>
      refine fun answer => ⟨_, ?_, h.2 answer⟩
      cases blocking : call.isBlocking with
      | true =>
          obtain ⟨rfl, hcall⟩ := h.1 (by simp [blocking])
          cases hcall
          simp_all [Noted]
      | false => simp_all [Noted]
  | own => exact nomatch (h.1 rfl).2
  | pause =>
      exact fun channel _ =>
        ⟨_, by simpa [Noted, Action.isAloof] using noted, h.2 ()⟩
  | _ =>
      exact fun channel channel' result _ _ =>
        ⟨_, by simpa [Noted, Action.isAloof] using noted, h.2 result⟩

end Protocol

/-- What the program keeps to holds in every run. -/
theorem Channel.Operation.BlocksIn.of_asks {fd : Fd} {operation : Operation}
    {request : Call}
    (asks : ∀ thread, (Protocol.asking operation request).Meets thread
      (operation.program fd) (fun reply made => made = !reply.isTurnedAway)
      false) :
    operation.BlocksIn fd request where
  only := by
    intro trace c thread call next run calling blocking
    have obeyed : (Protocol.asking operation request).Obeyed fd := by
      rintro thread _ rfl
      exact asks thread
    obtain ⟨S, -, keeps⟩ := Protocol.run obeyed Protocol.asking_preserved
      (fun _ _ => trivial) run fun _ _ _ _ => trivial
    have takes := keeps thread
    rw [calling] at takes
    obtain ⟨-, hcall⟩ := (takes rfl).1 (by simp [blocking])
    exact Action.call.inj hcall
  once := by
    intro before during c c' thread reply run episode
    have noted : Protocol.Noted request false { left := c.channel } := rfl
    obtain ⟨s, ⟨made, noted', hmade⟩, tells⟩ := episode.journal run
      ((asks thread).simulate Protocol.Noted.along noted) False.elim
      Prospect.holds_of_empty
    rw [episode.calls_eq, tells.exchanges, noted', hmade]
    cases reply.isTurnedAway <;> rfl

theorem Channel.poll_blocksIn (fd : Fd) (interest : Interest)
    (timeout : Option Duration) : (Operation.poll interest timeout).BlocksIn fd
      (.poll fd interest.events (pollTimeout timeout)) :=
  .of_asks fun _ => program_asks

/-- A thread that polls the channel for some time passes the milliseconds,
rounded up, to the one call that it blocks in.  In words of the machine these
are the same, and so never negative.  There are none just if the time is none;
if the system can take them, they are enough and less than one too many; and a
longer time does not make them fewer. -/
theorem poll_timeout_rounded_up {t : Duration}
    (representable : t.IsRepresentable) (fd : Fd) (interest : Interest) :
    (Channel.Operation.poll interest (some t)).BlocksIn fd
      (.poll fd interest.events t.timeoutMillis) ∧
    (t.timeoutMillis : Int) =
      min ⌈(t.toNanos : ℚ) / 1000000⌉ (2 ^ 31 - 1) ∧
    t.toNanos + 999999 < 2 ^ 128 ∧
    t.timeoutWord.toInt = t.timeoutMillis ∧ 0 ≤ t.timeoutWord.toInt ∧
    (t.timeoutMillis = 0 ↔ t = .zero) ∧
    (t.toNanos ≤ (2 ^ 31 - 1) * 1000000 →
      t.toNanos ≤ t.timeoutMillis * 1000000 ∧
        t.timeoutMillis * 1000000 < t.toNanos + 1000000) ∧
    ∀ t' : Duration, t.toNanos ≤ t'.toNanos →
      t.timeoutMillis ≤ t'.timeoutMillis := by
  have blocks := Channel.poll_blocksIn fd interest (some t)
  have word := representable.toInt_timeoutWord
  refine ⟨blocks, Duration.timeoutMillis_eq_ceil, representable.sum_lt, word,
    ?_, Duration.timeoutMillis_eq_zero_iff, Duration.timeoutMillis_bounds,
    fun _ => Duration.timeoutMillis_mono⟩
  rw [word]
  exact Int.natCast_nonneg _

/-- The longest time there is. -/
def Duration.longest : Duration := ⟨2 ^ 64 - 1, 10 ^ 9 - 1⟩

/-- A connected channel in non-blocking mode. -/
def Channel.pollable : Channel := .owning 3 .connected false

/-- The thread goes into the call, and is told that there is something to
read. -/
def untilReadable : List Move :=
  [Move.steps 1 9,
    [.answer 1 fun
      | .poll .. => .ok Events.readable
      | _ => .error (.code Errno.again)],
    Move.steps 1 5].flatten

theorem untilReadable_isSome :
    ((Config.start .pollable).operate 3 1 (.poll .read (some .longest))
      untilReadable).isSome = true := by
  decide +kernel

def pollEnded : Trace × Channel.Reply × Config :=
  ((Config.start .pollable).operate 3 1 (.poll .read (some .longest))
    untilReadable).get untilReadable_isSome

theorem longest_timeout_passed :
    Duration.longest.IsRepresentable ∧ Run 3 [] (.start .pollable) ∧
    Episode 3 1 (.poll .read (some .longest)) (.start .pollable) pollEnded.1
      (.polled (.ready Events.readable)) pollEnded.2.2 ∧
    (pollEnded.1.calls 1).filter Call.isBlocking =
      [.poll 3 Events.readable 2147483647] ∧
    Duration.longest.timeoutWord.toInt = 2147483647 := by
  have representable : Duration.longest.IsRepresentable :=
    ⟨by decide, by decide⟩
  have run : Run 3 [] (.start .pollable) := .start (.wrapped false none)
  have episode : Episode 3 1 (.poll .read (some .longest)) (.start .pollable)
      pollEnded.1 (.polled (.ready Events.readable)) pollEnded.2.2 :=
    Config.episode_get untilReadable_isSome
  obtain ⟨blocks, -, -, word, -⟩ :=
    poll_timeout_rounded_up representable 3 .read
  have millis : Duration.longest.timeoutMillis = 2147483647 := by decide
  rw [millis] at blocks word
  exact ⟨representable, run, episode, blocks.once run episode, word⟩

end LocalSocket
