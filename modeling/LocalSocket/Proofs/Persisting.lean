import LocalSocket.Proofs.Connecting.Ending
import LocalSocket.Proofs.Vectored

/-!
# Calls that interruptions make no difference to

Reading, writing, releasing a descriptor and connecting repeat their call for as
long as it is interrupted.  Each time they make the same request, and what comes
of it is what would have come of it without the interruptions.
-/

namespace LocalSocket

/-! ## Operations on a socket -/

namespace Program

variable {α β : Type} {request : Call}

/-- Given these answers, one after the other and as many as it asks for, the
program ends with the value. -/
def Obtains (program : Program α) (request : Call)
    (answers : List request.Answer) (value : α) : Prop :=
  ∃ asked, asked <+: answers ∧
    program.Converses (request.exchanges asked) value

/-- The program makes no other request, and leaves the channel as it is.  It
ends with just one value as soon as it is given an answer that is no
interruption, and interruptions before that make no difference to the value. -/
structure Persists (request : Call) (program : Program α) : Prop where
  asks : ∀ {exchanges : List Exchange} {value : α},
    program.Converses exchanges value →
      ∃ answers, exchanges = request.exchanges answers
  ends : ∀ {answers : List request.Answer} {answer : request.Answer},
    answer ∈ answers → isInterruption answer = false →
      ∃ value, ∀ value', program.Obtains request answers value' ↔ value' = value
  skips : ∀ {interruptions : List request.Answer},
    (∀ interruption ∈ interruptions, isInterruption interruption = true) →
      ∀ (answers : List request.Answer) (value : α),
        program.Obtains request (interruptions ++ answers) value ↔
          program.Obtains request answers value
  leaves : ∀ {thread : Thread} {channel channel' : Channel}
    {exchanges : List Exchange} {value : α},
    program.RunsAlone thread channel exchanges channel' value →
      channel' = channel

theorem obtains_pure {answers : List request.Answer} {value value' : α} :
    (pure value : Program α).Obtains request answers value' ↔
      value' = value := by
  constructor
  · rintro ⟨asked, -, h⟩
    exact (converses_pure.mp h).2
  · rintro rfl
    exact ⟨[], List.nil_prefix, .done value'⟩

theorem obtains_retry_cons {first value : request.Answer}
    {answers : List request.Answer} :
    (Program.retry request).Obtains request (first :: answers) value ↔
      if isInterruption first = true then
        (Program.retry request).Obtains request answers value
      else value = first := by
  simp only [Obtains, converses_retry, Call.exists_exchanges_eq]
  constructor
  · rintro ⟨_ | ⟨_, asked⟩, hasked, settles⟩
    · exact absurd settles.mem (List.not_mem_nil)
    · obtain ⟨rfl, hprefix⟩ := List.cons_prefix_cons.mp hasked
      have h := settles_cons.mp settles
      split at h
      · rw [if_pos ‹_›]
        exact ⟨asked, hprefix, h⟩
      · rw [if_neg ‹_›]
        exact h.2
  · intro h
    split at h
    · obtain ⟨asked, hasked, settles⟩ := h
      exact ⟨first :: asked, List.cons_prefix_cons.mpr ⟨rfl, hasked⟩,
        settles_cons.mpr (by rwa [if_pos ‹_›])⟩
    · subst h
      exact ⟨[value], List.cons_prefix_cons.mpr ⟨rfl, List.nil_prefix⟩,
        settles_cons.mpr (by rw [if_neg ‹_›]; exact ⟨rfl, rfl⟩)⟩

theorem persists_pure (value : α) :
    (pure value : Program α).Persists request where
  asks h := ⟨[], (converses_pure.mp h).1⟩
  ends _ _ := ⟨value, fun _ => obtains_pure⟩
  skips _ _ _ := obtains_pure.trans obtains_pure.symm
  leaves := (Solo.spares_pure value).channel_eq

theorem persists_retry (request : Call) :
    (Program.retry request).Persists request where
  asks h := by
    obtain ⟨answers, rfl, -⟩ := converses_retry.mp h
    exact ⟨answers, rfl⟩
  ends {answers answer} hmem settled := by
    induction answers with
    | nil => cases hmem
    | cons first answers ih =>
        simp only [obtains_retry_cons]
        by_cases interrupted : isInterruption first = true
        · simp only [if_pos interrupted]
          obtain rfl | hmem := List.mem_cons.mp hmem
          · rw [settled] at interrupted
            cases interrupted
          · exact ih hmem
        · simp only [if_neg interrupted]
          exact ⟨first, fun _ => Iff.rfl⟩
  skips {interruptions} interrupted answers value := by
    induction interruptions with
    | nil => exact Iff.rfl
    | cons first interruptions ih =>
        obtain ⟨hfirst, hrest⟩ := List.forall_mem_cons.mp interrupted
        rw [List.cons_append, obtains_retry_cons, if_pos hfirst]
        exact ih hrest
  leaves := (Solo.spares_retry request).channel_eq

theorem obtains_then_pure {program : Program α} {f : α → β}
    {answers : List request.Answer} {value : β} :
    (program >>= fun result => pure (f result)).Obtains request answers value ↔
      ∃ result, program.Obtains request answers result ∧ value = f result := by
  simp only [Obtains, converses_bind, converses_pure]
  constructor
  · rintro ⟨asked, hasked, _, result, _, heq, h, rfl, rfl⟩
    exact ⟨result, ⟨asked, hasked, by simpa [heq] using h⟩, rfl⟩
  · rintro ⟨result, ⟨asked, hasked, h⟩, rfl⟩
    exact ⟨asked, hasked, _, result, [], by simp, h, rfl, rfl⟩

theorem Persists.then_pure {program : Program α}
    (persists : program.Persists request) (f : α → β) :
    (program >>= fun result => pure (f result)).Persists request where
  asks h := by
    obtain ⟨first, result, rest, rfl, hfirst, hrest⟩ := converses_bind.mp h
    obtain ⟨rfl, -⟩ := converses_pure.mp hrest
    obtain ⟨answers, rfl⟩ := persists.asks hfirst
    exact ⟨answers, List.append_nil _⟩
  ends hmem settled := by
    obtain ⟨result, hresult⟩ := persists.ends hmem settled
    exact ⟨f result, fun value => by simp [obtains_then_pure, hresult]⟩
  skips interrupted answers value := by
    simp only [obtains_then_pure, persists.skips interrupted]
  leaves h := by
    obtain ⟨_, _, _, _, _, hfirst, hrest⟩ := RunsAlone.of_bind h
    cases hrest
    exact persists.leaves hfirst

theorem persists_transfer {exhausted : Bool} {value : β}
    {told : request.Answer → β} :
    (if exhausted = true then pure value
      else Program.retry request >>= fun answer =>
        pure (told answer)).Persists request := by
  split
  · exact persists_pure value
  · exact (persists_retry request).then_pure told

end Program

namespace Socket

variable (fd : Fd)

theorem read_persists (window : Window) :
    (Socket.read fd window).Persists (.read fd window.room) := by
  rw [read_eq]
  exact Program.persists_transfer

theorem write_persists (window : Window) :
    (Socket.write fd window).Persists (.write fd window.remaining) := by
  rw [write_eq]
  exact Program.persists_transfer

theorem readMany_persists (windows : List Window) :
    (Socket.readMany fd windows).Persists
      (.readMany fd (windows.map Window.room)) := by
  rw [readMany_eq]
  exact Program.persists_transfer

theorem writeMany_persists (windows : List Window) :
    (Socket.writeMany fd windows).Persists
      (.writeMany fd (windows.map Window.remaining)) := by
  rw [writeMany_eq]
  exact Program.persists_transfer

theorem close_persists : (Socket.close fd).Persists (.close fd) :=
  Program.persists_retry _

end Socket

/-! ## Connecting -/

namespace Connecting

open Program Protocol Channel

/-- The attempt is interrupted so many times before it is answered, and the rest
comes after that. -/
def insisting (fd : Fd) (record : Record) (count : Nat)
    (answer : Except OsError Unit) (rest : List Exchange) : List Exchange :=
  (Call.connect fd record).exchanges
    (.replicate count (Call.connect fd record).interrupted ++ [answer]) ++ rest

/-- The attempt comes first of all, and in nothing else that is asked may the
thread be blocked. -/
def AsksFirst (fd : Fd) (record : Record) (exchanges : List Exchange) : Prop :=
  (∀ exchange ∈ exchanges, exchange.call.isBlocking = false) ∨
  ∃ count answer rest, exchanges = insisting fd record count answer rest ∧
    ∀ exchange ∈ rest, exchange.call.isBlocking = false

/-- Connecting is an attempt that interruptions make no difference to. -/
structure Persists (fd : Fd) (thread : Thread) (c : Config) (address : Address)
    (record : Record) : Prop where
  asks : ∀ {during : Trace} {reply : Reply} {c' : Config},
    Episode fd thread (.connect address) c during reply c' →
      AsksFirst fd record (during.exchanges thread)
  /-- On a channel that stays open, the thread is not told of a close. -/
  told : ∀ {during : Trace} {reply : Reply} {c' : Config},
    Episode fd thread (.connect address) c during reply c' →
      ¬Steps.Sees fd thread c (during.framed thread (.connect address) reply)
        c' .isOpen (fun channel => channel.isOpen = false) →
        reply ≠ .failed .asynchronousClose
  /-- Whatever else happens, it happens as it did without the interruptions. -/
  skips : ∀ {count : Nat} {answer : Except OsError Unit} {rest : List Exchange}
    {others : Trace} {reply : Reply} {c' : Config},
    reply ≠ .failed .asynchronousClose →
      (Undergoes fd thread (.connect address) c
          (insisting fd record count answer rest) others reply c' ↔
        Undergoes fd thread (.connect address) c
          (insisting fd record 0 answer rest) others reply c')
  /-- A thread that is alone is told the same, and leaves the same channel. -/
  alike : ∀ {count : Nat} {answer : Except OsError Unit} {rest : List Exchange}
    {during₁ during₂ : Trace} {reply₁ reply₂ : Reply} {c₁ c₂ : Config},
    Episode fd thread (.connect address) c during₁ reply₁ c₁ →
    Episode fd thread (.connect address) c during₂ reply₂ c₂ →
    (∀ event ∈ during₁, event.thread = thread) →
    (∀ event ∈ during₂, event.thread = thread) →
    during₁.exchanges thread = insisting fd record count answer rest →
    during₂.exchanges thread = insisting fd record 0 answer rest →
    reply₁ ≠ .failed .asynchronousClose →
      c₂.channel = c₁.channel ∧ reply₂ = reply₁
  /-- However often it is interrupted, it comes to an end. -/
  ends : c.channel.isOpen = true → c.channel.fields.state = .unconnected →
    (∀ other, c.activity other = .idle) → c.isDropped = false →
    ∀ (count : Nat) {answer : Except OsError Unit},
      answer ≠ .error (.code Errno.interrupted) →
      ∃ during reply c' rest,
        Episode fd thread (.connect address) c during reply c' ∧
        (∀ event ∈ during, event.thread = thread) ∧
        during.exchanges thread = insisting fd record count answer rest ∧
        reply = Connecting.told (concluded answer)

section Parts

variable {fd : Fd} {thread : Thread} {record : Record} {address : Address}

theorem AsksFirst.concat {exchanges : List Exchange} {exchange : Exchange}
    (h : AsksFirst fd record exchanges)
    (calm : exchange.call.isBlocking = false) :
    AsksFirst fd record (exchanges ++ [exchange]) := by
  have extend {rest : List Exchange}
      (hrest : ∀ exchange ∈ rest, exchange.call.isBlocking = false) :
      ∀ exchange' ∈ rest ++ [exchange], exchange'.call.isBlocking = false :=
    List.forall_mem_append.mpr ⟨hrest, by simpa using calm⟩
  obtain h | ⟨count, answer, rest, rfl, hrest⟩ := h
  · exact .inl (extend h)
  · exact .inr ⟨count, answer, rest ++ [exchange], List.append_assoc ..,
      extend hrest⟩

theorem asksFirst_stable :
    Journal.Stable fun (_ : Except ChannelError Bool) s =>
      AsksFirst fd record s.exchanges := by
  intro result s s' calm h
  rwa [calm.exchanges, List.append_nil]

theorem connect_asksFirst {channel : Channel}
    (encoded : Record.ofAddress address = .ok record) :
    (prospect False False).protocol.Meets thread
      (Channel.connect fd address).run
      (fun _ s => AsksFirst fd record s.exchanges) { left := channel } := by
  rw [connect_of_ok encoded]
  refine Pending.holding_meets asksFirst_stable fun s₁ calm₁ _ => ?_
  refine Pending.holding_meets asksFirst_stable fun s₂ calm₂ _ => ?_
  have calm := calm₁.trans_quiet calm₂
  have unasked : s₂.blocked = [] := by simp [Journal.blocked, calm.exchanges]
  rw [meets_run_bind]
  refine (beginConnect_meets unasked).mono fun begun s₃ hbegun => ?_
  obtain error | _ := begun
  · exact .inl (by simpa [Journal.blocked] using hbegun.2.1)
  · refine Prospect.lift_meets (attempt_meets.mono
      fun result s₄ attempted => ?_)
    obtain ⟨interruptions, answer, hinterrupted, calm₄, -⟩ := attempted
    have asked : AsksFirst fd record s₄.exchanges := by
      refine .inr ⟨interruptions.length, answer, [], ?_,
        List.forall_mem_nil _⟩
      have h := ((calm.trans_quiet hbegun).trans calm₄).exchanges
      rw [List.eq_replicate_of_mem hinterrupted] at h
      simpa [insisting, Call.interrupted] using h
    -- in nothing that comes after the attempt may the thread be blocked
    have aloof : (do
        leave .input false
        concludeConnect fd address result : Operating Bool).run.IsAloof :=
      Operating.isAloof_bind (leave_isAloof .input false) fun _ =>
        concludeConnect_isAloof address result
    have rest : (prospect False False).protocol.Maintains thread
        (fun s => AsksFirst fd record s.exchanges) _ :=
      Prospect.maintains_of_isAloof aloof (fun _ _ h => h)
        fun answer calm h => h.concat calm
    exact rest asked

/-- No other thread has done anything. -/
theorem own_of_others_eq_nil {during : Trace}
    (h : during.others thread = []) :
    ∀ event ∈ during, event.thread = thread := by
  intro event hmem
  by_contra other
  have := Trace.mem_others.mpr ⟨hmem, other⟩
  rw [h] at this
  cases this

theorem AsksFirst.eq_insisting {exchanges : List Exchange} {count : Nat}
    {answer : Except OsError Unit} (h : AsksFirst fd record exchanges)
    (blocked : (exchanges.filter fun exchange => exchange.call.isBlocking) =
      insisting fd record count answer []) :
    ∃ rest, exchanges = insisting fd record count answer rest := by
  rw [insisting, List.append_nil] at blocked
  obtain h | ⟨count', answer', rest, rfl, hrest⟩ := h
  · have unblocked : (exchanges.filter fun exchange =>
        exchange.call.isBlocking) = [] := by
      simpa using h
    rw [unblocked] at blocked
    simp [Call.exchanges] at blocked
  · rw [insisting, List.filter_append, Call.filter_exchanges rfl,
      List.filter_eq_nil_iff.mpr (by simpa using hrest), List.append_nil]
      at blocked
    exact ⟨rest, by rw [insisting, blocked, insisting]⟩

theorem persists {before : Trace} {c : Config} (run : Run fd before c)
    (encoded : Record.ofAddress address = .ok record) :
    Persists fd thread c address record := by
  have asks {during : Trace} {reply : Reply} {c' : Config}
      (episode : Episode fd thread (.connect address) c during reply c') :
      AsksFirst fd record (during.exchanges thread) := by
    have meets : (prospect False False).protocol.Meets thread
        (Operation.connect address |>.program fd)
        (fun _ s => AsksFirst fd record s.exchanges) { left := c.channel } := by
      show (prospect False False).protocol.Meets thread
        (Channel.reply .isConnected (Channel.connect fd address)) _ _
      rw [meets_reply]
      refine (connect_asksFirst encoded).mono fun result s h => ?_
      cases result <;> exact h
    obtain ⟨s, h, tells⟩ := episode.journal run meets False.elim
      (Connecting.holds False.elim False.elim)
    rwa [tells.exchanges]
  have skips {count : Nat} {answer : Except OsError Unit}
      {rest : List Exchange} {others : Trace} {reply : Reply} {c' : Config}
      (lively : reply ≠ .failed .asynchronousClose) :
      Undergoes fd thread (.connect address) c
          (insisting fd record count answer rest) others reply c' ↔
        Undergoes fd thread (.connect address) c
          (insisting fd record 0 answer rest) others reply c' :=
    ⟨.without_interruptions run (connect_insists encoded) rfl fun _ => lively,
      .with_interruptions count run (connect_insists encoded) rfl
        fun _ => lively⟩
  refine ⟨asks, fun episode stays => ?_, skips, ?_, ?_⟩
  · obtain ⟨s, ⟨result, concluded, rfl⟩, -⟩ := episode.journal run
      (program_meets encoded) False.elim
      (Connecting.holds (fun _ : True => stays) False.elim)
    have h := concluded.told trivial
    cases result with
    | ok value => exact nofun
    | error error =>
        rintro ⟨⟩
        exact h rfl
  · intro count answer rest during₁ during₂ reply₁ reply₂ c₁ c₂ episode₁
      episode₂ alone₁ alone₂ asked₁ asked₂ lively
    obtain ⟨during, episode, asked, others⟩ := (skips lively).mp
      ⟨during₁, episode₁, asked₁, Trace.others_of_own alone₁⟩
    exact episode.alike_alone episode₂ (own_of_others_eq_nil others) alone₂
      (asked₂.trans asked.symm)
  · intro isOpen unconnected idle isLive count answer final
    obtain ⟨during, reply, c', episode, alone, blocked, told, -⟩ :=
      run.connects (fun _ hmem => List.eq_of_mem_replicate hmem) final isOpen
        unconnected idle isLive encoded
    obtain ⟨rest, asked⟩ := (asks episode).eq_insisting
      (blocked.trans (List.append_nil _).symm)
    exact ⟨during, reply, c', rest, episode, alone, asked, told⟩

end Parts

end Connecting

/-- Interruptions make no difference to what comes of reading, writing, closing
and connecting, once the system answers.  Each time the same is asked: what
there is room for in the windows or remains of them, the descriptor, the record
of the address. -/
theorem interruptions_make_no_difference {fd : Fd} {thread : Thread}
    {before : Trace} {c : Config} {address : Address} {record : Record}
    (run : Run fd before c)
    (encoded : Record.ofAddress address = .ok record) :
    (∀ window : Window,
      (Socket.read fd window).Persists (.read fd window.room) ∧
      (Socket.write fd window).Persists (.write fd window.remaining)) ∧
    (∀ windows : List Window,
      (Socket.readMany fd windows).Persists
        (.readMany fd (windows.map Window.room)) ∧
      (Socket.writeMany fd windows).Persists
        (.writeMany fd (windows.map Window.remaining))) ∧
    (Socket.close fd).Persists (.close fd) ∧
    Connecting.Persists fd thread c address record :=
  ⟨fun window =>
      ⟨Socket.read_persists fd window, Socket.write_persists fd window⟩,
    fun windows =>
      ⟨Socket.readMany_persists fd windows,
        Socket.writeMany_persists fd windows⟩,
    Socket.close_persists fd, Connecting.persists run encoded⟩

/-- A read of one byte that is interrupted twice, and an attempt to connect that
is interrupted three times. -/
theorem interrupted_calls_go_on :
    (∀ result, (Socket.read 3 ⟨[0, 0], 1⟩).Obtains (.read 3 1)
        [.error (.code Errno.interrupted), .error (.code Errno.interrupted),
          .ok [7]] result ↔
      (Socket.read 3 ⟨[0, 0], 1⟩).Obtains (.read 3 1) [.ok [7]] result) ∧
    ∃ rest c',
      Undergoes 3 1 (.connect ⟨[47]⟩) (.start (.owning 3 .unconnected true))
        (Connecting.insisting 3 rootRecord 3 (.ok ()) rest) []
        (.isConnected true) c' ∧
      Undergoes 3 1 (.connect ⟨[47]⟩) (.start (.owning 3 .unconnected true))
        (Connecting.insisting 3 rootRecord 0 (.ok ()) rest) []
        (.isConnected true) c' := by
  obtain ⟨single, -, -, connecting⟩ :=
    interruptions_make_no_difference run_created encoded_root
  refine ⟨fun result => ?_, ?_⟩
  · have interrupted : ∀ interruption ∈
        ([.error (.code Errno.interrupted), .error (.code Errno.interrupted)] :
          List (Except OsError Bytes)), isInterruption interruption = true := by
      decide
    exact (single ⟨[0, 0], 1⟩).1.skips interrupted [.ok [7]] result
  · obtain ⟨during, _, c', rest, episode, alone, asked, rfl⟩ :=
      connecting.ends rfl rfl (fun _ => rfl) rfl 3
        (show (.ok () : Except OsError Unit) ≠ _ from nofun)
    have undergoes : Undergoes 3 1 (.connect ⟨[47]⟩) _ _ [] _ c' :=
      ⟨during, episode, asked, Trace.others_of_own alone⟩
    have lively : Channel.Reply.isConnected true ≠
        .failed .asynchronousClose := nofun
    exact ⟨rest, c', undergoes, (connecting.skips lively).mp undergoes⟩

end LocalSocket
