import LocalSocket.Proofs.Closing.Operations
import LocalSocket.Proofs.Connecting.Ending
import LocalSocket.Proofs.CutShort.Operations

/-!
# Operations that a signal has interrupted

What an operation has heard of interruptions, and whether it has tried to close
the channel, goes along with the journal that its thread keeps.  So an operation
fails with an interruption just if a signal has interrupted one of the calls
that it makes once; and of those operations only binding closes the channel for
it.
-/

namespace LocalSocket

/-! ## What the journal says of interruptions -/

namespace Hearing

variable {once : Call → Bool} {J : Prospect} {thread : Thread}

/-- One of the calls that are made once has been cut short. -/
def hears (once : Call → Bool) (exchanges : List Exchange) : Bool :=
  exchanges.any fun exchange =>
    once exchange.call && cutShort exchange.answer

theorem hears_iff {exchanges : List Exchange} :
    hears once exchanges = true ↔ ∃ call : Call, once call = true ∧
      ⟨call, .error (.code Errno.interrupted)⟩ ∈ exchanges := by
  rw [hears, List.any_eq_true]
  constructor
  · rintro ⟨⟨call, answer⟩, hmem, h⟩
    obtain ⟨honce, hcut⟩ := Bool.and_eq_true_iff.mp h
    exact ⟨call, honce, cutShort_iff.mp hcut ▸ hmem⟩
  · rintro ⟨call, honce, hmem⟩
    exact ⟨_, hmem, Bool.and_eq_true_iff.mpr ⟨honce, cutShort_iff.mpr rfl⟩⟩

/-- What the thread has heard of is in its journal. -/
theorem goes_along {heard : Bool} {s : Journal} {action : Action}
    {k : action.Result → Bool → Prop} (goes : heard = hears once s.exchanges)
    (h : (hearing once).act thread heard action k) :
    J.protocol.act thread s action fun result s' =>
      ∃ heard', heard' = hears once s'.exchanges ∧ k result heard' := by
  subst goes
  cases action with
  | call request =>
      exact fun answer => ⟨_, by simp [hears, Action.cutsShort], h answer⟩
  | pause => exact fun channel _ => ⟨_, Bool.or_false _, h ()⟩
  | _ => exact fun channel channel' result _ _ => ⟨_, Bool.or_false _, h result⟩

end Hearing

/-! ## Who closes the channel -/

namespace Conduct

open Protocol Channel

variable {J : Prospect} {thread : Thread} {s : Conduct}
  {operation : Channel.Operation} {fd : Fd}

/-- None of the actions has closed the channel. -/
def LeftOpen (changes : List (Channel × Channel)) : Prop :=
  ∀ change ∈ changes, change.1.isOpen = true → change.2.isOpen = true

/-- A thread that has not tried to close the channel has not done so before. -/
theorem untried_of_after {action : Action} {result : action.Result}
    (h : (s.after action result).stage = .untried) :
    s.stage = .untried ∧ action ≠ .closeOnce := by
  cases plain : isPlain action with
  | true =>
      rw [after_of_isPlain plain] at h
      refine ⟨h, ?_⟩
      rintro rfl
      cases plain
  | false =>
      refine ⟨?_, ?_⟩
      · unfold Conduct.after at h
        split at h <;> grind
      · rintro rfl
        cases result <;> cases h

theorem isOpen_of_answer {channel channel' : Channel} {action : Action}
    {result : action.Result}
    (answered : channel.answer thread action = .answered channel' result)
    (other : action ≠ .closeOnce) (isOpen : channel.isOpen = true) :
    channel'.isOpen = true := by
  cases action with
  | acquire lock =>
      obtain ⟨_, rfl⟩ := answer_acquire answered
      exact isOpen
  | closeOnce => exact absurd rfl other
  | own =>
      cases answered
      rfl
  | pause | call => cases answered
  | _ =>
      cases answered
      exact isOpen

/-- A thread that has not tried to close the channel has left it open. -/
def Spared (s : Conduct) (journal : Journal) : Prop :=
  s.stage = .untried → LeftOpen journal.changes

theorem Spared.acted {journal : Journal} {channel channel' : Channel}
    {action : Action} {result : action.Result} (spared : s.Spared journal)
    (stays : action ≠ .closeOnce → channel.isOpen = true →
      channel'.isOpen = true) :
    (s.after action result).Spared (journal.acted channel channel') := by
  intro untried change hmem
  obtain ⟨before, other⟩ := untried_of_after untried
  obtain hmem | hmem := List.mem_append.mp hmem
  · exact spared before change hmem
  · obtain rfl := List.mem_singleton.mp hmem
    exact stays other

theorem goes_along {journal : Journal} {action : Action}
    {k : action.Result → Conduct → Prop} (spared : s.Spared journal)
    (h : conduct.act thread s action k) :
    J.protocol.act thread journal action fun result journal' =>
      ∃ s' : Conduct, s'.Spared journal' ∧ k result s' := by
  cases action with
  | call request =>
      exact fun answer => ⟨_, fun untried =>
        spared (untried_of_after untried).1, h.2 answer⟩
  | pause => exact fun channel _ => ⟨_, spared.acted fun _ => id, h.2 ()⟩
  | _ =>
      exact fun channel channel' result _ answered =>
        ⟨_, spared.acted (isOpen_of_answer answered), h.2 result⟩

/-- A thread that has tried to close the channel ends an operation that may, and
tells what it has failed with. -/
def TellsWhy (operation : Channel.Operation) (reply : Reply) (s : Conduct) :
    Prop :=
  s.stage = .untried ∨
    mayClose operation = true ∧ ∃ error, reply = .failed (.socket error)

theorem tells_why (other : operation ≠ .close) :
    conduct.Meets thread (operation.program fd) (TellsWhy operation)
      (conduct.opens operation) := by
  have untried : IsUntried operation (conduct.opens operation) := ⟨rfl, rfl⟩
  have settles : ∀ {α : Type} {make : α → Reply} {program : Operating α},
      mayClose operation = true → Settles thread operation program.run →
      conduct.Meets thread (reply make program) (TellsWhy operation)
        (conduct.opens operation) := fun closes h =>
    (settles_reply h untried).mono fun _ _ ends =>
      ends.imp_right fun ⟨_, failed⟩ => ⟨closes, failed⟩
  cases operation with
  | close => exact absurd rfl other
  | connect address => exact settles rfl (connect_settles address)
  | finishConnect => exact settles rfl finishConnect_settles
  | bind address => exact settles rfl (bind_settles address)
  | _ =>
      exact (program_abstains rfl).meets untried fun _ _ untried' =>
        .inl untried'.untried

end Conduct

section Episode

variable {fd : Fd} {thread : Thread} {operation : Channel.Operation}
  {before during : Trace} {c c' : Config} {reply : Channel.Reply}

theorem Trace.mem_exchanges {call : Call} {answer : call.Answer} :
    ⟨call, answer⟩ ∈ during.exchanges thread ↔
      .answered thread call answer ∈ during := by
  constructor
  · intro hmem
    obtain ⟨first, rest, h⟩ := List.append_of_mem hmem
    obtain ⟨past, later, rfl, -, -⟩ := Trace.split_of_exchanges h
    simp
  · exact fun hmem => List.mem_filterMap.mpr
      ⟨_, hmem, Event.exchange?_answered⟩

/-- The reply tells of an interruption just if the thread has heard of one. -/
theorem Episode.isCutShort_iff (run : Run fd before c)
    (episode : Episode fd thread operation c during reply c') :
    reply.isCutShort = true ↔ ∃ call : Call, operation.asksOnce call = true ∧
      .answered thread call (.error (.code Errno.interrupted)) ∈ during := by
  have candid := Hearing.program_candid fd operation thread
  obtain ⟨s, ⟨heard, goes, told⟩, tells⟩ := episode.journal run
    (candid.simulate Hearing.goes_along rfl) False.elim Prospect.holds_of_empty
  rw [← told, goes, ← tells.exchanges, Hearing.hears_iff]
  simp only [Trace.mem_exchanges]

/-- An operation that closes the channel, other than closing itself, has failed,
and tells why. -/
theorem Episode.fails_of_closing (run : Run fd before c)
    (episode : Episode fd thread operation c during reply c')
    {channel channel' : Channel}
    (turns : Steps.Turns fd thread c (during.framed thread operation reply) c'
      channel channel')
    (isOpen : channel.isOpen = true) (closed : channel'.isOpen = false)
    (other : operation ≠ .close) :
    Conduct.mayClose operation = true ∧
      ∃ error, reply = .failed (.socket error) := by
  have tells : conduct.Meets thread (operation.program fd)
      (Conduct.TellsWhy operation) (conduct.opens operation) :=
    Conduct.tells_why other
  have spared : (conduct.opens operation).Spared { left := c.channel } :=
    fun _ _ hmem => nomatch hmem
  obtain ⟨s, ⟨s', spared', ends⟩, hmem, -⟩ := episode.journal_of_turns run
    (tells.simulate Conduct.goes_along spared) False.elim
    Prospect.holds_of_empty turns
  refine ends.resolve_left fun untried => ?_
  cases closed.symm.trans (spared' untried _ hmem isOpen)

/-- An operation fails with an interruption just if a signal has interrupted one
of the calls that it makes once.  If an operation closes the channel, other than
closing itself, it fails; and an interruption closes it only for a thread that
binds. -/
theorem interruptions_passed_on (run : Run fd before c)
    (episode : Episode fd thread operation c during reply c') :
    (reply.isCutShort = true ↔ ∃ call : Call, operation.asksOnce call = true ∧
      .answered thread call (.error (.code Errno.interrupted)) ∈ during) ∧
    ∀ channel channel', Steps.Turns fd thread c
        (during.framed thread operation reply) c' channel channel' →
      channel.isOpen = true → channel'.isOpen = false →
      operation = .close ∨ ∃ error, reply = .failed (.socket error) ∧
        (error.isCutShort = true → ∃ address, operation = .bind address) := by
  have told := episode.isCutShort_iff run
  refine ⟨told, fun channel channel' turns isOpen closed => ?_⟩
  refine or_iff_not_imp_left.mpr fun other => ?_
  obtain ⟨may, error, rfl⟩ :=
    episode.fails_of_closing run turns isOpen closed other
  refine ⟨error, rfl, fun hcut => ?_⟩
  obtain ⟨call, once, -⟩ := told.mp hcut
  cases operation with
  | bind address => exact ⟨address, rfl⟩
  | connect | finishConnect | close => cases once
  | _ => cases may

end Episode

/-- A signal interrupts the call that is to bind the socket. -/
def untilUnbound : List Move :=
  [Move.steps 1 6, [.answer 1 fun _ => .error (.code Errno.interrupted)],
    Move.steps 1 9,
    [.answer 1 fun
      | .close _ => .ok ()
      | _ => .error (.code Errno.again)],
    Move.steps 1 7].flatten

theorem untilUnbound_isSome :
    ((Config.start (.owning 3 .unconnected true)).operate 3 1
      (.bind none) untilUnbound).isSome = true := by
  decide +kernel

def unbound : Trace × Channel.Reply × Config :=
  ((Config.start (.owning 3 .unconnected true)).operate 3 1
    (.bind none) untilUnbound).get untilUnbound_isSome

theorem episode_unbound : Episode 3 1 (.bind none)
    (.start (.owning 3 .unconnected true)) unbound.1
    (.failed (.socket (.code Errno.interrupted))) unbound.2.2 :=
  Config.episode_get untilUnbound_isSome

theorem interruption_told :
    Run 3 [] (.start (.owning 3 .unconnected true)) ∧
    Episode 3 1 (.bind none) (.start (.owning 3 .unconnected true)) unbound.1
      (.failed (.socket (.code Errno.interrupted))) unbound.2.2 ∧
    ∃ call : Call, (Channel.Operation.bind none).asksOnce call = true ∧
      .answered 1 call (.error (.code Errno.interrupted)) ∈ unbound.1 :=
  ⟨run_created, episode_unbound,
    (interruptions_passed_on run_created episode_unbound).1.mp rfl⟩

/-- A thread that is interrupted while it binds the socket fails with that, and
closes the channel. -/
theorem channel_closed_for_interruption :
    Run 3 [] (.start (.owning 3 .unconnected true)) ∧
    ∃ during c', Episode 3 1 (.bind none)
      (.start (.owning 3 .unconnected true)) during
      (.failed (.socket (.code Errno.interrupted))) c' ∧
      during.exchanges 1 =
        [⟨.bind 3 .unnamed, .error (.code Errno.interrupted)⟩,
          ⟨.close 3, .ok ()⟩] ∧
      c'.channel.isOpen = false :=
  ⟨run_created, _, _, episode_unbound, rfl, by decide +kernel⟩

end LocalSocket
