import LocalSocket.Channel.Open
import LocalSocket.Proofs.Protocol

/-!
# Channels that have just been opened

While a channel is being created or wrapped, nobody else has it.  Whatever the
system answers, it then is as runs start with.
-/

namespace LocalSocket

/-- A single thread has the channel to itself; the standing is the channel. -/
def Protocol.alone : Protocol Channel where
  act thread channel action k :=
    match channel.answer thread action with
    | .answered channel result => k result channel
    | .waits => False
    | .outside => ∀ result, k result channel
  mono := by
    intro thread channel action k k' himp h
    cases hanswer : channel.answer thread action with
    | answered channel' result =>
        simp only [hanswer] at h ⊢
        exact himp _ _ h
    | waits => simp [hanswer] at h
    | outside =>
        simp only [hanswer] at h ⊢
        exact fun result => himp _ _ (h result)
  rest := .uninitialized
  opens := fun _ => .uninitialized
  closes := fun _ _ _ => True

namespace Channel

open Protocol

variable {thread : Thread} {channel : Channel}

@[simp] theorem alone_call {call : Call} {k : call.Answer → Channel → Prop} :
    alone.act thread channel (.call call) k ↔
      ∀ answer, k answer channel := Iff.rfl

@[simp] theorem alone_own {fd : Fd} {state : Lifecycle} {blocking : Bool}
    {k : Unit → Channel → Prop} :
    alone.act thread channel (.own fd state blocking) k ↔
      k () (.owning fd state blocking) :=
  Iff.rfl

theorem create_isFresh (type : SocketType) :
    alone.Meets thread (create type).run
      (fun
        | .ok fd, channel => channel.IsFresh fd
        | .error _, _ => True) channel := by
  simp only [create, Program.call_eq, meets_run_bind, meets_run_onSocket,
    meets_act, alone_call]
  intro answer
  cases answer with
  | error error => trivial
  | ok fd => exact .created

theorem inspectSocket_meets {fd : Fd}
    {post : Except ChannelError Bool → Channel → Prop}
    (hpost : ∀ result, post result channel) :
    alone.Meets thread (inspectSocket fd).run post channel := by
  simp only [inspectSocket, Program.call_eq, meets_run_bind, meets_run_onSocket,
    meets_act, alone_call]
  intro isLocal
  cases isLocal with
  | error error => exact hpost _
  | ok isLocal =>
      cases isLocal with
      | false => exact hpost _
      | true =>
          intro peer
          cases peer with
          | error error => exact hpost _
          | ok record =>
              intro nonBlocking
              cases nonBlocking <;> exact hpost _

theorem wrap_isFresh (fd : Fd) :
    alone.Meets thread (wrap fd).run
      (fun
        | .ok (), channel => channel.IsFresh fd
        | .error _, _ => True) channel := by
  simp only [wrap, meets_run_bind, meets_run_lift]
  refine inspectSocket_meets fun result => ?_
  cases result with
  | error error => exact fun _ => trivial
  | ok blocking =>
      intro answer
      cases answer with
      | error error => exact .wrapped blocking none
      | ok record => exact .wrapped blocking (some record.toAddress)

end Channel

end LocalSocket
