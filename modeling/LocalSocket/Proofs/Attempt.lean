import LocalSocket.Proofs.Interruptions
import Mathlib.Tactic.SplitIfs

/-!
# Attempts to connect

An attempt is one call, repeated as long as it is interrupted and the channel is
open.  The call is made with the same record each time, and a connecting thread
makes it again whenever it is interrupted.
-/

namespace LocalSocket

namespace Socket

/-- What one call has come to. -/
def judged : Except OsError Unit → Except OsError ConnectStatus
  | .ok () => .ok .connected
  | .error (.code errno) =>
      if errno ∈ pendingCodes then .ok .inProgress
      else if errno = Errno.interrupted then .ok .interrupted
      else .error (.code errno)
  | .error error => .error error

theorem connect_eq (fd : Fd) (record : Record) : Socket.connect fd record =
    .act (.call (.connect fd record)) fun answer => .done (judged answer) := by
  show Program.act _ _ = _
  congr 1
  funext answer
  rcases answer with (errno | _) | _
  · show (if errno ∈ pendingCodes then pure (.ok .inProgress)
      else if errno = Errno.interrupted then pure (.ok .interrupted)
      else pure (.error (.code errno)) : Program _) = .done (judged _)
    rw [judged]
    split_ifs <;> rfl
  · rfl
  · rfl

end Socket

namespace Channel

open Operating

variable {fd : Fd} {record : Record}

/-- Whether the call decides the attempt. -/
def settling : Except OsError ConnectStatus →
    Program (Option (Except OsError ConnectStatus))
  | .ok .interrupted => .act .isOpen fun isOpen =>
      .done (if isOpen then none else some (.ok .interrupted))
  | result => .done (some result)

theorem settling_eq {result : Except OsError ConnectStatus}
    (h : result ≠ .ok .interrupted) :
    settling result = .done (some result) := by
  rcases result with _ | _ | _ | _
  · rfl
  · rfl
  · rfl
  · exact absurd rfl h

theorem attempt_eq (fd : Fd) (record : Record) : attempt fd record =
    .loop (.act (.call (.connect fd record)) fun answer =>
      settling (Socket.judged answer)) .done := by
  rw [attempt, Socket.connect_eq]
  show Program.loop (.act _ _) _ = _
  congr 2
  funext answer
  show _ = settling (Socket.judged answer)
  rw [Program.done_bind]
  generalize Socket.judged answer = result
  rcases result with _ | _ | _ | _ <;> rfl

/-- An attempt that has been interrupted, and is repeated if the channel is
open. -/
def reconsider (fd : Fd) (record : Record) :
    Program (Except OsError ConnectStatus) :=
  .act .isOpen fun
    | true => attempt fd record
    | false => .done (.ok .interrupted)

/-- What follows a call of an attempt. -/
def attempting (fd : Fd) (record : Record) :
    Except OsError ConnectStatus → Program (Except OsError ConnectStatus)
  | .ok .interrupted => reconsider fd record
  | result => .done result

/-- The attempt as one call and what follows it. -/
theorem unroll_attempt : Program.unroll
    (.act (.call (.connect fd record)) fun answer =>
      settling (Socket.judged answer)) Program.done =
    .act (.call (.connect fd record)) fun answer =>
      attempting fd record (Socket.judged answer) := by
  show Program.act _ _ = _
  congr 1
  funext answer
  dsimp only
  generalize Socket.judged answer = result
  rcases result with _ | _ | _ | _
  · rfl
  · rfl
  · rfl
  · show Program.act _ _ = Program.act _ _
    congr 1
    funext isOpen
    cases isOpen with
    | true => exact (attempt_eq fd record).symm
    | false => rfl

/-- The points of an attempt. -/
inductive Attempting (fd : Fd) (record : Record) :
    Program (Except OsError ConnectStatus) → Prop where
  | attempt : Attempting fd record (attempt fd record)
  | call : Attempting fd record (.act (.call (.connect fd record)) fun answer =>
      attempting fd record (Socket.judged answer))
  | reconsider : Attempting fd record (reconsider fd record)
  | done (result : Except OsError ConnectStatus) :
      Attempting fd record (.done result)

theorem Attempting.next {program program' : Program _}
    (h : Attempting fd record program) (hnext : Program.Next program program') :
    Attempting fd record program' := by
  cases h with
  | attempt =>
      rw [attempt_eq] at hnext
      cases hnext
      exact unroll_attempt ▸ .call
  | call =>
      cases hnext with
      | act answer =>
          dsimp only
          generalize Socket.judged answer = result
          rcases result with _ | _ | _ | _
          · exact .done _
          · exact .done _
          · exact .done _
          · exact .reconsider
  | reconsider =>
      cases hnext with
      | act isOpen =>
          cases isOpen with
          | true => exact .attempt
          | false => exact .done _
  | done => cases hnext

theorem Attempting.call_eq {call : Call}
    {next : call.Answer → Program (Except OsError ConnectStatus)}
    (h : Attempting fd record (.act (.call call) next)) :
    Program.act (.call call) next =
      .act (.call (.connect fd record)) fun answer =>
        attempting fd record (Socket.judged answer) := by
  generalize hprogram : Program.act (.call call) next = program at h
  cases h with
  | call => rfl
  | attempt | reconsider | done => cases hprogram

theorem attempt_resumes : (attempt fd record).Resumes
    (.act (.call (.connect fd record)) fun answer =>
      attempting fd record (Socket.judged answer)) := by
  rw [attempt_eq]
  exact .loop (unroll_attempt ▸ .refl _)

theorem attempt_insists :
    (attempt fd record).Insists (.connect fd record) := by
  intro next h
  cases (h.invariant (I := Attempting fd record) .attempt .next).call_eq
  exact .look attempt_resumes

/-! ## Connecting -/

/-- What follows an attempt. -/
def concludeConnect (fd : Fd) (address : Address) :
    Except OsError ConnectStatus → Operating Bool
  | .ok .connected => do
      markConnected fd (some address)
      pure true
  | .ok .inProgress => do
      holding .state do
        let fields ← perform .fields
        ensureStillOpen
        perform (.put { fields with
          state := .connecting, remoteAddress := some address })
      pure false
  | .ok .interrupted => throw .asynchronousClose
  | .error error => closeAfter (.socket error)

theorem connect_of_ok {address : Address}
    (encoded : Record.ofAddress address = .ok record) :
    connect fd address = holding .read (holding .write do
      beginConnect
      let result ← ExceptT.lift (attempt fd record)
      leave .input false
      concludeConnect fd address result) := by
  rw [connect, encode_of_ok encoded]
  refine congrArg (fun conclude : Except OsError ConnectStatus →
      Operating Bool => holding .read (holding .write do
        beginConnect
        let result ← ExceptT.lift (attempt fd record)
        leave .input false
        conclude result)) (funext fun result => ?_)
  rcases result with _ | _ | _ | _ <;> rfl

theorem concludeConnect_isAloof (address : Address)
    (result : Except OsError ConnectStatus) :
    (concludeConnect fd address result).run.IsAloof := by
  rcases result with error | _ | _ | _
  · exact closeAfter_isAloof _
  · exact isAloof_bind (markConnected_isAloof _) fun _ => isAloof_pure _
  · refine isAloof_bind (isAloof_holding ?_) fun _ => isAloof_pure _
    exact isAloof_bind (isAloof_perform rfl) fun _ =>
      isAloof_bind ensureStillOpen_isAloof fun _ => isAloof_perform rfl
  · exact isAloof_throw _

theorem connect_insists {address : Address}
    (encoded : Record.ofAddress address = .ok record) :
    (Operation.connect address |>.program fd).Insists (.connect fd record) := by
  have blocking : (Call.connect fd record).isBlocking = true := rfl
  refine .bind ?_ fun result => ?_
  · rw [connect_of_ok encoded]
    refine .holding blocking (.holding blocking ?_)
    refine .run_bind blocking (.of_isAloof beginConnect_isAloof blocking)
      fun _ => ?_
    refine .run_bind blocking (.run_lift blocking attempt_insists)
      fun result => ?_
    exact .of_isAloof (isAloof_bind (leave_isAloof ..) fun _ =>
      concludeConnect_isAloof address result) blocking
  · cases result <;> exact .of_isAloof (.pure _) blocking

end Channel

end LocalSocket
