import LocalSocket.Proofs.Addresses

/-!
# Shutting down one direction

A direction is open until a call has shut it down or the channel has been
closed, and is never opened again.  The flag that tells so is cleared right
after the call has succeeded, before anybody else gets to see it; so no second
call succeeds, and one that has failed may be repeated.
-/

namespace LocalSocket

/-- The call has shut down the direction. -/
def Call.shuts (direction : Direction) : (call : Call) → call.Answer → Bool
  | .shutdown _ how, .ok _ => how.direction? == some direction
  | _, _ => false

def Event.shuts (direction : Direction) : Event → Bool
  | .answered _ call answer => call.shuts direction answer
  | _ => false

namespace Fields

variable (fields : Fields) (direction other : Direction)

@[simp] theorem isDirectionOpen_shutDirection :
    (fields.shutDirection direction).isDirectionOpen direction = false := by
  cases direction <;> rfl

theorem isDirectionOpen_shutDirection_other (h : other ≠ direction) :
    (fields.shutDirection direction).isDirectionOpen other =
      fields.isDirectionOpen other := by
  cases direction <;> cases other <;> first | rfl | exact absurd rfl h

end Fields

section Flag

variable {fd : Fd} {trace suffix events : Trace} {c c' : Config}
  {thread : Thread} {direction : Direction} {event : Event}

theorem Ledger.Revision.isDirectionOpen {s : Ledger} {fields fields' : Fields}
    (revision : s.Revision fields fields') (direction : Direction) :
    fields'.isDirectionOpen direction = fields.isDirectionOpen direction ∨
      fields'.isDirectionOpen direction = false ∧
        (s.operation = some (.shutdown direction) ∧
            s.due = some (.put fields') ∧
            fields' = fields.shutDirection direction ∨
          s.closing = true) := by
  cases revision with
  | used alike state => exact .inl (alike.isDirectionOpen fields direction)
  | @shut other current due =>
      by_cases h : direction = other
      · subst h
        exact .inr ⟨fields.isDirectionOpen_shutDirection direction,
          .inl ⟨current, due, rfl⟩⟩
      · exact .inl (fields.isDirectionOpen_shutDirection_other _ _ h)
  | closed closing =>
      exact .inr ⟨by cases direction <;> rfl, .inr closing⟩
  | named | attempted | finished | looked =>
      exact .inl (by cases direction <;> rfl)

theorem Trace.of_last? {trace : Trace} (h : trace.last? thread = some event) :
    event ∈ trace ∧ event.thread = thread := by
  obtain ⟨hmem, hthread⟩ := List.mem_filter.mp (List.mem_of_getLast? h)
  exact ⟨hmem, by simpa using hthread⟩

/-- Only the descriptor of the channel is shut down. -/
theorem Run.shutdown_fd {other : Fd} {how : Shutdown}
    {answer : Except OsError Unit} (run : Run fd trace c)
    (hmem : .answered thread (.shutdown other how) answer ∈ trace) :
    other = fd := by
  obtain ⟨past, rest, rfl⟩ := List.append_of_mem hmem
  obtain ⟨channel, fresh, steps⟩ := run
  obtain ⟨c₁, c₂, hpast, step, _⟩ := steps.split
  have run₁ : Run fd past c₁ := ⟨channel, fresh, hpast⟩
  cases step with
  | answer _ calling =>
      obtain ⟨s, _, _, hfd, _⟩ := run₁.call_ledger (.inr calling)
      exact hfd

/-- There is but one way in which a call shuts down a direction. -/
theorem Run.eq_of_shuts {call : Call} {answer : call.Answer}
    (run : Run fd trace c) (hmem : .answered thread call answer ∈ trace)
    (shuts : call.shuts direction answer = true) :
    Event.answered thread call answer = .answered thread
      (.shutdown fd (Channel.Direction.how direction)) (.ok ()) := by
  cases call with
  | shutdown other how =>
      cases answer with
      | error => cases shuts
      | ok =>
          obtain rfl := run.shutdown_fd hmem
          have hhow : how.direction? = some direction := beq_iff_eq.mp shuts
          cases how <;> cases hhow <;> rfl
  | _ => cases shuts

/-- A write that is due since a call has shut down the direction. -/
theorem Run.last?_of_due (run : Run fd trace c)
    (isOpen : c.channel.fields.isDirectionOpen direction = true)
    (due : trace.due? thread c.channel.fields =
      some (.put (c.channel.fields.shutDirection direction))) :
    trace.last? thread = some (.answered thread
      (.shutdown fd (Channel.Direction.how direction)) (.ok ())) := by
  obtain ⟨event, last, due⟩ := Option.bind_eq_some_iff.mp due
  obtain ⟨hmem, hthread⟩ := Trace.of_last? last
  rw [last]
  cases event with
  | answered other call answer =>
      obtain rfl : other = thread := hthread
      cases call with
      | setNonBlocking _ nonBlocking => cases answer <;> cases due
      | shutdown other how =>
          cases answer with
          | error => cases due
          | ok =>
              obtain ⟨direction', hhow, hput⟩ := Option.map_eq_some_iff.mp due
              have hfields := Action.put.inj hput
              obtain rfl : direction' = direction := by
                by_contra h
                rw [← c.channel.fields.isDirectionOpen_shutDirection_other
                  direction' direction (Ne.symm h), hfields,
                  Fields.isDirectionOpen_shutDirection] at isOpen
                cases isOpen
              exact congrArg some
                (run.eq_of_shuts hmem (beq_iff_eq.mpr hhow))
      | _ => cases due
  | _ => cases due

theorem Step.stays_shut (step : Step fd c events c') (run : Run fd trace c)
    (shut : c.channel.fields.isDirectionOpen direction = false) :
    c'.channel.fields.isDirectionOpen direction = false := by
  obtain hsame | ⟨_, _, _, _, _, revision⟩ := step.revised run
  · rwa [hsame]
  · obtain hsame | ⟨shut', _⟩ := revision.isDirectionOpen direction
    · exact hsame.trans shut
    · exact shut'

/-- A direction is shut down by the operation to do so, right after its call has
succeeded, or by the thread that has closed the channel. -/
theorem Step.shut (step : Step fd c events c') (run : Run fd trace c)
    (before : c.channel.fields.isDirectionOpen direction = true)
    (after : c'.channel.fields.isDirectionOpen direction = false) :
    ∃ thread, events = [.acted thread (.put c'.channel.fields)] ∧
      ((c.activity thread).operation? = some (.shutdown direction) ∧
          trace.last? thread = some (.answered thread
            (.shutdown fd (Channel.Direction.how direction)) (.ok ())) ∧
          c'.channel.fields = c.channel.fields.shutDirection direction ∨
        ∃ rest, trace.firstClose? = some (thread, rest)) := by
  obtain hsame | ⟨thread, s, hevents, _, records, revision⟩ := step.revised run
  · rw [hsame, before] at after
    cases after
  refine ⟨thread, hevents, ?_⟩
  obtain hsame | ⟨_, ⟨current, due, hfields⟩ | closing⟩ :=
    revision.isDirectionOpen direction
  · rw [hsame, before] at after
    cases after
  · have due' := records.due.symm.trans due
    rw [hfields] at due'
    exact .inl ⟨records.operation.symm.trans current,
      run.last?_of_due before due', hfields⟩
  · exact .inr (records.closing closing)

/-! ## A call succeeds once -/

/-- At most one call has shut down the direction, which has then been recorded,
or is about to be with the next action of the thread. -/
structure Config.Recalls (c : Config) (direction : Direction) (trace : Trace) :
    Prop where
  once : trace.countP (Event.shuts direction) ≤ 1
  recorded : ∀ event ∈ trace, event.shuts direction = true →
    c.channel.fields.isDirectionOpen direction = false ∨
      trace.due? event.thread c.channel.fields =
        some (.put (c.channel.fields.shutDirection direction))

/-- Whoever is answered holds the state lock, and has found the direction
open. -/
theorem Run.calling_shutdown {operation : Channel.Operation} {other : Fd}
    {how : Shutdown} {next : Except OsError Unit → Program Channel.Reply}
    (run : Run fd trace c)
    (calling : c.activity thread =
      .calling operation (.shutdown other how) next) :
    c.channel.locks.state = some thread ∧ ∃ direction,
      how.direction? = some direction ∧
        c.channel.fields.isDirectionOpen direction = true := by
  obtain ⟨s, agrees, _, _, fields, direction, known, hhow, _, _, isOpen⟩ :=
    run.call_ledger (.inr calling)
  obtain ⟨held, rfl⟩ := agrees.fields fields known
  exact ⟨held, direction, hhow, isOpen⟩

/-- Whoever is to record the call does so before anybody else gets to see the
fields. -/
theorem Config.Recalls.keep (recalls : c.Recalls direction trace)
    (run : Run fd trace c) (step : Step fd c [event] c')
    (hshuts : event.shuts direction = false) :
    c'.Recalls direction (trace ++ [event]) := by
  refine ⟨by simpa [List.countP_append, hshuts] using recalls.once,
    fun other hmem shuts => ?_⟩
  obtain hmem | hmem := List.mem_append.mp hmem
  · obtain shut | due := recalls.recorded other hmem shuts
    · exact .inl (step.stays_shut run shut)
    by_cases ht : event.thread = other.thread
    · rw [← ht] at due
      have hevent := step.eq_of_due run due
      rw [hevent] at step
      exact .inl (by rw [step.put.1]; simp)
    · have held := (run.next_of_due due).1
      have known := Outlook.known_eq step run fun event' h => by
        rwa [List.mem_singleton.mp h]
      rw [Channel.known_eq_some.mpr ⟨held, rfl⟩] at known
      have hfields := (Channel.known_eq_some.mp known).2
      rw [Trace.due?_append_other ht, hfields]
      exact .inr due
  · rw [List.mem_singleton.mp hmem, hshuts] at shuts
    cases shuts

/-- A call that succeeds is the first one that does. -/
theorem Config.Recalls.first
    {operation : Channel.Operation} {other : Fd} {how : Shutdown}
    {next : Except OsError Unit → Program Channel.Reply}
    (recalls : c.Recalls direction trace) (run : Run fd trace c)
    (calling : c.activity thread =
      .calling operation (.shutdown other how) next)
    (hhow : how.direction? = some direction) :
    ∀ event ∈ trace, ¬event.shuts direction = true := by
  obtain ⟨held, direction', hhow', isOpen⟩ := run.calling_shutdown calling
  obtain rfl := Option.some.inj (hhow'.symm.trans hhow)
  intro event hmem shuts
  obtain shut | due := recalls.recorded event hmem shuts
  · rw [isOpen] at shut
    cases shut
  · -- another thread would hold the state lock, too
    obtain ⟨held', _, _, running, _⟩ := run.next_of_due due
    obtain rfl := Option.some.inj (held.symm.trans held')
    rw [calling] at running
    cases running

theorem Config.Recalls.step (recalls : c.Recalls direction trace)
    (run : Run fd trace c) (step : Step fd c [event] c') :
    c'.Recalls direction (trace ++ [event]) := by
  cases hshuts : event.shuts direction with
  | false => exact recalls.keep run step hshuts
  | true =>
      cases step with
      | @answer thread operation call next answer calling =>
          cases call with
          | shutdown other how =>
              cases answer with
              | error => cases hshuts
              | ok =>
                  have hhow : how.direction? = some direction :=
                    beq_iff_eq.mp hshuts
                  have unshut := recalls.first run calling hhow
                  refine ⟨?_, fun event hmem shuts => ?_⟩
                  · rw [List.countP_append, List.countP_eq_zero.mpr unshut,
                      Nat.zero_add]
                    exact List.countP_le_length
                  · obtain hmem | hmem := List.mem_append.mp hmem
                    · exact absurd shuts (unshut event hmem)
                    · obtain rfl := List.mem_singleton.mp hmem
                      rw [Trace.due?_append_same rfl]
                      refine .inr ?_
                      show how.direction?.map _ = _
                      rw [hhow]
                      rfl
          | _ => cases hshuts
      | _ => cases hshuts

theorem Run.recalls (run : Run fd trace c) (direction : Direction) :
    c.Recalls direction trace := by
  refine run.induct (I := fun trace c => c.Recalls direction trace)
    (fun _ _ => ⟨Nat.zero_le 1, fun _ h => by cases h⟩)
    fun trace c events c' run step ih => ?_
  obtain rfl | ⟨event, rfl⟩ := step.events
  · rw [List.append_nil]
    cases step with
    | unroll => exact ⟨ih.once, ih.recorded⟩
  · exact ih.step run step

/-- A call that has failed has left the direction open. -/
theorem Step.open_of_failed {other : Fd} {error : OsError}
    (step : Step fd c [.answered thread
      (.shutdown other (Channel.Direction.how direction)) (.error error)] c')
    (run : Run fd trace c) :
    c'.channel.fields.isDirectionOpen direction = true := by
  cases step with
  | answer _ calling =>
      obtain ⟨_, direction', hhow, isOpen⟩ := run.calling_shutdown calling
      rw [Shutdown.direction?_how] at hhow
      cases hhow
      exact isOpen

end Flag

/-! ## Operations that shut down a direction -/

namespace Shutting

open Protocol Channel

/-- What a thread finds that shuts down a direction: an open one, or one of a
channel that is not connected.  It notes whether a call has been successful. -/
def outlook (direction : Direction) (settled apart : Prop) : Outlook Bool where
  start := false
  finds _ action channel := action = .fields →
    (settled → channel.fields.isDirectionOpen direction = true) ∧
      (apart → channel.fields.state ≠ .connected)
  notes note call answer _ := note || call.shuts direction answer
  allows _ := True

theorem shutdown_meets (fd : Fd) (thread : Thread) (direction : Direction)
    (settled apart : Prop) :
    (outlook direction settled apart).protocol.Meets thread
      ((Operation.shutdown direction).program fd)
      (fun reply s => reply = .finished → ¬apart ∧ (settled → s.note = true))
      { note := false } := by
  let Q : Except ChannelError Unit → Bool → Prop := fun result note =>
    result = .ok () → ¬apart ∧ (settled → note = true)
  have shuts : (outlook direction settled apart).protocol.Meets thread
      (Channel.shutdown fd direction).run (fun result s => Q result s.note)
      { note := false } := by
    refine Outlook.holding_state_meets (Q := Q) fun channel _ _ => ?_
    rw [meets_run_bind]
    refine Outlook.ensureOpen_meets (fun _ _ _ _ => ?_) fun _ _ _ => nofun
    refine Outlook.fields_meets rfl fun channel' hfields found => ?_
    obtain ⟨hsettled, hapart⟩ := found rfl
    rw [hfields] at hsettled hapart
    rw [meets_run_ite]
    split
    · exact nofun
    · rename_i connected
      have attached : ¬apart := fun h => connected (hapart h)
      rw [meets_run_ite]
      split
      · rw [meets_run_bind, meets_run_onSocket]
        refine ⟨trivial, fun _ answer => ?_⟩
        cases answer with
        | error => exact nofun
        | ok =>
            refine Outlook.act_put rfl fun _ => ⟨attached, fun _ => ?_⟩
            show (false || ((Direction.how direction).direction? ==
              some direction)) = true
            rw [Shutdown.direction?_how]
            simp
      · rename_i shut
        exact fun _ => ⟨attached, fun h => absurd (hsettled h) shut⟩
  show (outlook direction settled apart).protocol.Meets thread
    (Channel.reply _ (Channel.shutdown fd direction)) _ _
  rw [meets_reply]
  refine shuts.mono fun result s h => ?_
  cases result with
  | ok value => exact fun _ => h rfl
  | error error => exact nofun

/-- A success that has been noted is that of a call. -/
def IsNoted (thread : Thread) (direction : Direction) (past : Trace)
    (note : Bool) : Prop :=
  note = true → ∃ call answer, .answered thread call answer ∈ past ∧
    call.shuts direction answer = true

theorem IsNoted.step {thread : Thread} {direction : Direction}
    {settled apart : Prop} {past events : Trace} {channel : Channel}
    {note note' : Bool} (noted : IsNoted thread direction past note)
    (notes : (outlook direction settled apart).Notes thread events channel note
      note') : IsNoted thread direction (past ++ events) note' := by
  intro hnote
  by_cases h : ∃ call answer, events = [.answered thread call answer]
  · obtain ⟨call, answer, rfl⟩ := h
    rw [notes.answered call answer rfl] at hnote
    obtain hnote | shuts := (Bool.or_eq_true ..).mp hnote
    · obtain ⟨call', answer', hmem, shuts⟩ := noted hnote
      exact ⟨call', answer', List.mem_append_left _ hmem, shuts⟩
    · exact ⟨call, answer, by simp, shuts⟩
  · rw [notes.otherwise fun call answer hevents =>
      h ⟨call, answer, hevents⟩] at hnote
    obtain ⟨call, answer, hmem, shuts⟩ := noted hnote
    exact ⟨call, answer, List.mem_append_left _ hmem, shuts⟩

end Shutting

section Shut

variable {fd : Fd} {before during : Trace} {c c' : Config} {thread : Thread}
  {direction : Direction}

theorem Steps.Sees.append {trace events : Trace} {action : Action}
    {found : Channel → Prop} {c'' : Config}
    (h : Steps.Sees fd thread c trace c' action found)
    (step : Step fd c' events c'') :
    Steps.Sees fd thread c (trace ++ events) c'' action found := by
  obtain ⟨past, rest, c₁, c₂, hpast, hact, hrest, rfl, hfound⟩ := h
  exact ⟨past, rest ++ events, c₁, c₂, hpast, hact, hrest.tail step, by simp,
    hfound⟩

/-- An operation that is about to have shut down a direction has found it open,
if `settled`, and then made the call; and not a channel apart, if `apart`. -/
theorem Underway.shut {settled apart : Prop}
    (underway : Underway fd thread (.shutdown direction) c during c')
    (run : Run fd before c)
    (hsettled : settled → ¬Steps.Sees fd thread c
      (.began thread (.shutdown direction) :: during) c' .fields
      (fun channel => channel.fields.isDirectionOpen direction = false))
    (hapart : apart → ¬Steps.Sees fd thread c
      (.began thread (.shutdown direction) :: during) c' .fields
      (fun channel => channel.fields.state = .connected))
    (finished : c'.activity thread =
      .running (.shutdown direction) (.done .finished)) :
    ¬apart ∧ (settled → .answered thread
      (.shutdown fd (Channel.Direction.how direction)) (.ok ()) ∈ during) := by
  have accompanies : ∀ c₁, Step fd c [.began thread (.shutdown direction)] c₁ →
      (Shutting.outlook direction settled apart).Accompanies fd thread during
        c₁ c' fun past _ => Shutting.IsNoted thread direction past := by
    refine fun c₁ began => ⟨?_, fun _ _ _ _ noted notes => noted.step notes⟩
    rintro past action rest c₂ c₃ note hpast step hrest hduring _ rfl
    have hbefore := (Steps.single began).trans hpast
    refine ⟨fun h => ?_, fun h connected => ?_⟩
    · by_contra shut
      exact hsettled h ⟨_, rest, c₂, c₃, hbefore, step, hrest,
        by simp [hduring], by simpa using shut⟩
    · exact hapart h ⟨_, rest, c₂, c₃, hbefore, step, hrest,
        by simp [hduring], connected⟩
  obtain ⟨s, follows, noted, -⟩ := underway.follows run
    (Shutting.shutdown_meets fd thread direction settled apart) accompanies
    fun _ _ => nofun
  obtain ⟨attached, calls⟩ := (follows.running finished).2 rfl
  refine ⟨attached, fun h => ?_⟩
  obtain ⟨call, answer, hmem, shuts⟩ := noted (calls h)
  have run' := run.steps underway.steps
  rwa [run'.eq_of_shuts (List.mem_append_right _
    (List.mem_cons_of_mem _ hmem)) shuts] at hmem

/-- An operation that shuts down a direction of a connected channel makes the
call for it, unless it finds the direction shut down. -/
theorem Episode.shut
    (episode : Episode fd thread (.shutdown direction) c during .finished c')
    (run : Run fd before c) :
    Steps.Sees fd thread c (.began thread (.shutdown direction) :: during ++
        [.ended thread (.shutdown direction) .finished]) c' .fields
        (fun channel => channel.fields.state = .connected) ∧
      (Steps.Sees fd thread c (.began thread (.shutdown direction) :: during ++
          [.ended thread (.shutdown direction) .finished]) c' .fields
          (fun channel =>
            channel.fields.isDirectionOpen direction = false) ∨
        .answered thread (.shutdown fd (Channel.Direction.how direction))
          (.ok ()) ∈ during) := by
  obtain ⟨c₂, underway, ended⟩ := episode.underway
  constructor
  · by_contra unseen
    have attached := (underway.shut run False.elim
      (fun (_ : True) h => unseen (h.append ended)) ended.done_of_ended).1
    exact attached trivial
  · refine or_iff_not_imp_left.mpr fun unseen => ?_
    have calls := (underway.shut run
      (fun (_ : True) h => unseen (h.append ended)) False.elim
      ended.done_of_ended).2
    exact calls trivial

/-! ## Afterwards -/

/-- The direction has been shut down, on a channel that has been connected. -/
structure Channel.IsShut (channel : Channel) (direction : Direction) :
    Prop where
  shut : channel.fields.isDirectionOpen direction = false
  attached : Lifecycle.connected.rank ≤ channel.fields.state.rank

theorem Steps.stays_shut (steps : Steps fd c during c') (run : Run fd before c)
    (shut : c.channel.fields.isDirectionOpen direction = false) :
    c'.channel.fields.isDirectionOpen direction = false := by
  induction steps with
  | refl => exact shut
  | tail steps step ih => exact step.stays_shut (run.steps steps) ih

theorem Steps.isShut (steps : Steps fd c during c') (run : Run fd before c)
    (h : c.channel.IsShut direction) : c'.channel.IsShut direction :=
  ⟨steps.stays_shut run h.shut, h.attached.trans (steps.rank_le run)⟩

/-- What a thread has been told to be shut down is. -/
theorem Episode.isShut
    (episode : Episode fd thread (.shutdown direction) c during .finished c')
    (run : Run fd before c) : c'.channel.IsShut direction := by
  obtain ⟨c₂, underway, ended⟩ := episode.underway
  have run₂ := run.steps underway.steps
  obtain ⟨connected, shut⟩ := episode.shut run
  refine ⟨?_, ?_⟩
  · obtain ⟨past, rest, c₃, c₄, hpast, step, hrest, _, shut⟩ | called := shut
    · exact ((Steps.single step).trans hrest).stays_shut (run.steps hpast) shut
    · have recalls := run₂.recalls direction
      obtain shut | due := recalls.recorded _
        (List.mem_append_right _ (List.mem_cons_of_mem _ called))
        (by simp [Event.shuts, Call.shuts, Shutdown.direction?_how])
      · exact ended.stays_shut run₂ shut
      · -- nobody ends with anything due
        obtain ⟨_, _, _, running, hnext⟩ := run₂.next_of_due due
        cases ended.done_of_ended.symm.trans running
        cases hnext
  · obtain ⟨past, rest, c₃, c₄, hpast, step, hrest, _, connected⟩ := connected
    have hrank := ((Steps.single step).trans hrest).rank_le (run.steps hpast)
    rwa [connected] at hrank

end Shut

end LocalSocket
