import LocalSocket.Proofs.HalfClose.Transfers

/-!
# Transfers whose direction is shut down during their call

A thread may be inside a call in a direction when that is shut down.  Whatever
the call is answered then, and however often it is repeated: if it has brought
nothing, and the channel stays open, the transfer ends with its direction shut
down.
-/

namespace LocalSocket

namespace Meanwhile

open Protocol Channel

structure Note where
  /-- A call in the direction has been answered with the direction shut down. -/
  late : Bool := false
  gain : Option Gain := none

/-- What a thread finds after an answer that was late: the direction shut down,
and the channel open, if `opened`. -/
def outlook (direction : Direction) (opened : Prop) : Outlook Note where
  start := {}
  finds note action channel := note.late = true →
    (action = .fields → channel.fields.isDirectionOpen direction = false) ∧
      (action = .isOpen → opened → channel.isOpen = true)
  notes note call answer channel :=
    { late := note.late || (decide (call.direction? = some direction) &&
        !channel.fields.isDirectionOpen direction)
      gain := note.gain.or (call.gain? answer) }
  allows _ := True

section Programs

variable {fd : Fd} {thread : Thread} {direction : Direction} {opened : Prop}
  {α β : Type} {s : View Note}

theorem aloof_meets {program : Program α} {post : α → Unit → Prop}
    (aloof : Protocol.aloof.Meets 0 program post ()) :
    (outlook direction opened).protocol.Meets thread program
      (fun value s' => s'.note = s.note ∧ post value ()) s := by
  refine Outlook.meets_of_aloof (I := (· = s.note)) (fun _ _ => trivial) ?_
    aloof rfl
  rintro note call answer channel hcall rfl
  simp [outlook, call.direction?_of_not_isBlocking hcall,
    gain?_of_not_isBlocking hcall]

/-- A call that is repeated has brought nothing before. -/
theorem retry_meets {call : Call} (h : s.note.gain = none) :
    (outlook direction opened).protocol.Meets thread (Program.retry call)
      (fun answer s' => s'.note.gain = call.gain? answer) s := by
  refine meets_retry (fun s' => s'.note.gain = none) h
    fun s' hs' => ⟨trivial, fun channel answer => ?_⟩
  have hgain : ∀ answer : call.Answer,
      s'.note.gain.or (call.gain? answer) = call.gain? answer := by
    simp [hs']
  cases answer with
  | ok value => exact hgain _
  | error error =>
      show if error.isInterrupted = true then _ else _
      split
      · exact (hgain _).trans (Overtaking.gain?_error call error)
      · exact hgain _

theorem perform_aloof {action : Action} {next : action.Result → Operating α}
    {post : Except ChannelError α → Unit → Prop} (h : action.isAloof = true)
    (hnext : ∀ result,
      Protocol.aloof.Meets 0 (next result).run post ()) :
    Protocol.aloof.Meets 0 (Operating.perform action >>= next).run post () := by
  rw [meets_run_bind]
  exact ⟨h, hnext⟩

/-- Giving up the slot succeeds, whatever becomes of the descriptor. -/
theorem leaveSection_aloof :
    Protocol.aloof.Meets 0 (Operating.holding .state (do
      let fields ← Operating.perform .fields
      Operating.perform (.put (fields.setSlot direction none))
      if fields.state = .killPending then
        Operating.quietly release)).run
      (fun result _ => result = .ok ()) () := by
  rw [meets_run_holding]
  refine ⟨rfl, fun _ => perform_aloof rfl fun fields => ?_⟩
  refine perform_aloof rfl fun _ => ?_
  rw [meets_run_ite]
  split
  · rw [meets_run_quietly]
    exact release_isAloof.meets fun _ => ⟨rfl, fun _ => rfl⟩
  · exact ⟨rfl, fun _ => rfl⟩

theorem leave_meets (late : s.note.late = true) (isOpen : opened) :
    (outlook direction opened).protocol.Meets thread
      (leave direction false).run
      (fun result s' => s'.note = s.note ∧ result = .ok ()) s := by
  rw [leave, meets_run_bind]
  refine (aloof_meets leaveSection_aloof).mono fun result s₁ hleft => ?_
  obtain ⟨hnote, rfl⟩ := hleft
  show (outlook direction opened).protocol.Meets thread ensureStillOpen.run _ s₁
  rw [ensureStillOpen, meets_run_bind]
  refine Outlook.act_isOpen fun channel found _ => ?_
  rw [(found (by rw [hnote]; exact late)).2 rfl isOpen]
  exact ⟨hnote, rfl⟩

theorem isDirectionOpen_meets (late : s.note.late = true) :
    (outlook direction opened).protocol.Meets thread
      (isDirectionOpen direction).run
      (fun result s' => s'.note = s.note ∧ result = .ok false) s := by
  let Q : Except ChannelError Bool → Note → Prop := fun result note =>
    note = s.note ∧ result = .ok false
  refine Outlook.holding_state_meets (Q := Q) fun channel _ _ => ?_
  refine Outlook.fields_meets rfl fun channel' hfields found => ?_
  rw [← hfields, (found late).1 rfl]
  exact ⟨rfl, rfl⟩

theorem movedSomething_of_told {result : Except OsError IoStatus}
    (h : Overtaking.told result = none) : movedSomething result = false := by
  rcases result with error | count | _ | _
  · rfl
  · by_contra hpos
    have hcount : count ≠ 0 := by
      rintro rfl
      exact hpos rfl
    simp [Overtaking.told, Gain.ofCount, hcount] at h
  · rfl
  · rfl

/-- After a late answer that has brought nothing, the direction is found shut
down. -/
theorem endTransfer_meets {result : Except OsError IoStatus}
    (told : s.note.late = true → s.note.gain = Overtaking.told result) :
    (outlook direction opened).protocol.Meets thread
      (endTransfer direction result).run
      (fun ended s' => s'.note.late = true → s'.note.gain = none → opened →
        ended = .ok false) s := by
  by_cases h : s.note.late = true ∧ s.note.gain = none ∧ opened
  · obtain ⟨late, unmoved, isOpen⟩ := h
    have still := movedSomething_of_told ((told late).symm.trans unmoved)
    simp only [endTransfer, still]
    rw [meets_run_bind]
    refine (leave_meets late isOpen).mono fun _ s₁ hleft => ?_
    obtain ⟨hnote, rfl⟩ := hleft
    exact (isDirectionOpen_meets (by rw [hnote]; exact late)).mono
      fun ended s₂ hended _ _ _ => hended.2
  · refine (aloof_meets (Overtaking.endTransfer_isAloof direction result)).mono
      fun _ s₁ hs₁ late unmoved isOpen => absurd ?_ h
    rw [hs₁.1] at late unmoved
    exact ⟨late, unmoved, isOpen⟩

theorem transferWith_meets
    {shutBefore shutMeanwhile : Except ChannelError IoStatus} {buffers : β}
    {transfer : Program (Except OsError IoStatus × β)}
    (carries : direction.Carries transfer) (start : s.note = {}) :
    (outlook direction opened).protocol.Meets thread
      (transferWith direction shutBefore shutMeanwhile buffers transfer)
      (fun value s' => s'.note.late = true → s'.note.gain = none → opened →
        value.1 = shutMeanwhile) s := by
  let Q : Except ChannelError IoStatus × β → Note → Prop := fun value note =>
    note.late = true → note.gain = none → opened → value.1 = shutMeanwhile
  refine Outlook.holding_meets (Q := Q) (by cases direction <;> nofun) ?_
  rw [meets_bind_eq]
  refine (aloof_meets (beginTransfer_isAloof direction)).mono
    fun begun s₁ hs₁ => ?_
  have hstart : s₁.note = {} := hs₁.1.trans start
  have timely : ∀ value : Except ChannelError IoStatus × β, Q value s₁.note :=
    fun value late => by rw [hstart] at late; cases late
  rcases begun with error | _ | _
  · exact timely _
  · exact timely _
  rw [meets_bind_eq]
  have moves : (outlook direction opened).protocol.Meets thread transfer
      (fun outcome s' => s'.note.late = true →
        s'.note.gain = Overtaking.told outcome.1) s₁ := by
    obtain ⟨call, exhausted, outcome, next, rfl, _, hnext⟩ := carries
    split
    · intro late
      rw [hstart] at late
      cases late
    · rw [meets_bind_eq]
      refine (retry_meets (by rw [hstart])).mono fun answer s₂ hgain => ?_
      obtain ⟨outcome, hvalue, htold⟩ := hnext answer
      rw [hvalue]
      exact fun _ => hgain.trans htold.symm
  refine moves.mono fun outcome s₂ told => ?_
  simp only [meets_bind_eq]
  refine (endTransfer_meets told).mono fun ended s₃ hended => ?_
  rcases ended with error | _ | _
  · exact fun late unmoved isOpen => nomatch hended late unmoved isOpen
  · exact fun _ _ _ => rfl
  · exact fun late unmoved isOpen => nomatch hended late unmoved isOpen

theorem transfer_meets {operation : Operation} (start : s.note = {})
    (h : operation.direction? = some direction) :
    (outlook direction opened).protocol.Meets thread (operation.program fd)
      (fun reply s' => s'.note.late = true → s'.note.gain = none → opened →
        reply.Tells direction.shutMeanwhile) s := by
  obtain ⟨β, buffers, transfer, make, hprogram, carries, _, tells⟩ :=
    Operation.carries fd h
  rw [hprogram, meets_bind_eq]
  refine (transferWith_meets carries start).mono
    fun value s' hvalue late unmoved isOpen => ?_
  rw [← hvalue late unmoved isOpen]
  exact tells value

end Programs

/-! ## From one moment to the next -/

section Steps

variable {fd : Fd} {before earlier past during events : Trace}
  {c c' : Config} {thread : Thread} {direction : Direction} {opened : Prop}
  {note note' : Note} {operation : Operation} {call : Call}
  {next : call.Answer → Program Reply}

/-- What has been noted: the direction has been shut down if an answer was late,
and the calls have brought so much. -/
structure Keeps (thread : Thread) (direction : Direction) (trace : Trace)
    (c : Config) (note : Note) : Prop where
  shut : note.late = true → c.channel.fields.isDirectionOpen direction = false
  gain : note.gain = (trace.own thread).gain

theorem gain_own_append (step : Step fd c events c')
    (unanswered : ∀ call answer, events ≠ [.answered thread call answer]) :
    (Trace.own thread (past ++ events)).gain = (past.own thread).gain := by
  obtain rfl | ⟨event, rfl⟩ := step.events
  · rw [List.append_nil]
  by_cases ht : event.thread = thread
  · rw [Trace.own_append_same past ht, Trace.gain_append]
    cases event with
    | answered other call answer =>
        obtain rfl : other = thread := ht
        exact absurd rfl (unanswered call answer)
    | _ => exact Option.or_none
  · rw [Trace.own_append_other past ht]

theorem Keeps.step (keeps : Keeps thread direction past c note)
    (run : Run fd before c) (step : Step fd c events c')
    (notes : (outlook direction opened).Notes thread events c.channel note
      note') : Keeps thread direction (past ++ events) c' note' := by
  by_cases h : ∃ call answer, events = [.answered thread call answer]
  · obtain ⟨call, answer, rfl⟩ := h
    obtain rfl := notes.answered call answer rfl
    refine ⟨fun late => step.stays_shut run ?_, ?_⟩
    · obtain late | late := (Bool.or_eq_true ..).mp late
      · exact keeps.shut late
      · simpa using ((Bool.and_eq_true ..).mp late).2
    · have hthread : (Event.answered thread call answer).thread = thread := rfl
      rw [Trace.own_append_same past hthread, Trace.gain_append,
        gain_answered, ← keeps.gain]
      rfl
  · have unanswered : ∀ call answer,
        events ≠ [.answered thread call answer] :=
      fun call answer hevents => h ⟨call, answer, hevents⟩
    obtain rfl := notes.otherwise unanswered
    exact ⟨fun late => step.stays_shut run (keeps.shut late),
      keeps.gain.trans (gain_own_append step unanswered).symm⟩

/-- A thread goes on from a call with its answer. -/
theorem still_calling (step : Step fd c events c')
    (calling : c.activity thread = .calling operation call next) :
    (∃ answer, events = [.answered thread call answer]) ∨
      c'.activity thread = .calling operation call next := by
  cases step with
  | @answer other _ _ _ answer calling' =>
      by_cases ht : thread = other
      · subst ht
        rw [calling] at calling'
        cases calling'
        exact .inl ⟨answer, rfl⟩
      · exact .inr (by simpa [ht] using calling)
  | @drop other idle =>
      rw [idle] at calling
      cases calling
  | @begin other _ _ running | @act other _ _ _ _ _ running
  | @pause other _ _ running | @unroll other _ _ _ _ running
  | @call other _ _ _ running | @finish other _ _ running =>
      refine .inr ?_
      have ht : thread ≠ other := by
        rintro rfl
        simp_all
      simpa [ht] using calling

/-- With the direction shut down, a call in it is answered late. -/
theorem late_or_calling (step : Step fd c events c')
    (notes : (outlook direction opened).Notes thread events c.channel note
      note') (hcall : call.direction? = some direction)
    (shut : c.channel.fields.isDirectionOpen direction = false)
    (h : note.late = true ∨
      c.activity thread = .calling operation call next) :
    note'.late = true ∨ c'.activity thread = .calling operation call next := by
  by_cases answered : ∃ call answer,
      events = [.answered thread call answer]
  · obtain ⟨call', answer, rfl⟩ := answered
    rw [notes.answered call' answer rfl]
    refine .inl ((Bool.or_eq_true ..).mpr ?_)
    obtain late | calling := h
    · exact .inl late
    · obtain ⟨answer', hevents⟩ | calling' := still_calling step calling
      · cases hevents
        exact .inr (by simp [hcall, shut])
      · cases step with
        | answer => simp at calling'
  · rw [notes.otherwise fun call answer hevents =>
      answered ⟨call, answer, hevents⟩]
    refine h.imp_right fun calling => ?_
    exact (still_calling step calling).resolve_left fun ⟨answer, hevents⟩ =>
      answered ⟨call, answer, hevents⟩

end Steps

end Meanwhile

/-! ## Runs -/

section Run

variable {fd : Fd} {trace suffix : Trace} {c c' : Config} {thread : Thread}
  {direction : Direction} {operation : Channel.Operation} {call : Call}
  {next : call.Answer → Program Channel.Reply} {reply : Channel.Reply}

open Meanwhile in
/-- A transfer that is inside its call when its direction is found shut down
ends so, on a channel that stays open, unless its calls have moved bytes. -/
theorem Run.shutMeanwhile (run : Run fd trace c)
    (calling : c.activity thread = .calling operation call next)
    (hcall : call.direction? = some direction)
    (shut : c.channel.fields.isDirectionOpen direction = false)
    (steps : Steps fd c suffix c') (within : suffix.IsWithin thread)
    {operation' : Channel.Operation}
    (finished : c'.activity thread = .running operation' (.done reply))
    (isOpen : c'.channel.isOpen = true)
    (unmoved : (Trace.inside thread (trace ++ suffix)).gain = none) :
    reply.Tells direction.shutMeanwhile := by
  have hdirection := run.direction?_of_calling calling hcall
  obtain ⟨before, during, c₀, rfl, run₀, underway⟩ :=
    run.underway (congrArg Activity.operation? calling)
  let W := outlook direction (c'.channel.isOpen = true)
  -- up to the moment, answers may have been late or not
  have open_of : ∀ {past rest : Trace} {c₁ : Config}, Run fd past c₁ →
      Steps fd c₁ rest c' → c'.channel.isOpen = true →
        c₁.channel.isOpen = true := by
    intro past rest c₁ run₁ hrest isOpen
    by_contra closed
    rw [hrest.closed run₁ (by simpa using closed)] at isOpen
    cases isOpen
  obtain ⟨s, follows, keeps, -⟩ := underway.follows (W := W)
    (N := Keeps thread direction) run₀
    (Meanwhile.transfer_meets rfl hdirection)
    (fun c₁ began => ⟨fun hpast step hrest _ keeps late =>
      ⟨fun _ => keeps.shut late, fun _ => open_of
        ((run₀.step began).steps hpast)
        (((Steps.single step).trans hrest).trans steps)⟩,
      fun hpast step _ _ keeps notes =>
        keeps.step ((run₀.step began).steps hpast) step notes⟩)
    fun _ _ => ⟨fun late => (by cases late), rfl⟩
  -- from then on, the answer to the call is
  let N : Trace → Config → Note → Prop := fun past c₁ note =>
    Keeps thread direction (during ++ past) c₁ note ∧
      c₁.channel.fields.isDirectionOpen direction = false ∧
      (note.late = true ∨ c₁.activity thread = .calling operation call next)
  have accompanies : W.Accompanies fd thread suffix c c' N := by
    refine ⟨fun hpast step hrest _ ⟨_, shut, _⟩ _ => ⟨fun _ => shut, fun _ =>
      open_of (run.steps hpast) ((Steps.single step).trans hrest)⟩, ?_⟩
    intro past events rest c₁ c₂ note note' hpast step _ _ ⟨keeps, shut, late⟩
      notes
    have run₁ := run.steps hpast
    refine ⟨by rw [← List.append_assoc]; exact keeps.step run₁ step notes,
      step.stays_shut run₁ shut, late_or_calling step notes hcall shut late⟩
  obtain ⟨s', follows', ⟨keeps', -, late⟩, -⟩ := follows.steps run steps within
    accompanies ⟨by rwa [List.append_nil], shut, .inr calling⟩
  obtain ⟨_, ends⟩ := follows'.running finished
  refine ends ?_ ?_ isOpen
  · obtain late | calling' := late
    · exact late
    · rw [finished] at calling'
      cases calling'
  · have hwithin : Trace.IsWithin thread (during ++ suffix) := by
      intro event hmem
      rw [Trace.own_append] at hmem
      exact (List.mem_append.mp hmem).elim (underway.within event)
        (within event)
    rw [keeps'.gain, ← Trace.inside_of_isWithin hwithin, ← List.cons_append,
      ← List.append_assoc]
    exact unmoved

end Run

end LocalSocket
