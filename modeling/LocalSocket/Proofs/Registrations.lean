import LocalSocket.Channel.Registration
import LocalSocket.Proofs.Bookkeeping.Books
import LocalSocket.Proofs.Outlook

/-!
# Registrations and the blocking mode

The count of registrations is that of the registrations that have not been given
up: those that selectors hold, and those that a thread is about to hand out or
to count down.  As long as there is any, the channel is not in blocking mode,
and cannot be switched to it.
-/

namespace LocalSocket

open Function (update)
open Channel (Registration)

/-! ## Giving up a registration -/

/-- That a registration is dropped after deregistering makes no difference, and
dropping it is deregistering quietly. -/
theorem Channel.Registration.given_up_once :
    Registration.deregister {} = Channel.deregister ∧
      Registration.drop {} = Operating.quietly Channel.deregister := by
  constructor
  · show (Channel.deregister.run.bind _).bind _ = Channel.deregister.run
    rw [Program.bind_assoc]
    exact Program.bind_done _
  · show (Program.bind (Program.bind Channel.deregister.run _) _).bind _ =
      (Program.bind Channel.deregister.run _).bind _
    simp only [Program.bind_assoc]
    rfl

/-- A registration is in the hands of a thread that has counted it but not yet
handed it out, or that is giving it up and has not yet counted it down. -/
def Config.HasGuard (c : Config) (trace : Trace) (thread : Thread) : Prop :=
  ∃ operation, (c.activity thread).operation? = some operation ∧
    (operation = .register ∧ trace.HasPut thread ∨
      operation.takesGuard = true ∧ ¬trace.HasPut thread)

/-- What a step makes of the count of registrations: registering adds one, with
the first write of the operation, and giving up a registration takes one off
again; all else leaves the count alone. -/
inductive Config.Recounts (c : Config) (trace : Trace) :
    Trace → Config → Prop where
  | registered {thread : Thread} {fields : Fields} {c' : Config}
      (current : (c.activity thread).operation? = some .register)
      (first : ¬trace.HasPut thread)
      (counted : c'.channel.fields.registrations =
        c.channel.fields.registrations + 1) :
      Recounts c trace [.acted thread (.put fields)] c'
  | deregistered {thread : Thread} {fields : Fields} {c' : Config}
      {operation : Channel.Operation}
      (current : (c.activity thread).operation? = some operation)
      (takesGuard : operation.takesGuard = true)
      (first : ¬trace.HasPut thread)
      (counted : c'.channel.fields.registrations + 1 =
        c.channel.fields.registrations) :
      Recounts c trace [.acted thread (.put fields)] c'
  | aside {events : Trace} {c' : Config}
      (settled : ∀ thread fields operation,
        events = [.acted thread (.put fields)] →
        (c.activity thread).operation? = some operation →
          operation ≠ .register ∧
            (operation.takesGuard = true → trace.HasPut thread))
      (same : c'.channel.fields.registrations =
        c.channel.fields.registrations) :
      Recounts c trace events c'

/-- Every registration is held by a selector or in the hands of a thread. -/
def Config.Tallies (c : Config) (trace : Trace) : Prop :=
  ∃ hands : Finset Thread, (∀ t, t ∈ hands ↔ c.HasGuard trace t) ∧
    c.channel.fields.registrations = c.guards + hands.card

section Tallies

variable {fd : Fd} {trace events : Trace} {c c' : Config} {thread : Thread}
  {event : Event} {s : Ledger}

theorem Ledger.Records.hasHand (records : s.Records trace c thread) :
    s.hasHand = true ↔ c.HasGuard trace thread := by
  have hasPut := records.hasPut
  have operation := records.operation
  unfold Ledger.hasHand Config.HasGuard
  rw [← operation]
  cases hoperation : s.operation with
  | none => simp
  | some operation =>
      cases operation <;>
        simp [Channel.Operation.takesGuard, ← hasPut]

theorem Ledger.Records.settled (records : s.Records trace c thread)
    (settled : s.IsSettled) : ¬c.HasGuard trace thread := by
  rintro ⟨operation, current, ⟨rfl, _⟩ | ⟨takesGuard, first⟩⟩
  · exact (settled _ (records.operation.trans current)).1 rfl
  · exact first (records.hasPut.mp
      ((settled _ (records.operation.trans current)).2 takesGuard))

theorem Config.hasGuard_other (hthread : event.thread ≠ thread)
    (hactivity : c'.activity thread = c.activity thread) :
    c'.HasGuard (trace ++ [event]) thread ↔ c.HasGuard trace thread := by
  unfold Config.HasGuard
  rw [hactivity, Trace.hasPut_other hthread]

theorem Config.hasGuard_same (hthread : event.thread = thread)
    (hboundary : event.isBoundary = false)
    (unwritten : ∀ fields, event ≠ .acted thread (.put fields))
    (hoperation : (c'.activity thread).operation? =
      (c.activity thread).operation?) :
    c'.HasGuard (trace ++ [event]) thread ↔ c.HasGuard trace thread := by
  unfold Config.HasGuard
  rw [hoperation, Trace.hasPut_same hthread hboundary]
  simp [unwritten]

theorem Config.Tallies.frame (tallies : c.Tallies trace)
    (hregistrations : c'.channel.fields.registrations =
      c.channel.fields.registrations) (hguards : c'.guards = c.guards)
    (hhands : ∀ t, c'.HasGuard (trace ++ events) t ↔ c.HasGuard trace t) :
    c'.Tallies (trace ++ events) := by
  obtain ⟨hands, hmem, hcard⟩ := tallies
  refine ⟨hands, fun t => (hmem t).trans (hhands t).symm, ?_⟩
  rw [hregistrations, hguards, hcard]

theorem Config.Tallies.gain (tallies : c.Tallies trace)
    (hothers : ∀ t, t ≠ thread →
      (c'.HasGuard (trace ++ events) t ↔ c.HasGuard trace t))
    (before : ¬c.HasGuard trace thread)
    (after : c'.HasGuard (trace ++ events) thread)
    (hsum : c'.channel.fields.registrations + c.guards =
      c.channel.fields.registrations + c'.guards + 1) :
    c'.Tallies (trace ++ events) := by
  obtain ⟨hands, hmem, hcard⟩ := tallies
  have hnew : thread ∉ hands := fun h => before ((hmem thread).mp h)
  refine ⟨insert thread hands, fun t => ?_, ?_⟩
  · by_cases ht : t = thread
    · subst ht
      simpa using after
    · simp [ht, hmem t, hothers t ht]
  · rw [Finset.card_insert_of_notMem hnew]
    omega

theorem Config.Tallies.lose (tallies : c.Tallies trace)
    (hothers : ∀ t, t ≠ thread →
      (c'.HasGuard (trace ++ events) t ↔ c.HasGuard trace t))
    (before : c.HasGuard trace thread)
    (after : ¬c'.HasGuard (trace ++ events) thread)
    (hsum : c'.channel.fields.registrations + c.guards + 1 =
      c.channel.fields.registrations + c'.guards) :
    c'.Tallies (trace ++ events) := by
  obtain ⟨hands, hmem, hcard⟩ := tallies
  have hold : thread ∈ hands := (hmem thread).mpr before
  have hpos := Finset.card_pos.mpr ⟨thread, hold⟩
  refine ⟨hands.erase thread, fun t => ?_, ?_⟩
  · by_cases ht : t = thread
    · subst ht
      simpa using after
    · simp [ht, hmem t, hothers t ht]
  · rw [Finset.card_erase_of_mem hold]
    omega

theorem Config.Tallies.pos (tallies : c.Tallies trace)
    (h : c.HasGuard trace thread) : 0 < c.channel.fields.registrations := by
  obtain ⟨hands, hmem, hcard⟩ := tallies
  have hpos := Finset.card_pos.mpr ⟨thread, (hmem thread).mpr h⟩
  omega

theorem Config.not_hasGuard_of_idle (idle : c.activity thread = .idle) :
    ¬c.HasGuard trace thread := by
  rintro ⟨operation, current, _⟩
  rw [idle] at current
  cases current

theorem Config.hasGuard_began {operation : Channel.Operation}
    (hthread : event.thread = thread) (hboundary : event.isBoundary = true)
    (hoperation : (c.activity thread).operation? = some operation) :
    c.HasGuard (trace ++ [event]) thread ↔ operation.takesGuard = true := by
  have unput : ¬Trace.HasPut thread (trace ++ [event]) :=
    Trace.not_hasPut_boundary hthread hboundary
  unfold Config.HasGuard
  rw [hoperation]
  simp [unput]

theorem Ledger.Records.not_hasPut (records : s.Records trace c thread)
    (first : s.hasPut = false) : ¬trace.HasPut thread := fun h => by
  rw [← records.hasPut, first] at h
  cases h

theorem Ledger.Records.hasGuard_iff {operation : Channel.Operation}
    (records : s.Records trace c thread)
    (current : s.operation = some operation) : c.HasGuard trace thread ↔
      operation = .register ∧ s.hasPut = true ∨
        operation.takesGuard = true ∧ s.hasPut = false := by
  unfold Config.HasGuard
  rw [← records.operation, current, ← records.hasPut]
  simp

/-- What a write of the fields makes of the count. -/
theorem Step.recounts_put {fields : Fields}
    (step : Step fd c [.acted thread (.put fields)] c') (run : Run fd trace c)
    (tallies : c.Tallies trace) :
    c.Recounts trace [.acted thread (.put fields)] c' ∧
      c'.Tallies (trace ++ [.acted thread (.put fields)]) := by
  obtain ⟨hchannel, hguards, hoperation, operation, next, running⟩ := step.put
  obtain ⟨s, agrees, records, known, counts, _⟩ := run.put_ledger running
  have hfields : c'.channel.fields = fields := by rw [hchannel]
  have hothers : ∀ t, t ≠ thread →
      (c'.HasGuard (trace ++ [.acted thread (.put fields)]) t ↔
        c.HasGuard trace t) := fun t ht =>
    Config.hasGuard_other (Ne.symm ht) (step.others ht)
  have hafter : c'.HasGuard (trace ++ [.acted thread (.put fields)]) thread ↔
      (c.activity thread).operation? = some .register := by
    have hsame : (Event.acted thread (.put fields)).thread = thread := rfl
    have hput : Trace.HasPut thread (trace ++ [.acted thread (.put fields)]) :=
      (Trace.hasPut_same hsame rfl).mpr (.inr ⟨fields, rfl⟩)
    unfold Config.HasGuard
    rw [hoperation thread]
    simp [hput]
  have hregister := records.operation
  cases counts with
  | registered current first nonBlocking counted =>
      rw [current] at hregister
      refine ⟨.registered hregister.symm (records.not_hasPut first)
        (by rw [hfields, counted]), tallies.gain hothers ?_
        (hafter.mpr hregister.symm) (by rw [hfields, hguards]; omega)⟩
      rw [records.hasGuard_iff current]
      simp [first, Channel.Operation.takesGuard]
  | @deregistered operation' current takesGuard first counted =>
      rw [current] at hregister
      have before : c.HasGuard trace thread :=
        (records.hasGuard_iff current).mpr (.inr ⟨takesGuard, first⟩)
      have pos := tallies.pos before
      refine ⟨.deregistered hregister.symm takesGuard
        (records.not_hasPut first) (by rw [hfields]; omega),
        tallies.lose hothers before ?_ (by rw [hfields, hguards]; omega)⟩
      rw [hafter, ← hregister]
      rintro ⟨⟩
      cases takesGuard
  | aside settled same =>
      refine ⟨.aside ?_ (by rw [hfields, same]), tallies.frame
        (by rw [hfields, same]) hguards fun t => ?_⟩
      · rintro t fields' operation' ⟨⟩ current
        have hsettled := settled operation' (records.operation.trans current)
        exact ⟨hsettled.1, fun h => records.hasPut.mp (hsettled.2 h)⟩
      · by_cases ht : t = thread
        · subst ht
          refine iff_of_false ?_ (records.settled settled)
          rw [hafter, ← records.operation]
          exact fun h => (settled _ h).1 rfl
        · exact hothers t ht

theorem Config.Tallies.began {operation : Channel.Operation} {guards : Nat}
    (tallies : c.Tallies trace)
    (step : Step fd c [.began thread operation] c')
    (idle : c.activity thread = .idle) (hguards : c'.guards = guards)
    (hcount : c.guards = guards + operation.takesGuard.toNat) :
    c'.Tallies (trace ++ [.began thread operation]) := by
  obtain ⟨running, hchannel⟩ := step.running_of_began
  have before : ¬c.HasGuard trace thread := Config.not_hasGuard_of_idle idle
  have after : c'.HasGuard (trace ++ [.began thread operation]) thread ↔
      operation.takesGuard = true :=
    Config.hasGuard_began rfl rfl (by rw [running]; rfl)
  have hothers : ∀ t, t ≠ thread →
      (c'.HasGuard (trace ++ [.began thread operation]) t ↔
        c.HasGuard trace t) := fun t ht =>
    Config.hasGuard_other (Ne.symm ht) (step.others ht)
  cases h : operation.takesGuard with
  | false =>
      rw [h] at after hcount
      refine tallies.frame (by rw [hchannel]) (hguards.trans hcount.symm)
        fun t => ?_
      by_cases ht : t = thread
      · subst ht
        simp [before, after]
      · exact hothers t ht
  | true =>
      rw [h, Bool.toNat_true] at hcount
      exact tallies.gain hothers before (after.mpr h)
        (by rw [hchannel, hguards]; omega)

theorem Config.Tallies.ended {operation : Channel.Operation}
    {reply : Channel.Reply} (tallies : c.Tallies trace) (run : Run fd trace c)
    (step : Step fd c [.ended thread operation reply] c') :
    c'.Tallies (trace ++ [.ended thread operation reply]) := by
  obtain ⟨s, agrees, records, keeps⟩ := run.ledger thread
  rw [step.done_of_ended] at keeps
  have before :
      c.HasGuard trace thread ↔ operation.givesGuard reply = true := by
    rw [← records.hasHand, (keeps trivial).2]
  have after :
      ¬c'.HasGuard (trace ++ [.ended thread operation reply]) thread :=
    Config.not_hasGuard_of_idle step.idle_of_ended
  have hothers : ∀ t, t ≠ thread →
      (c'.HasGuard (trace ++ [.ended thread operation reply]) t ↔
        c.HasGuard trace t) := fun t ht =>
    Config.hasGuard_other (Ne.symm ht) (step.others ht)
  obtain ⟨hchannel, hguards⟩ : c'.channel = c.channel ∧
      c'.guards = c.guards + (operation.givesGuard reply).toNat := by
    cases step with
    | finish => exact ⟨rfl, rfl⟩
  cases h : operation.givesGuard reply with
  | false =>
      rw [h] at before hguards
      refine tallies.frame (by rw [hchannel]) hguards fun t => ?_
      by_cases ht : t = thread
      · subst ht
        simp [before, after]
      · exact hothers t ht
  | true =>
      rw [h, Bool.toNat_true] at hguards
      exact tallies.lose hothers (before.mpr h) after
        (by rw [hchannel, hguards]; omega)

/-- In the middle of an operation, it takes a write to change the count. -/
theorem Config.Tallies.inside (tallies : c.Tallies trace)
    (step : Step fd c [event] c') (hboundary : event.isBoundary = false)
    (unwritten : ∀ fields, event ≠ .acted event.thread (.put fields))
    (hfields : c'.channel.fields = c.channel.fields)
    (hguards : c'.guards = c.guards)
    (hoperation : (c'.activity event.thread).operation? =
      (c.activity event.thread).operation?) :
    c'.Tallies (trace ++ [event]) := by
  refine tallies.frame (by rw [hfields]) hguards fun t => ?_
  by_cases ht : t = event.thread
  · subst ht
    exact Config.hasGuard_same rfl hboundary unwritten hoperation
  · exact Config.hasGuard_other (Ne.symm ht) (step.others ht)

theorem Step.recounts (step : Step fd c events c') (run : Run fd trace c)
    (tallies : c.Tallies trace) :
    c.Recounts trace events c' ∧ c'.Tallies (trace ++ events) := by
  by_cases hput : ∃ thread fields, events = [.acted thread (.put fields)]
  · obtain ⟨thread, fields, rfl⟩ := hput
    exact step.recounts_put run tallies
  have unwritten : ∀ thread fields, events ≠ [.acted thread (.put fields)] :=
    fun thread fields h => hput ⟨thread, fields, h⟩
  have hfields := step.fields_eq run unwritten
  refine ⟨.aside (fun t fields _ h => absurd h (unwritten t fields))
    (by rw [hfields]), ?_⟩
  have hstep := step
  cases step with
  | @begin thread operation idle isLive hasGuard =>
      refine tallies.began hstep idle rfl (Nat.sub_add_cancel ?_).symm
      cases h : operation.takesGuard with
      | false => exact Nat.zero_le _
      | true => exact hasGuard h
  | drop idle => exact tallies.began hstep (idle _) rfl rfl
  | act running answered =>
      refine tallies.inside hstep rfl (fun fields h => ?_) hfields rfl ?_
      · exact unwritten _ fields (congrArg (fun event => [event]) h)
      · simp [running]
  | pause running | call running =>
      exact tallies.inside hstep rfl (fun _ => nofun) rfl rfl
        (by simp [running])
  | answer answer calling =>
      exact tallies.inside hstep rfl (fun _ => nofun) rfl rfl
        (by simp [calling])
  | @unroll thread operation β body next running =>
      refine tallies.frame rfl rfl fun t => ?_
      have hoperation : (Function.update c.activity thread
          (.running operation (.unroll body next)) t).operation? =
          (c.activity t).operation? := by
        by_cases ht : t = thread
        · subst ht
          simp [running]
        · simp [ht]
      simp [Config.HasGuard, hoperation]
  | finish running => exact tallies.ended run hstep

theorem Run.tallies (run : Run fd trace c) : c.Tallies trace :=
  run.induct (fun channel fresh => by
    refine ⟨∅, fun t => ?_, ?_⟩
    · simpa using Config.not_hasGuard_of_idle rfl
    · cases fresh <;> rfl)
    fun _ _ _ _ run step tallies => (step.recounts run tallies).2

/-- Whoever gives up a registration has counted it down in the end. -/
theorem Run.hasPut_of_takesGuard {operation : Channel.Operation}
    {reply : Channel.Reply} (run : Run fd trace c)
    (running : c.activity thread = .running operation (.done reply))
    (takesGuard : operation.takesGuard = true) : trace.HasPut thread := by
  obtain ⟨s, agrees, records, keeps⟩ := run.ledger thread
  rw [running] at keeps
  have current : s.operation = some operation := by
    rw [records.operation, running]
    rfl
  have hgives : operation.givesGuard reply = false := by
    cases operation <;> first | rfl | cases takesGuard
  by_contra unput
  have hhand : s.hasHand = true := records.hasHand.mpr
    ⟨operation, by rw [running]; rfl, .inr ⟨takesGuard, unput⟩⟩
  rw [(keeps trivial).2, hgives] at hhand
  cases hhand

end Tallies

/-! ## The blocking mode -/

section Mode

variable {fd : Fd} {trace events : Trace} {c c' : Config} {thread : Thread}

/-- A channel with registrations does not block. -/
theorem Run.nonBlocking (run : Run fd trace c)
    (pos : 0 < c.channel.fields.registrations) :
    c.channel.isBlocking = false := by
  refine run.induct (I := fun _ c => 0 < c.channel.fields.registrations →
    c.channel.isBlocking = false) (fun channel fresh pos => ?_)
    (fun trace c events c' run step ih pos => ?_) pos
  · cases fresh <;> cases pos
  by_cases hset : ∃ thread blocking,
      events = [.acted thread (.setBlocking blocking)]
  · obtain ⟨thread, blocking, rfl⟩ := hset
    obtain ⟨hchannel, _, unguarded⟩ := step.setBlocking run
    rw [hchannel] at pos ⊢
    cases blocking with
    | false => rfl
    | true => simp [unguarded rfl] at pos
  have hblocking := step.isBlocking_eq run fun thread blocking h =>
    hset ⟨thread, blocking, h⟩
  rw [hblocking]
  obtain ⟨recounts, _⟩ := step.recounts run run.tallies
  cases recounts with
  | registered current first counted =>
      obtain ⟨_, _, _, operation, next, running⟩ := step.put
      obtain ⟨s, agrees, records, known, counts, _⟩ := run.put_ledger running
      cases counts with
      | registered current' first' nonBlocking =>
          exact (agrees.blocking false nonBlocking).2.symm
      | deregistered current' takesGuard =>
          rw [records.operation, current] at current'
          cases current'
          cases takesGuard
      | aside settled =>
          exact absurd rfl (settled _ (records.operation.trans current)).1
  | deregistered current takesGuard first counted => exact ih (by omega)
  | aside settled same => exact ih (by omega)

end Mode

/-- The mode that the call has put in force. -/
def Event.mode? : Event → Option Bool
  | answered _ (.setNonBlocking _ nonBlocking) (.ok ()) => some !nonBlocking
  | _ => none

/-- The mode that has been put in force last. -/
def Trace.mode? (trace : Trace) : Option Bool :=
  (trace.filterMap Event.mode?).getLast?

theorem Trace.mode?_append (trace : Trace) (event : Event) :
    Trace.mode? (trace ++ [event]) = event.mode?.or trace.mode? := by
  unfold Trace.mode?
  rw [List.filterMap_append]
  cases h : event.mode? <;> simp [h]

/-- Nothing but recording the mode comes between a call that has put it in force
and the flag. -/
structure Config.InForce (c : Config) (trace : Trace) (initial : Bool) :
    Prop where
  pending : ∀ thread blocking,
    trace.due? thread c.channel.fields = some (.setBlocking blocking) →
      trace.mode? = some blocking
  recorded : (∀ thread blocking,
    trace.due? thread c.channel.fields ≠ some (.setBlocking blocking)) →
      c.channel.isBlocking = trace.mode?.getD initial

section Mode

variable {fd : Fd} {trace events : Trace} {c c' : Config} {thread : Thread}
  {event : Event}

theorem Event.due?_eq_setBlocking {fields : Fields} {blocking : Bool} :
    event.due? fields = some (.setBlocking blocking) ↔
      event.mode? = some blocking := by
  cases event with
  | answered _ call answer =>
      cases call with
      | setNonBlocking =>
          cases answer <;> simp [Event.due?, Call.due?, Event.mode?]
      | shutdown _ how =>
          cases answer <;> cases how <;>
            simp [Event.due?, Call.due?, Event.mode?, Shutdown.direction?]
      | _ => simp [Event.due?, Call.due?, Event.mode?]
  | _ => simp [Event.due?, Event.mode?]

theorem Trace.due?_eq_setBlocking {fields : Fields} {blocking : Bool} :
    trace.due? thread fields = some (.setBlocking blocking) ↔
      (trace.last? thread).bind Event.mode? = some blocking := by
  unfold Trace.due?
  cases trace.last? thread with
  | none => simp
  | some event => exact Event.due?_eq_setBlocking

theorem Config.InForce.step {initial : Bool} (inForce : c.InForce trace initial)
    (run : Run fd trace c) (step : Step fd c [event] c') :
    c'.InForce (trace ++ [event]) initial := by
  have own : ∀ blocking, Trace.due? event.thread c'.channel.fields
      (trace ++ [event]) = some (.setBlocking blocking) ↔
      event.mode? = some blocking := fun blocking => by
    rw [Trace.due?_append_same rfl, Event.due?_eq_setBlocking]
  have other : ∀ t, t ≠ event.thread → ∀ blocking,
      Trace.due? t c'.channel.fields (trace ++ [event]) =
        some (.setBlocking blocking) ↔
      trace.due? t c.channel.fields = some (.setBlocking blocking) :=
    fun t ht blocking => by
      rw [Trace.due?_append_other (Ne.symm ht), Trace.due?_eq_setBlocking,
        Trace.due?_eq_setBlocking]
  have mode := Trace.mode?_append trace event
  refine ⟨fun t blocking due => ?_, fun settled => ?_⟩
  · by_cases ht : t = event.thread
    · subst ht
      rw [mode, (own blocking).mp due]
      rfl
    · rw [mode, inForce.pending t blocking ((other t ht blocking).mp due)]
      cases hmode : event.mode? with
      | none => rfl
      | some now =>
          -- both threads would hold the state lock
          have run' := run.step step
          have held := (run'.next_of_due due).1
          have held' := (run'.next_of_due ((own now).mpr hmode)).1
          exact absurd (Option.some.inj (held.symm.trans held')) ht
  · have hnone : event.mode? = none := by
      cases hmode : event.mode? with
      | none => rfl
      | some now => exact absurd ((own now).mpr hmode) (settled _ now)
    rw [mode, hnone, Option.none_or]
    by_cases hdue : ∃ t blocking,
        trace.due? t c.channel.fields = some (.setBlocking blocking)
    · obtain ⟨t, blocking, due⟩ := hdue
      have ht : t = event.thread := by
        by_contra ht
        exact settled t blocking ((other t ht blocking).mpr due)
      subst ht
      have hevent := step.eq_of_due run due
      rw [hevent] at step
      rw [(step.setBlocking run).1, inForce.pending _ blocking due]
      rfl
    · have settled' : ∀ t blocking,
          trace.due? t c.channel.fields ≠ some (.setBlocking blocking) :=
        fun t blocking due => hdue ⟨t, blocking, due⟩
      rw [← inForce.recorded settled']
      refine step.isBlocking_eq run fun t blocking h => ?_
      rw [h] at step
      exact settled' t blocking (step.setBlocking run).2.1

theorem Steps.inForce {channel : Channel} (fresh : channel.IsFresh fd)
    (steps : Steps fd (.start channel) trace c) :
    c.InForce trace channel.isBlocking := by
  induction steps with
  | refl => exact ⟨nofun, fun _ => rfl⟩
  | @tail trace events c c' steps step ih =>
      obtain rfl | ⟨event, rfl⟩ := step.events
      · rw [List.append_nil]
        cases step with
        | unroll => exact ⟨ih.pending, ih.recorded⟩
      · exact ih.step ⟨channel, fresh, steps⟩ step

end Mode

/-! ## Switching to blocking mode -/

/-- While there are registrations, the channel is not in blocking mode. -/
def registered : Outlook Unit :=
  .plain (fun _ channel => 0 < channel.fields.registrations ∧
    channel.isBlocking = false) fun _ => False

theorem configureBlocking_refused (fd : Fd) (thread : Thread) :
    registered.protocol.Meets thread
      ((Channel.Operation.configureBlocking true).program fd)
      (fun reply _ => reply = .failed .closed ∨
        reply = .failed .illegalBlockingMode) { note := () } := by
  show registered.protocol.Meets thread
    (Channel.reply _ (Channel.configureBlocking fd true)) _ _
  rw [Protocol.meets_reply]
  -- nothing but the two refusals comes out of the sections
  let Q : Except ChannelError Unit → Unit → Prop := fun result _ =>
    result = .error .closed ∨ result = .error .illegalBlockingMode
  have refused : registered.protocol.Meets thread
      (Channel.configureBlocking fd true).run
      (fun result s => Q result s.note) { note := () } := by
    refine Outlook.holding_meets (Q := Q) nofun ?_
    refine Outlook.holding_meets (Q := Q) nofun ?_
    refine Outlook.holding_state_meets (Q := Q) fun channel _ found => ?_
    rw [Protocol.meets_run_bind]
    refine Outlook.ensureOpen_meets (fun _ _ _ _ => ?_) fun _ _ _ => .inl rfl
    rw [Protocol.meets_run_bind]
    refine Outlook.act_isBlocking fun channel' found' => ?_
    rw [found'.2]
    refine Outlook.fields_meets rfl fun _ _ _ => ?_
    rw [if_pos (by simpa using Nat.pos_iff_ne_zero.mp found.1)]
    exact .inr rfl
  refine refused.mono fun result _ h => ?_
  obtain rfl | rfl := h
  · exact .inl rfl
  · exact .inr rfl

/-- As long as selectors hold registrations, switching to blocking mode is
refused without a call. -/
theorem Episode.refused {fd : Fd} {thread : Thread} {before during : Trace}
    {c c' : Config} {reply : Channel.Reply}
    (episode : Episode fd thread (.configureBlocking true) c during reply c')
    (run : Run fd before c)
    (guarded : ∀ past rest c₁, Steps fd c past c₁ → Steps fd c₁ rest c' →
      past ++ rest = .began thread (.configureBlocking true) :: during ++
        [.ended thread (.configureBlocking true) reply] → 0 < c₁.guards) :
    (reply = .failed .closed ∨ reply = .failed .illegalBlockingMode) ∧
      ∀ call, .called thread call ∉ during := by
  obtain ⟨⟨s, refused⟩, uncalled⟩ := episode.plain run
    (configureBlocking_refused fd thread)
    fun past action rest c₁ c₂ hpast hstep hrest hduring => by
      have pos : 0 < c₁.channel.fields.registrations := by
        obtain ⟨hands, _, hcard⟩ := (run.steps hpast).tallies
        have hguards := guarded past (.acted thread action :: rest) c₁ hpast
          ((Steps.single hstep).trans hrest) hduring.symm
        omega
      exact ⟨pos, (run.steps hpast).nonBlocking pos⟩
  exact ⟨refused, uncalled⟩

/-! ## Runs -/

/-- In every run, however a registration is given up: the count of registrations
is that of the registrations not yet given up, held by selectors or in the hands
of threads; it goes up with the first write of an operation that registers, and
down with the first write of one that gives a registration up, which such an
operation never ends without, and never falls below zero.  While it is positive,
the channel does not block.  The flag is the mode that has been put in force
last, or the mode at the start, unless a thread holds the state lock and records
the mode with its next action.  As long as selectors hold registrations,
switching to blocking mode is refused without a call. -/
theorem registrations_kept {fd : Fd} {channel : Channel} {trace : Trace}
    {c : Config} (fresh : channel.IsFresh fd)
    (steps : Steps fd (.start channel) trace c) :
    (Channel.Operation.deregister.program fd =
        Channel.reply (fun _ => .finished) (Registration.deregister {}) ∧
      Channel.Operation.dropRegistration.program fd =
        Channel.reply (fun _ => .finished) (Registration.drop {})) ∧
      c.Tallies trace ∧
      (∀ events c', Step fd c events c' → c.Recounts trace events c') ∧
      (∀ thread operation reply,
        c.activity thread = .running operation (.done reply) →
          operation.takesGuard = true → trace.HasPut thread) ∧
      (0 < c.channel.fields.registrations → c.channel.isBlocking = false) ∧
      (c.channel.isBlocking = trace.mode?.getD channel.isBlocking ∨
        ∃ thread operation rest blocking,
          c.channel.locks.state = some thread ∧
          c.activity thread = .running operation rest ∧
          rest.next? = some (.setBlocking blocking) ∧
          trace.mode? = some blocking) ∧
      ∀ thread during reply c',
        Episode fd thread (.configureBlocking true) c during reply c' →
        (∀ past rest c₁, Steps fd c past c₁ → Steps fd c₁ rest c' →
          past ++ rest = .began thread (.configureBlocking true) :: during ++
            [.ended thread (.configureBlocking true) reply] → 0 < c₁.guards) →
        (reply = .failed .closed ∨ reply = .failed .illegalBlockingMode) ∧
          ∀ call, .called thread call ∉ during := by
  have run : Run fd trace c := ⟨channel, fresh, steps⟩
  obtain ⟨deregistered, dropped⟩ := Registration.given_up_once
  refine ⟨⟨by rw [deregistered]; rfl, by rw [dropped]; rfl⟩, run.tallies,
    fun events c' step => (step.recounts run run.tallies).1,
    fun _ _ _ => run.hasPut_of_takesGuard, run.nonBlocking, ?_,
    fun _ _ _ _ episode guarded => episode.refused run guarded⟩
  have inForce := steps.inForce fresh
  by_cases hdue : ∃ t blocking,
      trace.due? t c.channel.fields = some (.setBlocking blocking)
  · obtain ⟨t, blocking, due⟩ := hdue
    obtain ⟨held, operation, rest, running, hnext⟩ := run.next_of_due due
    exact .inr ⟨t, operation, rest, blocking, held, running, hnext,
      inForce.pending t blocking due⟩
  · exact .inl (inForce.recorded fun t blocking due => hdue ⟨t, blocking, due⟩)

theorem Steps.guards_le {fd : Fd} {trace : Trace} {c c' : Config}
    (steps : Steps fd c trace c') (kept : ∀ thread operation,
      .began thread operation ∈ trace → operation.takesGuard = false) :
    c.guards ≤ c'.guards := by
  induction steps with
  | refl => exact le_rfl
  | @tail trace events c' c'' _ step ih =>
      refine (ih fun thread operation hmem =>
        kept thread operation (List.mem_append_left _ hmem)).trans ?_
      cases step with
      | @begin thread operation =>
          rw [kept thread operation (by simp)]
          exact le_rfl
      | finish => exact Nat.le_add_right _ _
      | _ => exact le_rfl

/-- A channel is registered in non-blocking mode; then another thread tries to
switch it back. -/
def untilRegistered : List Move :=
  [[.begin 1 (.configureBlocking false)], Move.steps 1 7,
    [.answer 1 fun
      | .setNonBlocking .. => .ok ()
      | _ => .error (.code Errno.again)],
    Move.steps 1 5, [.begin 1 .register], Move.steps 1 7].flatten

theorem untilRegistered_isSome :
    ((Config.start (.owning 3 .unconnected true)).play 3
      untilRegistered).isSome = true := by
  decide +kernel

def registeredOnce : Trace × Config :=
  ((Config.start (.owning 3 .unconnected true)).play 3 untilRegistered).get
    untilRegistered_isSome

theorem steps_registeredOnce :
    Steps 3 (.start (.owning 3 .unconnected true)) registeredOnce.1
      registeredOnce.2 :=
  Config.steps_get untilRegistered_isSome

theorem switching_isSome : (registeredOnce.2.move 3
    (.begin 2 (.configureBlocking true))).isSome = true := by
  decide +kernel

def switching : Trace × Config :=
  (registeredOnce.2.move 3 (.begin 2 (.configureBlocking true))).get
    switching_isSome

theorem step_switching :
    Step 3 registeredOnce.2 switching.1 switching.2 :=
  Config.step_get switching_isSome

theorem untilSwitchRefused_isSome :
    (switching.2.play 3 (Move.steps 2 10)).isSome = true := by
  decide +kernel

def switchRefused : Trace × Config :=
  (switching.2.play 3 (Move.steps 2 10)).get untilSwitchRefused_isSome

theorem steps_switchRefused :
    Steps 3 switching.2 switchRefused.1 switchRefused.2 :=
  Config.steps_get untilSwitchRefused_isSome

theorem episode_switchRefused : ∃ c, Episode 3 2 (.configureBlocking true)
    registeredOnce.2 (switchRefused.1.take 9) (.failed .illegalBlockingMode)
    c := by
  have began : Step 3 registeredOnce.2 [.began 2 (.configureBlocking true)]
      switching.2 := step_switching
  have steps : Steps 3 switching.2 (switchRefused.1.take 9 ++
      .ended 2 (.configureBlocking true) (.failed .illegalBlockingMode) :: [])
      switchRefused.2 := steps_switchRefused
  obtain ⟨c₁, c₂, during, ended, _⟩ := steps.split
  exact ⟨c₂, ⟨switching.2, c₁, began, during, ended⟩,
    Trace.isWithin_of_all (by decide +kernel)⟩

theorem switching_refused_while_registered : ∃ during c,
    Episode 3 2 (.configureBlocking true) registeredOnce.2 during
      (.failed .illegalBlockingMode) c ∧
      registeredOnce.2.channel.isBlocking = false ∧
      ∀ call, .called 2 call ∉ during := by
  obtain ⟨c, episode⟩ := episode_switchRefused
  obtain ⟨_, _, _, _, nonBlocking, _, refused⟩ :=
    registrations_kept .created steps_registeredOnce
  refine ⟨_, c, episode, nonBlocking (by decide +kernel),
    (refused 2 _ _ c episode fun past rest c₁ hpast _ htrace => ?_).2⟩
  -- nobody gives the registration up meanwhile
  have kept : ∀ thread operation, .began thread operation ∈ past →
      operation.takesGuard = false := by
    intro thread operation hmem
    have hbegan : .began thread operation ∈ past ++ rest :=
      List.mem_append_left _ hmem
    rw [htrace] at hbegan
    have honly : ∀ event ∈ switchRefused.1.take 9,
      event.isBoundary = false := by
      decide +kernel
    have hfirst : operation = .configureBlocking true := by
      simp only [List.cons_append, List.mem_cons, List.mem_append,
        List.not_mem_nil, or_false] at hbegan
      obtain h | h | h := hbegan
      · cases h
        rfl
      · cases honly _ h
      · cases h
    rw [hfirst]
    rfl
  have hguards : registeredOnce.2.guards = 1 := by decide +kernel
  have hle := hpast.guards_le kept
  omega

end LocalSocket
