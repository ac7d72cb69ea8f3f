import LocalSocket.Proofs.Coherence
import LocalSocket.Proofs.Discipline.Operations
import LocalSocket.Proofs.History

/-!
# The invariant of a channel

In every run, the standings of the threads, the channel and the trace agree.
-/

namespace LocalSocket

open Function (update)

/-- After the channel has been dropped, nothing but the closing is left to
do. -/
structure Retired (c : Config) (S : Thread → Standing) : Prop where
  unguarded : c.guards = 0
  closing : ∀ t operation, (c.activity t).operation? = some operation →
    operation = .close
  bound : c.channel.isOpen = true → ∃ t, (S t).owesClose = true

structure Coherent (fd : Fd) (trace : Trace) (c : Config)
    (S : Thread → Standing) : Prop where
  locked : Locked c.channel S
  recorded : Recorded c.channel S
  phased : Phased fd c.channel S
  counted : Counted c.guards c.channel S
  retired : c.isDropped = true → Retired c S
  closedBy : ClosedBy trace c.channel S
  releasedBy : ReleasedBy fd trace c S

theorem Retired.step {c c' : Config} {S : Thread → Standing} {thread : Thread}
    {s' : Standing} (retired : Retired c S) (hguards : c'.guards = c.guards)
    (hoperation : ∀ operation, (c'.activity thread).operation? =
      some operation → (c.activity thread).operation? = some operation)
    (hothers : ∀ t, t ≠ thread → c'.activity t = c.activity t)
    (howes : c'.channel.isOpen = true → c.channel.isOpen = true ∧
      ((S thread).owesClose = true → s'.owesClose = true)) :
    Retired c' (update S thread s') := by
  refine ⟨hguards.trans retired.unguarded, fun t operation h => ?_,
    fun isOpen => ?_⟩
  · by_cases ht : t = thread
    · subst ht
      exact retired.closing t operation (hoperation operation h)
    · exact retired.closing t operation (hothers t ht ▸ h)
  · obtain ⟨wasOpen, hbound⟩ := howes isOpen
    obtain ⟨t, ht⟩ := retired.bound wasOpen
    refine ⟨t, ?_⟩
    by_cases hne : t = thread
    · subst hne
      simpa using hbound ht
    · simpa [hne] using ht

theorem Retired.stay {c c' : Config} {S : Thread → Standing}
    (retired : Retired c S) (thread : Thread)
    (hchannel : c'.channel = c.channel) (hguards : c'.guards = c.guards)
    (hothers : ∀ t, t ≠ thread → c'.activity t = c.activity t)
    (hoperation : (c'.activity thread).operation? =
      (c.activity thread).operation?) :
    Retired c' S := by
  rw [← Function.update_eq_self thread S]
  refine retired.step hguards (fun operation h => ?_) hothers fun isOpen => ?_
  · rwa [← hoperation]
  · exact ⟨hchannel ▸ isOpen, id⟩

namespace Standing

variable {thread : Thread} {channel channel' : Channel} {s s' : Standing}
  {action : Action}

theorem Moves.owesClose (moves : s.Moves thread channel action channel' s')
    (isOpen : channel'.isOpen = true) :
    channel.isOpen = true ∧ s'.owesClose = s.owesClose := by
  cases moves with
  | closeOnce settled => cases isOpen
  | put held calm update => cases update <;> exact ⟨isOpen, rfl⟩
  | _ => exact ⟨isOpen, rfl⟩

theorem Update.owesShutDown {fields fields' : Fields}
    (h : s.Update thread fields fields' s') (owes : s'.owesShutDown = true) :
    s.owesShutDown = true := by
  cases h with
  | defer used due => cases owes
  | kill unused due => cases owes
  | _ => exact owes

theorem Update.killed_iff {fields fields' : Fields}
    (h : s.Update thread fields fields' s') :
    (fields.state ≠ .killed ∧ fields'.state = .killed ∧ s'.owesRelease = true) ∨
      ((fields'.state = .killed ↔ fields.state = .killed) ∧
        s'.owesRelease = s.owesRelease) := by
  cases h with
  | kill unused due => exact .inl ⟨due.1, rfl, rfl⟩
  | defer used due => exact .inr ⟨⟨nofun, fun h => absurd h due.1⟩, rfl⟩
  | revise live live' holder reader writer registrations =>
      refine .inr ⟨⟨fun h => ?_, fun h => ?_⟩, rfl⟩
      · simp [h, Lifecycle.isLive] at live'
      · simp [h, Lifecycle.isLive] at live
  | enter direction lock outside live => exact .inr ⟨by simp, rfl⟩
  | leave direction inside => exact .inr ⟨by simp, rfl⟩
  | register live unguarded => exact .inr ⟨Iff.rfl, rfl⟩
  | deregister guarded => exact .inr ⟨Iff.rfl, rfl⟩

end Standing

namespace Coherent

variable {fd : Fd} {trace : Trace} {c : Config} {S : Thread → Standing}
  {thread : Thread} {operation : Channel.Operation}

theorem start {channel : Channel} (fresh : channel.IsFresh fd) :
    Coherent fd [] (.start channel) fun _ => {} := by
  have hlocks : channel.locks = {} := by cases fresh <;> rfl
  have hopen : channel.isOpen = true := by cases fresh <;> rfl
  have hlive : channel.fields.state.isLive = true := by cases fresh <;> rfl
  have hholder : channel.fields.holder = some fd := by cases fresh <;> rfl
  have hreader : channel.fields.reader = none := by cases fresh <;> rfl
  have hwriter : channel.fields.writer = none := by cases fresh <;> rfl
  have hregistrations : channel.fields.registrations = 0 := by
    cases fresh <;> rfl
  have hnotKilled : channel.fields.state ≠ .killed := by
    cases fresh <;> simp [Channel.owning]
  have hinitialized : channel.fields.state ≠ .uninitialized := by
    cases fresh <;> simp [Channel.owning]
  exact {
    locked := by constructor <;> simp [Config.start, hlocks]
    recorded := by
      constructor
      · intro t direction
        cases direction <;> simp [Config.start, Fields.slot, hreader, hwriter]
      · simp
    phased := {
      initialized := hinitialized
      holder := by simp [Config.start, hholder, hnotKilled]
      settled := fun _ => Fields.isSettled_of_isLive hlive
      unused := fun h => absurd h hnotKilled
      live := fun _ => hlive
      closer := by simp
      closing := by simp [Config.start, hopen]
      releaser := by simp }
    counted := ⟨∅, by simp, by simp [Config.start, hregistrations]⟩
    retired := nofun
    closedBy := ⟨by simp [Config.start, hopen, Trace.firstClose?], by simp⟩
    releasedBy := {
      unstarted := fun _ ⟨_, _, hmem⟩ => by cases hmem
      released := fun h => absurd h hnotKilled
      releasing := by simp
      final := fun ⟨_, _, hmem, _⟩ => by cases hmem } }

theorem act {action : Action} {channel : Channel} {result : action.Result}
    {next : action.Result → Program Channel.Reply} {s' : Standing}
    (coherent : Coherent fd trace c S)
    (running : c.activity thread = .running operation (.act action next))
    (answered : c.channel.answer thread action = .answered channel result)
    (calm : (S thread).owesRelease = false)
    (moves : (S thread).Moves thread c.channel action channel s') :
    Coherent fd (trace ++ [.acted thread action])
      { c.set thread (.running operation (next result)) with
        channel := channel }
      (update S thread s') where
  locked := coherent.locked.move moves
  recorded := coherent.recorded.move coherent.locked moves
  phased := coherent.phased.move coherent.locked coherent.recorded moves
  counted := coherent.counted.move moves
  retired := by
    intro dropped
    refine (coherent.retired dropped).step rfl (fun other h => ?_)
      (fun t ht => ?_)
      fun isOpen => ?_
    · simpa [running] using h
    · simp [ht]
    · obtain ⟨wasOpen, hsame⟩ := moves.owesClose isOpen
      exact ⟨wasOpen, fun h => hsame.trans h⟩
  closedBy := by
    -- only clearing the flag counts as closing the channel
    have frame : ∀ {action : Action} {channel' : Channel} {s : Standing},
        action ≠ .closeOnce →
        (action = .release .state → (S thread).owesShutDown = false) →
        channel'.isOpen = c.channel.isOpen →
        (s.owesShutDown = true → (S thread).owesShutDown = true) →
        ClosedBy (trace ++ [.acted thread action]) channel'
          (update S thread s) := by
      intro action channel' s hne hsettled hopen hshutDown
      refine coherent.closedBy.frame rfl (fun _ => ?_) ?_ hopen hshutDown
      · cases action <;> first | rfl | exact absurd rfl hne
      · rintro ⟨⟩
        exact hsettled rfl
    cases moves with
    | closeOnce settled =>
        refine coherent.closedBy.close rfl (fun isOpen t => ?_) rfl
        by_contra h
        have hclosed := (coherent.phased.closer t (by simpa using h)).1
        rw [isOpen] at hclosed
        cases hclosed
    | releaseState held mayLeave calm =>
        exact frame nofun (fun _ => mayLeave.2) rfl id
    | put held calm update => exact frame nofun nofun rfl update.owesShutDown
    | look harmless =>
        exact frame harmless.1 (fun h => absurd h harmless.2) rfl id
    | _ => exact frame nofun nofun rfl id
  releasedBy := by
    have hothers : ∀ t, t ≠ thread →
        (c.set thread (.running operation (next result))).activity t =
          c.activity t := by
      intro t ht
      simp [ht]
    cases moves with
    | put held calm update =>
        obtain ⟨halive, hkilled, howes⟩ | ⟨hsame, howes⟩ := update.killed_iff
        · exact coherent.releasedBy.kill nofun nofun halive hkilled howes
        · exact coherent.releasedBy.frame rfl nofun nofun hsame calm
            (howes.trans calm) hothers
    | _ =>
        exact coherent.releasedBy.frame rfl nofun nofun Iff.rfl calm calm
          hothers

theorem frame {event : Event} {c' : Config} {owesClose hasGuard : Bool}
    (coherent : Coherent fd trace c S) (hthread : event.thread = thread)
    (hfirst : Trace.firstClose? [event] = none)
    (hacted : event ≠ .acted thread (.release .state))
    (hcalled : ∀ t g, event ≠ .called t (.close g))
    (hanswered : ∀ t answer, event ≠ .answered t (.close fd) answer)
    (calm : (S thread).owesRelease = false) (hchannel : c'.channel = c.channel)
    (hothers : ∀ t, t ≠ thread → c'.activity t = c.activity t)
    (counted : Counted c'.guards c.channel
      (update S thread
        { S thread with owesClose := owesClose, hasGuard := hasGuard }))
    (retired : c'.isDropped = true →
      Retired c'
        (update S thread
          { S thread with owesClose := owesClose, hasGuard := hasGuard })) :
    Coherent fd (trace ++ [event]) c'
      (update S thread
        { S thread with owesClose := owesClose, hasGuard := hasGuard }) where
  locked := hchannel ▸ coherent.locked.frame rfl rfl rfl rfl rfl
  recorded := hchannel ▸ coherent.recorded.frame rfl ⟨rfl, rfl⟩
      (coherent.recorded.holds thread)
  phased := hchannel ▸ coherent.phased.frame rfl rfl rfl rfl id
  counted := hchannel ▸ counted
  retired := retired
  closedBy := hchannel ▸ coherent.closedBy.frame hthread (fun _ => hfirst)
    (fun h => absurd h hacted) rfl id
  releasedBy := coherent.releasedBy.frame hthread hcalled hanswered
      (by rw [hchannel]) calm calm hothers

theorem stay (thread : Thread) {event : Event} {c' : Config}
    (coherent : Coherent fd trace c S) (hthread : event.thread = thread)
    (hfirst : Trace.firstClose? [event] = none)
    (hacted : event ≠ .acted thread (.release .state))
    (hcalled : ∀ t g, event ≠ .called t (.close g))
    (hanswered : ∀ t answer, event ≠ .answered t (.close fd) answer)
    (calm : (S thread).owesRelease = false) (hchannel : c'.channel = c.channel)
    (hothers : ∀ t, t ≠ thread → c'.activity t = c.activity t)
    (hguards : c'.guards = c.guards) (hdropped : c'.isDropped = c.isDropped)
    (hoperation : (c'.activity thread).operation? =
      (c.activity thread).operation?) :
    Coherent fd (trace ++ [event]) c' S := by
  have hself : update S thread
      { S thread with
        owesClose := (S thread).owesClose,
        hasGuard := (S thread).hasGuard } = S :=
    Function.update_eq_self thread S
  rw [← hself]
  refine coherent.frame hthread hfirst hacted hcalled hanswered calm hchannel
    hothers ?_ fun dropped => ?_
  · rw [hself, hguards]
    exact coherent.counted
  · rw [hself]
    exact (coherent.retired (hdropped ▸ dropped)).stay thread hchannel hguards
      hothers hoperation

theorem begin (coherent : Coherent fd trace c S) (rest : S thread = {})
    (isLive : c.isDropped = false)
    (hasGuard : operation.takesGuard = true → 0 < c.guards) :
    Coherent fd (trace ++ [.began thread operation])
      { c.set thread (.running operation (operation.program fd)) with
        guards := c.guards - operation.takesGuard.toNat }
      (update S thread operation.standing) := by
  have hstanding : operation.standing =
      { S thread with
        owesClose := operation.standing.owesClose,
        hasGuard := operation.takesGuard } := by
    rw [rest]
    cases operation <;> rfl
  have hcounted : Counted (c.guards - operation.takesGuard.toNat) c.channel
      (update S thread operation.standing) := by
    cases h : operation.takesGuard with
    | false => exact coherent.counted.frame rfl (by rw [hstanding, rest, h])
    | true =>
        refine coherent.counted.gain (by rw [rest]) (by rw [hstanding, h]) ?_
        have hpos := hasGuard h
        rw [Bool.toNat_true]
        omega
  rw [hstanding] at hcounted ⊢
  refine coherent.frame rfl rfl nofun nofun nofun (by rw [rest]) rfl
    (fun t ht => by simp [ht]) hcounted
    fun dropped => ?_
  exact absurd (dropped.symm.trans isLive) nofun

theorem drop (coherent : Coherent fd trace c S)
    (idle : ∀ t, c.activity t = .idle) (rest : S thread = {})
    (unguarded : c.guards = 0) :
    Coherent fd (trace ++ [.began thread .close])
      { c.set thread (.running .close (Channel.Operation.close.program fd)) with
        isDropped := true }
      (update S thread Channel.Operation.close.standing) := by
  have hstanding : Channel.Operation.close.standing =
      { S thread with owesClose := true, hasGuard := false } := by
    rw [rest]
    rfl
  rw [hstanding]
  refine coherent.frame rfl rfl nofun nofun nofun (by rw [rest]) rfl
    (fun t ht => by simp [ht]) ?_
    fun _ => ⟨unguarded, fun t operation h => ?_, fun _ => ⟨thread, by simp⟩⟩
  · exact coherent.counted.frame rfl (by rw [rest])
  · by_cases ht : t = thread
    · subst ht
      simpa [eq_comm] using h
    · simp [ht, idle t] at h

theorem unroll {β : Type} {body : Program (Option β)}
    {next : β → Program Channel.Reply} (coherent : Coherent fd trace c S)
    (running : c.activity thread = .running operation (.loop body next)) :
    Coherent fd trace
      (c.set thread (.running operation (.unroll body next))) S where
  locked := coherent.locked
  recorded := coherent.recorded
  phased := coherent.phased
  counted := coherent.counted
  retired := fun dropped => (coherent.retired dropped).stay thread rfl rfl
    (fun t ht => by simp [ht]) (by simp [running])
  closedBy := coherent.closedBy
  releasedBy := by
    refine ⟨coherent.releasedBy.unstarted, coherent.releasedBy.released,
      fun t ht => ?_, coherent.releasedBy.final⟩
    obtain hnot | hlast | ⟨operation', next', hcalling⟩ :=
      coherent.releasedBy.releasing t ht
    · exact .inl hnot
    · exact .inr (.inl hlast)
    · refine .inr (.inr ⟨operation', next', ?_⟩)
      by_cases hne : t = thread
      · subst hne
        rw [running] at hcalling
        cases hcalling
      · simpa [hne] using hcalling

/-- Nobody but a thread that has the state lock, and finds the descriptor
released in the fields, owes the release. -/
theorem owesRelease_eq (coherent : Coherent fd trace c S)
    (owes : (S thread).owesRelease = true) (t : Thread)
    (ht : (S t).owesRelease = true) :
    t = thread := by
  obtain ⟨_, hthread⟩ := coherent.phased.releaser thread owes
  obtain ⟨_, hlock⟩ := coherent.phased.releaser t ht
  simpa [hthread, eq_comm] using hlock

theorem call {call : Call} {next : call.Answer → Program Channel.Reply}
    (coherent : Coherent fd trace c S)
    (running : c.activity thread = .running operation (.act (.call call) next))
    (permits : (S thread).Permits fd call)
    (owes : (S thread).owesRelease = true → call = .close fd) :
    Coherent fd (trace ++ [.called thread call])
      (c.set thread (.calling operation call next)) S := by
  have hothers : ∀ t, t ≠ thread →
      (c.set thread (.calling operation call next)).activity t =
        c.activity t := by
    intro t ht
    simp [ht]
  have hoperation :
      ((c.set thread (.calling operation call next)).activity
        thread).operation? =
      (c.activity thread).operation? := by
    simp [running]
  cases h : (S thread).owesRelease with
  | false =>
      refine coherent.stay thread rfl rfl nofun ?_ nofun h rfl hothers rfl rfl
        hoperation
      rintro t g ⟨⟩
      have howes := permits.2
      rw [h] at howes
      cases howes
  | true =>
      obtain rfl := owes h
      have hself : update S thread (S thread) = S :=
        Function.update_eq_self thread S
      exact {
        locked := coherent.locked
        recorded := coherent.recorded
        phased := coherent.phased
        counted := coherent.counted
        retired := fun dropped =>
          (coherent.retired dropped).stay thread rfl rfl hothers hoperation
        closedBy := by
          rw [← hself]
          exact coherent.closedBy.frame rfl (fun _ => rfl) nofun rfl id
        releasedBy := coherent.releasedBy.call h (coherent.owesRelease_eq h)
            (coherent.phased.releaser thread h).1 }

theorem answer {call : Call} {next : call.Answer → Program Channel.Reply}
    (coherent : Coherent fd trace c S) (answer : call.Answer)
    (calling : c.activity thread = .calling operation call next)
    (permits : (S thread).Permits fd call)
    (owes : (S thread).owesRelease = true → call = .close fd) :
    Coherent fd (trace ++ [.answered thread call answer])
      (c.set thread (.running operation (next answer)))
      (update S thread ((S thread).afterCall call answer)) := by
  have hothers : ∀ t, t ≠ thread →
      (c.set thread (.running operation (next answer))).activity t =
        c.activity t := by
    intro t ht
    simp [ht]
  have hoperation :
      ((c.set thread (.running operation (next answer))).activity
        thread).operation? =
      (c.activity thread).operation? := by
    simp [calling]
  cases h : (S thread).owesRelease with
  | false =>
      have hother : ∀ g, call ≠ .close g := by
        rintro g rfl
        have howes := permits.2
        rw [h] at howes
        cases howes
      have hafter : (S thread).afterCall call answer = S thread := by
        cases call with
        | close other => exact absurd rfl (hother other)
        | _ => rfl
      rw [hafter, Function.update_eq_self]
      refine coherent.stay thread rfl rfl nofun nofun ?_ h rfl hothers rfl rfl
        hoperation
      rintro t answer ⟨⟩
      exact hother fd rfl
  | true =>
      obtain rfl := owes h
      obtain ⟨released, hafter⟩ :
          ∃ released, (S thread).afterCall (.close fd) answer =
          { S thread with owesRelease := released } := by
        cases answer with
        | ok value => exact ⟨false, rfl⟩
        | error error =>
            cases hinterrupted : error.isInterrupted with
            | true =>
                exact ⟨(S thread).owesRelease,
                  by simp [Standing.afterCall, hinterrupted]⟩
            | false => exact ⟨false, by simp [Standing.afterCall, hinterrupted]⟩
      have honly := coherent.owesRelease_eq h
      have hkilled := (coherent.phased.releaser thread h).1
      exact {
        locked := coherent.locked.frame rfl rfl (by rw [hafter])
            (by rw [hafter]) (by rw [hafter])
        recorded := by
          rw [hafter]
          exact coherent.recorded.frame rfl ⟨rfl, rfl⟩
            (coherent.recorded.holds thread)
        phased := by
          rw [hafter]
          exact coherent.phased.frame rfl rfl rfl rfl fun _ => h
        counted := coherent.counted.frame rfl (by rw [hafter])
        retired := fun dropped => (coherent.retired dropped).step rfl
          (fun other hother => by rwa [← hoperation]) hothers
          fun isOpen => ⟨isOpen, fun howes => by rw [hafter]; exact howes⟩
        closedBy := coherent.closedBy.frame rfl (fun _ => rfl) (by simp) rfl
            (by rw [hafter]; exact id)
        releasedBy := coherent.releasedBy.answer h honly hkilled }

theorem finish {reply : Channel.Reply} (coherent : Coherent fd trace c S)
    (running : c.activity thread = .running operation (.done reply))
    (rest : S thread = { hasGuard := operation.givesGuard reply }) :
    Coherent fd (trace ++ [.ended thread operation reply])
      { c.set thread .idle with
        guards := c.guards + (operation.givesGuard reply).toNat }
      (update S thread {}) := by
  have hstanding : ({} : Standing) =
      { S thread with owesClose := false, hasGuard := false } := by
    rw [rest]
  have hcounted :
      Counted (c.guards + (operation.givesGuard reply).toNat) c.channel
        (update S thread {}) := by
    cases h : operation.givesGuard reply with
    | false => exact coherent.counted.frame rfl (by rw [rest, h])
    | true =>
        refine coherent.counted.lose (by rw [rest, h]) rfl ?_
        rw [Bool.toNat_true]
        omega
  have hothers : ∀ t, t ≠ thread →
      (c.set thread .idle).activity t = c.activity t := by
    intro t ht
    simp [ht]
  rw [hstanding] at hcounted ⊢
  refine coherent.frame rfl rfl nofun nofun nofun (by rw [rest]) rfl hothers
    hcounted fun dropped => ?_
  refine (coherent.retired dropped).step ?_ ?_ hothers ?_
  · obtain rfl := (coherent.retired dropped).closing thread operation
        (by rw [running]; rfl)
    rfl
  · simp
  · exact fun isOpen => ⟨isOpen, by rw [rest]; nofun⟩

end Coherent

theorem coherent_preserved (fd : Fd) :
    (discipline fd).Preserves fd (Coherent fd) where
  begin := fun coherent _ _ rest isLive hasGuard =>
    coherent.begin rest isLive hasGuard
  drop := fun coherent _ idle rest unguarded _ =>
    coherent.drop idle (rest _) unguarded
  act := by
    intro trace c S thread operation action channel result next k coherent _
      running answered takes
    obtain ⟨s', hk, moves⟩ :=
      moves_of_takes coherent.locked coherent.recorded coherent.phased
        (takes trivial) answered
    refine ⟨s', fun _ => hk, coherent.act running answered ?_ moves⟩
    cases h : (S thread).owesRelease with
    | false => rfl
    | true =>
        obtain rfl := (takes trivial).1 h
        cases answered
  pause := by
    intro trace c S thread operation next k coherent _ running takes
    refine ⟨S thread, fun _ => (takes trivial).2, ?_⟩
    rw [Function.update_eq_self]
    refine coherent.stay thread rfl rfl nofun nofun nofun ?_ rfl
      (fun t ht => by simp [ht]) rfl rfl ?_
    · cases h : (S thread).owesRelease with
      | false => rfl
      | true => cases (takes trivial).1 h
    · simp [running]
  unroll := fun coherent _ running => coherent.unroll running
  call := by
    intro trace c S thread operation call next k coherent _ running takes
    obtain ⟨owes, permits, _⟩ := takes trivial
    exact coherent.call running permits fun h => by simpa using owes h
  answer := by
    intro trace c S thread operation call next k answer coherent _
      calling _ takes
    obtain ⟨owes, permits, hk⟩ := takes trivial
    exact ⟨_, fun _ => hk answer, coherent.answer answer calling permits
      fun h => by
      simpa using owes h⟩
  finish := fun coherent _ running closes =>
    coherent.finish running (closes trivial)

theorem Run.coherent {fd : Fd} {trace : Trace} {c : Config}
    (run : Run fd trace c) :
    ∃ S, Coherent fd trace c S ∧ ∀ t, (discipline fd).Keeps t (S t)
      (c.activity t) :=
  Protocol.run Discipline.obeyed (coherent_preserved fd)
    (fun _ fresh => .start fresh) run
    fun _ _ _ _ => trivial

end LocalSocket
