import LocalSocket.Proofs.Discipline
import Mathlib.Data.Finset.Card

/-!
# The discipline and the channel agree

What the standings of the threads say is what the locks, slots and flags of the
channel say, and the channel is in order.  `Standing.Moves` says once what a
thread can do to the channel; each part of the agreement is preserved by all of
it.
-/

namespace LocalSocket

open Function (update)

/-- What an action of a thread that keeps to the discipline does to the channel
and to the standing of the thread. -/
inductive Standing.Moves (thread : Thread) (channel : Channel) (s : Standing) :
    Action → Channel → Standing → Prop where
  | acquireRead (free : channel.locks.read = none) :
      Moves thread channel s (.acquire .read)
        { channel with locks.read := some thread } { s with holdsRead := true }
  | acquireWrite (free : channel.locks.write = none) :
      Moves thread channel s (.acquire .write)
        { channel with locks.write := some thread }
        { s with holdsWrite := true }
  | acquireState (free : channel.locks.state = none) :
      Moves thread channel s (.acquire .state)
        { channel with locks.state := some thread } (s.lock channel.fields)
  | releaseRead (held : s.holdsRead = true) (outside : s.slot ≠ some .input) :
      Moves thread channel s (.release .read)
        { channel with locks.read := none } { s with holdsRead := false }
  | releaseWrite (held : s.holdsWrite = true)
      (outside : s.slot ≠ some .output) :
      Moves thread channel s (.release .write)
        { channel with locks.write := none } { s with holdsWrite := false }
  | releaseState (held : s.fields = some channel.fields)
      (mayLeave : s.MayLeave channel.fields)
      (calm : s.owesRelease = false) :
      Moves thread channel s (.release .state)
        { channel with locks.state := none } s.unlock
  | put {fields : Fields} {s' : Standing}
      (held : s.fields = some channel.fields)
      (calm : s.owesRelease = false)
      (update : s.Update thread channel.fields fields s') :
      Moves thread channel s (.put fields) { channel with fields := fields }
        (s'.lock fields)
  | closeOnce (settled : s.owesShutDown = false) :
      Moves thread channel s .closeOnce { channel with isOpen := false }
        { s with owesClose := false, owesShutDown := channel.isOpen }
  | setBlocking (blocking : Bool) :
      Moves thread channel s (.setBlocking blocking)
        { channel with isBlocking := blocking } s
  | look {action : Action}
      (harmless : action ≠ .closeOnce ∧ action ≠ .release .state) :
      Moves thread channel s action channel s

structure Locked (channel : Channel) (S : Thread → Standing) : Prop where
  read : ∀ t, (S t).holdsRead = true ↔ channel.locks.read = some t
  write : ∀ t, (S t).holdsWrite = true ↔ channel.locks.write = some t
  state : ∀ t, (S t).fields =
    if channel.locks.state = some t then some channel.fields else none

structure Recorded (channel : Channel) (S : Thread → Standing) : Prop where
  slot : ∀ t direction, (S t).slot = some direction ↔
    channel.fields.slot direction = some t
  holds : ∀ t direction, (S t).slot = some direction →
    (S t).holds direction = true

/-- The state fits the flag, the descriptor, the users and what threads still
owe. -/
structure Phased (fd : Fd) (channel : Channel) (S : Thread → Standing) :
    Prop where
  initialized : channel.fields.state ≠ .uninitialized
  holder : channel.fields.holder =
    if channel.fields.state = .killed then none else some fd
  settled : channel.locks.state = none → channel.fields.IsSettled
  unused : channel.fields.state = .killed → channel.fields.isUsed = false
  live : channel.isOpen = true → channel.fields.state.isLive = true
  closer : ∀ t, (S t).owesShutDown = true → channel.isOpen = false ∧
    channel.fields.state.isLive = true ∧ ∀ u, (S u).owesShutDown = true → u = t
  closing : channel.isOpen = false → channel.fields.state.isLive = true →
    ∃ t, (S t).owesShutDown = true
  releaser : ∀ t, (S t).owesRelease = true →
    channel.fields.state = .killed ∧ channel.locks.state = some t

/-- Every registration is in the hands of a user, or in those of a thread that
is about to hand it out or to give it up. -/
def Counted (guards : Nat) (channel : Channel) (S : Thread → Standing) : Prop :=
  ∃ hands : Finset Thread, (∀ t, t ∈ hands ↔ (S t).hasGuard = true) ∧
    channel.fields.registrations = guards + hands.card

theorem Locked.fields_eq {channel : Channel} {S : Thread → Standing}
    (locked : Locked channel S) {t : Thread} {fields : Fields}
    (h : (S t).fields = some fields) :
    channel.locks.state = some t ∧ fields = channel.fields := by
  rw [locked.state t] at h
  split at h
  · rename_i hstate
    exact ⟨hstate, by simpa using h.symm⟩
  · cases h

/-- A thread that takes an action as the discipline allows finds what it relies
on. -/
theorem moves_of_takes {fd : Fd} {thread : Thread} {channel channel' : Channel}
    {S : Thread → Standing} {action : Action} {result : action.Result}
    {k : action.Result → Standing → Prop} (locked : Locked channel S)
    (recorded : Recorded channel S) (phased : Phased fd channel S)
    (takes : (discipline fd).act thread (S thread) action k)
    (answered : channel.answer thread action = .answered channel' result) :
    ∃ s', k result s' ∧ (S thread).Moves thread channel action channel' s' := by
  obtain ⟨owes, takes⟩ := takes
  have calm_of_ne : action ≠ .call (.close fd) →
      (S thread).owesRelease = false := fun hne => by
    simpa using fun h => hne (owes h)
  cases action with
  | acquire lock =>
      cases lock with
      | read =>
          obtain ⟨_, _, _, hk⟩ := takes
          obtain ⟨free, rfl⟩ := Channel.answer_acquire answered
          exact ⟨_, hk, .acquireRead free⟩
      | write =>
          obtain ⟨_, _, hk⟩ := takes
          obtain ⟨free, rfl⟩ := Channel.answer_acquire answered
          exact ⟨_, hk, .acquireWrite free⟩
      | state =>
          obtain ⟨_, hk⟩ := takes
          obtain ⟨free, rfl⟩ := Channel.answer_acquire answered
          refine ⟨_, hk channel.fields ?_, .acquireState free⟩
          -- what the invariants say of the fields is known to whoever takes the
          -- lock
          exact {
            initialized := phased.initialized
            holder := phased.holder
            settled := phased.settled free
            ownSlot := fun direction h => (recorded.slot thread direction).mp h
            live := fun h => (phased.closer thread h).2.1 }
  | release lock =>
      cases lock with
      | read =>
          obtain ⟨held, outside, hk⟩ := takes
          cases answered
          exact ⟨_, hk, .releaseRead held outside⟩
      | write =>
          obtain ⟨held, outside, hk⟩ := takes
          cases answered
          exact ⟨_, hk, .releaseWrite held outside⟩
      | state =>
          obtain ⟨fields, hfields, mayLeave, hk⟩ := takes
          obtain ⟨_, rfl⟩ := locked.fields_eq hfields
          cases answered
          exact ⟨_, hk, .releaseState hfields mayLeave (calm_of_ne nofun)⟩
  | fields =>
      obtain ⟨fields, hfields, hk⟩ := takes
      obtain ⟨_, rfl⟩ := locked.fields_eq hfields
      cases answered
      exact ⟨_, hk, .look ⟨nofun, nofun⟩⟩
  | put fields =>
      obtain ⟨fields', s', hfields, update, hk⟩ := takes
      obtain ⟨_, rfl⟩ := locked.fields_eq hfields
      cases answered
      exact ⟨_, hk, .put hfields (calm_of_ne nofun) update⟩
  | isOpen =>
      cases answered
      refine ⟨_, takes _ fun isOpen fields hfields => ?_, .look ⟨nofun, nofun⟩⟩
      obtain ⟨_, rfl⟩ := locked.fields_eq hfields
      exact phased.live isOpen
  | closeOnce =>
      obtain ⟨_, _, settled, hk⟩ := takes
      cases answered
      exact ⟨_, hk _, .closeOnce settled⟩
  | isBlocking =>
      cases answered
      exact ⟨_, takes _, .look ⟨nofun, nofun⟩⟩
  | setBlocking blocking =>
      cases answered
      exact ⟨_, takes, .setBlocking blocking⟩
  | thread =>
      cases answered
      exact ⟨_, takes, .look ⟨nofun, nofun⟩⟩
  | own => exact takes.elim
  | pause => cases answered
  | call => cases answered

theorem Standing.Update.holdsRead_eq {thread : Thread} {s s' : Standing}
    {fields fields' : Fields} (h : s.Update thread fields fields' s') :
    s'.holdsRead = s.holdsRead := by
  cases h <;> rfl

theorem Standing.Update.holdsWrite_eq {thread : Thread} {s s' : Standing}
    {fields fields' : Fields} (h : s.Update thread fields fields' s') :
    s'.holdsWrite = s.holdsWrite := by
  cases h <;> rfl

section Preserved

variable {fd : Fd} {thread : Thread} {channel channel' : Channel}
  {S : Thread → Standing} {action : Action} {s' : Standing}

theorem Locked.frame (locked : Locked channel S)
    (hlocks : channel'.locks = channel.locks)
    (hfields : channel'.fields = channel.fields)
    (hread : s'.holdsRead = (S thread).holdsRead)
    (hwrite : s'.holdsWrite = (S thread).holdsWrite)
    (hstate : s'.fields = (S thread).fields) :
    Locked channel' (update S thread s') := by
  constructor <;> intro t
  · rw [hlocks, ← locked.read t]
    by_cases ht : t = thread <;> simp [ht, hread]
  · rw [hlocks, ← locked.write t]
    by_cases ht : t = thread <;> simp [ht, hwrite]
  · rw [hlocks, hfields, ← locked.state t]
    by_cases ht : t = thread <;> simp [ht, hstate]

theorem Locked.move (locked : Locked channel S)
    (moves : (S thread).Moves thread channel action channel' s') :
    Locked channel' (update S thread s') := by
  have hread := locked.read
  have hwrite := locked.write
  have hstate := locked.state
  cases moves with
  | acquireRead free =>
      constructor <;> intro t <;> by_cases ht : t = thread <;> grind
  | acquireWrite free =>
      constructor <;> intro t <;> by_cases ht : t = thread <;> grind
  | acquireState free =>
      constructor <;> intro t <;> by_cases ht : t = thread <;>
        grind [Standing.lock]
  | releaseRead held outside =>
      constructor <;> intro t <;> by_cases ht : t = thread <;> grind
  | releaseWrite held outside =>
      constructor <;> intro t <;> by_cases ht : t = thread <;> grind
  | releaseState held mayLeave calm =>
      constructor <;> intro t <;> by_cases ht : t = thread <;>
        grind [Standing.unlock]
  | put held calm update =>
      have hread' := update.holdsRead_eq
      have hwrite' := update.holdsWrite_eq
      constructor <;> intro t <;> by_cases ht : t = thread <;>
        grind [Standing.lock]
  | closeOnce settled => exact locked.frame rfl rfl rfl rfl rfl
  | setBlocking blocking => exact locked.frame rfl rfl rfl rfl rfl
  | look harmless => exact locked.frame rfl rfl rfl rfl rfl

theorem Recorded.frame (recorded : Recorded channel S)
    (hslot : s'.slot = (S thread).slot)
    (hfields : channel'.fields.reader = channel.fields.reader ∧
      channel'.fields.writer = channel.fields.writer)
    (hholds : ∀ direction,
      s'.slot = some direction → s'.holds direction = true) :
    Recorded channel' (update S thread s') := by
  have hsame : ∀ direction, channel'.fields.slot direction =
      channel.fields.slot direction := by
    intro direction
    cases direction
    · exact hfields.1
    · exact hfields.2
  constructor
  · intro t direction
    rw [hsame direction, ← recorded.slot t direction]
    by_cases ht : t = thread
    · subst ht
      simp [hslot]
    · simp [ht]
  · intro t direction h
    by_cases ht : t = thread
    · subst ht
      simpa using hholds direction (by simpa using h)
    · simpa [ht] using recorded.holds t direction (by simpa [ht] using h)

theorem Recorded.slot_eq (locked : Locked channel S)
    (recorded : Recorded channel S) {direction : Direction}
    (holds : (S thread).holds direction = true) {t : Thread}
    (h : (S t).slot = some direction) : t = thread := by
  have ht := recorded.holds t direction h
  cases direction with
  | input =>
      have hthread := (locked.read thread).mp holds
      simpa [hthread, eq_comm] using (locked.read t).mp ht
  | output =>
      have hthread := (locked.write thread).mp holds
      simpa [hthread, eq_comm] using (locked.write t).mp ht

theorem Recorded.enter (locked : Locked channel S)
    (recorded : Recorded channel S) {direction : Direction}
    (holds : (S thread).holds direction = true)
    (outside : (S thread).slot = none) (hslot : s'.slot = some direction)
    (hholds : s'.holds direction = true)
    (hfields :
      channel'.fields = channel.fields.setSlot direction (some thread)) :
    Recorded channel' (update S thread s') := by
  constructor
  · intro t other
    rw [hfields, Fields.slot_setSlot]
    by_cases ht : t = thread
    · subst ht
      by_cases hother : other = direction
      · simp [hother, hslot]
      · simp only [hother, if_false, ← recorded.slot t other, outside]
        simp [hslot, Ne.symm hother]
    · by_cases hother : other = direction
      · subst hother
        have hne : (S t).slot ≠ some other :=
          fun h => ht (recorded.slot_eq locked holds h)
        simp [ht, hne, Ne.symm ht]
      · simp [ht, hother, recorded.slot t other]
  · intro t other h
    by_cases ht : t = thread
    · subst ht
      simp [hslot] at h ⊢
      exact h ▸ hholds
    · simpa [ht] using recorded.holds t other (by simpa [ht] using h)

theorem Recorded.leave (recorded : Recorded channel S) {direction : Direction}
    (inside : (S thread).slot = some direction) (hslot : s'.slot = none)
    (hfields : channel'.fields = channel.fields.setSlot direction none) :
    Recorded channel' (update S thread s') := by
  constructor
  · intro t other
    rw [hfields, Fields.slot_setSlot]
    by_cases ht : t = thread
    · subst ht
      by_cases hother : other = direction
      · simp [hother, hslot]
      · have hne : (S t).slot ≠ some other := by simp [inside, Ne.symm hother]
        simpa [hother, hslot, recorded.slot t other] using hne
    · by_cases hother : other = direction
      · subst hother
        have hne : (S t).slot ≠ some other := by
          intro h
          have hthread := (recorded.slot thread other).mp inside
          have hother := (recorded.slot t other).mp h
          exact ht (by simpa [hthread, eq_comm] using hother)
        simp [ht, hne]
      · simp [ht, hother, recorded.slot t other]
  · intro t other h
    by_cases ht : t = thread
    · subst ht
      simp [hslot] at h
    · simpa [ht] using recorded.holds t other (by simpa [ht] using h)

theorem Recorded.move (locked : Locked channel S)
    (recorded : Recorded channel S)
    (moves : (S thread).Moves thread channel action channel' s') :
    Recorded channel' (update S thread s') := by
  have hholds := recorded.holds thread
  cases moves with
  | acquireRead free =>
      refine recorded.frame rfl ⟨rfl, rfl⟩ fun direction h => ?_
      cases direction with
      | input => rfl
      | output => exact hholds .output h
  | acquireWrite free =>
      refine recorded.frame rfl ⟨rfl, rfl⟩ fun direction h => ?_
      cases direction with
      | input => exact hholds .input h
      | output => rfl
  | acquireState free => exact recorded.frame rfl ⟨rfl, rfl⟩ hholds
  | releaseRead held outside =>
      refine recorded.frame rfl ⟨rfl, rfl⟩ fun direction h => ?_
      cases direction with
      | input => exact absurd h outside
      | output => exact hholds .output h
  | releaseWrite held outside =>
      refine recorded.frame rfl ⟨rfl, rfl⟩ fun direction h => ?_
      cases direction with
      | input => exact hholds .input h
      | output => exact absurd h outside
  | releaseState held mayLeave calm =>
      exact recorded.frame rfl ⟨rfl, rfl⟩ hholds
  | put held calm update =>
      cases update with
      | enter direction lock outside live =>
          exact recorded.enter locked lock outside rfl lock rfl
      | leave direction inside => exact recorded.leave inside rfl rfl
      | register live unguarded => exact recorded.frame rfl ⟨rfl, rfl⟩ hholds
      | deregister guarded => exact recorded.frame rfl ⟨rfl, rfl⟩ hholds
      | defer used due => exact recorded.frame rfl ⟨rfl, rfl⟩ hholds
      | kill unused due => exact recorded.frame rfl ⟨rfl, rfl⟩ hholds
      | revise live live' holder reader writer registrations =>
          exact recorded.frame rfl ⟨reader, writer⟩ hholds
  | closeOnce settled => exact recorded.frame rfl ⟨rfl, rfl⟩ hholds
  | setBlocking blocking => exact recorded.frame rfl ⟨rfl, rfl⟩ hholds
  | look harmless => exact recorded.frame rfl ⟨rfl, rfl⟩ hholds

theorem Phased.frame (phased : Phased fd channel S)
    (hfields : channel'.fields = channel.fields)
    (hopen : channel'.isOpen = channel.isOpen)
    (hlock : channel'.locks.state = channel.locks.state)
    (hshutDown : s'.owesShutDown = (S thread).owesShutDown)
    (hrelease : s'.owesRelease = true → (S thread).owesRelease = true) :
    Phased fd channel' (update S thread s') := by
  have hshutDown' :
      ∀ t, (update S thread s' t).owesShutDown = (S t).owesShutDown := by
    intro t
    by_cases ht : t = thread <;> simp [ht, hshutDown]
  have hrelease' : ∀ t, (update S thread s' t).owesRelease = true →
      (S t).owesRelease = true := by
    intro t
    by_cases ht : t = thread
    · subst ht
      simpa using hrelease
    · simp [ht]
  constructor
  · simpa [hfields] using phased.initialized
  · simpa [hfields] using phased.holder
  · simpa [hfields, hlock] using phased.settled
  · simpa [hfields] using phased.unused
  · simpa [hfields, hopen] using phased.live
  · simpa [hfields, hopen, hshutDown'] using phased.closer
  · simpa [hfields, hopen, hshutDown'] using phased.closing
  · intro t ht
    simpa [hfields, hlock] using phased.releaser t (hrelease' t ht)

section Put

variable {fields : Fields} {s : Standing}

theorem Phased.calm (phased : Phased fd channel S)
    (hlock : channel.locks.state = some thread)
    (calm : (S thread).owesRelease = false) (t : Thread) :
    (S t).owesRelease = false := by
  cases h : (S t).owesRelease with
  | false => rfl
  | true =>
      have ht : t = thread := by
        simpa [hlock, eq_comm] using (phased.releaser t h).2
      rw [← h, ht, calm]

theorem Phased.put_alike (phased : Phased fd channel S)
    (hlock : channel.locks.state = some thread)
    (calm : (S thread).owesRelease = false)
    (initialized : fields.state ≠ .uninitialized)
    (holder : fields.holder = if fields.state = .killed then none else some fd)
    (unused : fields.state = .killed → fields.isUsed = false)
    (alike : fields.state.isLive = channel.fields.state.isLive)
    (hshutDown : s.owesShutDown = (S thread).owesShutDown)
    (hrelease : s.owesRelease = (S thread).owesRelease) :
    Phased fd { channel with fields := fields }
      (update S thread (s.lock fields)) := by
  have hshutDown' : ∀ t, (update S thread (s.lock fields) t).owesShutDown =
      (S t).owesShutDown := by
    intro t
    by_cases ht : t = thread <;> simp [ht, hshutDown]
  have hrelease' :
      ∀ t, (update S thread (s.lock fields) t).owesRelease = false := by
    intro t
    by_cases ht : t = thread
    · simp [ht, hrelease, calm]
    · simp [ht, phased.calm hlock calm t]
  constructor
  · exact initialized
  · exact holder
  · simp [hlock]
  · exact unused
  · simpa [alike] using phased.live
  · simpa [alike, hshutDown'] using phased.closer
  · simpa [alike, hshutDown'] using phased.closing
  · simp [hrelease']

theorem Phased.put_end (phased : Phased fd channel S)
    (hlock : channel.locks.state = some thread)
    (calm : (S thread).owesRelease = false)
    (due : (S thread).MayRelease channel.fields)
    (initialized : fields.state ≠ .uninitialized)
    (holder : fields.holder = if fields.state = .killed then none else some fd)
    (unused : fields.state = .killed → fields.isUsed = false)
    (ended : fields.state.isLive = false) (hshutDown : s.owesShutDown = false)
    (hrelease : s.owesRelease = true → fields.state = .killed) :
    Phased fd { channel with fields := fields }
      (update S thread (s.lock fields)) := by
  have hshutDown' :
      ∀ t, (update S thread (s.lock fields) t).owesShutDown = false := by
    intro t
    by_cases ht : t = thread
    · simp [ht, hshutDown]
    · by_contra h
      have howes : (S t).owesShutDown = true := by simpa [ht] using h
      obtain ⟨_, live, honly⟩ := phased.closer t howes
      exact ht (honly thread (due.2 live)).symm
  constructor
  · exact initialized
  · exact holder
  · simp [hlock]
  · exact unused
  · intro hopen
    have howes := due.2 (phased.live hopen)
    have hclosed := (phased.closer thread howes).1
    rw [hopen] at hclosed
    cases hclosed
  · simp [hshutDown']
  · simp [ended]
  · intro t h
    by_cases ht : t = thread
    · subst ht
      exact ⟨hrelease (by simpa using h), hlock⟩
    · simp [ht, phased.calm hlock calm t] at h

theorem Phased.put (locked : Locked channel S) (recorded : Recorded channel S)
    (phased : Phased fd channel S)
    (held : (S thread).fields = some channel.fields)
    (calm : (S thread).owesRelease = false)
    (update : (S thread).Update thread channel.fields fields s) :
    Phased fd { channel with fields := fields }
      (Function.update S thread (s.lock fields)) := by
  obtain ⟨hlock, _⟩ := locked.fields_eq held
  have hinit := phased.initialized
  have hholder := phased.holder
  have hunused := phased.unused
  have not_killed :
      channel.fields.state.isLive = true → channel.fields.state ≠ .killed := by
    intro live h
    simp [h, Lifecycle.isLive] at live
  cases update with
  | enter direction lock outside live =>
      refine phased.put_alike hlock calm ?_ ?_ ?_ ?_ rfl rfl
      · simpa using hinit
      · simpa using hholder
      · simp [not_killed live]
      · simp
  | leave direction inside =>
      have hslot := (recorded.slot thread direction).mp inside
      have hused : channel.fields.isUsed = true := by
        cases direction <;>
          simp_all [Fields.slot, Fields.isUsed, Fields.threads]
      refine phased.put_alike hlock calm ?_ ?_ ?_ ?_ rfl rfl
      · simpa using hinit
      · simpa using hholder
      · intro h
        simp [hunused (by simpa using h)] at hused
      · simp
  | register live unguarded =>
      exact phased.put_alike hlock calm hinit hholder
        (absurd · (not_killed live)) rfl rfl rfl
  | deregister guarded =>
      refine phased.put_alike hlock calm hinit hholder (fun h => ?_) rfl rfl rfl
      have hidle := hunused h
      simp only [Fields.isUsed, Bool.or_eq_false_iff,
        bne_eq_false_iff_eq] at hidle ⊢
      exact ⟨hidle.1, by simp [hidle.2]⟩
  | defer used due =>
      refine phased.put_end hlock calm due (by simp) ?_ (by simp) rfl rfl ?_
      · simp [hholder, due.1]
      · simp [calm]
  | kill unused due =>
      exact phased.put_end hlock calm due (by simp) rfl
        (fun _ => unused) rfl rfl fun _ => rfl
  | revise live live' holder reader writer registrations =>
      refine phased.put_alike hlock calm ?_ ?_ ?_ ?_ rfl rfl
      · intro h
        simp [h, Lifecycle.isLive] at live'
      · have hne : fields.state ≠ .killed := by
          intro h
          simp [h, Lifecycle.isLive] at live'
        rw [holder, hholder, if_neg (not_killed live), if_neg hne]
      · intro h
        simp [h, Lifecycle.isLive] at live'
      · rw [live, live']

end Put

theorem Phased.move (locked : Locked channel S) (recorded : Recorded channel S)
    (phased : Phased fd channel S)
    (moves : (S thread).Moves thread channel action channel' s') :
    Phased fd channel' (update S thread s') := by
  cases moves with
  | acquireRead free => exact phased.frame rfl rfl rfl rfl id
  | acquireWrite free => exact phased.frame rfl rfl rfl rfl id
  | acquireState free =>
      have hlocked : Phased fd channel
          (update S thread ((S thread).lock channel.fields)) :=
        phased.frame rfl rfl rfl rfl id
      refine { hlocked with settled := nofun, releaser := fun t h => ?_ }
      have hfree := (hlocked.releaser t h).2
      rw [free] at hfree
      cases hfree
  | releaseRead held outside => exact phased.frame rfl rfl rfl rfl id
  | releaseWrite held outside => exact phased.frame rfl rfl rfl rfl id
  | releaseState held mayLeave calm =>
      obtain ⟨hlock, _⟩ := locked.fields_eq held
      have hunlocked : Phased fd channel (update S thread (S thread).unlock) :=
        phased.frame rfl rfl rfl rfl id
      refine
        { hunlocked with
          settled := fun _ => mayLeave.1, releaser := fun t h => ?_ }
      by_cases ht : t = thread
      · simp [ht, Standing.unlock, calm] at h
      · simp [ht, phased.calm hlock calm t] at h
  | put held calm update => exact phased.put locked recorded held calm update
  | closeOnce settled =>
      cases hopen : channel.isOpen with
      | false =>
          refine phased.frame rfl (by simp [hopen]) rfl ?_ id
          simp [settled]
      | true =>
          have hnone : ∀ t, (S t).owesShutDown = false := by
            intro t
            by_contra h
            have hclosed := (phased.closer t (by simpa using h)).1
            rw [hopen] at hclosed
            cases hclosed
          have live := phased.live hopen
          constructor
          · exact phased.initialized
          · exact phased.holder
          · exact phased.settled
          · exact phased.unused
          · intro isOpen
            cases isOpen
          · intro t ht
            have hthread : ∀ u,
                (update S thread
                  { S thread with
                    owesClose := false, owesShutDown := true } u).owesShutDown =
                  true →
                u = thread := by
              intro u hu
              by_contra hne
              simp [hne, hnone u] at hu
            refine ⟨rfl, live, fun u hu => ?_⟩
            rw [hthread u hu, hthread t ht]
          · exact fun _ _ => ⟨thread, by simp⟩
          · intro t ht
            refine phased.releaser t ?_
            by_cases hthread : t = thread
            · subst hthread
              simpa using ht
            · simpa [hthread] using ht
  | setBlocking blocking => exact phased.frame rfl rfl rfl rfl id
  | look harmless => exact phased.frame rfl rfl rfl rfl id

section Counted

variable {guards guards' : Nat}

theorem Counted.frame (counted : Counted guards channel S)
    (hregistrations : channel'.fields.registrations =
      channel.fields.registrations)
    (hguard : s'.hasGuard = (S thread).hasGuard) :
    Counted guards channel' (update S thread s') := by
  obtain ⟨hands, hhands, hcard⟩ := counted
  refine ⟨hands, fun t => ?_, hregistrations.trans hcard⟩
  rw [hhands t]
  by_cases ht : t = thread <;> simp [ht, hguard]

theorem Counted.gain (counted : Counted guards channel S)
    (unguarded : (S thread).hasGuard = false) (hguard : s'.hasGuard = true)
    (hsum : channel'.fields.registrations + guards =
      channel.fields.registrations + guards' + 1) :
    Counted guards' channel' (update S thread s') := by
  obtain ⟨hands, hhands, hcard⟩ := counted
  have hnew : thread ∉ hands := by simp [hhands, unguarded]
  refine ⟨insert thread hands, fun t => ?_, ?_⟩
  · rw [Finset.mem_insert, hhands t]
    by_cases ht : t = thread <;> simp [ht, hguard]
  · rw [Finset.card_insert_of_notMem hnew]
    omega

theorem Counted.lose (counted : Counted guards channel S)
    (guarded : (S thread).hasGuard = true) (hguard : s'.hasGuard = false)
    (hsum : channel'.fields.registrations + guards + 1 =
      channel.fields.registrations + guards') :
    Counted guards' channel' (update S thread s') := by
  obtain ⟨hands, hhands, hcard⟩ := counted
  have hold : thread ∈ hands := by simp [hhands, guarded]
  have hpos := Finset.card_pos.mpr ⟨thread, hold⟩
  refine ⟨hands.erase thread, fun t => ?_, ?_⟩
  · rw [Finset.mem_erase, hhands t]
    by_cases ht : t = thread <;> simp [ht, hguard]
  · rw [Finset.card_erase_of_mem hold]
    omega

theorem Counted.pos (counted : Counted guards channel S)
    (guarded : (S thread).hasGuard = true) :
    0 < channel.fields.registrations := by
  obtain ⟨hands, hhands, hcard⟩ := counted
  have hold : thread ∈ hands := by simp [hhands, guarded]
  have hpos := Finset.card_pos.mpr ⟨thread, hold⟩
  omega

theorem Counted.move (counted : Counted guards channel S)
    (moves : (S thread).Moves thread channel action channel' s') :
    Counted guards channel' (update S thread s') := by
  cases moves with
  | put held calm update =>
      cases update with
      | enter direction lock outside live => exact counted.frame (by simp) rfl
      | leave direction inside => exact counted.frame (by simp) rfl
      | register live unguarded =>
          refine counted.gain unguarded rfl ?_
          dsimp only
          omega
      | deregister guarded =>
          have hpos := counted.pos guarded
          refine counted.lose guarded rfl ?_
          dsimp only
          omega
      | defer used due => exact counted.frame rfl rfl
      | kill unused due => exact counted.frame rfl rfl
      | revise live live' holder reader writer registrations =>
          exact counted.frame registrations rfl
  | _ => exact counted.frame rfl rfl

end Counted

end Preserved

end LocalSocket
