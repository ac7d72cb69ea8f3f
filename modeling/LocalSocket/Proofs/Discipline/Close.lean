import LocalSocket.Proofs.Discipline

/-!
# Closing keeps to the discipline

The parts that operations share: the checks of the open flag, sections under the
state lock, closing, and the users of the descriptor.  Each is specified for any
standing in which it is run, and leaves the standing as it says.
-/

namespace LocalSocket.Discipline

open Protocol Channel

variable {fd : Fd} {thread : Thread} {s : Standing}

section Sections

variable {α : Type} {body : Program α} {post : α → Standing → Prop}

theorem locked_meets (calm : s.owesRelease = false) (unlocked : s.fields = none)
    (hbody : ∀ fields, s.Finds fd thread fields →
      (discipline fd).Meets thread body
        (fun value s' => s'.owesRelease = false ∧
          ∃ fields', s'.fields = some fields' ∧ s'.MayLeave fields' ∧
            post value s'.unlock) (s.lock fields)) :
    (discipline fd).Meets thread (Program.holding .state body) post s := by
  rw [meets_holding]
  refine ⟨by simp [calm], unlocked, fun fields finds => ?_⟩
  refine (hbody fields finds).mono
    fun value s' ⟨hcalm, fields', hfields, hleave, hpost⟩ => ?_
  exact ⟨by simp [hcalm], fields', hfields, hleave, hpost⟩

theorem section_meets (free : s.IsFree)
    (hbody : ∀ fields (post' : α → Standing → Prop), s.Finds fd thread fields →
      (∀ value fields', fields'.IsSettled → post' value (s.lock fields')) →
      (discipline fd).Meets thread body post' (s.lock fields))
    (hpost : ∀ value, post value s) :
    (discipline fd).Meets thread (Program.holding .state body) post s := by
  refine locked_meets free.calm free.unlocked fun fields finds => ?_
  refine hbody fields _ finds fun value fields' settled => ?_
  refine ⟨free.calm, fields', rfl, ⟨settled, free.settled⟩, ?_⟩
  simpa [Standing.unlock_eq free.unlocked] using hpost value

end Sections

section Fields

variable {α : Type} {fields : Fields}
  {post : Except ChannelError α → Standing → Prop}

theorem fields_meets {next : Fields → Operating α}
    (calm : s.owesRelease = false)
    (hnext : (discipline fd).Meets thread (next fields).run post
      (s.lock fields)) :
    (discipline fd).Meets thread (Operating.perform .fields >>= next).run post
      (s.lock fields) := by
  rw [meets_run_bind]
  exact ⟨by simp [calm], fields, rfl, hnext⟩

theorem put_meets {fields' : Fields} {s' : Standing} {next : Unit → Operating α}
    (calm : s.owesRelease = false)
    (update : (s.lock fields).Update thread fields fields' s')
    (hnext :
      (discipline fd).Meets thread (next ()).run post (s'.lock fields')) :
    (discipline fd).Meets thread
      (Operating.perform (.put fields') >>= next).run post
      (s.lock fields) := by
  rw [meets_run_bind]
  exact ⟨by simp [calm], fields, s', rfl, update, hnext⟩

theorem isBlocking_meets {next : Bool → Operating α}
    (calm : s.owesRelease = false)
    (hnext : ∀ isBlocking, (discipline fd).Meets thread
      (next isBlocking).run post s) :
    (discipline fd).Meets thread
      (Operating.perform .isBlocking >>= next).run post s := by
  rw [meets_run_bind]
  exact ⟨by simp [calm], hnext⟩

end Fields

theorem ensureOpen_meets {post : Except ChannelError Unit → Standing → Prop}
    (calm : s.owesRelease = false) (closed : post (.error .closed) s)
    (isOpen : (∀ fields, s.fields = some fields → fields.state.isLive = true) →
      post (.ok ()) s) :
    (discipline fd).Meets thread ensureOpen.run post s := by
  simp [ensureOpen, Standing.Takes, calm]
  exact ⟨closed, isOpen⟩

theorem ensureStillOpen_meets
    {post : Except ChannelError Unit → Standing → Prop}
    (calm : s.owesRelease = false) (closed : post (.error .asynchronousClose) s)
    (isOpen : (∀ fields, s.fields = some fields → fields.state.isLive = true) →
      post (.ok ()) s) :
    (discipline fd).Meets thread ensureStillOpen.run post s := by
  simp [ensureStillOpen, Standing.Takes, calm]
  exact ⟨closed, isOpen⟩

theorem close_call_meets {post : Except OsError Unit → Standing → Prop}
    (due : s.owesRelease = true)
    (released : ∀ answer, post answer { s with owesRelease := false }) :
    (discipline fd).Meets thread (Socket.close fd) post s := by
  refine meets_retry (fun s' => s' = s) rfl fun s' hs' => ?_
  subst hs'
  refine ⟨fun _ => rfl, by simp [Standing.Permits, Call.isBlocking, due],
    fun answer => ?_⟩
  cases answer with
  | ok value => exact released _
  | error error =>
      by_cases hinterrupted : error.isInterrupted = true
      · simp [Standing.afterCall, hinterrupted]
      · simpa [Standing.afterCall, hinterrupted] using released _

theorem release_meets {fields : Fields}
    {post : Except ChannelError Unit → Standing → Prop}
    (calm : s.owesRelease = false) (notKilled : fields.state ≠ .killed)
    (holder : fields.holder = some fd)
    (due : fields.state.isLive = true → s.owesShutDown = true)
    (ended : ∀ result fields', fields'.IsSettled →
      post result ({ s with owesShutDown := false, owesRelease := false }.lock
        fields')) :
    (discipline fd).Meets thread release.run post (s.lock fields) := by
  by_cases hused : fields.isUsed = true
  · simp [release, Standing.Takes, calm, notKilled, hused]
    refine ⟨_, .defer hused ⟨notKilled, due⟩, ?_⟩
    have hended := ended (.ok ()) { fields with state := .killPending }
        fun _ => hused
    simpa [Standing.lock, calm] using hended
  · simp [release, Standing.Takes, calm, notKilled, hused, holder]
    refine ⟨_, .kill (by simpa using hused) ⟨notKilled, due⟩, ?_⟩
    have settled :
        { fields with state := .killed, holder := none }.IsSettled := by
      simp [Fields.IsSettled]
    refine close_call_meets rfl fun answer => ?_
    cases answer with
    | ok => exact ended (.ok ()) _ settled
    | error error => exact ended (.error (.close fd error)) _ settled

theorem signalAll_meets {fields : Fields} {threads : List Thread}
    {post : Bool → Standing → Prop} (calm : s.owesRelease = false)
    (known : s.fields = some fields)
    (users : ∀ user ∈ threads, user ∈ fields.threads)
    (hpost : ∀ failed, post failed s) :
    (discipline fd).Meets thread (signalAll threads) post s := by
  induction threads with
  | nil => exact hpost false
  | cons user rest ih =>
      simp [signalAll, calm, Standing.Takes]
      refine ⟨?_, fun answer => ?_⟩
      · simpa [Standing.Permits, Call.isBlocking, known] using users user
          (by simp)
      · cases answer with
        | ok => exact ih fun user huser => users user (by simp [huser])
        | error => exact hpost true

theorem signalUsers_meets {post : Unit → Standing → Prop}
    (free : s.IsFree) (hpost : post () s) :
    (discipline fd).Meets thread signalUsers post s := by
  refine meets_loop (fun s' => s' = s) (by nofun) rfl fun s' hs' => ?_
  subst hs'
  simp only [meets_bind_eq]
  refine section_meets free (fun fields post' finds hend => ?_) fun isOver => ?_
  · simp [ite_apply, Standing.Takes, free.calm]
    split
    · exact hend true fields finds.settled
    · exact signalAll_meets free.calm rfl (fun user huser => huser)
        fun failed =>
        hend failed fields finds.settled
  · cases isOver with
    | true => exact hpost
    | false => simp [Standing.Takes, free.calm]

theorem shutDown_meets {fields : Fields}
    {post : Except ChannelError Unit → Standing → Prop}
    (calm : s.owesRelease = false) (due : s.owesShutDown = true)
    (finds : s.Finds fd thread fields)
    (ended : ∀ result fields', fields'.IsSettled →
      post result ({ s with owesShutDown := false, owesRelease := false }.lock
        fields')) :
    (discipline fd).Meets thread shutDown.run post (s.lock fields) := by
  have hlive := finds.live due
  have hnotKilled : fields.state ≠ .killed := by
    intro h
    simp [h, Lifecycle.isLive] at hlive
  have hholder : fields.holder = some fd := by
    rw [finds.holder, if_neg hnotKilled]
  have hrelease : (discipline fd).Meets thread release.run post
      (s.lock { fields with inputOpen := false, outputOpen := false }) :=
    release_meets calm hnotKilled hholder (fun _ => due) ended
  simp [shutDown, Standing.Takes, calm]
  refine ⟨_, .revise hlive hlive rfl rfl rfl rfl, ?_⟩
  rw [hholder] at hrelease ⊢
  by_cases hthreads : fields.threads = []
  · simpa [hthreads] using hrelease
  · simp [hthreads, Standing.Takes, Standing.Permits, Call.isBlocking,
      Call.fd?, calm]
    refine ⟨hlive, fun answer => ?_⟩
    exact hrelease

theorem close_meets {post : Except ChannelError Unit → Standing → Prop}
    (free : s.IsFree)
    (closed : ∀ result, post result { s with owesClose := false }) :
    (discipline fd).Meets thread close.run post s := by
  simp only [close, ExceptT.run_mk, meets_bind_eq, Program.perform_eq,
    meets_act, meets_done, meets_ite, discipline_act, Standing.Takes]
  refine ⟨by simp [free.calm], free.unlocked, free.outside, free.settled,
    fun first => ?_⟩
  cases first with
  | false => simpa [free.settled] using closed (.ok ())
  | true =>
      refine locked_meets free.calm free.unlocked fun fields finds => ?_
      refine shutDown_meets free.calm rfl finds fun result fields' settled => ?_
      refine ⟨rfl, fields', rfl, ⟨settled, rfl⟩, ?_⟩
      refine signalUsers_meets ⟨rfl, free.outside, rfl, rfl⟩ ?_
      simpa [Standing.lock, Standing.unlock, free.calm, free.settled,
        free.unlocked]
        using closed result

/-! ## Users of the descriptor -/

theorem enter_meets {direction : Direction} {fields : Fields}
    {post : Except ChannelError Unit → Standing → Prop}
    (calm : s.owesRelease = false) (holds : s.holds direction = true)
    (outside : s.slot = none) (live : fields.state.isLive = true)
    (entered : post (.ok ()) ({ s with slot := some direction }.lock
      (fields.setSlot direction (some thread)))) :
    (discipline fd).Meets thread (enter direction).run post
      (s.lock fields) := by
  simp [enter, Standing.Takes, calm]
  exact ⟨_, .enter direction holds outside live, entered⟩

theorem leave_meets {direction : Direction} {completed : Bool}
    {post : Except ChannelError Unit → Standing → Prop}
    (calm : s.owesRelease = false) (unlocked : s.fields = none)
    (inside : s.slot = some direction) (settled : s.owesShutDown = false)
    (left : ∀ result, post result { s with slot := none }) :
    (discipline fd).Meets thread (leave direction completed).run post s := by
  have hafter : (if completed = true then post (.ok ())
      else (discipline fd).Meets thread ensureStillOpen.run post)
        { s with slot := none } := by
    cases completed with
    | true => exact left _
    | false => exact ensureStillOpen_meets calm (left _) fun _ => left _
  simp [leave]
  refine locked_meets calm unlocked fun fields finds => ?_
  simp [Standing.Takes, ite_apply, calm]
  refine ⟨_, .leave direction inside, ?_⟩
  by_cases hpending : fields.state = .killPending
  · rw [if_pos hpending]
    refine release_meets calm (by simp [hpending])
      (by simp [finds.holder, hpending]) ?_ ?_
    · simp [hpending, Lifecycle.isLive]
    · intro result fields' settled'
      refine ⟨rfl, fields', rfl, ⟨settled', rfl⟩, ?_⟩
      simpa [Standing.lock, Standing.unlock, ite_apply, calm, unlocked, settled]
        using hafter
  · rw [if_neg hpending]
    refine ⟨calm, ⟨by simp [Fields.IsSettled, hpending], settled⟩, ?_⟩
    simpa [Standing.lock, Standing.unlock, ite_apply, unlocked] using hafter

theorem register_meets {post : Except ChannelError Unit → Standing → Prop}
    (free : s.IsFree) (unguarded : s.hasGuard = false)
    (failed : ∀ error, post (.error error) s)
    (registered : post (.ok ()) { s with hasGuard := true }) :
    (discipline fd).Meets thread register.run post s := by
  have hunlock := Standing.unlock_eq free.unlocked
  refine locked_meets free.calm free.unlocked fun fields finds => ?_
  have hleave : (s.lock fields).MayLeave fields := ⟨finds.settled, free.settled⟩
  refine fields_meets free.calm ?_
  rw [meets_run_bind]
  refine ensureOpen_meets free.calm ?_ fun hlive => ?_
  · exact ⟨free.calm, fields, rfl, hleave, by simpa [hunlock] using failed _⟩
  · refine isBlocking_meets free.calm fun isBlocking => ?_
    cases isBlocking with
    | true =>
        exact ⟨free.calm, fields, rfl,
          hleave, by simpa [hunlock] using failed _⟩
    | false =>
        refine put_meets free.calm (.register (hlive _ rfl) unguarded) ?_
        refine ⟨free.calm, _, rfl, ⟨?_, free.settled⟩, ?_⟩
        · simp [Fields.IsSettled, Fields.isUsed]
        · simpa [Standing.lock, Standing.unlock, free.unlocked] using registered

theorem deregister_meets {post : Except ChannelError Unit → Standing → Prop}
    (free : s.IsFree) (guarded : s.hasGuard = true)
    (deregistered : ∀ result, post result { s with hasGuard := false }) :
    (discipline fd).Meets thread deregister.run post s := by
  refine locked_meets free.calm free.unlocked fun fields finds => ?_
  simp [Standing.Takes, free.calm, ite_apply]
  refine ⟨_, .deregister guarded, ?_⟩
  split
  · rename_i hpending
    refine release_meets free.calm (by simp [hpending])
      (by simp [finds.holder, hpending]) ?_ ?_
    · simp [hpending, Lifecycle.isLive]
    · intro result fields' settled
      refine ⟨rfl, fields', rfl, ⟨settled, rfl⟩, ?_⟩
      simpa [Standing.lock, Standing.unlock, free.calm, free.unlocked,
        free.settled]
        using deregistered result
  · rename_i hpending
    refine ⟨free.calm, ⟨by simp [Fields.IsSettled, hpending], free.settled⟩, ?_⟩
    simpa [Standing.lock, Standing.unlock, free.unlocked] using deregistered
      (.ok ())

end LocalSocket.Discipline
