import LocalSocket.Proofs.Changes
import LocalSocket.Proofs.Failure.Operations
import LocalSocket.Proofs.Journal
import LocalSocket.Proofs.Play

/-!
# Settings that are applied

A thread that has an open channel to itself applies settings to it, up to the
first that cannot be applied.  Those before it are in force then, and nothing
else has changed: what the options read as, the mode, and the rest of the
channel.
-/

namespace LocalSocket

/-! ## Applying settings to a channel that nobody else uses -/

/-- Nobody else does anything meanwhile. -/
def solitary : Prospect where
  alone := True

/-- The channel once the changes have been made. -/
def Channel.having (channel : Channel) (applied : List Change) : Channel :=
  { channel with
    isBlocking := channel.isBlocking && decide (.nonBlocking ∉ applied) }

namespace Applying

open Protocol Channel

variable {fd : Fd} {thread : Thread} {channel : Channel} {s : Journal}
  {α β : Type}

theorem act_solitary {action : Action} {k : action.Result → Journal → Prop}
    {channel' : Channel} {result : action.Result}
    (answered : s.left.answer thread action = .answered channel' result)
    (hk : k result (s.acted s.left channel')) :
    solitary.protocol.act thread s action k := by
  have inward : action.isInward = true := by
    cases action <;> first | rfl | cases answered
  refine Prospect.act_inward inward fun channel _ _ finds answered' => ?_
  obtain rfl := finds.alone trivial
  rw [answered] at answered'
  cases answered'
  exact hk

/-- The program says what it may say on an open channel, and leaves the channel
as it was. -/
def Speaks (thread : Thread) (channel : Channel) (program : Program α) : Prop :=
  ∀ ⦃s : Journal⦄, s.left = channel →
    solitary.protocol.Meets thread program (fun value s' =>
      s'.left = channel ∧ ∃ asked, program.Converses asked value ∧
        s'.exchanges = s.exchanges ++ asked) s

theorem speaks_pure (value : α) : Speaks thread channel (pure value) :=
  fun _ hs => ⟨hs, [], .done value, (List.append_nil _).symm⟩

theorem speaks_call (call : Call) :
    Speaks thread channel (Program.call call) :=
  fun _ hs answer => ⟨hs, [⟨call, answer⟩], .call answer (.done answer), rfl⟩

theorem speaks_bind {program : Program α} {f : α → Program β}
    (h : Speaks thread channel program)
    (hf : ∀ value, Speaks thread channel (f value)) :
    Speaks thread channel (program >>= f) := by
  intro s hs
  rw [meets_bind_eq]
  refine (h hs).mono fun value s₁ ⟨hs₁, asked, first, hfirst⟩ => ?_
  refine (hf value hs₁).mono fun value' s₂ ⟨hs₂, more, rest, hrest⟩ => ?_
  exact ⟨hs₂, asked ++ more, first.append rest, by
    rw [hrest, hfirst, List.append_assoc]⟩

theorem speaks_run_bind {operation : Operating α} {f : α → Operating β}
    (h : Speaks thread channel operation.run)
    (hf : ∀ value, Speaks thread channel (f value).run) :
    Speaks thread channel (operation >>= f).run := by
  refine speaks_bind h fun result => ?_
  cases result with
  | ok value => exact hf value
  | error error => exact speaks_pure _

theorem holding_meets {lock : Lock} {body : Program α}
    {post : α → Journal → Prop} (free : s.left.locks.holder lock = none)
    (h : solitary.protocol.Meets thread body
      (fun value s' => post value
        (s'.acted s'.left (s'.left.hold lock none)))
      (s.acted s.left (s.left.hold lock (some thread)))) :
    solitary.protocol.Meets thread (Program.holding lock body) post s := by
  rw [meets_holding]
  have taken : s.left.answer thread (.acquire lock) =
      .answered (s.left.hold lock (some thread)) () := by
    simp [Channel.answer, free, Channel.hold]
  exact act_solitary taken (h.mono fun _ _ hvalue => act_solitary rfl hvalue)

theorem speaks_holding {lock : Lock} {body : Program α}
    (free : channel.locks.holder lock = none)
    (h : Speaks thread (channel.hold lock (some thread)) body) :
    Speaks thread channel (Program.holding lock body) := by
  rintro s rfl
  refine holding_meets free ((h rfl).mono ?_)
  rintro value s₁ ⟨hs₁, asked, said, hasked⟩
  refine ⟨?_, asked, Program.converses_holding.mpr said, hasked⟩
  show s₁.left.hold lock none = s.left
  rw [hs₁, hold_hold free]

theorem ensureOpen_meets {post : Except ChannelError Unit → Journal → Prop}
    (isOpen : s.left.isOpen = true)
    (hpost : post (.ok ()) (s.acted s.left s.left)) :
    solitary.protocol.Meets thread ensureOpen.run post s := by
  refine act_solitary rfl ?_
  rw [isOpen]
  exact hpost

theorem ensureOpen_speaks (isOpen : channel.isOpen = true) :
    Speaks thread channel ensureOpen.run := by
  rintro s rfl
  exact ensureOpen_meets isOpen ⟨rfl, [],
    Program.converses_ensureOpen.mpr ⟨rfl, rfl⟩, (List.append_nil _).symm⟩

theorem setOption_speaks {setting : Setting}
    (free : channel.locks.holder .state = none)
    (isOpen : channel.isOpen = true) :
    Speaks thread channel (setOption fd setting).run := by
  rw [setOption, checkSupported_bind]
  split
  · refine speaks_holding free ?_
    refine speaks_run_bind (ensureOpen_speaks isOpen) fun _ => ?_
    refine speaks_run_bind (speaks_pure _) fun value => ?_
    rw [ExceptT.run_mk, Socket.setOption]
    split
    · exact speaks_pure _
    · split
      · exact speaks_pure _
      · refine speaks_bind (speaks_call _) fun answer => ?_
        cases answer <;> exact speaks_pure _
  · exact speaks_pure _

/-- How a change goes, and what it leaves of the channel. -/
def Made (fd : Fd) (change : Change) (s : Journal)
    (result : Except ChannelError Unit) (s' : Journal) : Prop :=
  ∃ asked, change.Goes fd s.left.isBlocking asked result ∧
    s'.exchanges = s.exchanges ++ asked ∧
    s'.left = match result with
      | .ok () => s.left.having [change]
      | .error _ => s.left

theorem setOption_made {setting : Setting}
    (free : s.left.locks.holder .state = none) (isOpen : s.left.isOpen = true)
    (supported : setting.option.name ∈ supportedOptions) :
    solitary.protocol.Meets thread (setOption fd setting).run
      (Made fd (.set setting) s) s := by
  refine (setOption_speaks free isOpen rfl).mono ?_
  rintro result s' ⟨hleft, asked, said, hasked⟩
  refine ⟨asked, (Change.goes_set_iff supported).mpr said, hasked, ?_⟩
  rw [hleft]
  cases result <;> simp [Channel.having]

theorem perform_solitary {action : Action} {next : action.Result → Operating α}
    {post : Except ChannelError α → Journal → Prop} {channel' : Channel}
    {result : action.Result}
    (answered : s.left.answer thread action = .answered channel' result)
    (h : solitary.protocol.Meets thread (next result).run post
      (s.acted s.left channel')) :
    solitary.protocol.Meets thread (Operating.perform action >>= next).run post
      s := by
  rw [meets_run_bind]
  exact act_solitary answered h

theorem made_holding {lock : Lock} {body : Operating Unit} {change : Change}
    (free : s.left.locks.holder lock = none)
    (h : ∀ s₁ : Journal, s₁.left = s.left.hold lock (some thread) →
      solitary.protocol.Meets thread body.run (Made fd change s₁) s₁) :
    solitary.protocol.Meets thread (Operating.holding lock body).run
      (Made fd change s) s := by
  refine holding_meets free ((h _ rfl).mono ?_)
  rintro result s' ⟨asked, goes, hasked, hleft⟩
  refine ⟨asked, goes, hasked, ?_⟩
  rw [Journal.acted_left, hleft]
  cases result with
  | ok =>
      have free' : (s.left.having [change]).locks.holder lock = none := free
      exact hold_hold free'
  | error => exact hold_hold free

/-- Switching to non-blocking mode, with the locks held. -/
theorem configureBlocking_made (free : ∀ lock, s.left.locks.holder lock = none)
    (isOpen : s.left.isOpen = true) :
    solitary.protocol.Meets thread (configureBlocking fd false).run
      (Made fd .nonBlocking s) s := by
  refine made_holding (free .read) fun s₁ hs₁ => ?_
  refine made_holding (by simp [hs₁, holder_hold, free]) fun s₂ hs₂ => ?_
  refine made_holding (by simp [hs₂, hs₁, holder_hold, free]) fun s₃ hs₃ => ?_
  replace isOpen : s₃.left.isOpen = true := by
    rw [hs₃, hs₂, hs₁]
    exact isOpen
  -- from here on all locks are held; the mode decides whether there is a call
  rw [meets_run_bind]
  refine ensureOpen_meets isOpen ?_
  refine perform_solitary rfl ?_
  rw [meets_run_ite]
  split
  · rename_i same
    have nonBlocking : s₃.left.isBlocking = false := by simpa using same
    refine ⟨[], ?_, (List.append_nil _).symm, ?_⟩
    · rw [nonBlocking]
      exact ⟨rfl, rfl⟩
    · show s₃.left = s₃.left.having [.nonBlocking]
      simp [Channel.having, ← nonBlocking]
  · rename_i other
    have blocking : s₃.left.isBlocking = true := by simpa using other
    refine perform_solitary rfl ?_
    show solitary.protocol.Meets thread
      (Operating.onSocket (Socket.setBlocking fd false) >>= fun _ =>
        Operating.perform (.setBlocking false)).run _ _
    rw [meets_run_bind, meets_run_onSocket]
    rintro (error | _)
    · refine ⟨[⟨.setNonBlocking fd true, .error error⟩], ?_, rfl, rfl⟩
      rw [blocking]
      exact .inr ⟨error, rfl, rfl⟩
    · refine act_solitary rfl ⟨[⟨.setNonBlocking fd true, .ok ()⟩], ?_, rfl, ?_⟩
      · rw [blocking]
        exact .inl ⟨(), rfl, rfl⟩
      · show { s₃.left with isBlocking := false } =
          s₃.left.having [.nonBlocking]
        simp [Channel.having]

theorem makeChange_made {change : Change}
    (free : ∀ lock, s.left.locks.holder lock = none)
    (isOpen : s.left.isOpen = true)
    (supported : ∀ setting, change = .set setting →
      setting.option.name ∈ supportedOptions) :
    solitary.protocol.Meets thread (makeChange fd change).run
      (Made fd change s) s := by
  cases change with
  | set setting => exact setOption_made (free .state) isOpen (supported _ rfl)
  | nonBlocking => exact configureBlocking_made free isOpen

/-- How a list of changes goes, and what it leaves of the channel. -/
def AllMade (fd : Fd) (blocking : Bool) (changes : List Change) (s : Journal)
    (result : Except ChannelError Unit) (s' : Journal) : Prop :=
  ∃ applied asked,
    Change.Applies fd blocking changes applied asked result ∧
    s'.exchanges = s.exchanges ++ asked ∧ s'.left = s.left.having applied

theorem having_having {applied more : List Change} :
    (channel.having applied).having more =
      channel.having (applied ++ more) := by
  simp [Channel.having, Bool.and_assoc, not_or, Bool.decide_and]

/-- The mode is changed once at most, so it is as it was when that is due. -/
theorem makeChanges_made {blocking : Bool} {changes : List Change}
    (free : ∀ lock, s.left.locks.holder lock = none)
    (isOpen : s.left.isOpen = true)
    (supported : ∀ setting, .set setting ∈ changes →
      setting.option.name ∈ supportedOptions)
    (distinct : (changes.map Change.option?).Nodup)
    (mode : .nonBlocking ∈ changes → s.left.isBlocking = blocking) :
    solitary.protocol.Meets thread (makeChanges fd changes).run
      (AllMade fd blocking changes s) s := by
  induction changes generalizing s with
  | nil =>
      refine ⟨[], [], .done, (List.append_nil _).symm, ?_⟩
      simp [Channel.having]
  | cons change later ih =>
      rw [makeChanges, meets_run_bind]
      refine (makeChange_made free isOpen fun setting heq =>
        supported setting (heq ▸ List.mem_cons_self)).mono ?_
      rintro result s₁ ⟨asked, goes, hasked, hleft⟩
      have goes' : change.Goes fd blocking asked result := by
        cases change with
        | set => exact goes
        | nonBlocking => rwa [← mode List.mem_cons_self]
      cases result with
      | error error =>
          refine ⟨[], asked, .failed goes', hasked, ?_⟩
          rw [hleft]
          simp [Channel.having]
      | ok =>
          replace hleft : s₁.left = s.left.having [change] := hleft
          refine (ih (by rw [hleft]; exact free) (by rw [hleft]; exact isOpen)
            (fun setting hmem => supported setting (.tail _ hmem))
            (List.nodup_cons.mp distinct).2 fun hmem => ?_).mono ?_
          · have unlike : change ≠ .nonBlocking := by
              rintro rfl
              exact (List.nodup_cons.mp distinct).1
                (List.mem_map_of_mem (f := Change.option?) hmem)
            rw [hleft, ← mode (.tail _ hmem)]
            simp [Channel.having, unlike.symm]
          · rintro result s₂ ⟨applied, more, applies, hmore, hleft₂⟩
            refine ⟨change :: applied, asked ++ more, .made goes' applies, ?_,
              ?_⟩
            · rw [hmore, hasked, List.append_assoc]
            · rw [hleft₂, hleft, having_having]
              rfl

end Applying

section Episode

variable {fd : Fd} {before during : Trace} {c c' : Config} {thread : Thread}
  {settings : Settings} {reply : Channel.Reply}

theorem Applying.program_meets {channel : Channel}
    (free : ∀ lock, channel.locks.holder lock = none)
    (isOpen : channel.isOpen = true) :
    solitary.protocol.Meets thread
      ((Channel.Operation.apply settings).program fd)
      (fun reply s => ∃ result, AllMade fd channel.isBlocking settings.changes
          { left := channel } result s ∧
        reply = match result with
          | .ok () => .finished
          | .error error => .failed error)
      { left := channel } := by
  show solitary.protocol.Meets thread
    (Channel.reply (fun _ => .finished) (Channel.apply fd settings)) _ _
  rw [Protocol.meets_reply]
  refine (makeChanges_made free isOpen (fun _ => Settings.supported_of_mem)
    settings.changes_nodup fun _ => rfl).mono fun result s made => ?_
  cases result with
  | ok => exact ⟨.ok (), made, rfl⟩
  | error error => exact ⟨.error error, made, rfl⟩

/-- Settings are applied, in their order, up to the first that cannot be, by a
thread that has an open channel to itself, if the system gives back what was set
last.  An option that has been applied reads as its value, brought into its
range; all others, those that come after a failure among them, read as before;
and of the rest of the channel, nothing has changed but the mode.  The operation
fails as the first setting that is not applied does, and makes no call after
that. -/
theorem settings_applied_in_order (run : Run fd before c)
    (isOpen : c.channel.isOpen = true)
    (idle : ∀ other, c.activity other = .idle)
    (episode : Episode fd thread (.apply settings) c during reply c')
    (alone : ∀ event ∈ during, event.thread = thread) (held : Holdings) :
    ∃ applied rest, settings.present = applied ++ rest ∧
      c'.channel = { c.channel with
        isBlocking := c.channel.isBlocking &&
          decide (.nonBlocking ∉ applied) } ∧
      (∀ setting, .set setting ∈ applied → ∀ result,
        (held.after fd (during.exchanges thread)).Reads fd setting.option
            result ↔
          result = .ok setting.reading) ∧
      (∀ option,
        (∀ setting, .set setting ∈ applied → setting.option ≠ option) →
        ∀ result,
          (held.after fd (during.exchanges thread)).Reads fd option result ↔
            held.Reads fd option result) ∧
      (∀ setting, .set setting ∈ rest → ∀ result,
        (held.after fd (during.exchanges thread)).Reads fd setting.option
            result ↔
          held.Reads fd setting.option result) ∧
      (rest = [] ∧ reply = .finished ∨
        ∃ failing later asked error, rest = failing :: later ∧
          asked <:+ during.exchanges thread ∧
          Channel.Change.Goes fd c.channel.isBlocking failing asked
            (.error error) ∧
          reply = .failed error) ∧
      during.calls thread = (applied ++ rest.take 1).filterMap
        (Channel.Change.call? fd c.channel.isBlocking) := by
  obtain ⟨-, free, -⟩ := run.isUnused isOpen idle
  obtain ⟨s, ⟨result, ⟨applied, asked, applies, hasked, hleft⟩, hreply⟩,
    tells⟩ := episode.journal run (Applying.program_meets free isOpen)
      (fun _ => alone) (fun _ ⟨_, _, _, _, _, _, _, _, h⟩ => h trivial)
  have hexchanges : during.exchanges thread = asked :=
    tells.exchanges.trans hasked
  obtain ⟨rest, hchanges, hcalls, outcome⟩ := applies.split
  have distinct := settings.changes_nodup
  rw [hchanges, List.map_append, List.nodup_append] at distinct
  rw [hexchanges]
  refine ⟨applied, rest, settings.changes_eq_present ▸ hchanges,
    (tells.alone trivial).trans hleft, fun setting hmem result => ?_,
    fun option unset result => ?_,
    fun setting hmem result => ?_, ?_, ?_⟩
  · exact applies.reads_of_mem (fun _ => Settings.supported_of_mem) distinct.1
      (Settings.supported_of_mem (hchanges ▸ List.mem_append_left _ hmem)) hmem
  · exact applies.reads_of_not_mem (fun _ => Settings.supported_of_mem) unset
  · refine applies.reads_of_not_mem (fun _ => Settings.supported_of_mem)
      fun other hother heq => ?_
    exact distinct.2.2 _ (List.mem_map_of_mem hother) _
      (List.mem_map_of_mem hmem)
      (congrArg (fun option : TypedOption => some option.name) heq)
  · obtain ⟨hrest, rfl⟩ | ⟨failing, later, last, error, hrest, hsuffix, goes,
      rfl⟩ := outcome
    · exact .inl ⟨hrest, hreply⟩
    · exact .inr ⟨failing, later, last, error, hrest, hsuffix, goes, hreply⟩
  · rw [episode.calls_eq, hexchanges, hcalls]

end Episode

/-- The timeout is refused; the mode is not reached. -/
def refusedSettings : Settings where
  linger := some 100000
  receiveTimeout := some (-1)
  nonBlocking := true

def untilTimeoutRefused : List Move :=
  [Move.steps 1 3, [.answer 1 fun
      | .setOption .. => .ok ()
      | _ => .error (.code Errno.invalidArgument)], Move.steps 1 4].flatten

def unapplied : Config := .start (.owning 3 .unconnected true)

theorem unapplied_move_isSome :
    (unapplied.move 3 (.begin 1 (.apply refusedSettings))).isSome = true := by
  decide +kernel

def applying : Trace × Config :=
  (unapplied.move 3 (.begin 1 (.apply refusedSettings))).get
    unapplied_move_isSome

theorem untilTimeoutRefused_isSome :
    (applying.2.play 3 untilTimeoutRefused).isSome = true := by
  decide +kernel

def timeoutRefused : Trace × Config :=
  (applying.2.play 3 untilTimeoutRefused).get untilTimeoutRefused_isSome

theorem timeoutRefused_move_isSome :
    (timeoutRefused.2.move 3 (.step 1)).isSome = true := by
  decide +kernel

def partlyApplied : Trace × Config :=
  (timeoutRefused.2.move 3 (.step 1)).get timeoutRefused_move_isSome

theorem episode_partlyApplied : Episode 3 1 (.apply refusedSettings) unapplied
    timeoutRefused.1 (.failed (.invalidArgument .receiveTimeout (-1)
      .negativeReceiveTimeout)) partlyApplied.2 := by
  have began : Step 3 unapplied [.began 1 (.apply refusedSettings)]
      applying.2 :=
    Config.step_get unapplied_move_isSome
  have ended : Step 3 timeoutRefused.2 [.ended 1 (.apply refusedSettings)
      (.failed (.invalidArgument .receiveTimeout (-1)
        .negativeReceiveTimeout))] partlyApplied.2 :=
    Config.step_get timeoutRefused_move_isSome
  exact ⟨⟨_, _, began, Config.steps_get untilTimeoutRefused_isSome, ended⟩,
    Trace.isWithin_of_all (by decide +kernel)⟩

theorem linger_applied_until_refused :
    timeoutRefused.1.calls 1 = [.setOption 3 1 13 (.linger (some 65535))] ∧
      partlyApplied.2.channel = unapplied.channel ∧
      ∀ (held : Holdings) (result : Except ChannelError Reading),
        ((held.after 3 (timeoutRefused.1.exchanges 1)).Reads 3 (.int .linger)
            result ↔
          result = .ok (.int 65535)) ∧
        ((held.after 3 (timeoutRefused.1.exchanges 1)).Reads 3
            (.int .receiveTimeout) result ↔
          held.Reads 3 (.int .receiveTimeout) result) := by
  have run : Run 3 [] unapplied := ⟨_, .created, .refl⟩
  have alone : ∀ event ∈ timeoutRefused.1, event.thread = 1 := by decide +kernel
  refine ⟨by decide +kernel, by decide +kernel, fun held result => ?_⟩
  obtain ⟨applied, rest, hchanges, -, reads, -, unread, outcome, -⟩ :=
    settings_applied_in_order run rfl (fun _ => rfl) episode_partlyApplied alone
      held
  replace hchanges : [.set (.int .linger 100000),
      .set (.int .receiveTimeout (-1)), .nonBlocking] = applied ++ rest :=
    hchanges
  obtain ⟨-, finished⟩ | ⟨failing, later, asked, error, rfl, -, goes, failed⟩ :=
    outcome
  · cases finished
  cases failed
  have hfailing : failing = .set (.int .receiveTimeout (-1)) := by
    have hmem : failing ∈ applied ++ failing :: later := by simp
    simp only [← hchanges, List.mem_cons, List.not_mem_nil, or_false] at hmem
    obtain rfl | rfl | rfl := hmem
    · obtain ⟨_, _, h⟩ | ⟨_, _, h⟩ := goes <;> cases h
    · rfl
    · obtain ⟨_, _, h⟩ | ⟨_, _, h⟩ := goes <;> cases h
  subst hfailing
  have hlinger : .set (.int .linger 100000) ∈ applied := by
    cases applied with
    | nil => cases hchanges
    | cons first _ =>
        obtain ⟨rfl, _⟩ := List.cons_eq_cons.mp hchanges
        exact List.mem_cons_self
  exact ⟨reads _ hlinger result, unread _ List.mem_cons_self result⟩

end LocalSocket
