import LocalSocket.Proofs.OptionValues
import Mathlib.Data.List.Nodup
import Mathlib.Data.List.ReduceOption

/-!
# Changes in order

Changes to a channel are made one after the other, up to the first that cannot
be made.  What the options read as afterwards follows from how far that got: an
option is set by one change at most.
-/

namespace LocalSocket

/-! ## What the system answers for options -/

/-- What the system answers when it is asked for the option at a level and
number. -/
abbrev Holdings := Int → Int → Except OsError Payload

namespace Holdings

/-- The answers after the exchanges: what was set last is given back. -/
def after (held : Holdings) (fd : Fd) (exchanges : List Exchange) : Holdings :=
  fun level number =>
    match lastPayload? fd level number exchanges with
    | some payload => .ok payload
    | none => held level number

/-- The exchange, if it asks for an option, goes as the system answers. -/
def Answers (held : Holdings) (fd : Fd) (exchange : Exchange) : Prop :=
  ∀ level number form answer,
    exchange = ⟨.getOption fd level number form, answer⟩ →
      answer = held level number

/-- Reading the option of an open channel may end so. -/
def Reads (held : Holdings) (fd : Fd) (option : TypedOption)
    (result : Except ChannelError Reading) : Prop :=
  ∃ asked, (Channel.getOption fd option).run.Converses asked result ∧
    ∀ exchange ∈ asked, held.Answers fd exchange

variable {held : Holdings} {fd : Fd} {option : TypedOption}
  {result : Except ChannelError Reading} {descriptor : Descriptor}

/-- What an option reads as depends on what is held where it is. -/
theorem reads_iff
    (resolved : option.name.resolve option.scope = .ok descriptor) :
    held.Reads fd option result ↔ result =
      if option.name ∈ Channel.supportedOptions then
        ((held descriptor.level descriptor.number).map
          fun payload => option.decode payload.decode).mapError .socket
      else .error (.unsupportedOption option.name) := by
  rw [Reads]
  simp only [Channel.converses_getOption]
  split
  · simp only [Program.converses_socketGetOption, resolved]
    constructor
    · rintro ⟨_, ⟨_, ⟨answer, rfl, rfl⟩, rfl⟩, answers⟩
      obtain rfl := answers _ (List.mem_singleton.mpr rfl) _ _ _ _ rfl
      cases held descriptor.level descriptor.number <;> rfl
    · rintro rfl
      refine ⟨_, ⟨_, ⟨held descriptor.level descriptor.number, rfl, rfl⟩, ?_⟩,
        ?_⟩
      · cases held descriptor.level descriptor.number <;> rfl
      · intro exchange hmem
        obtain rfl := List.mem_singleton.mp hmem
        rintro _ _ _ _ ⟨⟩
        rfl
  · constructor
    · rintro ⟨_, ⟨rfl, rfl⟩, _⟩
      rfl
    · rintro rfl
      exact ⟨[], ⟨rfl, rfl⟩, by simp⟩

end Holdings

/-! ## Changes in order -/

namespace Channel.Change

/-- The option that is set; there is none for the mode. -/
def option? : Change → Option OptionName
  | .set setting => some setting.option.name
  | .nonBlocking => none

/-- The call that the change takes, if any, unless its value is refused. -/
def request (fd : Fd) (blocking : Bool) :
    Change → Except ChannelError (Option Call)
  | .set setting =>
      (setting.option.name.place setting.option.scope
        (.int setting.raw)).map fun (descriptor, payload) =>
          some (.setOption fd descriptor.level descriptor.number payload)
  | .nonBlocking =>
      .ok (if blocking then some (.setNonBlocking fd true) else none)

def call? (fd : Fd) (blocking : Bool) (change : Change) : Option Call :=
  match change.request fd blocking with
  | .ok call => call
  | .error _ => none

/-- How the change may go: it is refused without a word, takes no call, or
succeeds or fails as its call does. -/
def Goes (fd : Fd) (blocking : Bool) (change : Change) (asked : List Exchange)
    (result : Except ChannelError Unit) : Prop :=
  match change.request fd blocking with
  | .error fault => asked = [] ∧ result = .error fault
  | .ok none => asked = [] ∧ result = .ok ()
  | .ok (some call) =>
      (∃ value, asked = [⟨call, .ok value⟩] ∧ result = .ok ()) ∨
        ∃ cause, asked = [⟨call, .error cause⟩] ∧
          result = .error (.socket cause)

/-- What the option at a scope is set to by the change. -/
def accepted? (option : OptionName) (scope : Scope) : Change → Option Int
  | .set setting =>
      if setting.option.name = option ∧ setting.option.scope = scope then
        some setting.raw
      else none
  | .nonBlocking => none

section Goes

variable {fd : Fd} {blocking : Bool} {change : Change} {setting : Setting}
  {asked : List Exchange} {result : Except ChannelError Unit}

theorem goes_set_iff (supported : setting.option.name ∈ supportedOptions) :
    (Change.set setting).Goes fd blocking asked result ↔
      (setOption fd setting).run.Converses asked result := by
  rw [converses_setOption, if_pos supported, Program.converses_socketSetOption,
    Goes, request]
  cases setting.option.name.place setting.option.scope (.int setting.raw) with
  | error fault => exact Iff.rfl
  | ok placed =>
      constructor
      · rintro (⟨value, rfl, rfl⟩ | ⟨cause, rfl, rfl⟩)
        · exact ⟨.ok value, rfl, rfl⟩
        · exact ⟨.error cause, rfl, rfl⟩
      · rintro ⟨cause | value, rfl, rfl⟩
        · exact .inr ⟨cause, rfl, rfl⟩
        · exact .inl ⟨value, rfl, rfl⟩

theorem Goes.calls (goes : change.Goes fd blocking asked result) :
    asked.map Exchange.call = (change.call? fd blocking).toList := by
  rw [Goes] at goes
  rw [call?]
  split at goes <;> rename_i h
  · obtain ⟨rfl, _⟩ := goes
    rw [h]
    rfl
  · obtain ⟨rfl, _⟩ := goes
    rw [h]
    rfl
  · obtain ⟨_, rfl, _⟩ | ⟨_, rfl, _⟩ := goes
    · rw [h]
      rfl
    · rw [h]
      rfl

/-- What the change sets at the place of an option. -/
theorem Goes.keeps {option : OptionName} {scope : Scope}
    {descriptor : Descriptor} (goes : change.Goes fd blocking asked result)
    (supported : ∀ setting, change = .set setting →
      setting.option.name ∈ supportedOptions)
    (resolved : option.resolve scope = .ok descriptor) :
    (lastPayload? fd descriptor.level descriptor.number asked).map
        Payload.decode =
      (if result = .ok () then change.accepted? option scope else none).map
        fun value => .int (option.held value) := by
  cases change with
  | set setting =>
      have happens : (Access.wrote (.typed setting) asked result).Happens fd :=
        (goes_set_iff (supported setting rfl)).mp goes
      refine (Access.keeps happens resolved).trans (congrArg _ ?_)
      obtain error | _ := result
      · simp [Access.accepted?]
      · rfl
  | nonBlocking =>
      have unset : lastPayload? fd descriptor.level descriptor.number asked =
          none := by
        cases blocking with
        | false =>
            obtain ⟨rfl, _⟩ : asked = [] ∧ result = .ok () := goes
            rfl
        | true =>
            obtain ⟨_, rfl, _⟩ | ⟨_, rfl, _⟩ := goes <;> rfl
      rw [unset]
      split <;> rfl

end Goes

/-- The changes are made in order, up to the first that fails. -/
inductive Applies (fd : Fd) (blocking : Bool) : List Change → List Change →
    List Exchange → Except ChannelError Unit → Prop where
  | done : Applies fd blocking [] [] [] (.ok ())
  | failed {change : Change} {later : List Change} {asked : List Exchange}
      {error : ChannelError}
      (goes : change.Goes fd blocking asked (.error error)) :
      Applies fd blocking (change :: later) [] asked (.error error)
  | made {change : Change} {later applied : List Change}
      {asked exchanges : List Exchange} {result : Except ChannelError Unit}
      (goes : change.Goes fd blocking asked (.ok ()))
      (more : Applies fd blocking later applied exchanges result) :
      Applies fd blocking (change :: later) (change :: applied)
        (asked ++ exchanges) result

namespace Applies

variable {fd : Fd} {blocking : Bool} {changes applied : List Change}
  {exchanges : List Exchange} {result : Except ChannelError Unit}

/-- What is left of the changes, and what comes of the first of them. -/
theorem split (h : Applies fd blocking changes applied exchanges result) :
    ∃ rest, changes = applied ++ rest ∧
      exchanges.map Exchange.call =
        (applied ++ rest.take 1).filterMap (call? fd blocking) ∧
      ((rest = [] ∧ result = .ok ()) ∨
        ∃ failing later asked error, rest = failing :: later ∧
          asked <:+ exchanges ∧ failing.Goes fd blocking asked (.error error) ∧
          result = .error error) := by
  induction h with
  | done => exact ⟨[], rfl, rfl, .inl ⟨rfl, rfl⟩⟩
  | @failed change later asked error goes =>
      refine ⟨change :: later, rfl, ?_, .inr ⟨change, later, asked, error, rfl,
        List.suffix_refl _, goes, rfl⟩⟩
      rw [goes.calls]
      cases h : change.call? fd blocking <;> simp [h]
  | @made change later applied asked exchanges result goes _ ih =>
      obtain ⟨rest, rfl, hcalls, outcome⟩ := ih
      refine ⟨rest, rfl, ?_, ?_⟩
      · rw [List.map_append, goes.calls, hcalls, List.cons_append,
          List.filterMap_cons]
        cases change.call? fd blocking <;> rfl
      · obtain done | ⟨failing, later, asked', error, hrest, hsuffix, failed⟩ :=
          outcome
        · exact .inl done
        · exact .inr ⟨failing, later, asked', error, hrest,
            hsuffix.trans (List.suffix_append ..), failed⟩

/-- An option holds what the changes that were made have set it to last. -/
theorem keeps {option : OptionName} {scope : Scope} {descriptor : Descriptor}
    (h : Applies fd blocking changes applied exchanges result)
    (supported : ∀ setting, .set setting ∈ changes →
      setting.option.name ∈ supportedOptions)
    (resolved : option.resolve scope = .ok descriptor) :
    (lastPayload? fd descriptor.level descriptor.number exchanges).map
        Payload.decode =
      (applied.reverse.findSome? (accepted? option scope)).map
        fun value => .int (option.held value) := by
  induction h with
  | done => rfl
  | failed goes =>
      refine (goes.keeps (fun setting heq => ?_) resolved).trans rfl
      exact supported setting (heq ▸ List.mem_cons_self)
  | made goes _ ih =>
      have hrest := ih fun setting hmem =>
        supported setting (List.mem_cons_of_mem _ hmem)
      have hfirst := goes.keeps (fun setting heq => supported setting
        (heq ▸ List.mem_cons_self)) resolved
      rw [if_pos rfl] at hfirst
      rw [lastPayload?_append, Option.map_or, hrest, hfirst,
        List.reverse_cons, List.findSome?_append, Option.map_or]
      simp

end Applies

end Channel.Change

/-! ## The changes that settings make -/

namespace Settings

open Channel (Change)

/-- The settings that are present, in the order in which they are applied. -/
def present (settings : Settings) : List Change :=
  [settings.sendBufferSize.map fun size => .set (.int .sendBuffer size),
    settings.receiveBufferSize.map fun size => .set (.int .receiveBuffer size),
    if settings.keepAlive then some (.set (.switch .keepAlive true)) else none,
    settings.linger.map fun seconds => .set (.int .linger seconds),
    settings.receiveTimeout.map
      fun millis => .set (.int .receiveTimeout millis),
    if settings.nonBlocking then some .nonBlocking else none].reduceOption

/-- What may be changed, in this order. -/
def order : List (Option OptionName) :=
  [some .sendBufferSize, some .receiveBufferSize, some .keepAlive, some .linger,
    some .receiveTimeout, none]

variable {settings : Settings} {setting other : Setting}

theorem reduceOption_cons (change? : Option Change)
    (changes? : List (Option Change)) :
    (change? :: changes?).reduceOption =
      change?.toList ++ changes?.reduceOption := by
  rw [← List.singleton_append, List.reduceOption_append,
    List.reduceOption_singleton]

theorem changes_eq_present (settings : Settings) :
    settings.changes = settings.present := by
  have switch : ∀ (isOn : Bool) (change : Change),
      (if isOn then some change else none).toList =
        if isOn then [change] else [] := by
    intro isOn change
    cases isOn <;> rfl
  simp only [present, reduceOption_cons, switch, List.reduceOption_nil, changes,
    List.append_assoc, List.append_nil]

theorem changes_sublist (settings : Settings) :
    (settings.changes.map Change.option?).Sublist order := by
  have amount : ∀ (value : Option Int) (option : IntOption),
      ((value.map fun value => Change.set (.int option value)).toList.map
        Change.option?).Sublist [some option.name] := by
    intro value option
    cases value with
    | none => exact List.nil_sublist _
    | some => exact List.Sublist.refl _
  have switch : ∀ (isOn : Bool) (change : Change),
      ((if isOn then [change] else []).map Change.option?).Sublist
        [change.option?] := by
    intro isOn change
    cases isOn with
    | false => exact List.nil_sublist _
    | true => exact List.Sublist.refl _
  simp only [changes, List.map_append]
  exact (((((amount _ .sendBuffer).append (amount _ .receiveBuffer)).append
    (switch _ (.set (.switch .keepAlive true)))).append
    (amount _ .linger)).append (amount _ .receiveTimeout)).append
    (switch _ .nonBlocking)

/-- Each option is set at most once, and so is the mode. -/
theorem changes_nodup (settings : Settings) :
    (settings.changes.map Change.option?).Nodup :=
  settings.changes_sublist.nodup (by decide)

theorem supported_of_mem (h : .set setting ∈ settings.changes) :
    setting.option.name ∈ Channel.supportedOptions := by
  have hmem : some setting.option.name ∈ order :=
    settings.changes_sublist.subset
      (List.mem_map_of_mem (f := Change.option?) h)
  revert hmem
  cases setting.option.name <;> decide

end Settings

/-! ## What the options read as -/

theorem TypedOption.eq_of_name {option other : TypedOption}
    (h : option.name = other.name) : option = other := by
  rcases option with (_ | _) | (_ | _) | _ <;>
    rcases other with (_ | _) | (_ | _) | _ <;> first | rfl | cases h

/-- What a setting that is in force reads as. -/
def Setting.reading : Setting → Reading
  | int option value => .int (option.name.held value)
  | switch _ isOn => .switch isOn

theorem Setting.decode_held (setting : Setting) :
    setting.option.decode (.int (setting.option.name.held setting.raw)) =
      setting.reading := by
  cases setting with
  | int option value => rfl
  | switch option isOn => cases option <;> cases isOn <;> rfl

namespace Channel.Change

variable {fd : Fd} {blocking : Bool} {changes applied : List Change}
  {asked exchanges : List Exchange} {result : Except ChannelError Unit}
  {setting : Setting} {option : TypedOption} {held : Holdings}

theorem lastAccepted_of_mem (distinct : (applied.map option?).Nodup)
    (hmem : .set setting ∈ applied) :
    applied.reverse.findSome?
        (accepted? setting.option.name setting.option.scope) =
      some setting.raw := by
  cases last : applied.reverse.findSome?
    (accepted? setting.option.name setting.option.scope) with
  | none =>
      have unset := List.findSome?_eq_none_iff.mp last _
        (List.mem_reverse.mpr hmem)
      simp [accepted?] at unset
  | some value =>
      obtain ⟨change, hchange, accepted⟩ :=
        List.exists_of_findSome?_eq_some last
      rw [List.mem_reverse] at hchange
      cases change with
      | nonBlocking => cases accepted
      | set other =>
          obtain ⟨⟨hname, _⟩, hvalue⟩ := by simpa [accepted?] using accepted
          have same := List.inj_on_of_nodup_map distinct hchange hmem
            (congrArg some hname)
          cases same
          rw [hvalue]

theorem lastAccepted_of_not_mem
    (h : ∀ setting, .set setting ∈ applied → setting.option ≠ option) :
    applied.reverse.findSome? (accepted? option.name option.scope) = none := by
  refine List.findSome?_eq_none_iff.mpr fun change hmem => ?_
  cases change with
  | nonBlocking => rfl
  | set setting =>
      refine if_neg fun hsame => h setting (List.mem_reverse.mp hmem) ?_
      exact TypedOption.eq_of_name hsame.1

/-- A setting that has been applied reads as its value, brought into range. -/
theorem Applies.reads_of_mem {reading : Except ChannelError Reading}
    (h : Applies fd blocking changes applied exchanges result)
    (supported : ∀ setting, .set setting ∈ changes →
      setting.option.name ∈ supportedOptions)
    (distinct : (applied.map option?).Nodup)
    (known : setting.option.name ∈ supportedOptions)
    (hmem : .set setting ∈ applied) :
    (held.after fd exchanges).Reads fd setting.option reading ↔
      reading = .ok setting.reading := by
  obtain ⟨descriptor, resolved⟩ := setting.option.resolve_isOk
  have kept := h.keeps supported resolved
  rw [lastAccepted_of_mem distinct hmem, Option.map_some,
    Option.map_eq_some_iff] at kept
  obtain ⟨payload, last, decoded⟩ := kept
  rw [Holdings.reads_iff resolved, if_pos known, Holdings.after, last]
  simp only [Except.map, Except.mapError, decoded, Setting.decode_held]

/-- An option that no change has been made to reads as before. -/
theorem Applies.reads_of_not_mem {reading : Except ChannelError Reading}
    (h : Applies fd blocking changes applied exchanges result)
    (supported : ∀ setting, .set setting ∈ changes →
      setting.option.name ∈ supportedOptions)
    (unset : ∀ setting, .set setting ∈ applied → setting.option ≠ option) :
    (held.after fd exchanges).Reads fd option reading ↔
      held.Reads fd option reading := by
  obtain ⟨descriptor, resolved⟩ := option.resolve_isOk
  have kept := h.keeps supported resolved
  rw [lastAccepted_of_not_mem unset, Option.map_none,
    Option.map_eq_none_iff] at kept
  rw [Holdings.reads_iff resolved, Holdings.reads_iff resolved,
    Holdings.after, kept]

end Channel.Change

end LocalSocket
