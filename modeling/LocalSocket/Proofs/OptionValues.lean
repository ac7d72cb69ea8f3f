import LocalSocket.Channel.Options
import LocalSocket.Proofs.Conversation
import Mathlib.Data.List.Induction
import Mathlib.Tactic.SplitIfs

/-!
# Options read back as they were set

An option can be set and read in two ways: as a typed option of a channel, or by
name and scope on the descriptor.  Both end in the same calls.  A system that
gives back the payload that was set last for a level and number makes each
option, under its scope, a place of its own, which holds the value that was
accepted last, brought into its range.
-/

namespace LocalSocket

/-- The value that an option holds after `value` has been accepted for it. -/
def OptionName.held (option : OptionName) (value : Int) : Int :=
  match option with
  | .linger => if value < 0 then -1 else min value 65535
  | _ => value

theorem Scope.mem_all (scope : Scope) : scope ∈ Scope.all := by
  cases scope <;> decide

/-! ## Encoding -/

namespace OptionName

variable {option : OptionName} {scope : Scope} {descriptor : Descriptor}
  {value normal : Int}

theorem checkRange_eq_ok {high : Int} {fault : ValueFault} :
    option.checkRange high fault value = .ok normal ↔
      normal = value ∧ 0 ≤ value ∧ value ≤ high := by
  rw [checkRange]
  split_ifs with h
  · simp [h, eq_comm]
  · simp [h]

theorem held_of_normalise (h : option.normalise value = .ok normal) :
    normal = option.held value := by
  cases option with
  | linger => exact (Except.ok.inj h).symm
  | sendBufferSize | receiveBufferSize | receiveTimeout | ipTos
  | multicastTtl => exact (checkRange_eq_ok.mp h).1
  | _ => exact (Except.ok.inj h).symm

/-- What has been brought into range stays as it is. -/
theorem normalise_normal (h : option.normalise value = .ok normal) :
    option.normalise normal = .ok normal := by
  cases option with
  | linger =>
      obtain rfl := held_of_normalise h
      simp only [normalise, held, lingerMax]
      congr 1
      split_ifs <;> omega
  | sendBufferSize | receiveBufferSize | receiveTimeout | ipTos
  | multicastTtl =>
      obtain ⟨rfl, hrange⟩ := checkRange_eq_ok.mp h
      exact h
  | _ => rfl

theorem eq_linger_of_form (h : option.resolve scope = .ok descriptor)
    (form : descriptor.form = .linger) : option = .linger := by
  cases option <;> cases scope <;> cases h <;> first | rfl | cases form

theorem eq_receiveTimeout_of_form (h : option.resolve scope = .ok descriptor)
    (form : descriptor.form = .timeval) : option = .receiveTimeout := by
  cases option <;> cases scope <;> cases h <;> first | rfl | cases form

theorem le_of_receiveTimeout (h : receiveTimeout.normalise value = .ok normal) :
    0 ≤ normal ∧ normal ≤ intMax := by
  obtain ⟨rfl, hrange⟩ := checkRange_eq_ok.mp h
  exact hrange

/-- A payload has the form that its descriptor asks for, and stands for the
value that is held. -/
theorem decode_of_encode {given : OptionValue} {payload : Payload}
    (resolved : option.resolve scope = .ok descriptor)
    (encoded : option.encode descriptor.form given = .ok payload) :
    payload.form = descriptor.form ∧ ∃ value, given = .int value ∧
      payload.decode = .int (option.held value) := by
  cases given with
  | credentials => cases encoded
  | int value =>
      simp only [encode, bind, Except.bind] at encoded
      split at encoded
      · cases encoded
      · rename_i normal hnormal
        obtain rfl := held_of_normalise hnormal
        refine (?_ : _ ∧ payload.decode = .int (option.held value)).imp id
          fun decoded => ⟨value, rfl, decoded⟩
        cases hform : descriptor.form with
        | int =>
            rw [hform] at encoded
            cases encoded
            exact ⟨rfl, rfl⟩
        | byte =>
            simp only [hform] at encoded
            split at encoded
            · rename_i hrange
              cases encoded
              refine ⟨rfl, congrArg OptionValue.int ?_⟩
              rw [UInt8.toNat_ofNat']
              omega
            · cases encoded
        | linger =>
            obtain rfl := eq_linger_of_form resolved hform
            rw [hform] at encoded
            cases encoded
            refine ⟨rfl, congrArg OptionValue.int ?_⟩
            simp only [held]
            split_ifs <;> first | rfl | omega
        | timeval =>
            obtain rfl := eq_receiveTimeout_of_form resolved hform
            have hrange := le_of_receiveTimeout hnormal
            simp only [hform] at encoded
            split at encoded
            · cases encoded
              refine ⟨rfl, congrArg OptionValue.int ?_⟩
              rw [Duration.toMillis_ofMillis]
              omega
            · cases encoded
        | credentials =>
            rw [hform] at encoded
            cases encoded

theorem descriptor?_inj :
    ∀ option ∈ all, ∀ scope ∈ Scope.all, ∀ other ∈ all, ∀ scope' ∈ Scope.all,
      ∀ descriptor ∈ option.descriptor? scope,
        ∀ descriptor' ∈ other.descriptor? scope',
          descriptor.level = descriptor'.level →
            descriptor.number = descriptor'.number →
              option = other ∧ scope = scope' := by
  decide +kernel

theorem descriptor?_of_resolve (h : option.resolve scope = .ok descriptor) :
    option.descriptor? scope = some descriptor := by
  rw [resolve] at h
  split at h
  · cases h
    assumption
  · cases h

/-- An option under a scope has its level and number to itself. -/
theorem resolve_inj {other : OptionName} {scope' : Scope}
    {descriptor' : Descriptor} (h : option.resolve scope = .ok descriptor)
    (h' : other.resolve scope' = .ok descriptor')
    (level : descriptor.level = descriptor'.level)
    (number : descriptor.number = descriptor'.number) :
    option = other ∧ scope = scope' :=
  descriptor?_inj option (mem_all option) scope (Scope.mem_all scope)
    other (mem_all other) scope' (Scope.mem_all scope') descriptor
    (descriptor?_of_resolve h) descriptor' (descriptor?_of_resolve h') level
    number

end OptionName

/-! ## Writing and reading -/

namespace Setting

/-- The value of a setting as an integer. -/
def raw : Setting → Int
  | int _ value => value
  | switch _ value => if value then 1 else 0

end Setting

/-- Where an option is, and what to send there for a value of it. -/
def OptionName.place (option : OptionName) (scope : Scope)
    (value : OptionValue) : Except ChannelError (Descriptor × Payload) :=
  (option.resolve scope).bind fun descriptor =>
    (option.encode descriptor.form value).map fun payload =>
      (descriptor, payload)

theorem TypedOption.resolve_isOk (option : TypedOption) :
    ∃ descriptor, option.name.resolve option.scope = .ok descriptor := by
  rcases option with option | option | _
  · cases option <;> exact ⟨_, rfl⟩
  · cases option <;> exact ⟨_, rfl⟩
  · exact ⟨_, rfl⟩

namespace OptionName

variable {option : OptionName} {scope : Scope} {descriptor : Descriptor}
  {value normal : Int}

theorem place_of_rejected {error : ChannelError}
    (resolved : option.resolve scope = .ok descriptor)
    (h : option.normalise value = .error error) :
    option.place scope (.int value) = .error error := by
  rw [place, resolved]
  simp only [Except.bind, encode, h, bind, Except.map]

theorem place_normal (h : option.normalise value = .ok normal) :
    option.place scope (.int normal) = option.place scope (.int value) := by
  rw [place, place]
  congr 1
  funext descriptor
  rw [encode, encode]
  simp only [h, normalise_normal h]

theorem place_eq_ok {given : OptionValue} {payload : Payload}
    (h : option.place scope given = .ok (descriptor, payload)) :
    option.resolve scope = .ok descriptor ∧
      option.encode descriptor.form given = .ok payload := by
  rw [place] at h
  cases resolved : option.resolve scope with
  | error error =>
      rw [resolved] at h
      cases h
  | ok found =>
      cases encoded : option.encode found.form given with
      | error error =>
          simp only [resolved, Except.bind, encoded, Except.map] at h
          cases h
      | ok payload' =>
          simp only [resolved, Except.bind, encoded, Except.map] at h
          cases h
          exact ⟨rfl, encoded⟩

end OptionName

namespace Program

variable {fd : Fd} {exchanges : List Exchange}

/-- A write that is rejected says nothing; any other is a single call. -/
theorem converses_socketSetOption {option : OptionName} {scope : Scope}
    {value : OptionValue} {result : Except ChannelError Unit} :
    (Socket.setOption fd scope option value).Converses exchanges result ↔
      match option.place scope value with
      | .error error => exchanges = [] ∧ result = .error error
      | .ok (descriptor, payload) => ∃ answer : Except OsError Unit,
          exchanges = [⟨.setOption fd descriptor.level descriptor.number
            payload, answer⟩] ∧ result = answer.mapError .socket := by
  rw [Socket.setOption, OptionName.place]
  cases option.resolve scope with
  | error error => exact converses_pure
  | ok descriptor =>
      cases hencoded : option.encode descriptor.form value with
      | error error =>
          simp only [Except.bind, hencoded, Except.map]
          exact converses_pure
      | ok payload =>
          simp only [Except.bind, hencoded, Except.map]
          refine converses_call_bind.trans (exists_congr fun answer => ?_)
          constructor
          · rintro ⟨rest, rfl, h⟩
            cases answer <;> obtain ⟨rfl, rfl⟩ := converses_pure.mp h <;>
              exact ⟨rfl, rfl⟩
          · rintro ⟨rfl, rfl⟩
            refine ⟨[], rfl, ?_⟩
            cases answer <;> exact .done _

theorem converses_socketGetOption {option : OptionName} {scope : Scope}
    {result : Except ChannelError OptionValue} :
    (Socket.getOption fd scope option).Converses exchanges result ↔
      match option.resolve scope with
      | .error error => exchanges = [] ∧ result = .error error
      | .ok descriptor => ∃ answer : Except OsError Payload,
          exchanges = [⟨.getOption fd descriptor.level descriptor.number
            descriptor.form, answer⟩] ∧
          result = (answer.map Payload.decode).mapError .socket := by
  rw [Socket.getOption]
  cases option.resolve scope with
  | error error => exact converses_pure
  | ok descriptor =>
      refine converses_call_bind.trans (exists_congr fun answer => ?_)
      constructor
      · rintro ⟨rest, rfl, h⟩
        cases answer <;> obtain ⟨rfl, rfl⟩ := converses_pure.mp h <;>
          exact ⟨rfl, rfl⟩
      · rintro ⟨rfl, rfl⟩
        refine ⟨[], rfl, ?_⟩
        cases answer <;> exact .done _

end Program

namespace Channel

open Program

variable {fd : Fd} {exchanges : List Exchange}

theorem checkSupported_bind {α : Type} {option : OptionName}
    {operation : Operating α} :
    (do
      checkSupported option
      operation) =
      if option ∈ supportedOptions then operation
      else throw (.unsupportedOption option) := by
  rw [checkSupported]
  split <;> rfl

/-- A typed write says what a plain write of the same integer says. -/
theorem converses_setOption {setting : Setting}
    {result : Except ChannelError Unit} :
    (setOption fd setting).run.Converses exchanges result ↔
      if setting.option.name ∈ supportedOptions then
        (Socket.setOption fd setting.option.scope setting.option.name
          (.int setting.raw)).Converses exchanges result
      else exchanges = [] ∧
        result = .error (.unsupportedOption setting.option.name) := by
  rw [setOption, checkSupported_bind]
  split
  · obtain ⟨descriptor, resolved⟩ := setting.option.resolve_isOk
    refine converses_section.trans ?_
    cases setting with
    | switch option value => exact Iff.rfl
    | int option value =>
        refine Iff.trans ?_ converses_socketSetOption.symm
        cases hnormal : option.name.normalise value with
        | error error =>
            have hplace : (Setting.int option value).option.name.place
                (Setting.int option value).option.scope
                (.int (Setting.int option value).raw) = .error error :=
              OptionName.place_of_rejected resolved hnormal
            rw [Setting.encode, hnormal, hplace]
            exact converses_pure
        | ok normal =>
            have hplace : (Setting.int option value).option.name.place
                (Setting.int option value).option.scope
                (.int (Setting.int option value).raw) =
                  option.name.place option.scope (.int normal) :=
              (OptionName.place_normal hnormal).symm
            rw [Setting.encode, hnormal, hplace]
            exact converses_socketSetOption
  · exact converses_run_throw

/-- A typed read asks what a plain read asks. -/
theorem converses_getOption {option : TypedOption}
    {result : Except ChannelError Reading} :
    (getOption fd option).run.Converses exchanges result ↔
      if option.name ∈ supportedOptions then
        ∃ value : Except ChannelError OptionValue,
          (Socket.getOption fd option.scope option.name).Converses exchanges
            value ∧ result = value.map option.decode
      else exchanges = [] ∧
        result = .error (.unsupportedOption option.name) := by
  rw [getOption, checkSupported_bind]
  split
  · refine converses_section.trans (converses_run_bind.trans ?_)
    rw [ExceptT.run_mk]
    constructor
    · rintro (⟨first, value, _, rfl, h, h'⟩ | ⟨error, h, rfl⟩)
      · obtain ⟨rfl, rfl⟩ := converses_pure.mp h'
        exact ⟨.ok value, by simpa using h, rfl⟩
      · exact ⟨.error error, h, rfl⟩
    · rintro ⟨error | value, h, rfl⟩
      · exact .inr ⟨error, h, rfl⟩
      · exact .inl ⟨exchanges, value, [], by simp, h, .done _⟩
  · exact converses_run_throw

end Channel

/-! ## Histories of accesses -/

/-- A write of an option: of a typed one through a channel, or of any on the
descriptor. -/
inductive Write where
  | typed (setting : Setting)
  | plain (option : OptionName) (scope : Scope) (value : OptionValue)

namespace Write

def option : Write → OptionName
  | typed setting => setting.option.name
  | plain option _ _ => option

def scope : Write → Scope
  | typed setting => setting.option.scope
  | plain _ scope _ => scope

def value : Write → OptionValue
  | typed setting => .int setting.raw
  | plain _ _ value => value

def program (fd : Fd) : Write → Program (Except ChannelError Unit)
  | typed setting => (Channel.setOption fd setting).run
  | plain option scope value => Socket.setOption fd scope option value

end Write

inductive Read where
  | typed (option : TypedOption)
  | plain (option : OptionName) (scope : Scope)

namespace Read

def option : Read → OptionName
  | typed option => option.name
  | plain option _ => option

def scope : Read → Scope
  | typed option => option.scope
  | plain _ scope => scope

/-- Channels only know some of the options. -/
def IsSupported : Read → Prop
  | typed option => option.name ∈ Channel.supportedOptions
  | plain _ _ => True

abbrev Result : Read → Type
  | typed _ => Reading
  | plain _ _ => OptionValue

/-- The read's result for a value of its option. -/
def present : (read : Read) → OptionValue → read.Result
  | typed option, value => option.decode value
  | plain _ _, value => value

def program (fd : Fd) : (read : Read) →
    Program (Except ChannelError read.Result)
  | typed option => (Channel.getOption fd option).run
  | plain option scope => Socket.getOption fd scope option

end Read

/-- An access to an option of an open channel, with what it said to the system
and how it ended. -/
inductive Access where
  | wrote (write : Write) (exchanges : List Exchange)
      (result : Except ChannelError Unit)
  | asked (read : Read) (exchanges : List Exchange)
      (result : Except ChannelError read.Result)

namespace Access

def exchanges : Access → List Exchange
  | wrote _ exchanges _ | asked _ exchanges _ => exchanges

/-- The access went as its program may go. -/
def Happens (fd : Fd) : Access → Prop
  | wrote write exchanges result =>
      (write.program fd).Converses exchanges result
  | asked read exchanges result => (read.program fd).Converses exchanges result

/-- The integer that the access has set the option to. -/
def accepted? (option : OptionName) (scope : Scope) : Access → Option Int
  | wrote write _ (.ok ()) =>
      if write.option = option ∧ write.scope = scope then
        match write.value with
        | .int value => some value
        | .credentials _ => none
      else none
  | _ => none

end Access

/-- The payload that the exchange has set at a level and number. -/
def Exchange.payload? (fd : Fd) (level number : Int) :
    Exchange → Option Payload
  | ⟨.setOption other level' number' payload, .ok ()⟩ =>
      if other = fd ∧ level' = level ∧ number' = number then some payload
      else none
  | _ => none

/-- The integer that the option was last set to. -/
def lastAccepted? (option : OptionName) (scope : Scope)
    (history : List Access) : Option Int :=
  history.reverse.findSome? (Access.accepted? option scope)

def lastPayload? (fd : Fd) (level number : Int)
    (exchanges : List Exchange) : Option Payload :=
  exchanges.reverse.findSome? (Exchange.payload? fd level number)

/-- Whoever asks for what has been set is given what was set last. -/
def Remembers (fd : Fd) (exchanges : List Exchange) : Prop :=
  ∀ before level number form answer after,
    exchanges = before ++ ⟨.getOption fd level number form, answer⟩ :: after →
      ∀ payload, lastPayload? fd level number before = some payload →
        answer = .ok payload

/-- The read comes after its option has been set, to this integer at last, and
ends with this result. -/
def FindsSet (history : List Access) (read : Read) (value : Int)
    (result : Except ChannelError read.Result) : Prop :=
  ∃ before exchanges after,
    history = before ++ .asked read exchanges result :: after ∧
      lastAccepted? read.option read.scope before = some value

section History

variable {fd : Fd} {history : List Access} {access : Access}
  {option : OptionName} {scope : Scope} {exchanges : List Exchange}

theorem lastAccepted?_append :
    lastAccepted? option scope (history ++ [access]) =
      (access.accepted? option scope).or
        (lastAccepted? option scope history) := by
  simp [lastAccepted?, List.findSome?_cons]
  cases access.accepted? option scope <;> rfl

theorem lastPayload?_append {level number : Int} {more : List Exchange} :
    lastPayload? fd level number (exchanges ++ more) =
      (lastPayload? fd level number more).or
        (lastPayload? fd level number exchanges) := by
  simp [lastPayload?, List.findSome?_append]

theorem Write.converses {write : Write} {result : Except ChannelError Unit}
    (h : (write.program fd).Converses exchanges result) :
    (Socket.setOption fd write.scope write.option write.value).Converses
        exchanges result ∨
      exchanges = [] ∧ result = .error (.unsupportedOption write.option) := by
  cases write with
  | plain option scope value => exact .inl h
  | typed setting =>
      have hcases := Channel.converses_setOption.mp h
      split at hcases
      · exact .inl hcases
      · exact .inr hcases

/-- A write is refused without a word, or makes one call, with a payload of the
form that reading asks for. -/
theorem Write.outcome {write : Write} {result : Except ChannelError Unit}
    (h : (write.program fd).Converses exchanges result) :
    (exchanges = [] ∧ ∃ error, result = .error error) ∨
      ∃ (descriptor : Descriptor) (payload : Payload) (value : Int)
        (answer : Except OsError Unit),
        write.option.resolve write.scope = .ok descriptor ∧
        write.value = .int value ∧ payload.form = descriptor.form ∧
        payload.decode = .int (write.option.held value) ∧
        exchanges = [⟨.setOption fd descriptor.level descriptor.number
          payload, answer⟩] ∧ result = answer.mapError .socket := by
  obtain h | ⟨rfl, rfl⟩ := Write.converses h
  · have hcases := Program.converses_socketSetOption.mp h
    split at hcases
    · exact .inl ⟨hcases.1, _, hcases.2⟩
    · rename_i descriptor payload placed
      obtain ⟨answer, hexchanges, hresult⟩ := hcases
      obtain ⟨resolved, encoded⟩ := OptionName.place_eq_ok placed
      obtain ⟨hform, value, hvalue, decoded⟩ :=
        OptionName.decode_of_encode resolved encoded
      exact .inr ⟨descriptor, payload, value, answer, resolved, hvalue, hform,
        decoded, hexchanges, hresult⟩
  · exact .inl ⟨rfl, _, rfl⟩

/-- A read is refused without a word, or is one call. -/
theorem Read.outcome {read : Read} {result : Except ChannelError read.Result}
    (h : (read.program fd).Converses exchanges result) :
    (exchanges = [] ∧ (read.IsSupported →
        ∃ error, read.option.resolve read.scope = .error error)) ∨
      ∃ (descriptor : Descriptor) (answer : Except OsError Payload),
        read.option.resolve read.scope = .ok descriptor ∧
        exchanges = [⟨.getOption fd descriptor.level descriptor.number
          descriptor.form, answer⟩] ∧
        result = ((answer.map Payload.decode).mapError .socket).map
          read.present := by
  have hplain : (∃ value,
      (Socket.getOption fd read.scope read.option).Converses exchanges value ∧
        result = value.map read.present) ∨
      exchanges = [] ∧ ¬read.IsSupported := by
    cases read with
    | plain option scope => exact .inl ⟨result, h, by cases result <;> rfl⟩
    | typed option =>
        have hcases := Channel.converses_getOption.mp h
        split at hcases
        · exact .inl hcases
        · exact .inr ⟨hcases.1, ‹_›⟩
  obtain ⟨value, hvalue, rfl⟩ | ⟨rfl, unsupported⟩ := hplain
  · have hcases := Program.converses_socketGetOption.mp hvalue
    split at hcases
    · exact .inl ⟨hcases.1, fun _ => ⟨_, ‹_›⟩⟩
    · obtain ⟨answer, hexchanges, rfl⟩ := hcases
      exact .inr ⟨_, answer, ‹_›, hexchanges, rfl⟩
  · exact .inl ⟨rfl, fun supported => absurd supported unsupported⟩

/-- A write that fails says nothing, or fails as its call does. -/
theorem Write.silent_of_error {write : Write} {error : ChannelError}
    (h : (write.program fd).Converses exchanges (.error error)) :
    exchanges = [] ∨ ∃ failure, error = .socket failure := by
  obtain ⟨rfl, _⟩ | ⟨_, _, _, answer, _, _, _, _, _, hresult⟩ :=
    Write.outcome h
  · exact .inl rfl
  · cases answer with
    | ok => cases hresult
    | error failure => exact .inr ⟨failure, Except.error.inj hresult⟩

/-- Reading asks at the place of the write for the form of its payload. -/
theorem Write.form_asked {write : Write} {result : Except ChannelError Unit}
    (h : (write.program fd).Converses exchanges result) {exchange : Exchange}
    (hexchange : exchange ∈ exchanges) :
    ∃ level number payload,
      exchange.call = .setOption fd level number payload ∧
      ∀ (read : Read) asked reading,
        (read.program fd).Converses asked reading →
          read.option = write.option → read.scope = write.scope →
            ∀ question ∈ asked,
              question.call = .getOption fd level number payload.form := by
  obtain ⟨rfl, _⟩ | ⟨descriptor, payload, _, answer, resolved, _, hform, _,
    rfl, _⟩ := Write.outcome h
  · cases hexchange
  obtain rfl := List.mem_singleton.mp hexchange
  refine ⟨_, _, payload, rfl, fun read asked reading hread hoption hscope
    question hquestion => ?_⟩
  obtain ⟨rfl, _⟩ | ⟨found, _, resolved', rfl, _⟩ := Read.outcome hread
  · cases hquestion
  obtain rfl := List.mem_singleton.mp hquestion
  rw [hoption, hscope, resolved] at resolved'
  obtain rfl := Except.ok.inj resolved'
  rw [hform]

/-- What an access sets at the place of an option is what it sets the option
to. -/
theorem Access.keeps {descriptor : Descriptor} (happens : access.Happens fd)
    (resolved : option.resolve scope = .ok descriptor) :
    (lastPayload? fd descriptor.level descriptor.number access.exchanges).map
        Payload.decode =
      (access.accepted? option scope).map fun value =>
        .int (option.held value) := by
  cases access with
  | asked read exchanges result =>
      obtain ⟨hexchanges, _⟩ | ⟨_, answer, _, hexchanges, _⟩ :=
        Read.outcome happens
      · simp only [Access.exchanges, hexchanges]
        rfl
      · simp only [Access.exchanges, hexchanges]
        rfl
  | wrote write exchanges result =>
      obtain ⟨hexchanges, error, rfl⟩ | ⟨found, payload, value, answer,
        resolved', hvalue, -, decoded, hexchanges, rfl⟩ := Write.outcome happens
      · simp only [Access.exchanges, hexchanges]
        rfl
      · simp only [Access.exchanges, hexchanges]
        cases answer with
        | error error => rfl
        | ok =>
            by_cases hplace : write.option = option ∧ write.scope = scope
            · obtain ⟨rfl, rfl⟩ := hplace
              obtain rfl := Except.ok.inj (resolved.symm.trans resolved')
              simp [lastPayload?, Exchange.payload?, accepted?, hvalue, decoded,
                Except.mapError]
            · have hapart : ¬(found.level = descriptor.level ∧
                  found.number = descriptor.number) := fun h =>
                hplace (OptionName.resolve_inj resolved' resolved h.1 h.2)
              simp [lastPayload?, Exchange.payload?, accepted?, hplace, hapart,
                Except.mapError]

theorem lastPayload?_history {descriptor : Descriptor}
    (happens : ∀ access ∈ history, access.Happens fd)
    (resolved : option.resolve scope = .ok descriptor) :
    (lastPayload? fd descriptor.level descriptor.number
        (history.flatMap Access.exchanges)).map Payload.decode =
      (lastAccepted? option scope history).map fun value =>
        .int (option.held value) := by
  induction history using List.reverseRecOn with
  | nil => rfl
  | append_singleton history access ih =>
      have hbefore := ih fun access hmem =>
        happens access (List.mem_append_left _ hmem)
      have hnow := Access.keeps (happens access (by simp)) resolved
      rw [List.flatMap_append, List.flatMap_singleton, lastPayload?_append,
        lastAccepted?_append, Option.map_or, Option.map_or, hnow, hbefore]

/-- An option that has been set is known. -/
theorem resolve_of_lastAccepted? {value : Int}
    (happens : ∀ access ∈ history, access.Happens fd)
    (last : lastAccepted? option scope history = some value) :
    ∃ descriptor, option.resolve scope = .ok descriptor := by
  obtain ⟨access, hmem, haccepted⟩ := List.exists_of_findSome?_eq_some last
  have hhappens := happens access (List.mem_reverse.mp hmem)
  cases access with
  | asked => cases haccepted
  | wrote write exchanges result =>
      obtain ⟨_, error, rfl⟩ |
        ⟨found, _, _, answer, resolved, _, _, _, _, rfl⟩ :=
        Write.outcome hhappens
      · cases haccepted
      · cases answer with
        | error => cases haccepted
        | ok =>
            simp only [Access.accepted?, Except.mapError] at haccepted
            split at haccepted
            · rename_i hplace
              exact ⟨found, hplace.1 ▸ hplace.2 ▸ resolved⟩
            · cases haccepted

/-- A read asks where its option has been set, and is given what was set. -/
theorem FindsSet.eq_present {read : Read} {value : Int}
    {result : Except ChannelError read.Result}
    (found : FindsSet history read value result)
    (happens : ∀ access ∈ history, access.Happens fd)
    (remembers : Remembers fd (history.flatMap Access.exchanges))
    (supported : read.IsSupported) :
    result = .ok (read.present (.int (read.option.held value))) := by
  obtain ⟨before, exchanges, after, rfl, last⟩ := found
  have hbefore : ∀ access ∈ before, access.Happens fd := fun access hmem =>
    happens access (List.mem_append_left _ hmem)
  have hread : (read.program fd).Converses exchanges result :=
    happens (.asked read exchanges result) (by simp)
  obtain ⟨descriptor, resolved⟩ := resolve_of_lastAccepted? hbefore last
  obtain ⟨_, unknown⟩ | ⟨found, answer, resolved', hexchanges, rfl⟩ :=
    Read.outcome hread
  · obtain ⟨error, herror⟩ := unknown supported
    rw [resolved] at herror
    cases herror
  · obtain rfl := Except.ok.inj (resolved.symm.trans resolved')
    have hkept := lastPayload?_history hbefore resolved
    rw [last, Option.map_some, Option.map_eq_some_iff] at hkept
    obtain ⟨payload, hpayload, decoded⟩ := hkept
    have hanswer := remembers (before.flatMap Access.exchanges)
      descriptor.level descriptor.number descriptor.form answer
      (after.flatMap Access.exchanges)
      (by simp [Access.exchanges, hexchanges]) payload hpayload
    rw [hanswer]
    simp only [Except.map, Except.mapError, decoded]

end History

theorem Read.present_switch (option : SwitchOption) (value : Int) :
    (Read.typed (.switch option)).present (.int (option.name.held value)) =
      .switch (value != 0) := by
  cases option <;> rfl

/-- In every history of accesses to the options of an open channel: an option
that has been set reads as the integer that was last accepted for it, brought
into its range, whatever has been written to others; a switch, as whether that
is zero or not, and so as the truth value that it was set to.  A write that is
refused makes no call, and the payload of any other has the form that reading
asks for at the same place.  A typed write goes as the plain write of its
integer does. -/
theorem option_reads_as_set {fd : Fd} {history : List Access}
    (happens : ∀ access ∈ history, access.Happens fd)
    (remembers : Remembers fd (history.flatMap Access.exchanges)) :
    (∀ option scope value result,
      FindsSet history (.plain option scope) value result →
        result = .ok (.int (option.held value))) ∧
      (∀ (option : IntOption) value result,
        option.name ∈ Channel.supportedOptions →
          FindsSet history (.typed (.int option)) value result →
            result = .ok (.int (option.name.held value))) ∧
      (∀ (option : SwitchOption) value result,
        option.name ∈ Channel.supportedOptions →
          FindsSet history (.typed (.switch option)) value result →
            result = .ok (.switch (value != 0))) ∧
      (∀ (option : SwitchOption) isOn result,
        option.name ∈ Channel.supportedOptions →
          FindsSet history (.typed (.switch option))
              (Setting.switch option isOn).raw result →
            result = .ok (.switch isOn)) ∧
      (∀ write exchanges error,
        .wrote write exchanges (.error error) ∈ history →
          (∀ option value fault,
              error = .invalidArgument option value fault →
            exchanges = []) ∧
          (∀ option, error = .unsupportedOption option → exchanges = [])) ∧
      (∀ write exchanges result, .wrote write exchanges result ∈ history →
        ∀ exchange ∈ exchanges, ∃ level number payload,
          exchange.call = .setOption fd level number payload ∧
          ∀ read asked reading, .asked read asked reading ∈ history →
            read.option = write.option → read.scope = write.scope →
              ∀ question ∈ asked,
                question.call = .getOption fd level number payload.form) ∧
      ∀ setting : Setting, setting.option.name ∈ Channel.supportedOptions →
        ∀ exchanges result,
          ((Write.typed setting).program fd).Converses exchanges result ↔
            ((Write.plain setting.option.name setting.option.scope
              (.int setting.raw)).program fd).Converses exchanges result := by
  have switched : ∀ (option : SwitchOption) value result,
      option.name ∈ Channel.supportedOptions →
        FindsSet history (.typed (.switch option)) value result →
          result = .ok (.switch (value != 0)) :=
    fun option value _ supported found =>
      (found.eq_present happens remembers supported).trans
        (congrArg Except.ok (Read.present_switch option value))
  refine ⟨fun _ _ _ _ found => found.eq_present happens remembers trivial,
    fun _ _ _ supported found => found.eq_present happens remembers supported,
    switched, fun option isOn result supported found => ?_, ?_, ?_, ?_⟩
  · rw [switched option _ result supported found]
    cases isOn <;> rfl
  · intro write exchanges error hmem
    obtain rfl | ⟨failure, rfl⟩ := Write.silent_of_error (happens _ hmem)
    · exact ⟨fun _ _ _ _ => rfl, fun _ _ => rfl⟩
    · exact ⟨nofun, nofun⟩
  · intro write exchanges result hmem exchange hexchange
    obtain ⟨level, number, payload, hcall, asks⟩ :=
      Write.form_asked (happens _ hmem) hexchange
    exact ⟨level, number, payload, hcall, fun read asked reading hread =>
      asks read asked reading (happens _ hread)⟩
  · intro setting supported exchanges result
    exact Channel.converses_setOption.trans (by rw [if_pos supported]; rfl)

/-- A linger time is clamped, a negative size is refused, and the timeout is set
by name and read as a typed option. -/
def settingHistory : List Access :=
  [.wrote (.typed (.int .linger 100000))
      [⟨.setOption 3 1 13 (.linger (some 65535)), .ok ()⟩] (.ok ()),
    .wrote (.typed (.int .sendBuffer (-1))) []
      (.error (.invalidArgument .sendBufferSize (-1) .negativeSendBuffer)),
    .wrote (.plain .keepAlive .unspecified (.int 1))
      [⟨.setOption 3 1 9 (.int 1), .ok ()⟩] (.ok ()),
    .asked (.typed (.int .linger))
      [⟨.getOption 3 1 13 .linger, .ok (.linger (some 65535))⟩]
      (.ok (.int 65535)),
    .asked (.typed (.switch .keepAlive))
      [⟨.getOption 3 1 9 .int, .ok (.int 1)⟩] (.ok (.switch true))]

theorem settingHistory_happens :
    ∀ access ∈ settingHistory, access.Happens 3 := by
  simp only [settingHistory, List.forall_mem_cons]
  refine ⟨?_, ?_, ?_, ?_, ?_, by simp⟩
  · refine Channel.converses_setOption.mpr ?_
    rw [if_pos (by decide)]
    exact Program.converses_socketSetOption.mpr ⟨.ok (), rfl, rfl⟩
  · refine Channel.converses_setOption.mpr ?_
    rw [if_pos (by decide)]
    exact Program.converses_socketSetOption.mpr ⟨rfl, rfl⟩
  · show (Socket.setOption 3 .unspecified .keepAlive (.int 1)).Converses _ _
    exact Program.converses_socketSetOption.mpr ⟨.ok (), rfl, rfl⟩
  · refine Channel.converses_getOption.mpr ?_
    rw [if_pos (by decide)]
    exact ⟨.ok (.int 65535), Program.converses_socketGetOption.mpr
      ⟨.ok (.linger (some 65535)), rfl, rfl⟩, rfl⟩
  · refine Channel.converses_getOption.mpr ?_
    rw [if_pos (by decide)]
    exact ⟨.ok (.int 1), Program.converses_socketGetOption.mpr
      ⟨.ok (.int 1), rfl, rfl⟩, rfl⟩

theorem settingHistory_remembers :
    Remembers 3 (settingHistory.flatMap Access.exchanges) := by
  rintro before level number form answer after h payload last
  rcases before with _ | ⟨first, _ | ⟨second, _ | ⟨third, _ | ⟨_, rest⟩⟩⟩⟩
  · cases h
  · cases h
  · cases h
    exact congrArg Except.ok (Option.some.inj last)
  · cases h
    exact congrArg Except.ok (Option.some.inj last)
  · cases rest <;> cases h

theorem clamped_linger_reads_as_set :
    (∀ access ∈ settingHistory, access.Happens 3) ∧
      Remembers 3 (settingHistory.flatMap Access.exchanges) ∧
      FindsSet settingHistory (.typed (.int .linger)) 100000
        (.ok (.int 65535)) ∧
      (.ok (.int 65535) : Except ChannelError Reading) =
        .ok (.int (OptionName.linger.held 100000)) := by
  have found : FindsSet settingHistory (.typed (.int .linger)) 100000
      (.ok (.int 65535)) :=
    ⟨settingHistory.take 3, _, settingHistory.drop 4, rfl, rfl⟩
  exact ⟨settingHistory_happens, settingHistory_remembers, found,
    (option_reads_as_set settingHistory_happens settingHistory_remembers).2.1
      .linger 100000 _ (by decide) found⟩

end LocalSocket
