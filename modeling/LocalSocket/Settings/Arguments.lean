import LocalSocket.Settings.Basic

/-!
# Settings on a command line

A number is given as "--name value" or "--name=value", a switch as "--name", and
each of them once.  Nothing but the linger time may be negative when it stands
in an argument of its own, since an argument with a dash in front is otherwise
taken for a flag.

A value is checked once the next flag has been recognised, or at the end, so
that an unknown argument behind it is reported first.
-/

namespace LocalSocket.Settings

inductive ArgumentError where
  | unknownArgument | argumentConflict | tooManyValues | valueValidation
  | invalidValue | displayHelp
  deriving DecidableEq, Repr

def ArgumentError.name : ArgumentError → String
  | .unknownArgument => "UnknownArgument"
  | .argumentConflict => "ArgumentConflict"
  | .tooManyValues => "TooManyValues"
  | .valueValidation => "ValueValidation"
  | .invalidValue => "InvalidValue"
  | .displayHelp => "DisplayHelp"

private def digitsValue? : List Char → Option Int
  | [] => none
  | digits =>
      if digits.all fun c => decide ('0' ≤ c ∧ c ≤ '9') then
        some
          (digits.foldl (fun value c => value * 10 + (c.toNat - 0x30)) 0 : Nat)
      else none

private def intValue? (text : String) : Option Int :=
  let value :=
    match text.toList with
    | '-' :: digits => (digitsValue? digits).map (- ·)
    | '+' :: digits => digitsValue? digits
    | digits => digitsValue? digits
  value.filter fun value => decide (-0x80000000 ≤ value ∧ value < 0x80000000)

/-- The arguments read so far.  A number that has been named but not stored is
`pending`, with its value if that has been read. -/
private structure Progress where
  settings : Settings := {}
  given : List Key := []
  pending : Option (Amount × Option String) := none

namespace Progress

private def storeSwitch (progress : Progress) (key : Switch) :
    Except ArgumentError Progress :=
  if .switch key ∈ progress.given then .error .argumentConflict
  else .ok
    { progress with
      settings := progress.settings.putSwitch key true
      given := .switch key :: progress.given }

private def storeAmount (progress : Progress) (key : Amount) (value : String) :
    Except ArgumentError Progress :=
  if .amount key ∈ progress.given then .error .argumentConflict
  else
    match intValue? value with
    | none => .error .valueValidation
    | some value => .ok
        { progress with
          settings := progress.settings.putAmount key value
          given := .amount key :: progress.given }

private def resolve (progress : Progress) : Except ArgumentError Progress :=
  match progress.pending with
  | none => .ok progress
  | some (_, none) => .error .invalidValue
  | some (key, some value) =>
      { progress with pending := none }.storeAmount key value

private def expecting? (progress : Progress) : Option Amount :=
  match progress.pending with
  | some (key, none) => some key
  | _ => none

end Progress

private def splitFlag (text : List Char) : String × Option String :=
  match text.dropWhile (· ≠ '=') with
  | '=' :: value =>
      (String.ofList (text.takeWhile (· ≠ '=')), some (String.ofList value))
  | _ => (String.ofList text, none)

private def longFlag (progress : Progress) (text : List Char) :
    Except ArgumentError Progress :=
  let (name, value) := splitFlag text
  match Key.ofFlag? name, value with
  | some (.amount key), some value => do
      let progress ← progress.resolve
      progress.storeAmount key value
  | some (.amount key), none => do
      let progress ← progress.resolve
      pure { progress with pending := some (key, none) }
  | some (.switch _), some _ => .error .tooManyValues
  | some (.switch key), none => do
      let progress ← progress.resolve
      progress.storeSwitch key
  | none, value =>
      if name = "help" then
        if value.isSome then .error .tooManyValues
        else progress.resolve.bind fun _ => .error .displayHelp
      else .error .unknownArgument

private def argument (progress : Progress) (text : String) :
    Except ArgumentError Progress :=
  let asValue : Except ArgumentError Progress :=
    match progress.expecting? with
    | some key => .ok { progress with pending := some (key, some text) }
    | none => .error .unknownArgument
  if progress.expecting? = some .linger then asValue
  else
    match text.toList with
    | '-' :: '-' :: rest => longFlag progress rest
    | '-' :: 'h' :: _ => progress.resolve.bind fun _ => .error .displayHelp
    | '-' :: _ :: _ => .error .unknownArgument
    | _ => asValue

/-- Reads the arguments from the front; nothing may follow an argument "--". -/
private def arguments (progress : Progress) :
    List String → Except ArgumentError Progress
  | [] => progress.resolve
  | text :: rest =>
      if text = "--" ∧ progress.expecting? ≠ some .linger then
        if rest.isEmpty then progress.resolve else .error .unknownArgument
      else do
        let progress ← argument progress text
        arguments progress rest

def ofArguments (args : List String) : Except ArgumentError Settings :=
  (arguments {} args).map (·.settings)

end LocalSocket.Settings
