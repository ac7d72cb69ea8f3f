import LocalSocket.Channel.Options

/-!
# Describing a channel

What a channel shows of itself: its flags, two texts, and which operations are
ready after events have been reported.
-/

namespace LocalSocket.Channel

def seeFields : Program Fields :=
  Program.holding .state (Program.perform .fields)

structure Status where
  state : Lifecycle
  isOpen : Bool
  isBlocking : Bool
  isBound : Bool
  isInputOpen : Bool
  isOutputOpen : Bool
  deriving DecidableEq, Repr

def status (channel : Channel) : Status where
  state := channel.fields.state
  isOpen := channel.isOpen
  isBlocking := channel.isBlocking
  isBound := channel.fields.localAddress.isSome
  isInputOpen := channel.fields.inputOpen
  isOutputOpen := channel.fields.outputOpen

/-- The summary as a program; each part is looked at on its own. -/
def snapshot : Program Status := do
  let state := (← seeFields).state
  let isOpen ← Program.perform .isOpen
  let isBlocking ← Program.perform .isBlocking
  let isBound := (← seeFields).localAddress.isSome
  let isInputOpen := (← seeFields).inputOpen
  let isOutputOpen := (← seeFields).outputOpen
  pure { state, isOpen, isBlocking, isBound, isInputOpen, isOutputOpen }

/-- What a channel tells of its connection, and its descriptor, which stays the
same when the channel is closed. -/
structure Flags where
  isConnected : Bool
  isConnectionPending : Bool
  state : Lifecycle
  fd : Fd
  deriving DecidableEq, Repr

def flags (fd : Fd) : Program Flags := do
  let isConnected := decide ((← seeFields).state = .connected)
  let isConnectionPending := decide ((← seeFields).state = .connecting)
  let state := (← seeFields).state
  pure { isConnected, isConnectionPending, state, fd }

/-! ## Texts -/

def textParts (fields : Fields) : List String :=
  (match fields.state with
    | .connecting => ["connection-pending"]
    | .connected =>
        ["connected"] ++ (if fields.inputOpen then [] else ["ishut"]) ++
          (if fields.outputOpen then [] else ["oshut"])
    | _ => ["unconnected"]) ++
  (fields.localAddress.map fun address =>
    "localAddress=" ++ address.text).toList ++
  (fields.remoteAddress.map fun address =>
    "remoteAddress=" ++ address.text).toList

def text : Program String := do
  if ← Program.perform .isOpen then
    let fields ← seeFields
    pure ("UnixChannel[" ++ String.intercalate " " (textParts fields) ++ "]")
  else
    pure "UnixChannel[closed]"

def inspectOptional : Option Address → String
  | none => "None"
  | some address => "Some(" ++ address.inspect ++ ")"

def inspect (fd : Fd) : Program String :=
  Program.holding .state do
    let fields ← Program.perform .fields
    let isOpen ← Program.perform .isOpen
    let isBlocking ← Program.perform .isBlocking
    let parts :=
      ["fd: " ++ toString fd, "open: " ++ toString isOpen,
        "blocking: " ++ toString isBlocking,
        "state: " ++ fields.state.name,
        "local: " ++ inspectOptional fields.localAddress,
        "remote: " ++ inspectOptional fields.remoteAddress, ".."]
    pure ("UnixChannel \x7b " ++ String.intercalate ", " parts ++ " \x7d")

/-! ## Readiness -/

/-- The operations of `interest` that are ready in a state.  An invalid
descriptor makes nothing ready, an error or hang-up everything. -/
def readyIn (state : Lifecycle) (events : Events) (interest : Interest) :
    Interest :=
  if Events.meets events Events.invalid then .none
  else if Events.meets events (Events.error ||| Events.hangUp) then interest
  else
    let isConnected := decide (state = .connected)
    let isUnconnected := decide (state = .unconnected ∨ state = .connecting)
    let part (event : Events) (operation : Interest) (condition : Bool) :
        Interest :=
      if Events.meets events event && interest.contains operation &&
          condition then operation
      else .none
    ((part Events.readable .read isConnected).union
      (part Events.writable .connect isUnconnected)).union
      (part Events.writable .write isConnected)

def ready (events : Events) (interest : Interest) : Program Interest := do
  -- The state is only looked at where it matters.
  if Events.meets events
      (Events.invalid ||| Events.error ||| Events.hangUp) then
    pure (readyIn .uninitialized events interest)
  else
    let fields ← seeFields
    pure (readyIn fields.state events interest)

end LocalSocket.Channel
