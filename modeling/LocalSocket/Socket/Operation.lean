import LocalSocket.Socket

/-!
# The operations on a socket as data

An operation on a plain descriptor with its arguments, and what it replies.
-/

namespace LocalSocket.Socket

inductive Operation where
  | read (window : Window)
  | write (window : Window)
  | readMany (windows : List Window)
  | writeMany (windows : List Window)
  | connect (address : Address)
  | bind (address : Address)
  | close
  | setBlocking (blocking : Bool)
  | shutdown (how : Shutdown)
  | poll (events : Events) (timeout : Int)
  | localRecord
  | peerRecord
  | getOption (scope : Scope) (option : OptionName)
  | setOption (scope : Scope) (option : OptionName) (value : OptionValue)
  deriving DecidableEq, Repr

inductive Reply where
  | moved (outcome : Except OsError IoStatus) (window : Window)
  | movedMany (outcome : Except OsError IoStatus) (windows : List Window)
  | refused (error : ChannelError)
  | attempted (outcome : Except OsError ConnectStatus)
  | finished (outcome : Except OsError Unit)
  | polled (outcome : Except OsError PollStatus)
  | record (outcome : Except OsError Record)
  | value (outcome : Except ChannelError OptionValue)
  | stored (outcome : Except ChannelError Unit)

def withRecord (address : Address) (use : Record → Program Reply) :
    Program Reply :=
  match Record.ofAddress address with
  | .ok record => use record
  | .error fault => pure (.refused (.invalidPath address.path fault))

def Operation.program (fd : Fd) : Operation → Program Reply
  | .read window => do
      let (outcome, window) ← Socket.read fd window
      pure (.moved outcome window)
  | .write window => do
      let (outcome, window) ← Socket.write fd window
      pure (.moved outcome window)
  | .readMany windows => do
      let (outcome, windows) ← Socket.readMany fd windows
      pure (.movedMany outcome windows)
  | .writeMany windows => do
      let (outcome, windows) ← Socket.writeMany fd windows
      pure (.movedMany outcome windows)
  | .connect address =>
      withRecord address
        fun record => return .attempted (← Socket.connect fd record)
  | .bind address =>
      withRecord address
        fun record => return .finished (← Socket.bind fd record)
  | .close => return .finished (← Socket.close fd)
  | .setBlocking blocking => return .finished (← Socket.setBlocking fd blocking)
  | .shutdown how => return .finished (← Socket.shutdown fd how)
  | .poll events timeout => return .polled (← Socket.poll fd events timeout)
  | .localRecord => return .record (← Socket.localRecord fd)
  | .peerRecord => return .record (← Socket.peerRecord fd)
  | .getOption scope option =>
      return .value (← Socket.getOption fd scope option)
  | .setOption scope option value =>
      return .stored (← Socket.setOption fd scope option value)

end LocalSocket.Socket
