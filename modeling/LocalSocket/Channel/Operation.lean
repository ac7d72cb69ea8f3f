import LocalSocket.Channel.Describe
import LocalSocket.Channel.Transfer

/-!
# The operations on a channel as data

An operation with its arguments, and what it replies.
-/

namespace LocalSocket.Channel

inductive Operation where
  | connect (address : Address)
  | finishConnect
  | bind (address : Option Address)
  | configureBlocking (blocking : Bool)
  | close
  | shutdown (direction : Direction)
  | apply (settings : Settings)
  | read (window : Window)
  | write (window : Window)
  | readMany (windows : List Window)
  | writeMany (windows : List Window)
  | receive (length : Nat)
  | send (bytes : Bytes)
  | flush
  | poll (interest : Interest) (timeout : Option Duration)
  | ready (events : Events) (interest : Interest)
  | register
  | deregister
  /-- Gives up a registration and ignores how that ends. -/
  | dropRegistration
  | getOption (option : TypedOption)
  | setOption (setting : Setting)
  | supportedOptions
  | credentials
  | localAddress
  | remoteAddress
  | text
  | inspect
  | flags
  | snapshot
  deriving DecidableEq, Repr

inductive Reply where
  | finished
  | failed (error : ChannelError)
  | isConnected (value : Bool)
  | moved (outcome : Except ChannelError IoStatus) (window : Window)
  | movedMany (outcome : Except ChannelError IoStatus) (windows : List Window)
  | received (count : Nat) (buffer : Bytes)
  | sent (count : Nat)
  | broken (error : OsError)
  | polled (status : PollStatus)
  | ready (operations : Interest)
  | reading (reading : Reading)
  | options (options : List OptionName)
  | credentials (peer : Option Credentials)
  | address (address : Option Address)
  | text (text : String)
  | flags (flags : Flags)
  | snapshot (status : Status)

def reply {α : Type} (make : α → Reply) (operation : Operating α) :
    Program Reply := do
  match ← operation.run with
  | .ok value => pure (make value)
  | .error error => pure (.failed error)

namespace Operation

def program (fd : Fd) : Operation → Program Reply
  | .connect address => reply .isConnected (Channel.connect fd address)
  | .finishConnect => reply .isConnected (Channel.finishConnect fd)
  | .bind address => reply (fun _ => .finished) (Channel.bind fd address)
  | .configureBlocking blocking =>
      reply (fun _ => .finished) (Channel.configureBlocking fd blocking)
  | .close => reply (fun _ => .finished) Channel.close
  | .shutdown direction =>
      reply (fun _ => .finished) (Channel.shutdown fd direction)
  | .apply settings => reply (fun _ => .finished) (Channel.apply fd settings)
  | .read window => do
      let (outcome, window) ← Channel.read fd window
      pure (.moved outcome window)
  | .write window => do
      let (outcome, window) ← Channel.write fd window
      pure (.moved outcome window)
  | .readMany windows => do
      let (outcome, windows) ← Channel.readMany fd windows
      pure (.movedMany outcome windows)
  | .writeMany windows => do
      let (outcome, windows) ← Channel.writeMany fd windows
      pure (.movedMany outcome windows)
  | .receive length => do
      match ← Channel.receive fd length with
      | (.ok count, buffer) => pure (.received count buffer)
      | (.error error, _) => pure (.broken error)
  | .send bytes => do
      match ← Channel.send fd bytes with
      | .ok count => pure (.sent count)
      | .error error => pure (.broken error)
  | .flush => pure .finished
  | .poll interest timeout => reply .polled (Channel.poll fd interest timeout)
  | .ready events interest => return .ready (← Channel.ready events interest)
  | .register => reply (fun _ => .finished) Channel.register
  | .deregister => reply (fun _ => .finished) Channel.deregister
  | .dropRegistration =>
      reply (fun _ => .finished) (Operating.quietly Channel.deregister)
  | .getOption option => reply .reading (Channel.getOption fd option)
  | .setOption setting =>
      reply (fun _ => .finished) (Channel.setOption fd setting)
  | .supportedOptions => pure (.options Channel.supportedOptions)
  | .credentials => reply .credentials (Channel.credentials fd)
  | .localAddress => reply .address Channel.localAddress
  | .remoteAddress => reply .address (Channel.remoteAddress fd)
  | .text => return .text (← Channel.text)
  | .inspect => return .text (← Channel.inspect fd)
  | .flags => return .flags (← Channel.flags fd)
  | .snapshot => return .snapshot (← Channel.snapshot)

def locks : Operation → List Lock
  | .connect _ | .finishConnect | .bind _ | .configureBlocking _ | .apply _ =>
      [.read, .write]
  | .read _ | .readMany _ | .receive _ | .poll _ _ => [.read]
  | .write _ | .writeMany _ | .send _ => [.write]
  | _ => []

end Operation

end LocalSocket.Channel
