import LocalSocket.Channel.Close

/-!
# Registrations

A selector that has registered a channel holds a registration, which it gives up
once: by deregistering the channel, or by dropping the registration.  Whoever
deregisters drops the registration, too; that there is nothing left to give up
then is what the registration knows.
-/

namespace LocalSocket.Channel

structure Registration where
  isActive : Bool := true
  deriving DecidableEq, Repr

namespace Registration

/-- Gives up the registration, unless that has been done before. -/
def release (registration : Registration) :
    Program (Except ChannelError Unit × Registration) :=
  if registration.isActive then do
    let result ← Channel.deregister.run
    pure (result, { registration with isActive := false })
  else
    pure (.ok (), registration)

/-- Nobody is told of a failure. -/
def drop (registration : Registration) : Operating Unit :=
  ExceptT.lift do
    let _ ← registration.release
    pure ()

/-- The registration is dropped at the end. -/
def deregister (registration : Registration) : Operating Unit :=
  ExceptT.mk do
    let (result, registration) ← registration.release
    let _ ← registration.drop.run
    pure result

end Registration

end LocalSocket.Channel
