import LocalSocket.Bytes

/-!
# Settings

What the user of a program chooses for its channels.  A setting that is absent
leaves the system's default in place.
-/

namespace LocalSocket

structure Settings where
  sendBufferSize : Option Int := none
  receiveBufferSize : Option Int := none
  keepAlive : Bool := false
  linger : Option Int := none
  receiveTimeout : Option Int := none
  nonBlocking : Bool := false
  keepStale : Bool := false
  backlog : Option Int := none
  deriving DecidableEq, Repr

namespace Settings

/-- How many connections may wait to be accepted, unless the settings say
otherwise. -/
def defaultBacklog : Int := 128

inductive Amount where
  | sendBufferSize | receiveBufferSize | linger | receiveTimeout | backlog
  deriving DecidableEq, Repr

inductive Switch where
  | keepAlive | nonBlocking | keepStale
  deriving DecidableEq, Repr

inductive Key where
  | amount (key : Amount)
  | switch (key : Switch)
  deriving DecidableEq, Repr

namespace Key

def all : List Key :=
  [.amount .sendBufferSize, .amount .receiveBufferSize, .switch .keepAlive,
    .amount .linger, .amount .receiveTimeout, .switch .nonBlocking,
    .switch .keepStale, .amount .backlog]

def words : Key → List String
  | amount .sendBufferSize => ["send", "buffer", "size"]
  | amount .receiveBufferSize => ["receive", "buffer", "size"]
  | amount .linger => ["linger"]
  | amount .receiveTimeout => ["receive", "timeout"]
  | amount .backlog => ["listen", "socket", "backlog"]
  | switch .keepAlive => ["keep", "alive"]
  | switch .nonBlocking => ["non", "blocking"]
  | switch .keepStale => ["unix", "socket", "no", "unlink"]

def field (key : Key) : String :=
  String.intercalate "_" key.words

def flag (key : Key) : String :=
  String.intercalate "-" key.words

def ofField? (name : String) : Option Key :=
  all.find? fun key => key.field == name

def ofFlag? (name : String) : Option Key :=
  all.find? fun key => key.flag == name

end Key

def putAmount (settings : Settings) (key : Amount) (value : Option Int) :
    Settings :=
  match key with
  | .sendBufferSize => { settings with sendBufferSize := value }
  | .receiveBufferSize => { settings with receiveBufferSize := value }
  | .linger => { settings with linger := value }
  | .receiveTimeout => { settings with receiveTimeout := value }
  | .backlog => { settings with backlog := value }

def putSwitch (settings : Settings) (key : Switch) (value : Bool) : Settings :=
  match key with
  | .keepAlive => { settings with keepAlive := value }
  | .nonBlocking => { settings with nonBlocking := value }
  | .keepStale => { settings with keepStale := value }

def amount (settings : Settings) : Amount → Option Int
  | .sendBufferSize => settings.sendBufferSize
  | .receiveBufferSize => settings.receiveBufferSize
  | .linger => settings.linger
  | .receiveTimeout => settings.receiveTimeout
  | .backlog => settings.backlog

def switch (settings : Settings) : Switch → Bool
  | .keepAlive => settings.keepAlive
  | .nonBlocking => settings.nonBlocking
  | .keepStale => settings.keepStale

@[simp] theorem amount_putAmount (settings : Settings) (key : Amount)
    (value : Option Int) :
    (settings.putAmount key value).amount key = value := by
  cases key <;> rfl

@[simp] theorem switch_putSwitch (settings : Settings) (key : Switch)
    (value : Bool) :
    (settings.putSwitch key value).switch key = value := by
  cases key <;> rfl

end Settings

end LocalSocket
