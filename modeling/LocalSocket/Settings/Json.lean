import LocalSocket.Settings.Basic
import LocalSocket.Address.Text
import LocalSocket.Text.Json

/-!
# Settings and addresses in a configuration

Settings are an object with a field for each of them, or the list of their
values in order.  Fields may be missing, but none may be repeated or unknown; a
list may end early.  An address is a string.
-/

namespace LocalSocket

open Json

namespace Settings

private def readValue (settings : Settings) (key : Key) (text : List Char) :
    Except Fault (Settings × List Char) :=
  match key with
  | .amount key =>
      (optionalInt text).map
        fun (value, left) => (settings.putAmount key value, left)
  | .switch key =>
      (boolean text).map
        fun (value, left) => (settings.putSwitch key value, left)

private def afterColon (text : List Char) : Except Fault (List Char) :=
  match skipBlank text with
  | ':' :: rest => .ok rest
  | [] => .error .truncated
  | _ => .error .malformed

private def readField (settings : Settings) (seen : List Key)
    (text : List Char) : Except Fault ((Settings × List Key) × List Char) := do
  let (name, left) ← stringBody text
  match Key.ofField? (String.ofList name) with
  | none => .error .mismatched
  | some key =>
      if key ∈ seen then .error .mismatched
      else
        let left ← afterColon left
        let (settings, left) ← readValue settings key left
        pure ((settings, key :: seen), left)

/-- The fields behind the first one.  There are at most `count` of them, since
none may be repeated. -/
private def readFields :
    Nat → Settings → List Key → List Char → Except Fault (Settings × List Char)
  | 0, _, _, _ => .error .mismatched
  | count + 1, settings, seen, text =>
      match skipBlank text with
      | [] => .error .truncated
      | '\x7d' :: rest => .ok (settings, rest)
      | ',' :: rest =>
          match skipBlank rest with
          | [] => .error .truncated
          | '"' :: rest => do
              let ((settings, seen), left) ← readField settings seen rest
              readFields count settings seen left
          | _ => .error .malformed
      | _ => .error .malformed

private def readObject (text : List Char) :
    Except Fault (Settings × List Char) :=
  match skipBlank text with
  | [] => .error .truncated
  | '\x7d' :: rest => .ok ({}, rest)
  | '"' :: rest => do
      let ((settings, seen), left) ← readField {} [] rest
      readFields (Key.all.length + 1) settings seen left
  | _ => .error .malformed

/-- The values of a list, up to its closing bracket; `keys` are those still to
come. -/
private def readList (settings : Settings) (isFirst : Bool) :
    List Key → List Char → Except Fault (Settings × List Char)
  | [], text =>
      match skipBlank text with
      | ']' :: rest => .ok (settings, rest)
      | [] => .error .truncated
      | _ => .error .malformed
  | key :: keys, text =>
      match skipBlank text with
      | [] => .error .truncated
      | ']' :: rest => .ok (settings, rest)
      | c :: rest =>
          if isFirst then do
            let (settings, left) ← readValue settings key (c :: rest)
            readList settings false keys left
          else if c = ',' then
            match skipBlank rest with
            | [] => .error .truncated
            | ']' :: _ => .error .malformed
            | rest => do
                let (settings, left) ← readValue settings key rest
                readList settings false keys left
          else .error .malformed

private def readSettings (text : List Char) :
    Except Fault (Settings × List Char) :=
  match skipBlank text with
  | '[' :: rest => readList {} true Key.all rest
  | '\x7b' :: rest => readObject rest
  | text => .error (mismatch text)

def ofJson (text : String) : Except Fault Settings :=
  Json.whole readSettings text

end Settings

namespace Address

private def readAddress (text : List Char) :
    Except Fault (Address × List Char) := do
  let (chars, left) ← Json.string text
  match parseChars chars with
  | .ok address => pure (address, left)
  | .error _ => .error .mismatched

def ofJson (text : String) : Except Fault Address :=
  Json.whole readAddress text

def toJson (address : Address) : String :=
  Json.writeString address.text

end Address

end LocalSocket
