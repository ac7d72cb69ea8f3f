import LocalSocket.Text.Hidden
import LocalSocket.Text.Utf8

/-!
# Quoted text

The form in which paths appear in messages: between double quotes, with quotes,
backslashes and hidden characters escaped, and with bytes that are no UTF-8
written one by one.
-/

namespace LocalSocket.Text

def hexDigits (value : Nat) : String :=
  String.ofList (Nat.toDigits 16 value)

def upperHexByte (byte : UInt8) : String :=
  let digit (value : Nat) : Char :=
    if value < 10 then Char.ofNat (0x30 + value) else Char.ofNat (0x37 + value)
  String.ofList [digit (byte.toNat / 16), digit (byte.toNat % 16)]

def escapeChar (c : Char) : String :=
  match c with
  | '\x00' => "\\0"
  | '\t' => "\\t"
  | '\r' => "\\r"
  | '\n' => "\\n"
  | '"' => "\\\""
  | '\\' => "\\\\"
  | c =>
      if isHidden c then
        "\\u\x7b" ++ hexDigits c.toNat ++ "\x7d"
      else
        c.toString

def escapePiece : Piece → String
  | .char c => escapeChar c
  | .illFormed bytes =>
      String.join (bytes.map fun byte => "\\x" ++ upperHexByte byte)

def quoted (bytes : Bytes) : String :=
  "\"" ++ String.join ((pieces bytes).map escapePiece) ++ "\""

end LocalSocket.Text
