import LocalSocket.Text.Quoted

/-!
# Reading JSON

Readers for the parts of a JSON text.  A reader takes characters from the front
of the text and returns what it read and what is left.  It fails with one of
three causes: the text ends too early, it breaks a rule of the format, or it is
well formed so far and holds something else than was asked for.
-/

namespace LocalSocket.Json

inductive Fault where
  | truncated | malformed | mismatched
  deriving DecidableEq, Repr

abbrev Read (α : Type) := Except Fault (α × List Char)

def isBlank (c : Char) : Bool :=
  c == ' ' || c == '\n' || c == '\t' || c == '\r'

def skipBlank (text : List Char) : List Char :=
  text.dropWhile isBlank

/-! ## Strings -/

def hexDigit? (c : Char) : Option Nat :=
  if '0' ≤ c ∧ c ≤ '9' then some (c.toNat - 0x30)
  else if 'a' ≤ c ∧ c ≤ 'f' then some (c.toNat - 0x57)
  else if 'A' ≤ c ∧ c ≤ 'F' then some (c.toNat - 0x37)
  else none

def unit (a b c d : Char) : Except Fault Nat :=
  match hexDigit? a, hexDigit? b, hexDigit? c, hexDigit? d with
  | some a, some b, some c, some d => .ok (((a * 16 + b) * 16 + c) * 16 + d)
  | _, _, _, _ => .error .malformed

/-- The failure of four digits that are not all there: the digits take four
bytes of the text, and what stands in their place may take as many. -/
def missingDigits (text : List Char) : Fault :=
  if (text.flatMap String.utf8EncodeChar).length < 4 then .truncated
  else .malformed

def isHighSurrogate (unit : Nat) : Bool :=
  decide (0xd800 ≤ unit ∧ unit < 0xdc00)

def isLowSurrogate (unit : Nat) : Bool :=
  decide (0xdc00 ≤ unit ∧ unit < 0xe000)

def simpleEscape? : Char → Option Char
  | '"' => some '"'
  | '\\' => some '\\'
  | '/' => some '/'
  | 'b' => some '\x08'
  | 'f' => some '\x0c'
  | 'n' => some '\n'
  | 'r' => some '\r'
  | 't' => some '\t'
  | _ => none

def andThen (c : Char) (rest : Read (List Char)) : Read (List Char) :=
  rest.map fun (chars, left) => (c :: chars, left)

/-- The characters of a string, from behind its opening quote to its closing
one.  A character outside the basic plane is written as two units, which must
stand together. -/
def stringBody : List Char → Read (List Char)
  | [] => .error .truncated
  | '"' :: rest => .ok ([], rest)
  | ['\\'] => .error .truncated
  | '\\' :: 'u' :: a :: b :: c :: d :: rest =>
      match unit a b c d with
      | .error fault => .error fault
      | .ok high =>
          if isLowSurrogate high then .error .malformed
          else if !isHighSurrogate high then
            andThen (Char.ofNat high) (stringBody rest)
          else
            match rest with
            | [] | ['\\'] => .error .truncated
            | '\\' :: 'u' :: e :: f :: g :: h :: rest =>
                match unit e f g h with
                | .error fault => .error fault
                | .ok low =>
                    if isLowSurrogate low then
                      andThen
                        (Char.ofNat
                          (0x10000 + (high - 0xd800) * 0x400 + (low - 0xdc00)))
                        (stringBody rest)
                    else .error .malformed
            | '\\' :: 'u' :: rest => .error (missingDigits rest)
            | _ => .error .malformed
  | '\\' :: 'u' :: rest => .error (missingDigits rest)
  | '\\' :: c :: rest =>
      match simpleEscape? c with
      | some c => andThen c (stringBody rest)
      | none => .error .malformed
  | c :: rest =>
      if c < ' ' then .error .malformed else andThen c (stringBody rest)

/-! ## Numbers -/

def isDigit (c : Char) : Bool :=
  decide ('0' ≤ c ∧ c ≤ '9')

def digits (text : List Char) : List Char × List Char :=
  (text.takeWhile isDigit, text.dropWhile isDigit)

def extend (value : Nat) (digits : List Char) : Nat :=
  digits.foldl (fun value c => value * 10 + (c.toNat - 0x30)) value

def someDigits (text : List Char) : Read (List Char) :=
  match digits text with
  | ([], []) => .error .truncated
  | ([], _ :: _) => .error .malformed
  | (read, left) => .ok (read, left)

/-- Whether `significand` times ten to the power `exponent` is too large for a
number of double precision. -/
def exceedsDouble (significand : Nat) (exponent : Int) : Bool :=
  if significand = 0 then false
  else
    let size : Int := (Nat.toDigits 10 significand).length + exponent
    if size > 310 then true
    else if size < 300 then false
    else
      let bound := Nat.pow 2 1024 - Nat.pow 2 970
      if 0 ≤ exponent then
        decide (significand * Nat.pow 10 exponent.toNat ≥ bound)
      else decide (significand ≥ bound * Nat.pow 10 (-exponent).toNat)

def signOf : List Char → Bool × List Char
  | '-' :: rest => (true, rest)
  | '+' :: rest => (false, rest)
  | rest => (false, rest)

def exponent (text : List Char) : Except Fault (Int × List Char) := do
  let (negative, text) := signOf text
  let (read, text) ← someDigits text
  let value : Int := extend 0 read
  pure (if negative then -value else value, text)

def isExponentMark (c : Char) : Bool :=
  c == 'e' || c == 'E'

/-- What may follow the digits before the point: nothing, for a whole number, or
a fraction and an exponent.  The result says whether the number was whole. -/
def afterWhole (significand : Nat) (text : List Char) :
    Except Fault (Bool × List Char) :=
  match text with
  | '.' :: rest => do
      let (fraction, rest) ← someDigits rest
      let (power, rest) ← match rest with
        | c :: rest' =>
            if isExponentMark c then exponent rest' else pure (0, rest)
        | [] => pure (0, rest)
      if exceedsDouble (extend significand fraction)
          (power - fraction.length) then
        .error .malformed
      else pure (false, rest)
  | c :: rest =>
      if isExponentMark c then do
        let (power, rest) ← exponent rest
        if exceedsDouble significand power then .error .malformed
        else pure (false, rest)
      else if exceedsDouble significand 0 then .error .malformed
      else .ok (true, text)
  | [] =>
      if exceedsDouble significand 0 then .error .malformed
      else .ok (true, text)

/-- An unsigned number; `none` for one that is not written as a whole number. -/
def unsigned (text : List Char) : Read (Option Nat) :=
  match text with
  | [] => .error .truncated
  | '0' :: rest =>
      match rest with
      | c :: _ => if isDigit c then .error .malformed else whole 0 rest
      | [] => whole 0 rest
  | c :: rest =>
      if isDigit c then
        let (read, left) := digits rest
        whole (extend 0 (c :: read)) left
      else .error .malformed
where
  whole (value : Nat) (text : List Char) : Read (Option Nat) :=
    (afterWhole value text).map fun (isWhole, left) =>
      (if isWhole then some value else none, left)

/-- A number from its sign on; `none` for one that is no whole number.  Minus
zero is not a whole number. -/
def number (text : List Char) : Read (Option Int) :=
  match text with
  | '-' :: rest =>
      (unsigned rest).map fun (value, left) =>
        (value.bind fun value => if value = 0 then none else some (-value),
          left)
  | text => (unsigned text).map fun (value, left) => (value.map Int.ofNat, left)

/-! ## Values -/

def literal : List Char → List Char → Read Unit
  | [], text => .ok ((), text)
  | _ :: _, [] => .error .truncated
  | c :: rest, d :: text =>
      if c = d then literal rest text else .error .malformed

/-- The cause of failing at a value that is not of the type asked for: the value
itself may be broken. -/
def mismatch (text : List Char) : Fault :=
  let reading (read : Except Fault Unit) : Fault :=
    match read with
    | .ok _ => .mismatched
    | .error fault => fault
  match text with
  | 'n' :: rest => reading ((literal ['u', 'l', 'l'] rest).map fun _ => ())
  | 't' :: rest => reading ((literal ['r', 'u', 'e'] rest).map fun _ => ())
  | 'f' :: rest => reading ((literal ['a', 'l', 's', 'e'] rest).map fun _ => ())
  | '"' :: rest => reading ((stringBody rest).map fun _ => ())
  | '[' :: _ | '\x7b' :: _ => .mismatched
  | c :: _ =>
      if c = '-' ∨ isDigit c then reading ((number text).map fun _ => ())
      else .malformed
  | [] => .truncated

def string (text : List Char) : Read (List Char) :=
  match skipBlank text with
  | '"' :: rest => stringBody rest
  | text => .error (mismatch text)

def boolean (text : List Char) : Read Bool :=
  match skipBlank text with
  | 't' :: rest =>
      (literal ['r', 'u', 'e'] rest).map fun (_, left) => (true, left)
  | 'f' :: rest =>
      (literal ['a', 'l', 's', 'e'] rest).map fun (_, left) => (false, left)
  | text => .error (mismatch text)

def optionalInt (text : List Char) : Read (Option Int) :=
  match skipBlank text with
  | 'n' :: rest =>
      (literal ['u', 'l', 'l'] rest).map fun (_, left) => (none, left)
  | text =>
      match text with
      | [] => .error .truncated
      | c :: _ =>
          if c = '-' ∨ isDigit c then
            match number text with
            | .error fault => .error fault
            | .ok (some value, left) =>
                if -0x80000000 ≤ value ∧ value < 0x80000000 then
                  .ok (some value, left)
                else .error .mismatched
            | .ok (none, _) => .error .mismatched
          else .error (mismatch text)

/-- Reads a whole text with a reader of one value: only blanks may follow the
value. -/
def whole {α : Type} (reader : List Char → Read α) (text : String) :
    Except Fault α :=
  match reader text.toList with
  | .error fault => .error fault
  | .ok (value, left) =>
      if (skipBlank left).isEmpty then .ok value else .error .malformed

/-! ## Writing -/

def escapeChar (c : Char) : String :=
  match c with
  | '"' => "\\\""
  | '\\' => "\\\\"
  | '\x08' => "\\b"
  | '\x0c' => "\\f"
  | '\n' => "\\n"
  | '\r' => "\\r"
  | '\t' => "\\t"
  | c =>
      if c < ' ' then
        (if c.toNat < 16 then "\\u000" else "\\u00") ++ Text.hexDigits c.toNat
      else c.toString

def writeString (text : String) : String :=
  "\"" ++ String.join (text.toList.map escapeChar) ++ "\""

end LocalSocket.Json
