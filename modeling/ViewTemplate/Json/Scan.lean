/-!
# Scanning JSON text

Strings and numbers are read, and whole values are skipped, one character at a time, so the first character at which
a text stops being JSON decides what is wrong with it. A string that is only skipped may hold half of a surrogate
pair; a string that is read may not.
-/

namespace ViewTemplate

/-- What is wrong with a text: it ends too early, or it is no JSON. -/
inductive ScanFault where
  | endOfText
  | malformed
  deriving DecidableEq

namespace Scan

/-- A blank between the parts of a JSON text. -/
def isBlank (c : Char) : Bool :=
  c == ' ' || c == '\t' || c == '\n' || c == '\r'

/-- The text from its first character that is no blank. -/
def skipBlanks (s : List Char) : List Char :=
  s.dropWhile isBlank

/-- The value of a hexadecimal digit. -/
def hexDigit? (c : Char) : Option Nat :=
  if '0' ≤ c ∧ c ≤ '9' then some (c.toNat - '0'.toNat)
  else if 'a' ≤ c ∧ c ≤ 'f' then some (c.toNat - 'a'.toNat + 10)
  else if 'A' ≤ c ∧ c ≤ 'F' then some (c.toNat - 'A'.toNat + 10)
  else none

/-- The character that a backslash and `c` stand for. -/
def simpleEscape? (c : Char) : Option Char :=
  [('"', '"'), ('\\', '\\'), ('/', '/'), ('b', '\x08'), ('f', '\x0c'), ('n', '\n'), ('r', '\r'), ('t', '\t')].lookup c

/-- Whether there is room for four digits, counted in bytes. -/
def hasFourBytes (s : List Char) : Bool :=
  4 ≤ (s.take 4).foldl (fun n c => n + c.utf8Size) 0

/-- The first half of a surrogate pair. -/
def isHighSurrogate (unit : Nat) : Bool :=
  0xD800 ≤ unit && unit ≤ 0xDBFF

/-- The second half of a surrogate pair. -/
def isLowSurrogate (unit : Nat) : Bool :=
  0xDC00 ≤ unit && unit ≤ 0xDFFF

/-- The character of a surrogate pair. -/
def ofSurrogates (high low : Nat) : Char :=
  Char.ofNat (0x10000 + (high - 0xD800) * 0x400 + (low - 0xDC00))

/-- Where the reading of a string stands. -/
inductive StringPlace where
  | plain
  /-- after a backslash -/
  | escape
  /-- within a code unit of which `left` digits are missing, possibly the second half of a pair -/
  | unit (high : Option Nat) (left value : Nat)
  /-- after the first half of a pair: a backslash has to follow -/
  | pairBackslash (high : Nat)
  /-- after the backslash of the second half: `u` has to follow -/
  | pairUnit (high : Nat)

private def withChar (c : Char) (rest : Except ScanFault (List Char × List Char)) :
    Except ScanFault (List Char × List Char) :=
  rest.map fun (cs, after) => (c :: cs, after)

/-- The characters of a string up to its closing quote, and the text after it. -/
def readChars : StringPlace → List Char → Except ScanFault (List Char × List Char)
  | _, [] => .error .endOfText
  | .plain, c :: rest =>
    if c = '"' then .ok ([], rest)
    else if c = '\\' then readChars .escape rest
    else if c.toNat < 0x20 then .error .malformed
    else withChar c (readChars .plain rest)
  | .escape, c :: rest =>
    if c = 'u' then
      if hasFourBytes rest then readChars (.unit none 4 0) rest else .error .endOfText
    else
      match simpleEscape? c with
      | some d => withChar d (readChars .plain rest)
      | none => .error .malformed
  | .unit high left value, c :: rest =>
    match hexDigit? c with
    | none => .error .malformed
    | some digit =>
      if 1 < left then readChars (.unit high (left - 1) (16 * value + digit)) rest
      else
        match high with
        | some high =>
          if isLowSurrogate (16 * value + digit) then
            withChar (ofSurrogates high (16 * value + digit)) (readChars .plain rest)
          else .error .malformed
        | none =>
          if isLowSurrogate (16 * value + digit) then .error .malformed
          else if isHighSurrogate (16 * value + digit) then readChars (.pairBackslash (16 * value + digit)) rest
          else withChar (Char.ofNat (16 * value + digit)) (readChars .plain rest)
  | .pairBackslash high, c :: rest =>
    if c = '\\' then readChars (.pairUnit high) rest else .error .malformed
  | .pairUnit high, c :: rest =>
    if c = 'u' then
      if hasFourBytes rest then readChars (.unit (some high) 4 0) rest else .error .endOfText
    else .error .malformed

/-- The string whose opening quote stands before the text, and the text after it. -/
def readString (s : List Char) : Except ScanFault (String × List Char) :=
  (readChars .plain s).map fun (cs, rest) => (String.ofList cs, rest)

/-- Where the reading of a number stands. -/
inductive NumberPlace where
  | sign
  | zero
  | whole
  | point
  | fraction
  | exponent
  | exponentSign
  | exponentDigits

/-- What a character does to a number: it belongs to it, it comes after it, or it may not be there. -/
inductive NumberStep where
  | goOn (place : NumberPlace)
  | over
  | bad

namespace NumberPlace

/-- Whether a number may end there. -/
def isComplete : NumberPlace → Bool
  | .zero | .whole | .fraction | .exponentDigits => true
  | .sign | .point | .exponent | .exponentSign => false

private def afterDigits (place : NumberPlace) (c : Char) : NumberStep :=
  if c.isDigit then .goOn place
  else if c = '.' then .goOn .point
  else if c = 'e' ∨ c = 'E' then .goOn .exponent
  else .over

/-- What the character `c` does to a number that stands there. -/
def step (c : Char) : NumberPlace → NumberStep
  | .sign => if c = '0' then .goOn .zero else if c.isDigit then .goOn .whole else .bad
  | .zero => if c.isDigit then .bad else afterDigits .zero c
  | .whole => afterDigits .whole c
  | .point => if c.isDigit then .goOn .fraction else .bad
  | .fraction =>
    if c.isDigit then .goOn .fraction else if c = 'e' ∨ c = 'E' then .goOn .exponent else .over
  | .exponent =>
    if c = '+' ∨ c = '-' then .goOn .exponentSign else if c.isDigit then .goOn .exponentDigits else .bad
  | .exponentSign => if c.isDigit then .goOn .exponentDigits else .bad
  | .exponentDigits => if c.isDigit then .goOn .exponentDigits else .over

end NumberPlace

/-- The remaining characters of a number, and the text after it. -/
def readNumber : NumberPlace → List Char → Except ScanFault (List Char × List Char)
  | place, [] => if place.isComplete then .ok ([], []) else .error .endOfText
  | place, c :: rest =>
    match place.step c with
    | .goOn place => withChar c (readNumber place rest)
    | .over => .ok ([], c :: rest)
    | .bad => .error .malformed

/-- The text after the characters `word`, which have to follow. -/
def readWord : List Char → List Char → Except ScanFault (List Char)
  | [], s => .ok s
  | _ :: _, [] => .error .endOfText
  | x :: word, c :: s => if c = x then readWord word s else .error .malformed

/-- What is open around a value. -/
inductive Frame where
  | array
  | object
  deriving DecidableEq

/-- Where the skipping of a value stands. -/
inductive SkipPlace where
  /-- before a value -/
  | value
  /-- before the first item of an array, or its end -/
  | firstItem
  /-- before the first key of an object, or its end -/
  | firstKey
  /-- before a key -/
  | key
  /-- after a key -/
  | colon
  /-- after a value -/
  | next
  /-- in a string, which may be a key -/
  | string (isKey : Bool)
  /-- after a backslash in a string -/
  | escape (isKey : Bool)
  /-- within a code unit of which `left` digits are missing -/
  | unit (isKey : Bool) (left : Nat)
  /-- within a word of which `rest` is missing -/
  | word (rest : List Char)
  | number (place : NumberPlace)

/-- Where skipping stands after the first character of a value. -/
def startValue (c : Char) (frames : List Frame) : Except ScanFault (SkipPlace × List Frame) :=
  if c = '"' then .ok (.string false, frames)
  else if c = '-' then .ok (.number .sign, frames)
  else if c = '0' then .ok (.number .zero, frames)
  else if c.isDigit then .ok (.number .whole, frames)
  else if c = 't' then .ok (.word ['r', 'u', 'e'], frames)
  else if c = 'f' then .ok (.word ['a', 'l', 's', 'e'], frames)
  else if c = 'n' then .ok (.word ['u', 'l', 'l'], frames)
  else if c = '[' then .ok (.firstItem, .array :: frames)
  else if c = '\x7b' then .ok (.firstKey, .object :: frames)
  else .error .malformed

/-- Where skipping stands after a character that follows a value in `frame`. -/
def afterValue (c : Char) (frame : Frame) (frames : List Frame) : Except ScanFault (SkipPlace × List Frame) :=
  match frame with
  | .array =>
    if isBlank c then .ok (.next, .array :: frames)
    else if c = ',' then .ok (.value, .array :: frames)
    else if c = ']' then .ok (.next, frames)
    else .error .malformed
  | .object =>
    if isBlank c then .ok (.next, .object :: frames)
    else if c = ',' then .ok (.key, .object :: frames)
    else if c = '\x7d' then .ok (.next, frames)
    else .error .malformed

/-- Where skipping stands after one more character, anywhere but after a value or in a number. `rest` is the text
after the character. -/
def skipStep (c : Char) (rest : List Char) (frames : List Frame) :
    SkipPlace → Except ScanFault (SkipPlace × List Frame)
  | .value => if isBlank c then .ok (.value, frames) else startValue c frames
  | .firstItem =>
    if isBlank c then .ok (.firstItem, frames)
    else if c = ']' then .ok (.next, frames.tail)
    else startValue c frames
  | .firstKey =>
    if isBlank c then .ok (.firstKey, frames)
    else if c = '\x7d' then .ok (.next, frames.tail)
    else if c = '"' then .ok (.string true, frames)
    else .error .malformed
  | .key =>
    if isBlank c then .ok (.key, frames) else if c = '"' then .ok (.string true, frames) else .error .malformed
  | .colon =>
    if isBlank c then .ok (.colon, frames) else if c = ':' then .ok (.value, frames) else .error .malformed
  | .string isKey =>
    if c = '"' then .ok (if isKey then .colon else .next, frames)
    else if c = '\\' then .ok (.escape isKey, frames)
    else if c.toNat < 0x20 then .error .malformed
    else .ok (.string isKey, frames)
  | .escape isKey =>
    if c = 'u' then
      if hasFourBytes rest then .ok (.unit isKey 4, frames) else .error .endOfText
    else if (simpleEscape? c).isSome then .ok (.string isKey, frames)
    else .error .malformed
  | .unit isKey left =>
    if (hexDigit? c).isNone then .error .malformed
    else if 1 < left then .ok (.unit isKey (left - 1), frames)
    else .ok (.string isKey, frames)
  | .word missing =>
    if missing.head? ≠ some c then .error .malformed
    else if missing.tail.isEmpty then .ok (.next, frames)
    else .ok (.word missing.tail, frames)
  | .next | .number _ => .error .malformed

/-- The text after a value, of which skipping has reached `place`. A number that is cut off is no JSON. -/
def skip : SkipPlace → List Frame → List Char → Except ScanFault (List Char)
  | .next, [], s => .ok s
  | .number place, frames, [] =>
    if !place.isComplete then .error .malformed else if frames.isEmpty then .ok [] else .error .endOfText
  | _, _, [] => .error .endOfText
  | .next, frame :: frames, c :: rest =>
    match afterValue c frame frames with
    | .ok (place, frames) => skip place frames rest
    | .error fault => .error fault
  | .number place, frames, c :: rest =>
    match place.step c, frames with
    | .goOn place, frames => skip (.number place) frames rest
    | .bad, _ => .error .malformed
    | .over, [] => .ok (c :: rest)
    | .over, frame :: frames =>
      match afterValue c frame frames with
      | .ok (place, frames) => skip place frames rest
      | .error fault => .error fault
  | place, frames, c :: rest =>
    match skipStep c rest frames place with
    | .ok (place, frames) => skip place frames rest
    | .error fault => .error fault

/-- The text after the value at its beginning. -/
def skipValue (s : List Char) : Except ScanFault (List Char) :=
  skip .value [] s

end Scan

end ViewTemplate
