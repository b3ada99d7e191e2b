import BotConfig.Value

/-!
Lexemes of strict documents.

A text is cut into lexemes from left to right: punctuation, words, numbers and quoted texts, with
blanks between them dropped.  The sequence ends with the end of the text or with the first lexeme
that is broken.  A broken lexeme keeps its failure, which counts only if the reader wants a value
at that point.
-/

namespace BotConfig.Strict

/-- What can be wrong with a strict document. -/
inductive SyntaxFault where
  | endInList
  | endInMapping
  | endInText
  | endInValue
  | expectedColon
  | expectedListEnd
  | expectedMappingEnd
  | expectedWord
  | expectedValue
  | invalidEscape
  | invalidNumber
  | numberOutOfRange
  | controlCharacter
  | keyNotText
  | loneSurrogate
  | trailingComma
  | trailingCharacters
  | unfinishedSurrogatePair
  | nestedTooDeep
deriving DecidableEq

/-- The wording of a fault. -/
def SyntaxFault.message : SyntaxFault → String
  | .endInList => "EOF while parsing a list"
  | .endInMapping => "EOF while parsing an object"
  | .endInText => "EOF while parsing a string"
  | .endInValue => "EOF while parsing a value"
  | .expectedColon => "expected `:`"
  | .expectedListEnd => "expected `,` or `]`"
  | .expectedMappingEnd => "expected `,` or `\x7d`"
  | .expectedWord => "expected ident"
  | .expectedValue => "expected value"
  | .invalidEscape => "invalid escape"
  | .invalidNumber => "invalid number"
  | .numberOutOfRange => "number out of range"
  | .controlCharacter => "control character (\\u0000-\\u001F) found while parsing a string"
  | .keyNotText => "key must be a string"
  | .loneSurrogate => "lone leading surrogate in hex escape"
  | .trailingComma => "trailing comma"
  | .trailingCharacters => "trailing characters"
  | .unfinishedSurrogatePair => "unexpected end of hex escape"
  | .nestedTooDeep => "recursion limit exceeded"

/-- A place in a text: the line counted from one, and the bytes since the line started. -/
structure Place where
  line : Nat
  column : Nat
deriving DecidableEq, Inhabited

namespace Place

/-- The place before the first character. -/
def start : Place := ⟨1, 0⟩

/-- The place after a character. -/
def after (place : Place) (c : Char) : Place :=
  if c = '\n' then ⟨place.line + 1, 0⟩ else ⟨place.line, place.column + c.utf8Size⟩

/-- The place after the first byte of a character. -/
def afterByte (place : Place) (c : Char) : Place :=
  if c = '\n' then ⟨place.line + 1, 0⟩ else ⟨place.line, place.column + 1⟩

/-- The place after a run of characters. -/
def afterAll (place : Place) (cs : List Char) : Place := cs.foldl after place

/-- The place after the first byte of the text that follows, if there is one. -/
def peek (place : Place) : List Char → Place
  | [] => place
  | c :: _ => place.afterByte c

/-- The place some bytes into a text, possibly within a character. -/
def afterBytes (place : Place) : Nat → List Char → Place
  | 0, _ => place
  | _, [] => place
  | count, c :: rest =>
      if c.utf8Size ≤ count then (place.after c).afterBytes (count - c.utf8Size) rest
      else ⟨place.line, place.column + count⟩
termination_by structural _ text => text

end Place

/-- A fault and the place where it shows. -/
structure SyntaxFailure where
  fault : SyntaxFault
  place : Place
deriving DecidableEq

/-- One lexeme of a strict document. -/
inductive Token where
  | listOpen
  | listClose
  | mappingOpen
  | mappingClose
  | comma
  | colon
  | null
  | boolean (flag : Bool)
  | number (value : Number)
  | text (content : String)
  | finish
  | broken (quoted : Bool) (failure : SyntaxFailure)

/-- A token and the place after its first byte, where faults about it are reported. -/
structure Lexeme where
  mark : Place
  token : Token

/-- What a part of a lexeme yields: its meaning, the place after it and the text that follows. -/
abbrev Scanned (α : Type) := Except SyntaxFailure (α × Place × List Char)

/-- The value of a hexadecimal digit of either case. -/
def hexValue? (c : Char) : Option Nat :=
  if '0' ≤ c ∧ c ≤ '9' then some (c.toNat - '0'.toNat)
  else if 'a' ≤ c ∧ c ≤ 'f' then some (c.toNat - 'a'.toNat + 10)
  else if 'A' ≤ c ∧ c ≤ 'F' then some (c.toNat - 'A'.toNat + 10)
  else none

/-- The value of four hexadecimal digits. -/
def hexValue4? (a b c d : Char) : Option Nat := do
  return 4096 * (← hexValue? a) + 256 * (← hexValue? b) + 16 * (← hexValue? c) + (← hexValue? d)

/-- The failure of a hexadecimal escape whose digits should start the given text. -/
def hexFailure (place : Place) (text : List Char) : SyntaxFailure :=
  if text.foldl (fun size c => size + c.utf8Size) 0 < 4 then ⟨.endInText, place.afterAll text⟩
  else ⟨.invalidEscape, place.afterBytes 4 text⟩

/-- The failure of a first half of a surrogate pair that is not followed by a second escape. -/
def pairFailure (place : Place) : List Char → SyntaxFailure
  | [] => ⟨.endInText, place⟩
  | '\\' :: [] => ⟨.endInText, place.after '\\'⟩
  | '\\' :: c :: _ => ⟨.unfinishedSurrogatePair, (place.after '\\').afterByte c⟩
  | c :: _ => ⟨.unfinishedSurrogatePair, place.afterByte c⟩

/-- The character that an escape of one letter stands for. -/
def simpleEscape? : Char → Option Char
  | '"' => some '"'
  | '\\' => some '\\'
  | '/' => some '/'
  | 'b' => some (Char.ofNat 8)
  | 'f' => some (Char.ofNat 12)
  | 'n' => some '\n'
  | 'r' => some '\r'
  | 't' => some '\t'
  | _ => none

/-- The rest of a quoted text after its opening quote; `done` holds what was read, reversed. -/
def scanText (place : Place) (done : List Char) : List Char → Scanned String
  | [] => .error ⟨.endInText, place⟩
  | '"' :: rest => .ok (String.ofList done.reverse, place.after '"', rest)
  | '\\' :: 'u' :: rest =>
      let place := (place.after '\\').after 'u'
      match rest with
      | a :: b :: c :: d :: rest' =>
          match hexValue4? a b c d with
          | none => .error (hexFailure place (a :: b :: c :: d :: rest'))
          | some code =>
              let place := ⟨place.line, place.column + 4⟩
              if 0xDC00 ≤ code ∧ code ≤ 0xDFFF then .error ⟨.loneSurrogate, place⟩
              else if 0xD800 ≤ code ∧ code ≤ 0xDBFF then
                match rest' with
                | '\\' :: 'u' :: tail =>
                    let place := ⟨place.line, place.column + 2⟩
                    match tail with
                    | e :: f :: g :: h :: rest'' =>
                        match hexValue4? e f g h with
                        | none => .error (hexFailure place (e :: f :: g :: h :: rest''))
                        | some second =>
                            let place := ⟨place.line, place.column + 4⟩
                            if 0xDC00 ≤ second ∧ second ≤ 0xDFFF then
                              let whole := (code - 0xD800) * 1024 + (second - 0xDC00) + 0x10000
                              scanText place (Char.ofNat whole :: done) rest''
                            else .error ⟨.loneSurrogate, place⟩
                    | short => .error (hexFailure place short)
                | other => .error (pairFailure place other)
              else scanText place (Char.ofNat code :: done) rest'
      | short => .error (hexFailure place short)
  | '\\' :: [] => .error ⟨.endInText, place.after '\\'⟩
  | '\\' :: c :: rest =>
      match simpleEscape? c with
      | some plain => scanText ((place.after '\\').after c) (plain :: done) rest
      | none => .error ⟨.invalidEscape, (place.after '\\').afterByte c⟩
  | c :: rest =>
      if c.toNat < 32 then .error ⟨.controlCharacter, place.afterByte c⟩
      else scanText (place.after c) (c :: done) rest

/-- The letters of a word that must follow. -/
def scanWord (place : Place) : List Char → List Char → Scanned Unit
  | [], rest => .ok ((), place, rest)
  | _ :: _, [] => .error ⟨.endInValue, place⟩
  | expected :: more, c :: rest =>
      if c = expected then scanWord (place.after c) more rest
      else .error ⟨.expectedWord, place.afterByte c⟩

/-- The value of a decimal digit. -/
def digitValue (c : Char) : Nat := c.toNat - '0'.toNat

/-- Append digits to a number as long as the result fits 64 bits. Gives the number and how many
digits did not fit. -/
def appendDigits (significand : Nat) : List Char → Nat × Nat
  | [] => (significand, 0)
  | c :: rest =>
      let longer := 10 * significand + digitValue c
      if longer < twoTo 64 then appendDigits longer rest else (significand, rest.length + 1)

/-- The spelling of a number: an optional minus, digits, and optionally a point with digits and a
signed exponent. -/
structure NumberSpelling where
  negative : Bool
  whole : List Char
  fraction : Option (List Char)
  exponent : Option (Bool × List Char)

namespace NumberSpelling

/-- The power of ten that an exponent stands for. -/
def exponentValue (s : NumberSpelling) : Int :=
  match s.exponent with
  | none => 0
  | some (negative, digits) =>
      let size : Nat := digits.foldl (fun n c => 10 * n + digitValue c) 0
      if negative then -(size : Int) else size

/-- `significand * 10 ^ power` by one rounded step for each power up to 308; `none` when it is too
large. -/
def scaled? : Nat → Binary64 → Int → Option Binary64
  | 0, x, _ => some x
  | fuel + 1, x, power =>
      if 0 ≤ power then
        if power ≤ 308 then (Binary64.ofRatio? false (tenTo power.natAbs) 1).bind x.mul?
        else if x.isZero then some x
        else none
      else if -308 ≤ power then
        (Binary64.ofRatio? false (tenTo power.natAbs) 1).bind x.div?
      else if x.isZero then some x
      else
        ((Binary64.ofRatio? false (tenTo 308) 1).bind x.div?).bind
          (scaled? fuel · (power + 308))

/-- The number that a spelling stands for; `none` when it is too large.

Whole numbers that fit 64 bits keep their value, but a negative zero is a binary64 number. For
all others the leading digits that fit 64 bits are scaled by a power of ten. -/
def value? (s : NumberSpelling) : Option Number :=
  let (leading, dropped) := appendDigits 0 s.whole
  let isWhole := s.fraction.isNone && s.exponent.isNone && dropped == 0
  if isWhole && !s.negative then some (.integer leading)
  else if isWhole && 0 < leading && leading ≤ twoTo 63 then some (.integer (-(leading : Int)))
  else
    let fraction := s.fraction.getD []
    let (significand, ignored) := appendDigits leading fraction
    let power := (dropped : Int) - ((fraction.length - ignored : Nat) : Int) + s.exponentValue
    (scaled? 4 (.ofInt significand) power).map fun x => .real (if s.negative then x.neg else x)

/-- How many digits of an exponent are read before it exceeds 31 bits, if it does. -/
def longExponent? (size read : Nat) : List Char → Option Nat
  | [] => none
  | c :: rest =>
      let size := 10 * size + digitValue c
      if twoTo 31 ≤ size then some (read + 1) else longExponent? size (read + 1) rest

end NumberSpelling

/-- Move over characters of one byte on one line. -/
def Place.forward (place : Place) (count : Nat) : Place := ⟨place.line, place.column + count⟩

/-- The number of a spelling whose last character ends at the given place. An exponent beyond 31
bits decides the number on its own, at the digit where it becomes too long. -/
def closeNumber (spelling : NumberSpelling) (exponentPlace place : Place) (rest : List Char) :
    Scanned Number :=
  let long := spelling.exponent.bind fun e => NumberSpelling.longExponent? 0 0 e.2
  match long, spelling.exponent with
  | some read, some (false, _) =>
      let leading := appendDigits 0 spelling.whole
      let significand := appendDigits leading.1 (spelling.fraction.getD [])
      if significand.1 = 0 then .ok (.real (.zero spelling.negative), place, rest)
      else .error ⟨.numberOutOfRange, exponentPlace.forward read⟩
  | some _, _ => .ok (.real (.zero spelling.negative), place, rest)
  | none, _ =>
      match spelling.value? with
      | some number => .ok (number, place, rest)
      | none => .error ⟨.numberOutOfRange, place⟩

/-- The rest of a number after an `e`. -/
def scanExponent (spelling : NumberSpelling) (place : Place) (text : List Char) :
    Scanned Number :=
  let (negative, place, text) :=
    match text with
    | '+' :: rest => (false, place.after '+', rest)
    | '-' :: rest => (true, place.after '-', rest)
    | _ => (false, place, text)
  match text with
  | [] => .error ⟨.endInValue, place⟩
  | c :: _ =>
      if c.isDigit then
        let digits := text.takeWhile Char.isDigit
        closeNumber { spelling with exponent := some (negative, digits) } place
          (place.forward digits.length) (text.dropWhile Char.isDigit)
      else .error ⟨.invalidNumber, place.afterByte c⟩

/-- The rest of a number after its whole part and fraction. -/
def scanAfterFraction (spelling : NumberSpelling) (place : Place) (text : List Char) :
    Scanned Number :=
  match text with
  | c :: rest =>
      if c = 'e' ∨ c = 'E' then scanExponent spelling (place.after c) rest
      else closeNumber spelling place place text
  | [] => closeNumber spelling place place text

/-- The rest of a number after its whole part. -/
def scanAfterWhole (spelling : NumberSpelling) (place : Place) (text : List Char) :
    Scanned Number :=
  match text with
  | '.' :: rest =>
      let digits := rest.takeWhile Char.isDigit
      let place := place.after '.'
      if digits.isEmpty then
        match rest with
        | [] => .error ⟨.endInValue, place⟩
        | c :: _ => .error ⟨.invalidNumber, place.afterByte c⟩
      else
        scanAfterFraction { spelling with fraction := some digits }
          (place.forward digits.length) (rest.dropWhile Char.isDigit)
  | _ => scanAfterFraction spelling place text

/-- A number after its sign. A leading zero stands alone. -/
def scanNumber (negative : Bool) (place : Place) (text : List Char) : Scanned Number :=
  match text with
  | [] => .error ⟨.endInValue, place⟩
  | '0' :: rest =>
      match rest with
      | c :: _ =>
          if c.isDigit then .error ⟨.invalidNumber, (place.after '0').afterByte c⟩
          else scanAfterWhole ⟨negative, ['0'], none, none⟩ (place.after '0') rest
      | [] => scanAfterWhole ⟨negative, ['0'], none, none⟩ (place.after '0') rest
  | c :: _ =>
      if c.isDigit then
        let digits := text.takeWhile Char.isDigit
        scanAfterWhole ⟨negative, digits, none, none⟩ (place.forward digits.length)
          (text.dropWhile Char.isDigit)
      else .error ⟨.invalidNumber, place.afterByte c⟩

/-- The blanks that may stand between lexemes. -/
def isBlank (c : Char) : Bool := c == ' ' || c == '\n' || c == '\t' || c == '\r'

/-- The lexeme that starts with a given character. -/
def scanToken (place : Place) (c : Char) (rest : List Char) : Scanned Token :=
  let next := place.after c
  let word (letters : String) (token : Token) : Scanned Token :=
    (scanWord next letters.toList rest).map fun (_, after) => (token, after)
  match c with
  | '[' => .ok (.listOpen, next, rest)
  | ']' => .ok (.listClose, next, rest)
  | '{' => .ok (.mappingOpen, next, rest)
  | '}' => .ok (.mappingClose, next, rest)
  | ',' => .ok (.comma, next, rest)
  | ':' => .ok (.colon, next, rest)
  | 'n' => word "ull" .null
  | 't' => word "rue" (.boolean true)
  | 'f' => word "alse" (.boolean false)
  | '"' => (scanText next [] rest).map fun (content, after) => (.text content, after)
  | '-' => (scanNumber true next rest).map fun (number, after) => (.number number, after)
  | _ =>
      if c.isDigit then
        (scanNumber false place (c :: rest)).map fun (number, after) => (.number number, after)
      else .error ⟨.expectedValue, place.afterByte c⟩

/-- The lexemes of a text. Each lexeme takes a character, so the length of the text is enough
fuel. -/
def lexemes : Nat → Place → List Char → List Lexeme
  | _, place, [] => [⟨place, .finish⟩]
  | 0, place, _ :: _ => [⟨place, .finish⟩]
  | fuel + 1, place, c :: rest =>
      if isBlank c then lexemes fuel (place.after c) rest
      else
        match scanToken place c rest with
        | .error failure => [⟨place.afterByte c, .broken (c == '"') failure⟩]
        | .ok (token, place', rest') =>
            ⟨place.afterByte c, token⟩ :: lexemes fuel place' rest'

end BotConfig.Strict
