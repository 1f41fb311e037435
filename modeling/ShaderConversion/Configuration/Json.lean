import ShaderConversion.Text.Utf8
import ShaderConversion.Text.Decimal

namespace ShaderConversion

-- A JSON value. Of a number that is not written as an integer, or does not fit 64
-- bits, only that much is kept. Members of an object stand in the order read.
inductive Json where
  | null
  | bool (value : Bool)
  | integer (value : Int)
  | fraction
  | text (value : Text)
  | list (items : List Json)
  | object (members : List (Text × Json))

namespace Json

inductive Cause where
  | endInValue
  | endInList
  | endInObject
  | endInText
  | expectedValue
  | expectedWord
  | expectedColon
  | expectedCommaOrBracket
  | expectedCommaOrBrace
  | keyNotText
  | trailingComma
  | trailingCharacters
  | invalidNumber
  | numberOutOfRange
  | invalidEscape
  | unfinishedPair
  | unpairedSurrogate
  | controlCharacter
  | tooDeep
  deriving DecidableEq, Repr

def Cause.message : Cause → String
  | endInValue => "EOF while parsing a value"
  | endInList => "EOF while parsing a list"
  | endInObject => "EOF while parsing an object"
  | endInText => "EOF while parsing a string"
  | expectedValue => "expected value"
  | expectedWord => "expected ident"
  | expectedColon => "expected `:`"
  | expectedCommaOrBracket => "expected `,` or `]`"
  | expectedCommaOrBrace => "expected `,` or `\x7d`"
  | keyNotText => "key must be a string"
  | trailingComma => "trailing comma"
  | trailingCharacters => "trailing characters"
  | invalidNumber => "invalid number"
  | numberOutOfRange => "number out of range"
  | invalidEscape => "invalid escape"
  | unfinishedPair => "unexpected end of hex escape"
  | unpairedSurrogate => "lone leading surrogate in hex escape"
  | controlCharacter => "control character (\\u0000-\\u001F) found while parsing a string"
  | tooDeep => "recursion limit exceeded"

structure Stop where
  cause : Cause
  rest : Text
  extra : Nat

def Stop.here (cause : Cause) (rest : Text) : Stop := ⟨cause, rest, 1⟩

def Stop.behind (cause : Cause) (rest : Text) : Stop := ⟨cause, rest, 0⟩

abbrev Reading (α : Type) := Except Stop (α × Text)

def skipBlanks (s : Text) : Text :=
  s.dropWhile fun c => c == ' ' || c == '\n' || c == '\t' || c == '\r'

def word (value : Json) : Text → Text → Reading Json
  | [], rest => .ok (value, rest)
  | _, [] => .error (.here .endInValue [])
  | expected :: more, c :: rest =>
    if c = expected then word value more rest else .error (.here .expectedWord (c :: rest))

def hexUnit (s : Text) : Reading Nat :=
  match s with
  | a :: b :: c :: d :: rest =>
    match Text.hexDigitValue? a, Text.hexDigitValue? b, Text.hexDigitValue? c,
        Text.hexDigitValue? d with
    | some a, some b, some c, some d => .ok (((a * 16 + b) * 16 + c) * 16 + d, rest)
    | _, _, _, _ => .error ⟨.invalidEscape, s, 4⟩
  | _ => .error (if Utf8.size s < 4 then .here .endInText [] else ⟨.invalidEscape, s, 4⟩)

theorem hexUnit_shorter {s rest : Text} {n : Nat} (read : hexUnit s = .ok (n, rest)) :
    rest.length < s.length := by
  unfold hexUnit at read
  split at read
  · split at read
    · cases read; simp only [List.length_cons]; omega
    · cases read
  · cases read

def lowSurrogate (high : Nat) (s : Text) : Reading Char :=
  match s with
  | '\\' :: 'u' :: rest =>
    match hexUnit rest with
    | .error stop => .error stop
    | .ok (low, rest) =>
      if 0xDC00 ≤ low ∧ low ≤ 0xDFFF then
        .ok (Char.ofNat (0x10000 + (high - 0xD800) * 0x400 + (low - 0xDC00)), rest)
      else .error (.behind .unpairedSurrogate rest)
  | [] => .error (.here .endInText [])
  | ['\\'] => .error (.here .endInText [])
  | '\\' :: rest => .error (.here .unfinishedPair rest)
  | rest => .error (.here .unfinishedPair rest)

theorem lowSurrogate_shorter {high : Nat} {s rest : Text} {c : Char}
    (read : lowSurrogate high s = .ok (c, rest)) : rest.length < s.length := by
  unfold lowSurrogate at read
  split at read
  · split at read
    · cases read
    · rename_i got
      have := hexUnit_shorter got
      split at read
      · simp only [Except.ok.injEq, Prod.mk.injEq] at read
        rw [← read.2]
        simp only [List.length_cons]
        omega
      · cases read
  all_goals cases read

def unitEscape (s : Text) : Reading Char :=
  match hexUnit s with
  | .error stop => .error stop
  | .ok (unit, rest) =>
    if 0xDC00 ≤ unit ∧ unit ≤ 0xDFFF then .error (.behind .unpairedSurrogate rest)
    else if 0xD800 ≤ unit ∧ unit ≤ 0xDBFF then lowSurrogate unit rest
    else .ok (Char.ofNat unit, rest)

theorem unitEscape_shorter {s rest : Text} {c : Char} (read : unitEscape s = .ok (c, rest)) :
    rest.length < s.length := by
  unfold unitEscape at read
  split at read
  · cases read
  · rename_i got
    have first := hexUnit_shorter got
    split at read
    · cases read
    · split at read
      · exact Nat.lt_trans (lowSurrogate_shorter read) first
      · cases read; exact first

def plainEscape? (c : Char) : Option Char :=
  match c with
  | '"' => some '"'
  | '\\' => some '\\'
  | '/' => some '/'
  | 'b' => some '\x08'
  | 'f' => some '\x0c'
  | 'n' => some '\n'
  | 'r' => some '\r'
  | 't' => some '\t'
  | _ => none

def escape (s : Text) : Reading Char :=
  match s with
  | [] => .error (.here .endInText [])
  | c :: rest =>
    if c = 'u' then unitEscape rest
    else match plainEscape? c with
      | some c => .ok (c, rest)
      | none => .error (.here .invalidEscape (c :: rest))

theorem escape_shorter {s rest : Text} {c : Char} (read : escape s = .ok (c, rest)) :
    rest.length < s.length := by
  unfold escape at read
  split at read
  · cases read
  · split at read
    · exact Nat.lt_succ_of_lt (unitEscape_shorter read)
    · split at read
      · cases read; simp
      · cases read

def textOnto (done : Text) (s : Text) : Reading Text :=
  match s with
  | [] => .error (.here .endInText [])
  | '"' :: rest => .ok (done.reverse, rest)
  | '\\' :: rest =>
    match _read : escape rest with
    | .error stop => .error stop
    | .ok (c, rest) => textOnto (c :: done) rest
  | c :: rest =>
    if c.toNat < 0x20 then .error (.here .controlCharacter (c :: rest))
    else textOnto (c :: done) rest
termination_by s.length
decreasing_by
  · have := escape_shorter _read
    simp only [List.length_cons]; omega
  · simp

def gather (significand : Nat) (digits : Text) : Nat × Nat :=
  match digits with
  | [] => (significand, 0)
  | c :: rest =>
    let next := significand * 10 + (c.toNat - 0x30)
    if next < UInt64.size then gather next rest else (significand, digits.length)

-- The nearest number with a significand of 53 bits, an exact half going to the
-- even one.
def nearestDouble (n : Nat) : Nat :=
  let shift := n.log2 - 52
  let unit := 1 <<< shift
  let quotient := n / unit
  let twice := 2 * (n % unit)
  if twice > unit ∨ (twice = unit ∧ quotient % 2 = 1) then (quotient + 1) * unit else quotient * unit

def overflows (significand : Nat) (exponent : Int) : Bool :=
  significand ≠ 0 ∧ 0 ≤ exponent ∧
    (308 < exponent ∨
      (1 <<< 54 - 1) <<< 970 ≤ nearestDouble significand * nearestDouble (Nat.pow 10 exponent.toNat))

def fraction? (significand : Nat) (exponent : Int) (rest : Text) : Reading Json :=
  if overflows significand exponent then .error (.behind .numberOutOfRange rest)
  else .ok (.fraction, rest)

-- The digits of an exponent. One that does not fit 32 bits is out of range at the
-- digit that goes too far, unless it makes the number zero.
def exponentOnto (significand : Nat) (start : Int) (negative : Bool) (exponent : Nat) :
    Text → Reading Json
  | [] => finish []
  | c :: rest =>
    if c.isDigit then
      let next := exponent * 10 + (c.toNat - 0x30)
      if next < 0x80000000 then exponentOnto significand start negative next rest
      else if significand ≠ 0 ∧ !negative then .error (.behind .numberOutOfRange rest)
      else .ok (.fraction, rest.dropWhile Char.isDigit)
    else finish (c :: rest)
where
  finish (rest : Text) : Reading Json :=
    fraction? significand (if negative then start - exponent else start + exponent) rest

def exponent (significand : Nat) (start : Int) (s : Text) : Reading Json :=
  let (negative, digits) :=
    match s with
    | '+' :: rest => (false, rest)
    | '-' :: rest => (true, rest)
    | rest => (false, rest)
  match digits with
  | [] => .error (.here .endInValue [])
  | c :: rest =>
    if c.isDigit then exponentOnto significand start negative 0 (c :: rest)
    else .error (.here .invalidNumber (c :: rest))

def isExponentMark (s : Text) : Bool := s.head? = some 'e' ∨ s.head? = some 'E'

def places (significand : Nat) (start : Int) (s : Text) : Reading Json :=
  let digits := s.takeWhile Char.isDigit
  let rest := s.dropWhile Char.isDigit
  match digits, rest with
  | [], [] => .error (.here .endInValue [])
  | [], rest => .error (.here .invalidNumber rest)
  | digits, rest =>
    let (significand, left) := gather significand digits
    let start := start - (digits.length - left)
    if isExponentMark rest then exponent significand start (rest.drop 1)
    else fraction? significand start rest

def afterInteger (negative : Bool) (significand left : Nat) (rest : Text) : Reading Json :=
  if rest.head? = some '.' then places significand left (rest.drop 1)
  else if isExponentMark rest then exponent significand left (rest.drop 1)
  else if left ≠ 0 then fraction? significand left rest
  else if !negative then .ok (.integer significand, rest)
  else if 1 ≤ significand ∧ significand ≤ 0x8000000000000000 then .ok (.integer (-significand), rest)
  else .ok (.fraction, rest)

def number (negative : Bool) (s : Text) : Reading Json :=
  match s with
  | [] => .error (.here .endInValue [])
  | '0' :: rest =>
    if (rest.head?.map Char.isDigit).getD false then .error (.here .invalidNumber rest)
    else afterInteger negative 0 0 rest
  | c :: rest =>
    if c.isDigit then
      let (significand, left) := gather 0 ((c :: rest).takeWhile Char.isDigit)
      afterInteger negative significand left (rest.dropWhile Char.isDigit)
    else .error (.here .invalidNumber (c :: rest))

-- Items of a list up to its bracket, the first one standing in front. Every item
-- takes a character, so the length of the text bounds their number.
def items (item : Text → Reading Json) : Nat → List Json → Text → Reading Json
  | 0, _, s => .error (.here .endInList s)
  | bound + 1, done, s =>
    match item s with
    | .error stop => .error stop
    | .ok (value, rest) =>
      match skipBlanks rest with
      | [] => .error (.here .endInList [])
      | ']' :: rest => .ok (.list (value :: done).reverse, rest)
      | ',' :: rest =>
        match skipBlanks rest with
        | [] => .error (.here .endInValue [])
        | ']' :: rest => .error (.here .trailingComma (']' :: rest))
        | s => items item bound (value :: done) s
      | rest => .error (.here .expectedCommaOrBracket rest)

def member (item : Text → Reading Json) (s : Text) : Reading (Text × Json) :=
  match textOnto [] s with
  | .error stop => .error stop
  | .ok (key, rest) =>
    match skipBlanks rest with
    | [] => .error (.here .endInObject [])
    | ':' :: rest =>
      match item rest with
      | .error stop => .error stop
      | .ok (value, rest) => .ok ((key, value), rest)
    | rest => .error (.here .expectedColon rest)

def members (item : Text → Reading Json) : Nat → List (Text × Json) → Text → Reading Json
  | 0, _, s => .error (.here .endInObject s)
  | bound + 1, done, s =>
    match member item s with
    | .error stop => .error stop
    | .ok (entry, rest) =>
      match skipBlanks rest with
      | [] => .error (.here .endInObject [])
      | '\x7d' :: rest => .ok (.object (entry :: done).reverse, rest)
      | ',' :: rest =>
        match skipBlanks rest with
        | [] => .error (.here .endInValue [])
        | '\x7d' :: rest => .error (.here .trailingComma ('\x7d' :: rest))
        | '"' :: rest => members item bound (entry :: done) rest
        | rest => .error (.here .keyNotText rest)
      | rest => .error (.here .expectedCommaOrBrace rest)

def value : Nat → Text → Reading Json
  | 0, s => .error (.here .tooDeep s)
  | depth + 1, s =>
    match skipBlanks s with
    | [] => .error (.here .endInValue [])
    | 'n' :: rest => word .null "ull".toList rest
    | 't' :: rest => word (.bool true) "rue".toList rest
    | 'f' :: rest => word (.bool false) "alse".toList rest
    | '-' :: rest => number true rest
    | '"' :: rest => (textOnto [] rest).map fun read => (.text read.1, read.2)
    | '[' :: rest =>
      if depth = 0 then .error (.here .tooDeep ('[' :: rest))
      else match skipBlanks rest with
        | [] => .error (.here .endInList [])
        | ']' :: rest => .ok (.list [], rest)
        | s => items (value depth) s.length [] s
    | '\x7b' :: rest =>
      if depth = 0 then .error (.here .tooDeep ('\x7b' :: rest))
      else match skipBlanks rest with
        | [] => .error (.here .endInObject [])
        | '\x7d' :: rest => .ok (.object [], rest)
        | '"' :: rest => members (value depth) (rest.length + 1) [] rest
        | rest => .error (.here .keyNotText rest)
    | c :: rest =>
      if c.isDigit then number false (c :: rest) else .error (.here .expectedValue (c :: rest))

def depthLimit : Nat := 128

structure Fault where
  cause : Cause
  line : Nat
  column : Nat
  deriving DecidableEq, Repr

def Fault.message (fault : Fault) : String :=
  s!"{fault.cause.message} at line {fault.line} column {fault.column}"

def Stop.fault (document : Text) (stop : Stop) : Fault :=
  let offset := Utf8.size document - Utf8.size stop.rest + stop.extra
  let shown := (Utf8.encode document).take offset
  ⟨stop.cause, 1 + shown.count 0x0A, (shown.reverse.takeWhile (· != 0x0A)).length⟩

def read (document : Text) : Except Fault Json :=
  match value depthLimit document with
  | .error stop => .error (stop.fault document)
  | .ok (value, rest) =>
    match skipBlanks rest with
    | [] => .ok value
    | rest => .error ((Stop.here .trailingCharacters rest).fault document)

end Json

end ShaderConversion
