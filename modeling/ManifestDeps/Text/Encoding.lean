/-
ManifestDeps.Text.Encoding — the Unicode encodings of a byte sequence:
which one it is in, its text, and the bytes of a text.

`Encoding.detect` goes by a byte order mark at the front, else by where
the zero bytes stand among the first four: the texts read here start with
two ASCII characters. `Encoding.decode` reports the first ill-formed
sequence by position and reason. A surrogate that stands alone has no
character. Where a reader lets it through, a character of its own stands for
it, one of the last 2048 for private use; texts that hold these themselves
are left out.
-/
namespace ManifestDeps.Text

/-- An encoding form with its byte order. -/
inductive Encoding where
  | utf8
  | utf16 (bigEndian : Bool)
  | utf32 (bigEndian : Bool)
  deriving Repr, DecidableEq

/-- The registered name of an encoding, in lower case. -/
def Encoding.name : Encoding → String
  | utf8 => "utf-8"
  | utf16 false => "utf-16-le"
  | utf16 true => "utf-16-be"
  | utf32 false => "utf-32-le"
  | utf32 true => "utf-32-be"

/-- Why a byte sequence is ill-formed. -/
inductive DecodeFault where
  /-- A byte that begins no sequence. -/
  | invalidStart
  /-- A byte that does not continue the sequence begun before it. -/
  | invalidContinuation
  /-- The bytes end inside a sequence. -/
  | unexpectedEnd
  /-- Fewer bytes are left than a code unit has. -/
  | truncated
  /-- The code unit is beyond the last code point. -/
  | outOfRange
  deriving Repr, DecidableEq

/-- The wording of a fault. -/
def DecodeFault.message : DecodeFault → String
  | invalidStart => "invalid start byte"
  | invalidContinuation => "invalid continuation byte"
  | unexpectedEnd => "unexpected end of data"
  | truncated => "truncated data"
  | outOfRange => "code point not in range(0x110000)"

/-- The first ill-formed sequence of a byte sequence. -/
structure DecodeError where
  /-- The encoding that was expected. -/
  encoding : Encoding
  /-- Position of the first offending byte. -/
  position : Nat
  /-- The offending bytes, at least one. -/
  bytes : List UInt8
  /-- What is wrong with them. -/
  fault : DecodeFault
  deriving Repr, DecidableEq

/-- Two lower-case hexadecimal digits. -/
def hexByte (b : UInt8) : String :=
  let digits := Nat.toDigits 16 b.toNat
  String.ofList (List.replicate (2 - digits.length) '0' ++ digits)

/-- One byte is shown with its value, several by their positions. -/
def DecodeError.message (e : DecodeError) : String :=
  let place := match e.bytes with
    | [b] => "byte 0x" ++ hexByte b ++ " in position " ++ toString e.position
    | bytes => "bytes in position " ++ toString e.position ++ "-"
        ++ toString (e.position + bytes.length - 1)
  "'" ++ e.encoding.name ++ "' codec can't decode " ++ place ++ ": " ++ e.fault.message

/-! ## Surrogates -/

/-- The unit begins a surrogate pair. -/
def isHighSurrogate (n : Nat) : Bool :=
  0xd800 ≤ n && n < 0xdc00

/-- The unit ends a surrogate pair. -/
def isLowSurrogate (n : Nat) : Bool :=
  0xdc00 ≤ n && n < 0xe000

/-- The code point of a surrogate pair. -/
def joinSurrogates (high low : Nat) : Nat :=
  0x10000 + (high - 0xd800) * 1024 + (low - 0xdc00)

/-- The character of a code point, or the one that stands for a surrogate. -/
def charOfCodePoint (n : Nat) : Char :=
  if isHighSurrogate n || isLowSurrogate n then Char.ofNat (0x10f800 + (n - 0xd800))
  else Char.ofNat n

/-- The character stands for a surrogate. -/
def isLoneSurrogate (c : Char) : Bool :=
  0x10f800 ≤ c.toNat

/-! ## UTF-8 -/

/-- The byte continues a sequence. -/
def isContinuation (b : UInt8) : Bool :=
  0x80 ≤ b && b < 0xc0

/-- The six payload bits of a continuation byte. -/
def payload (b : UInt8) : Nat :=
  b.toNat % 64

/-- The second byte may follow the first byte of a longer sequence: no
overlong form, no surrogate and nothing beyond the last code point. -/
def isSecondOf (first second : UInt8) : Bool :=
  isContinuation second &&
    !(first == 0xe0 && second < 0xa0) && !(first == 0xed && 0xa0 ≤ second) &&
    !(first == 0xf0 && second < 0x90) && !(first == 0xf4 && 0x90 ≤ second)

/-- Decode UTF-8 from position `pos`, with the characters read before in
`acc`, last first. With `surrogates`, an encoded surrogate is let through. -/
def decodeUtf8From (surrogates : Bool) (pos : Nat) (acc : List Char) :
    List UInt8 → Except DecodeError (List Char)
  | [] => .ok acc.reverse
  | b :: rest =>
    let fail (bytes : List UInt8) (fault : DecodeFault) : Except DecodeError (List Char) :=
      .error ⟨.utf8, pos, bytes, fault⟩
    if b < 0x80 then
      decodeUtf8From surrogates (pos + 1) (Char.ofNat b.toNat :: acc) rest
    else if b < 0xc2 then
      fail [b] .invalidStart
    else if b < 0xe0 then
      match rest with
      | [] => fail [b] .unexpectedEnd
      | c :: rest =>
        if isContinuation c then
          decodeUtf8From surrogates (pos + 2)
            (Char.ofNat (b.toNat % 32 * 64 + payload c) :: acc) rest
        else fail [b] .invalidContinuation
    else if b < 0xf0 then
      match rest with
      | [] => fail [b] .unexpectedEnd
      | [c] => if isSecondOf b c then fail [b, c] .unexpectedEnd
          else fail [b] .invalidContinuation
      | c :: d :: rest =>
        if isSecondOf b c then
          if isContinuation d then
            decodeUtf8From surrogates (pos + 3)
              (Char.ofNat (b.toNat % 16 * 4096 + payload c * 64 + payload d) :: acc) rest
          else fail [b, c] .invalidContinuation
        else if surrogates && b == 0xed && isContinuation c && isContinuation d then
          decodeUtf8From surrogates (pos + 3)
            (charOfCodePoint (b.toNat % 16 * 4096 + payload c * 64 + payload d) :: acc) rest
        else fail [b] .invalidContinuation
    else if b < 0xf5 then
      match rest with
      | [] => fail [b] .unexpectedEnd
      | [c] => if isSecondOf b c then fail [b, c] .unexpectedEnd
          else fail [b] .invalidContinuation
      | [c, d] =>
        if isSecondOf b c then
          if isContinuation d then fail [b, c, d] .unexpectedEnd
          else fail [b, c] .invalidContinuation
        else fail [b] .invalidContinuation
      | c :: d :: e :: rest =>
        if isSecondOf b c then
          if isContinuation d then
            if isContinuation e then
              decodeUtf8From surrogates (pos + 4)
                (Char.ofNat (b.toNat % 8 * 262144 + payload c * 4096 + payload d * 64 + payload e)
                  :: acc) rest
            else fail [b, c, d] .invalidContinuation
          else fail [b, c] .invalidContinuation
        else fail [b] .invalidContinuation
    else fail [b] .invalidStart

/-- The UTF-8 bytes of a character. -/
def encodeUtf8Char (c : Char) : List UInt8 :=
  let n := c.toNat
  if n < 0x80 then [n.toUInt8]
  else if n < 0x800 then [(0xc0 + n / 64).toUInt8, (0x80 + n % 64).toUInt8]
  else if n < 0x10000 then
    [(0xe0 + n / 4096).toUInt8, (0x80 + n / 64 % 64).toUInt8, (0x80 + n % 64).toUInt8]
  else
    [(0xf0 + n / 262144).toUInt8, (0x80 + n / 4096 % 64).toUInt8,
      (0x80 + n / 64 % 64).toUInt8, (0x80 + n % 64).toUInt8]

/-! ## UTF-16 and UTF-32 -/

/-- The number that two bytes stand for. -/
def unit16 (bigEndian : Bool) (a b : UInt8) : Nat :=
  if bigEndian then a.toNat * 256 + b.toNat else b.toNat * 256 + a.toNat

/-- The number that four bytes stand for. -/
def unit32 (bigEndian : Bool) (a b c d : UInt8) : Nat :=
  if bigEndian then unit16 true a b * 65536 + unit16 true c d
  else unit16 false c d * 65536 + unit16 false a b

/-- Decode UTF-16 from position `pos`; surrogates that stand alone are let
through. -/
def decodeUtf16From (bigEndian : Bool) (pos : Nat) (acc : List Char) :
    List UInt8 → Except DecodeError (List Char)
  | [] => .ok acc.reverse
  | [a] => .error ⟨.utf16 bigEndian, pos, [a], .truncated⟩
  | a :: b :: rest =>
    let high := unit16 bigEndian a b
    match rest with
    | c :: d :: rest' =>
      let low := unit16 bigEndian c d
      if isHighSurrogate high && isLowSurrogate low then
        decodeUtf16From bigEndian (pos + 4) (Char.ofNat (joinSurrogates high low) :: acc) rest'
      else
        decodeUtf16From bigEndian (pos + 2) (charOfCodePoint high :: acc) (c :: d :: rest')
    | rest => decodeUtf16From bigEndian (pos + 2) (charOfCodePoint high :: acc) rest

/-- Decode UTF-32 from position `pos`; surrogates are let through. -/
def decodeUtf32From (bigEndian : Bool) (pos : Nat) (acc : List Char) :
    List UInt8 → Except DecodeError (List Char)
  | [] => .ok acc.reverse
  | a :: b :: c :: d :: rest =>
    let n := unit32 bigEndian a b c d
    if n < 0x110000 then
      decodeUtf32From bigEndian (pos + 4) (charOfCodePoint n :: acc) rest
    else .error ⟨.utf32 bigEndian, pos, [a, b, c, d], .outOfRange⟩
  | bytes => .error ⟨.utf32 bigEndian, pos, bytes, .truncated⟩

/-- The two bytes of a 16-bit unit. -/
def bytes16 (bigEndian : Bool) (n : Nat) : List UInt8 :=
  if bigEndian then [(n / 256).toUInt8, (n % 256).toUInt8]
  else [(n % 256).toUInt8, (n / 256).toUInt8]

/-- The UTF-16 bytes of a character. -/
def encodeUtf16Char (bigEndian : Bool) (c : Char) : List UInt8 :=
  let n := c.toNat
  if n < 0x10000 then bytes16 bigEndian n
  else bytes16 bigEndian (0xd800 + (n - 0x10000) / 1024)
    ++ bytes16 bigEndian (0xdc00 + (n - 0x10000) % 1024)

/-- The UTF-32 bytes of a character. -/
def encodeUtf32Char (bigEndian : Bool) (c : Char) : List UInt8 :=
  let n := c.toNat
  if bigEndian then bytes16 true (n / 65536) ++ bytes16 true (n % 65536)
  else bytes16 false (n % 65536) ++ bytes16 false (n / 65536)

/-! ## One interface for all of them -/

/-- The byte order mark in an encoding. -/
def Encoding.mark : Encoding → List UInt8
  | utf8 => [0xef, 0xbb, 0xbf]
  | utf16 false => [0xff, 0xfe]
  | utf16 true => [0xfe, 0xff]
  | utf32 false => [0xff, 0xfe, 0, 0]
  | utf32 true => [0, 0, 0xfe, 0xff]

/-- The bytes of a text, without a byte order mark. -/
def Encoding.encode (e : Encoding) (cs : List Char) : List UInt8 :=
  match e with
  | utf8 => cs.flatMap encodeUtf8Char
  | utf16 bigEndian => cs.flatMap (encodeUtf16Char bigEndian)
  | utf32 bigEndian => cs.flatMap (encodeUtf32Char bigEndian)

/-- Decode from position `pos`, letting surrogates through. -/
def Encoding.decodeFrom (e : Encoding) (pos : Nat) (bytes : List UInt8) :
    Except DecodeError (List Char) :=
  match e with
  | utf8 => decodeUtf8From true pos [] bytes
  | utf16 bigEndian => decodeUtf16From bigEndian pos [] bytes
  | utf32 bigEndian => decodeUtf32From bigEndian pos [] bytes

/-- The encoding of a text that starts with two ASCII characters, and the
length of the byte order mark in front of it. -/
def Encoding.detect (bytes : List UInt8) : Encoding × Nat :=
  if (utf32 true).mark.isPrefixOf bytes then (utf32 true, 4)
  else if (utf32 false).mark.isPrefixOf bytes then (utf32 false, 4)
  else if (utf16 true).mark.isPrefixOf bytes then (utf16 true, 2)
  else if (utf16 false).mark.isPrefixOf bytes then (utf16 false, 2)
  else if utf8.mark.isPrefixOf bytes then (utf8, 3)
  else match bytes with
    | a :: b :: c :: d :: _ =>
      if a = 0 then (if b = 0 then (utf32 true, 0) else (utf16 true, 0))
      else if b = 0 then (if c = 0 ∧ d = 0 then (utf32 false, 0) else (utf16 false, 0))
      else (utf8, 0)
    | [a, b] =>
      if a = 0 then (utf16 true, 0)
      else if b = 0 then (utf16 false, 0)
      else (utf8, 0)
    | _ => (utf8, 0)

/-- The text of bytes in a detected encoding. Positions count from the
first byte, except that in UTF-8 they count from behind the mark. -/
def decodeDetected (bytes : List UInt8) : Except DecodeError (List Char) :=
  let (encoding, skipped) := Encoding.detect bytes
  encoding.decodeFrom (if encoding = .utf8 then 0 else skipped) (bytes.drop skipped)

/-- The text of UTF-8 bytes, in which no surrogate may be encoded. -/
def decodeUtf8 (bytes : List UInt8) : Except DecodeError (List Char) :=
  decodeUtf8From false 0 [] bytes

/-- The UTF-8 bytes of a text. -/
def encodeUtf8 (s : String) : List UInt8 :=
  Encoding.utf8.encode s.toList

end ManifestDeps.Text
