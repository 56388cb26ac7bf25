import WorkspaceIndex.OsText
/-!
# Reading bytes as UTF-8

A step reads one character off the front of a list of bytes, or finds that no character begins
there. In the second case it takes the longest run of bytes that could still have begun a
character, and at least one byte, as one letter that is none. Strict decoding fails at the first
such run; lenient decoding puts one replacement character in its place.
-/

namespace WorkspaceIndex.Text.Utf8

/-- Whether a byte may continue a character. -/
def isContinuation (b : UInt8) : Bool := 0x80 ≤ b && b ≤ 0xbf

/-- Whether `second` may follow the first byte of a character of three bytes. -/
def startsThree (first second : UInt8) : Bool :=
  if first = 0xe0 then 0xa0 ≤ second && second ≤ 0xbf
  else if first = 0xed then 0x80 ≤ second && second ≤ 0x9f
  else isContinuation second

/-- Whether `second` may follow the first byte of a character of four bytes. -/
def startsFour (first second : UInt8) : Bool :=
  if first = 0xf0 then 0x90 ≤ second && second ≤ 0xbf
  else if first = 0xf4 then 0x80 ≤ second && second ≤ 0x8f
  else isContinuation second

/-- The character with the given leading bits, followed by six bits of each continuation byte. -/
def assemble (leading : Nat) (continuation : List UInt8) : Char :=
  Char.ofNat (continuation.foldl (fun value b ↦ 64 * value + (b.toNat - 0x80)) leading)

/-- The letters of a list of bytes in order. -/
def decode : List UInt8 → OsText
  | [] => []
  | b :: rest =>
    if b < 0x80 then .char (Char.ofNat b.toNat) :: decode rest
    else if 0xc2 ≤ b && b ≤ 0xdf then
      match rest with
      | c :: rest =>
        if isContinuation c then .char (assemble (b.toNat - 0xc0) [c]) :: decode rest
        else .stray [b] :: decode (c :: rest)
      | [] => [.stray [b]]
    else if 0xe0 ≤ b && b ≤ 0xef then
      match rest with
      | c :: rest =>
        if startsThree b c then
          match rest with
          | d :: rest =>
            if isContinuation d then .char (assemble (b.toNat - 0xe0) [c, d]) :: decode rest
            else .stray [b, c] :: decode (d :: rest)
          | [] => [.stray [b, c]]
        else .stray [b] :: decode (c :: rest)
      | [] => [.stray [b]]
    else if 0xf0 ≤ b && b ≤ 0xf4 then
      match rest with
      | c :: rest =>
        if startsFour b c then
          match rest with
          | d :: rest =>
            if isContinuation d then
              match rest with
              | e :: rest =>
                if isContinuation e then
                  .char (assemble (b.toNat - 0xf0) [c, d, e]) :: decode rest
                else .stray [b, c, d] :: decode (e :: rest)
              | [] => [.stray [b, c, d]]
            else .stray [b, c] :: decode (d :: rest)
          | [] => [.stray [b, c]]
        else .stray [b] :: decode (c :: rest)
      | [] => [.stray [b]]
    else .stray [b] :: decode rest

/-- The text of bytes that are valid throughout. -/
def decode? (bytes : List UInt8) : Option String := (decode bytes).text?

/-- The text of any bytes, with the replacement character in the place of invalid ones. -/
def decodeLenient (bytes : List UInt8) : String := (decode bytes).text

end WorkspaceIndex.Text.Utf8
