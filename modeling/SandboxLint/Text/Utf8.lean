/-!
UTF-8 with replacement: the bytes of a text, and the text of arbitrary bytes. In
bytes that are not well formed, each longest initial piece of a character
that cannot be completed becomes one U+FFFD, and so does a byte that can begin
no character.
-/

namespace SandboxLint.Text

/-- The character that stands for bytes that encode none. -/
def replacement : Char := '\uFFFD'

def encode (cs : List Char) : List UInt8 :=
  cs.flatMap String.utf8EncodeChar

/-- What the first byte of a character announces: the bits it contributes, how many
bytes follow it, and the range in which the byte after it must lie. -/
structure Lead where
  bits : Nat
  tails : Nat
  low : Nat := 0x80
  high : Nat := 0xBF

/-- The announcement of a first byte, if it can begin a character. -/
def lead? (b : UInt8) : Option Lead :=
  let n := b.toNat
  if n < 0x80 then some ⟨n, 0, 0x80, 0xBF⟩
  else if n < 0xC2 then none
  else if n < 0xE0 then some ⟨n - 0xC0, 1, 0x80, 0xBF⟩
  -- the narrower ranges leave out longer forms, surrogates and values beyond U+10FFFF
  else if n = 0xE0 then some ⟨0, 2, 0xA0, 0xBF⟩
  else if n = 0xED then some ⟨0xD, 2, 0x80, 0x9F⟩
  else if n < 0xF0 then some ⟨n - 0xE0, 2, 0x80, 0xBF⟩
  else if n = 0xF0 then some ⟨0, 3, 0x90, 0xBF⟩
  else if n < 0xF4 then some ⟨n - 0xF0, 3, 0x80, 0xBF⟩
  else if n = 0xF4 then some ⟨4, 3, 0x80, 0x8F⟩
  else none

/-- The state between two bytes: at the beginning of a character, or inside one with the
bits so far, the bytes still due after the next, and the range of the next. -/
inductive Progress where
  | ready
  | inside (bits due low high : Nat)

/-- Starts a character at `b`. -/
def begin? (b : UInt8) : Option Char × Progress :=
  match lead? b with
  | none => (some replacement, .ready)
  | some ⟨bits, 0, _, _⟩ => (some (Char.ofNat bits), .ready)
  | some ⟨bits, due + 1, low, high⟩ => (none, .inside bits due low high)

/-- Reads bytes from a state. -/
def decodeFrom : Progress → List UInt8 → List Char
  | .ready, [] => []
  | .inside _ _ _ _, [] => [replacement]
  | .ready, b :: rest =>
      match begin? b with
      | (some c, next) => c :: decodeFrom next rest
      | (none, next) => decodeFrom next rest
  | .inside bits due low high, b :: rest =>
      if low ≤ b.toNat ∧ b.toNat ≤ high then
        let bits := bits * 64 + b.toNat % 64
        match due with
        | 0 => Char.ofNat bits :: decodeFrom .ready rest
        | due + 1 => decodeFrom (.inside bits due 0x80 0xBF) rest
      else
        -- the unfinished character is closed, and the byte may begin a new one
        match begin? b with
        | (some c, next) => replacement :: c :: decodeFrom next rest
        | (none, next) => replacement :: decodeFrom next rest

/-- The text of bytes, with replacements. -/
def decode (bytes : List UInt8) : List Char :=
  decodeFrom .ready bytes

/-- The text of a file's bytes: a byte order mark at the beginning is not part of it. -/
def decodeFile (bytes : List UInt8) : String :=
  match bytes with
  | 0xEF :: 0xBB :: 0xBF :: rest => String.ofList (decode rest)
  | _ => String.ofList (decode bytes)

end SandboxLint.Text
