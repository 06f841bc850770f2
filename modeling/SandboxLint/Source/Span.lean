import SandboxLint.Text.Utf8

/-!
Positions in a source text. Offsets count bytes of the text's UTF-8 form; lines
are counted by newline bytes and columns by code points, both from one. A line
that is ASCII up to the offset needs no decoding.
-/

namespace SandboxLint

/-- A source text together with its bytes. -/
structure Source where
  text : String
  bytes : List UInt8 := Text.encode text.toList

def Source.ofText (text : String) : Source :=
  { text, bytes := Text.encode text.toList }

/-- A place in a source: line and column from one. -/
structure Position where
  line : Nat
  column : Nat
  deriving DecidableEq, Repr, Inhabited

/-- The places at which a node begins and ends, also as byte offsets. -/
structure Span where
  line : Nat
  column : Nat
  endLine : Nat
  endColumn : Nat
  startByte : Nat
  endByte : Nat
  deriving DecidableEq, Repr, Inhabited

namespace Source

def newline : UInt8 := 10

/-- The number of newlines before an offset. -/
def row (source : Source) (offset : Nat) : Nat :=
  (source.bytes.take offset).count newline

/-- The bytes between the last newline before an offset and the offset, or the end of the text. -/
def lineBytes (source : Source) (offset : Nat) : List UInt8 :=
  ((source.bytes.take offset).reverse.takeWhile (· != newline)).reverse

/-- The number of code points between the last newline before an offset and the offset; the
byte count itself on an ASCII line, also for an offset behind the end of the text. -/
def charColumn (source : Source) (offset : Nat) : Nat :=
  let before := source.lineBytes offset
  if before.all (· < 0x80) then before.length + (offset - source.bytes.length)
  else (Text.decode before).length

def position (source : Source) (offset : Nat) : Position :=
  { line := source.row offset + 1, column := source.charColumn offset + 1 }

def span (source : Source) (start stop : Nat) : Span :=
  let first := source.position start
  let last := source.position stop
  { line := first.line, column := first.column
    endLine := last.line, endColumn := last.column
    startByte := start, endByte := stop }

/-- The text between two offsets; bytes that encode no character are replaced. -/
def slice (source : Source) (start stop : Nat) : String :=
  String.ofList (Text.decode ((source.bytes.drop start).take (stop - start)))

end Source
end SandboxLint
