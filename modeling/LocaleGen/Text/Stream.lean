import LocaleGen.Text.Utf8

/-!
# Text that arrives in pieces

A file is read in chunks of bytes, and its text arrives as they are decoded. A fault in a chunk
therefore comes after the text of the chunks before, and its place counts from the first byte that
had no character yet. `Incoming.lines` reads a file for its lines, `Incoming.pieces` for pieces of
as many characters each.
-/

namespace LocaleGen

/-- A file that is being read. -/
structure Incoming where
  left : Bytes
  /-- The beginning of a character whose other bytes are still to come. -/
  pending : Bytes
  halfEnd : Bool

namespace Incoming

def start (bytes : Bytes) : Incoming := ⟨bytes, [], false⟩

/-- The text that is decoded next, each line end as a line feed. A carriage return at the end
waits. -/
def deliver (s : Incoming) (t : Text) (left pending : Bytes) (isLast : Bool) : Text × Incoming :=
  let t := if s.halfEnd then CodePoint.ofChar '\r' :: t else t
  let waits := !isLast && t.getLast? = some (CodePoint.ofChar '\r')
  (Text.normalizeNewlines (if waits then t.dropLast else t), ⟨left, pending, waits⟩)

/-- Whether the bytes end at a fault that could still turn out to be a character, or a surrogate,
for which two bytes wait as well. -/
def isUnfinished (bytes : Bytes) (f : Utf8.Fault) : Bool :=
  match f.reason, bytes.drop f.position with
  | .unexpectedEnd, _ => true
  | _, [a, b] => a = 0xED && 0xA0 ≤ b.toNat && b.toNat ≤ 0xBF
  | _, _ => false

/-- Reads so many bytes more; that there are none tells the end. -/
def read (s : Incoming) (count : Nat) : Except Utf8.Fault (Text × Incoming) :=
  let isLast := s.left.isEmpty
  let bytes := s.pending ++ s.left.take count
  let left := s.left.drop count
  match Utf8.decode bytes with
  | .ok t => .ok (s.deliver t left [] isLast)
  | .error f =>
    if isUnfinished bytes f && !isLast then
      .ok (s.deliver (Utf8.decodeLossy (bytes.take f.position)) left (bytes.drop f.position) isLast)
    else .error f

def chunkSize : Nat := 8192

/-- Reads on for lines after what has arrived; `fuel` bounds the number of chunks. -/
def linesFrom (fuel : Nat) (arrived : Text) (s : Incoming) : Text × Option Utf8.Fault :=
  match fuel with
  | 0 => (arrived, none)
  | fuel + 1 =>
    match s.read chunkSize with
    | .error f => (arrived, some f)
    | .ok (t, rest) =>
      if s.left.isEmpty then (arrived ++ t, none) else linesFrom fuel (arrived ++ t) rest

def lines (bytes : Bytes) : Text × Option Utf8.Fault :=
  linesFrom (bytes.length + 1) [] (start bytes)

def pieceSize : Nat := 4096

/-- Reads on for pieces: `arrived` is what whole pieces hold, `current` the beginning of the next
one. Where the last chunk had `bytes` bytes for `characters` characters, as many bytes are read as
the rest of the piece will take at this rate. -/
def piecesFrom (fuel : Nat) (bytes characters : Nat) (arrived current : Text) (s : Incoming) :
    Text × Option Utf8.Fault :=
  match fuel with
  | 0 => (arrived ++ current, none)
  | fuel + 1 =>
    if pieceSize ≤ current.length then
      piecesFrom fuel bytes characters (arrived ++ current.take pieceSize)
        (current.drop pieceSize) s
    else
      let wanted := pieceSize - current.length
      let count :=
        max chunkSize (if characters < bytes then bytes * wanted / characters else wanted)
      match s.read count with
      | .error f => (arrived, some f)
      | .ok (t, rest) =>
        if s.left.isEmpty && t.isEmpty then (arrived ++ current, none)
        else piecesFrom fuel (s.left.length - rest.left.length) t.length arrived (current ++ t) rest

def pieces (bytes : Bytes) : Text × Option Utf8.Fault :=
  piecesFrom (2 * bytes.length + 4) 0 0 [] [] (start bytes)

end Incoming

end LocaleGen
