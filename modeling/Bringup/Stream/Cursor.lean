import Bringup.Stream.Basic
/-!
# Streams over a buffer

A cursor is a buffer and a position in it. Over a fixed buffer writes replace bytes and stop
at its end. Over a growing buffer a write first cuts the buffer at the position.
-/

namespace Bringup

/-- A buffer and the position of the next byte. -/
structure Cursor where
  content : List UInt8
  position : Nat
  deriving DecidableEq, Repr

namespace Cursor

/-- The cursor at the start of a buffer. -/
def atStart (content : List UInt8) : Cursor := ⟨content, 0⟩

/-- The bytes from the position on. -/
def remaining (cursor : Cursor) : List UInt8 := cursor.content.drop cursor.position

/-- Moves over the next bytes. -/
def read (want : Nat) : EStateM Empty Cursor (List UInt8) := fun cursor =>
  let bytes := cursor.remaining.take want
  .ok bytes ⟨cursor.content, cursor.position + bytes.length⟩

/-- Replaces the bytes after the position, as far as the buffer reaches. -/
def overwrite (bytes : List UInt8) : EStateM Empty Cursor Nat := fun cursor =>
  let room := cursor.remaining
  let fitting := bytes.take room.length
  .ok fitting.length
    ⟨cursor.content.take cursor.position ++ fitting ++ room.drop fitting.length,
      cursor.position + fitting.length⟩

/-- Cuts the buffer at the position and appends the bytes. -/
def extend (bytes : List UInt8) : EStateM Empty Cursor Nat := fun cursor =>
  .ok bytes.length
    ⟨cursor.content.take cursor.position ++ bytes, cursor.position + bytes.length⟩

/-- The stream over a fixed buffer. -/
def fixed : ByteStream Cursor Empty where
  read := read
  write := overwrite
  flush := pure ()
  pending cursor := cursor.remaining.length

/-- The stream over a growing buffer. -/
def growing : ByteStream Cursor Empty where
  read := read
  write := extend
  flush := pure ()
  pending cursor := cursor.remaining.length

end Cursor

end Bringup
