/-!
# Buffered standard output

The records of a search reach standard output through a buffered writer: a buffer of
`capacity` bytes in front of the stream.  A write that fits the room left in the buffer stays
there.  One that does not first writes the buffer out, and then stays in the buffer, or goes to
the stream at once when it is as large as the buffer.  A flush writes the buffer out.

A stream whose reader is gone refuses every write that reaches it with the broken pipe, and a
failed write leaves the buffer as it was.  An input/output error is carried as the system's
sentence for it, which names its error number and so its kind.
-/

namespace ShapeSearch
namespace Output

/-- What a write to a pipe whose reader is gone fails with (`EPIPE`, of kind `BrokenPipe`). -/
def brokenPipe : String := "Broken pipe (os error 32)"

/-- A stream that writes reach: what it took so far, and whether its reader is gone. -/
structure Stream where
  closed : Bool
  taken : String
  deriving Inhabited

/-- Hand bytes to the stream: a stream whose reader is gone refuses them. -/
def Stream.write (s : Stream) (bytes : String) : Except String Stream :=
  if s.closed then .error brokenPipe else .ok { s with taken := s.taken ++ bytes }

/-- A buffered writer over a stream: the bytes it holds back and how many it can hold. -/
structure Writer where
  stream : Stream
  buffer : String
  capacity : Nat
  deriving Inhabited

namespace Writer

/-- The capacity of a writer made without one: eight kibibytes. -/
def defaultCapacity : Nat := 8192

/-- A writer of the default capacity with nothing held back. -/
def new (stream : Stream) : Writer :=
  { stream, buffer := "", capacity := defaultCapacity }

/-- The room left in the buffer, in bytes. -/
def spare (w : Writer) : Nat :=
  w.capacity - w.buffer.utf8ByteSize

/-- Write the buffer out to the stream; nothing is written when it is empty. -/
def flushBuffer (w : Writer) : Except String Writer :=
  if w.buffer.isEmpty then .ok w
  else (w.stream.write w.buffer).map fun stream => { w with stream, buffer := "" }

/-- Write all of a text: into the buffer when it fits the room left, else after writing the
buffer out, and straight to the stream when it is as large as the buffer. -/
def writeAll (w : Writer) (text : String) : Except String Writer :=
  if text.utf8ByteSize < w.spare then .ok { w with buffer := w.buffer ++ text }
  else do
    let w ← if w.spare < text.utf8ByteSize then w.flushBuffer else pure w
    if w.capacity ≤ text.utf8ByteSize then (w.stream.write text).map fun stream => { w with stream }
    else pure { w with buffer := w.buffer ++ text }

/-- Write texts one after the other, stopping at the first failure. -/
def writeAllOf (w : Writer) (texts : List String) : Except String Writer :=
  texts.foldlM writeAll w

/-- Flush the writer: write its buffer out. -/
def flush (w : Writer) : Except String Writer :=
  w.flushBuffer

/-- The stream once the writer is dropped: the buffer is written out if the stream takes it,
and a failure then goes unreported. -/
def close (w : Writer) : Stream :=
  match w.flushBuffer with
  | .ok w => w.stream
  | .error _ => w.stream

end Writer

end Output
end ShapeSearch
