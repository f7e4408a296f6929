import CodeExtension.Scheme.Reading

/-! Reading a stream that arrives in chunks. A unit that a chunk cuts off is kept until the rest
of it arrives; offsets of faults count from the start of the stream. -/
namespace CodeExtension

structure Stream where
  state : CodeState := {}
  /-- The bytes of a unit that is not complete yet. -/
  pending : List UInt8 := []
  /-- How many bytes of the stream come before the pending ones. -/
  position : Nat := 0
  deriving DecidableEq

/-- Ends the stream, which must not leave a unit incomplete. -/
def Stream.finish (stream : Stream) : Run Stream Char :=
  let ended : Stream := ⟨stream.state.shift false, [], stream.position⟩
  match stream.pending with
  | [] => .skip ended
  | _ :: _ => .stop ended (.incomplete stream.position)

namespace Scheme

/-- Reads a chunk. After a fault the rest of the chunk is lost and reading can go on with the
next one. -/
def feed (scheme : Scheme) (stream : Stream) (chunk : List UInt8) : Run Stream Char :=
  let buffer := stream.pending ++ chunk
  let run := scheme.decode stream.state buffer
  match run.fault with
  | none => .write run.output ⟨run.state, [], stream.position + buffer.length⟩
  | some (.incomplete offset) =>
    .write run.output ⟨run.state, buffer.drop offset, stream.position + offset⟩
  | some fault =>
    ⟨run.output, ⟨run.state, [], stream.position + buffer.length⟩,
      some (fault.rebase stream.position)⟩

/-- Feeds chunks one after the other, up to the first fault. -/
def feedAll (scheme : Scheme) (stream : Stream) : List (List UInt8) → Run Stream Char
  | [] => .skip stream
  | chunk :: rest => (scheme.feed stream chunk).andThen fun stream => scheme.feedAll stream rest

end Scheme

end CodeExtension
