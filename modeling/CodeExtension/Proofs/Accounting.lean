import CodeExtension.Profile.Registered
import CodeExtension.Proofs.Chunking
import CodeExtension.Proofs.Grammar

/-! The accounts of a stream. However chunks, resets and states put in by hand follow each other,
and whether or not chunks met a fault, every byte that came in was read or dropped or is still
pending, the position says how many are not pending, and what is pending is short. -/
namespace CodeExtension

namespace Escape

/-- A sequence that is cut off has as few bytes behind its ESC as there may be intermediates: so
has the announcer, with two bytes of what it announces. -/
theorem read_incomplete {rest : List UInt8} (cut : read rest = .incomplete) :
    rest.length ≤ maxIntermediates := by
  cases read_eq_incomplete_iff.mp cut with
  | intermediates few all => exact few
  | @announcer rest begun short =>
    -- A beginning as long as the whole would be the whole.
    have shorter : rest.length < [esc, 0x24, 0x42].length :=
      Nat.lt_of_le_of_ne begun.length_le fun same => short (begun.eq_of_length same)
    exact Nat.succ_le_succ shorter

end Escape

/-- The longest unit that can be cut off: ESC, and as many bytes behind it as may be
intermediates. -/
def Stream.maxPending : Nat := 1 + Escape.maxIntermediates

namespace Scheme

variable {scheme : Scheme} {s : CodeState} {input : List UInt8} {offset : Nat}

theorem Stops.length_le (cut : scheme.Stops s input (.incomplete offset)) :
    input.length ≤ Stream.maxPending := by
  cases cut with
  | unfinished cut =>
    have short := Escape.read_incomplete cut
    simp only [List.length_cons, Stream.maxPending]
    omega
  | singleShiftCut => decide
  | doubleCut => exact Nat.le_add_right 1 Escape.maxIntermediates

theorem decode_incomplete (cut : (scheme.decode s input).fault = some (.incomplete offset)) :
    (input.drop offset).length ≤ Stream.maxPending := by
  obtain ⟨-, -, after⟩ := scheme.decode_divides s input
  obtain ⟨cause, stops, rebased⟩ := after _ cut
  have place : (scheme.decode s input).reach input.length = offset := by
    simp [Run.reach, cut, Fault.offset]
  rw [place] at stops
  cases cause with
  | incomplete start => exact stops.length_le
  | _ => contradiction

end Scheme

/-- Of `received` bytes those before the position are done with and the others, which are few, are
pending. -/
structure Stream.Accounts (stream : Stream) (received : Nat) : Prop where
  total : stream.position + stream.pending.length = received
  short : stream.pending.length ≤ Stream.maxPending

inductive Stream.Action where
  | feed (chunk : List UInt8)
  | reset
  | setState (state : CodeState)

namespace Stream.Action

def bytes : Action → List UInt8
  | .feed chunk => chunk
  | .reset | .setState _ => []

def run (scheme : Scheme) (stream : Stream) : Action → Run Stream Char
  | .feed chunk => scheme.feed stream chunk
  | .reset => .skip { stream with state := stream.state.shift false }
  | .setState state => .skip { stream with state }

end Stream.Action

namespace Scheme

def streamAfter (scheme : Scheme) (actions : List Stream.Action) : Stream :=
  actions.foldl (fun stream action => (action.run scheme stream).state) {}

variable (scheme : Scheme) {stream : Stream} {received : Nat}

theorem accounts_feed (accounts : stream.Accounts received) (chunk : List UInt8) :
    (scheme.feed stream chunk).state.Accounts (received + chunk.length) := by
  have total := accounts.total
  have bound := (scheme.decode_divides stream.state (stream.pending ++ chunk)).1
  rcases (scheme.decode stream.state (stream.pending ++ chunk)).soft_or_hard with soft |
    ⟨fault, stopped, hard⟩
  · rw [scheme.feed_of_soft soft]
    constructor
    · simp only [Run.write, List.length_drop, List.length_append] at bound ⊢
      omega
    · simp only [Run.write]
      cases found : (scheme.decode stream.state (stream.pending ++ chunk)).fault with
      | none => simp [Run.reach, found]
      | some fault =>
        have recoverable := soft fault found
        cases fault with
        | incomplete offset =>
          simpa only [Run.reach, found, Fault.offset] using decode_incomplete found
        | _ => contradiction
  · rw [scheme.feed_of_hard stopped hard]
    constructor
    · simp only [List.length_append, List.length_nil]
      omega
    · simp

/-- Only a chunk brings bytes, and nothing else touches those that are pending. -/
theorem accounts_action (accounts : stream.Accounts received) (action : Stream.Action) :
    (action.run scheme stream).state.Accounts (received + action.bytes.length) := by
  cases action with
  | feed chunk => exact scheme.accounts_feed accounts chunk
  | reset => exact ⟨accounts.total, accounts.short⟩
  | setState state => exact ⟨accounts.total, accounts.short⟩

theorem accounts_foldl (accounts : stream.Accounts received) (actions : List Stream.Action) :
    (actions.foldl (fun stream action => (action.run scheme stream).state) stream).Accounts
      (received + (actions.flatMap (·.bytes)).length) := by
  induction actions generalizing stream received with
  | nil => exact accounts
  | cons action rest ih =>
    have later := ih (scheme.accounts_action accounts action)
    rwa [Nat.add_assoc, ← List.length_append, ← List.flatMap_cons] at later

variable {scheme : Scheme} {stream : Stream}

/-- A chunk that meets a fault is dropped with what was pending, and the fault is in the part of the
stream that the chunk brought to an end. -/
theorem feed_fault {chunk : List UInt8} {fault : Fault}
    (stopped : (scheme.feed stream chunk).fault = some fault) :
    (scheme.feed stream chunk).state.pending = [] ∧ stream.position ≤ fault.offset ∧
      fault.Fits (scheme.feed stream chunk).state.position := by
  rcases (scheme.decode stream.state (stream.pending ++ chunk)).soft_or_hard with soft |
    ⟨cause, found, hard⟩
  · simp [scheme.feed_of_soft soft, Run.write] at stopped
  · rw [scheme.feed_of_hard found hard] at stopped ⊢
    obtain rfl := Option.some.inj stopped
    refine ⟨rfl, ?_, (scheme.decode_fault_fits _ found).rebase stream.position⟩
    rw [Fault.offset_rebase]
    exact Nat.le_add_left _ _

/-- After any actions the position and the pending bytes, at most five, make up all that was fed.
The end of the stream fails just when some are pending, at the position. A further chunk that meets
a fault leaves none pending, and what the fault covers lies between the positions before and after
that chunk. -/
theorem streamAfter_accounts (scheme : Scheme) (actions : List Stream.Action) :
    let stream := scheme.streamAfter actions
    stream.position + stream.pending.length = (actions.flatMap (·.bytes)).length ∧
    stream.pending.length ≤ 5 ∧
    (∀ chunk fault, (scheme.feed stream chunk).fault = some fault →
      let next := scheme.streamAfter (actions ++ [.feed chunk])
      next.pending = [] ∧ stream.position ≤ fault.offset ∧
      ∀ offset length, fault = .invalidByte offset length ∨ fault = .invalidEscape offset length →
        offset + length ≤ next.position) ∧
    stream.finish.fault =
      if stream.pending = [] then none else some (.incomplete stream.position) := by
  intro stream
  have empty : Stream.Accounts {} 0 := ⟨rfl, Nat.zero_le _⟩
  have accounts : stream.Accounts (0 + (actions.flatMap (·.bytes)).length) :=
    scheme.accounts_foldl empty actions
  rw [Nat.zero_add] at accounts
  refine ⟨accounts.total, accounts.short, ?_, stream.finish_fault⟩
  intro chunk fault stopped
  have further : scheme.streamAfter (actions ++ [.feed chunk]) =
      (scheme.feed stream chunk).state := by
    simp [streamAfter, stream, Stream.Action.run]
  obtain ⟨dropped, after, fits⟩ := feed_fault stopped
  rw [further]
  refine ⟨dropped, after, ?_⟩
  rintro offset length (rfl | rfl)
  · exact fits.2
  · exact fits.2

/-- A chunk meets a fault and is dropped; after it as many as five bytes are left pending, those of
the announcer and two of what it announces. -/
theorem streamAfter_interrupted :
    let scheme : Scheme := ⟨.japanese, .empty⟩
    let actions : List Stream.Action := [.feed [0x61, 0x80, 0x62], .setState { g0 := .jisRoman },
      .feed [0x5C, 0x1B, 0x26], .reset, .feed [0x40, 0x1B, 0x24]]
    let stream := scheme.streamAfter actions
    (scheme.feed {} [0x61, 0x80, 0x62]).fault = some (.invalidByte 1 1) ∧
      1 + 1 ≤ (scheme.streamAfter [.feed [0x61, 0x80, 0x62]]).position ∧
      stream.pending.length = 5 ∧ stream.position + stream.pending.length = 9 ∧
      stream.finish.fault = some (.incomplete stream.position) := by
  intro scheme actions stream
  have stopped : (scheme.feed {} [0x61, 0x80, 0x62]).fault = some (.invalidByte 1 1) := by
    decide +kernel
  have five : stream.pending.length = 5 := by decide +kernel
  have pending : stream.pending ≠ [] := List.ne_nil_of_length_pos (by omega)
  obtain ⟨-, -, faults, -⟩ := streamAfter_accounts scheme []
  obtain ⟨total, -, -, ended⟩ := streamAfter_accounts scheme actions
  obtain ⟨-, -, covered⟩ := faults _ _ stopped
  rw [if_neg pending] at ended
  exact ⟨stopped, covered 1 1 (.inl rfl), five, total, ended⟩

end Scheme

end CodeExtension
