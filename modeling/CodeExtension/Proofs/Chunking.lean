import CodeExtension.Proofs.Parts
import CodeExtension.Scheme.Stream

/-! Chunks do not matter. A stream that is fed piece by piece gives the text, the state and the
fault of its bytes read at once; only how many bytes a fault made it drop can differ. -/
namespace CodeExtension

/-- Nothing stopped the run but, perhaps, the end of its input. -/
def Run.Soft {σ α : Type} (run : Run σ α) : Prop :=
  ∀ fault, run.fault = some fault → fault.isRecoverable

/-- Two readings of a stream that nobody can tell apart from their text, state or fault. After a
fault the number of bytes lost with the chunk is left out. -/
structure Run.Alike (a b : Run Stream Char) : Prop where
  output : a.output = b.output
  fault : a.fault = b.fault
  code : a.state.state = b.state.state
  stream : a.fault = none → a.state = b.state

theorem Run.soft_or_hard {σ α : Type} (run : Run σ α) :
    run.Soft ∨ ∃ fault, run.fault = some fault ∧ fault.isRecoverable = false := by
  cases stopped : run.fault with
  | none => exact .inl fun fault found => by simp [stopped] at found
  | some fault =>
    cases kind : fault.isRecoverable with
    | false => exact .inr ⟨fault, rfl, kind⟩
    | true =>
      refine .inl fun other found => ?_
      obtain rfl : fault = other := Option.some.inj (stopped.symm.trans found)
      exact kind

theorem Run.Soft.followedBy {σ α : Type} {state : σ} {next : σ → Run σ α}
    (soft : (next state).Soft) (output : List α) (width : Nat) :
    ((Run.write output state).followedBy width next).Soft := by
  intro fault found
  obtain ⟨inner, stopped, rfl⟩ := Option.map_eq_some_iff.mp found
  rw [Fault.isRecoverable_rebase]
  exact soft inner stopped

theorem Stream.finish_fault (stream : Stream) :
    stream.finish.fault =
      if stream.pending = [] then none else some (.incomplete stream.position) := by
  simp only [finish]
  split
  · next none => rw [none]; rfl
  · next some => rw [some]; rfl

namespace Scheme

variable (scheme : Scheme)

theorem feed_of_soft {stream : Stream} {chunk : List UInt8}
    (soft : (scheme.decode stream.state (stream.pending ++ chunk)).Soft) :
    let run := scheme.decode stream.state (stream.pending ++ chunk)
    let reached := run.reach (stream.pending ++ chunk).length
    scheme.feed stream chunk = .write run.output
      ⟨run.state, (stream.pending ++ chunk).drop reached, stream.position + reached⟩ := by
  intro run reached
  cases stopped : run.fault with
  | none =>
    have all : reached = (stream.pending ++ chunk).length := by simp [reached, Run.reach, stopped]
    rw [all, List.drop_length]
    simp only [feed]
    rw [show (scheme.decode stream.state (stream.pending ++ chunk)).fault = none from stopped]
  | some fault =>
    have recoverable := soft fault stopped
    cases fault with
    | incomplete offset =>
      have cut : reached = offset := by simp [reached, Run.reach, stopped, Fault.offset]
      rw [cut]
      simp only [feed]
      rw [show (scheme.decode stream.state (stream.pending ++ chunk)).fault =
        some (.incomplete offset) from stopped]
    | _ => contradiction

theorem feed_of_hard {stream : Stream} {chunk : List UInt8} {fault : Fault}
    (stopped : (scheme.decode stream.state (stream.pending ++ chunk)).fault = some fault)
    (hard : fault.isRecoverable = false) :
    let run := scheme.decode stream.state (stream.pending ++ chunk)
    scheme.feed stream chunk =
      ⟨run.output, ⟨run.state, [], stream.position + (stream.pending ++ chunk).length⟩,
        some (fault.rebase stream.position)⟩ := by
  intro run
  cases fault with
  | incomplete offset => contradiction
  | _ =>
    simp only [feed]
    rw [stopped]

/-- Unless the first chunk meets a fault, two chunks are like one. -/
theorem feed_append_of_soft {stream : Stream} {first : List UInt8}
    (soft : (scheme.decode stream.state (stream.pending ++ first)).Soft) (second : List UInt8) :
    scheme.feed stream (first ++ second) =
      (scheme.feed stream first).andThen fun stream => scheme.feed stream second := by
  have fed := scheme.feed_of_soft soft
  have whole := scheme.decode_append stream.state (stream.pending ++ first) second
  have bound := (scheme.decode_divides stream.state (stream.pending ++ first)).1
  dsimp only at fed whole bound
  generalize scheme.decode stream.state (stream.pending ++ first) = run at fed whole bound
  generalize run.reach (stream.pending ++ first).length = reached at fed whole bound
  rw [fed, Run.andThen_of_clear rfl]
  rw [List.append_assoc] at whole
  simp only [Run.write]
  generalize kept : (stream.pending ++ first).drop reached = pending at whole ⊢
  -- What is left of the first chunk stands before the second one in both readings.
  have left : (stream.pending ++ (first ++ second)).drop reached = pending ++ second := by
    rw [← List.append_assoc, List.drop_append_of_le_length bound, kept]
  have count : (stream.pending ++ (first ++ second)).length =
      reached + (pending ++ second).length := by
    rw [← left, List.length_drop]
    simp only [List.length_append] at bound ⊢
    omega
  rcases (scheme.decode run.state (pending ++ second)).soft_or_hard with later |
    ⟨fault, stopped, hard⟩
  · have through : ((Run.write run.output run.state).followedBy reached fun s =>
        scheme.decode s (pending ++ second)).Soft := Run.Soft.followedBy later _ _
    have place : ((Run.write run.output run.state).followedBy reached fun s =>
        scheme.decode s (pending ++ second)).reach (reached + (pending ++ second).length) = _ :=
      Run.reach_followedBy (Nat.le_add_right _ _)
    rw [Nat.add_sub_cancel_left] at place
    rw [← whole] at through
    rw [scheme.feed_of_soft through, scheme.feed_of_soft later, count, whole, place,
      Run.write_followedBy, Nat.add_comm, ← List.drop_drop, left, Nat.add_assoc]
    rfl
  · have through : ((Run.write run.output run.state).followedBy reached fun s =>
        scheme.decode s (pending ++ second)).fault = some (fault.rebase reached) := by
      rw [Run.write_followedBy, stopped]
      rfl
    rw [← whole] at through
    rw [scheme.feed_of_hard through (by simpa using hard), scheme.feed_of_hard stopped hard, count,
      whole, Run.write_followedBy, Fault.rebase_rebase, Nat.add_comm reached stream.position,
      Nat.add_assoc]

/-- A fault in the first chunk is all there is, whether or not more bytes came with it. -/
theorem feed_append_of_fault {stream : Stream} {first : List UInt8} {fault : Fault}
    (stopped : (scheme.feed stream first).fault = some fault) (second : List UInt8) :
    (scheme.feed stream first).Alike (scheme.feed stream (first ++ second)) := by
  rcases (scheme.decode stream.state (stream.pending ++ first)).soft_or_hard with soft |
    ⟨cause, found, hard⟩
  · rw [scheme.feed_of_soft soft] at stopped
    contradiction
  · have same := scheme.decode_append_of_hard stream.state found hard second
    rw [List.append_assoc] at same
    have more := found
    rw [← same] at more
    rw [scheme.feed_of_hard found hard, scheme.feed_of_hard more hard, same]
    exact ⟨rfl, rfl, rfl, nofun⟩

/-- What is pending gives nothing by itself: the stream waits for more. -/
def Waiting (stream : Stream) : Prop := scheme.feed stream [] = .skip stream

theorem soft_of_feed_clear {stream : Stream} {chunk : List UInt8}
    (clear : (scheme.feed stream chunk).fault = none) :
    (scheme.decode stream.state (stream.pending ++ chunk)).Soft := by
  rcases (scheme.decode stream.state (stream.pending ++ chunk)).soft_or_hard with soft |
    ⟨cause, found, hard⟩
  · exact soft
  · rw [scheme.feed_of_hard found hard] at clear
    contradiction

theorem feed_waiting {stream : Stream} {chunk : List UInt8}
    (clear : (scheme.feed stream chunk).fault = none) :
    scheme.Waiting (scheme.feed stream chunk).state := by
  have again := scheme.feed_append_of_soft (scheme.soft_of_feed_clear clear) []
  rw [List.append_nil, Run.andThen_of_clear clear] at again
  rw [Waiting]
  generalize scheme.feed (scheme.feed stream chunk).state [] = idle at again ⊢
  obtain ⟨output, state, fault⟩ := idle
  have nothing : output = [] := List.self_eq_append_right.mp (congrArg Run.output again)
  have same : (scheme.feed stream chunk).state = state := congrArg Run.state again
  have through : (scheme.feed stream chunk).fault = fault := congrArg Run.fault again
  rw [Run.skip, nothing, same, ← through, clear]

theorem feedAll_alike {stream : Stream} (waiting : scheme.Waiting stream)
    (chunks : List (List UInt8)) :
    (scheme.feedAll stream chunks).Alike (scheme.feed stream chunks.flatten) := by
  induction chunks generalizing stream with
  | nil =>
    rw [feedAll, List.flatten_nil, waiting]
    exact ⟨rfl, rfl, rfl, fun _ => rfl⟩
  | cons chunk rest ih =>
    rw [feedAll, List.flatten_cons]
    cases stopped : (scheme.feed stream chunk).fault with
    | some fault =>
      rw [Run.andThen_of_fault stopped]
      exact scheme.feed_append_of_fault stopped rest.flatten
    | none =>
      have later := ih (scheme.feed_waiting stopped)
      rw [scheme.feed_append_of_soft (scheme.soft_of_feed_clear stopped),
        Run.andThen_of_clear stopped, Run.andThen_of_clear stopped]
      refine ⟨?_, later.fault, later.code, later.stream⟩
      exact congrArg ((scheme.feed stream chunk).output ++ ·) later.output

/-- If a fault stopped the feeding, one chunk met it and those before were read. -/
theorem feedAll_fault {stream : Stream} {chunks : List (List UInt8)} {fault : Fault}
    (stopped : (scheme.feedAll stream chunks).fault = some fault) :
    ∃ before chunk after, chunks = before ++ chunk :: after ∧
      (scheme.feedAll stream before).fault = none ∧
      scheme.feedAll stream chunks = (scheme.feedAll stream before).andThen
        fun stream => scheme.feed stream chunk := by
  induction chunks generalizing stream with
  | nil => cases stopped
  | cons chunk rest ih =>
    rw [feedAll] at stopped ⊢
    cases here : (scheme.feed stream chunk).fault with
    | some cause =>
      refine ⟨[], chunk, rest, rfl, rfl, ?_⟩
      rw [Run.andThen_of_fault here, feedAll, Run.skip_andThen]
    | none =>
      rw [Run.andThen_of_clear here] at stopped
      obtain ⟨before, failing, after, rfl, clear, same⟩ := ih stopped
      refine ⟨chunk :: before, failing, after, rfl, ?_, ?_⟩
      · rw [feedAll, Run.andThen_of_clear here]
        exact clear
      · rw [feedAll, Run.andThen_assoc, Run.andThen_of_clear here, Run.andThen_of_clear here, same]

theorem waiting_initial : scheme.Waiting {} := by
  rw [Waiting, feed, List.append_nil, decode_nil]
  rfl

/-- However a byte string is cut into chunks, feeding them up to the first fault gives the text and
the state that reading the whole gives. A whole that reads to its end lets every chunk and the end
of the stream pass; one that ends inside a unit lets every chunk pass and fails at the end, at the
same offset; any other fault is met, as it is, by one chunk after others that passed. -/
theorem feedAll_eq_decode (scheme : Scheme) (chunks : List (List UInt8)) :
    let whole := scheme.decode .initial chunks.flatten
    let fed := scheme.feedAll {} chunks
    match whole.fault with
    | none => fed.fault = none ∧ fed.output = whole.output ∧ fed.state.state = whole.state ∧
        fed.state.finish.fault = none
    | some (.incomplete offset) =>
        fed.fault = none ∧ fed.output = whole.output ∧ fed.state.state = whole.state ∧
        fed.state.finish.fault = some (.incomplete offset)
    | some fault => ∃ before chunk after, chunks = before ++ chunk :: after ∧
        let earlier := scheme.feedAll {} before
        let last := scheme.feed earlier.state chunk
        earlier.fault = none ∧ last.fault = some fault ∧
        earlier.output ++ last.output = whole.output ∧ last.state.state = whole.state := by
  intro whole fed
  have alike : fed.Alike (scheme.feed {} chunks.flatten) :=
    scheme.feedAll_alike scheme.waiting_initial chunks
  rcases whole.soft_or_hard with soft | ⟨fault, stopped, hard⟩
  · have once : scheme.feed {} chunks.flatten = .write whole.output
        ⟨whole.state, chunks.flatten.drop (whole.reach chunks.flatten.length),
          0 + whole.reach chunks.flatten.length⟩ := scheme.feed_of_soft soft
    rw [once] at alike
    have clear : fed.fault = none := alike.fault
    have ended := congrArg (fun stream => stream.finish.fault) (alike.stream clear)
    simp only [Stream.finish_fault, Run.write, Nat.zero_add] at ended
    cases found : whole.fault with
    | none =>
      refine ⟨clear, alike.output, alike.code, ?_⟩
      rw [Stream.finish_fault, ended, Run.reach, found]
      exact if_pos List.drop_length
    | some fault =>
      cases fault with
      | incomplete offset =>
        have inside : offset < chunks.flatten.length := scheme.decode_fault_fits _ found
        refine ⟨clear, alike.output, alike.code, ?_⟩
        rw [Stream.finish_fault, ended, Run.reach, found]
        exact if_neg fun empty => Nat.not_le.mpr inside (List.drop_eq_nil_iff.mp empty)
      | _ => exact absurd (soft _ found) Bool.false_ne_true
  · have once : scheme.feed {} chunks.flatten =
        ⟨whole.output, ⟨whole.state, [], 0 + chunks.flatten.length⟩, some (fault.rebase 0)⟩ :=
      scheme.feed_of_hard stopped hard
    rw [once, Fault.rebase_zero] at alike
    obtain ⟨before, chunk, after, cut, clear, same⟩ := scheme.feedAll_fault alike.fault
    have parts := alike
    rw [show fed = _ from same, Run.andThen_of_clear clear] at parts
    have met : ∃ before chunk after, chunks = before ++ chunk :: after ∧
        let earlier := scheme.feedAll {} before
        let last := scheme.feed earlier.state chunk
        earlier.fault = none ∧ last.fault = some fault ∧
        earlier.output ++ last.output = whole.output ∧ last.state.state = whole.state :=
      ⟨before, chunk, after, cut, clear, parts.fault, parts.output, parts.code⟩
    cases fault with
    | incomplete offset => contradiction
    | _ =>
      rw [stopped]
      exact met

end Scheme

end CodeExtension
