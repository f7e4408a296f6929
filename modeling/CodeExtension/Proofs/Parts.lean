import CodeExtension.Proofs.Unit

/-! Reading an input in parts. Whatever becomes of a run, the input divides at the place it got
to: the part before can be read by itself, and the part after, if a fault stopped the run, shows
that fault at once. Reading on from there with more input is reading the whole. -/
namespace CodeExtension

/-- How far a run got in an input of `length` bytes: up to its fault, or to the end. -/
def Run.reach {σ α : Type} (run : Run σ α) (length : Nat) : Nat :=
  match run.fault with
  | none => length
  | some fault => fault.offset

theorem Run.reach_followedBy {σ α : Type} {output : List α} {state : σ} {width length : Nat}
    {next : σ → Run σ α} (inside : width ≤ length) :
    ((Run.write output state).followedBy width next).reach length =
      (next state).reach (length - width) + width := by
  rw [write_followedBy]
  cases stopped : (next state).fault with
  | none => simp [reach, stopped, inside]
  | some fault => simp [reach, stopped]

theorem Run.write_followedBy_eq_write {σ α : Type} {output whole : List α} {state final : σ}
    {width : Nat} {next : σ → Run σ α}
    (through : (Run.write output state).followedBy width next = .write whole final) :
    ∃ rest, next state = .write rest final ∧ whole = output ++ rest := by
  rw [write_followedBy] at through
  obtain ⟨joined, reached, clear⟩ := Run.mk.inj through
  refine ⟨(next state).output, ?_, joined.symm⟩
  have fault : (next state).fault = none := Option.map_eq_none_iff.mp clear
  rw [write, ← reached, ← fault]

namespace Scheme

variable (scheme : Scheme) (s : CodeState)

@[simp] theorem decode_nil : scheme.decode s [] = .skip s := Step.run_nil

variable {scheme s}

theorem Takes.decode_append {bytes : List UInt8} {state : CodeState} {text : List Char}
    (unit : scheme.Takes s bytes state text) (rest : List UInt8) :
    scheme.decode s (bytes ++ rest) =
      (Run.write text state).followedBy bytes.length fun s => scheme.decode s rest := by
  obtain ⟨byte, tail, rfl⟩ := unit.exists_cons
  have whole := Step.run_take (unit.step rest)
  rwa [List.drop_left, Nat.add_comm] at whole

theorem Takes.decode {bytes : List UInt8} {state : CodeState} {text : List Char}
    (unit : scheme.Takes s bytes state text) : scheme.decode s bytes = .write text state := by
  have whole := unit.decode_append []
  rw [List.append_nil, Run.write_followedBy, decode_nil] at whole
  simpa [Run.write, Run.skip] using whole

theorem Stops.decode {input : List UInt8} {fault : Fault} (stops : scheme.Stops s input fault) :
    scheme.decode s input = .stop s fault := by
  obtain ⟨byte, rest, rfl⟩ := stops.exists_cons
  exact Step.run_stop stops.step

variable (scheme s)

/-- Reading goes unit by unit: what holds of the empty input, carries over from what follows a
unit to the unit with it, and holds where a reader stops, holds of every input. -/
theorem decode_induction {motive : CodeState → List UInt8 → Prop} (nil : ∀ s, motive s [])
    (take : ∀ s bytes rest state text, scheme.Takes s bytes state text → motive state rest →
      motive s (bytes ++ rest))
    (stop : ∀ s input fault, scheme.Stops s input fault → motive s input)
    (input : List UInt8) : motive s input := by
  apply Step.run.induct scheme.step motive nil
  · intro s byte rest more state text unit later
    obtain ⟨tail, after, rfl, rfl, taken⟩ := takes_of_step unit
    have behind := later state
    rw [List.drop_left] at behind
    exact take s (byte :: tail) after state text taken behind
  · intro s byte rest fault stopped
    exact stop s (byte :: rest) fault (stops_of_step stopped)

/-- A part that reads without fault leaves the rest to be read from where it ended. -/
theorem decode_append_of_write {state : CodeState} {text : List Char} {first : List UInt8}
    (reads : scheme.decode s first = .write text state) (second : List UInt8) :
    scheme.decode s (first ++ second) =
      (Run.write text state).followedBy first.length fun s => scheme.decode s second := by
  induction s, first using scheme.decode_induction generalizing text state with
  | nil s =>
    rw [decode_nil] at reads
    obtain ⟨rfl, rfl⟩ : [] = text ∧ s = state := by simpa [Run.skip, Run.write] using reads
    simp [Run.followedBy, Run.write]
  | take s bytes rest next head unit ih =>
    rw [unit.decode_append] at reads
    obtain ⟨tail, later, rfl⟩ := Run.write_followedBy_eq_write reads
    rw [List.append_assoc, unit.decode_append, List.length_append, Nat.add_comm]
    simp only [Run.write_followedBy, ih later, List.append_assoc, Option.map_map]
    congr 2
    exact funext fun fault => Fault.rebase_rebase _ _ fault
  | stop s input fault stops =>
    rw [stops.decode] at reads
    cases reads

/-- The input divides where the run got to. -/
theorem decode_divides (input : List UInt8) :
    let run := scheme.decode s input
    let reached := run.reach input.length
    reached ≤ input.length ∧
    scheme.decode s (input.take reached) = .write run.output run.state ∧
    ∀ fault, run.fault = some fault → ∃ cause,
      scheme.Stops run.state (input.drop reached) cause ∧ fault = cause.rebase reached := by
  induction s, input using scheme.decode_induction with
  | nil s =>
    simp [Run.reach, Run.skip, Run.write]
  | take s bytes rest next text unit ih =>
    obtain ⟨bound, before, after⟩ := ih
    rw [unit.decode_append]
    have further : ((Run.write text next).followedBy bytes.length fun s =>
        scheme.decode s rest).reach (bytes ++ rest).length =
        bytes.length + (scheme.decode next rest).reach rest.length := by
      rw [Run.reach_followedBy (by simp), List.length_append, Nat.add_sub_cancel_left, Nat.add_comm]
    simp only [further]
    generalize (scheme.decode next rest).reach rest.length = reached at bound before after
    simp only [Run.write_followedBy, List.take_length_add_append, List.drop_length_add_append]
    refine ⟨?_, ?_, ?_⟩
    · rw [List.length_append]
      omega
    · rw [unit.decode_append, Run.write_followedBy, before]
      rfl
    · intro fault found
      obtain ⟨inner, stopped, rfl⟩ := Option.map_eq_some_iff.mp found
      obtain ⟨cause, stops, rfl⟩ := after inner stopped
      exact ⟨cause, stops, by rw [Fault.rebase_rebase, Nat.add_comm]⟩
  | stop s input fault stops =>
    rw [stops.decode]
    have start : (Run.stop (α := Char) s fault).reach input.length = 0 := stops.offset_eq_zero
    refine ⟨by omega, ?_, ?_⟩
    · rw [start, List.take_zero, decode_nil]
      rfl
    · intro other same
      obtain rfl : fault = other := Option.some.inj same
      exact ⟨fault, by rwa [start, List.drop_zero], by rw [start, Fault.rebase_zero]⟩

theorem decode_append (first second : List UInt8) :
    let run := scheme.decode s first
    let reached := run.reach first.length
    scheme.decode s (first ++ second) =
      (Run.write run.output run.state).followedBy reached fun s =>
        scheme.decode s (first.drop reached ++ second) := by
  intro run reached
  obtain ⟨bound, before, -⟩ := scheme.decode_divides s first
  have whole := scheme.decode_append_of_write s before (first.drop reached ++ second)
  rwa [← List.append_assoc, List.take_append_drop, List.length_take_of_le bound] at whole

theorem decode_append_of_hard {first : List UInt8} {fault : Fault}
    (stopped : (scheme.decode s first).fault = some fault) (hard : fault.isRecoverable = false)
    (second : List UInt8) : scheme.decode s (first ++ second) = scheme.decode s first := by
  obtain ⟨-, -, after⟩ := scheme.decode_divides s first
  obtain ⟨cause, stops, rfl⟩ := after fault stopped
  have hard : cause.isRecoverable = false := by simpa using hard
  rw [decode_append]
  simp only [(stops.append hard second).decode, Run.write_followedBy]
  simp [Run.stop, ← stopped]

theorem decode_fault_fits {input : List UInt8} {fault : Fault}
    (stopped : (scheme.decode s input).fault = some fault) : fault.Fits input.length := by
  obtain ⟨bound, -, after⟩ := scheme.decode_divides s input
  obtain ⟨cause, stops, rfl⟩ := after fault stopped
  have fits := stops.fits.rebase ((scheme.decode s input).reach input.length)
  rwa [List.length_drop, Nat.add_sub_cancel' bound] at fits

end Scheme

end CodeExtension
