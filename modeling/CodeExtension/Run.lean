import CodeExtension.Fault

/-! Conversions that write as they go. A run keeps what it wrote and the state it reached also
when a fault stops it. -/
namespace CodeExtension

structure Run (σ α : Type) where
  output : List α
  state : σ
  fault : Option Fault := none

namespace Run

variable {σ α : Type}

def skip (state : σ) : Run σ α := ⟨[], state, none⟩

def write (output : List α) (state : σ) : Run σ α := ⟨output, state, none⟩

def stop (state : σ) (fault : Fault) : Run σ α := ⟨[], state, some fault⟩

def rebase (base : Nat) (run : Run σ α) : Run σ α :=
  { run with fault := run.fault.map (·.rebase base) }

/-- Goes on from the state that `run` reached, unless a fault stopped it. The part that follows
starts `width` further on, which shows in the offset of its fault. -/
def followedBy (run : Run σ α) (width : Nat) (next : σ → Run σ α) : Run σ α :=
  match run.fault with
  | some _ => run
  | none =>
    let rest := next run.state
    ⟨run.output ++ rest.output, rest.state, rest.fault.map (·.rebase width)⟩

def andThen (run : Run σ α) (next : σ → Run σ α) : Run σ α := run.followedBy 0 next

/-- Converts items one by one, each counting one towards the offset of a fault. -/
def forEach {ι : Type} (convert : σ → ι → Run σ α) (state : σ) : List ι → Run σ α
  | [] => skip state
  | item :: rest => (convert state item).followedBy 1 fun state => forEach convert state rest

/-- The output, unless a fault cut it short. -/
def result (run : Run σ α) : Except Fault (List α) :=
  match run.fault with
  | some fault => .error fault
  | none => .ok run.output

@[simp] theorem stop_followedBy (state : σ) (fault : Fault) (width : Nat)
    (next : σ → Run σ α) : (stop state fault).followedBy width next = stop state fault := rfl

@[simp] theorem write_followedBy (output : List α) (state : σ) (width : Nat)
    (next : σ → Run σ α) :
    (write output state).followedBy width next =
      ⟨output ++ (next state).output, (next state).state,
        (next state).fault.map (·.rebase width)⟩ := rfl

theorem eq_write_of_clear {run : Run σ α} (clear : run.fault = none) :
    run = .write run.output run.state := by
  rw [write, ← clear]

theorem followedBy_of_clear {run : Run σ α} (clear : run.fault = none) (width : Nat)
    (next : σ → Run σ α) :
    run.followedBy width next =
      ⟨run.output ++ (next run.state).output, (next run.state).state,
        (next run.state).fault.map (·.rebase width)⟩ := by
  rw [followedBy, clear]

@[simp] theorem skip_andThen (state : σ) (next : σ → Run σ α) :
    (skip state).andThen next = next state := by
  simp [skip, andThen, followedBy]

theorem andThen_of_fault {run : Run σ α} {fault : Fault} (stopped : run.fault = some fault)
    (next : σ → Run σ α) : run.andThen next = run := by
  simp [andThen, followedBy, stopped]

theorem andThen_of_clear {run : Run σ α} (clear : run.fault = none) (next : σ → Run σ α) :
    run.andThen next =
      ⟨run.output ++ (next run.state).output, (next run.state).state, (next run.state).fault⟩ := by
  cases stopped : (next run.state).fault <;> simp [andThen, followedBy, clear, stopped]

/-- Three parts in a row, the second `first` further on than the first and the third `second`
further on than the second. -/
theorem followedBy_assoc (run : Run σ α) (first second : Nat) (next last : σ → Run σ α) :
    (run.followedBy first next).followedBy (second + first) last =
      run.followedBy first fun state => (next state).followedBy second last := by
  obtain ⟨output, state, fault⟩ := run
  cases fault with
  | some fault => rfl
  | none =>
    cases stopped : (next state).fault with
    | some fault => simp [followedBy, stopped]
    | none => simp [followedBy, stopped, Function.comp_def]

theorem andThen_assoc (run : Run σ α) (next last : σ → Run σ α) :
    (run.andThen next).andThen last = run.andThen fun state => (next state).andThen last :=
  followedBy_assoc run 0 0 next last

theorem result_of_fault {run : Run σ α} {fault : Fault} (stopped : run.fault = some fault) :
    run.result = .error fault := by
  rw [result, stopped]

theorem result_eq_ok_iff {run : Run σ α} {output : List α} :
    run.result = .ok output ↔ run.fault = none ∧ run.output = output := by
  cases stopped : run.fault <;> simp [result, stopped]

end Run

end CodeExtension
