import CodeExtension.Proofs.Lockstep

/-! Sessions of a writer. A writer is called again and again, and a call that meets a scalar it
cannot write keeps what it wrote before. However the calls turn out, a reader of the bytes so far
has the text that was accepted so far and is in the writer's state. -/
namespace CodeExtension

namespace Scheme

variable (scheme : Scheme)

/-- The fault is over a scalar outside ASCII that no set or substitution of the profile has. -/
def Refuses (fault : Fault) : Prop :=
  ∃ scalar offset, fault = .unmappable scalar offset ∧ 0x80 ≤ scalar.toNat ∧
    scheme.position? scalar = none

/-- What the run wrote from state `s` on is read as `accepted`, and if anything stopped it, it was
a scalar without a position. -/
structure Keeps (s : CodeState) (run : Run CodeState UInt8) (accepted : List Char) : Prop where
  reads : scheme.decode s run.output = .write accepted run.state
  writable : scheme.Writable run.state
  refused : ∀ fault, run.fault = some fault → scheme.Refuses fault

variable {scheme} {s : CodeState}

theorem Follows.keeps {run : Run CodeState UInt8} {text : List Char}
    (follows : scheme.Follows s run text) : scheme.Keeps s run text :=
  ⟨follows.reads, follows.writable, fun fault stopped => by simp [follows.clear] at stopped⟩

theorem keeps_refusal {fault : Fault} (writable : scheme.Writable s)
    (refuses : scheme.Refuses fault) : scheme.Keeps s (.stop s fault) [] := by
  refine ⟨decode_nil scheme s, writable, ?_⟩
  rintro _ ⟨⟩
  exact refuses

theorem Keeps.rebase {run : Run CodeState UInt8} {accepted : List Char}
    (keeps : scheme.Keeps s run accepted) (base : Nat) :
    scheme.Keeps s (run.rebase base) accepted := by
  refine ⟨keeps.reads, keeps.writable, ?_⟩
  intro fault stopped
  obtain ⟨inner, found, rfl⟩ := Option.map_eq_some_iff.mp stopped
  obtain ⟨scalar, offset, rfl, absent⟩ := keeps.refused inner found
  exact ⟨scalar, offset + base, rfl, absent⟩

theorem Follows.followedBy {run : Run CodeState UInt8} {next : CodeState → Run CodeState UInt8}
    {first second : List Char} (before : scheme.Follows s run first)
    (after : scheme.Keeps run.state (next run.state) second) (width : Nat) :
    scheme.Keeps s (run.followedBy width next) (first ++ second) := by
  have later := after.rebase width
  simp only [Run.followedBy, before.clear]
  refine ⟨?_, later.writable, later.refused⟩
  rw [scheme.decode_append_of_write s before.reads, Run.write_followedBy, after.reads]
  rfl

/-- A text is written up to the first scalar without a position. -/
theorem encode_keeps (wellFormed : scheme.tables.WellFormed) (legible : scheme.Legible)
    (writable : scheme.Writable s) {text : List Char}
    (plain : ∀ scalar ∈ text, scheme.profile.Plain scalar) :
    scheme.Keeps s (scheme.encode s text)
      (text.take ((scheme.encode s text).reach text.length)) := by
  induction text generalizing s with
  | nil => exact (follows_skip writable).keeps
  | cons scalar rest ih =>
    have here : scheme.profile.Plain scalar := plain scalar List.mem_cons_self
    have split : scheme.encode s (scalar :: rest) =
        (scheme.encodeScalar s scalar).followedBy 1 fun s => scheme.encode s rest := rfl
    rcases encodeScalar_follows wellFormed legible writable here with follows |
      ⟨refused, absent⟩
    · have later := ih follows.writable fun other member => plain other (.tail scalar member)
      have whole : scheme.Keeps s ((scheme.encodeScalar s scalar).followedBy 1 fun s =>
          scheme.encode s rest) _ := follows.followedBy later 1
      have further : (scheme.encode s (scalar :: rest)).reach (scalar :: rest).length =
          (scheme.encode (scheme.encodeScalar s scalar).state rest).reach rest.length + 1 := by
        rw [split, Run.eq_write_of_clear follows.clear]
        exact Run.reach_followedBy (Nat.succ_le_succ rest.length.zero_le)
      rwa [further, split, List.take_succ_cons]
    · rw [split, refused]
      exact keeps_refusal writable ⟨scalar, 0, rfl, absent⟩

end Scheme

inductive Call where
  | encode (text : List Char)
  /-- The position is where a fault says it is. -/
  | encodeScalar (scalar : Char) (position : Nat)
  | reset

namespace Call

def text : Call → List Char
  | .encode text => text
  | .encodeScalar scalar _ => [scalar]
  | .reset => []

def run (scheme : Scheme) (s : CodeState) : Call → Run CodeState UInt8
  | .encode text => scheme.encode s text
  | .encodeScalar scalar position => (scheme.encodeScalar s scalar).rebase position
  | .reset => s.reset

/-- The scalars that the call did write: all of them, or those before the place of its fault. -/
def accepted (result : Run CodeState UInt8) : Call → List Char
  | .encode text => text.take (result.reach text.length)
  | .encodeScalar scalar _ => match result.fault with
    | none => [scalar]
    | some _ => []
  | .reset => []

theorem run_keeps {scheme : Scheme} {s : CodeState} (wellFormed : scheme.tables.WellFormed)
    (legible : scheme.Legible) (writable : scheme.Writable s) (call : Call)
    (plain : ∀ scalar ∈ call.text, scheme.profile.Plain scalar) :
    scheme.Keeps s (call.run scheme s) (call.accepted (call.run scheme s)) := by
  cases call with
  | encode text => exact Scheme.encode_keeps wellFormed legible writable plain
  | encodeScalar scalar position =>
    have here : scheme.profile.Plain scalar := plain scalar List.mem_cons_self
    rcases Scheme.encodeScalar_follows wellFormed legible writable here with follows |
      ⟨refused, absent⟩
    · have clear : (run scheme s (.encodeScalar scalar position)).fault = none := by
        rw [run, Run.rebase, follows.clear]
        rfl
      rw [accepted, clear]
      exact follows.keeps.rebase position
    · rw [run, refused]
      exact (Scheme.keeps_refusal writable ⟨scalar, 0, rfl, absent⟩).rebase position
  | reset => exact (Scheme.follows_reset writable).keeps

end Call

/-- A session so far: the bytes written, the scalars accepted, the faults reported and the state
reached. -/
structure Transcript where
  bytes : List UInt8 := []
  text : List Char := []
  faults : List Fault := []
  state : CodeState := .initial

namespace Scheme

def answer (scheme : Scheme) (t : Transcript) (call : Call) : Transcript :=
  let run := call.run scheme t.state
  { bytes := t.bytes ++ run.output
    text := t.text ++ call.accepted run
    faults := t.faults ++ run.fault.toList
    state := run.state }

def transcript (scheme : Scheme) (calls : List Call) : Transcript :=
  calls.foldl scheme.answer {}

/-- A reader of the bytes has the text and is in the writer's state; no call failed for another
reason than a scalar without a position. -/
structure InStep (scheme : Scheme) (t : Transcript) : Prop where
  reads : scheme.decode .initial t.bytes = .write t.text t.state
  writable : scheme.Writable t.state
  refused : ∀ fault ∈ t.faults, scheme.Refuses fault

theorem inStep_empty (scheme : Scheme) : scheme.InStep {} :=
  ⟨decode_nil scheme .initial, writable_initial, nofun⟩

theorem InStep.answer {scheme : Scheme} {t : Transcript} (inStep : scheme.InStep t)
    (wellFormed : scheme.tables.WellFormed) (coherent : scheme.Coherent) {call : Call}
    (plain : ∀ scalar ∈ call.text, scheme.profile.Plain scalar) :
    scheme.InStep (scheme.answer t call) := by
  have keeps := call.run_keeps wellFormed (coherent.legible wellFormed) inStep.writable plain
  refine ⟨?_, keeps.writable, ?_⟩
  · simp only [Scheme.answer]
    rw [scheme.decode_append_of_write _ inStep.reads, Run.write_followedBy, keeps.reads]
    rfl
  · intro fault reported
    rcases List.mem_append.mp reported with before | here
    · exact inStep.refused fault before
    · exact keeps.refused fault (Option.mem_toList.mp here)

theorem InStep.foldl {scheme : Scheme} {t : Transcript} (inStep : scheme.InStep t)
    (wellFormed : scheme.tables.WellFormed) (coherent : scheme.Coherent) (calls : List Call)
    (plain : ∀ call ∈ calls, ∀ scalar ∈ call.text, scheme.profile.Plain scalar) :
    scheme.InStep (calls.foldl scheme.answer t) := by
  induction calls generalizing t with
  | nil => exact inStep
  | cons call rest ih =>
    have next := inStep.answer wellFormed coherent (plain call List.mem_cons_self)
    exact ih next fun other member => plain other (.tail call member)

/-- Reader and writer agree after every call of a session, and the calls that failed met a scalar
without a position. -/
theorem decode_transcript {scheme : Scheme} (wellFormed : scheme.tables.WellFormed)
    (coherent : scheme.Coherent) {calls made : List Call} (begun : made <+: calls)
    (plain : ∀ call ∈ calls, ∀ scalar ∈ call.text, scheme.profile.Plain scalar) :
    scheme.decode .initial (scheme.transcript made).bytes =
        .write (scheme.transcript made).text (scheme.transcript made).state ∧
      ∀ fault ∈ (scheme.transcript made).faults, scheme.Refuses fault := by
  have inStep : scheme.InStep (scheme.transcript made) :=
    (inStep_empty scheme).foldl wellFormed coherent made
      fun call member => plain call (begun.subset member)
  exact ⟨inStep.reads, inStep.refused⟩

end Scheme

/-- Two calls fail here: one before its last scalar, the other at its only one. -/
def Mixed.calls : List Call :=
  [.encode "aあ漢\n¥가".toList, .encode "é＼😀b".toList, .reset, .encodeScalar 'ß' 4,
    .encodeScalar '😀' 5]

theorem Mixed.decode_calls :
    (scheme.transcript calls).text = "aあ漢\n¥가é＼ß".toList ∧
      (scheme.transcript calls).faults = [.unmappable '😀' 2, .unmappable '😀' 5] ∧
      scheme.decode .initial (scheme.transcript calls).bytes =
        .write (scheme.transcript calls).text (scheme.transcript calls).state := by
  have plain : calls.all (·.text.all (scheme.profile.Plain ·)) = true := by decide
  have inStep := Scheme.decode_transcript wellFormed coherent List.prefix_rfl
    fun call member => Profile.plain_of_all (List.all_eq_true.mp plain call member)
  exact ⟨by decide +kernel, by decide +kernel, inStep.1⟩

end CodeExtension
