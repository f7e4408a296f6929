import CodeExtension.Codec
import CodeExtension.Proofs.Parts

/-! What recovery means when reading. A codec that forgives reads as the strict reader does when it
is started again, in the state it stopped in, behind each malformed stretch. So every input falls
into readable and malformed stretches, the same for both kinds of recovery. -/
namespace CodeExtension

/-- Where reading can go on after a fault in an input of `length` bytes: behind what the fault
covers, which is all the rest if the input ends inside a unit. -/
def Fault.resumption? (length : Nat) : Fault → Option Nat
  | .invalidByte offset count | .invalidEscape offset count => some (offset + count)
  | .incomplete offset => some (offset + (length - offset))
  | .unmappable _ _ | .internal _ _ _ => none

theorem Fault.resumption?_rebase (base length : Nat) (fault : Fault) :
    (fault.rebase base).resumption? (length + base) =
      (fault.resumption? length).map (· + base) := by
  cases fault <;> simp only [rebase, resumption?, Option.map_some, Option.map_none,
    Option.some.injEq] <;> omega

theorem Fault.Fits.resumption {length next : Nat} {fault : Fault} (fits : fault.Fits length)
    (resumes : fault.resumption? length = some next) : fault.offset < next ∧ next ≤ length := by
  cases fault with
  | unmappable scalar offset => cases resumes
  | invalidByte offset count =>
    obtain ⟨positive, inside⟩ := fits
    obtain rfl : offset + count = next := Option.some.inj resumes
    exact ⟨Nat.lt_add_of_pos_right positive, inside⟩
  | invalidEscape offset count =>
    obtain ⟨positive, inside⟩ := fits
    obtain rfl : offset + count = next := Option.some.inj resumes
    exact ⟨Nat.lt_add_of_pos_right positive, inside⟩
  | incomplete offset =>
    have inside : offset < length := fits
    obtain rfl : offset + (length - offset) = next := Option.some.inj resumes
    simp only [Fault.offset]
    omega
  | internal offset charset element => cases resumes

theorem Recovery.forgive_of_some {s : CodeState} {rest : List UInt8} {mark : List Char}
    {fault : Fault} {next : Nat} (start : fault.offset = 0)
    (resumes : fault.resumption? (rest.length + 1) = some next) :
    Recovery.forgive s rest mark (.stop fault) = .take (next - 1) s mark := by
  cases fault with
  | unmappable scalar offset => cases resumes
  | invalidByte offset count =>
    obtain rfl : offset = 0 := start
    obtain rfl : 0 + count = next := Option.some.inj resumes
    rw [Nat.zero_add]
    rfl
  | invalidEscape offset count =>
    obtain rfl : offset = 0 := start
    obtain rfl : 0 + count = next := Option.some.inj resumes
    rw [Nat.zero_add]
    rfl
  | incomplete offset =>
    obtain rfl : offset = 0 := start
    obtain rfl : 0 + (rest.length + 1 - 0) = next := Option.some.inj resumes
    rw [Nat.zero_add]
    rfl
  | internal offset charset element => cases resumes

theorem Recovery.forgive_of_none {s : CodeState} {rest : List UInt8} {mark : List Char}
    {fault : Fault} (ends : fault.resumption? (rest.length + 1) = none) :
    Recovery.forgive s rest mark (.stop fault) = .stop fault := by
  cases fault with
  | unmappable scalar offset => rfl
  | internal offset charset element => rfl
  | _ => cases ends

/-- A malformed stretch of the input and the readable one after it, with the text of that. -/
structure Span where
  malformed : List UInt8
  readable : List UInt8
  text : List Char

def Span.bytes (span : Span) : List UInt8 := span.malformed ++ span.readable

namespace Scheme

variable (scheme : Scheme)

theorem resumption_inside {s : CodeState} {input : List UInt8} {next : Nat}
    (resumes : (scheme.decode s input).fault.bind (Fault.resumption? input.length) = some next) :
    (scheme.decode s input).reach input.length < next ∧ next ≤ input.length := by
  obtain ⟨fault, stopped, resumes⟩ := Option.bind_eq_some_iff.mp resumes
  have inside := (scheme.decode_fault_fits s stopped).resumption resumes
  rwa [Run.reach, stopped]

/-- Reads the input, and after a fault reads on behind it with `mark` in its place. -/
def resume (mark : List Char) (s : CodeState) (input : List UInt8) : Run CodeState Char :=
  let run := scheme.decode s input
  match resumes : run.fault.bind (Fault.resumption? input.length) with
  | none => run
  | some next =>
    have := scheme.resumption_inside resumes
    (Run.write (run.output ++ mark) run.state).followedBy next fun s =>
      resume mark s (input.drop next)
termination_by input.length
decreasing_by rw [List.length_drop]; omega

variable {scheme} {mark : List Char} {s : CodeState} {input : List UInt8}

theorem resume_of_none
    (ends : (scheme.decode s input).fault.bind (Fault.resumption? input.length) = none) :
    scheme.resume mark s input = scheme.decode s input := by
  rw [resume]
  split
  · rfl
  · next resumes => simp [ends] at resumes

theorem resume_of_some {next : Nat}
    (resumes : (scheme.decode s input).fault.bind (Fault.resumption? input.length) = some next) :
    scheme.resume mark s input =
      (Run.write ((scheme.decode s input).output ++ mark) (scheme.decode s input).state).followedBy
        next fun s => scheme.resume mark s (input.drop next) := by
  rw [resume]
  split
  · next ends => simp [resumes] at ends
  · next place found =>
    obtain rfl : place = next := Option.some.inj (found.symm.trans resumes)
    rfl

theorem Takes.resume_append {bytes : List UInt8} {state : CodeState} {text : List Char}
    (unit : scheme.Takes s bytes state text) (rest : List UInt8) :
    scheme.resume mark s (bytes ++ rest) =
      (Run.write text state).followedBy bytes.length fun s => scheme.resume mark s rest := by
  have whole := unit.decode_append rest
  rw [Run.write_followedBy] at whole
  have place : (scheme.decode s (bytes ++ rest)).fault.bind
      (Fault.resumption? (bytes ++ rest).length) =
      ((scheme.decode state rest).fault.bind (Fault.resumption? rest.length)).map
        (· + bytes.length) := by
    rw [whole, List.length_append, Nat.add_comm]
    cases (scheme.decode state rest).fault with
    | none => rfl
    | some fault => exact Fault.resumption?_rebase _ _ fault
  cases later : (scheme.decode state rest).fault.bind (Fault.resumption? rest.length) with
  | none =>
    rw [later] at place
    rw [resume_of_none place, unit.decode_append, Run.write_followedBy, Run.write_followedBy,
      resume_of_none later]
  | some next =>
    rw [later] at place
    have behind : (bytes ++ rest).drop (next + bytes.length) = rest.drop next := by
      rw [Nat.add_comm, List.drop_length_add_append]
    rw [resume_of_some place, whole, behind]
    simp only [Run.write_followedBy, resume_of_some later, List.append_assoc, Option.map_map]
    congr 2
    exact funext fun fault => (Fault.rebase_rebase _ _ fault).symm

theorem Stops.resumption {fault : Fault} (stops : scheme.Stops s input fault) :
    (scheme.decode s input).fault.bind (Fault.resumption? input.length) =
      fault.resumption? input.length := by
  rw [stops.decode]
  rfl

theorem Stops.resume {fault : Fault} {next : Nat} (stops : scheme.Stops s input fault)
    (resumes : fault.resumption? input.length = some next) :
    scheme.resume mark s input =
      (Run.write mark s).followedBy next fun s => scheme.resume mark s (input.drop next) := by
  rw [resume_of_some (stops.resumption.trans resumes), stops.decode]
  rfl

/-- Forgiving unit by unit is starting again behind each fault. -/
theorem run_forgive (mark : List Char) (s : CodeState) (input : List UInt8) :
    Step.run (fun s byte rest => Recovery.forgive s rest mark (scheme.step s byte rest)) s input =
      scheme.resume mark s input := by
  induction s, input using Step.run.induct
    (fun s byte rest => Recovery.forgive s rest mark (scheme.step s byte rest)) with
  | case1 s =>
    rw [Step.run_nil, resume_of_none (by rw [decode_nil]; rfl), decode_nil]
  | case2 s byte rest more state text unit ih =>
    rw [Step.run_take unit]
    simp only [Run.write_followedBy, ih]
    cases here : scheme.step s byte rest with
    | take count next scalars =>
      rw [here] at unit
      obtain ⟨rfl, rfl, rfl⟩ := Step.take.inj unit
      obtain ⟨tail, after, rfl, rfl, taken⟩ := takes_of_step here
      rw [← List.cons_append, taken.resume_append, Run.write_followedBy, List.drop_left,
        List.length_cons, Nat.add_comm]
    | stop fault =>
      have stops := stops_of_step here
      rw [here] at unit
      cases resumes : fault.resumption? (rest.length + 1) with
      | none =>
        rw [Recovery.forgive_of_none resumes] at unit
        cases unit
      | some next =>
        rw [Recovery.forgive_of_some stops.offset_eq_zero resumes] at unit
        obtain ⟨rfl, rfl, rfl⟩ := Step.take.inj unit
        have positive : 1 ≤ next := Nat.zero_lt_of_lt (stops.fits.resumption resumes).1
        obtain ⟨count, rfl⟩ : ∃ count, next = 1 + count := Nat.exists_eq_add_of_le positive
        rw [stops.resume resumes, Run.write_followedBy, Nat.add_sub_cancel_left,
          Nat.add_comm 1 count, List.drop_succ_cons]
  | case3 s byte rest fault stopped =>
    rw [Step.run_stop stopped]
    cases here : scheme.step s byte rest with
    | take count next scalars =>
      rw [here] at stopped
      cases stopped
    | stop cause =>
      have stops := stops_of_step here
      rw [here] at stopped
      cases resumes : cause.resumption? (rest.length + 1) with
      | none =>
        rw [Recovery.forgive_of_none resumes] at stopped
        obtain rfl : cause = fault := Step.stop.inj stopped
        rw [resume_of_none (stops.resumption.trans resumes), stops.decode]
      | some next =>
        rw [Recovery.forgive_of_some stops.offset_eq_zero resumes] at stopped
        cases stopped

variable (scheme) in
/-- A reader in state `s` stops right before `malformed`, and the fault covers just that: as many
bytes as it counts, or all the input if that ends inside a unit. -/
def Malformed (s : CodeState) (malformed rest : List UInt8) : Prop :=
  malformed ≠ [] ∧
  (scheme.decode s (malformed ++ rest) = .stop s (.invalidByte 0 malformed.length) ∨
    scheme.decode s (malformed ++ rest) = .stop s (.invalidEscape 0 malformed.length) ∨
    scheme.decode s (malformed ++ rest) = .stop s (.incomplete 0) ∧ rest = [])

variable (scheme) in
/-- From state `s` on, each span begins with a malformed stretch, which leaves the state alone, and
goes on with one that reads. The last state is reached before `tail`. -/
inductive Recovers : CodeState → List Span → List UInt8 → CodeState → Prop
  | nil {s : CodeState} {tail : List UInt8} : Recovers s [] tail s
  | cons {s next final : CodeState} {span : Span} {spans : List Span} {tail : List UInt8} :
    scheme.Malformed s span.malformed (span.readable ++ (spans.flatMap Span.bytes ++ tail)) →
    scheme.decode s span.readable = .write span.text next →
    Recovers next spans tail final → Recovers s (span :: spans) tail final

theorem Stops.malformed {fault : Fault} {count : Nat} (stops : scheme.Stops s input fault)
    (resumes : fault.resumption? input.length = some count) :
    scheme.Malformed s (input.take count) (input.drop count) := by
  obtain ⟨positive, inside⟩ := stops.fits.resumption resumes
  have start := stops.offset_eq_zero
  have length : (input.take count).length = count := List.length_take_of_le inside
  refine ⟨List.ne_nil_of_length_pos (by omega), ?_⟩
  rw [List.take_append_drop, stops.decode, length]
  cases fault with
  | unmappable scalar offset => cases resumes
  | invalidByte offset covered =>
    obtain rfl : offset = 0 := start
    obtain rfl : 0 + covered = count := Option.some.inj resumes
    exact .inl (by rw [Nat.zero_add])
  | invalidEscape offset covered =>
    obtain rfl : offset = 0 := start
    obtain rfl : 0 + covered = count := Option.some.inj resumes
    exact .inr (.inl (by rw [Nat.zero_add]))
  | incomplete offset =>
    obtain rfl : offset = 0 := start
    obtain rfl : 0 + (input.length - 0) = count := Option.some.inj resumes
    exact .inr (.inr ⟨rfl, List.drop_eq_nil_of_le (by omega)⟩)
  | internal offset charset element => cases resumes

/-- The fault that ends a strict reading divides the input into what was read, the malformed
stretch and the rest. -/
theorem malformed_of_resumption {next : Nat}
    (resumes : (scheme.decode s input).fault.bind (Fault.resumption? input.length) = some next) :
    ∃ malformed, input = input.take ((scheme.decode s input).reach input.length) ++
        (malformed ++ input.drop next) ∧
      scheme.Malformed (scheme.decode s input).state malformed (input.drop next) := by
  obtain ⟨fault, stopped, resumption⟩ := Option.bind_eq_some_iff.mp resumes
  obtain ⟨bound, -, after⟩ := scheme.decode_divides s input
  obtain ⟨cause, stops, rfl⟩ := after fault stopped
  generalize (scheme.decode s input).reach input.length = reached at *
  have length : input.length = (input.drop reached).length + reached := by
    rw [List.length_drop]
    omega
  rw [length, Fault.resumption?_rebase] at resumption
  obtain ⟨count, covered, rfl⟩ := Option.map_eq_some_iff.mp resumption
  have behind : input.drop (count + reached) = (input.drop reached).drop count := by
    rw [List.drop_drop, Nat.add_comm]
  refine ⟨(input.drop reached).take count, ?_, ?_⟩
  · rw [behind, List.take_append_drop, List.take_append_drop]
  · rw [behind]
    exact stops.malformed covered

/-- A reading that cannot be resumed goes to the end of the input or to where the profile leads
nowhere. -/
theorem ends_or_internal
    (ends : (scheme.decode s input).fault.bind (Fault.resumption? input.length) = none) :
    (scheme.decode s input).fault = none ∨ ∃ offset charset element,
      (scheme.decode s input).fault = some (.internal offset charset element) ∧
      offset ≤ input.length ∧
      scheme.decode s (input.take offset) =
        .write (scheme.decode s input).output (scheme.decode s input).state ∧
      scheme.decode (scheme.decode s input).state (input.drop offset) =
        .stop (scheme.decode s input).state (.internal 0 charset element) := by
  obtain ⟨bound, before, after⟩ := scheme.decode_divides s input
  cases stopped : (scheme.decode s input).fault with
  | none => exact .inl rfl
  | some fault =>
    right
    obtain ⟨cause, stops, rebased⟩ := after fault stopped
    have fits := scheme.decode_fault_fits s stopped
    rw [stopped] at ends
    cases fault with
    | unmappable scalar offset => exact fits.elim
    | internal offset charset element =>
      have place : (scheme.decode s input).reach input.length = offset := by
        rw [Run.reach, stopped]
        rfl
      rw [place] at before rebased stops bound
      obtain rfl : cause = .internal 0 charset element := by
        cases cause with
        | internal first charset element =>
          obtain ⟨same, rfl, rfl⟩ := Fault.internal.inj rebased
          obtain rfl : first = 0 := by omega
          rfl
        | _ => cases rebased
      exact ⟨offset, charset, element, rfl, bound, before, stops.decode⟩
    | _ => cases ends

/-- Every input falls into stretches, and what resuming makes of it can be told from them. -/
theorem exists_spans (s : CodeState) (input : List UInt8) :
    ∃ readable text next spans tail final,
      input = readable ++ (spans.flatMap Span.bytes ++ tail) ∧
      scheme.decode s readable = .write text next ∧ scheme.Recovers next spans tail final ∧
      (tail = [] ∧ (∀ mark, scheme.resume mark s input =
          .write (text ++ spans.flatMap fun span => mark ++ span.text) final) ∨
        ∃ charset element, scheme.decode final tail = .stop final (.internal 0 charset element) ∧
          ∀ mark, (scheme.resume mark s input).fault =
            some (.internal (input.length - tail.length) charset element)) := by
  induction s, input using resume.induct scheme with
  | case1 s input run ends =>
    rcases ends_or_internal ends with clear |
      ⟨offset, charset, element, stopped, bound, reads, broken⟩
    · have before := Run.eq_write_of_clear clear
      refine ⟨input, run.output, run.state, [], [], run.state, by simp, before, .nil,
        .inl ⟨rfl, ?_⟩⟩
      intro mark
      rw [resume_of_none ends, before]
      simp [run]
    · refine ⟨input.take offset, run.output, run.state, [], input.drop offset, run.state, ?_,
        reads, .nil, .inr ⟨charset, element, broken, ?_⟩⟩
      · simp
      · intro mark
        rw [resume_of_none ends, stopped, List.length_drop, Nat.sub_sub_self bound]
  | case2 s input run next resumes inside ih =>
    obtain ⟨bound, before, -⟩ := scheme.decode_divides s input
    obtain ⟨malformed, parts, bad⟩ := malformed_of_resumption resumes
    obtain ⟨readable, text, state, spans, tail, final, later, reads, recovers, results⟩ :=
      ih run.state
    refine ⟨input.take (run.reach input.length), run.output, run.state,
      ⟨malformed, readable, text⟩ :: spans, tail, final, ?_, before, ?_, ?_⟩
    · simpa [Span.bytes, later] using parts
    · rw [later] at bad
      exact .cons bad reads recovers
    rcases results with ⟨rfl, texts⟩ | ⟨charset, element, broken, faults⟩
    · refine .inl ⟨rfl, fun mark => ?_⟩
      rw [resume_of_some resumes, Run.write_followedBy, texts mark]
      simp [Run.write, run]
    · refine .inr ⟨charset, element, broken, fun mark => ?_⟩
      rw [resume_of_some resumes, Run.write_followedBy, faults mark]
      have length := congrArg List.length later
      simp only [List.length_drop, List.length_append] at length ⊢
      simp only [Option.map_some, Fault.rebase]
      congr 2
      omega

theorem decode_of_recovers {readable tail : List UInt8} {text : List Char} {next final : CodeState}
    {span : Span} {spans : List Span} (reads : scheme.decode s readable = .write text next)
    (recovers : scheme.Recovers next (span :: spans) tail final) :
    let input := readable ++ ((span :: spans).flatMap Span.bytes ++ tail)
    (scheme.decode s input).fault = some (.invalidByte readable.length span.malformed.length) ∨
    (scheme.decode s input).fault = some (.invalidEscape readable.length span.malformed.length) ∨
    (scheme.decode s input).fault = some (.incomplete readable.length) ∧
      input = readable ++ span.malformed := by
  intro input
  cases recovers with
  | cons malformed readsOn later =>
    have first : (span :: spans).flatMap Span.bytes ++ tail =
        span.malformed ++ (span.readable ++ (spans.flatMap Span.bytes ++ tail)) := by
      simp [Span.bytes]
    have fault : (scheme.decode s input).fault = (scheme.decode next (span.malformed ++
        (span.readable ++ (spans.flatMap Span.bytes ++ tail)))).fault.map
          (·.rebase readable.length) := by
      rw [← first, scheme.decode_append_of_write s reads]
      rfl
    obtain ⟨-, stopped | stopped | ⟨stopped, nothing⟩⟩ := malformed
    · left
      rw [fault, stopped]
      simp [Run.stop, Fault.rebase]
    · right; left
      rw [fault, stopped]
      simp [Run.stop, Fault.rebase]
    · right; right
      refine ⟨?_, congrArg (readable ++ ·) (by rw [first, nothing, List.append_nil])⟩
      rw [fault, stopped]
      simp [Run.stop, Fault.rebase]

end Scheme

theorem Codec.decode_replace (codec : Codec) (input : List UInt8) :
    (codec.withRecovery .replace).decode input =
      (codec.scheme.resume [Recovery.bytesMark] .initial input).result.mapError .fault := by
  rw [← Scheme.run_forgive]
  rfl

theorem Codec.decode_ignore (codec : Codec) (input : List UInt8) :
    (codec.withRecovery .ignore).decode input =
      (codec.scheme.resume [] .initial input).result.mapError .fault := by
  rw [← Scheme.run_forgive]
  rfl

theorem Codec.decode_strict (codec : Codec) (input : List UInt8) :
    (codec.withRecovery .strict).decode input =
      (codec.scheme.decode .initial input).result.mapError .fault :=
  rfl

/-- What the three ways to read mean. Every input falls into a readable stretch and spans that
begin with a malformed one, up to a tail where the profile itself leads nowhere. One reader goes
from the initial state through the readable stretches and is not moved by the malformed ones; each
fault it meets covers just the malformed stretch. Without such a tail, replacing and ignoring give
the texts with and without marks between them, and strict reading gives the first text or the
fault at its end. With a tail, both give the internal fault at its start. -/
theorem Codec.decode_recovers (codec : Codec) (input : List UInt8) :
    ∃ readable text next spans tail final,
      input = readable ++ (spans.flatMap Span.bytes ++ tail) ∧
      codec.scheme.decode .initial readable = .write text next ∧
      codec.scheme.Recovers next spans tail final ∧
      (tail = [] ∧
        (codec.withRecovery .replace).decode input =
          .ok (text ++ spans.flatMap fun span => Recovery.bytesMark :: span.text) ∧
        (codec.withRecovery .ignore).decode input = .ok (text ++ spans.flatMap Span.text) ∧
        (match spans with
          | [] => (codec.withRecovery .strict).decode input = .ok text
          | span :: _ => ∃ fault,
            (codec.withRecovery .strict).decode input = .error (.fault fault) ∧
            (fault = .invalidByte readable.length span.malformed.length ∨
              fault = .invalidEscape readable.length span.malformed.length ∨
              fault = .incomplete readable.length ∧ input = readable ++ span.malformed)) ∨
      ∃ charset element,
        codec.scheme.decode final tail = .stop final (.internal 0 charset element) ∧
        (codec.withRecovery .replace).decode input =
          .error (.fault (.internal (input.length - tail.length) charset element)) ∧
        (codec.withRecovery .ignore).decode input =
          .error (.fault (.internal (input.length - tail.length) charset element))) := by
  obtain ⟨readable, text, next, spans, tail, final, parts, reads, recovers, results⟩ :=
    codec.scheme.exists_spans .initial input
  refine ⟨readable, text, next, spans, tail, final, parts, reads, recovers, ?_⟩
  rcases results with ⟨rfl, texts⟩ | ⟨charset, element, broken, faults⟩
  · refine .inl ⟨rfl, ?_, ?_, ?_⟩
    · rw [decode_replace, texts]
      rfl
    · rw [decode_ignore, texts]
      rfl
    · cases spans with
      | nil =>
        obtain rfl : input = readable := by simpa using parts
        rw [decode_strict, reads]
        rfl
      | cons span spans =>
        have stops := Scheme.decode_of_recovers reads recovers
        dsimp only at stops
        rw [← parts] at stops
        rcases stops with stopped | stopped | ⟨stopped, whole⟩
        · exact ⟨_, by rw [decode_strict, Run.result_of_fault stopped]; rfl, .inl rfl⟩
        · exact ⟨_, by rw [decode_strict, Run.result_of_fault stopped]; rfl, .inr (.inl rfl)⟩
        · exact ⟨_, by rw [decode_strict, Run.result_of_fault stopped]; rfl,
            .inr (.inr ⟨rfl, whole⟩)⟩
  · refine .inr ⟨charset, element, broken, ?_, ?_⟩
    · rw [decode_replace, Run.result_of_fault (faults _)]
      rfl
    · rw [decode_ignore, Run.result_of_fault (faults _)]
      rfl

end CodeExtension
