import CodeExtension.Proofs.Chunking
import CodeExtension.Proofs.Lockstep

/-! Where readers can come to. A register holds ASCII or a set that the profile puts there, and no
sequence puts a set of 96 positions into G0; so an internal fault needs a profile that itself leads
to a set in the wrong element, and such a profile always has an input that goes there. -/
namespace CodeExtension

/-- The profile leads to a set that cannot be read from its element: one of 96 positions in G1
behind SO, or a double-byte one in G2 behind a single shift. -/
def Profile.DeadEnd (profile : Profile) : Prop :=
  (profile.lockingShift = true ∧
    ∃ d ∈ profile.designations, d.element = .g1 ∧ d.charset.shape = .set96) ∨
  (profile.singleShift = true ∧
    ∃ d ∈ profile.designations, d.element = .g2 ∧ d.charset.shape = .set94x94)

instance (profile : Profile) : Decidable profile.DeadEnd :=
  inferInstanceAs (Decidable ((_ ∧ _) ∨ (_ ∧ _)))

theorem Profile.not_deadEnd_of_registered : ∀ profile ∈ registered, ¬profile.DeadEnd := by
  decide

def Run.isInternal {σ α : Type} (run : Run σ α) : Bool := run.fault.any Fault.isInternal

theorem Run.isInternal_followedBy {σ α : Type} {output : List α} {state : σ} {width : Nat}
    {next : σ → Run σ α} :
    ((Run.write output state).followedBy width next).isInternal = (next state).isInternal := by
  rw [write_followedBy]
  cases stopped : (next state).fault <;> simp [isInternal, stopped]

namespace Scheme

variable (scheme : Scheme)

structure Reached (s : CodeState) : Prop where
  g0 : s.g0.shape ≠ .set96
  g1 : s.g1 = .ascii ∨ ⟨s.g1, .g1⟩ ∈ scheme.profile.designations
  g2 : s.g2 = .ascii ∨ ⟨s.g2, .g2⟩ ∈ scheme.profile.designations
  shifted : s.shifted = true → scheme.profile.lockingShift = true

variable {scheme} {s : CodeState}

theorem reached_initial : scheme.Reached .initial :=
  ⟨nofun, .inl rfl, .inl rfl, nofun⟩

theorem Reached.unshift (reached : scheme.Reached s) : scheme.Reached (s.shift false) :=
  ⟨reached.g0, reached.g1, reached.g2, nofun⟩

theorem Reached.designate (reached : scheme.Reached s) {element : CodeElement}
    {charset : GraphicSet} (supported : scheme.profile.supports element charset = true)
    (possible : element = .g0 → charset.shape ≠ .set96) :
    scheme.Reached (s.designate element charset) := by
  have listed : element ≠ .g0 → ⟨charset, element⟩ ∈ scheme.profile.designations := by
    intro other
    simpa [Profile.supports, other] using supported
  cases element with
  | g0 => exact ⟨possible rfl, reached.g1, reached.g2, reached.shifted⟩
  | g1 => exact ⟨reached.g0, .inr (listed (by decide)), reached.g2, reached.shifted⟩
  | g2 => exact ⟨reached.g0, reached.g1, .inr (listed (by decide)), reached.shifted⟩

theorem Takes.reached {bytes : List UInt8} {state : CodeState} {text : List Char}
    (unit : scheme.Takes s bytes state text) (reached : scheme.Reached s) :
    scheme.Reached state := by
  cases unit with
  | designation spelled supported =>
    refine reached.designate supported ?_
    rintro rfl
    exact spelled.shape_g0
  | shift shifting kind => exact ⟨reached.g0, reached.g1, reached.g2, fun _ => shifting⟩
  | newline => exact reached.unshift
  | singleShifted | control | single | double => exact reached

/-- A stop there is an internal fault only under a profile with a dead end. -/
theorem Stops.deadEnd {input : List UInt8} {fault : Fault} (stops : scheme.Stops s input fault)
    (reached : scheme.Reached s) (internal : fault.isInternal = true) :
    scheme.profile.DeadEnd := by
  cases stops with
  | singleShiftDouble shifting graphic double =>
    refine .inr ⟨shifting, ⟨s.g2, .g2⟩, ?_, rfl, double⟩
    exact reached.g2.resolve_left fun ascii => by simp [ascii, GraphicSet.shape] at double
  | wide graphic shape =>
    -- G0 never holds such a set, so it is the one in G1 and the shift is in force.
    cases shifted : s.shifted with
    | false =>
      have active : s.active = s.g0 := by
        rw [CodeState.active, CodeState.invoked, shifted]
        rfl
      exact absurd (active ▸ shape) reached.g0
    | true =>
      have active : s.active = s.g1 := by
        rw [CodeState.active, CodeState.invoked, shifted]
        rfl
      rw [active] at shape
      refine .inl ⟨reached.shifted shifted, ⟨s.g1, .g1⟩, ?_, rfl, shape⟩
      exact reached.g1.resolve_left fun ascii => by simp [ascii, GraphicSet.shape] at shape
  | _ => contradiction

theorem Reached.decode (reached : scheme.Reached s) (input : List UInt8) :
    scheme.Reached (scheme.decode s input).state ∧
      ((scheme.decode s input).isInternal = true → scheme.profile.DeadEnd) := by
  induction s, input using scheme.decode_induction with
  | nil s =>
    rw [decode_nil]
    exact ⟨reached, nofun⟩
  | take s bytes rest next text unit ih =>
    obtain ⟨later, faults⟩ := ih (unit.reached reached)
    rw [unit.decode_append, Run.isInternal_followedBy]
    exact ⟨later, faults⟩
  | stop s input fault stops =>
    rw [stops.decode]
    exact ⟨reached, stops.deadEnd reached⟩

/-- A set of 96 positions in G1 is designated, invoked and met by the next graphic byte. -/
theorem decode_internal_g1 {charset : GraphicSet} (shifting : scheme.profile.lockingShift = true)
    (listed : ⟨charset, .g1⟩ ∈ scheme.profile.designations) (wide : charset.shape = .set96) :
    ∃ input, (scheme.decode .initial input).isInternal = true := by
  have supported : scheme.profile.supports .g1 charset = true := by
    simp [Profile.supports, listed]
  obtain ⟨bytes, expressible⟩ : ∃ bytes, Escape.designation? .g1 charset = some bytes :=
    designation?_eq_some (by simp)
  have designated := decode_designation expressible supported .initial
  refine ⟨bytes ++ ([shiftOut] ++ [0x21]), ?_⟩
  have shift : scheme.Takes (CodeState.initial.designate .g1 charset) [shiftOut]
      ((CodeState.initial.designate .g1 charset).shift true) [] := .shift shifting (.inl rfl)
  have stops : scheme.Stops ((CodeState.initial.designate .g1 charset).shift true) [0x21]
      (.internal 0 charset .g1) := .wide (by decide) wide
  rw [scheme.decode_append_of_write _ designated, Run.isInternal_followedBy, shift.decode_append,
    Run.isInternal_followedBy, stops.decode]
  rfl

/-- A double-byte set in G2 is designated and met by the byte after a single shift. -/
theorem decode_internal_g2 {charset : GraphicSet} (shifting : scheme.profile.singleShift = true)
    (listed : ⟨charset, .g2⟩ ∈ scheme.profile.designations)
    (double : charset.shape = .set94x94) :
    ∃ input, (scheme.decode .initial input).isInternal = true := by
  have supported : scheme.profile.supports .g2 charset = true := by
    simp [Profile.supports, listed]
  obtain ⟨bytes, expressible⟩ : ∃ bytes, Escape.designation? .g2 charset = some bytes :=
    designation?_eq_some (by simp)
  have designated := decode_designation expressible supported .initial
  refine ⟨bytes ++ [esc, 0x4E, 0x21], ?_⟩
  have stops : scheme.Stops (CodeState.initial.designate .g2 charset) [esc, 0x4E, 0x21]
      (.internal 0 charset .g2) := .singleShiftDouble shifting (by decide) double
  rw [scheme.decode_append_of_write _ designated, Run.isInternal_followedBy, stops.decode]
  rfl

theorem decode_internal_iff (scheme : Scheme) :
    (∃ input, (scheme.decode .initial input).isInternal = true) ↔ scheme.profile.DeadEnd := by
  constructor
  · rintro ⟨input, internal⟩
    exact (reached_initial.decode input).2 internal
  · rintro (⟨shifting, ⟨charset, _⟩, listed, rfl, wide⟩ |
      ⟨shifting, ⟨charset, _⟩, listed, rfl, double⟩)
    · exact decode_internal_g1 shifting listed wide
    · exact decode_internal_g2 shifting listed double

end Scheme

inductive Request where
  | feed (chunk : List UInt8)
  /-- Reads an input at once, past what is pending. -/
  | decode (input : List UInt8)
  | reset
  | finish

def Request.run (scheme : Scheme) (stream : Stream) : Request → Run Stream Char
  | .feed chunk => scheme.feed stream chunk
  | .decode input =>
    let run := scheme.decode stream.state input
    ⟨run.output, { stream with state := run.state }, run.fault⟩
  | .reset => .skip { stream with state := stream.state.shift false }
  | .finish => stream.finish

namespace Scheme

/-- The answers to requests made one after the other, whether they fail or not. -/
def answers (scheme : Scheme) (stream : Stream) : List Request → List (Run Stream Char)
  | [] => []
  | request :: rest =>
    let run := request.run scheme stream
    run :: scheme.answers run.state rest

variable {scheme : Scheme} {stream : Stream}

theorem feed_state (scheme : Scheme) (stream : Stream) (chunk : List UInt8) :
    (scheme.feed stream chunk).state.state =
      (scheme.decode stream.state (stream.pending ++ chunk)).state := by
  simp only [feed]
  split <;> rfl

theorem feed_isInternal (scheme : Scheme) (stream : Stream) (chunk : List UInt8) :
    (scheme.feed stream chunk).isInternal =
      (scheme.decode stream.state (stream.pending ++ chunk)).isInternal := by
  simp only [feed]
  split
  · next clear => simp [Run.isInternal, Run.write, clear]
  · next cut => simp [Run.isInternal, Run.write, cut, Fault.isInternal]
  · next fault _ stopped => simp [Run.isInternal, stopped]

/-- One request. Of what is pending only the bytes matter, and those are read like others. -/
theorem Reached.request (reached : scheme.Reached stream.state) (request : Request) :
    scheme.Reached (request.run scheme stream).state.state ∧
      ((request.run scheme stream).isInternal = true → scheme.profile.DeadEnd) := by
  cases request with
  | feed chunk =>
    rw [Request.run, feed_state, feed_isInternal]
    exact reached.decode (stream.pending ++ chunk)
  | decode input => exact reached.decode input
  | reset => exact ⟨reached.unshift, nofun⟩
  | finish =>
    refine ⟨?_, ?_⟩
    · simp only [Request.run, Stream.finish]
      split <;> exact reached.unshift
    · simp only [Request.run, Stream.finish]
      split <;> rintro ⟨⟩

theorem Reached.answers (reached : scheme.Reached stream.state) (requests : List Request) :
    ∀ run ∈ scheme.answers stream requests, run.isInternal = true → scheme.profile.DeadEnd := by
  induction requests generalizing stream with
  | nil => simp [Scheme.answers]
  | cons request rest ih =>
    obtain ⟨next, here⟩ := reached.request request
    intro run member internal
    rw [Scheme.answers] at member
    rcases List.mem_cons.mp member with rfl | later
    · exact here internal
    · exact ih next run later internal

/-- Chunks meet an internal fault just when their bytes do, read at once. -/
theorem feedAll_isInternal (scheme : Scheme) (chunks : List (List UInt8)) :
    (scheme.feedAll {} chunks).isInternal =
      (scheme.decode .initial chunks.flatten).isInternal := by
  have alike := scheme.feedAll_alike scheme.waiting_initial chunks
  rw [Run.isInternal, alike.fault]
  exact scheme.feed_isInternal {} chunks.flatten

theorem answers_of_feedAll {chunks : List (List UInt8)}
    (internal : (scheme.feedAll stream chunks).isInternal = true) :
    ∃ run ∈ scheme.answers stream (chunks.map .feed), run.isInternal = true := by
  induction chunks generalizing stream with
  | nil => cases internal
  | cons chunk rest ih =>
    rw [feedAll] at internal
    cases here : (scheme.feed stream chunk).fault with
    | some fault =>
      rw [Run.andThen_of_fault here] at internal
      exact ⟨_, List.mem_cons_self, internal⟩
    | none =>
      rw [Run.andThen_of_clear here] at internal
      obtain ⟨run, member, internal⟩ := ih internal
      exact ⟨run, .tail _ member, internal⟩

/-- Exactly when a reader can meet an internal fault: on some input at once, on some sequence of
requests, or on some input that is only fed, just when the profile has a dead end. An input that
leads there does so however it is cut into chunks. No registered profile has a dead end. -/
theorem internal_reachable_iff (scheme : Scheme) :
    ((∃ input, (scheme.decode .initial input).isInternal = true) ↔ scheme.profile.DeadEnd) ∧
    ((∃ requests, ∃ run ∈ scheme.answers {} requests, run.isInternal = true) ↔
      scheme.profile.DeadEnd) ∧
    ((∃ chunks : List (List UInt8), ∃ run ∈ scheme.answers {} (chunks.map .feed),
      run.isInternal = true) ↔ scheme.profile.DeadEnd) ∧
    (∀ chunks : List (List UInt8), (scheme.decode .initial chunks.flatten).isInternal = true →
      ∃ run ∈ scheme.answers {} (chunks.map .feed), run.isInternal = true) ∧
    (scheme.profile ∈ Profile.registered →
      ∀ requests, ∀ run ∈ scheme.answers {} requests, run.isInternal = false) := by
  have only (requests : List Request) :
      ∀ run ∈ scheme.answers {} requests, run.isInternal = true → scheme.profile.DeadEnd :=
    Reached.answers reached_initial requests
  have fed (chunks : List (List UInt8))
      (internal : (scheme.decode .initial chunks.flatten).isInternal = true) :
      ∃ run ∈ scheme.answers {} (chunks.map .feed), run.isInternal = true := by
    rw [← feedAll_isInternal] at internal
    exact answers_of_feedAll internal
  refine ⟨decode_internal_iff scheme, ⟨?_, ?_⟩, ⟨?_, ?_⟩, fed, ?_⟩
  · rintro ⟨requests, run, member, internal⟩
    exact only requests run member internal
  · intro dead
    obtain ⟨input, internal⟩ := (decode_internal_iff scheme).mpr dead
    exact ⟨[.decode input], _, List.mem_cons_self, internal⟩
  · rintro ⟨chunks, run, member, internal⟩
    exact only _ run member internal
  · intro dead
    obtain ⟨input, internal⟩ := (decode_internal_iff scheme).mpr dead
    exact ⟨[input], fed [input] (by simpa using internal)⟩
  · intro registered requests run member
    by_contra internal
    exact Profile.not_deadEnd_of_registered _ registered
      (only requests run member (by simpa using internal))

end Scheme

end CodeExtension
