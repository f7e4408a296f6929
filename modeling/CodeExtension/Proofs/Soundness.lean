import CodeExtension.Codec
import CodeExtension.Proofs.Lockstep

/-! What a scheme without defect can rely on when it writes. Each of its designations can be made
and each set it writes has an element, so a writer stops only at scalars that have no position.
The one gap is ASCII, which is taken to need no designation: a substitution into it asks for its
element all the same. -/
namespace CodeExtension

namespace Run

variable {σ α : Type}

theorem andThen_clear {run : Run σ α} {next : σ → Run σ α} (first : run.fault = none)
    (second : (next run.state).fault = none) : (run.andThen next).fault = none := by
  rw [andThen_of_clear first]
  exact second

theorem fault_of_andThen {run : Run σ α} {next : σ → Run σ α} {fault : Fault}
    (stopped : (run.andThen next).fault = some fault) :
    run.fault = some fault ∨ (next run.state).fault = some fault := by
  cases here : run.fault with
  | some cause =>
    rw [andThen_of_fault here, here] at stopped
    exact .inl stopped
  | none =>
    rw [andThen_of_clear here] at stopped
    exact .inr stopped

/-- A conversion that stops does so at one of its items, and the items before that one are
converted as if they were all. -/
theorem forEach_divides {ι : Type} {convert : σ → ι → Run σ α} {state : σ} {items : List ι}
    {fault : Fault} (stopped : (forEach convert state items).fault = some fault) :
    ∃ before item after, items = before ++ item :: after ∧
      (forEach convert state before).fault = none ∧
      forEach convert state items =
        (forEach convert state before).followedBy before.length
          fun state => convert state item := by
  induction items generalizing state fault with
  | nil => cases stopped
  | cons item rest ih =>
    rw [forEach] at stopped
    cases here : (convert state item).fault with
    | some cause =>
      refine ⟨[], item, rest, rfl, rfl, ?_⟩
      have whole : forEach convert state (item :: rest) = convert state item := by
        simp [forEach, followedBy, here]
      exact whole.trans (skip_andThen state fun state => convert state item).symm
    | none =>
      rw [followedBy_of_clear here] at stopped
      obtain ⟨inner, found, -⟩ := Option.map_eq_some_iff.mp stopped
      obtain ⟨before, failing, after, rfl, clear, same⟩ := ih found
      refine ⟨item :: before, failing, after, rfl, ?_, ?_⟩
      · rw [forEach, followedBy_of_clear here, clear]
        rfl
      · rw [forEach, forEach, List.length_cons, followedBy_assoc, followedBy_of_clear here,
          followedBy_of_clear here, same]

theorem forEach_fault {ι : Type} {convert : σ → ι → Run σ α} {state : σ} {items : List ι}
    {fault : Fault} (stopped : (forEach convert state items).fault = some fault) :
    ∃ item ∈ items, ∃ before cause base,
      (convert before item).fault = some cause ∧ fault = cause.rebase base := by
  obtain ⟨before, item, after, rfl, clear, same⟩ := forEach_divides stopped
  rw [same, followedBy_of_clear clear] at stopped
  obtain ⟨cause, found, rfl⟩ := Option.map_eq_some_iff.mp stopped
  exact ⟨item, List.mem_append_right _ List.mem_cons_self, _, cause, _, found, rfl⟩

theorem mapError_eq_error_iff {run : Run σ α} {fault : Fault} :
    run.result.mapError Failure.fault = .error (.fault fault) ↔ run.fault = some fault := by
  cases stopped : run.fault <;> simp [result, stopped, Except.mapError]

end Run

namespace Catalogue

theorem encode_ascii_outside {scalar : Char} (tables : Catalogue)
    (outside : 0x80 ≤ scalar.toNat) : tables.encode .ascii scalar = none := by
  rw [encode, if_neg (Nat.not_lt.mpr outside)]

end Catalogue

namespace Scheme

variable {scheme : Scheme} {s : CodeState} {scalar : Char} {charset : GraphicSet} {code : Code}
  {element : CodeElement}

theorem defect?_eq_none_iff : scheme.defect? = none ↔
    scheme.missingTables = [] ∧
    (∀ d ∈ scheme.profile.designations, Escape.designation? d.element d.charset ≠ none) ∧
    ∀ charset ∈ scheme.written, charset ≠ .ascii →
      scheme.profile.elementFor? charset ≠ none := by
  simp [defect?, List.find?_eq_none]

theorem expressible_of_sound (sound : scheme.defect? = none)
    (found : scheme.profile.elementFor? charset = some element) :
    ∃ bytes, Escape.designation? element charset = some bytes := by
  obtain ⟨-, expressible, -⟩ := defect?_eq_none_iff.mp sound
  obtain ⟨designation, first, rfl⟩ := Option.map_eq_some_iff.mp found
  have same : designation.charset = charset := by simpa using List.find?_some first
  rw [← same]
  exact Option.ne_none_iff_exists'.mp
    (expressible designation (List.mem_of_find?_eq_some first))

/-- The position of a scalar is in the first candidate that has it or, if none has, where a
substitution puts it. -/
theorem position?_cases (chosen : scheme.position? scalar = some (charset, code)) :
    charset ∈ scheme.profile.candidates ∧ scheme.tables.encode charset scalar = some code ∨
    (∀ other ∈ scheme.profile.candidates, scheme.tables.encode other scalar = none) ∧
      ∃ sub ∈ scheme.profile.substitutions, scheme.profile.substitution? scalar = some sub ∧
        sub.scalar = scalar ∧ sub.charset = charset ∧ sub.code = code := by
  rcases Option.or_eq_some_iff.mp chosen with candidate | ⟨absent, substitution⟩
  · obtain ⟨first, listed, has⟩ := List.exists_of_findSome?_eq_some candidate
    obtain ⟨position, found, same⟩ := Option.map_eq_some_iff.mp has
    obtain ⟨rfl, rfl⟩ := Prod.mk.inj same
    exact .inl ⟨listed, found⟩
  · obtain ⟨sub, found, same⟩ := Option.map_eq_some_iff.mp substitution
    obtain ⟨rfl, rfl⟩ := Prod.mk.inj same
    refine .inr ⟨?_, sub, List.mem_of_find?_eq_some found, found, ?_, rfl, rfl⟩
    · simpa using absent
    · simpa using List.find?_some found

theorem position?_eq_none_iff : scheme.position? scalar = none ↔
    (∀ other ∈ scheme.profile.candidates, scheme.tables.encode other scalar = none) ∧
      scheme.profile.substitution? scalar = none := by
  simp [position?]

theorem position?_of_substitution {sub : Substitution}
    (absent : ∀ other ∈ scheme.profile.candidates, scheme.tables.encode other scalar = none)
    (found : scheme.profile.substitution? scalar = some sub) :
    scheme.position? scalar = some (sub.charset, sub.code) := by
  have none : scheme.profile.candidates.findSome? (fun charset =>
      (scheme.tables.encode charset scalar).map (charset, ·)) = none := by
    simpa using absent
  rw [position?, none, found]
  rfl

theorem written_of_position? (chosen : scheme.position? scalar = some (charset, code)) :
    charset ∈ scheme.written := by
  rcases position?_cases chosen with ⟨listed, -⟩ | ⟨-, sub, listed, -, -, rfl, -⟩
  · exact List.mem_append_left _ listed
  · exact List.mem_append_right _ (List.mem_map_of_mem listed)

theorem unshift_clear (s : CodeState) : s.unshift.fault = none := by
  obtain ⟨g0, g1, g2, shifted⟩ := s
  cases shifted <;> rfl

theorem lockShift_clear (s : CodeState) : s.lockShift.fault = none := by
  obtain ⟨g0, g1, g2, shifted⟩ := s
  cases shifted <;> rfl

theorem put_clear (s : CodeState) (byte : UInt8) : (s.put byte).fault = none :=
  Run.andThen_clear (unshift_clear s) rfl

theorem ensure_clear {bytes : List UInt8}
    (expressible : Escape.designation? element charset = some bytes) (s : CodeState) :
    (s.ensure element charset).fault = none := by
  rw [CodeState.ensure]
  split
  · rfl
  · rw [expressible]
    rfl

theorem reset_clear (s : CodeState) : s.reset.fault = none :=
  Run.andThen_clear (unshift_clear s) (ensure_clear rfl _)

theorem reset_atBaseline (s : CodeState) : s.reset.state.atBaseline = true := by
  rw [CodeState.reset, Run.andThen_of_clear (unshift_clear s), unshift_state, ensure_state rfl]
  exact decide_eq_true ⟨rfl, rfl⟩

theorem select_clear {bytes : List UInt8}
    (expressible : Escape.designation? element charset = some bytes) (s : CodeState) :
    (s.select element charset).fault = none := by
  cases element with
  | g0 => exact Run.andThen_clear (unshift_clear s) (ensure_clear expressible _)
  | g1 => exact Run.andThen_clear (ensure_clear expressible s) (lockShift_clear _)
  | g2 => exact Run.andThen_clear (ensure_clear expressible s) rfl

theorem select_active {bytes : List UInt8}
    (expressible : Escape.designation? element charset = some bytes) (invoked : element ≠ .g2)
    (s : CodeState) : (s.select element charset).state.active = charset := by
  cases element with
  | g0 =>
    rw [CodeState.select, Run.andThen_of_clear (unshift_clear s), unshift_state,
      ensure_state expressible]
    rfl
  | g1 =>
    rw [CodeState.select, Run.andThen_of_clear (ensure_clear expressible s), lockShift_state,
      ensure_state expressible]
    rfl
  | g2 => exact absurd rfl invoked

theorem emit_clear (sound : scheme.defect? = none)
    (found : scheme.profile.elementFor? charset = some element) (s : CodeState) (code : Code) :
    (scheme.emit s charset code).fault = none := by
  obtain ⟨bytes, expressible⟩ := expressible_of_sound sound found
  rw [emit, found]
  exact Run.andThen_clear (select_clear expressible s) rfl

theorem emit_undesignated (absent : scheme.profile.elementFor? charset = none) (s : CodeState)
    (code : Code) : scheme.emit s charset code = .stop s (.internal 0 charset .g0) := by
  rw [emit, absent]

theorem encodeAscii_clear (scheme : Scheme) (s : CodeState) (scalar : Char) :
    (scheme.encodeAscii s scalar).fault = none := by
  rw [encodeAscii]
  split
  · exact put_clear s _
  · exact Run.andThen_clear (ensure_clear rfl s) (put_clear _ _)

/-- What becomes of a scalar: it is written as it stands, or from its position, or it has none and
leaves no trace. -/
theorem encodeScalar_cases (scheme : Scheme) (s : CodeState) (scalar : Char) :
    (scheme.encodeScalar s scalar).fault = none ∧
      (scalar.toNat < 0x80 ∨ scheme.held? s scalar ≠ none) ∨
    0x80 ≤ scalar.toNat ∧ scheme.held? s scalar = none ∧
      ((∃ charset code, scheme.position? scalar = some (charset, code) ∧
          scheme.encodeScalar s scalar = scheme.emit s charset code) ∨
        scheme.position? scalar = none ∧
          scheme.encodeScalar s scalar = .stop s (.unmappable scalar 0)) := by
  rw [encodeScalar]
  split
  · next ascii =>
    refine .inl ⟨?_, .inl ascii⟩
    dsimp only
    split
    · exact Run.andThen_clear (encodeAscii_clear scheme s scalar) rfl
    · exact encodeAscii_clear scheme s scalar
  next other =>
  split
  · next byte offered => exact .inl ⟨put_clear s byte, .inr (by simp [offered])⟩
  next absent =>
  refine .inr ⟨Nat.not_lt.mp other, absent, ?_⟩
  split
  · next charset code chosen => exact .inl ⟨charset, code, chosen, rfl⟩
  · next missing => exact .inr ⟨missing, rfl⟩

/-- A designation fails only where no sequence makes it. -/
theorem internal_of_ensure (stopped : (s.ensure element charset).fault = some fault) :
    fault.isInternal = true := by
  simp only [CodeState.ensure] at stopped
  split at stopped
  · cases stopped
  split at stopped
  · cases stopped
  · obtain rfl := Option.some.inj stopped
    rfl

theorem internal_of_select (stopped : (s.select element charset).fault = some fault) :
    fault.isInternal = true := by
  cases element with
  | g0 =>
    rcases Run.fault_of_andThen stopped with first | second
    · rw [unshift_clear] at first
      contradiction
    · exact internal_of_ensure second
  | g1 =>
    rcases Run.fault_of_andThen stopped with first | second
    · exact internal_of_ensure first
    · rw [lockShift_clear] at second
      contradiction
  | g2 =>
    rcases Run.fault_of_andThen stopped with first | second
    · exact internal_of_ensure first
    · cases second

/-- Once a scalar has a position, only the profile can be at fault. -/
theorem internal_of_emit {code : Code}
    (stopped : (scheme.emit s charset code).fault = some fault) : fault.isInternal = true := by
  simp only [emit] at stopped
  split at stopped
  · obtain rfl := Option.some.inj stopped
    rfl
  · rcases Run.fault_of_andThen stopped with first | second
    · exact internal_of_select first
    · cases second

/-- A scalar that is refused has written nothing and changed nothing. -/
theorem encodeScalar_of_refused
    (stopped : (scheme.encodeScalar s scalar).fault = some (.unmappable other offset)) :
    scheme.encodeScalar s scalar = .stop s (.unmappable scalar 0) := by
  rcases scheme.encodeScalar_cases s scalar with ⟨clear, -⟩ | ⟨-, -, written | refused⟩
  · rw [clear] at stopped
    contradiction
  · obtain ⟨charset, code, -, same⟩ := written
    rw [same] at stopped
    exact absurd (internal_of_emit stopped) Bool.false_ne_true
  · exact refused.2

/-- At the start nothing is held, so a scalar outside ASCII is written from its position. -/
theorem encodeScalar_initial (outside : 0x80 ≤ scalar.toNat)
    (chosen : scheme.position? scalar = some (charset, code)) :
    scheme.encodeScalar .initial scalar = scheme.emit .initial charset code := by
  have nothing : scheme.held? .initial scalar = none := if_pos (.inl rfl)
  rw [encodeScalar, if_neg (Nat.not_lt.mpr outside), nothing, chosen]

/-- A sound scheme leads nowhere just from a scalar that goes to ASCII without ASCII having an
element. -/
theorem encodeScalar_internal (sound : scheme.defect? = none) {fault : Fault}
    (stopped : (scheme.encodeScalar s scalar).fault = some fault)
    (kind : fault.isInternal = true) :
    0x80 ≤ scalar.toNat ∧ scheme.profile.elementFor? .ascii = none ∧
      ∃ code, scheme.position? scalar = some (.ascii, code) := by
  rcases scheme.encodeScalar_cases s scalar with ⟨clear, -⟩ | ⟨outside, -, written | refused⟩
  · simp [clear] at stopped
  · obtain ⟨charset, code, chosen, same⟩ := written
    cases found : scheme.profile.elementFor? charset with
    | some element =>
      rw [same, emit_clear sound found] at stopped
      contradiction
    | none =>
      have ascii : charset = .ascii := by
        by_contra other
        exact (defect?_eq_none_iff.mp sound).2.2 charset (written_of_position? chosen) other found
      subst ascii
      exact ⟨outside, found, code, chosen⟩
  · rw [refused.2] at stopped
    obtain rfl : Fault.unmappable scalar 0 = fault := Option.some.inj stopped
    contradiction

end Scheme

/-- A scalar that is refused leaves no trace, so what takes its place is written as if the scalar
had not been there. -/
theorem Recovery.encodeScalar_eq (recovery : Recovery) (scheme : Scheme) (s : CodeState)
    (scalar : Char) :
    recovery.encodeScalar scheme s scalar =
      match (scheme.encodeScalar s scalar).fault, recovery with
      | some (.unmappable ..), .replace => scheme.encodeScalar s scalarMark
      | some (.unmappable ..), .ignore => .skip s
      | _, _ => scheme.encodeScalar s scalar := by
  simp only [encodeScalar]
  cases stopped : (scheme.encodeScalar s scalar).fault with
  | none => rfl
  | some fault =>
    cases fault with
    | unmappable other offset =>
      rw [Scheme.encodeScalar_of_refused stopped]
      cases recovery with
      | strict => rfl
      | replace => exact Run.skip_andThen s fun s => scheme.encodeScalar s scalarMark
      | ignore => rfl
    | _ => rfl

/-- Recovery writes the scalar, or the mark in its place, or nothing. -/
theorem Recovery.encodeScalar_cases (recovery : Recovery) (scheme : Scheme) (s : CodeState)
    (scalar : Char) :
    recovery.encodeScalar scheme s scalar = scheme.encodeScalar s scalar ∨
    recovery.encodeScalar scheme s scalar = scheme.encodeScalar s scalarMark ∨
    recovery.encodeScalar scheme s scalar = .skip s := by
  rw [encodeScalar_eq]
  split
  · exact .inr (.inl rfl)
  · exact .inr (.inr rfl)
  · exact .inl rfl

namespace Codec

theorem ofScheme_of_sound {scheme : Scheme} (sound : scheme.defect? = none) :
    ofScheme scheme = .ok { scheme, sound } := by
  rw [ofScheme]
  split
  · rfl
  · next defect found =>
    rw [sound] at found
    contradiction

theorem encode_error_iff {codec : Codec} {text : List Char} {fault : Fault} :
    codec.encode text = .error (.fault fault) ↔
      (Run.forEach (codec.recovery.encodeScalar codec.scheme) .initial text).fault =
        some fault := by
  rw [encode, Run.mapError_eq_error_iff]
  cases stopped : (Run.forEach (codec.recovery.encodeScalar codec.scheme) .initial text).fault with
  | none => simp [Run.andThen_clear stopped (Scheme.reset_clear _)]
  | some cause => rw [Run.andThen_of_fault stopped, stopped]

/-- An internal fault comes from a scalar that goes to ASCII without ASCII having an element. -/
theorem stray_of_internal {codec : Codec} {text : List Char} {fault : Fault}
    (failed : codec.encode text = .error (.fault fault)) (kind : fault.isInternal = true) :
    ∃ scalar : Char, 0x80 ≤ scalar.toNat ∧ codec.scheme.profile.elementFor? .ascii = none ∧
      ∃ code, codec.scheme.position? scalar = some (.ascii, code) := by
  obtain ⟨item, -, before, cause, base, stopped, rfl⟩ :=
    Run.forEach_fault (encode_error_iff.mp failed)
  have kind : cause.isInternal = true := by simpa using kind
  rcases codec.recovery.encodeScalar_cases codec.scheme before item with same | same | same
  · rw [same] at stopped
    exact ⟨item, Scheme.encodeScalar_internal codec.sound stopped kind⟩
  · rw [same] at stopped
    exact ⟨_, Scheme.encodeScalar_internal codec.sound stopped kind⟩
  · rw [same] at stopped
    contradiction

/-- Exactly when writing can end in an internal fault, whatever the recovery: some scalar outside
ASCII is in no candidate, its substitution goes to ASCII, and the profile has no element for
ASCII. -/
theorem encode_internal_iff (codec : Codec) :
    (∃ text offset charset element,
      codec.encode text = .error (.fault (.internal offset charset element))) ↔
    codec.scheme.profile.elementFor? .ascii = none ∧
      ∃ scalar sub, codec.scheme.profile.substitution? scalar = some sub ∧
        sub.charset = .ascii ∧ 0x80 ≤ scalar.toNat ∧
        ∀ charset ∈ codec.scheme.profile.candidates,
          codec.scheme.tables.encode charset scalar = none := by
  constructor
  · rintro ⟨text, offset, charset, element, failed⟩
    obtain ⟨scalar, outside, undesignated, code, chosen⟩ := stray_of_internal failed rfl
    refine ⟨undesignated, scalar, ?_⟩
    rcases Scheme.position?_cases chosen with ⟨-, found⟩ | ⟨absent, sub, -, found, -, ascii, -⟩
    · simp [codec.scheme.tables.encode_ascii_outside outside] at found
    · exact ⟨sub, found, ascii, outside, absent⟩
  · rintro ⟨undesignated, scalar, sub, found, ascii, outside, absent⟩
    have chosen : codec.scheme.position? scalar = some (.ascii, sub.code) := by
      rw [← ascii]
      exact Scheme.position?_of_substitution absent found
    have stopped := Scheme.encodeScalar_initial outside chosen
    rw [Scheme.emit_undesignated undesignated] at stopped
    refine ⟨[scalar], 0, .ascii, .g0, encode_error_iff.mpr ?_⟩
    have kept : codec.recovery.encodeScalar codec.scheme .initial scalar =
        .stop .initial (.internal 0 .ascii .g0) := by
      simp only [Recovery.encodeScalar, stopped]
      rfl
    rw [Run.forEach, kept]
    rfl

end Codec

/-! A scheme without defect whose one substitution goes to ASCII, which it does not designate. -/
namespace Stray

def profile : Profile where
  name := "stray"
  designations := []
  candidates := []
  substitutions := [⟨'é', .ascii, 0x65⟩]

def codec : Codec where
  scheme := ⟨profile, .empty⟩
  sound := by decide

theorem encode_internal :
    codec.encode ['é'] = .error (.fault (.internal 0 .ascii .g0)) ∧
      (codec.withRecovery .replace).encode ['é'] = .error (.fault (.internal 0 .ascii .g0)) ∧
      (codec.withRecovery .ignore).encode ['é'] = .error (.fault (.internal 0 .ascii .g0)) := by
  decide

end Stray

end CodeExtension
