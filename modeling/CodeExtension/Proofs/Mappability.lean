import CodeExtension.Proofs.RoundTrip
import CodeExtension.Proofs.Soundness

/-! What the ways to write mean. A writer tries the set that G0 holds before the candidates, and
what G0 holds depends on what was written. Where all substitutions go to double-byte sets, as
under the registered profiles, it only ever holds ASCII, a double-byte set or a candidate, so the
same scalars can be written in every state: leaving the others out, or writing a mark for them, is
writing a text without them strictly. -/
namespace CodeExtension

theorem Run.andThen_state {σ α : Type} {run : Run σ α} {next : σ → Run σ α} {property : σ → Prop}
    (first : property run.state) (second : property (next run.state).state) :
    property (run.andThen next).state := by
  cases stopped : run.fault with
  | none =>
    rw [andThen_of_clear stopped]
    exact second
  | some fault =>
    rw [andThen_of_fault stopped]
    exact first

theorem Run.skip_followedBy {σ α : Type} {state : σ} {next : σ → Run σ α}
    (clear : (next state).fault = none) (width : Nat) :
    (Run.skip state).followedBy width next = next state := by
  rw [followedBy_of_clear rfl]
  simp only [skip, clear, Option.map_none, List.nil_append]
  rw [← clear]

namespace Scheme

/-- Whether the profile has a place for the scalar: in ASCII, in a candidate or by a
substitution. -/
def mappable (scheme : Scheme) (scalar : Char) : Bool :=
  scalar.toNat < 0x80 ∨
  (scheme.profile.candidates.any fun charset => (scheme.tables.encode charset scalar).isSome) ∨
  (scheme.profile.substitution? scalar).isSome

/-- The sets that writing leaves in G0. -/
def Settled (scheme : Scheme) (s : CodeState) : Prop :=
  s.g0 = .ascii ∨ s.g0 ∈ scheme.written

variable {scheme : Scheme} {s : CodeState} {scalar : Char} {charset : GraphicSet} {code : Code}
  {element : CodeElement} {text : List Char}

theorem mappable_iff :
    scheme.mappable scalar = true ↔ scalar.toNat < 0x80 ∨ scheme.position? scalar ≠ none := by
  rw [ne_eq, position?_eq_none_iff, not_and_or]
  simp [mappable, Option.isSome_iff_ne_none]

theorem mappable_of_candidate (listed : charset ∈ scheme.profile.candidates)
    (found : (scheme.tables.encode charset scalar).isSome = true) :
    scheme.mappable scalar = true := by
  have some : (scheme.profile.candidates.any fun charset =>
      (scheme.tables.encode charset scalar).isSome) = true :=
    List.any_eq_true.mpr ⟨charset, listed, found⟩
  simp [mappable, some]

theorem mappable_replaced (scheme : Scheme) (scalar : Char) :
    scheme.mappable (if scheme.mappable scalar then scalar else '?') = true := by
  split
  · next known => exact known
  · exact mappable_iff.mpr (.inl (by decide))

theorem encode_cons (scheme : Scheme) (s : CodeState) (scalar : Char) (rest : List Char) :
    scheme.encode s (scalar :: rest) =
      (scheme.encodeScalar s scalar).followedBy 1 fun s => scheme.encode s rest :=
  rfl

theorem settled_initial : scheme.Settled .initial := .inl rfl

theorem Settled.ensure (settled : scheme.Settled s) (known : charset = .ascii ∨
    charset ∈ scheme.written) : scheme.Settled (s.ensure element charset).state := by
  rw [CodeState.ensure]
  split
  · exact settled
  split
  · cases element with
    | g0 => exact known
    | g1 => exact settled
    | g2 => exact settled
  · exact settled

theorem Settled.unshift (settled : scheme.Settled s) : scheme.Settled s.unshift.state := by
  rw [unshift_state]
  exact settled

theorem Settled.put (settled : scheme.Settled s) (byte : UInt8) :
    scheme.Settled (s.put byte).state := by
  rw [put_state]
  exact settled

theorem Settled.select (settled : scheme.Settled s) (known : charset ∈ scheme.written) :
    scheme.Settled (s.select element charset).state := by
  cases element with
  | g0 => exact Run.andThen_state settled.unshift (settled.unshift.ensure (.inr known))
  | g1 =>
    refine Run.andThen_state (settled.ensure (.inr known)) ?_
    rw [lockShift_state]
    exact settled.ensure (.inr known)
  | g2 => exact Run.andThen_state (settled.ensure (.inr known)) (settled.ensure (.inr known))

theorem Settled.emit (settled : scheme.Settled s) (known : charset ∈ scheme.written)
    (code : Code) : scheme.Settled (scheme.emit s charset code).state := by
  rw [Scheme.emit]
  split
  · exact settled
  · exact Run.andThen_state (settled.select known) (settled.select known)

theorem Settled.encodeAscii (settled : scheme.Settled s) (scalar : Char) :
    scheme.Settled (scheme.encodeAscii s scalar).state := by
  rw [Scheme.encodeAscii]
  split
  · exact settled.put _
  · have designated : scheme.Settled (s.ensure .g0 .ascii).state := settled.ensure (.inl rfl)
    exact Run.andThen_state designated (designated.put _)

theorem Settled.encodeScalar (settled : scheme.Settled s) (scalar : Char) :
    scheme.Settled (scheme.encodeScalar s scalar).state := by
  rw [Scheme.encodeScalar]
  split
  · have written := settled.encodeAscii scalar
    dsimp only
    split
    · exact Run.andThen_state written written
    · exact written
  split
  · exact settled.put _
  split
  · next chosen => exact settled.emit (written_of_position? chosen) _
  · exact settled

section Double

variable (sound : scheme.defect? = none)
  (double : ∀ sub ∈ scheme.profile.substitutions, sub.charset.isDouble = true)

include double

/-- A set that G0 holds and that has the scalar is among the candidates. -/
theorem position?_of_held? (settled : scheme.Settled s) (held : scheme.held? s scalar ≠ none) :
    scheme.position? scalar ≠ none := by
  intro absent
  apply held
  rw [held?]
  split
  · rfl
  next other =>
  rcases settled with ascii | written
  · exact absurd (.inl ascii) other
  rcases List.mem_append.mp written with listed | substituted
  · rw [(position?_eq_none_iff.mp absent).1 s.g0 listed]
    rfl
  · obtain ⟨sub, listed, same⟩ := List.mem_map.mp substituted
    exact absurd (.inr (same ▸ double sub listed)) other

theorem encodeScalar_of_unmappable (settled : scheme.Settled s)
    (unknown : scheme.mappable scalar = false) :
    scheme.encodeScalar s scalar = .stop s (.unmappable scalar 0) := by
  have nowhere : ¬(scalar.toNat < 0x80 ∨ scheme.position? scalar ≠ none) := by
    rw [← mappable_iff, unknown]
    exact Bool.false_ne_true
  rcases scheme.encodeScalar_cases s scalar with ⟨-, ascii | held⟩ | ⟨-, -, written | refused⟩
  · exact absurd (.inl ascii) nowhere
  · exact absurd (.inr (position?_of_held? double settled held)) nowhere
  · obtain ⟨charset, code, chosen, -⟩ := written
    exact absurd (.inr (by simp [chosen])) nowhere
  · exact refused.2

theorem mappable_of_encode (settled : scheme.Settled s)
    (clear : (scheme.encode s text).fault = none) :
    ∀ scalar ∈ text, scheme.mappable scalar = true := by
  induction text generalizing s with
  | nil => exact List.forall_mem_nil _
  | cons first rest ih =>
    rw [encode_cons] at clear
    cases known : scheme.mappable first with
    | false =>
      rw [encodeScalar_of_unmappable double settled known] at clear
      contradiction
    | true =>
      refine List.forall_mem_cons.mpr ⟨known, ih (settled.encodeScalar first) ?_⟩
      cases stopped : (scheme.encodeScalar s first).fault with
      | none =>
        rw [Run.followedBy_of_clear stopped] at clear
        exact Option.map_eq_none_iff.mp clear
      | some fault => simp [Run.followedBy, stopped] at clear

include sound

theorem encodeScalar_of_mappable (s : CodeState) (known : scheme.mappable scalar = true) :
    (scheme.encodeScalar s scalar).fault = none := by
  rcases scheme.encodeScalar_cases s scalar with ⟨clear, -⟩ | ⟨outside, -, written | refused⟩
  · exact clear
  · obtain ⟨charset, code, chosen, same⟩ := written
    have other : charset ≠ .ascii := by
      rintro rfl
      rcases position?_cases chosen with ⟨-, found⟩ | ⟨-, sub, listed, -, -, ascii, -⟩
      · simp [scheme.tables.encode_ascii_outside outside] at found
      · have := double sub listed
        rw [ascii] at this
        contradiction
    have designated :=
      (defect?_eq_none_iff.mp sound).2.2 charset (written_of_position? chosen) other
    obtain ⟨element, found⟩ := Option.ne_none_iff_exists'.mp designated
    rw [same]
    exact emit_clear sound found s code
  · rcases mappable_iff.mp known with ascii | place
    · omega
    · exact absurd refused.1 place

theorem encode_of_mappable (s : CodeState)
    (known : ∀ scalar ∈ text, scheme.mappable scalar = true) :
    (scheme.encode s text).fault = none := by
  induction text generalizing s with
  | nil => rfl
  | cons scalar rest ih =>
    have here := encodeScalar_of_mappable sound double s (known scalar List.mem_cons_self)
    have later := ih (scheme.encodeScalar s scalar).state
      fun other member => known other (.tail scalar member)
    rw [encode_cons, Run.followedBy_of_clear here, later]
    rfl

/-- Writing stops at the first scalar that is not mappable. -/
theorem encode_of_unmappable {before after : List Char} (settled : scheme.Settled s)
    (known : ∀ earlier ∈ before, scheme.mappable earlier = true)
    (unknown : scheme.mappable scalar = false) :
    (scheme.encode s (before ++ scalar :: after)).fault =
      some (.unmappable scalar before.length) := by
  induction before generalizing s with
  | nil =>
    rw [List.nil_append, encode_cons, encodeScalar_of_unmappable double settled unknown]
    rfl
  | cons first rest ih =>
    have here := encodeScalar_of_mappable sound double s (known first List.mem_cons_self)
    have later := ih (settled.encodeScalar first)
      fun earlier member => known earlier (.tail first member)
    rw [List.cons_append, encode_cons, Run.followedBy_of_clear here, later]
    rfl

theorem forEach_ignore (settled : scheme.Settled s) (text : List Char) :
    Run.forEach (Recovery.ignore.encodeScalar scheme) s text =
      scheme.encode s (text.filter scheme.mappable) := by
  induction text generalizing s with
  | nil => rfl
  | cons scalar rest ih =>
    rw [Run.forEach]
    cases known : scheme.mappable scalar with
    | true =>
      have clear := encodeScalar_of_mappable sound double s known
      have same : Recovery.ignore.encodeScalar scheme s scalar = scheme.encodeScalar s scalar := by
        simp [Recovery.encodeScalar_eq, clear]
      rw [List.filter_cons_of_pos known, same, encode_cons, Run.followedBy_of_clear clear,
        Run.followedBy_of_clear clear, ih (settled.encodeScalar scalar)]
    | false =>
      have stopped := encodeScalar_of_unmappable double settled known
      have same : Recovery.ignore.encodeScalar scheme s scalar = .skip s := by
        simp [Recovery.encodeScalar_eq, stopped, Run.stop]
      have clear : (scheme.encode s (rest.filter scheme.mappable)).fault = none :=
        encode_of_mappable sound double s fun other kept => (List.mem_filter.mp kept).2
      rw [List.filter_cons_of_neg (by simp [known]), same, ← ih settled]
      exact Run.skip_followedBy (by rw [ih settled]; exact clear) 1

theorem forEach_replace (settled : scheme.Settled s) (text : List Char) :
    Run.forEach (Recovery.replace.encodeScalar scheme) s text =
      scheme.encode s (text.map fun scalar => if scheme.mappable scalar then scalar else '?') := by
  induction text generalizing s with
  | nil => rfl
  | cons scalar rest ih =>
    have same : Recovery.replace.encodeScalar scheme s scalar =
        scheme.encodeScalar s (if scheme.mappable scalar then scalar else '?') := by
      cases known : scheme.mappable scalar with
      | true =>
        simp [Recovery.encodeScalar_eq, encodeScalar_of_mappable sound double s known]
      | false =>
        have stopped := encodeScalar_of_unmappable double settled known
        simp [Recovery.encodeScalar_eq, stopped, Run.stop, Recovery.scalarMark]
    have clear : (scheme.encodeScalar s (if scheme.mappable scalar then scalar else '?')).fault =
        none := encodeScalar_of_mappable sound double s (mappable_replaced scheme scalar)
    rw [Run.forEach, List.map_cons, encode_cons, same, Run.followedBy_of_clear clear,
      Run.followedBy_of_clear clear, ih (settled.encodeScalar _)]

end Double

end Scheme

theorem Profile.double_of_registered :
    ∀ profile ∈ registered, ∀ sub ∈ profile.substitutions, sub.charset.isDouble = true := by
  decide

namespace Codec

/-- What is written like another text strictly has the result of that text. -/
theorem encode_eq_strict {codec : Codec} {recovery : Recovery} {text other : List Char}
    (same : Run.forEach (recovery.encodeScalar codec.scheme) .initial text =
      codec.scheme.encode .initial other) :
    (codec.withRecovery recovery).encode text = (codec.withRecovery .strict).encode other := by
  simp only [encode, withRecovery, Recovery.encodeScalar_strict, same]
  rfl

theorem encode_strict_error_iff {codec : Codec} {text : List Char} {fault : Fault} :
    (codec.withRecovery .strict).encode text = .error (.fault fault) ↔
      (codec.scheme.encode .initial text).fault = some fault := by
  rw [encode_error_iff]
  simp only [withRecovery, Recovery.encodeScalar_strict]
  rfl

theorem encode_strict_of_clear {codec : Codec} {text : List Char}
    (clear : (codec.scheme.encode .initial text).fault = none) :
    ∃ bytes, (codec.withRecovery .strict).encode text = .ok bytes := by
  refine ⟨(codec.scheme.encodeAll .initial text).output, ?_⟩
  have whole : (codec.scheme.encodeAll .initial text).fault = none :=
    Run.andThen_clear clear (Scheme.reset_clear _)
  rw [encode_strict, Run.result_eq_ok_iff.mpr ⟨whole, rfl⟩]
  rfl

/-- What the three ways to write mean under a registered profile. Writing strictly succeeds just
when all scalars are mappable and else names the first that is not; ignoring is writing strictly
without those that are not, replacing is writing strictly with a question mark for each. -/
theorem encode_recovers {codec : Codec} (registered : codec.scheme.profile ∈ Profile.registered)
    (text : List Char) :
    let mappable := codec.scheme.mappable
    let strict := (codec.withRecovery .strict).encode
    ((∃ bytes, strict text = .ok bytes) ↔ ∀ scalar ∈ text, mappable scalar = true) ∧
    (∀ before scalar after, text = before ++ scalar :: after →
      (∀ earlier ∈ before, mappable earlier = true) → mappable scalar = false →
      strict text = .error (.fault (.unmappable scalar before.length))) ∧
    (∃ bytes, (codec.withRecovery .ignore).encode text = .ok bytes ∧
      strict (text.filter mappable) = .ok bytes) ∧
    ∃ bytes, (codec.withRecovery .replace).encode text = .ok bytes ∧
      strict (text.map fun scalar => if mappable scalar then scalar else '?') = .ok bytes := by
  intro mappable strict
  have double := Profile.double_of_registered _ registered
  have fails (before : List Char) (scalar : Char) (after : List Char)
      (parts : text = before ++ scalar :: after)
      (known : ∀ earlier ∈ before, mappable earlier = true) (unknown : mappable scalar = false) :
      strict text = .error (.fault (.unmappable scalar before.length)) := by
    rw [parts]
    exact encode_strict_error_iff.mpr
      (Scheme.encode_of_unmappable codec.sound double Scheme.settled_initial known unknown)
  have succeeds (other : List Char) (known : ∀ scalar ∈ other, mappable scalar = true) :
      ∃ bytes, strict other = .ok bytes :=
    encode_strict_of_clear (Scheme.encode_of_mappable codec.sound double _ known)
  refine ⟨⟨?_, succeeds text⟩, fails, ?_, ?_⟩
  · rintro ⟨bytes, fine⟩
    by_contra some
    obtain ⟨scalar, member, unknown⟩ : ∃ scalar ∈ text, mappable scalar = false := by
      simpa using some
    obtain ⟨first, found⟩ := Option.isSome_iff_exists.mp
      (List.find?_isSome.mpr ⟨scalar, member, by simp [unknown]⟩ :
        (text.find? (!mappable ·)).isSome = true)
    obtain ⟨refused, before, after, parts, known⟩ := List.find?_eq_some_iff_append.mp found
    have failed := fails before first after parts (by simpa using known) (by simpa using refused)
    rw [fine] at failed
    contradiction
  · obtain ⟨bytes, fine⟩ := succeeds (text.filter mappable)
      fun scalar kept => (List.mem_filter.mp kept).2
    have same := Scheme.forEach_ignore codec.sound double Scheme.settled_initial text
    exact ⟨bytes, (encode_eq_strict same).trans fine, fine⟩
  · obtain ⟨bytes, fine⟩ := succeeds
      (text.map fun scalar => if mappable scalar then scalar else '?') (by
        intro scalar member
        obtain ⟨original, -, rfl⟩ := List.mem_map.mp member
        exact codec.scheme.mappable_replaced original)
    have same := Scheme.forEach_replace codec.sound double Scheme.settled_initial text
    exact ⟨bytes, (encode_eq_strict same).trans fine, fine⟩

end Codec

/-! Kana, kanji and the yen sign under the Japanese profile. -/
namespace Kana

def codec : Codec where
  scheme := ⟨.japanese, Mixed.scheme.tables⟩
  sound := by decide +kernel

/-- The hangul syllable is met once while G0 holds kana, once while it holds the Roman set. -/
theorem encode_hangul :
    codec.scheme.profile ∈ Profile.registered ∧
      (codec.withRecovery .strict).encode "あ가¥가~".toList =
        .error (.fault (.unmappable '가' 1)) ∧
      (∃ bytes, (codec.withRecovery .ignore).encode "あ가¥가~".toList = .ok bytes ∧
        (codec.withRecovery .strict).encode "あ¥~".toList = .ok bytes) ∧
      ∃ bytes, (codec.withRecovery .replace).encode "あ가¥가~".toList = .ok bytes ∧
        (codec.withRecovery .strict).encode "あ?¥?~".toList = .ok bytes := by
  have registered : codec.scheme.profile ∈ Profile.registered := .head _
  obtain ⟨-, fails, ignored, replaced⟩ := Codec.encode_recovers registered "あ가¥가~".toList
  refine ⟨registered, ?_, ?_, ?_⟩
  · exact fails ['あ'] '가' "¥가~".toList rfl
      (List.forall_mem_singleton.mpr (by decide +kernel)) (by decide +kernel)
  · have kept : "あ가¥가~".toList.filter codec.scheme.mappable = "あ¥~".toList := by decide +kernel
    rwa [kept] at ignored
  · have marked : ("あ가¥가~".toList.map fun scalar =>
        if codec.scheme.mappable scalar then scalar else '?') = "あ?¥?~".toList := by
      decide +kernel
    rwa [marked] at replaced

end Kana

end CodeExtension
