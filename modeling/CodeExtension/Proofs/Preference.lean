import CodeExtension.Proofs.Mappability

/-! Which set a scalar is written through. The first candidate that has it is preferred to the
others, and a substitution counts only where none has it. Writers look at the set in G0 before they
look at the candidates, so what was written before could make a difference. Under the registered
profiles it makes none: only the Roman set is ever used from G0, for two scalars that no candidate
before it has. -/
namespace CodeExtension

theorem Run.forEach_state {σ α ι : Type} {convert : σ → ι → Run σ α} {property : σ → Prop}
    (keeps : ∀ state item, property state → property (convert state item).state) {state : σ}
    (holds : property state) (items : List ι) : property (forEach convert state items).state := by
  induction items generalizing state with
  | nil => exact holds
  | cons item rest ih =>
    have next := keeps state item holds
    simp only [forEach, followedBy]
    split
    · exact next
    · exact ih next

theorem Roman.encode_outside {scalar : Char} {byte : UInt8} (outside : 0x80 ≤ scalar.toNat)
    (found : Roman.encode scalar = some byte) : scalar = '\u00A5' ∨ scalar = '\u203E' := by
  rcases encode_cases found with ⟨yen, -⟩ | ⟨overline, -⟩ | ⟨-, -, ascii, -⟩
  · exact .inl yen
  · exact .inr overline
  · omega

namespace Scheme

/-- The preferred set and position of a scalar: those of the first candidate that has it or, if
there is none, those that a substitution fixes. -/
inductive Preferred (scheme : Scheme) (scalar : Char) : GraphicSet → Code → Prop
  | candidate {before after : List GraphicSet} {charset : GraphicSet} {code : Code}
      (listed : scheme.profile.candidates = before ++ charset :: after)
      (skipped : ∀ other ∈ before, scheme.tables.encode other scalar = none)
      (found : scheme.tables.encode charset scalar = some code) :
      Preferred scheme scalar charset code
  | substitution {sub : Substitution}
      (absent : ∀ other ∈ scheme.profile.candidates, scheme.tables.encode other scalar = none)
      (found : scheme.profile.substitution? scalar = some sub) :
      Preferred scheme scalar sub.charset sub.code

/-- If the Roman set is a candidate, none before it has one of the scalars that it has in the places
of the reverse solidus and the tilde. -/
def RomanFirst (scheme : Scheme) : Prop :=
  .jisRoman ∈ scheme.profile.candidates →
    ∀ charset ∈ scheme.profile.candidates.takeWhile (· ≠ .jisRoman),
      ∀ scalar ∈ ['\u00A5', '\u203E'], scheme.tables.encode charset scalar = none

variable {scheme : Scheme} {s : CodeState} {scalar : Char} {charset : GraphicSet} {code : Code}
  {element : CodeElement}

theorem position?_eq_some_iff :
    scheme.position? scalar = some (charset, code) ↔ scheme.Preferred scalar charset code := by
  constructor
  · intro chosen
    rcases Option.or_eq_some_iff.mp chosen with candidate | ⟨absent, substitution⟩
    · obtain ⟨before, first, after, listed, has, skipped⟩ := List.findSome?_eq_some_iff.mp candidate
      obtain ⟨position, found, same⟩ := Option.map_eq_some_iff.mp has
      obtain ⟨rfl, rfl⟩ := Prod.mk.inj same
      exact .candidate listed (by simpa using skipped) found
    · obtain ⟨sub, found, same⟩ := Option.map_eq_some_iff.mp substitution
      obtain ⟨rfl, rfl⟩ := Prod.mk.inj same
      exact .substitution (by simpa using absent) found
  · intro preferred
    cases preferred with
    | candidate listed skipped found =>
      apply Option.or_eq_some_iff.mpr
      left
      apply List.findSome?_eq_some_iff.mpr
      refine ⟨_, charset, _, listed, by simp [found], ?_⟩
      intro other before
      simp [skipped other before]
    | substitution absent found => exact position?_of_substitution absent found

theorem Settled.reset (settled : scheme.Settled s) : scheme.Settled s.reset.state :=
  Run.andThen_state settled.unshift (settled.unshift.ensure (.inl rfl))

/-- A call leaves G0 with a set that the profile writes, whether it fails or not. -/
theorem Settled.call (settled : scheme.Settled s) (call : Call) :
    scheme.Settled (call.run scheme s).state := by
  cases call with
  | encode text =>
    exact Run.forEach_state (fun _ scalar settled => settled.encodeScalar scalar) settled text
  | encodeScalar scalar position => exact settled.encodeScalar scalar
  | reset => exact settled.reset

theorem Settled.foldl {t : Transcript} (settled : scheme.Settled t.state) (calls : List Call) :
    scheme.Settled (calls.foldl scheme.answer t).state := by
  induction calls generalizing t with
  | nil => exact settled
  | cons call rest ih => exact ih (settled.call call)

theorem settled_transcript (scheme : Scheme) (calls : List Call) :
    scheme.Settled (scheme.transcript calls).state :=
  Settled.foldl settled_initial calls

theorem emit_ends (sound : scheme.defect? = none)
    (found : scheme.profile.elementFor? charset = some element) (invoked : element ≠ .g2)
    (s : CodeState) (code : Code) :
    Code.bytes charset element code <:+ (scheme.emit s charset code).output ∧
      (scheme.emit s charset code).state.active = charset := by
  obtain ⟨bytes, expressible⟩ := expressible_of_sound sound found
  simp only [emit, found, Run.andThen_of_clear (select_clear expressible s), Run.write]
  exact ⟨List.suffix_append _ _, select_active expressible invoked s⟩

theorem put_ends (s : CodeState) (byte : UInt8) :
    [byte] <:+ (s.put byte).output ∧ (s.put byte).state.active = s.g0 := by
  constructor
  · simp only [CodeState.put, Run.andThen_of_clear (unshift_clear s), Run.write]
    exact List.suffix_append _ _
  · rw [put_state]
    rfl

end Scheme

namespace Profile

theorem roman_of_registered : ∀ profile ∈ registered,
    ∀ charset ∈ profile.candidates ++ profile.substitutions.map (·.charset),
      charset.isDouble = true ∨ charset = .jisRoman := by
  decide

/-- What registered profiles have behind the single shift is only read. -/
theorem invoked_of_registered : ∀ profile ∈ registered,
    ∀ charset ∈ profile.candidates ++ profile.substitutions.map (·.charset),
      profile.elementFor? charset = some .g0 ∨ profile.elementFor? charset = some .g1 := by
  decide

end Profile

namespace Scheme

variable {scheme : Scheme} {s : CodeState} {scalar : Char} {byte : UInt8}

/-- What a registered profile writes from the set that G0 holds, it prefers to write there. -/
theorem preferred_of_held? (registered : scheme.profile ∈ Profile.registered)
    (romanFirst : scheme.RomanFirst) (settled : scheme.Settled s) (outside : 0x80 ≤ scalar.toNat)
    (offered : scheme.held? s scalar = some byte) :
    s.g0 = .jisRoman ∧ scheme.Preferred scalar .jisRoman (Code.ofByte byte) := by
  rw [held?] at offered
  split at offered
  · contradiction
  next other =>
  obtain ⟨notAscii, single⟩ := not_or.mp other
  have written : s.g0 ∈ scheme.written := settled.resolve_left notAscii
  have roman : s.g0 = .jisRoman :=
    (Profile.roman_of_registered _ registered s.g0 written).resolve_left single
  refine ⟨roman, ?_⟩
  have candidate : GraphicSet.jisRoman ∈ scheme.profile.candidates := by
    rcases List.mem_append.mp (roman ▸ written) with listed | substituted
    · exact listed
    · obtain ⟨sub, listed, same⟩ := List.mem_map.mp substituted
      have double := Profile.double_of_registered _ registered sub listed
      simp [same, GraphicSet.shape] at double
  obtain ⟨code, found, narrow⟩ := Option.bind_eq_some_iff.mp offered
  rw [roman, ← Code.ofByte_of_byte? narrow] at found
  obtain ⟨before, after, listed, none⟩ := List.eq_append_cons_of_mem candidate
  have skipped : scheme.profile.candidates.takeWhile (· ≠ .jisRoman) = before := by
    have others : ∀ charset ∈ before, decide (charset ≠ .jisRoman) = true := by
      intro charset earlier
      simpa using ne_of_mem_of_not_mem earlier none
    rw [listed, List.takeWhile_append_of_pos others]
    simp
  refine .candidate listed ?_ found
  intro earlier place
  obtain ⟨_, has, -⟩ := Option.map_eq_some_iff.mp found
  apply romanFirst candidate earlier (skipped ▸ place)
  simpa using Roman.encode_outside outside has

end Scheme

/-- Under a registered profile every scalar outside ASCII that can be written is written, after any
calls, at its preferred position: the bytes end with it, and its set is the active one then. -/
theorem Codec.encodeScalar_preferred {codec : Codec}
    (registered : codec.scheme.profile ∈ Profile.registered)
    (romanFirst : codec.scheme.RomanFirst) (calls : List Call) {scalar : Char}
    (outside : 0x80 ≤ scalar.toNat) (known : codec.scheme.mappable scalar = true) :
    let s := (codec.scheme.transcript calls).state
    let run := codec.scheme.encodeScalar s scalar
    run.fault = none ∧ ∃ charset code, codec.scheme.Preferred scalar charset code ∧
      (if charset.isDouble then [Code.row code, Code.cell code] else [Code.cell code]) <:+
        run.output ∧
      run.state.active = charset := by
  intro s run
  have settled : codec.scheme.Settled s := codec.scheme.settled_transcript calls
  have double := Profile.double_of_registered _ registered
  refine ⟨Scheme.encodeScalar_of_mappable codec.sound double s known, ?_⟩
  have place : codec.scheme.position? scalar ≠ none :=
    (Scheme.mappable_iff.mp known).resolve_left (Nat.not_lt.mpr outside)
  simp only [run, Scheme.encodeScalar, if_neg (Nat.not_lt.mpr outside)]
  cases offered : codec.scheme.held? s scalar with
  | some byte =>
    obtain ⟨roman, preferred⟩ :=
      Scheme.preferred_of_held? registered romanFirst settled outside offered
    obtain ⟨ends, active⟩ := Scheme.put_ends s byte
    refine ⟨.jisRoman, Code.ofByte byte, preferred, ?_, active.trans roman⟩
    simpa [GraphicSet.isDouble, GraphicSet.shape] using ends
  | none =>
    obtain ⟨⟨charset, code⟩, chosen⟩ := Option.ne_none_iff_exists'.mp place
    have written := Scheme.written_of_position? chosen
    obtain ⟨element, found, invoked⟩ : ∃ element,
        codec.scheme.profile.elementFor? charset = some element ∧ element ≠ .g2 := by
      rcases Profile.invoked_of_registered _ registered charset written with found | found
      · exact ⟨.g0, found, by simp⟩
      · exact ⟨.g1, found, by simp⟩
    obtain ⟨ends, active⟩ := Scheme.emit_ends codec.sound found invoked s code
    refine ⟨charset, code, Scheme.position?_eq_some_iff.mp chosen, ?_, ?_⟩
    · simpa [chosen, Code.bytes, invoked] using ends
    · simpa [chosen] using active

/-! Kanji that two candidates have. -/
namespace Overlap

def entries : TableId → List Entry
  | .jisX0208 => [⟨'漢', 0x3441⟩]
  | .jisX0212 => [⟨'é', 0x2B31⟩, ⟨'漢', 0x3021⟩]
  | _ => []

def codec : Codec where
  scheme := ⟨.japanese1, ⟨fun id => some (CodeTable.ofEntries (entries id))⟩⟩
  sound := by decide +kernel

/-- Two of these fail; the last leaves the supplementary kanji in G0. -/
def calls : List Call :=
  [.encode "漢😀".toList, .encodeScalar '¥' 0, .reset, .encodeScalar '😀' 7, .encode "é".toList]

theorem romanFirst : codec.scheme.RomanFirst := by
  intro _ charset before
  refine List.forall_mem_cons.mpr ⟨?_, List.forall_mem_singleton.mpr ?_⟩
  · revert charset
    decide +kernel
  · revert charset
    decide +kernel

/-- The kanji goes to the first candidate although the second one is designated and has it too. -/
theorem encode_kanji :
    let s := (codec.scheme.transcript calls).state
    let run := codec.scheme.encodeScalar s '漢'
    s.active = .jisX0212 ∧ run.fault = none ∧ [0x34, 0x41] <:+ run.output ∧
      run.state.active = .jisX0208 := by
  intro s run
  have first : codec.scheme.position? '漢' = some (.jisX0208, 0x3441) := by decide +kernel
  have registered : codec.scheme.profile ∈ Profile.registered := by decide
  obtain ⟨clear, charset, code, preferred, ends, active⟩ :=
    Codec.encodeScalar_preferred registered romanFirst calls (by decide : 0x80 ≤ '漢'.toNat)
      (by decide +kernel)
  have chosen := Scheme.position?_eq_some_iff.mpr preferred
  obtain ⟨rfl, rfl⟩ := Prod.mk.inj (Option.some.inj (first.symm.trans chosen))
  exact ⟨by decide +kernel, clear, ends, active⟩

end Overlap

end CodeExtension
