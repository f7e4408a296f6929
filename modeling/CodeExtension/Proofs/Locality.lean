import CodeExtension.Proofs.Mappability

/-! What a scheme makes use of. A reader only ever holds sets that the profile designates, so it
shows nothing but characters of these, and a writer turns to no others. The tables of the sets that
are not designated change nothing. -/
namespace CodeExtension

namespace Profile

/-- The sets that the profile has to do with. -/
def Knows (profile : Profile) (charset : GraphicSet) : Prop :=
  charset = .ascii ∨ ∃ d ∈ profile.designations, d.charset = charset

def Permits (profile : Profile) (s : CodeState) : Prop :=
  ∀ element, profile.Knows (s.get element)

variable {profile : Profile} {s : CodeState}

theorem knows_of_supports {element : CodeElement} {charset : GraphicSet}
    (supported : profile.supports element charset = true) : profile.Knows charset := by
  have cases : element = .g0 ∧ charset = .ascii ∨ ⟨charset, element⟩ ∈ profile.designations := by
    simpa [supports] using supported
  rcases cases with ⟨-, ascii⟩ | listed
  · exact .inl ascii
  · exact .inr ⟨_, listed, rfl⟩

theorem permits_initial : profile.Permits .initial := by
  intro element
  cases element <;> exact .inl rfl

theorem Permits.shift (permits : profile.Permits s) (shifted : Bool) :
    profile.Permits (s.shift shifted) := by
  intro element
  cases element with
  | g0 => exact permits .g0
  | g1 => exact permits .g1
  | g2 => exact permits .g2

theorem Permits.designate (permits : profile.Permits s) {element : CodeElement}
    {charset : GraphicSet} (known : profile.Knows charset) :
    profile.Permits (s.designate element charset) := by
  intro other
  by_cases same : other = element
  · rw [same, CodeState.get_designate_same]
    exact known
  · rw [CodeState.get_designate_other s charset same]
    exact permits other

end Profile

namespace Scheme

variable {scheme : Scheme} {s state : CodeState} {bytes : List UInt8} {text : List Char}

theorem Takes.permits (unit : scheme.Takes s bytes state text)
    (permits : scheme.profile.Permits s) : scheme.profile.Permits state := by
  cases unit with
  | designation spelled supported => exact permits.designate (Profile.knows_of_supports supported)
  | shift => exact permits.shift _
  | newline => exact permits.shift false
  | singleShifted | control | single | double => exact permits

/-- Some set of the profile has the scalar, where readers look it up. -/
def Shows (scheme : Scheme) (scalar : Char) : Prop :=
  ∃ charset, scheme.profile.Knows charset ∧ ∃ code, scheme.character? charset code = some scalar

theorem shows_control {byte : UInt8} (low : byte < 0x20) :
    scheme.Shows (Char.ofNat byte.toNat) := by
  refine ⟨.ascii, .inl rfl, Code.ofByte byte, ?_⟩
  have inside : Code.ofByte byte < 0x80 := by
    rw [UInt16.lt_iff_toNat_lt, Code.toNat_ofByte]
    exact Nat.lt_trans (UInt8.lt_iff_toNat_lt.mp low) (by decide)
  show scheme.tables.decode .ascii (Code.ofByte byte) = _
  rw [Catalogue.decode, if_pos inside, Code.toNat_ofByte]

theorem Takes.shows (unit : scheme.Takes s bytes state text)
    (permits : scheme.profile.Permits s) : ∀ scalar ∈ text, scheme.Shows scalar := by
  have found (element : CodeElement) {code : Code} {scalar : Char}
      (found : scheme.character? (s.get element) code = some scalar) :
      ∀ other ∈ [scalar], scheme.Shows other :=
    List.forall_mem_singleton.mpr ⟨_, permits element, code, found⟩
  cases unit with
  | designation | shift => exact List.forall_mem_nil _
  | newline =>
    exact List.forall_mem_singleton.mpr (shows_control (by decide : (0x0A : UInt8) < 0x20))
  | control low => exact List.forall_mem_singleton.mpr (shows_control low)
  | singleShifted shifting graphic narrow entry =>
    rw [← character?_of_single narrow] at entry
    exact found .g2 entry
  | single graphic shape entry =>
    rw [← character?_of_single (by simp [shape])] at entry
    exact found s.invoked entry
  | double graphic shape entry =>
    rw [← character?_of_double shape] at entry
    exact found s.invoked entry

/-- What readers show is in a set of the profile. -/
theorem decode_shows (permits : scheme.profile.Permits s) (input : List UInt8) :
    ∀ scalar ∈ (scheme.decode s input).output, scheme.Shows scalar := by
  induction s, input using scheme.decode_induction with
  | nil s =>
    rw [decode_nil]
    exact List.forall_mem_nil _
  | take s bytes rest state text unit ih =>
    rw [unit.decode_append, Run.write_followedBy]
    exact List.forall_mem_append.mpr ⟨unit.shows permits, ih (unit.permits permits)⟩
  | stop s input fault stops =>
    rw [stops.decode]
    exact List.forall_mem_nil _

end Scheme

namespace Catalogue

variable {a b : Catalogue} {charset : GraphicSet}

theorem encode_congr (same : a.tableFor? charset = b.tableFor? charset) :
    a.encode charset = b.encode charset := by
  funext scalar
  by_cases computed : charset.table? = none
  · cases charset <;> first | rfl | contradiction
  · rw [encode_eq_table computed, encode_eq_table computed, same]

theorem decode_congr (same : a.tableFor? charset = b.tableFor? charset) :
    a.decode charset = b.decode charset := by
  funext code
  by_cases computed : charset.table? = none
  · cases charset <;> first | rfl | contradiction
  · rw [decode_eq_table computed, decode_eq_table computed, same]

/-- The catalogues have the same tables for all sets of the profile. -/
def AgreeUnder (a b : Catalogue) (profile : Profile) : Prop :=
  ∀ charset, profile.Knows charset → a.tableFor? charset = b.tableFor? charset

end Catalogue

namespace Scheme

variable {profile : Profile} {a b : Catalogue} {s : CodeState}

theorem step_congr (agree : a.AgreeUnder b profile) (permits : profile.Permits s) (byte : UInt8)
    (rest : List UInt8) :
    (Scheme.mk profile a).step s byte rest = (Scheme.mk profile b).step s byte rest := by
  have active : a.decode s.active = b.decode s.active :=
    Catalogue.decode_congr (agree _ (permits s.invoked))
  have second : a.decode s.g2 = b.decode s.g2 := Catalogue.decode_congr (agree _ (permits .g2))
  have graphic : (Scheme.mk profile a).graphic s byte rest =
      (Scheme.mk profile b).graphic s byte rest := by
    simp only [Scheme.graphic, doubleByte?, active]
  have escape : (Scheme.mk profile a).escape s rest = (Scheme.mk profile b).escape s rest := by
    have shifted (tail : List UInt8) : (Scheme.mk profile a).singleShifted s tail =
        (Scheme.mk profile b).singleShifted s tail := by
      cases tail with
      | nil => rfl
      | cons byte tail => simp only [singleShifted, second]
    simp only [Scheme.escape, shifted]
  simp only [step, graphic, escape]

/-- Readers make no use of the tables of other sets. -/
theorem decode_congr (agree : a.AgreeUnder b profile) (permits : profile.Permits s)
    (input : List UInt8) :
    (Scheme.mk profile a).decode s input = (Scheme.mk profile b).decode s input := by
  induction s, input using (Scheme.mk profile a).decode_induction with
  | nil s => rw [decode_nil, decode_nil]
  | take s bytes rest state text unit ih =>
    obtain ⟨byte, tail, rfl⟩ := unit.exists_cons
    have same := (step_congr agree permits byte tail).symm.trans (takes_iff_step.mp unit)
    rw [unit.decode_append, (takes_iff_step.mpr same).decode_append, Run.write_followedBy,
      Run.write_followedBy, ih (unit.permits permits)]
  | stop s input fault stops =>
    obtain ⟨byte, rest, rfl⟩ := stops.exists_cons
    have same := (step_congr agree permits byte rest).symm.trans (stops_iff_step.mp stops)
    rw [stops.decode, (stops_iff_step.mpr same).decode]

/-- A sound scheme writes only sets that it designates. -/
theorem knows_of_written {scheme : Scheme} (sound : scheme.defect? = none) {charset : GraphicSet}
    (written : charset ∈ scheme.written) : scheme.profile.Knows charset := by
  by_cases ascii : charset = .ascii
  · exact .inl ascii
  · have placed := (defect?_eq_none_iff.mp sound).2.2 charset written ascii
    obtain ⟨element, found⟩ := Option.ne_none_iff_exists'.mp placed
    exact Profile.knows_of_supports (Profile.supports_of_elementFor? found)

theorem defect?_congr (agree : a.AgreeUnder b profile) :
    (Scheme.mk profile a).defect? = (Scheme.mk profile b).defect? := by
  have missing : (Scheme.mk profile a).missingTables = (Scheme.mk profile b).missingTables := by
    apply congrArg List.eraseDups
    apply List.filter_congr
    intro id needed
    obtain ⟨charset, designated, backed⟩ := List.mem_filterMap.mp needed
    have same := agree charset (.inr (List.mem_map.mp designated))
    simp only [Catalogue.tableFor?, backed, Option.bind_some] at same
    rw [Catalogue.contains, Catalogue.contains, same]
  simp only [defect?, missing]
  rfl

theorem encodeScalar_congr (agree : a.AgreeUnder b profile)
    (sound : (Scheme.mk profile a).defect? = none) (settled : (Scheme.mk profile a).Settled s)
    (scalar : Char) :
    (Scheme.mk profile a).encodeScalar s scalar = (Scheme.mk profile b).encodeScalar s scalar := by
  have same {charset : GraphicSet}
      (written : charset = .ascii ∨ charset ∈ (Scheme.mk profile a).written) :
      a.encode charset = b.encode charset := by
    apply Catalogue.encode_congr
    apply agree
    exact written.elim .inl (knows_of_written sound)
  have held : (Scheme.mk profile a).held? s scalar = (Scheme.mk profile b).held? s scalar := by
    simp only [held?, same settled]
  have ascii : (Scheme.mk profile a).encodeAscii s scalar =
      (Scheme.mk profile b).encodeAscii s scalar := by
    simp only [encodeAscii, held]
  have position : (Scheme.mk profile a).position? scalar =
      (Scheme.mk profile b).position? scalar := by
    have candidates : profile.candidates.findSome? (fun charset =>
        (a.encode charset scalar).map (charset, ·)) =
        profile.candidates.findSome? fun charset => (b.encode charset scalar).map (charset, ·) := by
      rw [← List.head?_filterMap, ← List.head?_filterMap]
      apply congrArg
      apply List.filterMap_congr
      intro charset listed
      rw [same (.inr (List.mem_append_left _ listed))]
    simp only [position?, candidates]
  simp only [encodeScalar, ascii, held, position]
  rfl

theorem encode_congr (agree : a.AgreeUnder b profile)
    (sound : (Scheme.mk profile a).defect? = none) (settled : (Scheme.mk profile a).Settled s)
    (text : List Char) :
    (Scheme.mk profile a).encode s text = (Scheme.mk profile b).encode s text := by
  induction text generalizing s with
  | nil => rfl
  | cons scalar rest ih =>
    have same := encodeScalar_congr agree sound settled scalar
    have later := ih (settled.encodeScalar scalar)
    rw [same] at later
    rw [encode_cons, encode_cons, same]
    simp only [Run.followedBy, later]

theorem encodeAll_congr (agree : a.AgreeUnder b profile)
    (sound : (Scheme.mk profile a).defect? = none) (settled : (Scheme.mk profile a).Settled s)
    (text : List Char) :
    (Scheme.mk profile a).encodeAll s text = (Scheme.mk profile b).encodeAll s text := by
  rw [encodeAll, encodeAll, encode_congr agree sound settled]

theorem Follows.congr (agree : a.AgreeUnder b profile) (permits : profile.Permits s)
    {run : Run CodeState UInt8} {text : List Char}
    (follows : (Scheme.mk profile b).Follows s run text) :
    (Scheme.mk profile a).Follows s run text where
  clear := follows.clear
  reads := (decode_congr agree permits run.output).trans follows.reads
  writable := ⟨follows.writable.g0, follows.writable.shifted⟩

end Scheme

end CodeExtension
