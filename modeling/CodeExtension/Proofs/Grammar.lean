import CodeExtension.Proofs.EscapeVerdict

/-! The grammar of escape sequences, said without the scanner: which byte strings spell a
sequence, and which could still become one. The scanner accepts the former, waits on the latter
and refuses everything else. -/
namespace CodeExtension.Escape

/-- The bytes that a sequence may consist of. Besides its shortest designation, a double-byte set
that needs no parenthesis in G0 may have one, and JIS X 0208 may be announced. -/
inductive Spells : Escape → List UInt8 → Prop
  | designation {element : CodeElement} {charset : GraphicSet} {bytes : List UInt8}
      (written : designation? element charset = some bytes) :
      Spells (.designate element charset) bytes
  | parenthesised {charset : GraphicSet} (double : charset.shape = .set94x94)
      (final : charset.finalByte ∈ [0x40, 0x41, 0x42]) :
      Spells (.designate .g0 charset) [esc, 0x24, 0x28, charset.finalByte]
  | announced : Spells (.designate .g0 .jisX0208) [esc, 0x26, 0x40, esc, 0x24, 0x42]
  | singleShift : Spells .singleShift [esc, 0x4E]

/-- The beginnings that do not yet show whether a sequence follows: an ESC with no more
intermediates than there may be, or the announcer with a part of what it announces. -/
inductive Unfinished : List UInt8 → Prop
  | intermediates {rest : List UInt8} (few : rest.length ≤ 4)
      (all : ∀ byte ∈ rest, 0x20 ≤ byte ∧ byte ≤ 0x2F) : Unfinished (esc :: rest)
  | announcer {rest : List UInt8} (begun : rest <+: [esc, 0x24, 0x42])
      (short : rest ≠ [esc, 0x24, 0x42]) : Unfinished ([esc, 0x26, 0x40] ++ rest)

variable {escape : Escape} {rest bytes : List UInt8} {length : Nat}

theorem isIntermediate_iff {byte : UInt8} :
    isIntermediate byte = true ↔ 0x20 ≤ byte ∧ byte ≤ 0x2F := by
  simp [isIntermediate]

theorem hasShortForm_iff {final : UInt8} :
    hasShortForm final = true ↔ final ∈ [0x40, 0x41, 0x42] := by
  simp [hasShortForm]

theorem shape_of_designation_g0 {charset : GraphicSet}
    (written : designation? .g0 charset = some bytes) : charset.shape ≠ .set96 := by
  cases charset <;> first | contradiction | decide

/-- No sequence puts a set of 96 positions into G0. -/
theorem Spells.shape_g0 {charset : GraphicSet} (spelled : Spells (.designate .g0 charset) bytes) :
    charset.shape ≠ .set96 := by
  cases spelled with
  | designation written => exact shape_of_designation_g0 written
  | parenthesised double final => simp [double]
  | announced => decide

/-- A spelling is read as what it spells, from its own bytes. -/
theorem Spells.alone (spelled : Spells escape bytes) :
    ∃ tail, bytes = esc :: tail ∧ read tail = .complete escape bytes.length := by
  cases spelled with
  | designation written =>
    obtain ⟨tail, rfl, complete⟩ := read_designation written []
    refine ⟨tail, rfl, ?_⟩
    simpa [Nat.add_comm] using complete
  | @parenthesised charset double final =>
    refine ⟨[0x24, 0x28, charset.finalByte], rfl, ?_⟩
    cases charset <;> cases double <;> rfl
  | announced => exact ⟨_, rfl, rfl⟩
  | singleShift => exact ⟨_, rfl, rfl⟩

theorem read_of_spells (spelled : Spells escape bytes) (begins : bytes <+: esc :: rest) :
    read rest = .complete escape bytes.length := by
  obtain ⟨tail, rfl, complete⟩ := spelled.alone
  obtain ⟨more, rfl⟩ := (List.cons_prefix_cons.mp begins).2
  rw [read_append (by simp [complete]), complete]

theorem Spells.isPart (spelled : Spells escape bytes) : ∀ byte ∈ bytes, isPart byte := by
  obtain ⟨tail, rfl, complete⟩ := spelled.alone
  have parts := read_covered tail
  rw [complete, Reading.covered, List.length_cons, Nat.add_sub_cancel, List.take_length] at parts
  exact List.forall_mem_cons.mpr ⟨by decide, parts⟩

/-- The intermediates and the final byte that designate a set spell its designation. -/
theorem spells_of_designated {intermediates : List UInt8} {final : UInt8}
    (named : designated? intermediates final = some escape) :
    Spells escape (esc :: intermediates ++ [final]) := by
  obtain ⟨element, charset, rfl, chosen, rfl⟩ := designated?_eq_some named
  simp only [target?] at chosen
  split at chosen
  case h_6 =>
    -- The short form, if the final byte has one.
    split at chosen
    · next short =>
      obtain ⟨rfl, shape⟩ := Prod.mk.inj (Option.some.inj chosen)
      exact .designation (by simp [designation?, ← shape, short])
    · contradiction
  case h_7 =>
    -- The parenthesis, which some sets need and the others may have.
    obtain ⟨rfl, shape⟩ := Prod.mk.inj (Option.some.inj chosen)
    by_cases short : hasShortForm charset.finalByte = true
    · exact .parenthesised shape.symm (hasShortForm_iff.mp short)
    · exact .designation (by simp [designation?, ← shape, short])
  case h_10 => contradiction
  all_goals
    obtain ⟨rfl, shape⟩ := Prod.mk.inj (Option.some.inj chosen)
    exact .designation (by simp [designation?, ← shape])

theorem spells_of_read (complete : read rest = .complete escape length) :
    ∃ bytes, Spells escape bytes ∧ bytes.length = length ∧ bytes <+: esc :: rest := by
  obtain ⟨intermediates, last, tail, rfl, -, -, shift | announcer | ⟨named, rfl⟩⟩ :=
    read_complete complete
  · obtain ⟨rfl, rfl, rfl, rfl⟩ := shift
    exact ⟨_, .singleShift, rfl, tail, rfl⟩
  · obtain ⟨rfl, rfl, ⟨more, rfl⟩, rfl, rfl⟩ := announcer
    exact ⟨_, .announced, rfl, more, rfl⟩
  · refine ⟨_, spells_of_designated named, ?_, tail, ?_⟩
    · simp only [List.length_append, List.length_cons, List.length_nil]
      omega
    · simp

theorem read_eq_complete_iff : read rest = .complete escape length ↔
    ∃ bytes, Spells escape bytes ∧ bytes.length = length ∧ bytes <+: esc :: rest := by
  constructor
  · exact spells_of_read
  · rintro ⟨bytes, spelled, rfl, begins⟩
    exact read_of_spells spelled begins

theorem read_eq_incomplete_iff : read rest = .incomplete ↔ Unfinished (esc :: rest) := by
  constructor
  · intro cut
    rcases read_cut cut with ⟨all, few⟩ | ⟨tail, rfl, begun, short⟩
    · exact .intermediates few fun byte member => isIntermediate_iff.mp (all byte member)
    · exact .announcer begun short
  · intro unfinished
    cases unfinished with
    | intermediates few all =>
      rw [read_intermediates fun byte member => isIntermediate_iff.mpr (all byte member)]
      exact if_neg (Nat.not_lt.mpr few)
    | announcer begun short =>
      exact (read_announcer _).trans (readAnnounced_eq_incomplete_iff.mpr ⟨begun, short⟩)

/-- The scanner goes by the grammar and by nothing else, whatever bytes stand behind an ESC. A
sequence is complete just when its spelling begins the input, the single shift when ESC N does; it
is incomplete just when the whole input is an unfinished one; and it is invalid in every other
case. So a designation is read as what it designates, whatever follows it. -/
theorem read_grammar (rest : List UInt8) :
    (∀ element charset length, read rest = .complete (.designate element charset) length ↔
      ∃ bytes, Spells (.designate element charset) bytes ∧ bytes.length = length ∧
        bytes <+: esc :: rest) ∧
    (∀ length, read rest = .complete .singleShift length ↔
      length = 2 ∧ [esc, 0x4E] <+: esc :: rest) ∧
    (read rest = .incomplete ↔ Unfinished (esc :: rest)) ∧
    ((∃ length, read rest = .invalid length) ↔
      ¬(∃ escape bytes, Spells escape bytes ∧ bytes <+: esc :: rest) ∧
      ¬Unfinished (esc :: rest)) ∧
    ∀ element charset bytes more, designation? element charset = some bytes →
      bytes ++ more = esc :: rest →
      read rest = .complete (.designate element charset) bytes.length := by
  refine ⟨fun _ _ _ => read_eq_complete_iff, ?_, read_eq_incomplete_iff, ?_, ?_⟩
  · intro length
    rw [read_eq_complete_iff]
    constructor
    · rintro ⟨bytes, ⟨⟩, rfl, begins⟩
      exact ⟨rfl, begins⟩
    · rintro ⟨rfl, begins⟩
      exact ⟨_, .singleShift, rfl, begins⟩
  · have spelled : (∃ escape bytes, Spells escape bytes ∧ bytes <+: esc :: rest) ↔
        ∃ escape length, read rest = .complete escape length := by
      simp only [read_eq_complete_iff]
      constructor
      · rintro ⟨escape, bytes, spelled, begins⟩
        exact ⟨escape, bytes.length, bytes, spelled, rfl, begins⟩
      · rintro ⟨escape, length, bytes, spelled, -, begins⟩
        exact ⟨escape, bytes, spelled, begins⟩
    rw [spelled, ← read_eq_incomplete_iff]
    cases read rest <;> simp
  · intro element charset bytes more written same
    exact read_of_spells (.designation written) ⟨more, same⟩

end CodeExtension.Escape
