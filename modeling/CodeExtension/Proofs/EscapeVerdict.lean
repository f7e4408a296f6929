import CodeExtension.Escape

/-! How much of the input a verdict on an escape sequence depends on. A verdict other than
incomplete is settled by the bytes it counts or looks past, so later bytes never change it. What
the input looks like is said once for each verdict, and everything else is taken from there. -/
namespace CodeExtension.Escape

theorem takeWhile_intermediates {intermediates : List UInt8}
    (all : ∀ byte ∈ intermediates, isIntermediate byte) (rest : List UInt8) :
    (intermediates ++ rest).takeWhile isIntermediate =
      intermediates ++ rest.takeWhile isIntermediate :=
  List.takeWhile_append_of_pos all

/-- An input is all intermediates, or a run of them ends at a byte of another kind. -/
theorem intermediates_or_end (rest : List UInt8) :
    (∀ byte ∈ rest, isIntermediate byte) ∨
    ∃ intermediates last tail, rest = intermediates ++ last :: tail ∧
      (∀ byte ∈ intermediates, isIntermediate byte) ∧ isIntermediate last = false := by
  induction rest with
  | nil => simp
  | cons byte rest ih =>
    cases kind : isIntermediate byte with
    | false => exact .inr ⟨[], byte, rest, rfl, by simp, kind⟩
    | true =>
      rcases ih with all | ⟨intermediates, last, tail, rfl, all, other⟩
      · exact .inl (List.forall_mem_cons.mpr ⟨kind, all⟩)
      · exact .inr ⟨byte :: intermediates, last, tail, rfl,
          List.forall_mem_cons.mpr ⟨kind, all⟩, other⟩

theorem read_intermediates {rest : List UInt8} (all : ∀ byte ∈ rest, isIntermediate byte) :
    read rest = if maxIntermediates < rest.length then .invalid (1 + maxIntermediates)
      else .incomplete := by
  have scanned : rest.takeWhile isIntermediate = rest := by
    simpa using takeWhile_intermediates all []
  simp [read, scanned]

theorem read_end {intermediates : List UInt8} {last : UInt8}
    (all : ∀ byte ∈ intermediates, isIntermediate byte) (other : isIntermediate last = false)
    (tail : List UInt8) :
    read (intermediates ++ last :: tail) =
      if maxIntermediates < intermediates.length then .invalid (1 + maxIntermediates)
      else if !isFinal last then .invalid (1 + intermediates.length)
      else if intermediates = [] ∧ last = 0x4E then .complete .singleShift 2
      else if intermediates = [0x26] ∧ last = 0x40 then readAnnounced tail
      else match designated? intermediates last with
        | some escape => .complete escape (2 + intermediates.length)
        | none => .invalid (2 + intermediates.length) := by
  have scanned : (intermediates ++ last :: tail).takeWhile isIntermediate = intermediates := by
    rw [takeWhile_intermediates all, List.takeWhile_cons_of_neg (by simp [other]), List.append_nil]
  have behind : (intermediates ++ last :: tail).drop intermediates.length = last :: tail :=
    List.drop_left
  unfold read
  rewrite [scanned]
  dsimp only
  rewrite [behind]
  rfl

theorem read_of_many {intermediates : List UInt8}
    (all : ∀ byte ∈ intermediates, isIntermediate byte)
    (many : maxIntermediates < intermediates.length) (rest : List UInt8) :
    read (intermediates ++ rest) = .invalid (1 + maxIntermediates) := by
  have scanned := takeWhile_intermediates all rest
  have longer : maxIntermediates < (intermediates ++ rest.takeWhile isIntermediate).length := by
    rw [List.length_append]
    omega
  simp only [read, scanned]
  rw [if_pos longer]

theorem readAnnounced_append {rest : List UInt8} (settled : readAnnounced rest ≠ .incomplete)
    (more : List UInt8) : readAnnounced (rest ++ more) = readAnnounced rest := by
  simp only [readAnnounced, List.isPrefixOf_iff_prefix] at settled ⊢
  by_cases whole : announced <+: rest
  · rw [if_pos whole, if_pos (whole.trans (List.prefix_append rest more))]
  · rw [if_neg whole] at settled ⊢
    have broken : ¬rest <+: announced := fun begun => settled (if_pos begun)
    -- Neither list begins the other, and that stays so when `rest` grows.
    have still : ¬announced <+: rest ++ more := fun begun =>
      (List.prefix_or_prefix_of_prefix begun (List.prefix_append rest more)).elim whole broken
    have apart : ¬rest ++ more <+: announced := fun begun =>
      broken ((List.prefix_append rest more).trans begun)
    rw [if_neg still, if_neg apart, if_neg broken]

theorem read_announcer (tail : List UInt8) : read (0x26 :: 0x40 :: tail) = readAnnounced tail := by
  have all : ∀ byte ∈ [0x26], isIntermediate byte := List.forall_mem_singleton.mpr rfl
  exact read_end all rfl tail

/-- What stands behind the byte that ends the intermediates matters to the announcer alone. -/
theorem read_end_congr {intermediates : List UInt8} {last : UInt8}
    (all : ∀ byte ∈ intermediates, isIntermediate byte) (other : isIntermediate last = false)
    (plain : ¬(intermediates = [0x26] ∧ last = 0x40)) (tail more : List UInt8) :
    read (intermediates ++ last :: tail) = read (intermediates ++ last :: more) := by
  rw [read_end all other, read_end all other]
  simp only [if_neg plain]

/-- A verdict other than incomplete is final. -/
theorem read_append {rest : List UInt8} (settled : read rest ≠ .incomplete)
    (more : List UInt8) : read (rest ++ more) = read rest := by
  rcases intermediates_or_end rest with all | ⟨intermediates, last, tail, rfl, all, other⟩
  · have verdict := read_intermediates all
    by_cases many : maxIntermediates < rest.length
    · rw [read_of_many all many, verdict, if_pos many]
    · exact absurd (verdict.trans (if_neg many)) settled
  · rw [List.append_assoc, List.cons_append]
    by_cases announcer : intermediates = [0x26] ∧ last = 0x40
    · obtain ⟨rfl, rfl⟩ := announcer
      calc read (0x26 :: 0x40 :: (tail ++ more))
        _ = readAnnounced (tail ++ more) := read_announcer _
        _ = readAnnounced tail := readAnnounced_append (read_announcer tail ▸ settled) more
        _ = read (0x26 :: 0x40 :: tail) := (read_announcer tail).symm
    · exact read_end_congr all other announcer _ _

/-- What a complete sequence can be: the single shift, the announcer with what it announces, or a
designation. -/
theorem read_complete {rest : List UInt8} {escape : Escape} {length : Nat}
    (complete : read rest = .complete escape length) :
    ∃ intermediates last tail, rest = intermediates ++ last :: tail ∧
      (∀ byte ∈ intermediates, isIntermediate byte) ∧ isFinal last ∧
      (intermediates = [] ∧ last = 0x4E ∧ escape = .singleShift ∧ length = 2 ∨
        intermediates = [0x26] ∧ last = 0x40 ∧ announced <+: tail ∧
          escape = .designate .g0 .jisX0208 ∧ length = 6 ∨
        designated? intermediates last = some escape ∧ length = 2 + intermediates.length) := by
  rcases intermediates_or_end rest with all | ⟨intermediates, last, tail, rfl, all, other⟩
  · rw [read_intermediates all] at complete
    split at complete <;> contradiction
  refine ⟨intermediates, last, tail, rfl, all, ?_⟩
  rw [read_end all other] at complete
  split at complete
  · contradiction
  split at complete
  · contradiction
  next final =>
  refine ⟨by simpa using final, ?_⟩
  split at complete
  · next shift =>
    obtain ⟨rfl, rfl⟩ := Reading.complete.inj complete
    exact .inl ⟨shift.1, shift.2, rfl, rfl⟩
  split at complete
  · next announcer =>
    simp only [readAnnounced] at complete
    split at complete
    · next follows =>
      obtain ⟨rfl, rfl⟩ := Reading.complete.inj complete
      exact .inr (.inl ⟨announcer.1, announcer.2, List.isPrefixOf_iff_prefix.mp follows, rfl, rfl⟩)
    · split at complete <;> contradiction
  · cases named : designated? intermediates last with
    | none => simp [named] at complete
    | some found =>
      rw [named] at complete
      obtain ⟨rfl, rfl⟩ := Reading.complete.inj complete
      exact .inr (.inr ⟨rfl, rfl⟩)

/-- What a refusal counts beside the ESC: intermediates, as many as there may be or as there are,
and the byte behind them if it could end a sequence. -/
def Refused (rest : List UInt8) (length : Nat) : Prop :=
  ∃ intermediates next tail, rest = intermediates ++ next :: tail ∧
    (∀ byte ∈ intermediates, isIntermediate byte) ∧ intermediates.length ≤ maxIntermediates ∧
    (isIntermediate next → intermediates.length = maxIntermediates) ∧
    length = 1 + intermediates.length + if isFinal next then 1 else 0

theorem not_isIntermediate_of_isFinal {byte : UInt8} (final : isFinal byte = true) :
    isIntermediate byte = false := by
  simp only [isFinal, isIntermediate, Bool.and_eq_true, decide_eq_true_eq, Bool.and_eq_false_iff,
    decide_eq_false_iff_not, UInt8.le_iff_toNat_le] at final ⊢
  exact .inr fun low => absurd (Nat.le_trans final.1 low) (by decide)

theorem refused_of_many {run : List UInt8} (all : ∀ byte ∈ run, isIntermediate byte)
    (many : maxIntermediates < run.length) (behind : List UInt8) :
    Refused (run ++ behind) (1 + maxIntermediates) := by
  have next : isIntermediate run[maxIntermediates] = true := all _ (List.getElem_mem many)
  have inside : isFinal run[maxIntermediates] ≠ true := by
    intro final
    simp [not_isIntermediate_of_isFinal final] at next
  have counted : (run.take maxIntermediates).length = maxIntermediates :=
    List.length_take_of_le (Nat.le_of_lt many)
  refine ⟨run.take maxIntermediates, run[maxIntermediates],
    run.drop (maxIntermediates + 1) ++ behind, ?_,
    fun byte member => all byte (List.mem_of_mem_take member), Nat.le_of_eq counted,
    fun _ => counted, ?_⟩
  · rw [← List.cons_append, ← List.drop_eq_getElem_cons many, ← List.append_assoc,
      List.take_append_drop]
  · rw [counted, if_neg inside, Nat.add_zero]

/-- Without what it announces, the announcer alone is refused. -/
theorem length_of_readAnnounced {tail : List UInt8} {length : Nat}
    (refused : readAnnounced tail = .invalid length) : length = 3 := by
  simp only [readAnnounced] at refused
  split at refused
  · contradiction
  split at refused
  · contradiction
  · exact (Reading.invalid.inj refused).symm

theorem refused_of_invalid {rest : List UInt8} {length : Nat}
    (refused : read rest = .invalid length) : Refused rest length := by
  rcases intermediates_or_end rest with all | ⟨intermediates, last, tail, rfl, all, other⟩
  · rw [read_intermediates all] at refused
    split at refused
    · next many =>
      obtain rfl := Reading.invalid.inj refused
      simpa using refused_of_many all many []
    · contradiction
  rw [read_end all other] at refused
  split at refused
  · next many =>
    obtain rfl := Reading.invalid.inj refused
    exact refused_of_many all many (last :: tail)
  next few =>
  refine ⟨intermediates, last, tail, rfl, all, Nat.le_of_not_lt few, by simp [other], ?_⟩
  split at refused
  · next stray =>
    rw [if_neg (by simpa using stray)]
    exact (Reading.invalid.inj refused).symm
  next final =>
  rw [if_pos (by simpa using final)]
  split at refused
  · contradiction
  split at refused
  · next announcer =>
    obtain ⟨rfl, rfl⟩ := announcer
    exact length_of_readAnnounced refused
  · split at refused
    · contradiction
    · have same := Reading.invalid.inj refused
      omega

theorem readAnnounced_eq_incomplete_iff {tail : List UInt8} :
    readAnnounced tail = .incomplete ↔ tail <+: announced ∧ tail ≠ announced := by
  simp only [readAnnounced, List.isPrefixOf_iff_prefix]
  by_cases whole : announced <+: tail
  · -- Then `tail` is too long to be a proper beginning.
    have long (begun : tail <+: announced) : tail = announced :=
      begun.eq_of_length_le whole.length_le
    simpa [whole] using long
  · have short : tail ≠ announced := by
      rintro rfl
      exact whole List.prefix_rfl
    by_cases begun : tail <+: announced <;> simp [whole, begun, short]

/-- What a sequence that was cut off can be: intermediates, no more than there may be, or the
announcer with a part of what it announces. -/
theorem read_cut {rest : List UInt8} (cut : read rest = .incomplete) :
    (∀ byte ∈ rest, isIntermediate byte) ∧ rest.length ≤ maxIntermediates ∨
    ∃ tail, rest = 0x26 :: 0x40 :: tail ∧ tail <+: announced ∧ tail ≠ announced := by
  rcases intermediates_or_end rest with all | ⟨intermediates, last, tail, rfl, all, other⟩
  · rw [read_intermediates all] at cut
    split at cut
    · contradiction
    · next few => exact .inl ⟨all, Nat.le_of_not_lt few⟩
  rw [read_end all other] at cut
  split at cut
  · contradiction
  split at cut
  · contradiction
  split at cut
  · contradiction
  split at cut
  · next announcer =>
    obtain ⟨rfl, rfl⟩ := announcer
    exact .inr ⟨tail, rfl, readAnnounced_eq_incomplete_iff.mp cut⟩
  · split at cut <;> contradiction

theorem take_through {intermediates tail : List UInt8} {last : UInt8} {n : Nat}
    (same : n = intermediates.length + 1) :
    (intermediates ++ last :: tail).take n = intermediates ++ [last] := by
  subst same
  simp [List.take_append, List.take_of_length_le]

section

variable {rest : List UInt8} {length : Nat}

theorem Refused.bounds (refused : Refused rest length) :
    1 ≤ length ∧ length ≤ rest.length + 1 ∧ length ≤ 2 + maxIntermediates := by
  obtain ⟨intermediates, next, tail, rfl, -, few, -, rfl⟩ := refused
  simp only [List.length_append, List.length_cons]
  split <;> omega

theorem Refused.skips (refused : Refused rest length) :
    ∀ byte ∈ rest.take (length - 1), isIntermediate byte ∨ isFinal byte := by
  obtain ⟨intermediates, next, tail, rfl, all, -, -, rfl⟩ := refused
  intro byte member
  split at member
  · next final =>
    rw [take_through (by omega)] at member
    rcases List.mem_append.mp member with before | there
    · exact .inl (all byte before)
    · rw [List.mem_singleton.mp there]
      exact .inr final
  · rw [List.take_left' (by omega)] at member
    exact .inl (all byte member)

end

/-- The length that a verdict counts is that of a nonempty stretch of the input. -/
def Reading.Fits (rest : List UInt8) : Reading → Prop
  | .complete _ length => 2 ≤ length ∧ length ≤ rest.length + 1
  | .incomplete => True
  | .invalid length => 1 ≤ length ∧ length ≤ rest.length + 1

theorem read_fits (rest : List UInt8) : (read rest).Fits rest := by
  cases verdict : read rest with
  | incomplete => trivial
  | invalid length =>
    obtain ⟨counted, inside, -⟩ := (refused_of_invalid verdict).bounds
    exact ⟨counted, inside⟩
  | complete escape length =>
    obtain ⟨intermediates, last, tail, rfl, -, -, shift | announcer | ⟨-, rfl⟩⟩ :=
      read_complete verdict
    · obtain ⟨rfl, rfl, rfl, rfl⟩ := shift
      exact ⟨by omega, by simp⟩
    · obtain ⟨rfl, rfl, ⟨later, rfl⟩, rfl, rfl⟩ := announcer
      exact ⟨by omega, by simp [announced]⟩
    · exact ⟨by omega, by simp only [List.length_append, List.length_cons]; omega⟩

/-- The bytes after the ESC that a verdict is about: those it counts, or all there are as long as
the sequence is incomplete. -/
def Reading.covered (rest : List UInt8) : Reading → List UInt8
  | .complete _ length | .invalid length => rest.take (length - 1)
  | .incomplete => rest

/-- The bytes that sequences are made of. The announcer is followed by another ESC. -/
def isPart (byte : UInt8) : Bool := byte = esc || isIntermediate byte || isFinal byte

theorem isPart_of_isIntermediate {byte : UInt8} (kind : isIntermediate byte = true) :
    isPart byte = true := by
  simp [isPart, kind]

theorem isPart_of_isFinal {byte : UInt8} (kind : isFinal byte = true) : isPart byte = true := by
  simp [isPart, kind]

theorem isPart_announcement : ∀ byte ∈ [0x26, 0x40] ++ announced, isPart byte :=
  List.all_eq_true.mp (by decide)

/-- A verdict passes over no byte that could not be part of a sequence. -/
theorem read_covered (rest : List UInt8) :
    ∀ byte ∈ (read rest).covered rest, isPart byte := by
  cases verdict : read rest with
  | incomplete =>
    rcases read_cut verdict with ⟨all, -⟩ | ⟨tail, rfl, begun, -⟩
    · exact fun byte member => isPart_of_isIntermediate (all byte member)
    · have inside : [0x26, 0x40] ++ tail <+: [0x26, 0x40] ++ announced :=
        (List.prefix_append_right_inj [0x26, 0x40]).mpr begun
      exact fun byte member => isPart_announcement byte (inside.subset member)
  | invalid length =>
    intro byte member
    rcases (refused_of_invalid verdict).skips byte member with intermediate | final
    · exact isPart_of_isIntermediate intermediate
    · exact isPart_of_isFinal final
  | complete escape length =>
    obtain ⟨intermediates, last, tail, rfl, all, final, shift | announcer | ⟨named, rfl⟩⟩ :=
      read_complete verdict
    · obtain ⟨rfl, rfl, rfl, rfl⟩ := shift
      exact List.forall_mem_singleton.mpr rfl
    · obtain ⟨rfl, rfl, ⟨later, rfl⟩, rfl, rfl⟩ := announcer
      exact isPart_announcement
    · rw [Reading.covered, take_through (by omega)]
      intro byte member
      rcases List.mem_append.mp member with before | there
      · exact isPart_of_isIntermediate (all byte before)
      · rw [List.mem_singleton.mp there]
        exact isPart_of_isFinal final

theorem designated?_eq_some {intermediates : List UInt8} {final : UInt8} {escape : Escape}
    (named : designated? intermediates final = some escape) :
    ∃ element charset, escape = .designate element charset ∧
      target? intermediates final = some (element, charset.shape) ∧ charset.finalByte = final := by
  obtain ⟨⟨element, shape⟩, chosen, rest⟩ := Option.bind_eq_some_iff.mp named
  obtain ⟨charset, found, same⟩ := Option.bind_eq_some_iff.mp rest
  obtain ⟨rfl, final⟩ := GraphicSet.ofFinalByte?_eq_some_iff.mp found
  exact ⟨element, charset, (Option.some.inj same).symm, chosen, final⟩

theorem read_singleShift {rest : List UInt8} {length : Nat}
    (complete : read rest = .complete .singleShift length) :
    length = 2 ∧ ∃ tail, rest = 0x4E :: tail := by
  obtain ⟨intermediates, last, tail, rfl, -, -, ⟨rfl, rfl, -, two⟩ | announcer | ⟨named, -⟩⟩ :=
    read_complete complete
  · exact ⟨two, tail, rfl⟩
  · cases announcer.2.2.2.1
  · obtain ⟨element, charset, other, -⟩ := designated?_eq_some named
    cases other

theorem read_designation {element : CodeElement} {charset : GraphicSet} {bytes : List UInt8}
    (written : designation? element charset = some bytes) (more : List UInt8) :
    ∃ tail, bytes = esc :: tail ∧
      read (tail ++ more) = .complete (.designate element charset) (1 + tail.length) := by
  have alone : ∃ tail, bytes = esc :: tail ∧
      read tail = .complete (.designate element charset) (1 + tail.length) := by
    cases element <;> cases charset <;> cases written <;> exact ⟨_, rfl, by decide⟩
  obtain ⟨tail, rfl, complete⟩ := alone
  refine ⟨tail, rfl, ?_⟩
  rw [read_append (by simp [complete]), complete]

/-- The bytes that a sequence stops before: ESC, the shifts and all other controls, and those with
eight bits. -/
def interrupts (byte : UInt8) : Bool := byte < 0x20 || 0x7E < byte

theorem interrupts_eq_false_iff {byte : UInt8} :
    interrupts byte = false ↔ 0x20 ≤ byte ∧ byte ≤ 0x7E := by
  simp [interrupts]

theorem printable_of_part {byte : UInt8} (part : isIntermediate byte ∨ isFinal byte) :
    0x20 ≤ byte ∧ byte ≤ 0x7E := by
  simp only [isIntermediate, isFinal, Bool.and_eq_true, decide_eq_true_eq] at part
  rcases part with ⟨low, high⟩ | ⟨low, high⟩
  · exact ⟨low, UInt8.le_trans high (by decide)⟩
  · exact ⟨UInt8.le_trans (by decide) low, high⟩

theorem Refused.filter_drop {rest : List UInt8} {length : Nat} (refused : Refused rest length) :
    (rest.drop (length - 1)).filter interrupts = rest.filter interrupts := by
  have skipped : (rest.take (length - 1)).filter interrupts = [] := by
    rw [List.filter_eq_nil_iff]
    intro byte member
    simp [interrupts_eq_false_iff.mpr (printable_of_part (refused.skips byte member))]
  calc (rest.drop (length - 1)).filter interrupts
    _ = (rest.take (length - 1)).filter interrupts ++
        (rest.drop (length - 1)).filter interrupts := by rw [skipped, List.nil_append]
    _ = rest.filter interrupts := by rw [← List.filter_append, List.take_append_drop]

theorem read_append_control (rest : List UInt8) : read (rest ++ [0x00]) ≠ .incomplete := by
  intro cut
  have parts := read_covered (rest ++ [0x00])
  rw [cut] at parts
  exact absurd (parts 0x00 (List.mem_append_right rest List.mem_cons_self)) (by decide)

/-- A verdict is final just when it is not incomplete. And reading is back in step after a refusal:
what it counts is there, intermediates and at most a final byte behind the ESC, so six bytes at the
most and from space to tilde. Every ESC, shift, other control and 8-bit byte that followed is still
to be read. -/
theorem read_settles (rest : List UInt8) :
    (read rest ≠ .incomplete ↔ ∀ more, read (rest ++ more) = read rest) ∧
    ∀ length, read rest = .invalid length → Refused rest length ∧
      1 ≤ length ∧ length ≤ min (esc :: rest).length 6 ∧
      (∀ byte ∈ ((esc :: rest).take length).drop 1, 0x20 ≤ byte ∧ byte ≤ 0x7E) ∧
      ((esc :: rest).drop length).filter interrupts = rest.filter interrupts := by
  constructor
  · constructor
    · exact read_append
    · intro final cut
      exact read_append_control rest ((final [0x00]).trans cut)
  · intro length verdict
    have refused := refused_of_invalid verdict
    obtain ⟨counted, inside, short⟩ := refused.bounds
    obtain ⟨skipped, rfl⟩ := Nat.exists_eq_add_of_le' counted
    refine ⟨refused, counted, Nat.le_min.mpr ⟨inside, short⟩, ?_, refused.filter_drop⟩
    intro byte member
    exact printable_of_part (refused.skips byte member)

/-- Four intermediates and a final byte, the most that is refused, with a single shift behind
them. -/
def overlong : List UInt8 := [0x28, 0x28, 0x28, 0x28, 0x42] ++ singleShiftBytes

/-- The refusal stands, and it leaves the ESC of the single shift to be read. -/
theorem read_overlong : read overlong = .invalid 6 ∧ read (overlong ++ [0x21]) = .invalid 6 ∧
    ((esc :: overlong).drop 6).filter interrupts = overlong.filter interrupts ∧
    overlong.filter interrupts = [esc] := by
  have refused : read overlong = .invalid 6 := by decide
  have settled : read overlong ≠ .incomplete := by
    rw [refused]
    exact nofun
  obtain ⟨final, resumes⟩ := read_settles overlong
  obtain ⟨-, -, -, -, kept⟩ := resumes 6 refused
  exact ⟨refused, (final.mp settled [0x21]).trans refused, kept, rfl⟩

end CodeExtension.Escape
