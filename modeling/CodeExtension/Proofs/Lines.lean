import CodeExtension.Proofs.Published
import CodeExtension.Proofs.Reachability

/-! Lines through a reader that forgives. Each byte that is a line feed shows as one in the text and
nothing else does, as long as the line feed is not taken for the second byte of a character. There
it makes the pair malformed and is passed over with it; so damage that leaves the first byte of a
pair at the end of a line joins the line to the next. Nothing else that is passed over has a line
feed in it. -/
namespace CodeExtension

theorem Profile.singleShift_of_writing :
    ∀ profile ∈ [japanese, japanese1, korean], profile.singleShift = false := by
  decide

/-- Whether the malformed stretch is a pair that took a line feed for its second byte. -/
def Span.losesLine (span : Span) : Bool :=
  match span.malformed with
  | [_, second] => second = lineFeed
  | _ => false

theorem Span.losesLine_iff {span : Span} :
    span.losesLine = true ↔ ∃ lead, span.malformed = [lead, lineFeed] := by
  simp only [losesLine]
  split
  · next lead second pair => simp [pair]
  · next other =>
    constructor
    · exact nofun
    · rintro ⟨lead, pair⟩
      exact absurd pair (other lead lineFeed)

theorem count_lineFeed_control (byte : UInt8) :
    [Char.ofNat byte.toNat].count '\n' = [byte].count lineFeed := by
  have same : Char.ofNat byte.toNat = '\n' ↔ byte = lineFeed := by
    rw [← Char.toNat_inj, toNat_ofNat_low byte.toNat_lt, ← UInt8.toNat_inj]
    rfl
  simp only [List.count_singleton, beq_iff_eq, same]

theorem ne_lineFeed_of_graphic {byte : UInt8} (graphic : 0x20 ≤ byte) : byte ≠ lineFeed := by
  rintro rfl
  exact absurd graphic (by decide)

theorem ne_newline_of_graphic {scalar : Char} (graphic : 0x20 ≤ scalar.toNat) :
    scalar ≠ '\n' := by
  rintro rfl
  exact absurd graphic (by decide)

theorem Escape.lineFeed_not_covered (rest : List UInt8) :
    lineFeed ∉ esc :: (read rest).covered rest := by
  intro member
  rcases List.mem_cons.mp member with here | there
  · exact absurd here (by decide)
  · exact absurd (read_covered rest lineFeed there) (by decide)

/-- What an escape sequence counts has no line feed, whether or not it is obeyed. -/
theorem Escape.lineFeed_not_counted {rest : List UInt8} {length : Nat}
    (counts : read rest = .invalid length ∨ ∃ escape, read rest = .complete escape length) :
    lineFeed ∉ (esc :: rest).take length := by
  have absent := lineFeed_not_covered rest
  have fits := read_fits rest
  have positive : 1 ≤ length ∧ (read rest).covered rest = rest.take (length - 1) := by
    rcases counts with refused | ⟨escape, complete⟩
    · rw [refused] at fits ⊢
      exact ⟨fits.1, rfl⟩
    · rw [complete] at fits ⊢
      exact ⟨Nat.le_of_succ_le fits.1, rfl⟩
  obtain ⟨further, rfl⟩ := Nat.exists_eq_add_of_le' positive.1
  rwa [positive.2] at absent

namespace Scheme

variable {scheme : Scheme} {s state : CodeState} {rest input : List UInt8} {text : List Char}
  {fault : Fault}

section Units

variable (wellFormed : scheme.tables.WellFormed) (coherent : scheme.Coherent)
  (off : scheme.profile.singleShift = false)

include wellFormed coherent off in
theorem Takes.count_lineFeed {bytes : List UInt8} (unit : scheme.Takes s bytes state text) :
    text.count '\n' = bytes.count lineFeed := by
  have none {bytes : List UInt8} {text : List Char} (shown : '\n' ∉ text)
      (absent : lineFeed ∉ bytes) : text.count '\n' = bytes.count lineFeed := by
    rw [List.count_eq_zero_of_not_mem shown, List.count_eq_zero_of_not_mem absent]
  cases unit with
  | designation spelled supported =>
    refine none List.not_mem_nil ?_
    intro member
    exact absurd (spelled.isPart lineFeed member) (by decide)
  | singleShifted shifting =>
    rw [off] at shifting
    contradiction
  | shift shifting kind => rcases kind with rfl | rfl <;> rfl
  | newline => rfl
  | control => exact count_lineFeed_control _
  | single graphic shape found =>
    have shown := ne_newline_of_graphic (wellFormed.graphic_of_byte graphic.1 found)
    exact none (by simp [shown.symm]) (by simp [(ne_lineFeed_of_graphic graphic.1).symm])
  | double graphic shape found =>
    have shown := ne_newline_of_graphic (doubleByte?_graphic wellFormed coherent graphic.1 found)
    have second := ne_lineFeed_of_graphic (graphic_of_doubleByte? wellFormed coherent shape found).1
    refine none (by simp [shown.symm]) ?_
    simp [(ne_lineFeed_of_graphic graphic.1).symm, second.symm]

include wellFormed coherent off in
theorem count_lineFeed_decode
    (reads : scheme.decode s input = .write text state) :
    text.count '\n' = input.count lineFeed := by
  induction s, input using scheme.decode_induction generalizing text with
  | nil s =>
    rw [decode_nil] at reads
    have empty : [] = text := congrArg Run.output reads
    rw [← empty]
    rfl
  | take s bytes rest next head unit ih =>
    rw [unit.decode_append] at reads
    obtain ⟨tail, later, rfl⟩ := Run.write_followedBy_eq_write reads
    rw [List.count_append, List.count_append, unit.count_lineFeed wellFormed coherent off, ih later]
  | stop s input fault stops =>
    rw [stops.decode] at reads
    cases reads

include off in
/-- What is passed over has no line feed, except for a pair whose second byte is one. -/
theorem Stops.lineFeed_only_in_pair {count : Nat} (stops : scheme.Stops s input fault)
    (resumes : fault.resumption? input.length = some count) :
    lineFeed ∉ input.take count ∨
      ∃ lead, lead ≠ lineFeed ∧ input.take count = [lead, lineFeed] := by
  have alone {byte : UInt8} {rest : List UInt8} (high : 0x20 ≤ byte) :
      lineFeed ∉ (byte :: rest).take 1 := by
    simp [(ne_lineFeed_of_graphic high).symm]
  cases stops with
  | @unfinished rest cut =>
    left
    have absent := Escape.lineFeed_not_covered rest
    rw [cut] at absent
    exact fun member => absent (List.mem_of_mem_take member)
  | @refused rest length refused =>
    left
    obtain rfl : 0 + length = count := Option.some.inj resumes
    rw [Nat.zero_add]
    exact Escape.lineFeed_not_counted (.inl refused)
  | @unsupported element charset rest length complete =>
    left
    obtain rfl : 0 + length = count := Option.some.inj resumes
    rw [Nat.zero_add]
    exact Escape.lineFeed_not_counted (.inr ⟨_, complete⟩)
  | unshifted =>
    obtain rfl := Option.some.inj resumes
    have absent : lineFeed ∉ Escape.singleShiftBytes := by decide
    exact .inl absent
  | singleShiftCut shifting | singleShiftEmpty shifting | singleShiftDouble shifting =>
    rw [off] at shifting
    contradiction
  | eightBit right =>
    obtain rfl := Option.some.inj resumes
    exact .inl (alone (UInt8.le_trans (by decide) right))
  | singleEmpty graphic | doubleCut graphic =>
    obtain rfl := Option.some.inj resumes
    exact .inl (alone graphic.1)
  | wide => cases resumes
  | @doubleEmpty first second rest graphic =>
    obtain rfl := Option.some.inj resumes
    have lead := ne_lineFeed_of_graphic graphic.1
    by_cases feed : second = lineFeed
    · exact .inr ⟨first, lead, by rw [feed]; rfl⟩
    · exact .inl (by simp [lead.symm, Ne.symm feed])

end Units

theorem stops_of_decode (stopped : scheme.decode s input = .stop s fault)
    (start : fault.offset = 0) : scheme.Stops s input fault := by
  obtain ⟨-, -, after⟩ := scheme.decode_divides s input
  rw [stopped] at after
  have place : (Run.stop (α := Char) s fault).reach input.length = 0 := start
  obtain ⟨cause, stops, rebased⟩ := after fault rfl
  rw [place, List.drop_zero] at stops
  rw [place, Fault.rebase_zero] at rebased
  rwa [rebased]

theorem lineFeed_of_malformed (off : scheme.profile.singleShift = false) {malformed : List UInt8}
    (bad : scheme.Malformed s malformed rest) :
    lineFeed ∉ malformed ∨ ∃ lead, lead ≠ lineFeed ∧ malformed = [lead, lineFeed] := by
  -- Each of the three kinds of fault covers the malformed stretch and no more.
  have covering {fault : Fault} (start : fault.offset = 0)
      (stopped : scheme.decode s (malformed ++ rest) = .stop s fault)
      (resumes : fault.resumption? (malformed ++ rest).length = some malformed.length) :
      lineFeed ∉ malformed ∨ ∃ lead, lead ≠ lineFeed ∧ malformed = [lead, lineFeed] := by
    have covered := (stops_of_decode stopped start).lineFeed_only_in_pair off resumes
    rwa [List.take_left] at covered
  obtain ⟨-, stopped | stopped | ⟨stopped, rfl⟩⟩ := bad
  · exact covering rfl stopped (congrArg some (Nat.zero_add _))
  · exact covering rfl stopped (congrArg some (Nat.zero_add _))
  · refine covering rfl stopped (congrArg some ?_)
    rw [List.append_nil, Nat.zero_add, Nat.sub_zero]

theorem count_lineFeed_malformed (off : scheme.profile.singleShift = false) {span : Span}
    (bad : scheme.Malformed s span.malformed rest) :
    span.malformed.count lineFeed = if span.losesLine then 1 else 0 := by
  rcases lineFeed_of_malformed off bad with absent | ⟨lead, other, pair⟩
  · have kept : ¬span.losesLine = true := by
      rw [Span.losesLine_iff]
      rintro ⟨lead, pair⟩
      exact absent (by simp [pair])
    rw [if_neg kept, List.count_eq_zero_of_not_mem absent]
  · rw [if_pos (Span.losesLine_iff.mpr ⟨lead, pair⟩), pair, List.count_cons_of_ne other,
      List.count_singleton_self]

/-- Through spans, line feeds go missing only as second bytes of malformed pairs. -/
theorem Recovers.count_lineFeed (wellFormed : scheme.tables.WellFormed) (coherent : scheme.Coherent)
    (off : scheme.profile.singleShift = false) {mark : List Char} (unmarked : '\n' ∉ mark)
    {spans : List Span} {tail : List UInt8} {final : CodeState}
    (recovers : scheme.Recovers s spans tail final) :
    (spans.flatMap fun span => mark ++ span.text).count '\n' + spans.countP Span.losesLine =
      (spans.flatMap Span.bytes).count lineFeed := by
  induction recovers with
  | nil => rfl
  | cons bad reads _ ih =>
    have shown := count_lineFeed_decode wellFormed coherent off reads
    have lost := count_lineFeed_malformed off bad
    rw [List.flatMap_cons, List.flatMap_cons, Span.bytes, List.count_append, List.count_append,
      List.count_append, List.count_append, List.count_eq_zero_of_not_mem unmarked, shown, lost,
      List.countP_cons, ← ih]
    omega

theorem Reached.next (reached : scheme.Reached s) {input : List UInt8} {next : CodeState}
    (reads : scheme.decode s input = .write text next) : scheme.Reached next := by
  have after := (reached.decode input).1
  rwa [reads] at after

theorem Reached.recovers (reached : scheme.Reached s) {spans : List Span} {tail : List UInt8}
    {final : CodeState} (recovers : scheme.Recovers s spans tail final) :
    scheme.Reached final := by
  induction recovers with
  | nil => exact reached
  | cons _ reads _ ih => exact ih (reached.next reads)

section Pairs

variable (wellFormed : scheme.tables.WellFormed) (coherent : scheme.Coherent) {lead : UInt8}
  (low : 0x20 ≤ lead) (high : lead < 0x80)

include wellFormed coherent low high in
/-- Where a double-byte set is read, a line feed is always taken for a second byte. -/
theorem stops_pair_lineFeed (double : s.active.shape = .set94x94) (rest : List UInt8) :
    scheme.Stops s (lead :: lineFeed :: rest) (.invalidByte 0 2) := by
  refine .doubleEmpty ⟨low, high⟩ double ?_
  by_contra present
  obtain ⟨scalar, found⟩ := Option.ne_none_iff_exists'.mp present
  exact absurd (graphic_of_doubleByte? wellFormed coherent double found).1 (by decide)

include wellFormed coherent low high in
/-- The line goes on behind it, in the state before the pair. -/
theorem resume_pair_lineFeed {mark : List Char} {readable : List UInt8}
    (clear : (scheme.decode s readable).fault = none)
    (double : (scheme.decode s readable).state.active.shape = .set94x94) (rest : List UInt8) :
    let run := scheme.decode s readable
    scheme.resume mark s (readable ++ lead :: lineFeed :: rest) =
      (Run.write (run.output ++ mark) run.state).followedBy (readable.length + 2) fun s =>
        scheme.resume mark s rest := by
  intro run
  have stopped := (stops_pair_lineFeed wellFormed coherent low high double rest).decode
  have whole : scheme.decode s (readable ++ lead :: lineFeed :: rest) =
      ⟨run.output, run.state, some (.invalidByte readable.length 2)⟩ := by
    rw [scheme.decode_append_of_write s (Run.eq_write_of_clear clear), Run.write_followedBy,
      stopped]
    simp [run, Run.stop, Fault.rebase]
  rw [resume_of_some (by rw [whole]; rfl), whole, ← List.drop_drop, List.drop_left]
  rfl

end Pairs

/-- Without a dead end, the stretches of an input make up all of it. -/
theorem exists_spans_of_not_deadEnd (alive : ¬scheme.profile.DeadEnd) (reached : scheme.Reached s)
    (input : List UInt8) :
    ∃ readable text next spans final,
      input = readable ++ spans.flatMap Span.bytes ∧
      scheme.decode s readable = .write text next ∧ scheme.Recovers next spans [] final ∧
      ∀ mark, scheme.resume mark s input =
        .write (text ++ spans.flatMap fun span => mark ++ span.text) final := by
  obtain ⟨readable, text, next, spans, tail, final, parts, reads, recovers, results⟩ :=
    scheme.exists_spans s input
  rcases results with ⟨rfl, texts⟩ | ⟨charset, element, broken, -⟩
  · rw [List.append_nil] at parts
    exact ⟨readable, text, next, spans, final, parts, reads, recovers, texts⟩
  · refine absurd ((((reached.next reads).recovers recovers).decode tail).2 ?_) alive
    rw [broken]
    rfl

end Scheme

def Recovery.mark : Recovery → List Char
  | .replace => [bytesMark]
  | .strict | .ignore => []

theorem Recovery.newline_not_mark (recovery : Recovery) : '\n' ∉ recovery.mark := by
  cases recovery <;> decide

theorem Codec.decode_forgiving (codec : Codec) {recovery : Recovery}
    (forgiving : recovery ≠ .strict) (input : List UInt8) :
    (codec.withRecovery recovery).decode input =
      (codec.scheme.resume recovery.mark .initial input).result.mapError .fault := by
  cases recovery with
  | strict => contradiction
  | replace => exact codec.decode_replace input
  | ignore => exact codec.decode_ignore input

/-- Under every registered profile, a reader that forgives never shows a line feed that follows the
first byte of a pair. -/
theorem Codec.decode_pair_lineFeed (codec : Codec) (recovery : Recovery) (readable : List UInt8)
    (lead : UInt8) (registered : codec.scheme.profile ∈ Profile.registered)
    (published : codec.scheme.tables = .standard) (forgiving : recovery ≠ .strict)
    (low : 0x20 ≤ lead) (high : lead < 0x80)
    (clear : (codec.scheme.decode .initial readable).fault = none)
    (double : (codec.scheme.decode .initial readable).state.active.shape = .set94x94)
    (rest : List UInt8) :
    let run := codec.scheme.decode .initial readable
    (codec.withRecovery recovery).decode (readable ++ lead :: lineFeed :: rest) =
      ((Run.write (run.output ++ recovery.mark) run.state).followedBy (readable.length + 2) fun s =>
        codec.scheme.resume recovery.mark s rest).result.mapError .fault := by
  have wellFormed : codec.scheme.tables.WellFormed := published ▸ Catalogue.wellFormed_standard
  have coherent := Scheme.coherent_of_published registered published
  rw [codec.decode_forgiving forgiving,
    Scheme.resume_pair_lineFeed wellFormed coherent low high clear double]

/-- Which line feeds a reader that forgives shows, under the registered profiles without a single
shift. It gives a text for every input, and the text has all of the input's line feeds but those
that stand as the second byte of a malformed pair. -/
theorem Codec.decode_lineFeeds (codec : Codec)
    (listed : codec.scheme.profile ∈ [Profile.japanese, Profile.japanese1, Profile.korean])
    (published : codec.scheme.tables = .standard) (input : List UInt8) :
    ∃ readable text next spans final,
      input = readable ++ spans.flatMap Span.bytes ∧
      codec.scheme.decode .initial readable = .write text next ∧
      codec.scheme.Recovers next spans [] final ∧
      ∀ recovery ≠ .strict, ∃ shown, (codec.withRecovery recovery).decode input = .ok shown ∧
        shown.count '\n' + spans.countP Span.losesLine = input.count lineFeed := by
  have registered := (Profile.covers_of_writing _ listed).1
  have alive := Profile.not_deadEnd_of_registered _ registered
  have wellFormed : codec.scheme.tables.WellFormed := published ▸ Catalogue.wellFormed_standard
  have coherent := Scheme.coherent_of_published registered published
  have off := Profile.singleShift_of_writing _ listed
  obtain ⟨readable, text, next, spans, final, parts, reads, recovers, texts⟩ :=
    Scheme.exists_spans_of_not_deadEnd alive Scheme.reached_initial input
  refine ⟨readable, text, next, spans, final, parts, reads, recovers, ?_⟩
  intro recovery forgiving
  refine ⟨text ++ spans.flatMap fun span => recovery.mark ++ span.text, ?_, ?_⟩
  · rw [codec.decode_forgiving forgiving, texts]
    rfl
  · have first := Scheme.count_lineFeed_decode wellFormed coherent off reads
    have later := recovers.count_lineFeed wellFormed coherent off recovery.newline_not_mark
    rw [parts, List.count_append, List.count_append, first, ← later, Nat.add_assoc]

namespace Published

def japanese : Codec where
  scheme := ⟨.japanese, .standard⟩
  sound := by decide +kernel

def korean : Codec where
  scheme := ⟨.korean, .standard⟩
  sound := by decide +kernel

/-- Of two line feeds the first goes with a malformed pair and the second is kept, damage and
all. -/
theorem decode_second_line :
    let input := [0x1B, 0x24, 0x29, 0x43, 0x0E, 0x30, 0x0A, 0xFF, 0x0A, 0x41]
    (korean.withRecovery .replace).decode input = .ok ['\uFFFD', '\uFFFD', '\n', 'A'] ∧
      ∃ readable text next spans final, input = readable ++ spans.flatMap Span.bytes ∧
        korean.scheme.decode .initial readable = .write text next ∧
        korean.scheme.Recovers next spans [] final ∧ spans.countP Span.losesLine = 1 := by
  intro input
  have decoded : (korean.withRecovery .replace).decode input =
      .ok ['\uFFFD', '\uFFFD', '\n', 'A'] := by
    refine (korean.decode_pair_lineFeed .replace [0x1B, 0x24, 0x29, 0x43, 0x0E] 0x30 (by decide) rfl
      (by decide) (by decide) (by decide) (by decide +kernel) (by decide +kernel)
      [0xFF, 0x0A, 0x41]).trans ?_
    decide +kernel
  obtain ⟨readable, text, next, spans, final, parts, reads, recovers, counts⟩ :=
    korean.decode_lineFeeds (by decide) rfl input
  refine ⟨decoded, readable, text, next, spans, final, parts, reads, recovers, ?_⟩
  obtain ⟨shown, same, count⟩ := counts .replace (by decide)
  obtain rfl := Except.ok.inj (decoded.symm.trans same)
  exact Nat.add_left_cancel (count : 1 + _ = 1 + 1)

/-- Damage at the end of a line can join it to the next. A line feed behind the first byte of a pair
is not shown, and it leaves the locking shift in force. -/
theorem decode_joined_lines :
    ((japanese.withRecovery .replace).decode [0x1B, 0x24, 0x42, 0x24, 0x0A] = .ok ['\uFFFD'] ∧
      ['\uFFFD'].count '\n' < [0x1B, 0x24, 0x42, 0x24, 0x0A].count lineFeed) ∧
    ((korean.withRecovery .ignore).decode [0x1B, 0x24, 0x29, 0x43, 0x0E, 0x30, 0x0A, 0x41] =
        .ok [] ∧
      [].count '\n' < [0x1B, 0x24, 0x29, 0x43, 0x0E, 0x30, 0x0A, 0x41].count lineFeed) := by
  refine ⟨⟨?_, by decide⟩, ?_, by decide⟩
  · refine (japanese.decode_pair_lineFeed .replace [0x1B, 0x24, 0x42] 0x24 (by decide) rfl
      (by decide) (by decide) (by decide) (by decide +kernel) (by decide +kernel) []).trans ?_
    decide +kernel
  · refine (korean.decode_pair_lineFeed .ignore [0x1B, 0x24, 0x29, 0x43, 0x0E] 0x30 (by decide) rfl
      (by decide) (by decide) (by decide) (by decide +kernel) (by decide +kernel)
      [0x41]).trans ?_
    decide +kernel

end Published

end CodeExtension
