import SpanEdit.Proofs.Replay
import SpanEdit.Proofs.Uniqueness

/-!
Separating by a run whose predicate is pure. The matches are cut from the maximal runs: without a
greatest number each one that is long enough is matched as a whole, and with one it is cut from its
left into pieces of that number, and what is left over is matched if it is long enough.
-/

namespace SpanEdit

variable {World : Type} {satisfies : Tokens → Bool} {tokens : Tokens}

/-- The tokens of the range satisfy the predicate, and there is no longer such range around it that
begins at `origin` or behind it. -/
structure MaximalRun (satisfies : Tokens → Bool) (tokens : Tokens) (origin first last : Nat) :
    Prop where
  reached : origin ≤ first
  nonempty : first < last
  inside : last ≤ tokens.size
  satisfied : ∀ place, first ≤ place → place < last → satisfies (tokens.token place) = true
  before : origin < first → satisfies (tokens.token (first - 1)) = false
  behind : last < tokens.size → satisfies (tokens.token last) = false

inductive Run.Piece (least : Nat) : Option Nat → Nat → Nat → Nat → Prop
  | whole {length : Nat} : max least 1 ≤ length → Piece least none length 0 length
  | chunk {most length index : Nat} : 0 < most → index < length / most →
      Piece least (some most) length (index * most) ((index + 1) * most)
  | rest {most length : Nat} : 0 < most → max least 1 ≤ length % most →
      Piece least (some most) length (length / most * most) length

/-- The matches that are cut from the maximal runs behind `origin`. -/
inductive Run.Cut (satisfies : Tokens → Bool) (least : Nat) (most : Option Nat) (tokens : Tokens)
    (origin : Nat) : Segment Tokens → Prop
  | piece {first last start stop : Nat} : MaximalRun satisfies tokens origin first last →
      Piece least most (last - first) start stop →
      Cut satisfies least most tokens origin
        (.matched (tokens.slice (first + start) (first + stop)) (first + start : Nat)
          (first + stop : Nat))

namespace MaximalRun

variable {origin position first last stop : Nat}

theorem not_of_finished (finished : tokens.size ≤ origin) :
    ¬MaximalRun satisfies tokens origin first last := by
  intro run
  have reached := run.reached
  have nonempty := run.nonempty
  have inside := run.inside
  omega

theorem succ_iff (unsatisfied : satisfies (tokens.token origin) = false) :
    MaximalRun satisfies tokens origin first last ↔
      MaximalRun satisfies tokens (origin + 1) first last := by
  constructor
  · intro run
    have differs : first ≠ origin := by
      rintro rfl
      have satisfied := run.satisfied first (Nat.le_refl first) run.nonempty
      rw [unsatisfied] at satisfied
      cases satisfied
    have reached := run.reached
    exact ⟨by omega, run.nonempty, run.inside, run.satisfied, fun _ => run.before (by omega),
      run.behind⟩
  · intro run
    refine ⟨Nat.le_of_succ_le run.reached, run.nonempty, run.inside, run.satisfied, ?_, run.behind⟩
    intro _
    by_cases next : first = origin + 1
    · rw [next]
      exact unsatisfied
    · have reached := run.reached
      exact run.before (by omega)

/-- From inside a run on, the maximal runs are what is left of it and those behind it. -/
theorem iff_of_satisfied (ordered : position ≤ stop) (within : stop ≤ tokens.size)
    (satisfied : ∀ place, position ≤ place → place < stop →
      satisfies (tokens.token place) = true)
    (ends : stop < tokens.size → satisfies (tokens.token stop) = false) :
    MaximalRun satisfies tokens position first last ↔
      (position < stop ∧ first = position ∧ last = stop) ∨
        MaximalRun satisfies tokens stop first last := by
  constructor
  · intro run
    have reached := run.reached
    have nonempty := run.nonempty
    have inside := run.inside
    by_cases here : first = position ∧ position < stop
    · obtain ⟨rfl, unfinished⟩ := here
      have notBefore : ¬last < stop := by
        intro shorter
        have behind := run.behind (by omega)
        rw [satisfied last (by omega) shorter] at behind
        cases behind
      have notBehind : ¬stop < last := by
        intro longer
        have ended := ends (by omega)
        rw [run.satisfied stop ordered longer] at ended
        cases ended
      exact .inl ⟨unfinished, rfl, by omega⟩
    · have beyond : stop ≤ first := by
        by_contra inner
        have before := run.before (by omega)
        rw [satisfied (first - 1) (by omega) (by omega)] at before
        cases before
      exact .inr ⟨beyond, nonempty, inside, run.satisfied, fun _ => run.before (by omega),
        run.behind⟩
  · rintro (⟨unfinished, rfl, rfl⟩ | run)
    · exact ⟨Nat.le_refl _, unfinished, within, satisfied, fun impossible => by omega, ends⟩
    · have reached := run.reached
      refine ⟨by omega, run.nonempty, run.inside, run.satisfied, ?_, run.behind⟩
      intro _
      by_cases here : first = stop
      · have started := run.satisfied first (Nat.le_refl first) run.nonempty
        have ended := ends (Nat.lt_of_lt_of_le (here ▸ run.nonempty) run.inside)
        rw [← here, started] at ended
        cases ended
      · exact run.before (by omega)

end MaximalRun

namespace Run

section Extents

variable {limit position : Nat}

theorem satisfied_of_extent {place : Nat} (above : position ≤ place)
    (below : place < extent satisfies tokens limit position) :
    satisfies (tokens.token place) = true := by
  fun_induction extent satisfies tokens limit position with
  | case1 position unfinished satisfied ih =>
      by_cases here : place = position
      · rw [here]
        exact satisfied
      · exact ih (by omega) below
  | case2 => omega
  | case3 => omega

theorem unsatisfied_extent (within : extent satisfies tokens limit position < limit) :
    satisfies (tokens.token (extent satisfies tokens limit position)) = false := by
  fun_induction extent satisfies tokens limit position with
  | case1 position unfinished satisfied ih => exact ih within
  | case2 position unfinished unsatisfied => simpa using unsatisfied
  | case3 position finished => omega

theorem extent_min (ordered : position ≤ limit) (inside : limit ≤ tokens.size) :
    extent satisfies tokens limit position =
      min (extent satisfies tokens tokens.size position) limit := by
  fun_induction extent satisfies tokens limit position with
  | case1 position unfinished satisfied ih =>
      have further : position < tokens.size := by omega
      rw [ih unfinished, extent.eq_def satisfies tokens tokens.size position, if_pos further,
        if_pos satisfied]
  | case2 position unfinished unsatisfied =>
      have further : position < tokens.size := by omega
      rw [extent, if_pos further, if_neg unsatisfied, Nat.min_eq_left ordered]
  | case3 position finished =>
      have bounds := extent_bounds satisfies tokens (Nat.le_trans ordered inside)
      omega

end Extents

def taken (most : Option Nat) (length : Nat) : Nat :=
  match most with
  | some most => min length most
  | none => length

section Pieces

variable {least length start stop : Nat} {most : Option Nat}

theorem taken_le (most : Option Nat) (length : Nat) : taken most length ≤ length := by
  cases most with
  | none => exact Nat.le_refl length
  | some most => exact Nat.min_le_left length most

theorem not_piece_zero : ¬Piece least most 0 start stop := by
  intro piece
  cases piece with
  | whole long => omega
  | chunk positive few =>
      rw [Nat.zero_div] at few
      omega
  | rest positive long =>
      rw [Nat.zero_mod] at long
      omega

/-- Where nothing is taken from a run, nothing is taken from a shorter one. -/
theorem not_piece_of_short (bounds : ∀ limit, most = some limit → least ≤ limit)
    (short : taken most length < max least 1) {other : Nat} (shorter : other ≤ length) :
    ¬Piece least most other start stop := by
  intro piece
  cases piece with
  | whole long =>
      rw [taken] at short
      omega
  | @chunk limit other index positive few =>
      have ordered := bounds limit rfl
      rw [taken] at short
      have below : other < limit := by omega
      rw [Nat.div_eq_of_lt below] at few
      omega
  | @rest limit _ positive long =>
      have ordered := bounds limit rfl
      rw [taken] at short
      have below : stop < limit := by omega
      rw [Nat.mod_eq_of_lt below] at long
      omega

theorem piece_iff_of_le {limit : Nat} (positive : 0 < limit) (full : limit ≤ length) :
    Piece least (some limit) length start stop ↔ (start = 0 ∧ stop = limit) ∨
      ∃ first last, Piece least (some limit) (length - limit) first last ∧
        start = limit + first ∧ stop = limit + last := by
  have quotient : length / limit = (length - limit) / limit + 1 :=
    Nat.div_eq_sub_div positive full
  have remainder : length % limit = (length - limit) % limit := Nat.mod_eq_sub_mod full
  have shift (index : Nat) : (index + 1) * limit = limit + index * limit := by
    rw [Nat.succ_mul, Nat.add_comm]
  constructor
  · intro piece
    cases piece with
    | @chunk _ _ index _ few =>
        cases index with
        | zero => exact .inl ⟨Nat.zero_mul limit, Nat.one_mul limit⟩
        | succ index =>
            exact .inr ⟨index * limit, (index + 1) * limit, .chunk positive (by omega),
              shift index, shift (index + 1)⟩
    | rest _ long =>
        refine .inr ⟨_, _, .rest positive (remainder ▸ long), ?_, by omega⟩
        rw [quotient, shift]
  · rintro (⟨rfl, rfl⟩ | ⟨first, last, piece, rfl, rfl⟩)
    · have few : 0 < length / stop := quotient ▸ Nat.succ_pos _
      have whole : Piece least (some stop) length (0 * stop) ((0 + 1) * stop) :=
        .chunk positive few
      rwa [Nat.zero_mul, Nat.zero_add, Nat.one_mul] at whole
    · cases piece with
      | @chunk _ _ index _ few =>
          rw [← shift, ← shift]
          exact .chunk positive (by omega)
      | rest _ long =>
          rw [← shift, ← quotient, Nat.add_sub_of_le full]
          exact .rest positive (remainder ▸ long)

theorem piece_iff_of_lt {limit : Nat} (long : max least 1 ≤ length) (short : length < limit) :
    Piece least (some limit) length start stop ↔ start = 0 ∧ stop = length := by
  have quotient : length / limit = 0 := Nat.div_eq_of_lt short
  have remainder : length % limit = length := Nat.mod_eq_of_lt short
  constructor
  · intro piece
    cases piece with
    | chunk positive few => omega
    | rest => exact ⟨by rw [quotient, Nat.zero_mul], rfl⟩
  · rintro ⟨rfl, rfl⟩
    have rest : Piece least (some limit) stop (stop / limit * limit) stop :=
      .rest (by omega) (by rwa [remainder])
    rwa [quotient, Nat.zero_mul] at rest

/-- The pieces of a run are the one that is taken first and those of what is left. -/
theorem piece_iff (long : max least 1 ≤ taken most length) :
    Piece least most length start stop ↔ (start = 0 ∧ stop = taken most length) ∨
      ∃ first last, Piece least most (length - taken most length) first last ∧
        start = taken most length + first ∧ stop = taken most length + last := by
  cases most with
  | none =>
      rw [taken] at long ⊢
      rw [Nat.sub_self]
      constructor
      · intro piece
        cases piece with
        | whole => exact .inl ⟨rfl, rfl⟩
      · rintro (⟨rfl, rfl⟩ | ⟨first, last, piece, -⟩)
        · exact .whole long
        · exact absurd piece not_piece_zero
  | some limit =>
      rw [taken] at long ⊢
      by_cases full : limit ≤ length
      · rw [Nat.min_eq_right full] at long ⊢
        exact piece_iff_of_le (by omega) full
      · have short : length < limit := by omega
        rw [Nat.min_eq_left short.le] at long ⊢
        rw [piece_iff_of_lt long short, Nat.sub_self]
        constructor
        · exact .inl
        · rintro (here | ⟨first, last, piece, -⟩)
          · exact here
          · exact absurd piece not_piece_zero

end Pieces

section Cuts

variable {least : Nat} {most : Option Nat} {position stop : Nat} {segment : Segment Tokens}

theorem cut_succ_iff (unsatisfied : satisfies (tokens.token position) = false) :
    Cut satisfies least most tokens position segment ↔
      Cut satisfies least most tokens (position + 1) segment := by
  constructor
  · rintro ⟨run, piece⟩
    exact .piece ((MaximalRun.succ_iff unsatisfied).mp run) piece
  · rintro ⟨run, piece⟩
    exact .piece ((MaximalRun.succ_iff unsatisfied).mpr run) piece

/-- From inside a run on, the matches are the pieces of what is left of it and those behind it. -/
theorem cut_iff (ordered : position ≤ stop) (within : stop ≤ tokens.size)
    (satisfied : ∀ place, position ≤ place → place < stop →
      satisfies (tokens.token place) = true)
    (ends : stop < tokens.size → satisfies (tokens.token stop) = false) :
    Cut satisfies least most tokens position segment ↔
      (∃ first last, Piece least most (stop - position) first last ∧
        segment = .matched (tokens.slice (position + first) (position + last))
          (position + first : Nat) (position + last : Nat)) ∨
      Cut satisfies least most tokens stop segment := by
  constructor
  · rintro ⟨run, piece⟩
    obtain ⟨-, rfl, rfl⟩ | later :=
      (MaximalRun.iff_of_satisfied ordered within satisfied ends).mp run
    · exact .inl ⟨_, _, piece, rfl⟩
    · exact .inr (.piece later piece)
  · rintro (⟨first, last, piece, rfl⟩ | ⟨run, piece⟩)
    · have unfinished : position < stop := by
        by_contra finished
        rw [Nat.sub_eq_zero_of_le (by omega)] at piece
        exact not_piece_zero piece
      have run := (MaximalRun.iff_of_satisfied ordered within satisfied ends).mpr
        (.inl ⟨unfinished, rfl, rfl⟩)
      exact .piece run piece
    · have run := (MaximalRun.iff_of_satisfied ordered within satisfied ends).mpr (.inr run)
      exact .piece run piece

theorem cut_within {place : Nat} (unfinished : position ≤ tokens.size) (reached : position ≤ place)
    (inner : place ≤ extent satisfies tokens tokens.size position) :
    Cut satisfies least most tokens place segment ↔
      (∃ first last,
        Piece least most (extent satisfies tokens tokens.size position - place) first last ∧
        segment = .matched (tokens.slice (place + first) (place + last))
          (place + first : Nat) (place + last : Nat)) ∨
      Cut satisfies least most tokens (extent satisfies tokens tokens.size position) segment := by
  obtain ⟨-, within⟩ := extent_bounds satisfies tokens unfinished
  exact cut_iff inner within (fun _ above => satisfied_of_extent (Nat.le_trans reached above))
    unsatisfied_extent

/-- Where the scan takes nothing, the matches are those behind the next token. -/
theorem cut_of_short (bounds : ∀ limit, most = some limit → least ≤ limit)
    (unfinished : position < tokens.size)
    (short : taken most (extent satisfies tokens tokens.size position - position) <
      max least 1) :
    Cut satisfies least most tokens position segment ↔
      Cut satisfies least most tokens (position + 1) segment := by
  obtain ⟨ordered, within⟩ := extent_bounds satisfies tokens unfinished.le
  by_cases empty : extent satisfies tokens tokens.size position = position
  · have unsatisfied : satisfies (tokens.token _) = false :=
      unsatisfied_extent (empty.symm ▸ unfinished)
    rw [empty] at unsatisfied
    exact cut_succ_iff unsatisfied
  · have nothing (first last length : Nat)
        (shorter : length ≤ extent satisfies tokens tokens.size position - position) :
        ¬Piece least most length first last := not_piece_of_short bounds short shorter
    rw [cut_within unfinished.le (Nat.le_refl position) ordered,
      cut_within unfinished.le (Nat.le_succ position) (by omega)]
    constructor
    · rintro (⟨first, last, piece, -⟩ | later)
      · exact absurd piece (nothing first last _ (Nat.le_refl _))
      · exact .inr later
    · rintro (⟨first, last, piece, -⟩ | later)
      · exact absurd piece (nothing first last _ (by omega))
      · exact .inr later

/-- Where the scan takes tokens, they are the first match, and the others lie behind it. -/
theorem cut_of_long {count : Nat} (unfinished : position < tokens.size)
    (takes : taken most (extent satisfies tokens tokens.size position - position) = count)
    (long : max least 1 ≤ count) :
    Cut satisfies least most tokens position segment ↔
      segment = .matched (tokens.slice position (position + count)) position
        (position + count : Nat) ∨
      Cut satisfies least most tokens (position + count) segment := by
  obtain ⟨ordered, within⟩ := extent_bounds satisfies tokens unfinished.le
  have fits : count ≤ extent satisfies tokens tokens.size position - position :=
    takes ▸ taken_le most _
  subst takes
  rw [cut_within unfinished.le (Nat.le_refl position) ordered,
    cut_within unfinished.le (Nat.le_add_right position _) (by omega), ← or_assoc]
  refine or_congr_left ?_
  simp only [piece_iff long, Nat.sub_add_eq]
  constructor
  · rintro ⟨_, _, ⟨rfl, rfl⟩ | ⟨first, last, piece, rfl, rfl⟩, rfl⟩
    · exact .inl rfl
    · refine .inr ⟨first, last, piece, ?_⟩
      simp only [Nat.add_assoc]
  · rintro (rfl | ⟨first, last, piece, rfl⟩)
    · exact ⟨0, _, .inl ⟨rfl, rfl⟩, rfl⟩
    · refine ⟨_, _, .inr ⟨first, last, piece, rfl, rfl⟩, ?_⟩
      simp only [Nat.add_assoc]

end Cuts

section Separating

variable {run : Run World} {position : Nat} {segment : Segment Tokens}

theorem verdict_eq (run : Run World) (unfinished : position < tokens.size) {count : Nat}
    (takes : taken run.atMost (extent satisfies tokens tokens.size position - position) = count) :
    run.verdict satisfies tokens position =
      if count < run.atLeast then none
      else some ⟨(position + count : Nat), tokens.slice position (position + count)⟩ := by
  obtain ⟨ordered, within⟩ := extent_bounds satisfies tokens unfinished.le
  have stops : extent satisfies tokens (run.limit tokens.size position) position =
      position + count := by
    subst takes
    cases most : run.atMost with
    | none =>
        simp only [limit, most, taken]
        omega
    | some most =>
        simp only [limit, most, taken]
        rw [extent_min (by omega) (by omega)]
        omega
  simp only [verdict, stops, Nat.add_sub_cancel_left]

theorem stop_of_verdict (run : Run World) (unfinished : position < tokens.size) :
    ∀ hit, run.verdict satisfies tokens position = some hit → position < hit.stop →
      hit.stop ≤ tokens.size := by
  intro hit answer _
  obtain ⟨ordered, within⟩ := extent_bounds satisfies tokens unfinished.le
  have fits := taken_le run.atMost (extent satisfies tokens tokens.size position - position)
  rw [verdict_eq run unfinished rfl] at answer
  split at answer
  · cases answer
  · cases answer
    simp only
    omega

theorem complete_reference (run : Run World) (satisfies : Tokens → Bool) (tokens : Tokens)
    (offset : Nat) :
    (reference tokens (fun place => .ok (run.verdict satisfies tokens place)) offset
      offset).ending = .complete :=
  reference_complete (fun _ within => ⟨_, rfl, stop_of_verdict run within⟩) offset offset

theorem isUnmatched_of_mem_gap {pending stop : Nat}
    (member : segment ∈ gap tokens pending stop) : segment.isUnmatched = true := by
  unfold gap at member
  split at member
  · rw [List.mem_singleton.mp member]
    rfl
  · cases member

/-- The matches that are still to come are the ones that are cut from the runs ahead. -/
theorem mem_reference_iff (bounds : ∀ limit, run.atMost = some limit → run.atLeast ≤ limit)
    (isMatch : segment.isUnmatched = false) (pending position : Nat) :
    segment ∈ (reference tokens (fun place => .ok (run.verdict satisfies tokens place))
        pending position).segments ↔
      Cut satisfies run.atLeast run.atMost tokens position segment := by
  have notGap (pending stop : Nat) : segment ∉ gap tokens pending stop := by
    intro member
    rw [isUnmatched_of_mem_gap member] at isMatch
    cases isMatch
  induction position using forwards tokens.size generalizing pending with
  | step position ih =>
      by_cases unfinished : position < tokens.size
      · obtain ⟨ordered, within⟩ := extent_bounds satisfies tokens unfinished.le
        obtain ⟨count, takes⟩ : ∃ count,
          taken run.atMost (extent satisfies tokens tokens.size position - position) = count :=
          ⟨_, rfl⟩
        have fits := taken_le run.atMost (extent satisfies tokens tokens.size position - position)
        rw [reference_eq_follow unfinished, verdict_eq run unfinished takes]
        -- Too few tokens are either refused or a success that consumes nothing, and either way the
        -- rest of the run is tried at its next token.
        by_cases short : count < max run.atLeast 1
        · have next := ih unfinished (position + 1) (Nat.lt_succ_self position) pending
          rw [cut_of_short bounds unfinished (takes ▸ short)]
          by_cases few : count < run.atLeast
          · rw [if_pos few]
            exact next
          · have still : ((position + count : Nat) : Int) ≤ position := by omega
            rw [if_neg few, Except.map, follow_still _ pending unfinished still]
            exact next
        · have later := ih unfinished (position + count) (by omega) (position + count)
          have consumes : (position : Int) < (position + count : Nat) := by omega
          have inside : ((position + count : Nat) : Int) ≤ tokens.size := by omega
          rw [if_neg (by omega), Except.map, follow_consuming _ pending consumes inside,
            cut_of_long unfinished takes (by omega)]
          simp only [Int.toNat_natCast, Report.segments_after, List.append_assoc, List.mem_append,
            notGap, List.singleton_append, List.mem_cons, false_or]
          exact or_congr_right later
      · rw [reference_finished (by omega)]
        refine iff_of_false (notGap pending tokens.size) ?_
        rintro ⟨run, -⟩
        exact MaximalRun.not_of_finished (by omega) run

/-- Separating by a run matches exactly what is cut from the maximal runs, and the tokens that are
left are unmatched. -/
theorem drain_cuts (satisfies : Tokens → Bool) {least : Nat} {most : Option Nat}
    (bounds : ∀ limit, most = some limit → least ≤ limit) (name : Option String)
    {tokens : Tokens} {offset : Nat} (inside : offset ≤ tokens.size) (world : World) :
    ∃ segments,
      (((⟨fun token => pure (satisfies token), least, most⟩ : Run World).pattern name).drain tokens
        offset).run [] world = (.ok (), segments, world) ∧
      Tiling tokens offset tokens.size segments ∧
      ∀ segment, segment.isUnmatched = false →
        (segment ∈ segments ↔ Cut satisfies least most tokens offset segment) := by
  obtain ⟨run, same⟩ : ∃ run : Run World,
    run = ⟨fun token => pure (satisfies token), least, most⟩ := ⟨_, rfl⟩
  have isPure : run.predicate = fun token => pure (satisfies token) := by rw [same]
  have complete := complete_reference run satisfies tokens offset
  have drained := (exact_pattern isPure name).run_drain inside [] world
  have separates := separates_reference (Nat.le_refl offset) inside (Barren.empty _ offset) complete
  rw [complete, List.nil_append] at drained
  subst same
  exact ⟨_, drained, separates.tiling,
    fun segment isMatch => mem_reference_iff bounds isMatch offset offset⟩

/-- Of five in a row, with two at a time, the second pair is the third and the fourth one. -/
theorem drain_cuts_pairs :
    (∀ limit, some 2 = some limit → 2 ≤ limit) ∧ 0 ≤ (Tokens.ofString "baaaaa").size ∧
    ∃ segments,
      (((⟨fun token => pure (decide (token = .ofString "a")), 2, some 2⟩ : Run Unit).pattern
        none).drain (.ofString "baaaaa") 0).run [] () = (.ok (), segments, ()) ∧
      Segment.matched (.ofString "aa") 3 5 ∈ segments := by
  have bounds : ∀ limit, some 2 = some limit → 2 ≤ limit := by
    rintro limit ⟨⟩
    exact Nat.le_refl 2
  have inside : 0 ≤ (Tokens.ofString "baaaaa").size := Nat.zero_le _
  obtain ⟨segments, drained, -, cuts⟩ :=
    drain_cuts (fun token => decide (token = .ofString "a")) bounds none inside ()
  refine ⟨bounds, inside, segments, drained, (cuts _ rfl).mpr ?_⟩
  have run : MaximalRun (fun token => decide (token = .ofString "a")) (.ofString "baaaaa") 0 1
      6 := by
    constructor <;> decide
  have pair : Piece 2 (some 2) (6 - 1) (1 * 2) ((1 + 1) * 2) := .chunk (by decide) (by decide)
  exact .piece run pair

end Separating

end Run

end SpanEdit
