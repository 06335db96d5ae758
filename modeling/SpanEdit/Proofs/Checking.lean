import SpanEdit.Proofs.Pausing
import SpanEdit.Proofs.Piecewise

/-!
What the check of the coverage accepts. Given any segments, an edit refuses those that do not cover
the input, and calls its editor up to the first place where that shows. The segments of a separation
it never refuses.
-/

namespace SpanEdit

variable {World α β S : Type}

/-- The segments lie side by side between two places, none is empty, and no two unmatched ones are
adjacent. -/
structure Covers (start stop : Int) (segments : List (Segment α)) : Prop where
  adjoining : Adjoining start stop segments
  nonempty : ∀ segment ∈ segments, segment.start < segment.stop
  coalesced : segments.IsChain fun first second => ¬(first.isUnmatched ∧ second.isUnmatched)

/-- The fault says that segments do not cover an input. -/
def Fault.IsInvariant : Fault → Prop
  | .misplaced _ _ _ _ | .adjacentUnmatched _ | .incomplete _ _ => True
  | _ => False

theorem covers_cons {start stop : Int} {segment : Segment α} {rest : List (Segment α)} :
    Covers start stop (segment :: rest) ↔
      segment.start = start ∧ segment.start < segment.stop ∧ Covers segment.stop stop rest ∧
        ∀ next ∈ rest.head?, ¬(segment.isUnmatched ∧ next.isUnmatched) := by
  constructor
  · rintro ⟨⟨placed, adjoining⟩, nonempty, coalesced⟩
    obtain ⟨consumes, others⟩ := List.forall_mem_cons.mp nonempty
    refine ⟨placed, consumes, ⟨adjoining, others, coalesced.of_cons⟩, ?_⟩
    intro next first
    obtain ⟨more, rfl⟩ := List.head?_eq_some_iff.mp first
    exact (List.isChain_cons_cons.mp coalesced).1
  · rintro ⟨placed, consumes, covers, isolated⟩
    refine ⟨⟨placed, covers.adjoining⟩, List.forall_mem_cons.mpr ⟨consumes, covers.nonempty⟩, ?_⟩
    cases rest with
    | nil => exact .singleton segment
    | cons next more =>
        exact List.isChain_cons_cons.mpr ⟨isolated next rfl, covers.coalesced⟩

/-- A message can quote the segment and its place. -/
def Segment.IsTold [Shows α] (segment : Segment α) : Prop :=
  (∃ text?, segment.shown = .ok text?) ∧ Text.Numeral.isTooLong segment.start = false ∧
    Text.Numeral.isTooLong segment.stop = false

theorem Segment.isTold_matched [Shows α] {value : α} {start stop : Int} {text? : Option String}
    (shown : Shows.shown value = .ok text?) (first : Text.Numeral.isTooLong start = false)
    (last : Text.Numeral.isTooLong stop = false) : (matched value start stop).IsTold := by
  refine ⟨⟨text?.map fun text => s!"Matched(value={text}, start={start}, stop={stop})", ?_⟩,
    first, last⟩
  simp only [Segment.shown, shown, written, first, last]
  rfl

theorem Segment.isTold_unmatched [Shows α] {text : Tokens} {start : Int}
    (first : Text.Numeral.isTooLong start = false)
    (last : Text.Numeral.isTooLong (start + text.size) = false) :
    (unmatched text start : Segment α).IsTold := by
  refine ⟨⟨(Value.unmatched text start).expression?, ?_⟩, first, last⟩
  simp only [Segment.shown, SpanEdit.shown, Value.isTooLong, first]
  rfl

theorem Covers.end_cases {start stop : Int} {segments : List (Segment α)}
    (covers : Covers start stop segments) : stop = start ∨ ∃ last ∈ segments, last.stop = stop := by
  induction segments generalizing start with
  | nil => exact .inl covers.adjoining.symm
  | cons segment rest ih =>
      obtain ⟨-, -, later, -⟩ := covers_cons.mp covers
      rcases ih later with same | ⟨last, member, same⟩
      · exact .inr ⟨segment, List.mem_cons_self, same.symm⟩
      · exact .inr ⟨last, List.mem_cons_of_mem segment member, same⟩

/-- What is wrong with segments. -/
inductive Flaw (α : Type) where
  /-- A segment that is empty, or does not begin where the one before it ended. -/
  | misplaced (segment : Segment α) (expected : Int)
  /-- Two unmatched segments that meet. -/
  | adjacent (offset : Int)
  /-- The last segment does not end with the input. -/
  | incomplete (stop : Int)

namespace Flaw

def IsIn (size : Nat) (segments : List (Segment α)) : Flaw α → Prop
  | misplaced segment expected => ∃ before rest, segments = before ++ segment :: rest ∧
      Covers 0 expected before ∧ (segment.start ≠ expected ∨ segment.stop ≤ segment.start)
  | adjacent offset => ∃ before last segment rest, segments = before ++ last :: segment :: rest ∧
      Covers 0 offset (before ++ [last]) ∧ segment.start = offset ∧ segment.start < segment.stop ∧
      last.isUnmatched ∧ segment.isUnmatched
  | incomplete stop => Covers 0 stop segments ∧ stop ≠ size

inductive Fails [Shows α] (size : Nat) : Flaw α → Fault → Prop
  | misplaced {segment : Segment α} {expected : Int} {text? : Option String} :
      segment.shown = .ok text? → Text.Numeral.isTooLong segment.start = false →
      Text.Numeral.isTooLong segment.stop = false → Text.Numeral.isTooLong expected = false →
      Fails size (.misplaced segment expected)
        (.misplaced text? segment.start segment.stop expected)
  | unshown {segment : Segment α} {expected : Int} {cause : Fault} : segment.shown = .error cause →
      Fails size (.misplaced segment expected) (cause.leaving .generator)
  | unplaced {segment : Segment α} {expected : Int} {text? : Option String} :
      segment.shown = .ok text? → (Text.Numeral.isTooLong segment.start = true ∨
        Text.Numeral.isTooLong segment.stop = true ∨ Text.Numeral.isTooLong expected = true) →
      Fails size (.misplaced segment expected) tooLong
  | adjacent {offset : Int} : Text.Numeral.isTooLong offset = false →
      Fails size (.adjacent offset) (.adjacentUnmatched offset)
  | unwrittenOffset {offset : Int} : Text.Numeral.isTooLong offset = true →
      Fails size (.adjacent offset) tooLong
  | incomplete {stop : Int} : Text.Numeral.isTooLong stop = false →
      Fails size (.incomplete stop) (.incomplete stop size)
  | unwrittenStop {stop : Int} : Text.Numeral.isTooLong stop = true →
      Fails size (.incomplete stop) tooLong

variable [Shows α]

theorem fails_misplacing (size : Nat) (segment : Segment α) (expected : Int) :
    Fails size (.misplaced segment expected) (.misplacing segment expected) := by
  unfold Fault.misplacing written
  cases text : segment.shown with
  | error cause => exact .unshown text
  | ok text? =>
      cases first : Text.Numeral.isTooLong segment.start with
      | true => exact .unplaced text (.inl first)
      | false =>
          cases last : Text.Numeral.isTooLong segment.stop with
          | true => exact .unplaced text (.inr (.inl last))
          | false =>
              cases place : Text.Numeral.isTooLong expected with
              | true => exact .unplaced text (.inr (.inr place))
              | false => exact .misplaced text first last place

theorem fails_adjoining (size : Nat) (offset : Int) :
    Fails size (.adjacent offset : Flaw α) (.adjoining offset) := by
  unfold Fault.adjoining written
  cases long : Text.Numeral.isTooLong offset with
  | true => exact .unwrittenOffset long
  | false => exact .adjacent long

theorem fails_stopping (size : Nat) (stop : Int) :
    Fails size (.incomplete stop : Flaw α) (.stopping stop size) := by
  unfold Fault.stopping written
  cases long : Text.Numeral.isTooLong stop with
  | true => exact .unwrittenStop long
  | false => exact .incomplete long

theorem Fails.isInvariant {size : Nat} {segments : List (Segment α)} {flaw : Flaw α} {fault : Fault}
    (fails : flaw.Fails size fault) (found : flaw.IsIn size segments)
    (told : ∀ segment ∈ segments, segment.IsTold) : fault.IsInvariant := by
  have ends {stop : Int} {before : List (Segment α)} (covers : Covers 0 stop before)
      (among : ∀ segment ∈ before, segment ∈ segments) : Text.Numeral.isTooLong stop = false := by
    rcases covers.end_cases with rfl | ⟨last, member, rfl⟩
    · decide +kernel
    · exact (told last (among last member)).2.2
  cases fails with
  | misplaced => trivial
  | adjacent => trivial
  | incomplete => trivial
  | @unshown segment expected cause silent =>
      obtain ⟨before, rest, rfl, -⟩ := found
      obtain ⟨⟨text?, shown⟩, -⟩ := told segment (by simp)
      rw [silent] at shown
      cases shown
  | @unplaced segment expected text? shown long =>
      obtain ⟨before, rest, rfl, covers, -⟩ := found
      obtain ⟨-, first, last⟩ := told segment (by simp)
      have place := ends covers fun other member => List.mem_append_left _ member
      simp [first, last, place] at long
  | @unwrittenOffset offset long =>
      obtain ⟨before, last, segment, rest, rfl, -, rfl, -⟩ := found
      simp [(told segment (by simp)).2.1] at long
  | @unwrittenStop stop long =>
      simp [ends found.1 fun other member => member] at long

end Flaw

namespace Coverage

variable {coverage : Coverage} {segment : Segment α} {segments rest : List (Segment α)} {stop : Int}

def Accepts (coverage : Coverage) (stop : Int) (segments : List (Segment α)) : Prop :=
  Covers coverage.expected stop segments ∧
    ∀ first ∈ segments.head?, ¬(coverage.afterUnmatched ∧ first.isUnmatched)

theorem accepts_start : start.Accepts stop segments ↔ Covers 0 stop segments := by
  simp [Accepts, start]

variable [Shows α]

def check (coverage : Coverage) : List (Segment α) →
    List (Segment α) × Except Fault Coverage
  | [] => ([], .ok coverage)
  | segment :: rest =>
      match coverage.advance segment with
      | .error fault => ([], .error fault)
      | .ok next => (segment :: (next.check rest).1, (next.check rest).2)

theorem advance_eq_ok_iff {next : Coverage} : coverage.advance segment = .ok next ↔
    segment.start = coverage.expected ∧ segment.start < segment.stop ∧
      ¬(coverage.afterUnmatched ∧ segment.isUnmatched) ∧
      next = ⟨segment.stop, segment.isUnmatched⟩ := by
  by_cases placed : segment.start ≠ coverage.expected ∨ segment.stop ≤ segment.start
  · simp only [advance, placed, ↓reduceIte, reduceCtorEq, false_iff]
    omega
  · have begins : segment.start = coverage.expected := by omega
    have consumes : segment.start < segment.stop := by omega
    by_cases adjacent : coverage.afterUnmatched = true ∧ segment.isUnmatched = true
    · simp [advance, placed, adjacent]
    · have apart : ¬(segment.isUnmatched && coverage.afterUnmatched) = true := by
        rwa [Bool.and_eq_true, and_comm]
      rw [advance, if_neg placed, if_neg apart]
      constructor
      · rintro ⟨⟩
        exact ⟨begins, consumes, adjacent, rfl⟩
      · rintro ⟨-, -, -, rfl⟩
        rfl

theorem advance_eq_error {fault : Fault} (refused : coverage.advance segment = .error fault) :
    ((segment.start ≠ coverage.expected ∨ segment.stop ≤ segment.start) ∧
      fault = .misplacing segment coverage.expected) ∨
    (segment.start = coverage.expected ∧ segment.start < segment.stop ∧
      segment.isUnmatched = true ∧ coverage.afterUnmatched = true ∧
      fault = .adjoining segment.start) := by
  unfold advance at refused
  split at refused
  · exact .inl ⟨‹_›, (Except.error.inj refused).symm⟩
  · split at refused
    · rename_i placed adjacent
      obtain ⟨unmatched, after⟩ := (Bool.and_eq_true _ _).mp adjacent
      exact .inr ⟨by omega, by omega, unmatched, after, (Except.error.inj refused).symm⟩
    · cases refused

theorem accepts_cons : coverage.Accepts stop (segment :: rest) ↔
    ∃ next, coverage.advance segment = .ok next ∧ next.Accepts stop rest := by
  simp only [Accepts, covers_cons, advance_eq_ok_iff, List.head?_cons, Option.mem_some_iff,
    forall_eq']
  constructor
  · rintro ⟨⟨placed, consumes, covers, isolated⟩, apart⟩
    exact ⟨_, ⟨placed, consumes, apart, rfl⟩, covers, isolated⟩
  · rintro ⟨next, ⟨placed, consumes, apart, rfl⟩, covers, isolated⟩
    exact ⟨⟨placed, consumes, covers, isolated⟩, apart⟩

theorem check_prefix : (coverage.check segments).1 <+: segments := by
  induction segments generalizing coverage with
  | nil => exact List.prefix_rfl
  | cons segment rest ih =>
      rw [check]
      cases advanced : coverage.advance segment with
      | error fault => exact List.nil_prefix
      | ok next => exact List.prefix_cons_inj segment |>.mpr ih

theorem accepts_check : ∃ stop, coverage.Accepts stop (coverage.check segments).1 := by
  induction segments generalizing coverage with
  | nil => exact ⟨coverage.expected, ⟨rfl, nofun, .nil⟩, nofun⟩
  | cons segment rest ih =>
      rw [check]
      cases advanced : coverage.advance segment with
      | error fault => exact ⟨coverage.expected, ⟨rfl, nofun, .nil⟩, nofun⟩
      | ok next =>
          obtain ⟨stop, accepts⟩ : ∃ stop, next.Accepts stop (next.check rest).1 := ih
          exact ⟨stop, accepts_cons.mpr ⟨next, advanced, accepts⟩⟩

theorem prefix_check {others : List (Segment α)} (isPrefix : others <+: segments)
    (accepts : coverage.Accepts stop others) : others <+: (coverage.check segments).1 := by
  induction segments generalizing coverage others with
  | nil =>
      rw [List.prefix_nil.mp isPrefix]
      exact List.nil_prefix
  | cons segment rest ih =>
      cases others with
      | nil => exact List.nil_prefix
      | cons first others =>
          obtain ⟨rfl, shorter⟩ := List.cons_prefix_cons.mp isPrefix
          obtain ⟨next, advanced, accepts⟩ := accepts_cons.mp accepts
          rw [check, advanced]
          exact List.cons_prefix_cons.mpr ⟨rfl, ih shorter accepts⟩

theorem not_accepts_of_check {fault : Fault}
    (refused : (coverage.check segments).2 = .error fault) :
    ¬coverage.Accepts stop segments := by
  induction segments generalizing coverage with
  | nil => cases refused
  | cons segment rest ih =>
      rw [check] at refused
      rw [accepts_cons]
      rintro ⟨next, advanced, accepts⟩
      rw [advanced] at refused
      exact ih refused accepts

theorem check_stopped {fault : Fault} (refused : (coverage.check segments).2 = .error fault) :
    ∃ segment rest now, segments = (coverage.check segments).1 ++ segment :: rest ∧
      (coverage.check (coverage.check segments).1).2 = .ok now ∧
      now.advance segment = .error fault := by
  induction segments generalizing coverage with
  | nil => cases refused
  | cons segment rest ih =>
      rw [check] at refused ⊢
      cases advanced : coverage.advance segment with
      | error other =>
          rw [advanced] at refused
          cases refused
          exact ⟨segment, rest, coverage, rfl, rfl, advanced⟩
      | ok next =>
          rw [advanced] at refused
          obtain ⟨last, more, now, same, checked, stopped⟩ := ih refused
          refine ⟨last, more, now, congrArg (segment :: ·) same, ?_, stopped⟩
          rw [check, advanced]
          exact checked

theorem check_last {now : Coverage} (checked : (coverage.check segments).2 = .ok now)
    (unmatched : now.afterUnmatched = true) :
    (segments = [] ∧ coverage.afterUnmatched = true) ∨
      ∃ before last, segments = before ++ [last] ∧ last.isUnmatched = true := by
  induction segments generalizing coverage with
  | nil =>
      cases checked
      exact .inl ⟨rfl, unmatched⟩
  | cons segment rest ih =>
      rw [check] at checked
      cases advanced : coverage.advance segment with
      | error fault =>
          rw [advanced] at checked
          cases checked
      | ok next =>
          rw [advanced] at checked
          rcases ih checked with ⟨rfl, after⟩ | ⟨before, last, rfl, kind⟩
          · obtain ⟨-, -, -, rfl⟩ := advance_eq_ok_iff.mp advanced
            exact .inr ⟨[], segment, rfl, after⟩
          · exact .inr ⟨segment :: before, last, rfl, kind⟩

theorem check_ok {now : Coverage} (checked : (coverage.check segments).2 = .ok now) :
    coverage.Accepts stop segments ↔ now.expected = stop := by
  induction segments generalizing coverage with
  | nil =>
      cases checked
      constructor
      · rintro ⟨⟨reached, -, -⟩, -⟩
        exact reached
      · intro reached
        exact ⟨⟨reached, by simp, .nil⟩, by simp⟩
  | cons segment rest ih =>
      rw [check] at checked
      rw [accepts_cons]
      cases advanced : coverage.advance segment with
      | error fault =>
          rw [advanced] at checked
          cases checked
      | ok next =>
          rw [advanced] at checked
          simp only [Except.ok.injEq, exists_eq_left']
          exact ih checked

/-- The check stops at the first thing that is wrong. -/
theorem exists_flaw {fault : Fault} (size : Nat)
    (refused : (start.check segments).2 = .error fault) :
    ∃ flaw : Flaw α, flaw.IsIn size segments ∧ flaw.Fails size fault := by
  obtain ⟨segment, rest, now, same, checked, stopped⟩ := check_stopped refused
  have covers : Covers 0 now.expected (start.check segments).1 :=
    accepts_start.mp ((check_ok checked).mpr rfl)
  rcases advance_eq_error stopped with
    ⟨placed, comes⟩ | ⟨begins, consumes, unmatched, after, comes⟩
  · refine ⟨.misplaced segment now.expected, ⟨_, rest, same, covers, placed⟩, ?_⟩
    rw [comes]
    exact Flaw.fails_misplacing size segment now.expected
  · rcases check_last checked after with ⟨-, impossible⟩ | ⟨before, last, ends, kind⟩
    · cases impossible
    · rw [ends] at same covers
      refine ⟨.adjacent segment.start, ⟨before, last, segment, rest, ?_, ?_, rfl, consumes, kind,
        unmatched⟩, ?_⟩
      · rw [same, List.append_assoc, List.singleton_append]
      · rwa [begins]
      · rw [comes]
        exact Flaw.fails_adjoining size segment.start

end Coverage

section Given

variable [Shows α] {editor : α → Eff World Output}

theorem editSegments_eq_forIn [Journal World] (segments : List (Segment α))
    (editor : α → Eff World Output) (tokens : Tokens) :
    editSegments segments editor tokens = (do
      let state ← forIn segments (Coverage.start, Splice.empty) (spliceStep tokens editor)
      Eff.ofExcept (state.1.close tokens.size)
      state.2.finish tokens) := by
  unfold editSegments spliced
  simp only [bind_assoc, pure_bind]
  rfl

/-- The loop over given segments comes as far as the check does, and calls its editor on the way. -/
theorem forIn_spliceStep (total : NeverFails editor) (tokens : Tokens)
    (segments : List (Segment α)) (coverage : Coverage) (splice : Splice)
    (events : List (Event α)) (world : World) :
    ∃ spliced more after,
      forIn segments (coverage, splice) (spliceStep tokens editor) world =
        ((coverage.check segments).2.map (·, spliced), after) ∧
      forIn segments (coverage, splice) (spliceStep tokens (watched editor)) (events, world) =
        ((coverage.check segments).2.map (·, spliced), more, after) ∧
      Event.calls more = Event.calls events ++ Segment.values (coverage.check segments).1 := by
  induction segments generalizing coverage splice events world with
  | nil => exact ⟨splice, events, world, rfl, rfl, (List.append_nil _).symm⟩
  | cons segment rest ih =>
      rw [Coverage.check, List.forIn_cons, List.forIn_cons]
      cases advanced : coverage.advance segment with
      | error fault =>
          refine ⟨splice, events, world, Eff.bind_error (spliceStep_refused advanced world) _,
            Eff.bind_error (spliceStep_refused advanced (events, world)) _, ?_⟩
          exact (List.append_nil _).symm
      | ok next =>
          cases segment with
          | unmatched text start =>
              obtain ⟨spliced, more, after, ran, watchedRan, called⟩ :=
                ih next (splice.keep text) events world
              refine ⟨spliced, more, after, ?_, ?_, called⟩
              · rw [Eff.bind_ok (spliceStep_unmatched advanced world)]
                exact ran
              · rw [Eff.bind_ok (spliceStep_unmatched advanced (events, world))]
                exact watchedRan
          | matched value start stop =>
              obtain ⟨replacement, later, replaced, comparable⟩ := total value world
              obtain ⟨differs, compared⟩ := comparable (tokens.part start stop)
              have changed := splice.replace_eq_ok compared
              have watchedReplaced := watched_apply editor value events world
              rw [replaced] at watchedReplaced
              obtain ⟨spliced, more, after, ran, watchedRan, called⟩ :=
                ih next _ (events ++ [.called value, .answered (.ok replacement)]) later
              refine ⟨spliced, more, after, ?_, ?_, ?_⟩
              · rw [Eff.bind_ok (spliceStep_matched advanced replaced changed)]
                exact ran
              · rw [Eff.bind_ok (spliceStep_matched advanced watchedReplaced changed)]
                exact watchedRan
              · rw [called, Event.calls_append, Event.calls_answered, List.append_assoc]
                rfl

theorem Splice.result_not_invariant (splice : Splice) (tokens : Tokens) {fault : Fault}
    (failed : splice.result tokens = .error fault) : ¬fault.IsInvariant := by
  rw [Splice.result] at failed
  split at failed
  · cases failed
  · have joins := joins_join tokens.kind splice.pieces.toList
    rw [failed] at joins
    cases joins
    exact not_false

/-- The result of an edit and the calls of its editor are as the segments call for: those that do
not cover the input are refused for the first thing that is wrong, with its report where that can be
made, and the calls are for the longest part, from the first segment on, in which nothing is
wrong. -/
structure ChecksCoverage (segments : List (Segment α)) (size : Nat) (result : Except Fault Tokens)
    (calls : List α) : Prop where
  accepts : Covers 0 size segments → ∀ fault, result = .error fault → ¬fault.IsInvariant
  fails : ¬Covers 0 size segments → ∃ (flaw : Flaw α) (fault : Fault), flaw.IsIn size segments ∧
    flaw.Fails size fault ∧ result = .error fault
  refuses : (∀ segment ∈ segments, segment.IsTold) →
    ((∃ fault, result = .error fault ∧ fault.IsInvariant) ↔ ¬Covers 0 size segments)
  calls_longest : ∃ before, calls = Segment.values before ∧ before <+: segments ∧
    (∃ stop, Covers 0 stop before) ∧
    ∀ others, others <+: segments → (∃ stop, Covers 0 stop others) → others <+: before

theorem refuses_iff {segments : List (Segment α)} {size : Nat} {result : Except Fault Tokens}
    (accepts : Covers 0 size segments → ∀ fault, result = .error fault → ¬fault.IsInvariant)
    (fails : ¬Covers 0 size segments → ∃ (flaw : Flaw α) (fault : Fault),
      flaw.IsIn size segments ∧ flaw.Fails size fault ∧ result = .error fault)
    (told : ∀ segment ∈ segments, segment.IsTold) :
    (∃ fault, result = .error fault ∧ fault.IsInvariant) ↔ ¬Covers 0 size segments := by
  constructor
  · rintro ⟨fault, failed, invariant⟩ covers
    exact accepts covers fault failed invariant
  · intro uncovered
    obtain ⟨flaw, fault, found, comes, failed⟩ := fails uncovered
    exact ⟨fault, failed, comes.isInvariant found told⟩

theorem ChecksCoverage.of_flaw {segments : List (Segment α)} {size : Nat} {calls : List α}
    {flaw : Flaw α} {fault : Fault} (uncovered : ¬Covers 0 size segments)
    (found : flaw.IsIn size segments) (comes : flaw.Fails size fault)
    (longest : ∃ before, calls = Segment.values before ∧ before <+: segments ∧
      (∃ stop, Covers 0 stop before) ∧
      ∀ others, others <+: segments → (∃ stop, Covers 0 stop others) → others <+: before) :
    ChecksCoverage segments size (.error fault) calls where
  accepts covers := absurd covers uncovered
  fails _ := ⟨flaw, fault, found, comes, rfl⟩
  refuses := refuses_iff (fun covers => absurd covers uncovered)
    fun _ => ⟨flaw, fault, found, comes, rfl⟩
  calls_longest := longest

theorem editSegments_checks [Journal World] (total : NeverFails editor)
    (segments : List (Segment α)) (tokens : Tokens) (world : World) :
    ∃ result events after,
      editSegments segments editor tokens world = (result, after) ∧
      editSegments segments (watched editor) tokens ([], world) = (result, events, after) ∧
      ChecksCoverage segments tokens.size result (Event.calls events) := by
  obtain ⟨spliced, events, after, ran, watchedRan, called⟩ :=
    forIn_spliceStep total tokens segments Coverage.start Splice.empty [] world
  have longest : ∃ before, Event.calls events = Segment.values before ∧ before <+: segments ∧
      (∃ stop, Covers 0 stop before) ∧
      ∀ others, others <+: segments → (∃ stop, Covers 0 stop others) → others <+: before := by
    refine ⟨(Coverage.start.check segments).1, called, Coverage.check_prefix, ?_, ?_⟩
    · obtain ⟨stop, accepts⟩ :
          ∃ stop, Coverage.start.Accepts stop (Coverage.start.check segments).1 :=
        Coverage.accepts_check
      exact ⟨stop, Coverage.accepts_start.mp accepts⟩
    · rintro others isPrefix ⟨stop, covers⟩
      exact Coverage.prefix_check isPrefix (Coverage.accepts_start.mpr covers)
  rw [editSegments_eq_forIn, editSegments_eq_forIn]
  cases checked : (Coverage.start.check segments).2 with
  | error fault =>
      rw [checked] at ran watchedRan
      have uncovered : ¬Covers 0 tokens.size segments := fun covers =>
        Coverage.not_accepts_of_check checked (Coverage.accepts_start.mpr covers)
      obtain ⟨flaw, found, comes⟩ := Coverage.exists_flaw tokens.size checked
      exact ⟨.error fault, events, after, Eff.bind_error ran _, Eff.bind_error watchedRan _,
        .of_flaw uncovered found comes longest⟩
  | ok now =>
      rw [checked] at ran watchedRan
      rw [Eff.bind_ok ran, Eff.bind_ok watchedRan]
      have covers (stop : Int) : Covers 0 stop segments ↔ now.expected = stop :=
        Coverage.accepts_start.symm.trans (Coverage.check_ok checked)
      by_cases reached : now.expected = tokens.size
      · simp only [Coverage.close, reached, ↓reduceIte]
        have covered := (covers tokens.size).mpr reached
        have accepts : Covers 0 tokens.size segments → ∀ fault,
            spliced.result tokens = .error fault → ¬fault.IsInvariant :=
          fun _ fault failed => spliced.result_not_invariant tokens failed
        exact ⟨spliced.result tokens, events, _, rfl, rfl, {
          accepts
          fails := fun uncovered => absurd covered uncovered
          refuses := refuses_iff accepts fun uncovered => absurd covered uncovered
          calls_longest := longest }⟩
      · simp only [Coverage.close, reached, ↓reduceIte]
        have found : (Flaw.incomplete now.expected).IsIn tokens.size segments :=
          ⟨(covers _).mpr rfl, reached⟩
        exact ⟨_, events, after, rfl, rfl,
          .of_flaw (fun covered => reached ((covers _).mp covered)) found
            (Flaw.fails_stopping tokens.size now.expected) longest⟩

end Given

def Eff.Spares (Kind : Fault → Prop) (action : Eff World β) : Prop :=
  Eff.Sustains (fun _ => True) action fun outcome => ∀ fault, outcome = .error fault → ¬Kind fault

namespace Eff.Spares

variable {Kind : Fault → Prop}

theorem pure (value : β) : Spares Kind (Pure.pure value : Eff World β) :=
  Eff.Sustains.pure nofun

theorem bind {action : Eff World α} {next : α → Eff World β} (first : action.Spares Kind)
    (later : ∀ value, (next value).Spares Kind) : (action >>= next).Spares Kind := by
  refine Eff.Sustains.bind first (fun value _ => later value) ?_
  intro fault spared other same
  exact spared other (by rw [← Except.error.inj same])

theorem leaving {action : Eff World β} (spares : action.Spares Kind) {frame : Frame}
    (keeps : ∀ fault, Kind (fault.leaving frame) → Kind fault) :
    (action.leaving frame).Spares Kind := by
  intro world _
  have spared := (spares world trivial).2
  rw [Eff.leaving_apply]
  refine ⟨trivial, ?_⟩
  intro fault failed kind
  rcases ran : (action world).1 with cause | value
  · rw [ran] at failed
    cases failed
    exact spared cause ran (keeps cause kind)
  · rw [ran] at failed
    cases failed

theorem besideMemory {Memory : Type} {action : Eff World β} (spares : action.Spares Kind) :
    (action.besideMemory : Eff (Memory × World) β).Spares Kind := by
  rintro ⟨memory, world⟩ -
  exact ⟨trivial, (spares world trivial).2⟩

end Eff.Spares

namespace Separation

variable {Kind : Fault → Prop} {pattern : Pattern World α} {tokens : Tokens}
  {body : Segment α → β → Eff World (ForInStep β)}

theorem emitUnmatched_spares (bodies : ∀ segment state, (body segment state).Spares Kind)
    (pending stop : Nat) (state : β) :
    (emitUnmatched tokens pending stop state body).Spares Kind := by
  unfold emitUnmatched
  split
  · exact bodies _ state
  · exact .pure _

theorem finish_spares (bodies : ∀ segment state, (body segment state).Spares Kind) (pending : Nat)
    (state : β) : (finish tokens pending state body).Spares Kind := by
  refine (emitUnmatched_spares bodies pending tokens.size state).bind ?_
  intro step
  cases step <;> exact .pure _

theorem walk_spares (bodies : ∀ segment state, (body segment state).Spares Kind)
    (reports : ∀ offset place, ¬Kind (.outside pattern.label offset place tokens.size))
    {ask : (position : Nat) → S → Eff World (Move α tokens.size position × S)}
    (asks : ∀ position asked, (ask position asked).Spares Kind) (asked : S)
    (pending position : Nat) (state : β) :
    (walk pattern tokens ask body asked pending position state).Spares Kind := by
  induction position using forwards tokens.size generalizing asked pending state with
  | step position ih =>
      rw [walk]
      by_cases unfinished : position < tokens.size
      · rw [if_pos unfinished]
        refine (asks position asked).bind ?_
        rintro ⟨move, asked⟩
        cases move with
        | finish => exact finish_spares bodies pending state
        | skip next forward => exact ih unfinished next forward asked pending state
        | emit start stop value reached consumes inside =>
            have emits : (emit tokens pending start stop value state body).Spares Kind := by
              refine (emitUnmatched_spares bodies pending start state).bind ?_
              intro step
              cases step with
              | done state => exact .pure _
              | yield state => exact bodies _ state
            refine emits.bind ?_
            intro step
            cases step with
            | done state => exact .pure state
            | yield state => exact ih unfinished stop (by omega) asked stop state
        | outside offset place beyond =>
            intro world _
            refine ⟨trivial, ?_⟩
            rintro fault ⟨⟩
            exact reports offset place
      · rw [if_neg unfinished]
        exact finish_spares bodies pending state

theorem run_spares (bodies : ∀ segment state, (body segment state).Spares Kind)
    (keeps : ∀ fault, Kind (fault.leaving .generator) → Kind fault)
    (reports : ∀ offset place, ¬Kind (.outside pattern.label offset place tokens.size))
    (scans : ∀ place, (pattern.scan tokens place).Spares Kind)
    (starts : pattern.searches = true → (pattern.finder.start tokens).Spares Kind)
    (finds : pattern.searches = true → ∀ place, (pattern.finder.find tokens place).Spares Kind)
    (offset : Nat) (state : β) : (run ⟨pattern, tokens, offset⟩ state body).Spares Kind := by
  cases searches : pattern.searches with
  | false =>
      simp only [run, searches, Bool.false_eq_true, ↓reduceIte, scanning_eq_walk]
      refine walk_spares bodies reports ?_ () offset offset state
      intro position asked
      exact ((scans position).leaving keeps).bind fun _ => .pure _
  | true =>
      simp only [run, searches, ↓reduceIte]
      refine ((starts searches).leaving keeps).bind fun memory => ?_
      rw [searching_eq_walk]
      refine walk_spares bodies reports ?_ memory offset offset state
      intro position memory
      have asks : (pattern.finder.ask tokens position memory).Spares Kind := by
        intro world _
        refine ⟨trivial, ?_⟩
        have spared := (finds searches position (memory, world) trivial).2
        unfold Finder.ask Eff.remembering
        rcases ran : pattern.finder.find tokens position (memory, world) with
          ⟨fault | found, later, now⟩
        · rw [ran] at spared
          rintro _ ⟨⟩
          exact spared fault rfl
        · intro fault impossible
          cases impossible
      exact (asks.leaving keeps).bind fun _ => .pure _

end Separation

/-- A call of the pattern fails with the fault, or showing the pattern does. -/
def Pattern.Raises (pattern : Pattern World α) (tokens : Tokens) (fault : Fault) : Prop :=
  (∃ place world, (pattern.scan tokens place world).1 = .error fault) ∨
    (∃ world, (pattern.finder.start tokens world).1 = .error fault) ∨
    (∃ place memory world, (pattern.finder.find tokens place (memory, world)).1 = .error fault) ∨
    pattern.label.shown = .error fault

/-- A call of the editor fails with the fault, or comparing what it gives back does. -/
def EditorRaises (editor : α → Eff World Output) (fault : Fault) : Prop :=
  (∃ value now, (editor value now).1 = .error fault) ∨
    ∃ value now output span, (editor value now).1 = .ok output ∧
      output.differs span = .error fault

theorem Fault.eq_of_leaving {frame : Frame} {cause fault : Fault} (invariant : fault.IsInvariant)
    (same : cause.leaving frame = fault) : cause = fault := by
  subst same
  cases cause with
  | exhausted message => exact absurd invariant not_false
  | _ => rfl

section Unraised

variable {pattern : Pattern World α} {tokens : Tokens} {fault : Fault}

theorem Eff.spares_of_not_raised {action : Eff World β}
    (never : ∀ world, (action world).1 ≠ .error fault) : action.Spares (· = fault) := by
  intro world _
  refine ⟨trivial, ?_⟩
  rintro _ failed rfl
  exact never world failed

theorem offerStep_spares {editor : α → Eff World Output} (edits : ¬EditorRaises editor fault)
    (segment : Segment α) (state : Unit) :
    (offerStep editor tokens segment state).Spares (· = fault) := by
  rw [EditorRaises, not_or] at edits
  cases segment with
  | unmatched text start => exact fun _ _ => ⟨trivial, nofun⟩
  | matched value start stop =>
      rintro ⟨offered, world⟩ -
      rw [offerStep_matched]
      refine ⟨trivial, ?_⟩
      rintro _ failed rfl
      rcases ran : (editor value world).1 with other | output <;> rw [ran] at failed
      · cases failed
        exact edits.1 ⟨value, world, ran⟩
      · rcases compared : output.differs (tokens.part start stop) with other | differs <;>
          simp only [Segment.differs, bind, Except.bind, compared, Except.map] at failed
        · cases failed
          exact edits.2 ⟨value, world, output, _, ran, compared⟩
        · cases failed

theorem Seat.act_spares {Kind : Fault → Prop} {Outer : Type} {action : Eff World β}
    (spares : action.Spares Kind) (seat : Seat World Outer) (question : Question) :
    (seat.act question action).Spares Kind :=
  fun outer _ => ⟨trivial, (spares (seat.part (seat.hear question outer)) trivial).2⟩

theorem Pattern.offer_spares (unraised : ¬pattern.Raises tokens fault)
    (invariant : fault.IsInvariant) {editor : α → Eff World Output}
    (edits : ¬EditorRaises editor fault) : (pattern.offer editor tokens).Spares (· = fault) := by
  simp only [Raises, not_or, not_exists] at unraised
  obtain ⟨unscanned, unstarted, unfound, unshown⟩ := unraised
  have reports (offset : Nat) (place : Int) :
      ¬Fault.outside pattern.label offset place tokens.size = fault := by
    intro same
    have reported := Fault.reported_outside pattern.label offset place tokens.size
    rw [same] at reported
    cases reported with
    | unshown silent => exact unshown (Fault.eq_of_leaving invariant rfl ▸ silent)
    | _ => exact invariant
  rw [Pattern.offer_eq_run]
  refine Separation.run_spares (offerStep_spares edits)
    (fun _ => Fault.eq_of_leaving invariant) reports ?_ ?_ ?_ 0 ()
  · intro place
    exact Seat.act_spares (Eff.spares_of_not_raised (unscanned place)) .aside _
  · intro searches
    obtain ⟨label, scan, reach⟩ := pattern
    cases reach with
    | scanOnly => cases searches
    | searchable search => exact .pure ()
    | incremental search finder =>
        exact Seat.act_spares (Eff.spares_of_not_raised unstarted) .aside .begin
  · intro searches place
    obtain ⟨label, scan, reach⟩ := pattern
    cases reach with
    | scanOnly => cases searches
    | searchable search =>
        have spares : (search tokens place).Spares (· = fault) :=
          Eff.spares_of_not_raised (unfound place ())
        exact (Seat.act_spares spares .aside (.next place)).besideMemory
    | incremental search finder =>
        rintro ⟨memory, outer⟩ -
        refine ⟨trivial, ?_⟩
        rintro _ failed rfl
        exact unfound place memory outer.2 failed

/-- An edit that fails because of its segments has that fault from its pattern or its editor. -/
theorem edit_raises_invariant [Journal World] [Shows α] {editor : α → Eff World Output}
    (invariant : fault.IsInvariant) {world : World}
    (failed : (edit pattern editor tokens world).1 = .error fault) :
    pattern.Raises tokens fault ∨ EditorRaises editor fault := by
  by_contra unraised
  rw [not_or] at unraised
  obtain ⟨outcome, offered, after, result, events, changes, collected, edited, -, -, splices, -⟩ :=
    edit_offer pattern editor tokens world
  have spared := (pattern.offer_spares unraised.1 invariant unraised.2 ([], world) trivial).2
  rw [collected] at spared
  rw [edited] at failed
  obtain rfl : result = .error fault := failed
  cases splices with
  | interrupted answered => exact spared fault rfl rfl
  | failed last answered _ => exact spared fault rfl rfl
  | joined pieces answered changed joins =>
      cases joins
      exact invariant

end Unraised

/-- The check of the coverage refuses exactly the segments that do not cover the input, once the
editor was called for the matches of the longest part in which nothing is wrong. In the edits of a
pattern it refuses nothing, whatever the pattern answers: such a fault is one of the pattern or of
the editor. -/
theorem edits_check_coverage [Journal World] [Shows α] :
    (∀ editor : α → Eff World Output, NeverFails editor →
      ∀ (segments : List (Segment α)) (tokens : Tokens) (world : World),
      ∃ result events after,
        editSegments segments editor tokens world = (result, after) ∧
        editSegments segments (watched editor) tokens ([], world) = (result, events, after) ∧
        ChecksCoverage segments tokens.size result (Event.calls events)) ∧
    (∀ (pattern : Pattern World α) (editor : α → Eff World Output) (tokens : Tokens)
      (world : World) (fault : Fault), fault.IsInvariant →
      (edit pattern editor tokens world).1 = .error fault →
      pattern.Raises tokens fault ∨ EditorRaises editor fault) ∧
    ∀ (pattern : Pattern World α) (editor : α → Task World Output) (between : World → World)
      (tokens : Tokens) (world : World) (fault : Fault), fault.IsInvariant →
      ((editPausing pattern editor tokens).runUnder between world).1 = .error fault →
      pattern.Raises tokens fault ∨
        EditorRaises (fun value => (editor value).runUnder between) fault := by
  refine ⟨?_, ?_, ?_⟩
  · intro editor total segments tokens world
    exact editSegments_checks total segments tokens world
  · intro pattern editor tokens world fault invariant failed
    exact edit_raises_invariant invariant failed
  · intro pattern editor between tokens world fault invariant failed
    rw [runUnder_editPausing, Eff.leaving_apply] at failed
    rcases ran : (edit pattern (fun value => (editor value).runUnder between) tokens world).1 with
      cause | result <;> rw [ran] at failed
    · obtain rfl := Fault.eq_of_leaving invariant (Except.error.inj failed)
      exact edit_raises_invariant invariant ran
    · cases failed

theorem edit_refuses_gap :
    let segments : List (Segment Tokens) :=
      [.matched (.ofString "a") 0 1, .unmatched (.ofString "b") 1, .matched (.ofString "d") 3 4]
    let editor (value : Tokens) : Eff Testing.World Output := pure (.ofTokens value)
    let incomplete : Pattern Testing.World Tokens :=
      ⟨.custom "Incomplete" "", fun _ _ => throw (.incomplete 0 1), .scanOnly⟩
    let pausing (value : Tokens) : Task Testing.World Output := pure (.ofTokens value)
    NeverFails editor ∧
    (∃ fault, (editSegments segments editor (.ofString "abcd") .empty).1 = .error fault ∧
      fault.IsInvariant) ∧
    (edit incomplete editor (.ofString "a") .empty).1 = .error (.incomplete 0 1) ∧
    (incomplete.Raises (.ofString "a") (.incomplete 0 1) ∨
      EditorRaises editor (.incomplete 0 1)) ∧
    ((editPausing incomplete pausing (.ofString "a")).runUnder id .empty).1 =
      .error (.incomplete 0 1) ∧
    (incomplete.Raises (.ofString "a") (.incomplete 0 1) ∨
      EditorRaises (fun value => (pausing value).runUnder id) (.incomplete 0 1)) := by
  intro segments editor incomplete pausing
  have total : NeverFails editor :=
    fun value now => ⟨.ofTokens value, now, rfl, Output.isComparable_ofTokens value⟩
  have uncovered : ¬Covers 0 (Tokens.ofString "abcd").size segments := by
    intro covers
    have adjoins := covers.adjoining
    simp [segments, Adjoining, Segment.start, Segment.stop, Tokens.size, Tokens.ofString]
      at adjoins
  have failed : (edit incomplete editor (.ofString "a") .empty).1 = .error (.incomplete 0 1) := by
    with_unfolding_all rfl
  have failedPausing : ((editPausing incomplete pausing (.ofString "a")).runUnder id .empty).1 =
      .error (.incomplete 0 1) := by
    rw [runUnder_editPausing, Eff.leaving_apply]
    exact congrArg (Except.mapError (Fault.leaving .coroutine)) failed
  have told : ∀ segment ∈ segments, segment.IsTold := by
    simp only [segments, List.forall_mem_cons, List.not_mem_nil, false_implies, implies_true,
      and_true]
    exact ⟨Segment.isTold_matched rfl (by decide +kernel) (by decide +kernel),
      Segment.isTold_unmatched (by decide +kernel) (by decide +kernel),
      Segment.isTold_matched rfl (by decide +kernel) (by decide +kernel)⟩
  obtain ⟨checks, edits, editsPausing⟩ := @edits_check_coverage Testing.World Tokens _ _
  obtain ⟨result, events, after, ran, -, checked⟩ :=
    checks editor total segments (.ofString "abcd") .empty
  refine ⟨total, ?_, failed, ?_, failedPausing, ?_⟩
  · rw [ran]
    exact (checked.refuses told).mpr uncovered
  · exact edits incomplete editor (.ofString "a") .empty _ trivial failed
  · exact editsPausing incomplete pausing id (.ofString "a") .empty _ trivial failedPausing

theorem misplacing_eq_tooLong [Shows α] {segment : Segment α} {text? : Option String}
    (shown : segment.shown = .ok text?) (first : Text.Numeral.isTooLong segment.start = false)
    (long : Text.Numeral.isTooLong segment.stop = true) (expected : Int) :
    Fault.misplacing segment expected = tooLong := by
  unfold Fault.misplacing written
  simp only [shown, first, long]
  rfl

theorem editSegments_misplaced {start : Int} (apart : start ≠ 0)
    (first : Text.Numeral.isTooLong start = false)
    (long : Text.Numeral.isTooLong (start + 1) = true) (editor : Tokens → Eff Testing.World Output)
    (world : Testing.World) :
    ¬Covers 0 1 [(.unmatched (.ofString "a") start : Segment Tokens)] ∧
    (editSegments [(.unmatched (.ofString "a") start : Segment Tokens)] editor (.ofString "a")
      world).1 = .error tooLong := by
  have shown : (.unmatched (.ofString "a") start : Segment Tokens).shown =
      .ok (Value.unmatched (.ofString "a") start).expression? := by
    simp only [Segment.shown, SpanEdit.shown, Value.isTooLong, first]
    rfl
  have refused : Coverage.start.advance (.unmatched (.ofString "a") start : Segment Tokens) =
      .error tooLong := by
    rw [← misplacing_eq_tooLong shown first long 0]
    exact if_pos (.inl apart)
  refine ⟨fun covers => apart covers.adjoining.1, ?_⟩
  rw [editSegments_eq_forIn, List.forIn_cons]
  exact congrArg Prod.fst
    (Eff.bind_error (Eff.bind_error (spliceStep_refused refused world) _) _)

/-- A segment with so many digits in its place that the report of it cannot be made. -/
theorem editSegments_speechless :
    let segments : List (Segment Tokens) :=
      [.unmatched (.ofString "a") ((Text.Numeral.writingBound - 1 : Nat) : Int)]
    let editor (value : Tokens) : Eff Testing.World Output := pure (.ofTokens value)
    NeverFails editor ∧ ¬Covers 0 (Tokens.ofString "a").size segments ∧
      ¬∃ fault, (editSegments segments editor (.ofString "a") .empty).1 = .error fault ∧
        fault.IsInvariant := by
  intro segments editor
  have apart : ((Text.Numeral.writingBound - 1 : Nat) : Int) ≠ 0 := by decide +kernel
  have first : Text.Numeral.isTooLong ((Text.Numeral.writingBound - 1 : Nat) : Int) = false := by
    decide +kernel
  have long :
      Text.Numeral.isTooLong (((Text.Numeral.writingBound - 1 : Nat) : Int) + 1) = true := by
    decide +kernel
  obtain ⟨uncovered, failed⟩ := editSegments_misplaced apart first long editor .empty
  refine ⟨fun value now => ⟨_, now, rfl, Output.isComparable_ofTokens value⟩, uncovered, ?_⟩
  rintro ⟨fault, other, invariant⟩
  rw [failed] at other
  cases other
  exact invariant

end SpanEdit
