import SpanEdit.Proofs.Containment
import SpanEdit.Proofs.Rewriting
import SpanEdit.Proofs.Uniqueness

/-!
Runs of scripts whose patterns are those of the library, over an input of their kind. What they find
and make of the input does not depend on the world. A run fails where a literal overruns, and an
edit also where it finds something and its replacement is no sequence of the kind of the input.
-/

namespace SpanEdit

variable {World : Type}

theorem Rule.replacement_of_first {tokens : Tokens} {position : Nat} {rules : List (Rule World)}
    {world after : World} {replacement : Option Value} {stop : Int}
    (ran : first tokens position rules world = (.ok (some (replacement, stop)), after)) :
    ∃ rule ∈ rules, rule.replacement = replacement := by
  induction rules generalizing world with
  | nil => cases ran
  | cons rule rest ih =>
      rw [first, Eff.bind_apply] at ran
      rcases scanned : rule.pattern.scan tokens position world with ⟨fault | _ | hit, now⟩ <;>
        rw [scanned] at ran
      · cases ran
      · obtain ⟨other, member, own⟩ := ih ran
        exact ⟨other, List.mem_cons_of_mem rule member, own⟩
      · cases ran
        exact ⟨rule, List.mem_cons_self, rfl⟩

theorem Tiling.place_of_mem {α : Type} {tokens : Tokens} {start stop : Nat}
    {segments : List (Segment α)} (tiling : Tiling tokens start stop segments)
    {segment : Segment α} (member : segment ∈ segments) :
    ∃ place : Nat, segment.start = place ∧ place < stop := by
  induction segments generalizing start with
  | nil => cases member
  | cons first rest ih =>
      obtain ⟨middle, begins, -, before, tail⟩ := tiling.uncons
      have further := tail.start_le_stop
      rcases List.mem_cons.mp member with rfl | later
      · exact ⟨start, begins, by omega⟩
      · exact ih tail later

theorem Rule.claims_eq_nil_iff {segments : List (Segment (Option Value × Tokens))} :
    claims segments = [] ↔ ∀ tagged start stop, Segment.matched tagged start stop ∉ segments := by
  rw [claims, List.filterMap_eq_nil_iff]
  constructor
  · intro unclaimed tagged start stop member
    cases unclaimed _ member
  · intro unmatched segment member
    cases segment with
    | unmatched text start => rfl
    | matched tagged start stop => exact absurd member (unmatched tagged start stop)

namespace Script

structure Separated (script : Script World) (tokens : Tokens)
    (segments : List (Segment (Option Value × Tokens))) : Prop where
  listed : ∀ world, script.pattern.segments tokens world = (.ok segments, world)
  unmatched : ∀ text start, Segment.unmatched text start ∈ segments → text.kind = tokens.kind
  claimed : ∀ tagged start stop, Segment.matched tagged start stop ∈ segments →
    tagged.2.kind = tokens.kind
  replaced : ∀ tagged start stop, Segment.matched tagged start stop ∈ segments →
    ∃ rule ∈ script.rules, rule.replacement = tagged.1

variable {script : Script World} {tokens : Tokens}
  {segments : List (Segment (Option Value × Tokens))}

theorem separated_of_complete (world : World) {scan : Verdicts (Option Value × Tokens)}
    (exact : script.pattern.Exact tokens scan)
    (complete : (reference tokens scan 0 0).ending = .complete) :
    script.Separated tokens (reference tokens scan 0 0).segments := by
  have separates := separates_reference (Nat.le_refl 0) (Nat.zero_le tokens.size)
    (Barren.empty scan 0) complete
  have answered : ∀ tagged start stop,
      Segment.matched tagged start stop ∈ (reference tokens scan 0 0).segments →
      tagged.2.kind = tokens.kind ∧ ∃ rule ∈ script.rules, rule.replacement = tagged.1 := by
    intro tagged start stop member
    obtain ⟨place, begins, inside⟩ := separates.tiling.place_of_mem member
    obtain rfl : start = place := begins
    have scanned := exact.scans place inside world
    rw [separates.found tagged place stop member, Rule.scan_pattern, Eff.bind_apply] at scanned
    rcases ran : Rule.first tokens place script.rules world with
      ⟨fault | _ | ⟨replacement, last⟩, after⟩ <;> rw [ran] at scanned
    · cases scanned
    · cases scanned
    · cases scanned
      exact ⟨tokens.kind_part _ _, Rule.replacement_of_first ran⟩
  refine ⟨fun now => ?_, fun text start member => ?_,
    fun tagged start stop member => (answered tagged start stop member).1,
    fun tagged start stop member => (answered tagged start stop member).2⟩
  · have listed := exact.toList_eq 0
    rw [complete] at listed
    exact congrFun listed now
  · rw [separates.tiling.faithful text start member]
    exact tokens.kind_part _ _

theorem segments_cases (world : World)
    (rules : ∀ rule ∈ script.rules, Library tokens.kind False rule.pattern) :
    (script.pattern.OverrunsFrom tokens 0 ∧ ∃ fault, ∀ now,
      script.pattern.segments tokens now = (.error fault, now)) ∨
    (¬script.pattern.OverrunsFrom tokens 0 ∧ ∃ segments, script.Separated tokens segments) := by
  have library := library_pattern rules
  obtain ⟨scan, exact⟩ := library.exact
  have listed := exact.toList_eq 0
  rcases library.endsAs exact world 0 with
    ⟨free, complete⟩ | ⟨place, stop, attempts, overruns, -, ends⟩
  · exact .inr ⟨free, _, separated_of_complete world exact complete⟩
  · refine .inl ⟨⟨place, attempts, overruns⟩,
      .outside script.pattern.label place stop tokens.size, fun now => ?_⟩
    rw [ends] at listed
    exact congrFun listed now

namespace Separated

variable (separated : script.Separated tokens segments)
include separated

theorem find_eq (world : World) :
    script.find tokens world = (.ok (Rule.claims segments), world) := by
  rw [find, Eff.bind_ok (separated.listed world)]
  rfl

/-- Where every replacement that comes in is of the kind of the input. -/
theorem apply_eq [Journal World] (own : ∀ tagged start stop,
      Segment.matched tagged start stop ∈ segments → ∀ value, tagged.1 = some value →
      value.IsOf tokens.kind) (world : World) :
    (script.apply tokens world).1 = .ok (.concat tokens.kind (segments.map Rule.text)) := by
  refine Rule.joined_text ?_ ?_ (apply_of_segments (separated.listed world))
  · intro part member
    obtain ⟨segment, listed, rfl⟩ := List.mem_map.mp member
    cases segment with
    | unmatched text start => exact separated.unmatched text start listed
    | matched tagged start stop =>
        obtain ⟨replacement, claim⟩ := tagged
        have claimed := separated.claimed _ start stop listed
        cases replacement with
        | none => exact claimed
        | some value =>
            obtain ⟨text, rfl, same⟩ := own _ start stop listed value rfl
            exact same
  · rintro ⟨replacement, claim⟩ start stop listed
    cases replacement with
    | none => rfl
    | some value =>
        obtain ⟨text, rfl, same⟩ := own _ start stop listed value rfl
        rfl

theorem apply_eq_error [Journal World] {tagged : Option Value × Tokens} {start stop : Int}
    {value : Value} (member : Segment.matched tagged start stop ∈ segments)
    (replaced : tagged.1 = some value) (foreign : ¬value.IsOf tokens.kind) (world : World) :
    ∃ fault, (script.apply tokens world).1 = .error fault := by
  have joins : Joins tokens.kind _ (script.apply tokens world).1 :=
    apply_of_segments (separated.listed world)
  have among : Rule.result tagged ∈ segments.map (Segment.output Rule.result) :=
    List.mem_map.mpr ⟨_, member, rfl⟩
  generalize (script.apply tokens world).1 = edited at joins
  cases joins with
  | refused same kinds foreign => exact ⟨_, rfl⟩
  | all holds =>
      obtain ⟨replacement, claim⟩ := tagged
      obtain rfl : replacement = some value := replaced
      exact absurd (Output.isOf_ofValue.mp (isOf_of_holds holds _ among)) foreign

end Separated

end Script

end SpanEdit
