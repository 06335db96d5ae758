import SpanEdit.Proofs.FullRun
import SpanEdit.Proofs.Uniqueness

/-!
Resuming a separation. The scan bears out the end of a list of segments as it bears out the whole,
unless the end begins within a match, so a separation from there on yields just that end.
-/

namespace SpanEdit

variable {World α : Type} {tokens : Tokens} {scan : Verdicts α}

def Segment.cut (tokens : Tokens) (offset : Nat) (segment : Segment α) : Segment α :=
  match segment with
  | .unmatched text start =>
      if start < offset then .unmatched (tokens.part offset (start + text.size)) offset
      else .unmatched text start
  | .matched value start stop => .matched value start stop

/-- What the segments cover from an offset on. -/
def Segment.since (tokens : Tokens) (offset : Nat) (segments : List (Segment α)) :
    List (Segment α) :=
  (segments.filter fun segment => (offset : Int) < segment.stop).map (cut tokens offset)

example : Segment.since (.ofString "aabb") 1
      [.unmatched (.ofString "aa") 0, .matched () 2 3, .unmatched (.ofString "b") 3] =
    [.unmatched (.ofString "a") 1, .matched () 2 3, .unmatched (.ofString "b") 3] := by
  rfl

namespace Segment

variable {offset : Nat} {segment : Segment α} {rest : List (Segment α)}

theorem cut_of_le (behind : (offset : Int) ≤ segment.start) :
    segment.cut tokens offset = segment := by
  cases segment with
  | unmatched text start =>
      have ahead : ¬start < (offset : Int) := Int.not_lt.mpr behind
      simp only [cut, ahead, ↓reduceIte]
  | matched value start stop => rfl

theorem since_cons_of_le (before : segment.stop ≤ offset) :
    since tokens offset (segment :: rest) = since tokens offset rest := by
  have passed : ¬(offset : Int) < segment.stop := Int.not_lt.mpr before
  simp [since, passed]

theorem since_cons_of_lt (after : (offset : Int) < segment.stop) :
    since tokens offset (segment :: rest) =
      segment.cut tokens offset :: since tokens offset rest := by
  simp [since, after]

end Segment

namespace Separates

open Segment

variable {segments rest : List (Segment α)} {start middle offset : Nat}

theorem since_of_le (separates : Separates tokens scan start segments) (ahead : offset ≤ start) :
    since tokens offset segments = segments := by
  induction segments generalizing start with
  | nil => rfl
  | cons segment rest ih =>
      obtain ⟨middle, begins, ends, before, -⟩ := separates.tiling.uncons
      rw [since_cons_of_lt (by omega), cut_of_le (by omega), ih (separates.tail ends) (by omega)]

theorem shorten {text : Tokens}
    (separates : Separates tokens scan start (.unmatched text start :: rest))
    (ends : start + text.size = middle) (above : start ≤ offset) (below : offset < middle) :
    Separates tokens scan offset (.unmatched (tokens.slice offset middle) offset :: rest) := by
  have stop : (Segment.unmatched text start : Segment α).stop = middle := by
    simp only [Segment.stop]
    omega
  have tail := separates.tail stop
  have inside : middle ≤ tokens.size := tail.tiling.start_le_stop
  have isolated : ∀ next ∈ rest.head?, next.isUnmatched = false := by
    intro next member
    obtain ⟨others, rfl⟩ := List.head?_eq_some_iff.mp member
    have coalesced := (List.isChain_cons_cons.mp separates.tiling.coalesced).1
    simpa [isUnmatched] using coalesced
  constructor
  case tiling => exact tail.tiling.unmatched below inside isolated
  case found =>
    intro value first last member
    rcases List.mem_cons.mp member with impossible | later
    · cases impossible
    · exact tail.found value first last later
  case missed =>
    intro other first member
    rcases List.mem_cons.mp member with same | later
    · simp only [Segment.unmatched.injEq, Int.ofNat_inj] at same
      obtain ⟨rfl, rfl⟩ := same
      have barren := separates.missed text start List.mem_cons_self
      have size : first + (tokens.slice first middle).size = middle := by
        rw [Tokens.size_slice]
        omega
      -- Nothing is consumed in a part of the run, as nothing is in the whole.
      intro place after before
      exact barren place (by omega) (by omega)
    · exact tail.missed other first later

/-- What the scan bears out from the start on, it bears out from any offset that no match hides. -/
theorem since (separates : Separates tokens scan start segments) (above : start ≤ offset)
    (inside : offset ≤ tokens.size)
    (boundary : ∀ value (first last : Int), Segment.matched value first last ∈ segments →
      ¬(first < offset ∧ offset < last)) :
    Separates tokens scan offset (since tokens offset segments) := by
  induction segments generalizing start with
  | nil =>
      have ended : start = tokens.size := Int.ofNat_inj.mp separates.tiling.adjoining
      have same : offset = start := by omega
      rw [same]
      exact separates
  | cons segment rest ih =>
      obtain ⟨middle, begins, ends, before, -⟩ := separates.tiling.uncons
      have tail := separates.tail ends
      have boundaries value (first last : Int) (member : Segment.matched value first last ∈ rest) :=
        boundary value first last (List.mem_cons_of_mem segment member)
      -- The offset lies beyond the first segment, or begins it, or cuts it; no match can be cut.
      by_cases passed : middle ≤ offset
      · rw [since_cons_of_le (by omega)]
        exact ih tail passed boundaries
      · rw [since_cons_of_lt (by omega), tail.since_of_le (by omega)]
        by_cases here : offset = start
        · rw [cut_of_le (by omega), here]
          exact separates
        · cases segment with
          | unmatched text first =>
              obtain rfl : first = start := begins
              simp only [Segment.stop] at ends
              have cuts : (start : Int) < offset := by omega
              rw [cut, if_pos cuts, ends, Tokens.part_natCast tokens (by omega)
                tail.tiling.start_le_stop]
              exact separates.shorten (by omega) above (by omega)
          | matched value first last =>
              have hidden := boundary value first last List.mem_cons_self
              simp only [Segment.start, Segment.stop] at begins ends
              omega

end Separates

namespace Pattern

variable {pattern : Pattern World α}

/-- The segments from any offset on are those of the loop that scans, whether or not the pattern
searches for them. -/
theorem fullRun_eq_reference
    (scans : ∀ place, place < tokens.size → ∀ now, (pattern.scan tokens place now).1 = scan place)
    (keeps : pattern.searches = true → ∀ world, pattern.KeepsContract tokens scan world)
    {offset : Nat} (inside : offset ≤ tokens.size) (world : World) :
    (pattern.fullRun tokens offset world).1 = reference tokens scan offset offset := by
  rw [fullRun_inside pattern inside]
  cases searches : pattern.searches with
  | false =>
      obtain ⟨label, only, _ | _ | _⟩ := pattern <;> cases searches
      rw [fullRun_of_scanOnly]
      exact course_scanAnswer scans offset offset ((), world)
  | true =>
      have contract := keeps searches world
      obtain ⟨memory, begun, started⟩ := contract.starts
      rw [Finder.fullRun_of_start _ offset started]
      exact contract.course_answer started offset

/-- A separation can be resumed wherever it has not passed into a match: what is left of its
segments there, with the unmatched run cut that lies across the offset, is what a separation from
the offset on yields. -/
theorem separation_resumes
    (scans : ∀ place, place < tokens.size → ∀ now, (pattern.scan tokens place now).1 = scan place)
    (keeps : pattern.searches = true → ∀ world, pattern.KeepsContract tokens scan world)
    (contained : ∀ place, place < tokens.size → ∀ hit, scan place = .ok (some hit) →
      place < hit.stop → hit.stop ≤ tokens.size)
    (world : World) :
    ((∀ place, place < tokens.size → ∀ fault, scan place ≠ .error fault) →
      ∃ segments after, (pattern.drain tokens 0).run [] world = (.ok (), segments, after)) ∧
    ∀ segments after, (pattern.drain tokens 0).run [] world = (.ok (), segments, after) →
      pattern.segments tokens world = (.ok segments, after) ∧
      ∀ offset : Nat, offset ≤ tokens.size →
        (∀ value (start stop : Int), Segment.matched value start stop ∈ segments →
          ¬(start < offset ∧ offset < stop)) →
        ∀ now, ∃ later,
          (pattern.drain tokens offset).run [] now =
            (.ok (), Segment.since tokens offset segments, later) ∧
          pattern.separated.scan tokens offset now =
            (.ok (some ⟨tokens.size, Segment.since tokens offset segments⟩), later) := by
  have begins := fullRun_eq_reference scans keeps (Nat.zero_le tokens.size) world
  have drained := pattern.run_drain tokens 0 [] world
  rw [← Int.ofNat_zero, begins, List.nil_append] at drained
  refine ⟨fun total => ?_, fun segments after ran => ?_⟩
  · have complete : (reference tokens scan 0 0).ending = .complete := by
      refine reference_complete (fun place unfinished => ?_) 0 0
      rcases answer : scan place with fault | hit
      · exact absurd answer (total place unfinished fault)
      · exact ⟨hit, rfl, fun found same => contained place unfinished found (same ▸ answer)⟩
    rw [complete] at drained
    exact ⟨_, _, drained⟩
  · rw [← Int.ofNat_zero, drained, Prod.mk.injEq, Prod.mk.injEq, Ending.outcome_eq_ok] at ran
    obtain ⟨complete, rfl, rfl⟩ := ran
    constructor
    · rw [Pattern.segments, toList_eq pattern (Nat.zero_le _), begins, complete]
      rfl
    · intro offset inside boundary now
      have separates := separates_reference (Nat.le_refl 0) (Nat.zero_le tokens.size)
        (Barren.empty scan 0) complete
      have resumed := reference_of_separates (Nat.le_refl offset)
        (separates.since (Nat.zero_le offset) inside boundary)
        fun impossible => absurd impossible (Nat.lt_irrefl offset)
      rw [gap_self, List.nil_append] at resumed
      have run := fullRun_eq_reference scans keeps inside now
      rw [run_drain, separated_scan, run, resumed]
      exact ⟨_, rfl, rfl⟩

theorem alternating_resumes :
    (∀ place, place < (Tokens.ofString "aaaa").size → ∀ now,
      (alternating.scan (.ofString "aaaa") place now).1 = .ok (some (secondToken place))) ∧
    (∀ world, alternating.KeepsContract (.ofString "aaaa")
      (fun place => .ok (some (secondToken place))) world) ∧
    (∀ place, place < (Tokens.ofString "aaaa").size →
      place < (secondToken place).stop → (secondToken place).stop ≤ (Tokens.ofString "aaaa").size) ∧
    alternating.segments (.ofString "aaaa") () =
      (.ok [.unmatched (.ofString "a") 0, .matched () 1 2, .unmatched (.ofString "a") 2,
        .matched () 3 4], ()) ∧
    (alternating.drain (.ofString "aaaa") (2 : Nat)).run [] () =
      (.ok (), [.unmatched (.ofString "a") 2, .matched () 3 4], ()) ∧
    alternating.separated.scan (.ofString "aaaa") 2 () =
      (.ok (some ⟨4, [.unmatched (.ofString "a") 2, .matched () 3 4]⟩), ()) := by
  have keeps (world : Unit) := alternating_keepsContract (.ofString "aaaa")
  have within : ∀ place, place < (Tokens.ofString "aaaa").size →
      (secondToken place).stop ≤ (Tokens.ofString "aaaa").size := by
    decide
  have contained : ∀ place, place < (Tokens.ofString "aaaa").size → ∀ hit,
      (Except.ok (some (secondToken place)) : Except Fault _) = .ok (some hit) →
      place < hit.stop → hit.stop ≤ (Tokens.ofString "aaaa").size := by
    rintro place inside hit ⟨⟩ consumes
    exact within place inside
  have separated := separation_resumes (keeps ()).scans (fun _ => keeps) contained ()
  have drained : (alternating.drain (.ofString "aaaa") 0).run [] () =
      (.ok (), [.unmatched (.ofString "a") 0, .matched () 1 2, .unmatched (.ofString "a") 2,
        .matched () 3 4], ()) := by
    with_unfolding_all rfl
  obtain ⟨listed, resumes⟩ := separated.2 _ _ drained
  have boundary : ∀ value (start stop : Int), Segment.matched value start stop ∈
      ([.unmatched (.ofString "a") 0, .matched () 1 2, .unmatched (.ofString "a") 2,
        .matched () 3 4] : List (Segment Unit)) → ¬(start < (2 : Nat) ∧ (2 : Nat) < stop) := by
    intro value start stop member
    simp at member
    omega
  obtain ⟨later, ran, scanned⟩ := resumes 2 (by decide) boundary ()
  exact ⟨(keeps ()).scans, keeps, fun place inside _ => within place inside, listed, ran, scanned⟩

end Pattern

end SpanEdit
