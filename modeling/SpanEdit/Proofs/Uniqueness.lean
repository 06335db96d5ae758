import SpanEdit.Proofs.Contract

/-!
The segments of a scan at every offset, told apart from all other lists. A list is what the loop
yields exactly if it covers the input and the scan bears it out: every match is what the scan gives
where it begins, and nowhere in an unmatched run does the scan consume anything.
-/

namespace SpanEdit

variable {World α : Type} {tokens : Tokens} {scan : Verdicts α}

/-- The segments cover the tokens from `start` on as the scan has it. -/
structure Separates (tokens : Tokens) (scan : Verdicts α) (start : Nat)
    (segments : List (Segment α)) : Prop where
  tiling : Tiling tokens start tokens.size segments
  found : ∀ value (first : Nat) last, Segment.matched value first last ∈ segments →
    scan first = .ok (some ⟨last, value⟩)
  missed : ∀ text (first : Nat), Segment.unmatched text first ∈ segments →
    Barren scan first (first + text.size)

namespace Barren

theorem empty (scan : Verdicts α) (place : Nat) : Barren scan place place := by
  intro other above below
  omega

theorem push {first last : Nat} (barren : Barren scan first last)
    (still : scan last = .ok none ∨ ∃ hit, scan last = .ok (some hit) ∧ hit.stop ≤ last) :
    Barren scan first (last + 1) := by
  intro place above below
  by_cases here : place = last
  · rw [here]
    exact still
  · exact barren place above (by omega)

end Barren

namespace Separates

variable {segments rest : List (Segment α)} {start middle stop pending : Nat}

theorem gap (ordered : pending ≤ tokens.size) (barren : Barren scan pending tokens.size) :
    Separates tokens scan pending (gap tokens pending tokens.size) where
  tiling := .gap ordered (Nat.le_refl _)
  found value first last member := by
    unfold SpanEdit.gap at member
    split at member
    · simp at member
    · simp at member
  missed text first member := by
    unfold SpanEdit.gap at member
    split at member
    · simp only [List.mem_singleton, Segment.unmatched.injEq, Int.ofNat_inj] at member
      obtain ⟨rfl, rfl⟩ := member
      have ends : first + (tokens.slice first tokens.size).size = tokens.size := by
        rw [Tokens.size_slice]
        omega
      rw [ends]
      exact barren
    · simp at member

theorem emit {value : α} (ordered : pending ≤ start) (consumes : start < stop)
    (inside : stop ≤ tokens.size) (barren : Barren scan pending start)
    (scans : scan start = .ok (some ⟨stop, value⟩)) (separates : Separates tokens scan stop rest) :
    Separates tokens scan pending
      (SpanEdit.gap tokens pending start ++ .matched value start stop :: rest) where
  tiling := separates.tiling.emit value ordered consumes inside
  found other first last member := by
    unfold SpanEdit.gap at member
    split at member
    all_goals
      simp only [List.cons_append, List.nil_append, List.mem_cons, Segment.matched.injEq,
        reduceCtorEq, false_or, Int.ofNat_inj] at member
      rcases member with ⟨rfl, rfl, rfl⟩ | later
      · exact scans
      · exact separates.found other first last later
  missed text first member := by
    unfold SpanEdit.gap at member
    split at member
    · simp only [List.cons_append, List.nil_append, List.mem_cons, Segment.unmatched.injEq,
        reduceCtorEq, false_or, Int.ofNat_inj] at member
      rcases member with ⟨rfl, rfl⟩ | later
      · have ends : first + (tokens.slice first start).size = start := by
          rw [Tokens.size_slice]
          omega
        rw [ends]
        exact barren
      · exact separates.missed text first later
    · simp only [List.nil_append, List.mem_cons, reduceCtorEq, false_or] at member
      exact separates.missed text first member

theorem tail {segment : Segment α} (separates : Separates tokens scan start (segment :: rest))
    (ends : segment.stop = middle) : Separates tokens scan middle rest where
  tiling := by
    obtain ⟨other, -, same, -, tiling⟩ := separates.tiling.uncons
    have equal : other = middle := by omega
    rwa [equal] at tiling
  found value first last member := separates.found value first last (List.mem_cons_of_mem _ member)
  missed text first member := separates.missed text first (List.mem_cons_of_mem _ member)

end Separates

/-- Where the loop comes to the end of the input, the scan bears out what it has yielded. -/
theorem separates_reference {pending position : Nat} (ordered : pending ≤ position)
    (inside : position ≤ tokens.size) (barren : Barren scan pending position)
    (complete : (reference tokens scan pending position).ending = .complete) :
    Separates tokens scan pending (reference tokens scan pending position).segments := by
  induction position using forwards tokens.size generalizing pending with
  | step position later =>
      by_cases unfinished : position < tokens.size
      · have further : pending ≤ position + 1 := Nat.le_succ_of_le ordered
        have next := later unfinished (position + 1) (Nat.lt_succ_self position) further unfinished
        rw [reference_eq_follow unfinished] at complete ⊢
        rcases answer : scan position with fault | _ | hit <;> rw [answer] at complete
        · simp [Except.map, follow] at complete
        · exact next (barren.push (.inl answer)) complete
        · simp only [Except.map] at complete ⊢
          by_cases still : hit.stop ≤ position
          · rw [follow_still _ pending unfinished still] at complete ⊢
            exact next (barren.push (.inr ⟨hit, answer, still⟩)) complete
          · by_cases within : hit.stop ≤ tokens.size
            · have consumes : (position : Int) < hit.stop := by omega
              have place : (hit.stop.toNat : Int) = hit.stop := by omega
              rw [follow_consuming _ pending consumes within] at complete ⊢
              have rest := later unfinished hit.stop.toNat (by omega) (Nat.le_refl _) (by omega)
                (Barren.empty scan _) complete
              have scans : scan position = .ok (some ⟨hit.stop.toNat, hit.value⟩) := by
                rw [answer, place]
              simpa using rest.emit ordered (by omega) (by omega) barren scans
            · rw [follow_beyond _ pending unfinished (by omega)] at complete
              cases complete
      · have ended : position = tokens.size := by omega
        rw [reference_finished (by omega)]
        exact .gap (by omega) (ended ▸ barren)

/-- The scan leaves the loop no choice: it yields the segments that the scan bears out. -/
theorem reference_of_separates {segments : List (Segment α)} {pending position : Nat}
    (ordered : pending ≤ position) (separates : Separates tokens scan position segments)
    (isolated : pending < position → ∀ next ∈ segments.head?, next.isUnmatched = false) :
    reference tokens scan pending position =
      ⟨gap tokens pending position ++ segments, .complete⟩ := by
  induction segments generalizing pending position with
  | nil =>
      have ended : position = tokens.size := Int.ofNat_inj.mp separates.tiling.adjoining
      rw [ended, reference_finished (Nat.le_refl _), List.append_nil]
  | cons segment rest ih =>
      obtain ⟨middle, begins, ends, before, tiling⟩ := separates.tiling.uncons
      have within : middle ≤ tokens.size := tiling.start_le_stop
      have tail := separates.tail ends
      cases segment with
      | unmatched text first =>
          -- Nothing may be pending before an unmatched run, so it is the run that becomes pending.
          have same : pending = position := by
            by_contra differs
            have impossible := isolated (by omega) (.unmatched text first) rfl
            cases impossible
          have covered : text = tokens.slice position middle :=
            separates.tiling.span_eq ends within
          obtain rfl : first = position := begins
          have barren := separates.missed text position List.mem_cons_self
          have size : position + text.size = middle := by
            simp only [Segment.stop] at ends
            omega
          rw [size] at barren
          rw [same, reference_skip before.le within barren,
            ih before.le tail fun _ next member => ?_]
          · rw [gap_self, covered, SpanEdit.gap, if_pos before]
            rfl
          · obtain ⟨others, rfl⟩ : ∃ others, rest = next :: others :=
              List.head?_eq_some_iff.mp member
            have coalesced := (List.isChain_cons_cons.mp separates.tiling.coalesced).1
            simpa [Segment.isUnmatched] using coalesced
      | matched value first last =>
          obtain rfl : first = position := begins
          obtain rfl : last = middle := ends
          have scans := separates.found value position middle List.mem_cons_self
          have rest := ih (Nat.le_refl middle) tail fun impossible =>
            absurd impossible (Nat.lt_irrefl middle)
          rw [reference_eq_follow (by omega), scans]
          simp only [Except.map]
          rw [follow_consuming _ pending (Int.ofNat_lt.mpr before) (Int.ofNat_le.mpr within)]
          simp only [Int.toNat_natCast, rest, gap_self, List.nil_append]
          simp [Report.after]

/-- A scan that raises no fault and stays within the input brings the loop to its end. -/
theorem reference_complete (contained : ∀ place, place < tokens.size →
      ∃ answer, scan place = .ok answer ∧
        ∀ hit, answer = some hit → place < hit.stop → hit.stop ≤ tokens.size)
    (pending position : Nat) :
    (reference tokens scan pending position).ending = .complete := by
  induction position using forwards tokens.size generalizing pending with
  | step position later =>
      by_cases unfinished : position < tokens.size
      · have next := later unfinished (position + 1) (Nat.lt_succ_self position) pending
        obtain ⟨answer, scans, bounded⟩ := contained position unfinished
        rw [reference_eq_follow unfinished, scans]
        rcases answer with _ | hit
        · exact next
        · simp only [Except.map]
          by_cases still : hit.stop ≤ position
          · rw [follow_still _ pending unfinished still]
            exact next
          · have consumes : (position : Int) < hit.stop := by omega
            rw [follow_consuming _ pending consumes (bounded hit rfl consumes)]
            exact later unfinished hit.stop.toNat (by omega) _
      · rw [reference_finished (by omega)]

/-- The loop that scans every offset comes to its end with a list of segments exactly if they cover
the input and the scan bears them out, and it comes to its end if the scan stays within the
input. -/
theorem Pattern.scanning_separates_iff {pattern : Pattern World α}
    (answers : ∀ place, place < tokens.size → ∀ now,
      (pattern.scan tokens place now).1 = scan place)
    {offset : Nat} (inside : offset ≤ tokens.size) (world : World) :
    (∀ segments, (∃ after,
      (Separation.scanning pattern tokens Separation.collect offset offset ()).run [] world =
        (.ok (), segments, after)) ↔ Separates tokens scan offset segments) ∧
    ((∀ place, place < tokens.size → ∃ answer, scan place = .ok answer ∧
        ∀ hit, answer = some hit → place < hit.stop → hit.stop ≤ tokens.size) →
      ∃ segments after,
        (Separation.scanning pattern tokens Separation.collect offset offset ()).run [] world =
          (.ok (), segments, after)) := by
  have ran := pattern.run_scanning tokens offset [] world
  rw [Collecting.result, course_scanAnswer answers, List.nil_append] at ran
  refine ⟨fun segments => ⟨?_, fun separates => ?_⟩, fun contained => ?_⟩
  · rintro ⟨after, same⟩
    rw [ran, Prod.mk.injEq, Prod.mk.injEq, Ending.outcome_eq_ok] at same
    obtain ⟨complete, rfl, -⟩ := same
    exact separates_reference (Nat.le_refl offset) inside (Barren.empty scan offset) complete
  · have yields := reference_of_separates (Nat.le_refl offset) separates fun impossible =>
      absurd impossible (Nat.lt_irrefl offset)
    rw [gap_self, List.nil_append] at yields
    rw [ran, yields]
    exact ⟨_, rfl⟩
  · rw [ran, reference_complete contained]
    exact ⟨_, _, rfl⟩

theorem Pattern.alternating_separates_iff :
    (∀ place, place < (Tokens.ofString "aaaa").size → ∀ now,
      (alternating.scan (.ofString "aaaa") place now).1 = .ok (some (secondToken place))) ∧
    1 ≤ (Tokens.ofString "aaaa").size ∧
    (∀ segments, (∃ after, (Separation.scanning alternating (.ofString "aaaa") Separation.collect
      1 1 ()).run [] () = (.ok (), segments, after)) ↔
        Separates (.ofString "aaaa") (fun place => .ok (some (secondToken place))) 1 segments) ∧
    ∃ segments after, (Separation.scanning alternating (.ofString "aaaa") Separation.collect
      1 1 ()).run [] () = (.ok (), segments, after) := by
  have answers := (alternating_keepsContract (.ofString "aaaa")).scans
  have inside : 1 ≤ (Tokens.ofString "aaaa").size := by decide
  obtain ⟨only, completes⟩ := scanning_separates_iff answers inside ()
  refine ⟨answers, inside, only, completes fun place inside => ⟨_, rfl, ?_⟩⟩
  rintro hit ⟨⟩ consumes
  simp only [secondToken] at consumes ⊢
  omega

end SpanEdit
