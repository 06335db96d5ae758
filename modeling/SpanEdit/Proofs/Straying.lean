import SpanEdit.Proofs.Overrun
import SpanEdit.Proofs.Tree

/-!
Faults that only the fast path raises. Where scanning every offset raises none, the fast path raises
one exactly if it cannot begin or if scanning tries an offset from which a search trips.
-/

namespace SpanEdit

variable {World α : Type} {pattern : Pattern World α} {tokens : Tokens} {scan : Verdicts α}
  {Begins : Prop} {Trips : Nat → Prop} {position : Nat}

namespace Pattern

def TripsFrom (pattern : Pattern World α) (tokens : Tokens) (Trips : Nat → Prop)
    (position : Nat) : Prop :=
  ∃ place, pattern.Attempts tokens position place ∧ Trips place

namespace Foreseen

theorem tripsFrom_iff (foreseen : pattern.Foreseen tokens scan Begins Trips) (world : World)
    (unfinished : position < tokens.size) {answer : Option (Hit α)}
    (scanned : scan position = .ok answer) :
    pattern.TripsFrom tokens Trips position ↔
      Trips position ∨ pattern.TripsFrom tokens Trips (resume position answer) := by
  have answers : pattern.Answers tokens position answer := fun world => by
    rw [foreseen.scans position unfinished, scanned]
  constructor
  · rintro ⟨place, attempts, trips⟩
    cases attempts with
    | here _ => exact .inl trips
    | later _ others further =>
        have same := Answers.unique world answers others
        exact .inr ⟨place, same ▸ further, trips⟩
  · rintro (trips | ⟨place, further, trips⟩)
    · exact ⟨position, .here unfinished, trips⟩
    · exact ⟨place, .later unfinished answers further, trips⟩

theorem not_tripsFrom_of_finished (finished : tokens.size ≤ position) :
    ¬pattern.TripsFrom tokens Trips position := by
  rintro ⟨place, attempts, -⟩
  cases attempts <;> omega

/-- Scanning does not come to trip while it passes over misses. -/
theorem tripsFrom_skip (foreseen : pattern.Foreseen tokens scan Begins Trips) (world : World)
    {place : Nat} (ordered : position ≤ place) (inside : place ≤ tokens.size)
    (misses : Misses scan position place) (steady : ¬Trips position) :
    pattern.TripsFrom tokens Trips position ↔ pattern.TripsFrom tokens Trips place := by
  induction position using forwards tokens.size with
  | step position ih =>
      by_cases arrived : position = place
      · rw [arrived]
      · have unfinished : position < tokens.size := by omega
        have here := misses position (Nat.le_refl position) (by omega)
        have single : Misses scan position (position + 1) :=
          misses.mono (Nat.le_refl position) (by omega)
        have next : ¬Trips (position + 1) := fun trips =>
          steady (foreseen.steady position (position + 1) (Nat.le_succ position) single trips)
        rw [foreseen.tripsFrom_iff world unfinished here, or_iff_right steady]
        exact ih unfinished (position + 1) (Nat.lt_succ_self position) (by omega)
          (misses.mono (Nat.le_succ position) (Nat.le_refl place)) next

end Foreseen

end Pattern

theorem Pattern.lt_resume (place : Nat) (answer : Option (Hit α)) :
    place < Pattern.resume place answer := by
  cases answer with
  | none => exact Nat.lt_succ_self place
  | some hit =>
      simp only [Pattern.resume]
      split <;> omega

theorem follow_at_end (report : Nat → Nat → Report α) (pending : Nat) {start : Nat}
    (ordered : position ≤ start) (ended : tokens.size ≤ start) (hit : Hit α) :
    follow tokens report pending (.ok (.ofFound position (hit.at start))) =
      ⟨gap tokens pending tokens.size, .complete⟩ := by
  have ahead : ¬(start : Int) < position := by omega
  have finished : (tokens.size : Int) ≤ start := by omega
  simp only [Move.ofFound, Hit.at, ahead, finished, ↓reduceDIte, ↓reduceIte, follow]

/-- A run goes on behind an occurrence that consumes something, and one token further otherwise,
unless the occurrence ends beyond the input. -/
theorem follow_resume (pending : Nat) (unfinished : position < tokens.size) (hit : Hit α) :
    (∀ report : Nat → Nat → Report α, follow tokens report pending
        (.ok (.ofFound position (hit.at position))) = ⟨[], .outside position hit.stop⟩) ∨
      ∃ later segments, ∀ report : Nat → Nat → Report α,
        follow tokens report pending (.ok (.ofFound position (hit.at position))) =
          (report later (Pattern.resume position (some hit))).after segments := by
  by_cases consumes : (position : Int) < hit.stop
  · have there : Pattern.resume position (some hit) = hit.stop.toNat := if_pos consumes
    rw [there]
    by_cases within : hit.stop ≤ tokens.size
    · exact .inr ⟨_, _, fun report => follow_consuming report pending consumes within⟩
    · exact .inl fun report => follow_beyond report pending unfinished (by omega)
  · have here : Pattern.resume position (some hit) = position + 1 := if_neg consumes
    rw [here]
    exact .inr ⟨pending, [], fun report => follow_still report pending unfinished (by omega)⟩

def Departs (Stray : Prop) (reference report : Report α) : Prop :=
  (¬Stray ∧ report = reference) ∨
    (Stray ∧ ∃ fault, report.ending = .raised fault ∧ report.segments <+: reference.segments)

theorem Departs.after {Stray : Prop} {reference report : Report α}
    (departs : Departs Stray reference report) (segments : List (Segment α)) :
    Departs Stray (reference.after segments) (report.after segments) := by
  rcases departs with ⟨steady, same⟩ | ⟨stray, fault, raised, before⟩
  · exact .inl ⟨steady, by rw [same]⟩
  · exact .inr ⟨stray, fault, raised, (List.prefix_append_right_inj segments).mpr before⟩

namespace Pattern.Foreseen

theorem follow_departs (foreseen : pattern.Foreseen tokens scan Begins Trips) (world : World)
    (unfinished : position < tokens.size) {answer : Option (Found α)}
    (first : First scan tokens.size position answer) (steady : ¬Trips position)
    {report other : Nat → Nat → Report α}
    (later : ∀ pending next, position < next → (report pending next).ending = .complete →
      Departs (pattern.TripsFrom tokens Trips next) (report pending next) (other pending next))
    (pending : Nat)
    (complete : (follow tokens report pending (.ok (.ofSearch position answer))).ending =
      .complete) :
    Departs (pattern.TripsFrom tokens Trips position)
      (follow tokens report pending (.ok (.ofSearch position answer)))
      (follow tokens other pending (.ok (.ofSearch position answer))) := by
  cases first with
  | absent misses =>
      -- Nothing but misses up to the end, so nothing trips on the way.
      have before := misses.mono (Nat.le_refl position) (Nat.le_succ tokens.size)
      rw [foreseen.tripsFrom_skip world unfinished.le (Nat.le_refl _) before steady]
      exact .inl ⟨not_tripsFrom_of_finished (Nat.le_refl _), rfl⟩
  | @found start hit ordered inside misses scans =>
      rw [foreseen.tripsFrom_skip world ordered inside misses steady]
      simp only [Move.ofSearch] at complete ⊢
      by_cases ended : tokens.size ≤ start
      · rw [follow_at_end _ _ ordered ended, follow_at_end _ _ ordered ended]
        exact .inl ⟨not_tripsFrom_of_finished ended, rfl⟩
      · have reached : start < tokens.size := by omega
        have further : ¬Trips start := fun trips =>
          steady (foreseen.steady position start ordered misses trips)
        rw [foreseen.tripsFrom_iff world reached scans, or_iff_right further,
          follow_ofFound report _ ordered, follow_ofFound other _ ordered]
        rw [follow_ofFound report _ ordered] at complete
        rcases follow_resume pending reached hit with beyond | ⟨resumed, segments, goesOn⟩
        · rw [beyond] at complete
          cases complete
        · rw [goesOn] at complete
          rw [goesOn report, goesOn other]
          exact (later resumed _ (Nat.lt_of_le_of_lt ordered (lt_resume start _))
            complete).after segments

/-- Where scanning is complete, the course of the fast path is the same unless scanning tries an
offset from which a search trips. -/
theorem course_departs (foreseen : pattern.Foreseen tokens scan Begins Trips)
    {Valid : pattern.finder.Memory → Prop} {world : World}
    (finds : ∀ offset, offset < tokens.size → Eff.Sustains
      (fun state => Valid state.1 ∧ state.2 = world) (pattern.finder.find tokens offset)
      (Foretold tokens.size scan Trips offset))
    (pending position : Nat) {memory : pattern.finder.Memory} (valid : Valid memory)
    (complete : (reference tokens scan pending position).ending = .complete) :
    Departs (pattern.TripsFrom tokens Trips position) (reference tokens scan pending position)
      (course tokens (pattern.finder.answer tokens) pending position (memory, world)).1 := by
  induction position using forwards tokens.size generalizing pending memory with
  | step position ih =>
      by_cases unfinished : position < tokens.size
      · obtain ⟨⟨stays, unchanged⟩, foretold⟩ :=
          finds position unfinished (memory, world) ⟨valid, rfl⟩
        rw [course_eq_follow _ pending unfinished, Finder.answer]
        rcases asked : pattern.finder.find tokens position (memory, world) with
          ⟨fault | found, remembered, now⟩ <;> rw [asked] at stays unchanged foretold
        · exact .inr ⟨⟨position, .here unfinished, foretold⟩, fault, rfl, List.nil_prefix⟩
        · obtain ⟨steady, first⟩ := foretold
          have permitted := (first.leftmost fun _ _ => rfl).permitted
          rw [reference_of_permitted unfinished permitted] at complete ⊢
          refine foreseen.follow_departs world unfinished first steady ?_ pending complete
          intro pending next further complete
          have same : now = world := unchanged
          rw [same]
          exact ih unfinished next further pending stays complete
      · have finished : tokens.size ≤ position := by omega
        rw [course_finished _ pending finished, reference_finished finished]
        exact .inl ⟨not_tripsFrom_of_finished finished, rfl⟩

variable {offset : Nat} {segments : List (Segment α)} {world after : World}

theorem reference_of_drain (foreseen : pattern.Foreseen tokens scan Begins Trips)
    (inside : offset ≤ tokens.size)
    (completes : (pattern.scanOnly.drain tokens offset).run [] world = (.ok (), segments, after)) :
    reference tokens scan offset offset = ⟨segments, .complete⟩ ∧ after = world := by
  have scans : ∀ place, place < tokens.size → ∀ world,
      pattern.scanOnly.scan tokens place world = (scan place, world) := foreseen.scans
  rw [run_drain_of_verdicts rfl scans inside] at completes
  rcases reported : reference tokens scan offset offset with ⟨yielded, ending⟩
  rw [reported] at completes
  cases ending <;> simp only [Ending.outcome, Prod.mk.injEq, List.nil_append] at completes
  · exact ⟨by rw [completes.2.1], completes.2.2.symm⟩
  · cases completes.1
  · cases completes.1

/-- Where the scan at every offset is complete, the fast path yields the same segments, unless it
cannot begin or scanning tries an offset from which a search trips. Then it raises a fault, and has
yielded some of the segments before. -/
theorem run_drain (foreseen : pattern.Foreseen tokens scan Begins Trips)
    (inside : offset ≤ tokens.size)
    (completes : (pattern.scanOnly.drain tokens offset).run [] world = (.ok (), segments, after)) :
    let stray := pattern.searches ∧ (¬Begins ∨ pattern.TripsFrom tokens Trips offset)
    (¬stray ∧ (pattern.drain tokens offset).run [] world = (.ok (), segments, after)) ∨
      (stray ∧ ∃ fault found, (pattern.drain tokens offset).run [] world =
        (.error fault, found, after) ∧ found <+: segments) := by
  obtain ⟨reported, rfl⟩ := foreseen.reference_of_drain inside completes
  cases searches : pattern.searches with
  | false =>
      refine .inl ⟨by simp, ?_⟩
      rw [run_drain_of_verdicts searches foreseen.scans inside, reported]
      rfl
  | true =>
      obtain ⟨Valid, begins, finds⟩ := foreseen.finds
      obtain ⟨unchanged, begun⟩ := begins after after rfl
      rw [run_drain_of_searches searches rfl inside]
      rcases started : pattern.finder.start tokens after with ⟨fault | memory, now⟩ <;>
        rw [started] at unchanged begun <;> simp only at unchanged <;> subst unchanged
      · exact .inr ⟨⟨rfl, .inl begun⟩, _, [], rfl, List.nil_prefix⟩
      · obtain ⟨ready, valid⟩ := begun
        let Kept (state : pattern.finder.Memory × World) : Prop := Valid state.1 ∧ state.2 = now
        have kept : Kept (memory, now) := ⟨valid, rfl⟩
        have unchanged : Kept _ := course_keeps Kept (pattern.finder.answer tokens)
          (fun position asked inside kept => (finds position inside now asked kept).1) offset
          offset kept
        have strays := foreseen.course_departs (fun offset inside => finds offset inside now) offset
          offset valid (by rw [reported])
        rw [reported] at strays
        simp only [Collecting.result, unchanged.2, List.nil_append]
        rcases strays with ⟨steady, same⟩ | ⟨trips, fault, raised, before⟩
        · refine .inl ⟨?_, by rw [same]; rfl⟩
          rintro ⟨-, refused | trips⟩
          · exact ready refused
          · exact steady trips
        · exact .inr ⟨⟨trivial, .inr trips⟩, _, _, by rw [raised]; rfl, before⟩

end Pattern.Foreseen

namespace Tree

/-- The fast path raises a fault: the tree can search, and its search cannot begin or trips at an
offset that scanning tries. -/
def Strays (World : Type) (tree : Tree α) (tokens : Tokens) (offset : Nat) : Prop :=
  tree.searches ∧ (¬tree.Begins tokens ∨
    ∃ place, (tree.pattern : Pattern World α).Attempts tokens offset place ∧
      tree.Trips tokens place)

/-- Where the scan at every offset is complete, the fast path yields the same segments unless the
tree strays. Then it raises a fault, and has yielded some of the segments before. -/
theorem drain_eq_or_strays (tree : Tree α) {offset : Nat} (inside : offset ≤ tokens.size)
    {segments : List (Segment α)} {world after : World}
    (completes : ((tree.pattern : Pattern World α).scanOnly.drain tokens offset).run [] world =
      (.ok (), segments, after)) :
    (¬tree.Strays World tokens offset ∧
      ((tree.pattern : Pattern World α).drain tokens offset).run [] world =
        (.ok (), segments, after)) ∨
    (tree.Strays World tokens offset ∧ ∃ fault found,
      ((tree.pattern : Pattern World α).drain tokens offset).run [] world =
        (.error fault, found, after) ∧ found <+: segments) := by
  have drained := (tree.foreseen tokens).run_drain inside completes
  rwa [tree.searches_pattern] at drained

def patient : Tree Tokens :=
  .choice (.cons (.literal ⟨.ofString "ab", false⟩)
    (.cons (.mapped (.literal ⟨.ofString "b", false⟩) (fun _ => .error (.raised "called")) none)
      .nil))

theorem completes_patient :
    ((patient.pattern : Pattern Unit Tokens).scanOnly.drain (.ofString "ab") (0 : Nat)).run [] () =
      (.ok (), [.matched (.ofString "ab") 0 2], ()) := by
  with_unfolding_all rfl

/-- The text stands at the very offset that is asked for, so the letter is not searched. -/
theorem drain_patient :
    0 ≤ (Tokens.ofString "ab").size ∧
    ((patient.pattern : Pattern Unit Tokens).scanOnly.drain (.ofString "ab") (0 : Nat)).run [] () =
      (.ok (), [.matched (.ofString "ab") 0 2], ()) ∧
    ¬patient.Strays Unit (.ofString "ab") 0 ∧
    ((patient.pattern : Pattern Unit Tokens).drain (.ofString "ab") (0 : Nat)).run [] () =
      (.ok (), [.matched (.ofString "ab") 0 2], ()) := by
  refine ⟨Nat.zero_le _, completes_patient, ?_⟩
  rcases drain_eq_or_strays patient (Nat.zero_le _) completes_patient with
    same | ⟨-, fault, found, raised, -⟩
  · exact same
  · have drained : ((patient.pattern : Pattern Unit Tokens).drain (.ofString "ab")
        (0 : Nat)).run [] () = (.ok (), [.matched (.ofString "ab") 0 2], ()) := by
      with_unfolding_all rfl
    rw [drained] at raised
    cases raised

def hasty : Tree Tokens :=
  .choice (.cons
    (.mapped (.literal ⟨.ofString "b", false⟩) (fun _ => .error (.raised "called")) none)
    (.cons (.literal ⟨.ofString "ab", false⟩) .nil))

/-- A letter further on is given to the function before the text is found that consumes it. -/
theorem hasty_raises :
    ((hasty.pattern : Pattern Unit Tokens).scanOnly.drain (.ofString "ab") (0 : Nat)).run [] () =
      (.ok (), [.matched (.ofString "ab") 0 2], ()) ∧
    ((hasty.pattern : Pattern Unit Tokens).drain (.ofString "ab") (0 : Nat)).run [] () =
      (.error (.raised "called"), [], ()) := by
  constructor <;> with_unfolding_all rfl

end Tree

end SpanEdit
