import SpanEdit.Proofs.Course

/-!
The contract of a search. A search may jump over offsets at which the scan fails or consumes
nothing, and may report or pass over the latter as it likes; that is enough for the loop that
searches to take the course of the loop that scans every offset.
-/

namespace SpanEdit

/-- What a scan answers at every offset of one input. -/
abbrev Verdicts (α : Type) : Type := Nat → Except Fault (Option (Hit α))

section Reference

variable {α S : Type} {tokens : Tokens}

def Barren (scan : Verdicts α) (first last : Nat) : Prop :=
  ∀ place, first ≤ place → place < last →
    scan place = .ok none ∨ ∃ hit, scan place = .ok (some hit) ∧ hit.stop ≤ place

/-- The answers to a search from an offset on that the contract allows. -/
inductive Permitted (scan : Verdicts α) (size offset : Nat) :
    Except Fault (Option (Found α)) → Prop
  /-- The scan fails with the same fault at a place that has to be tried. -/
  | fails {place : Nat} {fault : Fault} : offset ≤ place → place < size →
      Barren scan offset place → scan place = .error fault →
      Permitted scan size offset (.error fault)
  | absent : Barren scan offset size → Permitted scan size offset (.ok none)
  | beyond {found : Found α} : size ≤ found.start → Barren scan offset size →
      Permitted scan size offset (.ok (some found))
  | found {start : Nat} {hit : Hit α} : offset ≤ start → start < size →
      Barren scan offset start → scan start = .ok (some hit) →
      Permitted scan size offset (.ok (some (hit.at start)))

def reference (tokens : Tokens) (scan : Verdicts α) (pending position : Nat) : Report α :=
  (course tokens (fun position asked => ((scan position).map (.ofScan position), asked))
    pending position ()).1

def follow (tokens : Tokens) (report : Nat → Nat → Report α) (pending : Nat) {position : Nat} :
    Except Fault (Move α tokens.size position) → Report α
  | .error fault => ⟨[], .raised fault⟩
  | .ok .finish => ⟨gap tokens pending tokens.size, .complete⟩
  | .ok (.skip next _) => report pending next
  | .ok (.emit start stop value _ _ _) =>
      (report stop stop).after (gap tokens pending start ++ [.matched value start stop])
  | .ok (.outside offset place _) => ⟨[], .outside offset place⟩

theorem follow_congr {position : Nat} {report other : Nat → Nat → Report α}
    (same : ∀ pending later, position < later → report pending later = other pending later)
    (pending : Nat) (outcome : Except Fault (Move α tokens.size position)) :
    follow tokens report pending outcome = follow tokens other pending outcome := by
  rcases outcome with fault | move
  · rfl
  · cases move with
    | finish => rfl
    | skip next forward => exact same pending next forward
    | emit start stop value reached consumes inside =>
        simp only [follow, same stop stop (by omega)]
    | outside offset place beyond => rfl

theorem course_eq_follow
    (answer : (position : Nat) → S → Except Fault (Move α tokens.size position) × S)
    (pending : Nat) {position : Nat} (unfinished : position < tokens.size) (asked : S) :
    (course tokens answer pending position asked).1 =
      follow tokens
        (fun pending later => (course tokens answer pending later (answer position asked).2).1)
        pending (answer position asked).1 := by
  rw [course, if_pos unfinished]
  rcases answer position asked with ⟨fault | move, asked⟩
  · rfl
  · cases move <;> rfl

theorem course_finished
    (answer : (position : Nat) → S → Except Fault (Move α tokens.size position) × S)
    (pending : Nat) {position : Nat} (finished : tokens.size ≤ position) (asked : S) :
    (course tokens answer pending position asked).1 =
      ⟨gap tokens pending tokens.size, .complete⟩ := by
  rw [course, if_neg (by omega)]

variable {scan : Verdicts α} {position : Nat}

theorem reference_eq_follow (unfinished : position < tokens.size) (pending : Nat) :
    reference tokens scan pending position =
      follow tokens (reference tokens scan) pending
        ((scan position).map (.ofScan position)) :=
  course_eq_follow _ pending unfinished ()

theorem reference_finished (finished : tokens.size ≤ position) (pending : Nat) :
    reference tokens scan pending position = ⟨gap tokens pending tokens.size, .complete⟩ :=
  course_finished _ pending finished ()

theorem follow_still (report : Nat → Nat → Report α) (pending : Nat)
    (unfinished : position < tokens.size) {hit : Hit α} (still : hit.stop ≤ position) :
    follow tokens report pending (.ok (.ofScan position (some hit))) =
      report pending (position + 1) := by
  have notBeyond : ¬(tokens.size : Int) ≤ position := by omega
  simp only [Move.ofScan, Move.ofFound, Hit.at, Int.lt_irrefl, notBeyond, still, ↓reduceDIte,
    ↓reduceIte, follow, Int.toNat_natCast]

theorem follow_consuming (report : Nat → Nat → Report α) (pending : Nat) {hit : Hit α}
    (consumes : position < hit.stop) (within : hit.stop ≤ tokens.size) :
    follow tokens report pending (.ok (.ofScan position (some hit))) =
      (report hit.stop.toNat hit.stop.toNat).after
        (gap tokens pending position ++ [.matched hit.value position hit.stop.toNat]) := by
  have notBeyond : ¬(tokens.size : Int) ≤ position := by omega
  have moves : ¬hit.stop ≤ (position : Int) := by omega
  simp only [Move.ofScan, Move.ofFound, Hit.at, Int.lt_irrefl, notBeyond, moves, within,
    ↓reduceDIte, ↓reduceIte, follow, Int.toNat_natCast]

theorem follow_beyond (report : Nat → Nat → Report α) (pending : Nat)
    (unfinished : position < tokens.size) {hit : Hit α} (beyond : (tokens.size : Int) < hit.stop) :
    follow tokens report pending (.ok (.ofScan position (some hit))) =
      ⟨[], .outside position hit.stop⟩ := by
  have notBeyond : ¬(tokens.size : Int) ≤ position := by omega
  have moves : ¬hit.stop ≤ (position : Int) := by omega
  have outside : ¬hit.stop ≤ tokens.size := by omega
  simp only [Move.ofScan, Move.ofFound, Hit.at, Int.lt_irrefl, notBeyond, moves, outside,
    ↓reduceDIte, ↓reduceIte, follow, Int.toNat_natCast]

/-- Scanning passes over offsets where there is nothing to be consumed. -/
theorem reference_skip {place : Nat} (ordered : position ≤ place) (inside : place ≤ tokens.size)
    (barren : Barren scan position place) (pending : Nat) :
    reference tokens scan pending position = reference tokens scan pending place := by
  induction position using forwards tokens.size with
  | step position ih =>
      by_cases arrived : position = place
      · rw [arrived]
      · have unfinished : position < tokens.size := by omega
        have next := ih unfinished (position + 1) (Nat.lt_succ_self position) (by omega)
          (fun other first last => barren other (by omega) last)
        rw [reference_eq_follow unfinished]
        rcases barren position (Nat.le_refl position) (by omega) with fails | ⟨hit, scans, still⟩
        · rw [fails]
          exact next
        · rw [scans]
          exact (follow_still _ pending unfinished still).trans next

theorem follow_ofFound (report : Nat → Nat → Report α) (pending : Nat) {start : Nat}
    (ordered : position ≤ start) (hit : Hit α) :
    follow tokens report pending (.ok (.ofFound position (hit.at start))) =
      follow tokens report pending (.ok (.ofFound start (hit.at start))) := by
  have ahead : ¬(start : Int) < position := by omega
  by_cases beyond : (tokens.size : Int) ≤ start
  · simp only [Move.ofFound, Hit.at, ahead, Int.lt_irrefl, beyond, ↓reduceDIte, ↓reduceIte, follow]
  · by_cases still : hit.stop ≤ start
    · simp only [Move.ofFound, Hit.at, ahead, Int.lt_irrefl, beyond, still, ↓reduceDIte,
        ↓reduceIte, follow]
    · by_cases inside : hit.stop ≤ tokens.size <;>
        simp only [Move.ofFound, Hit.at, ahead, Int.lt_irrefl, beyond, still, inside,
          ↓reduceDIte, ↓reduceIte, follow]

/-- Scanning comes to the same as doing what a permitted answer says. -/
theorem reference_of_permitted (unfinished : position < tokens.size)
    {answer : Except Fault (Option (Found α))}
    (permitted : Permitted scan tokens.size position answer) (pending : Nat) :
    reference tokens scan pending position =
      follow tokens (reference tokens scan) pending (answer.map (.ofSearch position)) := by
  cases permitted with
  | fails ordered inside barren fault =>
      rw [reference_skip ordered inside.le barren, reference_eq_follow inside, fault]
      rfl
  | absent barren =>
      rw [reference_skip unfinished.le (Nat.le_refl _) barren,
        reference_finished (Nat.le_refl _)]
      rfl
  | beyond reached barren =>
      rw [reference_skip unfinished.le (Nat.le_refl _) barren,
        reference_finished (Nat.le_refl _)]
      rename_i found
      have ahead : ¬found.start < position := by omega
      simp only [Except.map, Move.ofSearch, Move.ofFound, ahead, reached, ↓reduceDIte, ↓reduceIte,
        follow]
  | found ordered inside barren scans =>
      rw [reference_skip ordered inside.le barren, reference_eq_follow inside, scans]
      exact (follow_ofFound _ pending ordered _).symm

/-- A loop whose answers are permitted, whatever they depend on, takes the course of the loop that
scans. -/
theorem course_eq_reference
    (answer : (position : Nat) → S → Except Fault (Move α tokens.size position) × S)
    (Valid : Nat → S → Prop)
    (answers : ∀ next position asked, Valid next asked → next ≤ position →
      position < tokens.size →
      ∃ found, Permitted scan tokens.size position found ∧
        (answer position asked).1 = found.map (.ofSearch position) ∧
        (found.isOk → Valid (position + 1) (answer position asked).2))
    {next : Nat} {asked : S} (valid : Valid next asked) (reached : next ≤ position)
    (pending : Nat) :
    (course tokens answer pending position asked).1 = reference tokens scan pending position := by
  induction position using forwards tokens.size generalizing next asked pending with
  | step position ih =>
      -- One answer may stand for many scans; after what it says both loops go on from one place.
      by_cases unfinished : position < tokens.size
      · obtain ⟨found, permitted, same, stays⟩ :=
          answers next position asked valid reached unfinished
        rw [course_eq_follow answer pending unfinished,
          reference_of_permitted unfinished permitted, same]
        cases found with
        | error fault => rfl
        | ok found =>
            apply follow_congr
            intro pending later further
            exact ih unfinished later further (stays rfl) further pending
      · have finished : tokens.size ≤ position := by omega
        rw [course_finished answer pending finished, reference_finished finished]

end Reference

variable {World α : Type}

/-- The finder may come to remember this after it was asked at increasing offsets of the input, all
before `next`. -/
inductive Finder.Asked (finder : Finder World α) (tokens : Tokens) (world : World) :
    Nat → finder.Memory × World → Prop
  | start {memory : finder.Memory} {begun : World} :
      finder.start tokens world = (.ok memory, begun) → Asked finder tokens world 0 (memory, begun)
  | find {next offset : Nat} {before after : finder.Memory × World}
      {answer : Option (Found α)} : Asked finder tokens world next before → next ≤ offset →
      offset < tokens.size → finder.find tokens offset before = (.ok answer, after) →
      Asked finder tokens world (offset + 1) after

/-- What the pattern answers on these tokens, from this world on: its scan answers the same whenever
it is asked, and what its finder answers at increasing offsets is permitted. -/
structure Pattern.KeepsContract (pattern : Pattern World α) (tokens : Tokens)
    (scan : Verdicts α) (world : World) : Prop where
  scans : ∀ place, place < tokens.size → ∀ now, (pattern.scan tokens place now).1 = scan place
  starts : ∃ memory begun, pattern.finder.start tokens world = (.ok memory, begun)
  answers : ∀ next offset now, pattern.finder.Asked tokens world next now → next ≤ offset →
    offset < tokens.size →
    Permitted scan tokens.size offset (pattern.finder.find tokens offset now).1

namespace Pattern

variable {pattern : Pattern World α} {tokens : Tokens} {scan : Verdicts α} {world : World}

theorem course_scanAnswer
    (scans : ∀ place, place < tokens.size → ∀ now, (pattern.scan tokens place now).1 = scan place)
    (pending position : Nat) (asked : Unit × World) :
    (course tokens (pattern.scanAnswer tokens) pending position asked).1 =
      reference tokens scan pending position := by
  induction position using forwards tokens.size generalizing pending asked with
  | step position ih =>
      by_cases unfinished : position < tokens.size
      · have same : (pattern.scanAnswer tokens position asked).1 =
            (scan position).map (.ofScan position) := by
          rw [← scans position unfinished asked.2]
          rfl
        rw [course_eq_follow _ pending unfinished, reference_eq_follow unfinished, same]
        apply follow_congr
        intro pending later further
        exact ih unfinished later further pending _
      · have finished : tokens.size ≤ position := by omega
        rw [course_finished _ pending finished, reference_finished finished]

theorem KeepsContract.course_answer (keeps : pattern.KeepsContract tokens scan world)
    {memory : pattern.finder.Memory} {begun : World}
    (started : pattern.finder.start tokens world = (.ok memory, begun)) (offset : Nat) :
    (course tokens (pattern.finder.answer tokens) offset offset (memory, begun)).1 =
      reference tokens scan offset offset := by
  refine course_eq_reference (pattern.finder.answer tokens) (pattern.finder.Asked tokens world) ?_
    (.start started) (Nat.zero_le offset) offset
  intro next position asked valid reached unfinished
  refine ⟨_, keeps.answers next position asked valid reached unfinished, rfl, ?_⟩
  intro answered
  cases found : pattern.finder.find tokens position asked with
  | mk outcome after =>
      rw [found] at answered
      cases outcome with
      | error fault => cases answered
      | ok answer =>
          have later := Finder.Asked.find valid reached unfinished found
          simpa only [Finder.answer, found] using later

/-- The contract of a search is enough: the loop that searches yields the segments of the loop that
scans, and ends as it does. -/
theorem searching_eq_scanning (keeps : pattern.KeepsContract tokens scan world) (offset : Nat) :
    ∃ memory begun outcome segments searched scanned,
      pattern.finder.start tokens world = (.ok memory, begun) ∧
      (Separation.searching pattern tokens Separation.collect memory offset offset ()).run []
        begun = (outcome, segments, searched) ∧
      (Separation.scanning pattern tokens Separation.collect offset offset ()).run [] world =
        (outcome, segments, scanned) := by
  obtain ⟨memory, begun, started⟩ := keeps.starts
  have searching := pattern.run_searching tokens memory offset [] begun
  have scanning := pattern.run_scanning tokens offset [] world
  rw [Collecting.result, keeps.course_answer started] at searching
  rw [Collecting.result, course_scanAnswer keeps.scans] at scanning
  exact ⟨memory, begun, _, _, _, _, started, searching, scanning⟩

def secondToken (place : Nat) : Hit Unit := ⟨(place + place % 2 : Nat), ()⟩

/-- A pattern that consumes every second token. Every other answer of its finder passes over the
offsets where nothing is consumed. -/
def alternating : Pattern Unit Unit where
  label := .custom "Alternating" ""
  scan _ offset := pure (some (secondToken offset))
  reach := .incremental (fun _ offset => pure (some ((secondToken offset).at offset)))
    { Memory := Bool
      start := fun _ => pure true
      find := fun _ offset => fun (reports, world) =>
        let start := if reports then offset else offset + (1 - offset % 2)
        (.ok (some ((secondToken start).at start)), !reports, world) }

theorem alternating_keepsContract (tokens : Tokens) :
    alternating.KeepsContract tokens (fun place => .ok (some (secondToken place))) () where
  scans _ _ _ := rfl
  starts := ⟨_, _, rfl⟩
  answers next offset now valid reached inside := by
    obtain ⟨(reports : Bool), world⟩ := now
    cases reports with
    | true =>
        show Permitted _ _ _ (.ok (some ((secondToken offset).at offset)))
        exact .found (Nat.le_refl offset) inside (fun place first last => by omega) rfl
    | false =>
        let start := offset + (1 - offset % 2)
        show Permitted _ _ _ (.ok (some ((secondToken start).at start)))
        have barren : Barren (fun place => .ok (some (secondToken place))) offset start := by
          intro place first last
          refine .inr ⟨_, rfl, ?_⟩
          simp only [secondToken, Int.ofNat_le, start] at last ⊢
          omega
        by_cases beyond : tokens.size ≤ start
        · exact .beyond (Int.ofNat_le.mpr beyond) fun place first last =>
            barren place first (Nat.lt_of_lt_of_le last beyond)
        · exact .found (Nat.le_add_right _ _) (Nat.lt_of_not_le beyond) barren rfl

theorem alternating_searching_eq_scanning :
    alternating.KeepsContract (.ofString "aaaa") (fun place => .ok (some (secondToken place)))
      () ∧
    ∃ memory begun outcome segments searched scanned,
      alternating.finder.start (.ofString "aaaa") () = (.ok memory, begun) ∧
      (Separation.searching alternating (.ofString "aaaa") Separation.collect memory 0 0 ()).run []
        begun = (outcome, segments, searched) ∧
      (Separation.scanning alternating (.ofString "aaaa") Separation.collect 0 0 ()).run [] () =
        (outcome, segments, scanned) :=
  ⟨alternating_keepsContract _, searching_eq_scanning (alternating_keepsContract _) 0⟩

end Pattern

end SpanEdit
