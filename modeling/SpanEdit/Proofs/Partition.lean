import SpanEdit.Pattern.FindAll
import SpanEdit.Proofs.FullRun
import SpanEdit.Proofs.Observation

/-!
Patterns that consume the same. One that changes the values of another, or puts what was consumed
beside them or in their place, asks it the same questions and separates the input at the same
places, even if the other can only scan and its wrapper searches.
-/

namespace SpanEdit

variable {World α β : Type}

def Found.change (change : Int → Int → α → β) (found : Found α) : Found β :=
  ⟨found.start, found.stop, change found.start found.stop found.value⟩

def Segment.change (change : Int → Int → α → β) : Segment α → Segment β
  | .unmatched text start => .unmatched text start
  | .matched value start stop => .matched (change start stop value) start stop

def Report.change (change : Int → Int → α → β) (report : Report α) : Report β :=
  ⟨report.segments.map (Segment.change change), report.ending⟩

theorem Report.change_change {γ : Type} (first : Int → Int → α → β) (second : Int → Int → β → γ)
    (report : Report α) : (report.change first).change second =
      report.change fun start stop value => second start stop (first start stop value) := by
  simp only [change, List.map_map]
  congr 2
  funext segment
  cases segment <;> rfl

def Move.change {size position : Nat} (change : Int → Int → α → β) :
    Move α size position → Move β size position
  | .finish => .finish
  | .skip next forward => .skip next forward
  | .emit start stop value reached consumes inside =>
      .emit start stop (change start stop value) reached consumes inside
  | .outside offset place beyond => .outside offset place beyond

theorem Move.change_ofFound {size position : Nat} (change : Int → Int → α → β)
    (found : Found α) : (ofFound position found : Move α size position).change change =
      ofFound position (found.change change) := by
  unfold ofFound
  by_cases behind : found.start < position
  · simp only [Found.change, behind, ↓reduceDIte, Move.change]
  · by_cases beyond : (size : Int) ≤ found.start
    · simp only [Found.change, behind, beyond, ↓reduceDIte, ↓reduceIte, Move.change]
    · by_cases still : found.stop ≤ found.start
      · simp only [Found.change, behind, beyond, still, ↓reduceDIte, ↓reduceIte, Move.change]
      · have start : (found.start.toNat : Int) = found.start := by omega
        have stop : (found.stop.toNat : Int) = found.stop := by omega
        by_cases inside : found.stop ≤ size <;>
          simp only [Found.change, behind, beyond, still, inside, ↓reduceDIte, ↓reduceIte,
            Move.change, start, stop]

theorem Move.change_ofSearch {size position : Nat} (change : Int → Int → α → β)
    (found : Option (Found α)) : (ofSearch position found : Move α size position).change change =
      ofSearch position (found.map (·.change change)) := by
  cases found with
  | none => rfl
  | some found => exact change_ofFound change found

theorem Segment.map_change_gap (change : Int → Int → α → β) (tokens : Tokens)
    (pending stop : Nat) : (gap tokens pending stop).map (Segment.change change) =
      gap tokens pending stop := by
  unfold gap
  split <;> rfl

section Course

variable {S : Type} {tokens : Tokens}

/-- Answers whose values are changed lead to the same course, with its values changed. -/
theorem course_change (change : Int → Int → α → β)
    (answer : (position : Nat) → S → Except Fault (Move α tokens.size position) × S)
    (other : (position : Nat) → S → Except Fault (Move β tokens.size position) × S)
    (agrees : ∀ position asked, other position asked =
      ((answer position asked).1.map (Move.change change), (answer position asked).2))
    (pending position : Nat) (asked : S) :
    course tokens other pending position asked =
      ((course tokens answer pending position asked).1.change change,
        (course tokens answer pending position asked).2) := by
  fun_induction course tokens answer pending position asked with
  | case1 pending position asked unfinished fault later answered =>
      rw [course, if_pos unfinished, agrees, answered]
      rfl
  | case2 pending position asked unfinished later answered =>
      rw [course, if_pos unfinished, agrees, answered]
      simp only [Except.map, Move.change, Report.change, Segment.map_change_gap]
  | case3 pending position asked unfinished next forward later answered ih =>
      rw [course, if_pos unfinished, agrees, answered]
      exact ih
  | case4 pending position asked unfinished start stop value reached consumes within later answered
      rest ih =>
      rw [course, if_pos unfinished, agrees, answered]
      simp only [Except.map, Move.change, ih, rest, Report.change, Report.after, List.map_append,
        Segment.map_change_gap, List.map_cons, List.map_nil, Segment.change]
  | case5 pending position asked unfinished offset place beyond later answered =>
      rw [course, if_pos unfinished, agrees, answered]
      rfl
  | case6 pending position asked finished =>
      rw [course, if_neg finished]
      simp only [Report.change, Segment.map_change_gap]

end Course

def Finder.changing (change : Tokens → Int → Int → α → β) (finder : Finder World α) :
    Finder World β where
  Memory := finder.Memory
  start := finder.start
  find tokens offset := do
    return (← finder.find tokens offset).map (·.change (change tokens))

theorem Finder.fullRun_changing (change : Tokens → Int → Int → α → β) (finder : Finder World α)
    (tokens : Tokens) (offset : Nat) (world : World) :
    (finder.changing change).fullRun tokens offset world =
      ((finder.fullRun tokens offset world).1.change (change tokens),
        (finder.fullRun tokens offset world).2) := by
  rcases started : finder.start tokens world with ⟨fault | memory, begun⟩
  · rw [fullRun_of_fault finder offset started, fullRun_of_fault (finder.changing change) offset
      started]
    rfl
  · rw [fullRun_of_start finder offset started, fullRun_of_start (finder.changing change) offset
      started]
    have courses := course_change (change tokens) (finder.answer tokens)
      ((finder.changing change).answer tokens) ?_ offset offset (memory, begun)
    · exact congrArg (fun run => (run.1, run.2.2)) courses
    · intro position asked
      simp only [answer, changing, Eff.bind_apply]
      rcases finder.find tokens position asked with ⟨fault | found, after⟩
      · rfl
      · simp only [Eff.pure_apply, Except.map, Move.change_ofSearch]

namespace Pattern

theorem fullRun_changing {pattern : Pattern World α} {wrapped : Pattern World β}
    {change : Tokens → Int → Int → α → β} (is : wrapped.finder = pattern.finder.changing change)
    (tokens : Tokens) (offset : Int) (world : World) :
    wrapped.fullRun tokens offset world =
      ((pattern.fullRun tokens offset world).1.change (change tokens),
        (pattern.fullRun tokens offset world).2) := by
  by_cases within : 0 ≤ offset ∧ offset ≤ tokens.size
  · simp only [fullRun, separate, if_pos within, is, Finder.fullRun_changing]
  · rw [fullRun_outside wrapped within, fullRun_outside pattern within]
    rfl

theorem finder_mapped (pattern : Pattern World α) (change : α → β) (name : Option String) :
    (pattern.mapped (fun value => pure (change value)) name).finder =
      pattern.finder.changing fun _ _ _ => change := by
  show Finder.mk _ _ _ = Finder.mk _ _ _
  congr 1
  funext tokens offset
  congr 1
  funext found
  cases found <;> rfl

/-- A full run comes to the report and to the world `after`, whether it is drained or listed. -/
structure RunsTo (pattern : Pattern World α) (tokens : Tokens) (offset : Int) (world : World)
    (report : Report α) (after : World) : Prop where
  drained : (pattern.drain tokens offset).run [] world =
    (report.ending.outcome pattern.label tokens.size, report.segments, after)
  listed : ∀ place : Nat, offset = place → pattern.separated.scan tokens place world =
    ((report.ending.outcome pattern.label tokens.size).map
      fun _ => some ⟨tokens.size, report.segments⟩, after)

theorem RunsTo.of_fullRun {pattern : Pattern World α} {tokens : Tokens} {offset : Int}
    {world after : World} {report : Report α}
    (run : pattern.fullRun tokens offset world = (report, after)) :
    pattern.RunsTo tokens offset world report after := by
  constructor
  · rw [run_drain, run, List.nil_append]
  · rintro place rfl
    rw [separated_scan, run]

/-- The pattern and those that consume the same differ in nothing but the values of the matches.
Listed, `captured` is `findAllCaptured` and `consumed` is `findAll`. -/
structure Partitions (pattern : Pattern World α) (tokens : Tokens) (offset : Int) (world : World)
    (report : Report α) (after : World) : Prop where
  plain : pattern.RunsTo tokens offset world report after
  captured : pattern.captured.RunsTo tokens offset world
    (report.change fun start stop value => (tokens.part start stop, value)) after
  mapped : ∀ {β : Type} (change : α → β) (name : Option String),
    (pattern.mapped (fun value => pure (change value)) name).RunsTo tokens offset world
      (report.change fun _ _ => change) after
  consumed : pattern.consumed.RunsTo tokens offset world
    (report.change fun start stop _ => tokens.part start stop) after

theorem Partitions.of_fullRun {pattern : Pattern World α} {tokens : Tokens} {offset : Int}
    {world after : World} {report : Report α}
    (run : pattern.fullRun tokens offset world = (report, after)) :
    pattern.Partitions tokens offset world report after := by
  have captured : pattern.captured.fullRun tokens offset world =
      (report.change fun start stop value => (tokens.part start stop, value), after) := by
    have is : pattern.captured.finder = pattern.finder.changing fun tokens start stop value =>
        (tokens.part start stop, value) := rfl
    rw [fullRun_changing is, run]
  refine ⟨.of_fullRun run, .of_fullRun captured, fun change name => .of_fullRun ?_,
    .of_fullRun ?_⟩
  · rw [fullRun_changing (pattern.finder_mapped change name), run]
  · rw [Pattern.consumed, fullRun_changing (pattern.captured.finder_mapped _ _), captured,
      Report.change_change]

end Pattern

def Question.isScan : Question → Bool
  | .scan _ => true
  | _ => false

/-- The events are questions, all of them to scan, or none. -/
def Heard (scans : Bool) (events : List (Event α)) : Prop :=
  ∀ event ∈ events, ∃ question, event = .asked question ∧ question.isScan = scans

theorem Heard.nil (scans : Bool) : Heard scans ([] : List (Event α)) := nofun

theorem Heard.ask {events : List (Event α)} (question : Question)
    (heard : Heard question.isScan events) :
    Heard question.isScan (events ++ [.asked question]) := by
  intro event member
  rcases List.mem_append.mp member with earlier | last
  · exact heard event earlier
  · exact ⟨question, List.mem_singleton.mp last, rfl⟩

section Observed

variable {tokens : Tokens} {Memory : Type} {scans : Bool}

/-- Answers that only write their questions down lead to the same course. -/
theorem course_observed (question : Nat → Question)
    (kind : ∀ position, (question position).isScan = scans)
    (answer : (position : Nat) → Memory × World →
      Except Fault (Move α tokens.size position) × Memory × World)
    (observed : (position : Nat) → Memory × List (Event α) × World →
      Except Fault (Move α tokens.size position) × Memory × List (Event α) × World)
    (observes : ∀ position memory events world, observed position (memory, events, world) =
      let answered := answer position (memory, world)
      (answered.1, answered.2.1, events ++ [.asked (question position)], answered.2.2))
    (offset : Nat) (memory : Memory) {events : List (Event α)} (heard : Heard scans events)
    (world : World) :
    ∃ later, Heard scans later ∧
      course tokens observed offset offset (memory, events, world) =
        let run := course tokens answer offset offset (memory, world)
        (run.1, run.2.1, later, run.2.2) := by
  have same := course_map (fun asked => (asked.1, asked.2.2)) observed answer
    (fun position asked => by rw [observes]) offset offset (memory, events, world)
  have begun : Heard scans (memory, events, world).2.1 := heard
  refine ⟨_, course_keeps (fun asked => Heard scans asked.2.1) observed ?_ offset offset begun, ?_⟩
  · rintro position asked - before
    rw [observes, ← kind position]
    rw [← kind position] at before
    exact before.ask
  · simp only at same
    rw [same]

theorem Finder.fullRun_observed (finder : Finder World α)
    (start : Tokens → Eff (List (Event α) × World) finder.Memory) {opening : List (Event α)}
    {world : World} (starts : start tokens ([], world) =
      ((finder.start tokens world).1, opening, (finder.start tokens world).2))
    (heard : Heard false opening) (offset : Nat) :
    ∃ events, Heard false events ∧
      (Finder.mk finder.Memory start (Seat.observing.finder finder).find).fullRun tokens offset
        ([], world) = ((finder.fullRun tokens offset world).1, events,
          (finder.fullRun tokens offset world).2) := by
  rcases began : finder.start tokens world with ⟨fault | memory, begun⟩ <;> rw [began] at starts
  · rw [fullRun_of_fault finder offset began, fullRun_of_fault _ offset starts]
    exact ⟨opening, heard, rfl⟩
  · rw [fullRun_of_start finder offset began, fullRun_of_start _ offset starts]
    let observed : Finder (List (Event α) × World) α :=
      ⟨finder.Memory, start, (Seat.observing.finder finder).find⟩
    obtain ⟨events, heard, same⟩ := course_observed .next (fun _ => rfl) (finder.answer tokens)
      (observed.answer tokens) (fun _ _ _ _ => rfl) offset memory heard begun
    refine ⟨events, heard, ?_⟩
    simp only [observed] at same
    rw [same]

/-- Nothing changes for a pattern that is observed. If it can only scan, it is asked to scan, and
else never. -/
theorem Pattern.fullRun_observed (pattern : Pattern World α) (tokens : Tokens) (offset : Int)
    (world : World) :
    ∃ events, Heard (!pattern.searches) events ∧
      pattern.observed.fullRun tokens offset ([], world) =
        ((pattern.fullRun tokens offset world).1, events,
          (pattern.fullRun tokens offset world).2) := by
  by_cases within : 0 ≤ offset ∧ offset ≤ tokens.size
  · obtain ⟨place, rfl⟩ := Int.eq_ofNat_of_zero_le within.1
    have inside : place ≤ tokens.size := Int.ofNat_le.mp within.2
    rw [fullRun_inside _ inside, fullRun_inside _ inside]
    obtain ⟨label, scan, _ | search | ⟨search, finder⟩⟩ := pattern
    · obtain ⟨events, heard, same⟩ := course_observed .scan (fun _ => rfl)
        (scanAnswer ⟨label, scan, .scanOnly⟩ tokens)
        (scanAnswer (observed ⟨label, scan, .scanOnly⟩) tokens) (fun _ _ _ _ => rfl) place ()
        (.nil true) world
      refine ⟨events, heard, ?_⟩
      rw [fullRun_of_scanOnly]
      refine (fullRun_of_scanOnly _ _ _ _ _).trans ?_
      exact congrArg (fun run => (run.1, run.2.2)) same
    · exact Finder.fullRun_observed (finder ⟨label, scan, .searchable search⟩) (fun _ => pure ())
        rfl (.nil false) place
    · exact Finder.fullRun_observed finder (Seat.observing.finder finder).start rfl
        (.ask .begin (.nil false)) place
  · rw [fullRun_outside _ within, fullRun_outside _ within]
    exact ⟨[], .nil _, rfl⟩

end Observed

end SpanEdit
