import SpanEdit.Proofs.Lockstep
import SpanEdit.Proofs.MixedChoice

/-!
Taking turns: the alternatives of a choice that can only scan and the body of the loop may watch
what the other does. In a mixed choice their turns come in the order in which they would come
without searches.
-/

namespace SpanEdit

variable {First Second World α β γ : Type} {tokens : Tokens} {label other : Label}

inductive SameReport (label other : Label) : Except Fault β → Except Fault β → Prop
  | same (outcome : Except Fault β) : SameReport label other outcome outcome
  | report (offset : Nat) (place : Int) (size : Nat) :
      SameReport label other (.error (.outside label offset place size))
        (.error (.outside other offset place size))

theorem SameReport.eq {outcome result : Except Fault β}
    (alike : SameReport label label outcome result) : outcome = result := by
  cases alike <;> rfl

theorem SameReport.leaving {outcome result : Except Fault β}
    (alike : SameReport label other outcome result) (frame : Frame) :
    SameReport label other (outcome.mapError (Fault.leaving frame))
      (result.mapError (Fault.leaving frame)) := by
  cases alike with
  | same => exact .same _
  | report offset place size =>
      simp only [Except.mapError, Fault.leaving_outside]
      exact .report offset place size

def Eff.Matches (Link : First → Second → Prop) (label other : Label) (action : Eff First β)
    (plain : Eff Second β) : Prop :=
  ∀ first second, Link first second → Link (action first).2 (plain second).2 ∧
    SameReport label other (action first).1 (plain second).1

namespace Eff.Matches

variable {Link : First → Second → Prop}

theorem pure (value : β) :
    Matches Link label other (Pure.pure value : Eff First β) (Pure.pure value) := by
  intro first second linked
  exact ⟨linked, .same _⟩

theorem bind {action : Eff First β} {plain : Eff Second β} {next : β → Eff First γ}
    {following : β → Eff Second γ} (alike : Matches Link label other action plain)
    (later : ∀ value, Matches Link label other (next value) (following value)) :
    Matches Link label other (action >>= next) (plain >>= following) := by
  intro first second linked
  obtain ⟨kept, outcomes⟩ := alike first second linked
  rw [Eff.bind_apply, Eff.bind_apply]
  rcases ran : action first with ⟨outcome, changed⟩
  rcases ranToo : plain second with ⟨result, now⟩
  simp only [ran, ranToo] at kept outcomes
  cases outcomes with
  | same =>
      cases outcome with
      | error fault => exact ⟨kept, .same _⟩
      | ok value => exact later value changed now kept
  | report offset place size => exact ⟨kept, .report offset place size⟩

theorem leaving {action : Eff First β} {plain : Eff Second β}
    (alike : Matches Link label other action plain) (frame : Frame) :
    Matches Link label other (action.leaving frame) (plain.leaving frame) := by
  intro first second linked
  obtain ⟨kept, outcomes⟩ := alike first second linked
  rw [Eff.leaving_apply, Eff.leaving_apply]
  exact ⟨kept, outcomes.leaving frame⟩

end Eff.Matches

namespace Separation

variable {Link : First → Second → Prop} {body : Segment α → β → Eff First (ForInStep β)}
  {plain : Segment α → β → Eff Second (ForInStep β)}

section Bodies

variable (bodies : ∀ segment state,
  Eff.Matches Link label other (body segment state) (plain segment state))

include bodies

theorem emitUnmatched_matches (pending stop : Nat) (state : β) :
    Eff.Matches Link label other (emitUnmatched tokens pending stop state body)
      (emitUnmatched tokens pending stop state plain) := by
  unfold emitUnmatched
  split
  · exact bodies _ state
  · exact .pure _

theorem emit_matches (pending start stop : Nat) (value : α) (state : β) :
    Eff.Matches Link label other (emit tokens pending start stop value state body)
      (emit tokens pending start stop value state plain) := by
  refine (emitUnmatched_matches bodies pending start state).bind ?_
  intro step
  cases step with
  | done state => exact .pure _
  | yield state => exact bodies _ state

theorem finish_matches (pending : Nat) (state : β) :
    Eff.Matches Link label other (finish tokens pending state body)
      (finish tokens pending state plain) := by
  refine (emitUnmatched_matches bodies pending tokens.size state).bind ?_
  intro step
  cases step <;> exact .pure _

/-- Two loops that scan alike do alike, though each reports under its own label. -/
theorem scanning_matches {pattern : Pattern First α} {copy : Pattern Second α}
    (named : pattern.label = label) (copyNamed : copy.label = other)
    (scans : ∀ place, Eff.Matches Link label other (pattern.scan tokens place)
      (copy.scan tokens place)) (pending position : Nat) (state : β) :
    Eff.Matches Link label other (scanning pattern tokens body pending position state)
      (scanning copy tokens plain pending position state) := by
  induction position using forwards tokens.size generalizing pending state with
  | step position ih =>
      rw [scanning.eq_def pattern, scanning.eq_def copy]
      by_cases unfinished : position < tokens.size
      · rw [if_pos unfinished, if_pos unfinished]
        have skips := ih unfinished (position + 1) (Nat.lt_succ_self position) pending state
        refine ((scans position).leaving .generator).bind ?_
        intro hit
        cases hit with
        | none => exact skips
        | some hit =>
            obtain ⟨stop, value⟩ := hit
            by_cases consumes : (position : Int) < stop
            · by_cases inside : stop ≤ tokens.size
              · simp only [consumes, inside, ↓reduceIte]
                refine (emit_matches bodies pending position stop.toNat value state).bind ?_
                intro step
                cases step with
                | done state => exact .pure _
                | yield state => exact ih unfinished stop.toNat (by omega) stop.toNat state
              · simp only [consumes, inside, ↓reduceIte]
                intro first second linked
                refine ⟨linked, ?_⟩
                rw [← named, ← copyNamed]
                exact .report position stop tokens.size
            · simp only [consumes, ↓reduceIte]
              exact skips
      · rw [if_neg unfinished, if_neg unfinished]
        exact finish_matches bodies pending state

end Bodies

end Separation

def Pattern.visit (pattern : Pattern World α) (tokens : Tokens) (offset : Int) (state : β)
    (body : Segment α → β → Eff World (ForInStep β)) : Eff World β :=
  match pattern.separate tokens offset with
  | .error fault => throw fault
  | .ok separation => separation.run state body

inductive Turn (α : Type) where
  | scanned (alternative offset : Nat)
  | yielded (segment : Segment α)

namespace Turn

def noting (body : Segment α → β → Eff World (ForInStep β)) (segment : Segment α) (state : β) :
    Eff (List (Turn α) × World) (ForInStep β) := fun (turns, world) =>
  (body segment state).besideMemory (turns ++ [.yielded segment], world)

def seat (alternative : Nat) : Seat World (List (Turn α) × World) where
  part outer := outer.2
  update world outer := (outer.1, world)
  hear question outer :=
    match question with
    | .scan offset => (outer.1 ++ [.scanned alternative offset], outer.2)
    | _ => outer

end Turn

def Pattern.noted (pattern : Pattern World α) (alternative : Nat) :
    Pattern (List (Turn α) × World) α :=
  pattern.seated (if pattern.searches then .aside else Turn.seat alternative)

def Choice.noted (first : Nat) : List (Pattern World α) →
    List (Pattern (List (Turn α) × World) α)
  | [] => []
  | pattern :: rest => pattern.noted first :: noted (first + 1) rest

def Turn.Beside (outer : List (Turn α) × World) (world : World) : Prop := outer.2 = world

theorem Turn.noting_matches (body : Segment α → β → Eff World (ForInStep β)) (segment : Segment α)
    (state : β) :
    Eff.Matches Turn.Beside label label (noting body segment state) (body segment state) := by
  rintro ⟨turns, world⟩ _ rfl
  exact ⟨rfl, .same _⟩

namespace Pattern

variable {Outer : Type} {pattern : Pattern World α}

theorem searches_seated (seat : Seat World Outer) :
    (pattern.seated seat).searches = pattern.searches := by
  obtain ⟨_, _, reach⟩ := pattern
  cases reach <;> rfl

theorem searches_noted (alternative : Nat) :
    (pattern.noted alternative).searches = pattern.searches := searches_seated _

theorem scan_noted (alternative place : Nat) :
    Eff.Matches Turn.Beside label label ((pattern.noted alternative).scan tokens place)
      (pattern.scan tokens place) := by
  rintro ⟨turns, world⟩ _ rfl
  unfold noted
  split <;> exact ⟨rfl, .same _⟩

theorem SearchesForward.aside {scan : Nat → Option (Hit α)} (searches : pattern.searches = true)
    (forward : pattern.SearchesForward tokens scan) :
    (pattern.seated (.aside : Seat World (γ × World))).SearchesForward tokens scan := by
  constructor
  case scans =>
    rintro place inside ⟨turns, world⟩
    simp [seated, Seat.act, Seat.aside, Eff.within, forward.scans place inside world]
  case finds =>
    obtain ⟨Ready, starts, finds⟩ := forward.finds
    obtain ⟨label, action, reach⟩ := pattern
    cases reach with
    | scanOnly => cases searches
    | searchable search =>
        refine ⟨Ready, fun outer => ?_, ?_⟩
        · obtain ⟨memory, -, ready⟩ := starts outer.2
          exact ⟨memory, rfl, ready⟩
        · rintro offset inside memory ⟨turns, world⟩ ready
          obtain ⟨answer, later, found, leftmost, readyThen⟩ :=
            finds offset inside memory world ready
          refine ⟨answer, later, ?_, leftmost, readyThen⟩
          show (Seat.aside.act (.next offset) (search tokens offset)).besideMemory
            (memory, turns, world) = _
          change (search tokens offset).besideMemory (memory, world) = _ at found
          have answered : (search tokens offset world).1 = .ok answer := congrArg (·.1) found
          have kept : memory = later := congrArg (·.2.1) found
          have same : (search tokens offset world).2 = world := congrArg (·.2.2) found
          simp only [Seat.act, Seat.aside, Eff.besideMemory, Eff.within, answered, same, id_eq,
            kept]
    | incremental search finder =>
        refine ⟨Ready, ?_, ?_⟩
        · rintro ⟨turns, world⟩
          obtain ⟨memory, started, ready⟩ := starts world
          refine ⟨memory, ?_, ready⟩
          show Seat.aside.act .begin (finder.start tokens) (turns, world) = _
          change finder.start tokens world = _ at started
          simp only [Seat.act, Seat.aside, Eff.within, started, id_eq]
          rfl
        · rintro offset inside memory ⟨turns, world⟩ ready
          obtain ⟨answer, later, found, leftmost, readyThen⟩ :=
            finds offset inside memory world ready
          refine ⟨answer, later, ?_, leftmost, readyThen⟩
          show (Seat.aside.finder finder).find tokens offset (memory, turns, world) = _
          change finder.find tokens offset (memory, world) = _ at found
          simp only [Seat.finder, Seat.aside, found, id_eq]
          rfl

theorem IsAlternative.noted (alternative : pattern.IsAlternative tokens) (number : Nat) :
    (pattern.noted number).IsAlternative tokens := by
  intro searches
  rw [searches_noted] at searches
  obtain ⟨scan, forward⟩ := alternative searches
  refine ⟨scan, ?_⟩
  rw [Pattern.noted, if_pos searches]
  exact forward.aside searches

end Pattern

namespace Choice

variable {patterns : List (Pattern World α)}

theorem searches_noted (first : Nat) :
    (noted first patterns).all (·.searches) = patterns.all (·.searches) := by
  induction patterns generalizing first with
  | nil => rfl
  | cons pattern rest ih =>
      simp only [noted, List.all_cons, Pattern.searches_noted, ih (first + 1)]

theorem label_noted (first : Nat) :
    (Pattern.choice (noted first patterns)).label = (Pattern.choice patterns).label := by
  have labels : (noted first patterns).map (·.label) = patterns.map (·.label) := by
    induction patterns generalizing first with
    | nil => rfl
    | cons pattern rest ih =>
        have same : (pattern.noted first).label = pattern.label := rfl
        simp only [noted, List.map_cons, same, ih (first + 1)]
  exact congrArg Label.choice labels

theorem isAlternative_noted (alternatives : ∀ pattern ∈ patterns, pattern.IsAlternative tokens)
    (first : Nat) : ∀ pattern ∈ noted first patterns, pattern.IsAlternative tokens := by
  induction patterns generalizing first with
  | nil => simp [noted]
  | cons pattern rest ih =>
      intro copy member
      rcases List.mem_cons.mp member with rfl | member
      · exact (alternatives pattern List.mem_cons_self).noted first
      · have others other (member : other ∈ rest) :=
          alternatives other (List.mem_cons_of_mem pattern member)
        exact ih others (first + 1) copy member

theorem scan_noted (first place : Nat) :
    Eff.Matches Turn.Beside label label (Choice.scan tokens place (noted first patterns))
      (Choice.scan tokens place patterns) := by
  induction patterns generalizing first with
  | nil => exact .pure none
  | cons pattern rest ih =>
      refine (pattern.scan_noted first place).bind ?_
      intro hit
      cases hit with
      | none => exact ih (first + 1)
      | some hit => exact .pure _

end Choice

namespace Pattern

variable {pattern : Pattern World α} {body : Segment α → β → Eff World (ForInStep β)}

theorem visit_inside {offset : Nat} (inside : offset ≤ tokens.size) (state : β) :
    pattern.visit tokens offset state body =
      Separation.run ⟨pattern, tokens, offset⟩ state body := by
  rw [visit, separate_ok pattern inside]

theorem visit_outside {offset : Int} (outside : ¬(0 ≤ offset ∧ offset ≤ tokens.size)) (state : β)
    (world : World) : pattern.visit tokens offset state body world =
      (.error (.outOfRange offset tokens.size), world) := by
  rw [visit, separate, if_neg outside]
  rfl

end Pattern

theorem Eff.matches_self (action : Eff World β) : Eff.Matches Eq label other action action := by
  rintro world _ rfl
  exact ⟨rfl, .same _⟩

/-- A mixed choice takes its turns with the loop body as it would without searches: every scan of an
alternative that can only scan, and every segment, comes in the same place, and both loops end
alike. Writing the turns down changes nothing. -/
theorem Pattern.mixed_choice_takes_turns {patterns : List (Pattern World α)}
    (mixed : ∃ pattern ∈ patterns, pattern.searches = false)
    (alternatives : ∀ pattern ∈ patterns, pattern.IsAlternative tokens) (offset : Int) (state : β)
    (body : Segment α → β → Eff World (ForInStep β)) (world : World) :
    let choice := Pattern.choice patterns
    let noted := Pattern.choice (Choice.noted 0 patterns)
    ∃ outcome result turns after,
      choice.visit tokens offset state body world = (outcome, after) ∧
      choice.scanOnly.visit tokens offset state body world = (result, after) ∧
      noted.visit tokens offset state (Turn.noting body) ([], world) = (outcome, turns, after) ∧
      noted.scanOnly.visit tokens offset state (Turn.noting body) ([], world) =
        (result, turns, after) ∧
      SameReport choice.label choice.scanOnly.label outcome result := by
  intro choice noted
  have scansOnly : patterns.all (·.searches) = false := by simpa using mixed
  by_cases within : 0 ≤ offset ∧ offset ≤ tokens.size
  · obtain ⟨place, rfl⟩ := Int.eq_ofNat_of_zero_le within.1
    have inside : place ≤ tokens.size := Int.ofNat_le.mp within.2
    have named : noted.label = choice.label := Choice.label_noted 0
    have namedToo : noted.scanOnly.label = choice.scanOnly.label := congrArg Label.scanOnly named
    have fast : Eff.Matches Turn.Beside choice.label choice.label
        (Separation.scanning noted tokens (Turn.noting body) place place state)
        (Separation.scanning choice tokens body place place state) :=
      Separation.scanning_matches (Turn.noting_matches body) named rfl (Choice.scan_noted 0) _ _ _
    have slow : Eff.Matches Turn.Beside choice.scanOnly.label choice.scanOnly.label
        (Separation.scanning noted.scanOnly tokens (Turn.noting body) place place state)
        (Separation.scanning choice.scanOnly tokens body place place state) :=
      Separation.scanning_matches (Turn.noting_matches body) namedToo rfl (Choice.scan_noted 0) _ _
        _
    have between : Eff.Matches Eq choice.label choice.scanOnly.label
        (Separation.scanning noted tokens (Turn.noting body) place place state)
        (Separation.scanning noted.scanOnly tokens (Turn.noting body) place place state) :=
      Separation.scanning_matches (fun segment state => Eff.matches_self _) named namedToo
        (fun position => Eff.matches_self _) _ _ _
    obtain ⟨sameTurns, alike⟩ := between ([], world) ([], world) rfl
    obtain ⟨fastWorld, fastOutcome⟩ := fast ([], world) world rfl
    obtain ⟨slowWorld, slowOutcome⟩ := slow ([], world) world rfl
    rw [visit_inside inside, visit_inside inside, visit_inside inside, visit_inside inside,
      run_mixed scansOnly alternatives, run_mixed ((Choice.searches_noted 0).trans scansOnly)
      (Choice.isAlternative_noted alternatives 0)]
    refine ⟨_, _, _, _, Prod.ext fastOutcome.eq.symm fastWorld.symm,
      Prod.ext slowOutcome.eq.symm (slowWorld.symm.trans ?_), rfl, Prod.ext rfl sameTurns.symm,
      alike⟩
    rw [sameTurns]
  · refine ⟨_, _, [], world, visit_outside within state world, visit_outside within state world,
      visit_outside within state _, visit_outside within state _, .same _⟩

/-- A literal beside an alternative that succeeds once the loop body has seen a segment. -/
theorem Pattern.literal_or_woken_takes_turns :
    let woken : Pattern Nat Tokens := ⟨.custom "Woken" "", fun _ offset seen =>
      (.ok (if seen = 0 then none else some ⟨offset + 1, .empty .text⟩), seen), .scanOnly⟩
    let patterns := [Literal.pattern ⟨.ofString "b", false⟩, woken]
    let tokens := Tokens.ofString "abc"
    let body (_ : Segment Tokens) (state : Unit) : Eff Nat (ForInStep Unit) := do
      Eff.modify (· + 1)
      return .yield state
    let noted := Pattern.choice (Choice.noted 0 patterns)
    (∃ pattern ∈ patterns, pattern.searches = false) ∧
    (∀ pattern ∈ patterns, pattern.IsAlternative tokens) ∧
    ∃ outcome result turns after,
      noted.visit tokens 0 () (Turn.noting body) ([], 0) = (outcome, turns, after) ∧
      noted.scanOnly.visit tokens 0 () (Turn.noting body) ([], 0) = (result, turns, after) := by
  intro woken patterns tokens body noted
  have mixed : ∃ pattern ∈ patterns, pattern.searches = false :=
    ⟨woken, by simp [patterns], rfl⟩
  have alternatives : ∀ pattern ∈ patterns, pattern.IsAlternative tokens := by
    intro pattern member
    simp only [patterns, List.mem_cons, List.not_mem_nil, or_false] at member
    rcases member with rfl | rfl
    · intro _
      exact ⟨_, .of_exact (Literal.exact_pattern _ rfl)⟩
    · intro searches
      cases searches
  obtain ⟨outcome, result, turns, after, -, -, fast, slow, -⟩ :=
    mixed_choice_takes_turns mixed alternatives 0 () body 0
  exact ⟨mixed, alternatives, outcome, result, turns, after, fast, slow⟩

end SpanEdit
