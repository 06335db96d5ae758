import Mathlib.Data.List.Forall2
import SpanEdit.Proofs.ExactChoice

/-!
Questions in any order. A choice of alternatives that answer each search with the first occurrence
from its offset on, whatever they were asked before, answers so itself: neither the answers that it
keeps nor the alternatives that it leaves unasked ever show.
-/

namespace SpanEdit

variable {World State α : Type} {tokens : Tokens} {scan others : Nat → Option (Hit α)}
  {size offset : Nat}

/-- The scan answers the same in every world. If the pattern can search, it answers with the first
occurrence from an offset on, whatever it was asked before and whatever the world has become. -/
structure Pattern.AnswersLeftmost (pattern : Pattern World α) (tokens : Tokens)
    (scan : Nat → Option (Hit α)) : Prop where
  scans : ∀ place, place < tokens.size → ∀ world,
    (pattern.scan tokens place world).1 = .ok (scan place)
  finds : pattern.searches = true → ∃ Remembers : pattern.finder.Memory → Prop,
    (∀ world, ∃ memory begun,
      pattern.finder.start tokens world = (.ok memory, begun) ∧ Remembers memory) ∧
    ∀ offset, offset ≤ tokens.size →
      Eff.Sustains (fun state => Remembers state.1) (pattern.finder.find tokens offset)
        (Leftmost (fun place => .ok (scan place)) tokens.size offset)

theorem Leftmost.exists_ok {outcome : Except Fault (Option (Found α))}
    (leftmost : Leftmost (fun place => .ok (scan place)) size offset outcome) :
    ∃ answer, outcome = .ok answer := by
  rcases outcome with fault | answer
  · cases leftmost with
    | fault inside raised => cases raised
  · exact ⟨answer, rfl⟩

theorem Verdicts.orElse_ok (scan others : Nat → Option (Hit α)) :
    Verdicts.orElse (fun place => .ok (scan place)) (fun place => .ok (others place)) =
      fun place => .ok ((scan place).or (others place)) := by
  funext place
  simp only [orElse]
  cases scan place <;> rfl

theorem sustains_searches {Valid : State → Prop} {find : Nat → Eff State (Option (Found α))}
    (finds : ∀ offset, offset ≤ size → Eff.Sustains Valid (find offset)
      (Leftmost (fun place => .ok (scan place)) size offset))
    {offsets : List Nat} (inside : ∀ offset ∈ offsets, offset ≤ size) :
    Eff.Sustains Valid (offsets.mapM find) fun outcome => ∃ answers, outcome = .ok answers ∧
      List.Forall₂ (fun offset answer =>
        Leftmost (fun place => .ok (scan place)) size offset (.ok answer)) offsets answers := by
  induction offsets with
  | nil => exact .pure ⟨[], rfl, .nil⟩
  | cons offset rest ih =>
      have restInside : ∀ other ∈ rest, other ≤ size := by
        intro other member
        exact inside other (List.mem_cons_of_mem offset member)
      rw [List.mapM_cons]
      refine (finds offset (inside offset List.mem_cons_self)).bind ?_ ?_
      · intro answer leftmost
        refine (ih restInside).map _ ?_
        rintro _ ⟨answers, rfl, each⟩
        exact ⟨answer :: answers, rfl, .cons leftmost each⟩
      · intro fault leftmost
        obtain ⟨answer, impossible⟩ := leftmost.exists_ok
        cases impossible

namespace Pattern.AnswersLeftmost

variable {pattern : Pattern World α}

theorem sustains_scan (answers : pattern.AnswersLeftmost tokens scan)
    (inside : offset < tokens.size) :
    Eff.Sustains (fun _ => True) (pattern.scan tokens offset) (· = .ok (scan offset)) := by
  intro world _
  exact ⟨trivial, answers.scans offset inside world⟩

theorem exists_remembers (answers : pattern.AnswersLeftmost tokens scan) :
    ∃ Remembers : pattern.finder.Memory → Prop,
      (∀ world, ∃ memory begun,
        pattern.finder.start tokens world = (.ok memory, begun) ∧ Remembers memory) ∧
      (pattern.searches = true → ∀ offset, offset ≤ tokens.size →
        Eff.Sustains (fun state => Remembers state.1 ∧ True) (pattern.finder.find tokens offset)
          (Leftmost (fun place => .ok (scan place)) tokens.size offset)) := by
  cases searches : pattern.searches with
  | true =>
      obtain ⟨Remembers, starts, finds⟩ := answers.finds searches
      refine ⟨Remembers, starts, fun _ offset inside => ?_⟩
      simpa only [and_true] using finds offset inside
  | false =>
      -- A pattern that can only scan has nothing to remember.
      refine ⟨fun _ => True, ?_, nofun⟩
      intro world
      obtain ⟨label, action, reach⟩ := pattern
      cases reach with
      | scanOnly => exact ⟨(), world, rfl, trivial⟩
      | searchable search => cases searches
      | incremental search finder => cases searches

theorem of_exact (exact : pattern.Exact tokens fun place => .ok (scan place)) :
    pattern.AnswersLeftmost tokens scan := by
  constructor
  · intro place inside world
    rw [exact.scans place inside world]
  · intro _
    obtain ⟨Remembers, ⟨memory, remembers, starts⟩, finds⟩ := exact.finds
    refine ⟨Remembers, fun world => ⟨memory, world, starts world, remembers⟩, ?_⟩
    rintro offset inside ⟨memory, world⟩ remembers
    obtain ⟨⟨stays, -⟩, leftmost⟩ := finds offset inside world (memory, world) ⟨remembers, rfl⟩
    exact ⟨stays, leftmost⟩

end Pattern.AnswersLeftmost

namespace Choice

/-- The alternatives answer together with the first occurrence, as long as what is kept of their
answers is valid. -/
structure AnswersLeftmost (patterns : List (Pattern World α)) (tokens : Tokens)
    (scan : Nat → Option (Hit α)) (Valid : Answers patterns → Prop) : Prop where
  scans : ∀ place, place < tokens.size → ∀ world,
    (Choice.scan tokens place patterns world).1 = .ok (scan place)
  starts : ∀ world, ∃ answers begun,
    start tokens patterns world = (.ok answers, begun) ∧ Valid answers
  decides : ∀ offset, offset < tokens.size →
    Eff.Sustains (fun state => Valid state.1 ∧ True) (decideAt tokens offset patterns)
      fun outcome => outcome = (Except.ok (scan offset)).map (Option.map (·.at offset))
  /-- Before the alternatives others may have been tried, none of which succeeds at the offset. -/
  leftmost : patterns.all (·.searches) = true → ∀ offset, offset ≤ tokens.size → ∀ tried best,
    Leftmost tried tokens.size offset (.ok best) →
    (∀ first, best = some first → first.start ≠ offset) →
    Eff.Sustains (fun state => Valid state.1 ∧ True) (leftmost tokens offset patterns best)
      (Leftmost (tried.orElse fun place => .ok (scan place)) tokens.size offset)

namespace AnswersLeftmost

variable {patterns rest : List (Pattern World α)}

theorem nil : AnswersLeftmost ([] : List (Pattern World α)) tokens (fun _ => none)
    fun _ => True where
  scans _ _ _ := rfl
  starts world := ⟨(), world, rfl, trivial⟩
  decides _ _ := .pure rfl
  leftmost _ offset _ tried best leftmost _ := by
    rw [Verdicts.orElse_never]
    exact .pure leftmost

theorem cons {pattern : Pattern World α} {Valid : Answers rest → Prop}
    (first : pattern.AnswersLeftmost tokens scan)
    (later : AnswersLeftmost rest tokens others Valid) :
    ∃ Both, AnswersLeftmost (pattern :: rest) tokens
      (fun place => (scan place).or (others place)) Both := by
  obtain ⟨Remembers, begins, finds⟩ := first.exists_remembers
  refine ⟨fun answers =>
    answers.1.Valid Remembers (Leftmost (fun place => .ok (scan place)) tokens.size) ∧
      Valid answers.2, ?_⟩
  constructor
  case scans =>
    intro place inside world
    have scanned := first.scans place inside world
    simp only [Choice.scan, Eff.bind_apply]
    rcases ran : pattern.scan tokens place world with ⟨outcome, after⟩
    rw [ran] at scanned
    obtain rfl : outcome = .ok (scan place) := scanned
    cases scan place with
    | none => exact later.scans place inside after
    | some hit => rfl
  case starts =>
    intro world
    obtain ⟨memory, begun, started, remembers⟩ := begins world
    obtain ⟨answers, after, startedRest, valid⟩ := later.starts begun
    refine ⟨(⟨memory, none, none⟩, answers), after, ?_, .unasked remembers, valid⟩
    simp only [start]
    rw [Eff.bind_ok started, Eff.bind_ok startedRest]
    rfl
  case decides =>
    intro offset inside
    have both place : .ok ((scan place).or (others place)) =
        Verdicts.orElse (fun place => .ok (scan place)) (fun place => .ok (others place)) place :=
      (congrFun (Verdicts.orElse_ok scan others) place).symm
    rw [both]
    refine sustains_decideAt_cons (fun _ => True) ?_ (later.decides offset inside)
    exact sustains_decideFirst (fun _ => True) inside (first.sustains_scan inside)
      fun searches => finds searches offset inside.le
  case leftmost =>
    intro searches offset inside tried best before ahead
    rw [List.all_cons, Bool.and_eq_true] at searches
    rw [← Verdicts.orElse_ok]
    exact sustains_leftmost_cons (fun _ => True) inside (finds searches.1 offset inside)
      (later.leftmost searches.2 offset inside) before ahead

theorem of_forall₂ {scans : List (Nat → Option (Hit α))}
    (each : List.Forall₂ (fun pattern scan => pattern.AnswersLeftmost tokens scan) patterns
      scans) :
    ∃ Valid, AnswersLeftmost patterns tokens (fun place => scans.findSome? (· place)) Valid := by
  induction each with
  | nil => exact ⟨_, nil⟩
  | @cons pattern scan patterns scans first _ ih =>
      obtain ⟨Valid, later⟩ := ih
      obtain ⟨Both, answers⟩ := cons first later
      refine ⟨Both, ?_⟩
      have same place : List.findSome? (· place) (scan :: scans) =
          (scan place).or (scans.findSome? (· place)) := by
        rw [List.findSome?_cons]
        cases scan place <;> rfl
      simpa only [same] using answers

theorem sustains_find {Valid : Answers patterns → Prop}
    (answers : AnswersLeftmost patterns tokens scan Valid) (inside : offset ≤ tokens.size) :
    Eff.Sustains (fun state => Valid state.1) (find patterns tokens offset)
      (Leftmost (fun place => .ok (scan place)) tokens.size offset) := by
  unfold find
  split
  · rename_i searches
    have untried : Leftmost (fun _ => .ok none) tokens.size offset
        (.ok (none : Option (Found α))) := .absent fun _ _ _ => rfl
    have first := answers.leftmost searches offset inside _ none untried nofun
    simp only [and_true] at first
    exact first
  · have total : Prompt (fun place => .ok (scan place)) tokens.size :=
      .of_total fun _ _ _ => nofun
    refine sustains_firstFrom total (fun place within => ?_) offset
    simpa only [and_true] using answers.decides place within

end AnswersLeftmost

end Choice

/-- A choice of alternatives that answer every search with the first occurrence answers every
sequence of searches so, whatever their order, and so does each search of its own. What occurs at a
place is what the first alternative finds that succeeds there, even if it consumes nothing. -/
theorem Pattern.choice_answers_any_order {patterns : List (Pattern World α)}
    {scans : List (Nat → Option (Hit α))}
    (each : List.Forall₂ (fun pattern scan => pattern.AnswersLeftmost tokens scan) patterns
      scans) :
    let scan place := scans.findSome? (· place)
    (Pattern.choice patterns).AnswersLeftmost tokens scan ∧
    ∀ world, ∃ memory begun,
      (Pattern.choice patterns).finder.start tokens world = (.ok memory, begun) ∧
      (∀ offsets : List Nat, (∀ offset ∈ offsets, offset ≤ tokens.size) → ∃ answers later,
        offsets.mapM ((Pattern.choice patterns).finder.find tokens) (memory, begun) =
          (.ok answers, later) ∧
        List.Forall₂ (fun offset answer =>
          Leftmost (fun place => .ok (scan place)) tokens.size offset (.ok answer))
          offsets answers) ∧
      ∀ offset, offset ≤ tokens.size → ∃ answer after,
        (Pattern.choice patterns).search tokens offset world = (.ok answer, after) ∧
        Leftmost (fun place => .ok (scan place)) tokens.size offset (.ok answer) := by
  intro scan
  obtain ⟨Valid, answers⟩ := Choice.AnswersLeftmost.of_forall₂ each
  have finds offset (inside : offset ≤ tokens.size) := answers.sustains_find inside
  refine ⟨⟨answers.scans, fun _ => ⟨Valid, answers.starts, finds⟩⟩, fun world => ?_⟩
  obtain ⟨memory, begun, started, valid⟩ := answers.starts world
  refine ⟨memory, begun, started, ?_, ?_⟩
  · intro offsets inside
    obtain ⟨-, found, same, each⟩ := sustains_searches finds inside (memory, begun) valid
    exact ⟨found, _, Prod.ext same rfl, each⟩
  · intro offset inside
    obtain ⟨-, leftmost⟩ := finds offset inside (memory, begun) valid
    rcases found : Choice.find patterns tokens offset (memory, begun) with ⟨outcome, later, after⟩
    rw [found] at leftmost
    obtain ⟨answer, rfl⟩ := leftmost.exists_ok
    refine ⟨answer, after, ?_, leftmost⟩
    show (do
      let memory ← Choice.start tokens patterns
      return (← (Choice.finder patterns).ask tokens offset memory).1 :
        Eff World (Option (Found α))) world = _
    have asked : (Choice.finder patterns).ask tokens offset memory begun =
        (.ok (answer, later), after) := by
      simp only [Finder.ask, Eff.remembering, Choice.finder, found]
    rw [Eff.bind_ok started, Eff.bind_ok asked]
    rfl

/-- A literal before a run that consumes nothing where its token is missing. -/
theorem Pattern.literal_or_run_backwards :
    let literal : Literal := ⟨.ofString "ab", true⟩
    let predicate token := decide (token = Tokens.ofString "a")
    let run : Run Unit := ⟨fun token => pure (predicate token), 0, none⟩
    let tokens := Tokens.ofString "aaAB"
    let patterns := [literal.pattern, run.pattern none]
    let scans := [literal.scan? tokens, run.verdict predicate tokens]
    List.Forall₂ (fun pattern scan => pattern.AnswersLeftmost tokens scan) patterns scans ∧
    ∃ memory begun answers later,
      (Pattern.choice patterns).finder.start tokens () = (.ok memory, begun) ∧
      [2, 0, 4, 0].mapM ((Pattern.choice patterns).finder.find tokens) (memory, begun) =
        (.ok answers, later) ∧
      List.Forall₂ (fun offset answer =>
        Leftmost (fun place => .ok (scans.findSome? (· place))) 4 offset (.ok answer))
        [2, 0, 4, 0] answers := by
  intro literal predicate run tokens patterns scans
  have each : List.Forall₂ (fun pattern scan => pattern.AnswersLeftmost tokens scan) patterns
      scans :=
    .cons (.of_exact (literal.exact_pattern rfl))
      (.cons (.of_exact (Run.exact_pattern rfl none)) .nil)
  obtain ⟨memory, begun, started, asks, -⟩ := (choice_answers_any_order each).2 ()
  obtain ⟨answers, later, asked, leftmost⟩ := asks [2, 0, 4, 0] (by decide)
  exact ⟨each, memory, begun, answers, later, started, asked, leftmost⟩

end SpanEdit
