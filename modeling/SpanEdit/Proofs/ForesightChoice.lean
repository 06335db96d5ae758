import SpanEdit.Proofs.ExactChoice
import SpanEdit.Proofs.Foresight

/-!
A choice raises faults where its alternatives let foresee them. An answer that is kept was given
without a fault, and so none is raised until a search begins that would not repeat it.
-/

namespace SpanEdit

variable {World α : Type} {scan other : Verdicts α} {size offset : Nat}

theorem Choice.earlier_eq_or (best found : Option (Found α)) :
    earlier best found = best ∨ earlier best found = found := by
  unfold earlier
  split
  · split
    · exact .inr rfl
    · exact .inl rfl
  · exact .inr rfl
  · exact .inl rfl

namespace First

theorem eq_none {best : Option (Found α)} (first : First scan size offset best)
    (inside : offset < size) (ahead : ∀ found, best = some found → found.start ≠ offset) :
    scan offset = .ok none :=
  first.leftmost_succ.eq_none (Nat.lt_succ_of_lt inside) ahead

theorem settled {found : Found α} (first : First scan size offset (some found))
    (here : found.start = offset) : First (scan.orElse other) size offset (some found) :=
  .of_leftmost_succ (first.leftmost_succ.settled here) first.inside

theorem merge {best found : Option (Found α)} (first : First scan size offset best)
    (second : First other size offset found) :
    First (scan.orElse other) size offset (Choice.earlier best found) := by
  refine .of_leftmost_succ (first.leftmost_succ.merge second.leftmost_succ) ?_
  rcases Choice.earlier_eq_or best found with same | same <;> rw [same]
  · exact first.inside
  · exact second.inside

theorem at_offset {found : Found α} (first : First scan size offset (some found))
    (here : found.start = offset) : scan offset ≠ .ok none := by
  cases first with
  | found ordered inside misses scans =>
      have same := Int.ofNat_inj.mp here
      rw [← same, scans]
      exact nofun

end First

theorem Misses.of_orElse {first last : Nat} (misses : Misses (scan.orElse other) first last) :
    Misses scan first last ∧ Misses other first last := by
  have both place (above : first ≤ place) (below : place < last) :
      scan place = .ok none ∧ other place = .ok none := by
    have none := misses place above below
    rcases answer : scan place with fault | _ | hit
    · rw [Verdicts.orElse_of_error answer] at none
      cases none
    · rw [Verdicts.orElse_of_none answer] at none
      exact ⟨rfl, none⟩
    · rw [Verdicts.orElse_of_some answer] at none
      cases none
  exact ⟨fun place above below => (both place above below).1,
    fun place above below => (both place above below).2⟩

/-- An answer that is kept was given without a fault, and a search that trips at an offset further
on would have tripped before. -/
theorem Pattern.Foreseen.lasting {pattern : Pattern World α} {tokens : Tokens} {Begins : Prop}
    {Trips : Nat → Prop} (foreseen : pattern.Foreseen tokens scan Begins Trips) :
    LastAnswer.Lasting tokens.size (Foretold tokens.size scan Trips) := by
  rintro asked offset answer forward inside ahead ⟨steady, found⟩
  have misses : Misses scan asked offset := by
    cases found with
    | absent misses => exact misses.mono (Nat.le_refl asked) (Nat.le_succ_of_le inside)
    | found ordered within misses scans =>
        exact misses.mono (Nat.le_refl asked) (Int.ofNat_le.mp (ahead _ rfl))
  refine ⟨fun trips => steady (foreseen.steady asked offset forward misses trips), ?_⟩
  exact .of_leftmost_succ (found.leftmost_succ.later forward ahead) found.inside

namespace Choice

/-- Asking an alternative about a place raises a fault: its search trips there, or it can only scan
and its scan raises one. -/
def Stumbles (searches : Bool) (scan : Verdicts α) (Trips : Nat → Prop) (place : Nat) : Prop :=
  if searches then Trips place else ∃ fault, scan place = .error fault

structure Foreseen (patterns : List (Pattern World α)) (tokens : Tokens) (scan : Verdicts α)
    (Begins : Prop) (Stalls : Nat → Prop) (Valid : Answers patterns → Prop) : Prop where
  scans : ∀ place, place < tokens.size → ∀ world,
    Choice.scan tokens place patterns world = (scan place, world)
  steady : patterns.all (·.searches) → ∀ asked offset, asked ≤ offset →
    Misses scan asked offset → Stalls offset → Stalls asked
  starts : ∀ world, Eff.Sustains (· = world) (start tokens patterns) (RaisesIff (¬Begins) Valid)
  decides : ∀ offset, offset < tokens.size → ∀ world,
    Eff.Sustains (fun state => Valid state.1 ∧ state.2 = world) (decideAt tokens offset patterns)
      (RaisesIff (Stalls offset) fun answer =>
        .ok answer = (scan offset).map (Option.map (·.at offset)))
  /-- Before the alternatives others may have been tried, none of which succeeds at the offset. -/
  leftmost : patterns.all (·.searches) → ∀ offset, offset < tokens.size → ∀ world tried best,
    First tried tokens.size offset best →
    (∀ first, best = some first → first.start ≠ offset) →
    Eff.Sustains (fun state => Valid state.1 ∧ state.2 = world)
      (leftmost tokens offset patterns best)
      (RaisesIff (Stalls offset) (First (tried.orElse scan) tokens.size offset))

namespace Foreseen

variable {tokens : Tokens} {world : World}

theorem nil : Foreseen ([] : List (Pattern World α)) tokens (fun _ => .ok none) True
    (fun _ => False) fun _ => True where
  scans _ _ _ := rfl
  steady _ _ _ _ _ stalls := stalls
  starts _ := .pure ⟨not_not_intro trivial, trivial⟩
  decides _ _ _ := .pure ⟨not_false, rfl⟩
  leftmost _ _ _ _ _ _ first _ := by
    rw [Verdicts.orElse_never]
    exact .pure ⟨not_false, first⟩

variable {pattern : Pattern World α} {rest : List (Pattern World α)} {others : Verdicts α}
  {Begins Starts : Prop} {Trips Stalls : Nat → Prop} {Valid : Answers rest → Prop}
  {Remembers : pattern.finder.Memory → Prop}

theorem sustains_first (first : pattern.Foreseen tokens scan Begins Trips)
    (inside : offset < tokens.size)
    (finds : Eff.Sustains (fun state => Remembers state.1 ∧ state.2 = world)
      (pattern.finder.find tokens offset) (Foretold tokens.size scan Trips offset)) :
    Eff.Sustains (Kept Remembers (Foretold tokens.size scan Trips) Valid (· = world))
      (decideFirst tokens offset pattern)
      (RaisesIff (Stumbles pattern.searches scan Trips offset) fun answer =>
        .ok answer = (scan offset).map (Option.map (·.at offset))) := by
  unfold decideFirst Stumbles
  split
  · have asks := LastAnswer.sustains_ask (· = world) first.lasting inside.le finds
    refine (sustains_onFirst (· = world) asks Valid).map _ fun outcome raises => ?_
    exact raises.map fun answer found => (found.leftmost fun _ _ => rfl).filter_eq inside
  · rintro ⟨answers, now⟩ ⟨valid, same⟩
    simp only [Eff.bind_apply, Eff.besideMemory, Eff.within, first.scans offset inside]
    rcases answer : scan offset with fault | hit
    · exact ⟨⟨valid, same⟩, fault, rfl⟩
    · exact ⟨⟨valid, same⟩, by simp, rfl⟩

theorem searches_cons (searches : (pattern :: rest).all (·.searches)) :
    pattern.searches = true ∧ rest.all (·.searches) = true := by
  simpa using searches

abbrev StallsCons (searches : Bool) (scan : Verdicts α) (Trips Stalls : Nat → Prop)
    (place : Nat) : Prop :=
  Stumbles searches scan Trips place ∨ (scan place = .ok none ∧ Stalls place)

theorem decides_cons (first : pattern.Foreseen tokens scan Begins Trips)
    (inside : offset < tokens.size)
    (finds : Eff.Sustains (fun state => Remembers state.1 ∧ state.2 = world)
      (pattern.finder.find tokens offset) (Foretold tokens.size scan Trips offset))
    (later : Foreseen rest tokens others Starts Stalls Valid) :
    Eff.Sustains (Kept Remembers (Foretold tokens.size scan Trips) Valid (· = world))
      (decideAt tokens offset (pattern :: rest))
      (RaisesIff (StallsCons pattern.searches scan Trips Stalls offset) fun answer =>
        .ok answer = (scan.orElse others offset).map (Option.map (·.at offset))) := by
  rw [decideAt_cons]
  refine (sustains_first first inside finds).bind ?_ fun fault stumbles => .inl stumbles
  rintro found ⟨steady, decided⟩
  rcases answer : scan offset with fault | _ | hit <;> rw [answer] at decided <;> cases decided
  · rw [Verdicts.orElse_of_none answer]
    refine (sustains_onRest (· = world) (later.decides offset inside world) _).weaken
      fun outcome raises => ?_
    exact raises.imp (by simp [StallsCons, steady, answer]) fun _ => id
  · rw [Verdicts.orElse_of_some answer]
    exact .pure ⟨by simp [StallsCons, steady, answer], rfl⟩

theorem leftmost_cons (first : pattern.Foreseen tokens scan Begins Trips)
    (searches : (pattern :: rest).all (·.searches)) (inside : offset < tokens.size)
    (finds : Eff.Sustains (fun state => Remembers state.1 ∧ state.2 = world)
      (pattern.finder.find tokens offset) (Foretold tokens.size scan Trips offset))
    (later : Foreseen rest tokens others Starts Stalls Valid) {tried : Verdicts α}
    {best : Option (Found α)} (before : First tried tokens.size offset best)
    (ahead : ∀ first, best = some first → first.start ≠ offset) :
    Eff.Sustains (Kept Remembers (Foretold tokens.size scan Trips) Valid (· = world))
      (Choice.leftmost tokens offset (pattern :: rest) best)
      (RaisesIff (StallsCons pattern.searches scan Trips Stalls offset)
        (First (tried.orElse (scan.orElse others)) tokens.size offset)) := by
  obtain ⟨searchesFirst, searchesRest⟩ := searches_cons searches
  have untried := before.eq_none inside ahead
  have asks := LastAnswer.sustains_ask (· = world) first.lasting inside.le finds
  refine (sustains_onFirst (· = world) asks Valid).bind ?_ fun fault trips => .inl ?_
  · rintro found ⟨steady, answered⟩
    -- What was tried before and this alternative count as one scan from here on.
    have merged := before.merge answered
    have here : tried.orElse scan offset = scan offset := Verdicts.orElse_of_none untried
    rw [← Verdicts.orElse_assoc]
    have goesOn (ahead : ∀ first, earlier best found = some first → first.start ≠ offset) :
        Eff.Sustains (Kept Remembers (Foretold tokens.size scan Trips) Valid (· = world))
          (onRest (Choice.leftmost tokens offset rest (earlier best found)))
          (RaisesIff (StallsCons pattern.searches scan Trips Stalls offset)
            (First ((tried.orElse scan).orElse others) tokens.size offset)) := by
      have rests := later.leftmost searchesRest offset inside world _ _ merged ahead
      refine (sustains_onRest (· = world) rests _).weaken fun outcome raises =>
        raises.imp ?_ fun _ => id
      have none := here.symm.trans (merged.eq_none inside ahead)
      simp [StallsCons, Stumbles, searchesFirst, steady, none]
    rcases better : earlier best found with _ | nearest
    · rw [better] at goesOn
      exact goesOn nofun
    · by_cases reached : nearest.start = offset
      · simp only [reached, ↓reduceIte]
        rw [better] at merged
        refine .pure ⟨?_, merged.settled reached⟩
        have found := merged.at_offset reached
        rw [here] at found
        simp [StallsCons, Stumbles, searchesFirst, steady, found]
      · simp only [reached, ↓reduceIte]
        rw [better] at goesOn
        refine goesOn ?_
        intro other same
        rwa [← Option.some.inj same]
  · rw [Stumbles, if_pos searchesFirst]
    exact trips

theorem starts_cons {world : World}
    (first : Eff.Sustains (· = world) (pattern.finder.start tokens)
      (RaisesIff (¬Begins) Remembers))
    (later : Foreseen rest tokens others Starts Stalls Valid) (Expected) :
    Eff.Sustains (· = world) (start tokens (pattern :: rest))
      (RaisesIff (¬(Begins ∧ Starts)) fun answers =>
        answers.1.Valid Remembers Expected ∧ Valid answers.2) := by
  refine first.bind ?_ fun fault refused both => refused both.1
  rintro memory ⟨begins, remembers⟩
  refine (later.starts world).bind ?_ fun fault refused both => refused both.2
  rintro answers ⟨starts, valid⟩
  refine .pure ⟨?_, .unasked remembers, valid⟩
  simp only [not_not] at begins starts ⊢
  exact ⟨begins, starts⟩

theorem cons (first : pattern.Foreseen tokens scan Begins Trips)
    (later : Foreseen rest tokens others Starts Stalls Valid) :
    ∃ Both, Foreseen (pattern :: rest) tokens (scan.orElse others) (Begins ∧ Starts)
      (StallsCons pattern.searches scan Trips Stalls) Both := by
  obtain ⟨Remembers, begins, finds⟩ := first.finds
  refine ⟨fun answers =>
    answers.1.Valid Remembers (Foretold tokens.size scan Trips) ∧ Valid answers.2, ?_⟩
  constructor
  case scans =>
    intro place inside world
    simp only [Choice.scan, Eff.bind_apply, first.scans place inside, Verdicts.orElse]
    rcases scan place with fault | _ | hit
    · rfl
    · exact later.scans place inside world
    · rfl
  case steady =>
    intro searches asked offset ordered misses
    obtain ⟨searchesFirst, searchesRest⟩ := searches_cons searches
    obtain ⟨missesFirst, missesRest⟩ := misses.of_orElse
    rintro (trips | ⟨none, stalls⟩)
    · rw [Stumbles, if_pos searchesFirst] at trips
      refine .inl ?_
      rw [Stumbles, if_pos searchesFirst]
      exact first.steady asked offset ordered missesFirst trips
    · refine .inr ⟨?_, later.steady searchesRest asked offset ordered missesRest stalls⟩
      by_cases same : asked = offset
      · rw [same, none]
      · exact missesFirst asked (Nat.le_refl asked) (by omega)
  case starts => exact fun world => starts_cons (begins world) later _
  case decides =>
    exact fun offset inside world => decides_cons first inside (finds offset inside world) later
  case leftmost =>
    intro searches offset inside world tried best before ahead
    exact leftmost_cons first searches inside (finds offset inside world) later before ahead

end Foreseen

end Choice

namespace Choice.Foreseen

variable {patterns : List (Pattern World α)} {tokens : Tokens} {Begins : Prop}
  {Stalls : Nat → Prop} {Valid : Answers patterns → Prop}

theorem choice_of_searches (foreseen : Foreseen patterns tokens scan Begins Stalls Valid)
    (searches : patterns.all (·.searches)) :
    (Pattern.choice patterns).Foreseen tokens scan Begins (ComesTo scan tokens.size · Stalls) where
  scans := foreseen.scans
  steady _ _ ordered misses comes := comes.steady ordered misses
  finds := by
    refine ⟨Valid, foreseen.starts, fun offset inside world => ?_⟩
    show Eff.Sustains _ (find patterns tokens offset) _
    have untried : First (fun _ => .ok none) tokens.size offset (none : Option (Found α)) :=
      .absent fun _ _ _ => rfl
    have found := foreseen.leftmost searches offset inside world _ none untried nofun
    rw [find, if_pos searches]
    refine found.weaken fun outcome raises => raises.imp ?_ fun _ => id
    refine ⟨.here inside, ?_⟩
    rintro ⟨place, above, within, misses, stalls⟩
    exact foreseen.steady searches offset place above misses stalls

theorem choice_of_scans (foreseen : Foreseen patterns tokens scan Begins Stalls Valid)
    (scans : patterns.all (·.searches) = false) :
    (Pattern.choice patterns).Foreseen tokens (scan.until tokens.size) Begins
      (ComesTo (scan.until tokens.size) tokens.size · Stalls) where
  scans place inside world := by
    rw [Verdicts.until_of_lt inside]
    exact foreseen.scans place inside world
  steady _ _ ordered misses comes := comes.steady ordered misses
  finds := by
    refine ⟨Valid, foreseen.starts, fun offset inside world => ?_⟩
    show Eff.Sustains _ (find patterns tokens offset) _
    rw [find, if_neg (by simp [scans])]
    refine sustains_firstFrom_raisesIff (Verdicts.until_self _ _) (fun place inside => ?_) offset
    simp only [Verdicts.until_of_lt inside]
    exact foreseen.decides place inside world

end Choice.Foreseen

end SpanEdit
