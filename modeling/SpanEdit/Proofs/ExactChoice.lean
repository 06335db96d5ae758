import SpanEdit.Proofs.Exact

/-!
A choice of exact alternatives is exact. The answers that it keeps are leftmost from where they were
asked on, so one that is not stale is the answer at the asked offset too.
-/

namespace SpanEdit

variable {World Memory α : Type} {size : Nat} {scan : Verdicts α}

namespace LastAnswer

structure Valid (Remembers : Memory → Prop)
    (Expected : Nat → Except Fault (Option (Found α)) → Prop) (last : LastAnswer Memory α) :
    Prop where
  remembers : Remembers last.memory
  answered : ∀ asked, last.asked = some asked → Expected asked (.ok last.answer)

/-- Within the input, an answer stays as expected while the offset comes no further than the
occurrence. -/
def Lasting (size : Nat) (Expected : Nat → Except Fault (Option (Found α)) → Prop) : Prop :=
  ∀ (asked offset : Nat) (answer : Option (Found α)), asked ≤ offset → offset ≤ size →
    (∀ found, answer = some found → (offset : Int) ≤ found.start) →
    Expected asked (.ok answer) → Expected offset (.ok answer)

theorem lasting_leftmost : Lasting size (Leftmost scan size) :=
  fun _ _ _ forward _ ahead leftmost => leftmost.later forward ahead

variable {Remembers : Memory → Prop} {Expected : Nat → Except Fault (Option (Found α)) → Prop}

theorem Valid.unasked {memory : Memory} (remembers : Remembers memory) :
    Valid Remembers Expected (⟨memory, none, none⟩ : LastAnswer Memory α) := by
  refine ⟨remembers, ?_⟩
  intro asked impossible
  cases impossible

theorem Valid.of_fresh {last : LastAnswer Memory α} {offset : Nat}
    (lasting : Lasting size Expected) (inside : offset ≤ size)
    (valid : last.Valid Remembers Expected) (fresh : last.isStale offset = false) :
    Expected offset (.ok last.answer) := by
  rcases before : last.asked with _ | asked
  · simp [isStale, before] at fresh
  · simp only [isStale, before, Bool.or_eq_false_iff, decide_eq_false_iff_not] at fresh
    refine lasting asked offset _ (Nat.le_of_not_lt fresh.1) inside ?_
      (valid.answered asked before)
    intro found answered
    simpa [answered] using fresh.2

theorem sustains_ask {find : Nat → Eff (Memory × World) (Option (Found α))} {offset : Nat}
    (Holds : World → Prop) (lasting : Lasting size Expected) (inside : offset ≤ size)
    (finds : Eff.Sustains (fun state => Remembers state.1 ∧ Holds state.2) (find offset)
      (Expected offset)) :
    Eff.Sustains (fun state => state.1.Valid Remembers Expected ∧ Holds state.2)
      (ask find offset) (Expected offset) := by
  rintro ⟨last, now⟩ ⟨valid, holds⟩
  simp only [ask]
  split
  · obtain ⟨⟨remembers, kept⟩, expected⟩ := finds (last.memory, now) ⟨valid.remembers, holds⟩
    rcases answered : find offset (last.memory, now) with ⟨fault | answer, memory, after⟩ <;>
      simp only [answered] at remembers kept expected
    · exact ⟨⟨⟨remembers, valid.answered⟩, kept⟩, expected⟩
    · refine ⟨⟨⟨remembers, fun asked same => ?_⟩, kept⟩, expected⟩
      rwa [← Option.some.inj same]
  · rename_i fresh
    exact ⟨⟨valid, holds⟩, valid.of_fresh lasting inside (by simpa using fresh)⟩

end LastAnswer

namespace Choice

variable {First Rest β : Type} (Holds : World → Prop) {Expected : Except Fault β → Prop}

theorem sustains_onFirst {Valid : First → Prop} {action : Eff (First × World) β}
    (sustains : Eff.Sustains (fun state => Valid state.1 ∧ Holds state.2) action Expected)
    (Others : Rest → Prop) :
    Eff.Sustains (fun state => (Valid state.1.1 ∧ Others state.1.2) ∧ Holds state.2)
      (onFirst action) Expected := by
  rintro ⟨⟨first, rest⟩, now⟩ ⟨⟨valid, others⟩, holds⟩
  obtain ⟨⟨stays, kept⟩, expected⟩ := sustains (first, now) ⟨valid, holds⟩
  exact ⟨⟨⟨stays, others⟩, kept⟩, expected⟩

theorem sustains_onRest {Others : Rest → Prop} {action : Eff (Rest × World) β}
    (sustains : Eff.Sustains (fun state => Others state.1 ∧ Holds state.2) action Expected)
    (Valid : First → Prop) :
    Eff.Sustains (fun state => (Valid state.1.1 ∧ Others state.1.2) ∧ Holds state.2)
      (onRest action) Expected := by
  rintro ⟨⟨first, rest⟩, now⟩ ⟨⟨valid, others⟩, holds⟩
  obtain ⟨⟨stays, kept⟩, expected⟩ := sustains (rest, now) ⟨others, holds⟩
  exact ⟨⟨⟨valid, stays⟩, kept⟩, expected⟩

abbrev Kept (Remembers : First → Prop) (Expected : Nat → Except Fault (Option (Found α)) → Prop)
    (Valid : Rest → Prop) (Holds : World → Prop)
    (state : (LastAnswer First α × Rest) × World) : Prop :=
  (state.1.1.Valid Remembers Expected ∧ Valid state.1.2) ∧ Holds state.2

def decideFirst (tokens : Tokens) (offset : Nat) (pattern : Pattern World α) :
    Eff ((LastAnswer pattern.finder.Memory α × Rest) × World) (Option (Found α)) :=
  if pattern.searches then do
    return (← onFirst (LastAnswer.ask (pattern.finder.find tokens) offset)).filter fun first =>
      first.start == (offset : Int)
  else do
    return (← (pattern.scan tokens offset).besideMemory).map (·.at offset)

theorem decideAt_cons (tokens : Tokens) (offset : Nat) (pattern : Pattern World α)
    (rest : List (Pattern World α)) :
    decideAt tokens offset (pattern :: rest) =
      decideFirst tokens offset pattern >>= fun found =>
        match found with
        | some found => pure (some found)
        | none => onRest (decideAt tokens offset rest) := by
  simp only [decideAt, decideFirst]
  split
  · simp only [bind_assoc, pure_bind]
    rfl
  · simp only [bind_assoc, pure_bind]
    rfl

section Step

variable {tokens : Tokens} {offset : Nat} {pattern : Pattern World α}
  {rest : List (Pattern World α)} {others : Verdicts α} {Remembers : pattern.finder.Memory → Prop}
  {Valid : Answers rest → Prop} (Holds : World → Prop)

theorem sustains_decideFirst (inside : offset < tokens.size)
    (scans : Eff.Sustains Holds (pattern.scan tokens offset) (· = scan offset))
    (finds : pattern.searches = true → Eff.Sustains
      (fun state => Remembers state.1 ∧ Holds state.2) (pattern.finder.find tokens offset)
      (Leftmost scan tokens.size offset)) :
    Eff.Sustains (Kept Remembers (Leftmost scan tokens.size) Valid Holds)
      (decideFirst tokens offset pattern)
      fun outcome => outcome = (scan offset).map (Option.map (·.at offset)) := by
  unfold decideFirst
  split
  · rename_i searches
    have asks := LastAnswer.sustains_ask Holds LastAnswer.lasting_leftmost inside.le
      (finds searches)
    refine (sustains_onFirst Holds asks Valid).map _ fun outcome leftmost => ?_
    rcases outcome with fault | found
    · cases leftmost with
      | fault _ raised => rw [raised]; rfl
    · exact leftmost.filter_eq inside
  · rintro ⟨answers, now⟩ ⟨valid, holds⟩
    obtain ⟨kept, scanned⟩ := scans now holds
    rcases ran : pattern.scan tokens offset now with ⟨outcome, after⟩
    rw [ran] at kept scanned
    simp only [Eff.bind_apply, Eff.besideMemory, Eff.within, ran, scanned]
    rcases scan offset with fault | hit <;> exact ⟨⟨valid, kept⟩, rfl⟩

theorem sustains_decideAt_cons
    (first : Eff.Sustains (Kept Remembers (Leftmost scan tokens.size) Valid Holds)
      (decideFirst tokens offset pattern)
      fun outcome => outcome = (scan offset).map (Option.map (·.at offset)))
    (later : Eff.Sustains (fun state => Valid state.1 ∧ Holds state.2)
      (decideAt tokens offset rest)
      fun outcome => outcome = (others offset).map (Option.map (·.at offset))) :
    Eff.Sustains (Kept Remembers (Leftmost scan tokens.size) Valid Holds)
      (decideAt tokens offset (pattern :: rest))
      fun outcome => outcome = (scan.orElse others offset).map (Option.map (·.at offset)) := by
  rw [decideAt_cons]
  refine first.bind ?_ ?_
  · intro found decided
    rcases answer : scan offset with fault | _ | hit <;> rw [answer] at decided <;> cases decided
    · rw [Verdicts.orElse_of_none answer]
      exact sustains_onRest Holds later _
    · rw [Verdicts.orElse_of_some answer]
      exact .pure rfl
  · intro fault decided
    rcases answer : scan offset with other | hit <;> rw [answer] at decided <;> cases decided
    rw [Verdicts.orElse_of_error answer]
    rfl

theorem sustains_leftmost_cons (inside : offset ≤ tokens.size)
    (finds : Eff.Sustains (fun state => Remembers state.1 ∧ Holds state.2)
      (pattern.finder.find tokens offset) (Leftmost scan tokens.size offset))
    (later : ∀ tried best, Leftmost tried tokens.size offset (.ok best) →
      (∀ first, best = some first → first.start ≠ offset) →
      Eff.Sustains (fun state => Valid state.1 ∧ Holds state.2) (leftmost tokens offset rest best)
        (Leftmost (tried.orElse others) tokens.size offset))
    {tried : Verdicts α} {best : Option (Found α)}
    (before : Leftmost tried tokens.size offset (.ok best))
    (ahead : ∀ first, best = some first → first.start ≠ offset) :
    Eff.Sustains (Kept Remembers (Leftmost scan tokens.size) Valid Holds)
      (leftmost tokens offset (pattern :: rest) best)
      (Leftmost (tried.orElse (scan.orElse others)) tokens.size offset) := by
  have asks := LastAnswer.sustains_ask Holds LastAnswer.lasting_leftmost inside finds
  refine (sustains_onFirst Holds asks Valid).bind ?_ ?_
  · intro found answered
    -- What was tried before and this alternative count as one scan from here on.
    have merged := before.merge answered
    rw [← Verdicts.orElse_assoc]
    rcases better : earlier best found with _ | first <;> rw [better] at merged
    · exact sustains_onRest Holds (later _ _ merged nofun) _
    · by_cases here : first.start = offset
      · simp only [here, ↓reduceIte]
        exact .pure (merged.settled here)
      · simp only [here, ↓reduceIte]
        refine sustains_onRest Holds (later _ _ merged ?_) _
        intro other same
        rwa [← Option.some.inj same]
  · intro fault answered
    cases answered with
    | fault within raised =>
        refine .fault within ?_
        rw [Verdicts.orElse_of_none (before.eq_none within ahead),
          Verdicts.orElse_of_error raised]

end Step

/-- The alternatives answer together what the verdicts say, as long as the answers that are kept are
valid. -/
structure Exact (patterns : List (Pattern World α)) (tokens : Tokens) (scan : Verdicts α)
    (Valid : Answers patterns → Prop) : Prop where
  scans : ∀ place, place < tokens.size → ∀ world,
    Choice.scan tokens place patterns world = (scan place, world)
  prompt : Prompt scan tokens.size
  reports : ∀ place, place < tokens.size → ∀ fault, scan place = .error fault →
    ∃ label offset position, fault = .outside label offset position tokens.size
  starts : ∃ answers, Valid answers ∧ ∀ world, start tokens patterns world = (.ok answers, world)
  decides : ∀ offset, offset < tokens.size → ∀ world,
    Eff.Sustains (fun state => Valid state.1 ∧ state.2 = world) (decideAt tokens offset patterns)
      fun outcome => outcome = (scan offset).map (Option.map (·.at offset))
  /-- Before the alternatives others may have been tried, none of which succeeds at the offset. -/
  leftmost : ∀ offset, offset ≤ tokens.size → ∀ world tried best,
    Leftmost tried tokens.size offset (.ok best) →
    (∀ first, best = some first → first.start ≠ offset) →
    Eff.Sustains (fun state => Valid state.1 ∧ state.2 = world)
      (leftmost tokens offset patterns best)
      (Leftmost (tried.orElse scan) tokens.size offset)

namespace Exact

variable {tokens : Tokens} {patterns rest : List (Pattern World α)} {others : Verdicts α}

theorem nil : Exact ([] : List (Pattern World α)) tokens (fun _ => .ok none) fun _ => True where
  scans _ _ _ := rfl
  prompt := .of_total fun _ _ _ => nofun
  reports _ _ _ := nofun
  starts := ⟨(), trivial, fun _ => rfl⟩
  decides _ _ _ := .pure rfl
  leftmost offset _ _ tried best leftmost _ := by
    rw [Verdicts.orElse_never]
    exact .pure leftmost

theorem cons (first : pattern.Exact tokens scan) (later : Exact rest tokens others Valid) :
    ∃ Both, Exact (pattern :: rest) tokens (scan.orElse others) Both := by
  obtain ⟨Remembers, ⟨memory, remembers, begins⟩, finds⟩ := first.finds
  obtain ⟨answers, valid, starts⟩ := later.starts
  refine ⟨fun answers =>
    answers.1.Valid Remembers (Leftmost scan tokens.size) ∧ Valid answers.2, ?_⟩
  constructor
  case scans =>
    intro place inside world
    simp only [Choice.scan, Eff.bind_apply, first.scans place inside, Verdicts.orElse]
    rcases scan place with fault | _ | hit
    · rfl
    · exact later.scans place inside world
    · rfl
  case prompt => exact first.prompt.orElse later.prompt
  case reports =>
    intro place inside fault raised
    rcases answer : scan place with other | _ | hit
    · rw [Verdicts.orElse_of_error answer] at raised
      cases raised
      exact first.reports place inside _ answer
    · rw [Verdicts.orElse_of_none answer] at raised
      exact later.reports place inside fault raised
    · rw [Verdicts.orElse_of_some answer] at raised
      cases raised
  case starts =>
    refine ⟨(⟨memory, none, none⟩, answers), ⟨.unasked remembers, valid⟩, fun world => ?_⟩
    simp only [start, Eff.bind_apply, begins, starts]
    rfl
  case decides =>
    intro offset inside world
    have scans : Eff.Sustains (· = world) (pattern.scan tokens offset) (· = scan offset) := by
      rintro _ rfl
      rw [first.scans offset inside]
      exact ⟨rfl, rfl⟩
    refine sustains_decideAt_cons (· = world) ?_ (later.decides offset inside world)
    exact sustains_decideFirst (· = world) inside scans fun _ => finds offset inside.le world
  case leftmost =>
    intro offset inside world tried best before ahead
    exact sustains_leftmost_cons (· = world) inside (finds offset inside world)
      (later.leftmost offset inside world) before ahead

theorem of_forall {patterns : List (Pattern World α)}
    (each : ∀ pattern ∈ patterns, ∃ scan, pattern.Exact tokens scan) :
    ∃ scan Valid, Exact patterns tokens scan Valid := by
  induction patterns with
  | nil => exact ⟨_, _, nil⟩
  | cons pattern rest ih =>
      obtain ⟨scan, first⟩ := each pattern List.mem_cons_self
      obtain ⟨others, Valid, later⟩ :=
        ih fun other member => each other (List.mem_cons_of_mem _ member)
      obtain ⟨Both, exact⟩ := cons first later
      exact ⟨_, Both, exact⟩

theorem choice {Valid : Answers patterns → Prop} (exact : Exact patterns tokens scan Valid) :
    (Pattern.choice patterns).Exact tokens scan where
  scans := exact.scans
  prompt := exact.prompt
  reports := exact.reports
  finds := by
    refine ⟨Valid, exact.starts, fun offset inside world => ?_⟩
    show Eff.Sustains _ (find patterns tokens offset) _
    unfold find
    split
    · have untried : Leftmost (fun _ => .ok none) tokens.size offset
          (.ok (none : Option (Found α))) :=
        .absent fun _ _ _ => rfl
      exact exact.leftmost offset inside world _ none untried nofun
    · exact sustains_firstFrom exact.prompt
        (fun place inside => exact.decides place inside world) offset

end Exact

end Choice

end SpanEdit
