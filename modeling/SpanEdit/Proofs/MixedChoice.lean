import SpanEdit.Proofs.AnyOrder
import SpanEdit.Proofs.FullRun

/-!
Mixed choices. With an alternative that can only scan, the search of a choice tries one offset after
the other and asks of every alternative that scans what a scan of the choice would ask. So a
separation by a mixed choice does, step by step, what it would do without searches.
-/

namespace SpanEdit

variable {World Memory α β : Type} {tokens : Tokens} {scan : Nat → Option (Hit α)}

/-- The scan always answers the same, and searches at increasing offsets answer with the first
occurrence from an offset on. Neither touches the world. -/
structure Pattern.SearchesForward (pattern : Pattern World α) (tokens : Tokens)
    (scan : Nat → Option (Hit α)) : Prop where
  scans : ∀ place, place < tokens.size → ∀ world,
    pattern.scan tokens place world = (.ok (scan place), world)
  finds : ∃ Ready : Nat → pattern.finder.Memory → Prop,
    (∀ world, ∃ memory, pattern.finder.start tokens world = (.ok memory, world) ∧
      ∀ offset, Ready offset memory) ∧
    ∀ offset, offset < tokens.size → ∀ memory world, Ready offset memory → ∃ answer later,
      pattern.finder.find tokens offset (memory, world) = (.ok answer, later, world) ∧
      Leftmost (fun place => .ok (scan place)) tokens.size offset (.ok answer) ∧
      ∀ next, offset < next → Ready next later

theorem Pattern.SearchesForward.of_exact {pattern : Pattern World α}
    (exact : pattern.Exact tokens fun place => .ok (scan place)) :
    pattern.SearchesForward tokens scan := by
  obtain ⟨Valid, ⟨memory, valid, starts⟩, finds⟩ := exact.finds
  constructor
  · exact exact.scans
  · refine ⟨fun _ => Valid, fun world => ⟨memory, starts world, fun _ => valid⟩, ?_⟩
    intro offset inside memory world valid
    obtain ⟨⟨stays, same⟩, leftmost⟩ := finds offset inside.le world (memory, world) ⟨valid, rfl⟩
    obtain ⟨answer, answered⟩ := leftmost.exists_ok
    rw [answered] at leftmost
    exact ⟨answer, _, Prod.ext answered (Prod.ext rfl same), leftmost, fun _ _ => stays⟩

namespace LastAnswer

theorem ask_forward {find : Nat → Eff (Memory × World) (Option (Found α))}
    {Before After : Memory → Prop} {Expected : Nat → Except Fault (Option (Found α)) → Prop}
    {size offset : Nat} (lasting : Lasting size Expected) (inside : offset ≤ size) {world : World}
    (finds : ∀ memory, Before memory → ∃ answer later,
      find offset (memory, world) = (.ok answer, later, world) ∧
      Expected offset (.ok answer) ∧ After later)
    (goesOn : ∀ memory, Before memory → After memory)
    {last : LastAnswer Memory α} (valid : last.Valid Before Expected) :
    ∃ answer later, ask find offset (last, world) = (.ok answer, later, world) ∧
      Expected offset (.ok answer) ∧ later.Valid After Expected := by
  by_cases stale : last.isStale offset = true
  · obtain ⟨answer, later, found, expected, after⟩ := finds last.memory valid.remembers
    refine ⟨answer, ⟨later, some offset, answer⟩, ?_, expected, after, ?_⟩
    · simp only [ask, stale, ↓reduceIte, found]
    · intro asked same
      rwa [← Option.some.inj same]
  · have fresh : last.isStale offset = false := by simpa using stale
    have expected := valid.of_fresh lasting inside fresh
    refine ⟨last.answer, last, ?_, expected, goesOn _ valid.remembers, valid.answered⟩
    simp [ask, fresh]

end LastAnswer

/-- An alternative that can search does so; one that can only scan may do anything. -/
def Pattern.IsAlternative (pattern : Pattern World α) (tokens : Tokens) : Prop :=
  pattern.searches = true → ∃ scan, pattern.SearchesForward tokens scan

namespace Choice

structure DecidesForward (pattern : Pattern World α) (tokens : Tokens)
    (Ready : Nat → LastAnswer pattern.finder.Memory α → Prop) : Prop where
  later : ∀ next further last, next ≤ further → Ready next last → Ready further last
  starts : ∀ world, ∃ memory, pattern.finder.start tokens world = (.ok memory, world) ∧
    Ready 0 ⟨memory, none, none⟩
  decides : ∀ offset, offset < tokens.size → ∀ last, Ready offset last → ∀ world, ∃ later,
    (∀ {Rest : Type} (rest : Rest), decideFirst tokens offset pattern ((last, rest), world) =
      ((pattern.scan tokens offset world).1.map (Option.map (·.at offset)), (later, rest),
        (pattern.scan tokens offset world).2)) ∧
    Ready (offset + 1) later

theorem decidesForward_of_searches {pattern : Pattern World α} (searches : pattern.searches = true)
    (forward : pattern.SearchesForward tokens scan) :
    ∃ Ready, DecidesForward pattern tokens Ready := by
  obtain ⟨Ready, starts, finds⟩ := forward.finds
  refine ⟨fun next last => last.Valid (fun memory => ∀ offset, next ≤ offset → Ready offset memory)
    (Leftmost (fun place => .ok (scan place)) tokens.size), ?_⟩
  constructor
  case later =>
    intro next further last ordered valid
    constructor
    · intro offset after
      exact valid.remembers offset (Nat.le_trans ordered after)
    · exact valid.answered
  case starts =>
    intro world
    obtain ⟨memory, started, ready⟩ := starts world
    exact ⟨memory, started, .unasked fun offset _ => ready offset⟩
  case decides =>
    intro offset inside last valid world
    have found memory (ready : ∀ next, offset ≤ next → Ready next memory) :=
      finds offset inside memory world (ready offset (Nat.le_refl offset))
    obtain ⟨answer, later, asked, leftmost, after⟩ :=
      LastAnswer.ask_forward LastAnswer.lasting_leftmost inside.le found
        (fun memory ready next above => ready next (Nat.le_of_lt above)) valid
    refine ⟨later, fun rest => ?_, after⟩
    have decided := leftmost.filter_eq inside
    rw [forward.scans offset inside]
    simp only [decideFirst, searches, ↓reduceIte, onFirst, Eff.within, Eff.bind_apply, asked,
      Eff.pure_apply]
    rw [← decided]

theorem decidesForward_of_scans {pattern : Pattern World α} (scans : pattern.searches = false) :
    ∃ Ready, DecidesForward pattern tokens Ready := by
  refine ⟨fun _ _ => True, fun _ _ _ _ _ => trivial, ?_, ?_⟩
  · intro world
    obtain ⟨label, action, reach⟩ := pattern
    cases reach with
    | scanOnly => exact ⟨(), rfl, trivial⟩
    | searchable search => cases scans
    | incremental search finder => cases scans
  · intro offset inside last _ world
    refine ⟨last, fun rest => ?_, trivial⟩
    rcases ran : pattern.scan tokens offset world with ⟨fault | hit, after⟩ <;>
      simp [decideFirst, scans, Eff.bind_apply, Eff.besideMemory, Eff.within, ran, Except.map]

structure Forward (patterns : List (Pattern World α)) (tokens : Tokens)
    (Ready : Nat → Answers patterns → Prop) : Prop where
  later : ∀ next further answers, next ≤ further → Ready next answers → Ready further answers
  starts : ∀ world, ∃ answers, start tokens patterns world = (.ok answers, world) ∧
    Ready 0 answers
  decides : ∀ offset, offset < tokens.size → ∀ answers, Ready offset answers → ∀ world, ∃ later,
    decideAt tokens offset patterns (answers, world) =
      ((Choice.scan tokens offset patterns world).1.map (Option.map (·.at offset)), later,
        (Choice.scan tokens offset patterns world).2) ∧
    Ready (offset + 1) later

namespace Forward

variable {patterns rest : List (Pattern World α)}

theorem nil : Forward ([] : List (Pattern World α)) tokens fun _ _ => True where
  later _ _ _ _ _ := trivial
  starts _ := ⟨(), rfl, trivial⟩
  decides _ _ answers _ _ := ⟨answers, rfl, trivial⟩

theorem cons {pattern : Pattern World α}
    {Ready : Nat → LastAnswer pattern.finder.Memory α → Prop} {Others : Nat → Answers rest → Prop}
    (first : DecidesForward pattern tokens Ready) (others : Forward rest tokens Others) :
    Forward (pattern :: rest) tokens
      fun next answers => Ready next answers.1 ∧ Others next answers.2 := by
  constructor
  case later =>
    intro next further answers ordered ready
    exact ⟨first.later next further _ ordered ready.1, others.later next further _ ordered ready.2⟩
  case starts =>
    intro world
    obtain ⟨memory, started, ready⟩ := first.starts world
    obtain ⟨answers, startedRest, readyRest⟩ := others.starts world
    refine ⟨(⟨memory, none, none⟩, answers), ?_, ready, readyRest⟩
    simp only [start]
    rw [Eff.bind_ok started, Eff.bind_ok startedRest]
    rfl
  case decides =>
    rintro offset inside ⟨last, answers⟩ ⟨ready, readyRest⟩ world
    obtain ⟨later, decided, after⟩ := first.decides offset inside last ready world
    have stays := others.later offset (offset + 1) answers (Nat.le_succ offset) readyRest
    rw [decideAt_cons]
    rcases ran : pattern.scan tokens offset world with ⟨fault | _ | hit, between⟩ <;>
      simp only [ran] at decided
    · have scanned : Choice.scan tokens offset (pattern :: rest) world = (.error fault, between) :=
        Eff.bind_error ran _
      rw [scanned]
      exact ⟨(later, answers), Eff.bind_error (decided answers) _, after, stays⟩
    · have scanned : Choice.scan tokens offset (pattern :: rest) world =
          Choice.scan tokens offset rest between := Eff.bind_ok ran _
      obtain ⟨laterRest, decidedRest, afterRest⟩ :=
        others.decides offset inside answers readyRest between
      have both : onRest (decideAt tokens offset rest) ((later, answers), between) =
          ((Choice.scan tokens offset rest between).1.map (Option.map (·.at offset)),
            (later, laterRest), (Choice.scan tokens offset rest between).2) := by
        simp only [onRest, Eff.within, decidedRest]
      rw [scanned]
      exact ⟨(later, laterRest), (Eff.bind_ok (decided answers) _).trans both, after, afterRest⟩
    · have scanned : Choice.scan tokens offset (pattern :: rest) world =
          (.ok (some hit), between) := Eff.bind_ok ran _
      rw [scanned]
      exact ⟨(later, answers), Eff.bind_ok (decided answers) _, after, stays⟩

theorem of_forall (alternatives : ∀ pattern ∈ patterns, pattern.IsAlternative tokens) :
    ∃ Ready, Forward patterns tokens Ready := by
  induction patterns with
  | nil => exact ⟨_, nil⟩
  | cons pattern rest ih =>
      obtain ⟨Others, others⟩ :=
        ih fun other member => alternatives other (List.mem_cons_of_mem pattern member)
      have first : ∃ Ready, DecidesForward pattern tokens Ready := by
        cases searches : pattern.searches with
        | true =>
            obtain ⟨scan, forward⟩ := alternatives pattern List.mem_cons_self searches
            exact decidesForward_of_searches searches forward
        | false => exact decidesForward_of_scans searches
      obtain ⟨Ready, first⟩ := first
      exact ⟨_, cons first others⟩

end Forward

end Choice

def Pattern.Probes (pattern : Pattern World α) (tokens : Tokens)
    (Ready : Nat → pattern.finder.Memory → Prop) : Prop :=
  ∀ offset memory, Ready offset memory → ∀ world, ∃ later,
    pattern.finder.find tokens offset (memory, world) =
      ((pattern.probe tokens offset world).1, later, (pattern.probe tokens offset world).2) ∧
    ∀ found, (pattern.probe tokens offset world).1 = .ok (some found) →
      ∃ start : Nat, found.start = start ∧ offset ≤ start ∧ start < tokens.size ∧
        Ready (start + 1) later

theorem Choice.Forward.probes {patterns : List (Pattern World α)}
    {Ready : Nat → Choice.Answers patterns → Prop} (forward : Choice.Forward patterns tokens Ready)
    (mixed : patterns.all (·.searches) = false) :
    (Pattern.choice patterns).Probes tokens Ready := by
  intro offset answers ready world
  have attempts : (Pattern.choice patterns).finder.find tokens offset =
      firstFrom tokens.size (fun position => decideAt tokens position patterns) offset := by
    show Choice.find patterns tokens offset = _
    rw [find, if_neg (by simp [mixed])]
  rw [attempts]
  clear attempts
  induction offset using forwards tokens.size generalizing answers world with
  | step offset ih =>
      rw [firstFrom]
      by_cases inside : offset < tokens.size
      · obtain ⟨later, decided, after⟩ := forward.decides offset inside answers ready world
        rw [if_pos inside]
        rcases scanned : Choice.scan tokens offset patterns world with
          ⟨fault | _ | hit, between⟩ <;> rw [scanned] at decided
        · rw [Pattern.probe_of_error _ tokens inside scanned]
          refine ⟨later, Eff.bind_error decided _, ?_⟩
          intro found answered
          cases answered
        · rw [Pattern.probe_of_none _ tokens inside scanned]
          obtain ⟨last, found, behind⟩ :=
            ih inside (offset + 1) (Nat.lt_succ_self offset) later after between
          refine ⟨last, (Eff.bind_ok decided _).trans found, ?_⟩
          intro first answered
          obtain ⟨start, same, above, within, readyThen⟩ := behind first answered
          exact ⟨start, same, by omega, within, readyThen⟩
        · rw [Pattern.probe_of_some _ tokens inside scanned]
          refine ⟨later, Eff.bind_ok decided _, ?_⟩
          rintro _ ⟨⟩
          exact ⟨offset, rfl, Nat.le_refl offset, inside, after⟩
      · rw [if_neg inside, Pattern.probe_finished _ tokens (Nat.le_of_not_lt inside)]
        refine ⟨answers, rfl, ?_⟩
        intro found answered
        cases answered

namespace Separation

variable {pattern : Pattern World α} {position : Nat} {world now : World}

theorem scanning_of_probe (body : Segment α → β → Eff World (ForInStep β))
    (unfinished : position < tokens.size) (pending : Nat) (state : β) :
    scanning pattern tokens body pending position state = (do
      match ← (pattern.probe tokens position).leaving .generator with
      | none => finish tokens pending state body
      | some ⟨start, stop, value⟩ =>
          if stop ≤ start then scanning pattern tokens body pending (start.toNat + 1) state
          else if stop ≤ tokens.size then
            match ← emit tokens pending start.toNat stop.toNat value state body with
            | .done state => pure state
            | .yield state => scanning pattern tokens body stop.toNat stop.toNat state
          else outside pattern start.toNat stop tokens.size) := by
  -- As long as the scans fail, the loop and the probe make the same ones; then a hit decides both.
  unfold Pattern.probe
  induction position using forwards tokens.size with
  | step position ih =>
      rw [scanning, firstFrom, if_pos unfinished, if_pos unfinished]
      simp only [Eff.leaving_bind, bind_assoc, pure_bind]
      show (pattern.scan tokens position).leaving .generator >>= _ = _
      congr 1
      funext hit
      cases hit with
      | none =>
          simp only [Option.map]
          by_cases more : position + 1 < tokens.size
          · exact ih unfinished (position + 1) (Nat.lt_succ_self position) more
          · rw [scanning, firstFrom, if_neg more, if_neg more, Eff.leaving_pure, pure_bind]
      | some hit =>
          simp only [Option.map, Hit.at, Eff.leaving_pure, pure_bind]
          by_cases consumes : (position : Int) < hit.stop
          · have moves : ¬hit.stop ≤ (position : Int) := by omega
            exact (if_pos consumes).trans (if_neg moves).symm
          · have still : hit.stop ≤ (position : Int) := by omega
            exact (if_neg consumes).trans (if_pos still).symm

/-- Searching with a finder that probes is scanning at every offset. -/
theorem searching_of_probes {Ready : Nat → pattern.finder.Memory → Prop}
    (probes : pattern.Probes tokens Ready)
    (monotone : ∀ next further memory, next ≤ further → Ready next memory → Ready further memory)
    (body : Segment α → β → Eff World (ForInStep β)) (memory : pattern.finder.Memory)
    (pending position : Nat) (ready : Ready position memory) (state : β) (world : World) :
    searching pattern tokens body memory pending position state world =
      scanning pattern tokens body pending position state world := by
  induction position using forwards tokens.size generalizing memory pending state world with
  | step position ih =>
      by_cases unfinished : position < tokens.size
      · obtain ⟨later, found, behind⟩ := probes position memory ready world
        rw [scanning_of_probe body unfinished, searching, if_pos unfinished]
        rcases probed : pattern.probe tokens position world with
          ⟨fault | _ | ⟨place, stop, value⟩, now⟩ <;> simp only [probed] at found behind
        · have asked : pattern.finder.ask tokens position memory world = (.error fault, now) := by
            simp only [Finder.ask, Eff.remembering, found]
          rw [Eff.bind_error (Eff.leaving_error probed .generator)]
          exact Eff.bind_error (Eff.leaving_error asked .generator) _
        · have asked : pattern.finder.ask tokens position memory world =
              (.ok (none, later), now) := by
            simp only [Finder.ask, Eff.remembering, found]
          rw [Eff.bind_ok (Eff.leaving_ok probed .generator)]
          exact Eff.bind_ok (Eff.leaving_ok asked .generator) _
        · have asked : pattern.finder.ask tokens position memory world =
              (.ok (some ⟨place, stop, value⟩, later), now) := by
            simp only [Finder.ask, Eff.remembering, found]
          rw [Eff.bind_ok (Eff.leaving_ok probed .generator)]
          refine (Eff.bind_ok (Eff.leaving_ok asked .generator) _).trans ?_
          obtain ⟨start, same, above, within, readyThen⟩ := behind _ rfl
          obtain rfl : place = start := same
          have front : ¬(start : Int) < position := by omega
          have inside : ¬(tokens.size : Int) ≤ start := by omega
          simp only [front, inside, ↓reduceIte, Int.toNat_natCast]
          by_cases still : stop ≤ start
          · simp only [still, ↓reduceIte]
            exact ih unfinished (start + 1) (by omega) later pending readyThen state now
          · by_cases within : stop ≤ tokens.size
            · simp only [still, within, ↓reduceIte, Eff.bind_apply]
              rcases emit tokens pending start stop.toNat value state body now with
                ⟨fault | last | next, after⟩
              · rfl
              · rfl
              · have readyBehind :=
                  monotone (start + 1) stop.toNat later (by omega) readyThen
                exact ih unfinished stop.toNat (by omega) later stop.toNat readyBehind next after
            · simp only [still, within, ↓reduceIte]
      · rw [searching, scanning, if_neg unfinished, if_neg unfinished]

end Separation

/-- Whatever its scans do to the world, and whatever the loop body does, a separation by a mixed
choice scans at every offset. -/
theorem Pattern.run_mixed {patterns : List (Pattern World α)}
    (mixed : patterns.all (·.searches) = false)
    (alternatives : ∀ pattern ∈ patterns, pattern.IsAlternative tokens) (offset : Nat) (state : β)
    (body : Segment α → β → Eff World (ForInStep β)) (world : World) :
    Separation.run ⟨.choice patterns, tokens, offset⟩ state body world =
      Separation.scanning (.choice patterns) tokens body offset offset state world := by
  obtain ⟨Ready, forward⟩ := Choice.Forward.of_forall alternatives
  obtain ⟨answers, started, ready⟩ := forward.starts world
  have readyHere := forward.later 0 offset answers (Nat.zero_le offset) ready
  refine (Eff.bind_ok (Eff.leaving_ok started .generator) _).trans ?_
  exact Separation.searching_of_probes (forward.probes mixed) forward.later body answers offset
    offset readyHere state world

end SpanEdit
