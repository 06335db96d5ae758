import SpanEdit.Proofs.ExactCursor

/-!
Searches that may raise faults. A search looks at places further on than the offset that is being
decided, so it may raise a fault where scanning would not come to. Whether it does depends on the
pattern and the input alone, and not on what was asked before.
-/

namespace SpanEdit

variable {World α β : Type}

def RaisesIff (Raises : Prop) (Wanted : α → Prop) : Except Fault α → Prop
  | .ok value => ¬Raises ∧ Wanted value
  | .error _ => Raises

namespace RaisesIff

variable {Raises Other : Prop} {Wanted : α → Prop} {outcome : Except Fault α}

theorem imp {Weaker : α → Prop} (raises : RaisesIff Raises Wanted outcome)
    (same : Raises ↔ Other) (implies : ∀ value, Wanted value → Weaker value) :
    RaisesIff Other Weaker outcome := by
  cases outcome with
  | ok value => exact ⟨fun other => raises.1 (same.mpr other), implies value raises.2⟩
  | error fault => exact same.mp raises

theorem map {Better : β → Prop} {change : α → β} (raises : RaisesIff Raises Wanted outcome)
    (implies : ∀ value, Wanted value → Better (change value)) :
    RaisesIff Raises Better (outcome.map change) := by
  cases outcome with
  | ok value => exact ⟨raises.1, implies value raises.2⟩
  | error fault => exact raises

end RaisesIff

def ComesTo (scan : Verdicts α) (size offset : Nat) (Halts : Nat → Prop) : Prop :=
  ∃ place, offset ≤ place ∧ place < size ∧ Misses scan offset place ∧ Halts place

/-- From the offset on, the scan finds nothing until it raises a fault. The end of the input counts
as a place. -/
def Fails (scan : Verdicts α) (size offset : Nat) : Prop :=
  ComesTo scan (size + 1) offset fun place => ∃ fault, scan place = .error fault

namespace ComesTo

variable {scan : Verdicts α} {size offset : Nat} {Halts : Nat → Prop}

theorem steady {asked : Nat} (comes : ComesTo scan size offset Halts) (ordered : asked ≤ offset)
    (misses : Misses scan asked offset) : ComesTo scan size asked Halts := by
  obtain ⟨place, above, inside, none, halts⟩ := comes
  refine ⟨place, Nat.le_trans ordered above, inside, fun missed first last => ?_, halts⟩
  by_cases before : missed < offset
  · exact misses missed first before
  · exact none missed (Nat.le_of_not_lt before) last

theorem here (inside : offset < size) (halts : Halts offset) : ComesTo scan size offset Halts :=
  ⟨offset, Nat.le_refl offset, inside, Misses.empty (Nat.le_refl offset), halts⟩

theorem iff_here_or_later (inside : offset < size) : ComesTo scan size offset Halts ↔
    Halts offset ∨ (scan offset = .ok none ∧ ComesTo scan size (offset + 1) Halts) := by
  constructor
  · rintro ⟨place, above, within, misses, halts⟩
    by_cases arrived : place = offset
    · exact .inl (arrived ▸ halts)
    · have none := misses offset (Nat.le_refl offset) (by omega)
      exact .inr ⟨none, place, by omega, within, misses.mono (Nat.le_succ offset) (Nat.le_refl _),
        halts⟩
  · rintro (halts | ⟨none, later⟩)
    · exact here inside halts
    · refine later.steady (Nat.le_succ offset) fun place above below => ?_
      have same : place = offset := by omega
      rw [same, none]

end ComesTo

theorem First.not_fails {scan : Verdicts α} {size offset : Nat} {answer : Option (Found α)}
    (first : First scan size offset answer) : ¬Fails scan size offset := by
  rintro ⟨place, above, within, misses, fault, raised⟩
  cases first with
  | absent none =>
      rw [none place above within] at raised
      cases raised
  | @found start hit ordered inside none scans =>
      rcases Nat.lt_trichotomy place start with before | same | after
      · rw [none place above before] at raised
        cases raised
      · rw [same, scans] at raised
        cases raised
      · rw [misses start ordered after] at scans
        cases scans

theorem RaisesIff.of_first {scan : Verdicts α} {size offset : Nat} {answer : Option (Found α)}
    (first : First scan size offset answer) :
    RaisesIff (Fails scan size offset) (First scan size offset) (.ok answer) :=
  ⟨first.not_fails, first⟩

/-- Attempts at one place after the other raise a fault if they come to a place where an attempt
does, and otherwise find the first occurrence. -/
theorem sustains_firstFrom_raisesIff {State : Type} {Valid : State → Prop} {scan : Verdicts α}
    {size : Nat} {Halts : Nat → Prop} {attempt : Nat → Eff State (Option (Found α))}
    (ends : scan size = .ok none)
    (attempts : ∀ place, place < size → Eff.Sustains Valid (attempt place)
      (RaisesIff (Halts place) fun answer =>
        .ok answer = (scan place).map (Option.map (·.at place))))
    (offset : Nat) :
    Eff.Sustains Valid (firstFrom size attempt offset)
      (RaisesIff (ComesTo scan size offset Halts) (First scan size offset)) := by
  induction offset using forwards size with
  | step offset ih =>
      rw [firstFrom]
      split
      · rename_i inside
        refine (attempts offset inside).bind ?_ ?_
        · rintro answer ⟨goesOn, answers⟩
          -- After a miss it depends on the places further on, and after a hit on nothing else.
          rcases here : scan offset with _ | _ | hit <;> rw [here] at answers <;> cases answers
          · have later := ih inside (offset + 1) (Nat.lt_succ_self offset)
            refine later.weaken fun outcome raises =>
              raises.imp ?_ fun _ first => first.earlier here
            rw [ComesTo.iff_here_or_later inside]
            simp [goesOn, here]
          · refine .pure ⟨?_, .found (Nat.le_refl offset) inside.le
              (Misses.empty (Nat.le_refl offset)) here⟩
            rw [ComesTo.iff_here_or_later inside]
            simp [goesOn, here]
        · intro fault halts
          exact .here inside halts
      · rename_i finished
        refine .pure ⟨?_, .absent fun place above below => ?_⟩
        · rintro ⟨place, above, within, -⟩
          omega
        · have same : place = size := by omega
          rw [same, ends]

abbrev Foretold (size : Nat) (scan : Verdicts α) (Trips : Nat → Prop) (offset : Nat) :
    Except Fault (Option (Found α)) → Prop :=
  RaisesIff (Trips offset) (First scan size offset)

/-- A finder raises faults where it is foreseen: when it begins, unless it is to begin, and at the
offsets from which a search trips. It answers with first occurrences otherwise. -/
def Finder.Foreseen (finder : Finder World α) (tokens : Tokens) (scan : Verdicts α) (Begins : Prop)
    (Trips : Nat → Prop) : Prop :=
  ∃ Valid : finder.Memory → Prop,
    (∀ world, Eff.Sustains (· = world) (finder.start tokens) (RaisesIff (¬Begins) Valid)) ∧
    ∀ offset, offset < tokens.size → ∀ world,
      Eff.Sustains (fun state => Valid state.1 ∧ state.2 = world) (finder.find tokens offset)
        (Foretold tokens.size scan Trips offset)

structure Pattern.Foreseen (pattern : Pattern World α) (tokens : Tokens) (scan : Verdicts α)
    (Begins : Prop) (Trips : Nat → Prop) : Prop where
  scans : ∀ place, place < tokens.size → ∀ world,
    pattern.scan tokens place world = (scan place, world)
  /-- A search trips already from where it passes over misses only. -/
  steady : ∀ asked offset, asked ≤ offset → Misses scan asked offset → Trips offset → Trips asked
  finds : pattern.finder.Foreseen tokens scan Begins Trips

variable {tokens : Tokens} {scan : Verdicts α} {Begins : Prop} {Trips : Nat → Prop}

theorem Finder.foreseen_of_search {search : Tokens → Nat → Eff World (Option (Found α))}
    (searches : ∀ offset, offset < tokens.size → ∀ world, Eff.Sustains (· = world)
      (search tokens offset) (Foretold tokens.size scan Trips offset)) :
    Finder.Foreseen
      { Memory := Unit
        start := fun _ => pure ()
        find := fun tokens offset => (search tokens offset).besideMemory } tokens scan True
      Trips :=
  ⟨fun _ => True, fun _ => .pure ⟨not_not_intro trivial, trivial⟩,
    fun offset inside world => (searches offset inside world).besideMemory fun _ => True⟩

def Verdicts.change (change : Nat → Hit α → Hit β) (scan : Verdicts α) : Verdicts β := fun place =>
  (scan place).map (Option.map (change place))

theorem Misses.of_change {change : Nat → Hit α → Hit β} {first last : Nat}
    (misses : Misses (scan.change change) first last) : Misses scan first last := by
  intro place above below
  have none := misses place above below
  rcases answer : scan place with fault | _ | hit <;>
    simp [Verdicts.change, answer, Except.map] at none
  rfl

theorem Misses.change {first last : Nat} (misses : Misses scan first last)
    (change : Nat → Hit α → Hit β) : Misses (scan.change change) first last := by
  intro place above below
  rw [Verdicts.change, misses place above below]
  rfl

theorem First.change {size offset : Nat} {answer : Option (Found α)}
    (first : First scan size offset answer) {change : Nat → Hit α → Hit β}
    {changeFound : Found α → Found β}
    (places : ∀ start hit, changeFound (hit.at start) = (change start hit).at start) :
    First (scan.change change) size offset (answer.map changeFound) := by
  cases first with
  | absent misses => exact .absent (misses.change change)
  | found ordered inside misses scans =>
      rw [Option.map, places]
      exact .found ordered inside (misses.change change) (by rw [Verdicts.change, scans]; rfl)

theorem Finder.Foreseen.change {finder : Finder World α}
    (foreseen : finder.Foreseen tokens scan Begins Trips) {change : Nat → Hit α → Hit β}
    (changeFound : Found α → Found β)
    (places : ∀ start hit, changeFound (hit.at start) = (change start hit).at start)
    {find : Tokens → Nat → Eff (finder.Memory × World) (Option (Found β))}
    (same : ∀ offset, find tokens offset = do
      return (← finder.find tokens offset).map changeFound) :
    Finder.Foreseen ⟨finder.Memory, finder.start, find⟩ tokens (scan.change change) Begins
      Trips := by
  obtain ⟨Valid, begins, finds⟩ := foreseen
  refine ⟨Valid, begins, fun offset inside world => ?_⟩
  simp only [same]
  exact (finds offset inside world).map _ fun outcome raises =>
    raises.map fun answer first => first.change places

theorem fails_iff_comesTo {size offset : Nat} (ends : scan size = .ok none) :
    Fails scan size offset ↔
      ComesTo scan size offset fun place => ∃ fault, scan place = .error fault := by
  constructor
  · rintro ⟨place, above, within, misses, fault, raised⟩
    have unfinished : place ≠ size := by
      rintro rfl
      rw [ends] at raised
      cases raised
    exact ⟨place, above, by omega, misses, fault, raised⟩
  · rintro ⟨place, above, inside, raises⟩
    exact ⟨place, above, Nat.lt_succ_of_lt inside, raises⟩

theorem firstFrom_map (limit : Nat) (attempt : Nat → Eff World (Option α)) (change : α → β)
    (position : Nat) :
    firstFrom limit (fun place => do return (← attempt place).map change) position =
      (do return (← firstFrom limit attempt position).map change : Eff World (Option β)) := by
  induction position using forwards limit with
  | step position ih =>
      rw [firstFrom, firstFrom.eq_def limit attempt]
      split
      · rename_i unfinished
        simp only [bind_assoc, pure_bind]
        congr 1
        funext answer
        cases answer with
        | none => exact ih unfinished (position + 1) (Nat.lt_succ_self position)
        | some answer => rfl
      · rfl

namespace Pattern

variable {pattern : Pattern World α}

theorem probe_mapValues (pattern : Pattern World α) (change : α → β) (offset : Nat) :
    (pattern.mapValues change).probe tokens offset =
      (do return (← pattern.probe tokens offset).map (·.map change) :
        Eff World (Option (Found β))) := by
  rw [probe, probe, ← firstFrom_map]
  congr 1
  funext start
  simp only [mapValues, bind_assoc, pure_bind]
  congr 1
  funext hit
  cases hit <;> rfl

/-- Without a search of its own, a pattern trips where its scan fails. -/
theorem foreseen_of_scan {label : Label} {action : Tokens → Nat → Eff World (Option (Hit α))}
    (scans : ∀ place, place < tokens.size → ∀ world,
      action tokens place world = (scan place, world)) (ends : scan tokens.size = .ok none) :
    Foreseen ⟨label, action, .scanOnly⟩ tokens scan True (Fails scan tokens.size) where
  scans := scans
  steady _ _ ordered misses fails := fails.steady ordered misses
  finds := by
    refine Finder.foreseen_of_search fun offset _ world => ?_
    refine Eff.Sustains.weaken (sustains_firstFrom_raisesIff ends (fun place inside => ?_) offset)
      fun outcome raises => raises.imp (fails_iff_comesTo ends).symm fun _ => id
    rintro _ rfl
    simp only [Eff.bind_apply, scans place inside]
    rcases answer : scan place with fault | hit
    · exact ⟨rfl, fault, rfl⟩
    · exact ⟨rfl, by simp, rfl⟩

namespace Foreseen

theorem scanOnly (foreseen : pattern.Foreseen tokens scan Begins Trips) :
    pattern.scanOnly.Foreseen tokens (scan.until tokens.size) True
      (Fails (scan.until tokens.size) tokens.size) :=
  foreseen_of_scan (fun place inside world => by
    rw [Verdicts.until_of_lt inside]
    exact foreseen.scans place inside world) (Verdicts.until_self _ _)

theorem labelled (foreseen : pattern.Foreseen tokens scan Begins Trips) (label : Label) :
    (pattern.labelled label).Foreseen tokens scan Begins Trips where
  scans := foreseen.scans
  steady := foreseen.steady
  finds := foreseen.finds

theorem change (foreseen : pattern.Foreseen tokens scan Begins Trips) {changed : Pattern World β}
    {change : Nat → Hit α → Hit β}
    (scans : ∀ place world, changed.scan tokens place world =
      (((pattern.scan tokens place world).1.map (Option.map (change place))),
        (pattern.scan tokens place world).2))
    (finds : changed.finder.Foreseen tokens (scan.change change) Begins Trips) :
    changed.Foreseen tokens (scan.change change) Begins Trips where
  scans place inside world := by
    rw [scans, foreseen.scans place inside world]
    rfl
  steady asked offset ordered misses := foreseen.steady asked offset ordered misses.of_change
  finds := finds

theorem captured (foreseen : pattern.Foreseen tokens scan Begins Trips) :
    pattern.captured.Foreseen tokens (scan.change fun place hit =>
      ⟨hit.stop, tokens.part place hit.stop, hit.value⟩) Begins Trips := by
  refine foreseen.change (fun place world => ?_) ?_
  · simp only [Pattern.captured, Eff.bind_apply]
    rcases pattern.scan tokens place world with ⟨fault | hit, changed⟩ <;> rfl
  · exact foreseen.finds.change (capture tokens) (fun _ _ => rfl) fun _ => rfl

theorem mapValues (foreseen : pattern.Foreseen tokens scan Begins Trips) (value : α → β) :
    (pattern.mapValues value).Foreseen tokens (scan.change fun _ hit => hit.map value) Begins
      Trips := by
  refine foreseen.change (fun place world => ?_) ?_
  · simp only [Pattern.mapValues, Eff.bind_apply]
    rcases pattern.scan tokens place world with ⟨fault | hit, changed⟩ <;> rfl
  · have finds := foreseen.finds
    obtain ⟨label, action, reach⟩ := pattern
    cases reach with
    | scanOnly =>
        refine finds.change (·.map value) (fun _ _ => rfl) fun offset => ?_
        have probed : probe _ tokens offset = _ :=
          probe_mapValues ⟨label, action, .scanOnly⟩ value offset
        exact (congrArg Eff.besideMemory probed).trans (Eff.besideMemory_map _ _)
    | searchable search =>
        exact finds.change (·.map value) (fun _ _ => rfl)
          fun offset => Eff.besideMemory_map (search tokens offset) _
    | incremental search finder =>
        exact finds.change (·.map value) (fun _ _ => rfl) fun _ => rfl

end Foreseen

end Pattern

def Verdicts.bind (change : α → Except Fault β) (scan : Verdicts α) : Verdicts β := fun place =>
  match scan place with
  | .ok (some hit) => (change hit.value).map fun value => some ⟨hit.stop, value⟩
  | .ok none => .ok none
  | .error fault => .error fault

section Mapped

variable {change : α → Except Fault β}

theorem Misses.of_bind {first last : Nat} (misses : Misses (scan.bind change) first last) :
    Misses scan first last := by
  intro place above below
  have none := misses place above below
  rcases answer : scan place with fault | _ | hit <;> simp only [Verdicts.bind, answer] at none
  · cases none
  · rfl
  · rcases changed : change hit.value with fault | value <;> simp [changed, Except.map] at none

theorem Misses.bind {first last : Nat} (misses : Misses scan first last)
    (change : α → Except Fault β) : Misses (scan.bind change) first last := by
  intro place above below
  rw [Verdicts.bind, misses place above below]

theorem First.raisesIff_convert {size offset : Nat} {answer : Option (Found α)}
    (first : First scan size offset answer) {Memory : Type} {Valid : Memory × World → Prop} :
    Eff.Sustains Valid
      (Pattern.convert (fun value => Eff.ofExcept (change value)) answer).besideMemory
      (RaisesIff (Fails (scan.bind change) size offset)
        (First (scan.bind change) size offset)) := by
  rintro ⟨memory, world⟩ valid
  cases first with
  | absent misses => exact ⟨valid, .of_first (.absent (misses.bind change))⟩
  | @found start hit ordered inside misses scans =>
      have there : scan.bind change start =
          (change hit.value).map fun value => some ⟨hit.stop, value⟩ := by
        rw [Verdicts.bind, scans]
      simp only [Pattern.convert, Eff.besideMemory, Eff.within, Eff.bind_apply, Hit.at]
      rcases changed : change hit.value with fault | value <;> rw [changed] at there
      · exact ⟨valid, start, ordered, Nat.lt_succ_of_le inside, misses.bind change, fault, there⟩
      · exact ⟨valid, .of_first (.found ordered inside (misses.bind change) there)⟩

theorem Pattern.Foreseen.mapped {pattern : Pattern World α}
    (foreseen : pattern.Foreseen tokens scan Begins Trips) (change : α → Except Fault β)
    (name : Option String) :
    (pattern.mapped (fun value => Eff.ofExcept (change value)) name).Foreseen tokens
      (scan.bind change) Begins
      fun offset => Trips offset ∨ Fails (scan.bind change) tokens.size offset where
  scans place inside world := by
    simp only [Pattern.mapped, Eff.bind_apply, foreseen.scans place inside, Verdicts.bind]
    rcases scan place with fault | _ | hit
    · rfl
    · rfl
    · simp only [Eff.bind_apply, Eff.ofExcept_apply]
      cases change hit.value <;> rfl
  steady asked offset ordered misses := by
    rintro (trips | fails)
    · exact .inl (foreseen.steady asked offset ordered misses.of_bind trips)
    · exact .inr (fails.steady ordered misses)
  finds := by
    obtain ⟨Valid, begins, finds⟩ := foreseen.finds
    refine ⟨Valid, begins, fun offset inside world => ?_⟩
    refine (finds offset inside world).bind ?_ fun fault trips => .inl trips
    rintro answer ⟨steady, first⟩
    refine first.raisesIff_convert.weaken fun outcome raises => raises.imp ?_ fun _ => id
    simp [steady]

end Mapped

def Verdicts.ofKind (kind : Kind) (tokens : Tokens) (scan : Verdicts α) : Verdicts α :=
  fun place => if tokens.kind = kind then scan place else .error (.kindMismatch kind tokens.kind)

theorem Verdicts.ofKind_of_same {kind : Kind} (same : tokens.kind = kind) (scan : Verdicts α) :
    Verdicts.ofKind kind tokens scan = scan := by
  funext place
  rw [ofKind, if_pos same]

def Literal.verdict (literal : Literal) (tokens : Tokens) : Verdicts Tokens :=
  .ofKind literal.value.kind tokens <|
    let scan : Verdicts Tokens := fun place => .ok (literal.scan? tokens place)
    if literal.ignoreCase then scan.until tokens.size else scan

theorem Literal.first_search? (literal : Literal) (sameKind : tokens.kind = literal.value.kind)
    (offset : Nat) :
    First (literal.verdict tokens) tokens.size offset (literal.search? tokens offset) := by
  rw [verdict, Verdicts.ofKind_of_same sameKind, search?]
  split
  · exact literal.first_scanFrom?
  · rename_i keepsCase
    exact literal.first_find? (by simpa using keepsCase)

theorem Literal.foreseen_pattern (literal : Literal) :
    (literal.pattern : Pattern World Tokens).Foreseen tokens (literal.verdict tokens) True
      (Fails (literal.verdict tokens) tokens.size) where
  scans place inside world := by
    simp only [pattern, requireKind_bind, verdict, Verdicts.ofKind]
    split
    · split
      · rw [Verdicts.until_of_lt inside]
        rfl
      · rfl
    · rfl
  steady _ _ ordered misses fails := fails.steady ordered misses
  finds := by
    refine Finder.foreseen_of_search fun offset inside world => ?_
    show Eff.Sustains _
      (do requireKind literal.value.kind tokens; return literal.search? tokens offset) _
    rw [requireKind_bind]
    by_cases sameKind : tokens.kind = literal.value.kind
    · rw [if_pos sameKind]
      exact .pure (.of_first (literal.first_search? sameKind offset))
    · rw [if_neg sameKind]
      rintro _ rfl
      exact ⟨rfl, .here (by omega) ⟨_, if_neg sameKind⟩⟩

theorem Regex.foreseen_pattern (regex : Regex) :
    (regex.pattern : Pattern World Regex.Match).Foreseen tokens
      (.ofKind regex.source.kind tokens (regex.verdict tokens)) (tokens.kind = regex.source.kind)
      (Fails (.ofKind regex.source.kind tokens (regex.verdict tokens)) tokens.size) where
  scans place inside world := by
    simp only [pattern, observed, requireKind_bind, Verdicts.ofKind]
    split <;> rfl
  steady _ _ ordered misses fails := fails.steady ordered misses
  finds := by
    refine ⟨fun memory => tokens.kind = regex.source.kind ∧ regex.Remembers tokens memory,
      fun world => ?_, fun offset inside world => ?_⟩
    · show Eff.Sustains _ (do requireKind regex.source.kind tokens; return none :
        Eff World (Option Cursor)) _
      rw [requireKind_bind]
      split
      · rename_i sameKind
        exact .pure ⟨not_not_intro sameKind, sameKind, by simp [Remembers]⟩
      · rename_i differs
        rintro _ rfl
        exact ⟨rfl, differs⟩
    · rintro ⟨memory, now⟩ ⟨⟨sameKind, remembers⟩, same⟩
      obtain ⟨⟨stays, unchanged⟩, answered⟩ :=
        regex.sustains_find inside.le world (memory, now) ⟨remembers, same⟩
      refine ⟨⟨⟨sameKind, stays⟩, unchanged⟩, ?_⟩
      rw [answered]
      rw [Verdicts.ofKind_of_same sameKind]
      exact .of_first (first_searchFrom? offset)

namespace Run

def raising (predicate : Tokens → Except Fault Bool) (atLeast : Nat) (atMost : Option Nat) :
    Run World :=
  ⟨fun token => .ofExcept (predicate token), atLeast, atMost⟩

def extent? (predicate : Tokens → Except Fault Bool) (tokens : Tokens) (limit position : Nat) :
    Except Fault Nat :=
  if position < limit then do
    if ← predicate (tokens.token position) then extent? predicate tokens limit (position + 1)
    else pure position
  else pure position
termination_by limit - position

variable (predicate : Tokens → Except Fault Bool) (atLeast : Nat) (atMost : Option Nat)

def verdict? (tokens : Tokens) : Verdicts Tokens :=
  .until tokens.size fun place =>
    let limit := (raising predicate atLeast atMost : Run Unit).limit tokens.size place
    (extent? predicate tokens limit place).map fun stop =>
      if stop - place < atLeast then none else some ⟨stop, tokens.slice place stop⟩

theorem extend_raising (tokens : Tokens) (limit position : Nat) :
    (raising predicate atLeast atMost : Run World).extend tokens limit position =
      .ofExcept (extent? predicate tokens limit position) := by
  induction position using forwards limit with
  | step position ih =>
      rw [extend, extent?]
      split
      · rename_i unfinished
        have next := ih unfinished (position + 1) (Nat.lt_succ_self position)
        funext world
        simp only [raising, Eff.bind_apply, Eff.ofExcept_apply]
        rcases predicate (tokens.token position) with fault | _ | _
        · rfl
        · rfl
        · exact congrFun next world
      · rfl

theorem foreseen_raising (name : Option String) :
    ((raising predicate atLeast atMost : Run World).pattern name).Foreseen tokens
      (verdict? predicate atLeast atMost tokens) True
      (Fails (verdict? predicate atLeast atMost tokens) tokens.size) := by
  refine Pattern.foreseen_of_scan (fun place inside world => ?_) (Verdicts.until_self _ _)
  rw [verdict?, Verdicts.until_of_lt inside, Run.scan, extend_raising]
  show _ = ((extent? predicate tokens
    ((raising predicate atLeast atMost : Run World).limit tokens.size place) place).map _, world)
  rcases extent? predicate tokens
    ((raising predicate atLeast atMost : Run World).limit tokens.size place) place with fault | stop
  · rfl
  · simp only [Eff.bind_apply, Eff.ofExcept_apply, Except.map]
    show (if stop - place < atLeast then _ else _ : Eff World _) world = _
    split <;> rfl

end Run

end SpanEdit
