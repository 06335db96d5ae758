import SpanEdit.Pattern.Literal
import SpanEdit.Pattern.Mapped
import SpanEdit.Pattern.Run
import SpanEdit.Proofs.Leftmost

/-!
Exact patterns: the scan answers the same whenever it is asked, the finder gives leftmost answers,
and neither touches the world.
-/

namespace SpanEdit

variable {World α β : Type}

def Finder.Exact (finder : Finder World α) (tokens : Tokens) (scan : Verdicts α) : Prop :=
  ∃ Valid : finder.Memory → Prop,
    (∃ memory, Valid memory ∧ ∀ world, finder.start tokens world = (.ok memory, world)) ∧
    ∀ offset, offset ≤ tokens.size → ∀ world,
      Eff.Sustains (fun state => Valid state.1 ∧ state.2 = world) (finder.find tokens offset)
        (Leftmost scan tokens.size offset)

namespace Pattern

structure Exact (pattern : Pattern World α) (tokens : Tokens) (scan : Verdicts α) : Prop where
  scans : ∀ place, place < tokens.size → ∀ world,
    pattern.scan tokens place world = (scan place, world)
  prompt : Prompt scan tokens.size
  reports : ∀ place, place < tokens.size → ∀ fault, scan place = .error fault →
    ∃ label offset position, fault = .outside label offset position tokens.size
  finds : pattern.finder.Exact tokens scan

end Pattern

theorem Eff.Sustains.besideMemory {Memory : Type} {world : World} {action : Eff World α}
    {Expected : Except Fault α → Prop} (sustains : Eff.Sustains (· = world) action Expected)
    (Valid : Memory → Prop) :
    Eff.Sustains (fun state : Memory × World => Valid state.1 ∧ state.2 = world)
      action.besideMemory Expected := by
  rintro ⟨memory, now⟩ ⟨valid, same⟩
  exact ⟨⟨valid, (sustains now same).1⟩, (sustains now same).2⟩

theorem Eff.besideMemory_map {Memory : Type} (action : Eff World α) (change : α → β) :
    (do return change (← action) : Eff World β).besideMemory =
      (do return change (← action.besideMemory) : Eff (Memory × World) β) := by
  funext ⟨memory, world⟩
  simp only [besideMemory, within, bind_apply]
  rcases action world with ⟨fault | value, changed⟩ <;> rfl

variable {tokens : Tokens} {scan : Verdicts α}

theorem Finder.exact_of_search {search : Tokens → Nat → Eff World (Option (Found α))}
    (leftmost : ∀ offset, offset ≤ tokens.size → ∀ world,
      Eff.Sustains (· = world) (search tokens offset) (Leftmost scan tokens.size offset)) :
    Finder.Exact
      { Memory := Unit
        start := fun _ => pure ()
        find := fun tokens offset => (search tokens offset).besideMemory } tokens scan :=
  ⟨fun _ => True, ⟨(), trivial, fun _ => rfl⟩,
    fun offset inside world => (leftmost offset inside world).besideMemory fun _ => True⟩

theorem Finder.Exact.change {finder : Finder World α} (exact : finder.Exact tokens scan)
    {change : Nat → Hit α → Hit β} (changeFound : Found α → Found β)
    (places : ∀ start hit, changeFound (hit.at start) = (change start hit).at start)
    (starts : ∀ found, (changeFound found).start = found.start)
    {find : Tokens → Nat → Eff (finder.Memory × World) (Option (Found β))}
    (same : ∀ offset, find tokens offset = do
      return (← finder.find tokens offset).map changeFound) :
    Finder.Exact ⟨finder.Memory, finder.start, find⟩ tokens
      (fun place => (scan place).map (Option.map (change place))) := by
  obtain ⟨Valid, begins, finds⟩ := exact
  refine ⟨Valid, begins, fun offset inside world => ?_⟩
  simp only [same]
  exact (finds offset inside world).map _ fun outcome leftmost => leftmost.map places starts

namespace Pattern

theorem sustains_probe (pattern : Pattern World α)
    (scans : ∀ place, place < tokens.size → ∀ world,
      pattern.scan tokens place world = (scan place, world))
    (prompt : Prompt scan tokens.size) (offset : Nat) (world : World) :
    Eff.Sustains (· = world) (pattern.probe tokens offset)
      (Leftmost scan tokens.size offset) := by
  refine sustains_firstFrom prompt (fun place inside => ?_) offset
  rintro _ rfl
  simp only [Eff.bind_apply, scans place inside]
  rcases scan place with fault | hit <;> exact ⟨rfl, rfl⟩

theorem exact_of_scan {label : Label} {action : Tokens → Nat → Eff World (Option (Hit α))}
    (scans : ∀ place, place < tokens.size → ∀ world,
      action tokens place world = (scan place, world))
    (prompt : Prompt scan tokens.size)
    (reports : ∀ place, place < tokens.size → ∀ fault, scan place = .error fault →
      ∃ label offset position, fault = .outside label offset position tokens.size) :
    Exact ⟨label, action, .scanOnly⟩ tokens scan where
  scans := scans
  prompt := prompt
  reports := reports
  finds := Finder.exact_of_search fun offset _ world =>
    sustains_probe ⟨label, action, .scanOnly⟩ scans prompt offset world

namespace Exact

variable {pattern : Pattern World α}

theorem scanOnly (exact : pattern.Exact tokens scan) : pattern.scanOnly.Exact tokens scan :=
  exact_of_scan exact.scans exact.prompt exact.reports

theorem labelled (exact : pattern.Exact tokens scan) (label : Label) :
    (pattern.labelled label).Exact tokens scan where
  scans := exact.scans
  prompt := exact.prompt
  reports := exact.reports
  finds := exact.finds

theorem change (exact : pattern.Exact tokens scan) {changed : Pattern World β}
    {change : Nat → Hit α → Hit β}
    (scans : ∀ place world, changed.scan tokens place world =
      (((pattern.scan tokens place world).1.map (Option.map (change place))),
        (pattern.scan tokens place world).2))
    (finds : changed.finder.Exact tokens
      (fun place => (scan place).map (Option.map (change place)))) :
    changed.Exact tokens (fun place => (scan place).map (Option.map (change place))) where
  scans place inside world := by rw [scans, exact.scans place inside world]
  prompt := exact.prompt.map change
  reports place inside fault raised := by
    rcases answer : scan place with other | hit <;> rw [answer] at raised
    · cases raised
      exact exact.reports place inside _ answer
    · cases raised
  finds := finds

theorem mapped (exact : pattern.Exact tokens scan) (value : α → β) (name : Option String) :
    (pattern.mapped (fun found => pure (value found)) name).Exact tokens
      (fun place => (scan place).map (Option.map (·.map value))) := by
  refine exact.change (fun place world => ?_) ?_
  · simp only [Pattern.mapped, Eff.bind_apply]
    rcases pattern.scan tokens place world with ⟨fault | _ | hit, changed⟩ <;> rfl
  · refine exact.finds.change (·.map value) (fun _ _ => rfl) (fun _ => rfl) ?_
    intro offset
    congr 1
    funext found state
    cases found <;> rfl

theorem captured (exact : pattern.Exact tokens scan) :
    pattern.captured.Exact tokens (fun place => (scan place).map (Option.map fun hit =>
      ⟨hit.stop, tokens.part place hit.stop, hit.value⟩)) := by
  refine exact.change (fun place world => ?_) ?_
  · simp only [Pattern.captured, Eff.bind_apply]
    rcases pattern.scan tokens place world with ⟨fault | hit, changed⟩ <;> rfl
  · exact exact.finds.change (capture tokens) (fun _ _ => rfl) (fun _ => rfl) fun _ => rfl

theorem mapValues (exact : pattern.Exact tokens scan) (value : α → β) :
    (pattern.mapValues value).Exact tokens
      (fun place => (scan place).map (Option.map (·.map value))) := by
  have scans place world : (pattern.mapValues value).scan tokens place world =
      ((pattern.scan tokens place world).1.map (Option.map (·.map value)),
        (pattern.scan tokens place world).2) := by
    simp only [Pattern.mapValues, Eff.bind_apply]
    rcases pattern.scan tokens place world with ⟨fault | hit, changed⟩ <;> rfl
  refine exact.change scans ?_
  obtain ⟨label, action, reach⟩ := pattern
  cases reach with
  | scanOnly =>
      refine Finder.exact_of_search fun offset _ world => ?_
      show Eff.Sustains _ ((mapValues value ⟨label, action, .scanOnly⟩).probe tokens offset) _
      refine sustains_probe _ (fun place inside now => ?_) (exact.prompt.map _) offset world
      rw [scans, exact.scans place inside]
  | searchable search =>
      exact exact.finds.change (·.map value) (fun _ _ => rfl) (fun _ => rfl)
        fun offset => Eff.besideMemory_map (search tokens offset) _
  | incremental search finder =>
      exact exact.finds.change (·.map value) (fun _ _ => rfl) (fun _ => rfl)
        fun _ => rfl

end Exact

end Pattern

namespace Literal

variable (literal : Literal)

/-- A window that the end of the input cuts is no occurrence of a literal that keeps its case. -/
theorem scan?_eq_none_of_cut (keepsCase : literal.ignoreCase = false) {place : Nat}
    (cut : tokens.size < place + literal.value.size) (inside : place ≤ tokens.size) :
    literal.scan? tokens place = none := by
  have different : literal.window tokens place ≠ literal.value := by
    intro same
    have size := congrArg Tokens.size same
    rw [window, Tokens.size_slice] at size
    omega
  simp [scan?, form, keepsCase, different]

theorem first_find? (keepsCase : literal.ignoreCase = false) {offset : Nat} :
    First (fun place => .ok (literal.scan? tokens place)) tokens.size offset
      ((tokens.find? literal.value offset).map fun start : Nat =>
        ⟨start, (start + literal.value.size : Nat), literal.window tokens start⟩) := by
  have scan?_eq (place : Nat) : literal.scan? tokens place =
      if tokens.slice place (place + literal.value.size) = literal.value then
        some ⟨(place + literal.value.size : Nat), literal.window tokens place⟩
      else none := by
    simp [scan?, form, keepsCase, window]
  fun_induction Tokens.find? tokens literal.value offset with
  | case1 offset fits stands =>
      have scans := (scan?_eq offset).trans (if_pos stands)
      show First _ _ _ (some (Hit.at ⟨_, literal.window tokens offset⟩ offset))
      exact .found (Nat.le_refl offset) (by omega) (Misses.empty (Nat.le_refl offset))
        (congrArg Except.ok scans)
  | case2 offset fits differs ih =>
      refine ih.earlier ?_
      rw [scan?_eq, if_neg differs]
  | case3 offset short =>
      refine .absent fun place above inside => ?_
      rw [literal.scan?_eq_none_of_cut keepsCase (by omega) (by omega)]

/-- Without regard to case, a search comes no further than the last token. -/
theorem first_scanFrom? {offset : Nat} :
    First (Verdicts.until tokens.size fun place => .ok (literal.scan? tokens place)) tokens.size
      offset (literal.scanFrom? tokens offset) := by
  fun_induction scanFrom? literal tokens offset with
  | case1 offset inside hit scans =>
      exact .found (Nat.le_refl offset) inside.le (Misses.empty (Nat.le_refl offset))
        ((Verdicts.until_of_lt inside).trans (congrArg Except.ok scans))
  | case2 offset inside scans ih =>
      exact ih.earlier ((Verdicts.until_of_lt inside).trans (congrArg Except.ok scans))
  | case3 offset outside => exact .absent fun place above _ => if_neg (by omega)

theorem exact_pattern (sameKind : tokens.kind = literal.value.kind) :
    (literal.pattern : Pattern World Tokens).Exact tokens
      (fun place => .ok (literal.scan? tokens place)) where
  scans place _ world := by simp [pattern, requireKind, sameKind]
  prompt := .of_total fun _ _ _ => nofun
  reports _ _ _ := nofun
  finds := by
    refine Finder.exact_of_search fun offset _ world => ?_
    show Eff.Sustains _
      (do requireKind literal.value.kind tokens; return literal.search? tokens offset) _
    simp only [requireKind, sameKind, ↓reduceIte, pure_bind]
    refine .pure ?_
    unfold search?
    split
    · exact literal.first_scanFrom?.leftmost fun place inside => by
        rw [Verdicts.until_of_lt inside]
    · rename_i keepsCase
      exact (literal.first_find? (by simpa using keepsCase)).leftmost fun _ _ => rfl

end Literal

namespace Run

def extent (predicate : Tokens → Bool) (tokens : Tokens) (limit position : Nat) : Nat :=
  if position < limit then
    if predicate (tokens.token position) then extent predicate tokens limit (position + 1)
    else position
  else position
termination_by limit - position

def verdict (run : Run World) (predicate : Tokens → Bool) (tokens : Tokens) (offset : Nat) :
    Option (Hit Tokens) :=
  let stop := extent predicate tokens (run.limit tokens.size offset) offset
  if stop - offset < run.atLeast then none else some ⟨stop, tokens.slice offset stop⟩

variable {run : Run World} {predicate : Tokens → Bool}

theorem extend_eq (isPure : run.predicate = fun token => pure (predicate token)) (tokens : Tokens)
    (limit position : Nat) :
    run.extend tokens limit position = pure (extent predicate tokens limit position) := by
  fun_induction extent predicate tokens limit position with
  | case1 position unfinished satisfied ih =>
      rw [extend, if_pos unfinished, isPure]
      simpa [satisfied] using ih
  | case2 position unfinished satisfied =>
      rw [extend, if_pos unfinished, isPure]
      simp [satisfied]
  | case3 position finished => rw [extend, if_neg finished]

theorem extent_bounds (predicate : Tokens → Bool) (tokens : Tokens) {limit position : Nat}
    (ordered : position ≤ limit) :
    position ≤ extent predicate tokens limit position ∧
      extent predicate tokens limit position ≤ limit := by
  fun_induction extent predicate tokens limit position with
  | case1 position unfinished satisfied ih =>
      have later := ih unfinished
      omega
  | case2 position unfinished satisfied => exact ⟨Nat.le_refl _, ordered⟩
  | case3 position finished => exact ⟨Nat.le_refl _, ordered⟩

theorem scan_eq (isPure : run.predicate = fun token => pure (predicate token)) (tokens : Tokens)
    (offset : Nat) : run.scan tokens offset = pure (run.verdict predicate tokens offset) := by
  simp only [scan, verdict, extend_eq isPure, pure_bind]
  split <;> rfl

theorem exact_pattern (isPure : run.predicate = fun token => pure (predicate token))
    (name : Option String) :
    (run.pattern name).Exact tokens (fun place => .ok (run.verdict predicate tokens place)) :=
  Pattern.exact_of_scan (fun place _ world => by rw [scan_eq isPure]; rfl)
    (.of_total fun _ _ _ => nofun) fun _ _ _ => nofun

end Run

end SpanEdit
