import SpanEdit.Proofs.Library

/-!
Occurrences beyond the end. The only pattern of the library that reports a place outside the input
is a literal without regard to case, where the end of the input cuts its window and the window has
as many small letters as the literal all the same.
-/

namespace SpanEdit

variable {World : Type}

/-- At the offset, what decides about the pattern is a literal without regard to case whose window
the end of the input cuts, and yet the window and the literal have the same small letters. -/
inductive Overruns (tokens : Tokens) (offset : Nat) : {α : Type} → Pattern World α → Prop
  | literal {literal : Literal} : literal.ignoreCase = true →
      tokens.size < offset + literal.value.size →
      (literal.window tokens offset).lower = literal.value.lower →
      Overruns tokens offset literal.pattern
  | scanOnly {α : Type} {pattern : Pattern World α} :
      Overruns tokens offset pattern → Overruns tokens offset pattern.scanOnly
  /-- No alternative before this one succeeds. -/
  | choice {α : Type} {before after : List (Pattern World α)} {pattern : Pattern World α} :
      (∀ other ∈ before, ∀ world, other.scan tokens offset world = (.ok none, world)) →
      Overruns tokens offset pattern →
      Overruns tokens offset (.choice (before ++ pattern :: after))
  | mapped {α β : Type} {pattern : Pattern World α} (change : α → β) (name : Option String) :
      Overruns tokens offset pattern →
      Overruns tokens offset (pattern.mapped (fun value => pure (change value)) name)
  | captured {α : Type} {pattern : Pattern World α} :
      Overruns tokens offset pattern → Overruns tokens offset pattern.captured
  | mapValues {α β : Type} {pattern : Pattern World α} (change : α → β) :
      Overruns tokens offset pattern → Overruns tokens offset (pattern.mapValues change)
  | labelled {α : Type} {pattern : Pattern World α} (label : Label) :
      Overruns tokens offset pattern → Overruns tokens offset (pattern.labelled label)

variable {α β : Type} {pattern : Pattern World α} {tokens : Tokens} {offset : Nat}

namespace Pattern

def Answers (pattern : Pattern World α) (tokens : Tokens) (offset : Nat)
    (answer : Option (Hit α)) : Prop :=
  ∀ world, pattern.scan tokens offset world = (.ok answer, world)

theorem Answers.mapped {answer : Option (Hit α)} (answers : pattern.Answers tokens offset answer)
    (change : α → β) (name : Option String) :
    (pattern.mapped (fun value => pure (change value)) name).Answers tokens offset
      (answer.map (·.map change)) := by
  intro world
  simp only [Pattern.mapped, Eff.bind_apply, answers world]
  cases answer <;> rfl

theorem Answers.captured {answer : Option (Hit α)}
    (answers : pattern.Answers tokens offset answer) :
    pattern.captured.Answers tokens offset
      (answer.map fun hit => ⟨hit.stop, tokens.part offset hit.stop, hit.value⟩) := by
  intro world
  simp only [Pattern.captured, Eff.bind_apply, answers world]
  rfl

theorem Answers.mapValues {answer : Option (Hit α)}
    (answers : pattern.Answers tokens offset answer) (change : α → β) :
    (pattern.mapValues change).Answers tokens offset (answer.map (·.map change)) := by
  intro world
  simp only [Pattern.mapValues, Eff.bind_apply, answers world]
  rfl

theorem answers_choice {before after : List (Pattern World α)} {hit : Hit α}
    (misses : ∀ other ∈ before, other.Answers tokens offset none)
    (answers : pattern.Answers tokens offset (some hit)) :
    (Pattern.choice (before ++ pattern :: after)).Answers tokens offset (some hit) := by
  intro world
  show Choice.scan tokens offset (before ++ pattern :: after) world = _
  induction before with
  | nil =>
      rw [List.nil_append, Choice.scan, Eff.bind_apply, answers world]
      rfl
  | cons first rest ih =>
      rw [List.cons_append, Choice.scan, Eff.bind_apply, misses first List.mem_cons_self world]
      exact ih fun other member => misses other (List.mem_cons_of_mem _ member)

theorem answers_choice_none {alternatives : List (Pattern World α)}
    (misses : ∀ other ∈ alternatives, other.Answers tokens offset none) :
    (Pattern.choice alternatives).Answers tokens offset none := by
  intro world
  show Choice.scan tokens offset alternatives world = _
  induction alternatives with
  | nil => rfl
  | cons first rest ih =>
      rw [Choice.scan, Eff.bind_apply, misses first List.mem_cons_self world]
      exact ih fun other member => misses other (List.mem_cons_of_mem _ member)

theorem misses_or_first {alternatives : List (Pattern World α)}
    (each : ∀ pattern ∈ alternatives, ∃ answer, pattern.Answers tokens offset answer) :
    (∀ pattern ∈ alternatives, pattern.Answers tokens offset none) ∨
      ∃ before pattern after hit, alternatives = before ++ pattern :: after ∧
        (∀ other ∈ before, other.Answers tokens offset none) ∧
        pattern.Answers tokens offset (some hit) := by
  induction alternatives with
  | nil => exact .inl nofun
  | cons first rest ih =>
      obtain ⟨answer, answers⟩ := each first List.mem_cons_self
      rcases answer with _ | hit
      · rcases ih fun other member => each other (List.mem_cons_of_mem _ member) with
          misses | ⟨before, pattern, after, hit, same, misses, succeeds⟩
        · exact .inl (List.forall_mem_cons.mpr ⟨answers, misses⟩)
        · refine .inr ⟨first :: before, pattern, after, hit, by rw [same]; rfl, ?_, succeeds⟩
          exact List.forall_mem_cons.mpr ⟨answers, misses⟩
      · exact .inr ⟨[], first, rest, hit, rfl, nofun, answers⟩

theorem Answers.unique {first second : Option (Hit α)} (world : World)
    (answers : pattern.Answers tokens offset first)
    (others : pattern.Answers tokens offset second) : first = second := by
  have same := (answers world).symm.trans (others world)
  simpa using same

end Pattern

@[simp] theorem Tokens.kind_lower (tokens : Tokens) : tokens.lower.kind = tokens.kind := by
  cases tokens <;> rfl

theorem Overruns.answers (overruns : Overruns tokens offset pattern) :
    ∃ hit, pattern.Answers tokens offset (some hit) ∧ (tokens.size : Int) < hit.stop := by
  induction overruns with
  | @literal literal ignoresCase cut same =>
      have kinds := congrArg Tokens.kind same
      simp only [Tokens.kind_lower, Literal.window, Tokens.kind_slice] at kinds
      refine ⟨⟨(offset + literal.value.size : Nat), literal.window tokens offset⟩, ?_,
        Int.ofNat_lt.mpr cut⟩
      intro world
      simp [Literal.pattern, requireKind, kinds, Literal.scan?, Literal.form, ignoresCase, same]
  | scanOnly _ ih => exact ih
  | choice misses _ ih =>
      obtain ⟨hit, answers, beyond⟩ := ih
      exact ⟨hit, Pattern.answers_choice misses answers, beyond⟩
  | mapped change name _ ih =>
      obtain ⟨hit, answers, beyond⟩ := ih
      exact ⟨_, answers.mapped change name, beyond⟩
  | captured _ ih =>
      obtain ⟨hit, answers, beyond⟩ := ih
      exact ⟨_, answers.captured, beyond⟩
  | mapValues change _ ih =>
      obtain ⟨hit, answers, beyond⟩ := ih
      exact ⟨_, answers.mapValues change, beyond⟩
  | labelled label _ ih => exact ih

/-- The scan succeeds or not without a fault, an occurrence does not end before it begins, and one
that ends beyond the input is one of a literal that overruns. -/
def Pattern.Bounded (pattern : Pattern World α) (tokens : Tokens) (offset : Nat) : Prop :=
  ∃ answer, pattern.Answers tokens offset answer ∧ ∀ hit ∈ answer,
    (offset : Int) ≤ hit.stop ∧ ((tokens.size : Int) < hit.stop → Overruns tokens offset pattern)

theorem Literal.bounded (literal : Literal) (sameKind : tokens.kind = literal.value.kind)
    (inside : offset ≤ tokens.size) :
    (literal.pattern : Pattern World Tokens).Bounded tokens offset := by
  refine ⟨literal.scan? tokens offset, fun world => by simp [pattern, requireKind, sameKind], ?_⟩
  intro hit succeeds
  have scans := Option.mem_def.mp succeeds
  have same : literal.form (literal.window tokens offset) = literal.form literal.value := by
    by_contra differs
    simp [scan?, differs] at scans
  have stop : hit.stop = (offset + literal.value.size : Nat) := by
    rw [scan?, if_pos same, Option.some.injEq] at scans
    rw [← scans]
  refine ⟨by omega, fun beyond => ?_⟩
  have cut : tokens.size < offset + literal.value.size := by omega
  cases ignoresCase : literal.ignoreCase with
  | false => simp [literal.scan?_eq_none_of_cut ignoresCase cut inside] at scans
  | true =>
      simp only [form, ignoresCase, ↓reduceIte] at same
      exact .literal ignoresCase cut same

theorem Regex.bounded (regex : Regex) (sameKind : tokens.kind = regex.source.kind)
    (inside : offset ≤ tokens.size) :
    (regex.pattern : Pattern World Regex.Match).Bounded tokens offset := by
  refine ⟨(regex.match? tokens offset).map hit, fun world => ?_, ?_⟩
  · simp only [pattern, observed, requireKind, sameKind, ↓reduceIte, pure_bind]
    rfl
  · intro hit succeeds
    obtain ⟨found, matched, rfl⟩ := Option.map_eq_some_iff.mp (Option.mem_def.mp succeeds)
    rw [match?, Nat.min_eq_left inside] at matched
    have start := matchAt?_start matched
    have ordered := found.start_le_stop
    have within := found.stop_le_size
    rw [matchAt?_subject matched] at within
    simp only [Regex.hit]
    omega

theorem Run.bounded {run : Run World} {predicate : Tokens → Bool}
    (isPure : run.predicate = fun token => pure (predicate token)) (name : Option String)
    (inside : offset ≤ tokens.size) : (run.pattern name).Bounded tokens offset := by
  refine ⟨run.verdict predicate tokens offset, fun world => ?_, ?_⟩
  · show run.scan tokens offset world = _
    rw [scan_eq isPure]
    rfl
  · intro hit succeeds
    have reached : offset ≤ run.limit tokens.size offset := by
      unfold limit
      split <;> omega
    have within : run.limit tokens.size offset ≤ tokens.size := by
      unfold limit
      split <;> omega
    have bounds := extent_bounds predicate tokens reached
    simp only [verdict, Option.mem_def] at succeeds
    split at succeeds
    · cases succeeds
    · cases succeeds
      simp only
      omega

namespace Pattern.Bounded

theorem change (bounded : pattern.Bounded tokens offset) {changed : Pattern World β}
    {change : Hit α → Hit β} (stops : ∀ hit, (change hit).stop = hit.stop)
    (answers : ∀ answer, pattern.Answers tokens offset answer →
      changed.Answers tokens offset (answer.map change))
    (overruns : Overruns tokens offset pattern → Overruns tokens offset changed) :
    changed.Bounded tokens offset := by
  obtain ⟨answer, asked, bounds⟩ := bounded
  refine ⟨_, answers answer asked, fun hit succeeds => ?_⟩
  obtain ⟨first, same, rfl⟩ := Option.map_eq_some_iff.mp (Option.mem_def.mp succeeds)
  rw [stops]
  exact ⟨(bounds first same).1, fun beyond => overruns ((bounds first same).2 beyond)⟩

theorem choice {alternatives : List (Pattern World α)} (world : World)
    (each : ∀ pattern ∈ alternatives, pattern.Bounded tokens offset) :
    (Pattern.choice alternatives).Bounded tokens offset := by
  rcases misses_or_first fun pattern member => (each pattern member).imp fun _ => And.left with
    misses | ⟨before, pattern, after, hit, rfl, misses, succeeds⟩
  · exact ⟨none, answers_choice_none misses, nofun⟩
  · refine ⟨some hit, answers_choice misses succeeds, fun other same => ?_⟩
    obtain ⟨answer, answers, bounds⟩ := each pattern (by simp)
    have sameAnswer := Answers.unique world answers succeeds
    have bound := bounds other (sameAnswer ▸ same)
    exact ⟨bound.1, fun beyond => .choice misses (bound.2 beyond)⟩

end Pattern.Bounded

theorem Library.bounded (library : Library tokens.kind False pattern) (world : World)
    (inside : offset ≤ tokens.size) : pattern.Bounded tokens offset := by
  induction library with
  | literal literal sameKind => exact literal.bounded sameKind.symm inside
  | regex regex sameKind => exact regex.bounded sameKind.symm inside
  | run run name predicate isPure => exact Run.bounded isPure name inside
  | scanOnly _ ih =>
      obtain ⟨answer, answers, bounds⟩ := ih
      exact ⟨answer, answers, fun hit succeeds =>
        ⟨(bounds hit succeeds).1, fun beyond => .scanOnly ((bounds hit succeeds).2 beyond)⟩⟩
  | separated nested => exact nested.elim
  | choice _ ih => exact Pattern.Bounded.choice world ih
  | mapped change name _ ih =>
      exact ih.change (fun _ => rfl) (fun _ answers => answers.mapped change name)
        fun overruns => .mapped change name overruns
  | captured _ ih =>
      exact ih.change (fun _ => rfl) (fun _ answers => answers.captured)
        fun overruns => .captured overruns
  | mapValues change _ ih =>
      exact ih.change (fun _ => rfl) (fun _ answers => answers.mapValues change)
        fun overruns => .mapValues change overruns
  | labelled label _ ih =>
      obtain ⟨answer, answers, bounds⟩ := ih
      exact ⟨answer, answers, fun hit succeeds =>
        ⟨(bounds hit succeeds).1, fun beyond => .labelled label ((bounds hit succeeds).2 beyond)⟩⟩

namespace Pattern

def resume (place : Nat) : Option (Hit α) → Nat
  | none => place + 1
  | some hit => if place < hit.stop then hit.stop.toNat else place + 1

inductive Attempts (pattern : Pattern World α) (tokens : Tokens) : Nat → Nat → Prop
  | here {position : Nat} : position < tokens.size → Attempts pattern tokens position position
  | later {position place : Nat} {answer : Option (Hit α)} : position < tokens.size →
      pattern.Answers tokens position answer →
      Attempts pattern tokens (resume position answer) place →
      Attempts pattern tokens position place

/-- Somewhere from `position` on a literal overruns where the pattern is tried. -/
def OverrunsFrom (pattern : Pattern World α) (tokens : Tokens) (position : Nat) : Prop :=
  ∃ place, pattern.Attempts tokens position place ∧ Overruns tokens place pattern

def Reports (pattern : Pattern World α) (tokens : Tokens) (position : Nat) (fault : Fault) : Prop :=
  ∃ place stop, pattern.Attempts tokens position place ∧ Overruns tokens place pattern ∧
    (tokens.size : Int) < stop ∧ fault = .outside pattern.label place stop tokens.size

def EndsAs (pattern : Pattern World α) (tokens : Tokens) (position : Nat) (ending : Ending) :
    Prop :=
  (¬pattern.OverrunsFrom tokens position ∧ ending = .complete) ∨
    ∃ place stop, pattern.Attempts tokens position place ∧ Overruns tokens place pattern ∧
      (tokens.size : Int) < stop ∧ ending = .outside place stop

theorem EndsAs.earlier {position : Nat} {answer : Option (Hit α)} {ending : Ending} (world : World)
    (unfinished : position < tokens.size) (answers : pattern.Answers tokens position answer)
    (within : ∀ hit ∈ answer, hit.stop ≤ tokens.size)
    (ends : pattern.EndsAs tokens (resume position answer) ending) :
    pattern.EndsAs tokens position ending := by
  rcases ends with ⟨free, complete⟩ | ⟨place, stop, attempts, reported⟩
  · refine .inl ⟨?_, complete⟩
    -- An overrun here would contradict the answer, one further on the rest of the run.
    rintro ⟨place, attempts, overruns⟩
    cases attempts with
    | here _ =>
        obtain ⟨hit, succeeds, beyond⟩ := overruns.answers
        have same := Answers.unique world answers succeeds
        have bound := within hit same
        omega
    | later _ others further =>
        have same := Answers.unique world answers others
        subst same
        exact free ⟨place, further, overruns⟩
  · exact .inr ⟨place, stop, .later unfinished answers attempts, reported⟩

/-- Scanning is complete unless it comes to where a literal overruns. -/
theorem Exact.endsAs {scan : Verdicts α} (exact : pattern.Exact tokens scan)
    (bounded : ∀ place, place ≤ tokens.size → pattern.Bounded tokens place) (world : World)
    (pending position : Nat) :
    pattern.EndsAs tokens position (reference tokens scan pending position).ending := by
  induction position using forwards tokens.size generalizing pending with
  | step position ih =>
      by_cases unfinished : position < tokens.size
      · obtain ⟨answer, answers, bounds⟩ := bounded position unfinished.le
        have scanned : scan position = .ok answer := by
          have same := (exact.scans position unfinished world).symm.trans (answers world)
          exact congrArg Prod.fst same
        rw [reference_eq_follow unfinished, scanned]
        rcases answer with _ | hit
        · have next := ih unfinished (position + 1) (Nat.lt_succ_self position) pending
          exact EndsAs.earlier world unfinished answers nofun next
        · by_cases still : hit.stop ≤ position
          · have here : resume position (some hit) = position + 1 := if_neg (by omega)
            have next := ih unfinished (position + 1) (Nat.lt_succ_self position) pending
            rw [Except.map, follow_still _ pending unfinished still]
            refine EndsAs.earlier world unfinished answers ?_ (here ▸ next)
            intro other same
            cases same
            omega
          · have consumes : (position : Int) < hit.stop := by omega
            by_cases within : hit.stop ≤ tokens.size
            · have there : resume position (some hit) = hit.stop.toNat := if_pos consumes
              have next := ih unfinished hit.stop.toNat (by omega) hit.stop.toNat
              rw [Except.map, follow_consuming _ pending consumes within, Report.ending_after]
              refine EndsAs.earlier world unfinished answers ?_ (there ▸ next)
              intro other same
              cases same
              exact within
            · have beyond : (tokens.size : Int) < hit.stop := by omega
              rw [Except.map, follow_beyond _ pending unfinished beyond]
              exact .inr ⟨position, hit.stop, .here unfinished, (bounds hit rfl).2 beyond, beyond,
                rfl⟩
      · rw [reference_finished (by omega)]
        refine .inl ⟨?_, rfl⟩
        rintro ⟨place, attempts, _⟩
        cases attempts <;> contradiction

end Pattern

end SpanEdit
