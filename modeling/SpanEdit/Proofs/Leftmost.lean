import SpanEdit.Pattern.Choice
import SpanEdit.Proofs.Contract

/-!
Leftmost answers: a search that answers with the first place where the scan finds something, even
if nothing is consumed there. The contract permits such answers, they stay right while the asked
offset comes up to them, and the first of several is the answer of all of them together.
-/

namespace SpanEdit

def Eff.Sustains {State α : Type} (Valid : State → Prop) (action : Eff State α)
    (Expected : Except Fault α → Prop) : Prop :=
  ∀ state, Valid state → Valid (action state).2 ∧ Expected (action state).1

namespace Eff.Sustains

variable {State α β : Type} {Valid : State → Prop} {Expected : Except Fault α → Prop}
  {Wanted : Except Fault β → Prop}

theorem pure {value : α} (expected : Expected (.ok value)) :
    Sustains Valid (Pure.pure value) Expected := fun _ valid => ⟨valid, expected⟩

theorem bind {action : Eff State α} {next : α → Eff State β}
    (first : Sustains Valid action Expected)
    (later : ∀ value, Expected (.ok value) → Sustains Valid (next value) Wanted)
    (faults : ∀ fault, Expected (.error fault) → Wanted (.error fault)) :
    Sustains Valid (action >>= next) Wanted := by
  intro state valid
  obtain ⟨stays, expected⟩ := first state valid
  rw [Eff.bind_apply]
  rcases answered : action state with ⟨fault | value, changed⟩ <;> rw [answered] at stays expected
  · exact ⟨stays, faults fault expected⟩
  · exact later value expected changed stays

theorem weaken {Weaker : Except Fault α → Prop} {action : Eff State α}
    (sustains : Sustains Valid action Expected)
    (implies : ∀ outcome, Expected outcome → Weaker outcome) : Sustains Valid action Weaker :=
  fun state valid => ⟨(sustains state valid).1, implies _ (sustains state valid).2⟩

theorem map {action : Eff State α} (sustains : Sustains Valid action Expected) (change : α → β)
    (implies : ∀ outcome, Expected outcome → Wanted (outcome.map change)) :
    Sustains Valid (do return change (← action)) Wanted :=
  sustains.bind (fun value expected => pure (implies (.ok value) expected))
    fun fault expected => implies (.error fault) expected

end Eff.Sustains

variable {α β : Type}

def Misses (scan : Verdicts α) (first last : Nat) : Prop :=
  ∀ place, first ≤ place → place < last → scan place = .ok none

theorem Misses.barren {scan : Verdicts α} {first last : Nat} (misses : Misses scan first last) :
    Barren scan first last :=
  fun place above below => .inl (misses place above below)

/-- The answer to a search from an offset on is the first occurrence, or the fault of the scan at
the offset itself. -/
inductive Leftmost (scan : Verdicts α) (size offset : Nat) :
    Except Fault (Option (Found α)) → Prop
  | fault {fault : Fault} : offset < size → scan offset = .error fault →
      Leftmost scan size offset (.error fault)
  | absent : Misses scan offset size → Leftmost scan size offset (.ok none)
  | beyond {found : Found α} : size ≤ found.start → Misses scan offset size →
      Leftmost scan size offset (.ok (some found))
  | found {start : Nat} {hit : Hit α} : offset ≤ start → start < size →
      Misses scan offset start → scan start = .ok (some hit) →
      Leftmost scan size offset (.ok (some (hit.at start)))

def Prompt (scan : Verdicts α) (size : Nat) : Prop :=
  (∀ place, place < size → ∀ fault, scan place ≠ .error fault) ∨
    ∀ place, place < size → scan place ≠ .ok none

def Verdicts.orElse (first second : Verdicts α) : Verdicts α := fun place =>
  match first place with
  | .ok none => second place
  | answer => answer

theorem Verdicts.orElse_of_none {first second : Verdicts α} {place : Nat}
    (none : first place = .ok none) : first.orElse second place = second place := by
  rw [orElse, none]

theorem Verdicts.orElse_of_some {first second : Verdicts α} {place : Nat} {hit : Hit α}
    (some : first place = .ok (some hit)) : first.orElse second place = .ok (.some hit) := by
  rw [orElse, some]

theorem Verdicts.orElse_of_error {first second : Verdicts α} {place : Nat} {fault : Fault}
    (error : first place = .error fault) : first.orElse second place = .error fault := by
  rw [orElse, error]

theorem Verdicts.orElse_never (scan : Verdicts α) : (scan.orElse fun _ => .ok none) = scan := by
  funext place
  rcases answer : scan place with fault | _ | hit
  · rw [orElse_of_error answer]
  · rw [orElse_of_none answer]
  · rw [orElse_of_some answer]

def Verdicts.until (size : Nat) (scan : Verdicts α) : Verdicts α := fun place =>
  if place < size then scan place else .ok none

theorem Verdicts.until_of_lt {scan : Verdicts α} {size place : Nat} (inside : place < size) :
    scan.until size place = scan place := if_pos inside

theorem Verdicts.until_self (scan : Verdicts α) (size : Nat) : scan.until size size = .ok none :=
  if_neg (Nat.lt_irrefl size)

theorem Verdicts.orElse_assoc (first second third : Verdicts α) :
    (first.orElse second).orElse third = first.orElse (second.orElse third) := by
  funext place
  rcases answer : first place with fault | _ | hit
  · rw [orElse_of_error answer, orElse_of_error (orElse_of_error answer)]
  · rw [orElse_of_none answer, orElse, orElse_of_none answer, orElse]
  · rw [orElse_of_some answer, orElse_of_some (orElse_of_some answer)]

namespace Misses

variable {scan other : Verdicts α} {first middle last : Nat}

theorem empty (ends : last ≤ first) : Misses scan first last := by
  intro place above below
  omega

theorem cons (none : scan first = .ok none) (misses : Misses scan (first + 1) last) :
    Misses scan first last := by
  intro place above below
  by_cases here : place = first
  · rw [here, none]
  · exact misses place (by omega) below

theorem mono (misses : Misses scan first last) (later : first ≤ middle) {stop : Nat}
    (earlier : stop ≤ last) : Misses scan middle stop :=
  fun place above below => misses place (by omega) (by omega)

theorem orElse (misses : Misses scan first last) (others : Misses other first last) :
    Misses (scan.orElse other) first last := by
  intro place above below
  rw [Verdicts.orElse_of_none (misses place above below), others place above below]

end Misses

namespace Leftmost

variable {scan other : Verdicts α} {size offset : Nat}

theorem permitted {answer : Except Fault (Option (Found α))}
    (leftmost : Leftmost scan size offset answer) : Permitted scan size offset answer := by
  cases leftmost with
  | fault inside fault =>
      exact .fails (Nat.le_refl offset) inside (Misses.empty (Nat.le_refl offset)).barren fault
  | absent misses => exact .absent misses.barren
  | beyond reached misses => exact .beyond reached misses.barren
  | found ordered inside misses scans => exact .found ordered inside misses.barren scans

/-- An answer stays right while the offset comes no further than the occurrence. -/
theorem later {answer : Option (Found α)} {asked : Nat}
    (leftmost : Leftmost scan size asked (.ok answer)) (forward : asked ≤ offset)
    (ahead : ∀ found, answer = some found → (offset : Int) ≤ found.start) :
    Leftmost scan size offset (.ok answer) := by
  cases leftmost with
  | absent misses => exact .absent (misses.mono forward (Nat.le_refl size))
  | beyond reached misses => exact .beyond reached (misses.mono forward (Nat.le_refl size))
  | @found start hit ordered inside misses scans =>
      have before := ahead _ rfl
      exact .found (Int.ofNat_le.mp before) inside (misses.mono forward (Nat.le_refl start)) scans

theorem earlier {answer : Option (Found α)} (none : scan offset = .ok none)
    (leftmost : Leftmost scan size (offset + 1) (.ok answer)) :
    Leftmost scan size offset (.ok answer) := by
  cases leftmost with
  | absent misses => exact .absent (misses.cons none)
  | beyond reached misses => exact .beyond reached (misses.cons none)
  | found ordered inside misses scans =>
      exact .found (Nat.le_of_succ_le ordered) inside (misses.cons none) scans

theorem filter_eq {answer : Option (Found α)} (inside : offset < size)
    (leftmost : Leftmost scan size offset (.ok answer)) :
    .ok (answer.filter fun first => first.start == (offset : Int)) =
      (scan offset).map (Option.map (·.at offset)) := by
  cases leftmost with
  | absent misses =>
      rw [misses offset (Nat.le_refl offset) inside]
      rfl
  | @beyond found reached misses =>
      have further : (found.start == (offset : Int)) = false := by
        rw [beq_eq_false_iff_ne]
        omega
      rw [misses offset (Nat.le_refl offset) inside, Option.filter, further]
      rfl
  | @found start hit ordered within misses scans =>
      by_cases here : start = offset
      · subst here
        rw [scans, Option.filter, Hit.at, beq_self_eq_true]
        rfl
      · have further : ((start : Int) == (offset : Int)) = false := by
          rw [beq_eq_false_iff_ne]
          omega
        rw [misses offset (Nat.le_refl offset) (by omega), Option.filter, Hit.at, further]
        rfl

theorem map {change : Nat → Hit α → Hit β} {changeFound : Found α → Found β}
    (places : ∀ start hit, changeFound (hit.at start) = (change start hit).at start)
    (starts : ∀ found, (changeFound found).start = found.start)
    {answer : Except Fault (Option (Found α))} (leftmost : Leftmost scan size offset answer) :
    Leftmost (fun place => (scan place).map (Option.map (change place))) size offset
      (answer.map (Option.map changeFound)) := by
  have misses {first last : Nat} (misses : Misses scan first last) :
      Misses (fun place => (scan place).map (Option.map (change place))) first last := by
    intro place above below
    simp only [misses place above below]
    rfl
  cases leftmost with
  | fault inside fault => exact .fault inside (by simp only [fault, Except.map])
  | absent none => exact .absent (misses none)
  | beyond reached none => exact .beyond (by rwa [starts]) (misses none)
  | found ordered inside none scans =>
      simp only [Except.map, Option.map, places]
      exact .found ordered inside (misses none) (by simp only [scans])

theorem eq_none {best : Option (Found α)} (leftmost : Leftmost scan size offset (.ok best))
    (inside : offset < size) (ahead : ∀ first, best = some first → first.start ≠ offset) :
    scan offset = .ok none := by
  cases leftmost with
  | absent misses => exact misses offset (Nat.le_refl offset) inside
  | beyond reached misses => exact misses offset (Nat.le_refl offset) inside
  | @found start hit ordered within misses scans =>
      have further : (start : Int) ≠ offset := ahead _ rfl
      exact misses offset (Nat.le_refl offset) (by omega)

theorem settled {first : Found α} (leftmost : Leftmost scan size offset (.ok (some first)))
    (here : first.start = offset) :
    Leftmost (scan.orElse other) size offset (.ok (some first)) := by
  cases leftmost with
  | beyond reached misses => exact .beyond reached (Misses.empty (by omega))
  | @found start hit ordered within misses scans =>
      have same : start = offset := Int.ofNat_inj.mp here
      exact .found ordered within (Misses.empty (by omega)) (Verdicts.orElse_of_some scans)

/-- The first occurrence of all is the better of the first of some and the first of the others. -/
theorem merge {best found : Option (Found α)} (first : Leftmost scan size offset (.ok best))
    (second : Leftmost other size offset (.ok found)) :
    Leftmost (scan.orElse other) size offset (.ok (Choice.earlier best found)) := by
  cases first with
  | absent misses =>
      cases second with
      | absent others => exact .absent (misses.orElse others)
      | beyond reached others => exact .beyond reached (misses.orElse others)
      | @found start hit ordered inside others scans =>
          have before := misses.mono (Nat.le_refl offset) inside.le
          have here := misses start ordered inside
          exact .found ordered inside (before.orElse others)
            ((Verdicts.orElse_of_none here).trans scans)
  | @beyond first firstReached misses =>
      cases second with
      | absent others => exact .beyond firstReached (misses.orElse others)
      | @beyond second secondReached others =>
          simp only [Choice.earlier]
          split
          · exact .beyond secondReached (misses.orElse others)
          · exact .beyond firstReached (misses.orElse others)
      | @found start hit ordered inside others scans =>
          have before := misses.mono (Nat.le_refl offset) inside.le
          have here := misses start ordered inside
          have closer : (hit.at start).start < first.start := by
            simp only [Hit.at]
            omega
          simp only [Choice.earlier, closer, ↓reduceIte]
          exact .found ordered inside (before.orElse others)
            ((Verdicts.orElse_of_none here).trans scans)
  | @found start hit ordered inside misses scans =>
      cases second with
      | absent others =>
          have before := others.mono (Nat.le_refl offset) inside.le
          exact .found ordered inside (misses.orElse before) (Verdicts.orElse_of_some scans)
      | @beyond second reached others =>
          have before := others.mono (Nat.le_refl offset) inside.le
          have further : ¬second.start < (hit.at start).start := by
            simp only [Hit.at]
            omega
          simp only [Choice.earlier, further, ↓reduceIte]
          exact .found ordered inside (misses.orElse before) (Verdicts.orElse_of_some scans)
      | @found otherStart otherHit otherOrdered otherInside others otherScans =>
          simp only [Choice.earlier, Hit.at, Int.ofNat_lt]
          by_cases closer : otherStart < start
          · rw [if_pos closer]
            have before := misses.mono (Nat.le_refl offset) closer.le
            have here := misses otherStart otherOrdered closer
            exact .found otherOrdered otherInside (before.orElse others)
              ((Verdicts.orElse_of_none here).trans otherScans)
          · rw [if_neg closer]
            have before := others.mono (Nat.le_refl offset) (Nat.le_of_not_lt closer)
            exact .found ordered inside (misses.orElse before) (Verdicts.orElse_of_some scans)

end Leftmost

/-- The answer is the first occurrence from an offset on, where one at the very end of the input
counts too. -/
inductive First (scan : Verdicts α) (size offset : Nat) : Option (Found α) → Prop
  | absent : Misses scan offset (size + 1) → First scan size offset none
  | found {start : Nat} {hit : Hit α} : offset ≤ start → start ≤ size →
      Misses scan offset start → scan start = .ok (some hit) →
      First scan size offset (some (hit.at start))

namespace First

variable {scan other : Verdicts α} {size offset : Nat} {answer : Option (Found α)}

theorem leftmost_succ (first : First scan size offset answer) :
    Leftmost scan (size + 1) offset (.ok answer) := by
  cases first with
  | absent misses => exact .absent misses
  | found ordered inside misses scans => exact .found ordered (by omega) misses scans

theorem of_leftmost_succ (leftmost : Leftmost scan (size + 1) offset (.ok answer))
    (inside : ∀ found, answer = some found → found.start ≤ size) :
    First scan size offset answer := by
  cases leftmost with
  | absent misses => exact .absent misses
  | @beyond found reached misses =>
      have within := inside found rfl
      omega
  | found ordered within misses scans =>
      exact .found ordered (Nat.le_of_lt_succ within) misses scans

theorem inside (first : First scan size offset answer) :
    ∀ found, answer = some found → found.start ≤ size := by
  rintro found rfl
  cases first with
  | found ordered inside misses scans => exact Int.ofNat_le.mpr inside

/-- Only what the scan answers before the end matters to one who ignores occurrences at the
end. -/
theorem leftmost (first : First scan size offset answer)
    (agrees : ∀ place, place < size → other place = scan place) :
    Leftmost other size offset (.ok answer) := by
  have misses {last : Nat} (within : last ≤ size) (misses : Misses scan offset last) :
      Misses other offset last := by
    intro place above below
    rw [agrees place (by omega)]
    exact misses place above below
  cases first with
  | absent none =>
      have before := none.mono (Nat.le_refl offset) (Nat.le_succ size)
      exact .absent (misses (Nat.le_refl size) before)
  | @found start hit ordered inside none scans =>
      by_cases finished : start = size
      · exact .beyond (by simp [Hit.at, finished]) (misses (Nat.le_refl size) (finished ▸ none))
      · have unfinished : start < size := by omega
        exact .found ordered unfinished (misses inside none) ((agrees start unfinished).trans scans)

theorem earlier (none : scan offset = .ok none) (first : First scan size (offset + 1) answer) :
    First scan size offset answer :=
  .of_leftmost_succ (first.leftmost_succ.earlier none) first.inside

end First

namespace Prompt

variable {scan other : Verdicts α} {size : Nat}

theorem of_total (total : ∀ place, place < size → ∀ fault, scan place ≠ .error fault) :
    Prompt scan size := .inl total

theorem ne_error (prompt : Prompt scan size) {place missed : Nat} (inside : place < size)
    (missedInside : missed < size) (none : scan missed = .ok none) (fault : Fault) :
    scan place ≠ .error fault := by
  rcases prompt with total | succeeds
  · exact total place inside fault
  · exact absurd none (succeeds missed missedInside)

theorem map (prompt : Prompt scan size) (change : Nat → Hit α → Hit β) :
    Prompt (fun place => (scan place).map (Option.map (change place))) size := by
  refine prompt.imp (fun total place inside fault => ?_) fun succeeds place inside => ?_
  · rcases answer : scan place with other | hit
    · exact absurd answer (total place inside other)
    · simp [answer, Except.map]
  · rcases answer : scan place with fault | _ | hit
    · simp [answer, Except.map]
    · exact absurd answer (succeeds place inside)
    · simp [answer, Except.map]

theorem orElse (prompt : Prompt scan size) (others : Prompt other size) :
    Prompt (scan.orElse other) size := by
  rcases prompt with total | succeeds
  · rcases others with otherTotal | otherSucceeds
    · refine .inl fun place inside fault => ?_
      rcases answer : scan place with _ | _ | hit
      · exact absurd answer (total place inside _)
      · rw [Verdicts.orElse_of_none answer]
        exact otherTotal place inside fault
      · rw [Verdicts.orElse_of_some answer]
        exact nofun
    · refine .inr fun place inside => ?_
      rcases answer : scan place with _ | _ | hit
      · exact absurd answer (total place inside _)
      · rw [Verdicts.orElse_of_none answer]
        exact otherSucceeds place inside
      · rw [Verdicts.orElse_of_some answer]
        exact nofun
  · refine .inr fun place inside => ?_
    rcases answer : scan place with _ | _ | hit
    · rw [Verdicts.orElse_of_error answer]
      exact nofun
    · exact absurd answer (succeeds place inside)
    · rw [Verdicts.orElse_of_some answer]
      exact nofun

end Prompt

theorem sustains_firstFrom {State : Type} {Valid : State → Prop} {scan : Verdicts α} {size : Nat}
    {attempt : Nat → Eff State (Option (Found α))} (prompt : Prompt scan size)
    (attempts : ∀ place, place < size → Eff.Sustains Valid (attempt place) fun outcome =>
      outcome = (scan place).map (Option.map (·.at place))) (offset : Nat) :
    Eff.Sustains Valid (firstFrom size attempt offset) (Leftmost scan size offset) := by
  induction offset using forwards size with
  | step offset ih =>
      rw [firstFrom]
      split
      · rename_i inside
        refine (attempts offset inside).bind ?_ ?_
        · intro answer scanned
          rcases here : scan offset with _ | _ | hit
          · simp [here, Except.map] at scanned
          · simp only [here, Except.map, Option.map, Except.ok.injEq] at scanned
            subst scanned
            refine (ih inside (offset + 1) (Nat.lt_succ_self offset)).weaken ?_
            intro outcome leftmost
            rcases outcome with fault | answer
            · cases leftmost with
              | fault within fault => exact absurd fault (prompt.ne_error within inside here _)
            · exact leftmost.earlier here
          · simp only [here, Except.map, Option.map, Except.ok.injEq] at scanned
            subst scanned
            exact .pure
              (.found (Nat.le_refl offset) inside (Misses.empty (Nat.le_refl offset)) here)
        · intro fault scanned
          rcases here : scan offset with other | hit
          · simp only [here, Except.map, Except.error.injEq] at scanned
            rw [scanned]
            exact .fault inside here
          · simp [here, Except.map] at scanned
      · exact .pure (.absent (Misses.empty (by omega)))

end SpanEdit
