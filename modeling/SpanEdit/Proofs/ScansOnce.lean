import SpanEdit.Proofs.FullRun
import SpanEdit.Proofs.TrackingChoice

/-!
No leaf scans twice at an offset. Patterns that search run ahead of a separation and are asked again
behind what they found, and still every leaf of a composite scans at increasing offsets.
-/

namespace SpanEdit

variable {World Own Plain α : Type}

def Numbers (first count leaf : Nat) : Prop := first ≤ leaf ∧ leaf < first + count

theorem numbers_zero (first : Nat) : Numbers first 0 = fun _ => False := by
  funext leaf
  exact propext ⟨fun own => by unfold Numbers at own; omega, False.elim⟩

theorem numbers_one (first : Nat) : Numbers first 1 = (· = first) := by
  funext leaf
  refine propext ?_
  unfold Numbers
  omega

theorem numbers_add (first count more : Nat) :
    Numbers first (count + more) =
      fun leaf => Numbers first count leaf ∨ Numbers (first + count) more leaf := by
  funext leaf
  refine propext ?_
  unfold Numbers
  omega

theorem Numbers.disjoint {first count more leaf : Nat} (own : Numbers first count leaf) :
    ¬Numbers (first + count) more leaf := by
  unfold Numbers at *
  omega

mutual

theorem Composite.tracked (tokens : Tokens) (origin first : Nat) :
    {α : Type} → (tree : Composite World α) →
    (tree.recorded first).pattern.Tracked tree.pattern tokens origin (Numbers first tree.leaves)
  | _, .leaf label scan => by
      rw [Composite.leaves, numbers_one]
      exact .leaf label first scan
  | _, .literal literal => by
      rw [Composite.leaves, numbers_zero]
      exact .literal literal
  | _, .regex regex => by
      rw [Composite.leaves, numbers_zero]
      exact .regex regex
  | _, .choice alternatives =>
      have ⟨_, tracked⟩ := alternatives.tracked tokens origin first
      tracked.choice
  | _, .mapped tree change name => (tree.tracked tokens origin first).mapped change name
  | _, .captured tree => (tree.tracked tokens origin first).captured
  | _, .mapValues tree change => (tree.tracked tokens origin first).mapValues change
  | _, .labelled tree label => (tree.tracked tokens origin first).labelled label

theorem Composites.tracked (tokens : Tokens) (origin first : Nat) :
    {α : Type} → (trees : Composites World α) →
    ∃ Ready, Choice.Tracked (trees.recorded first).patterns trees.patterns tokens origin
      (Numbers first trees.leaves) Ready
  | _, .nil => by
      rw [Composites.leaves, numbers_zero]
      exact ⟨_, .nil⟩
  | _, .cons tree rest => by
      have ⟨_, tracked⟩ := rest.tracked tokens origin (first + tree.leaves)
      rw [Composites.leaves, numbers_add]
      exact Choice.Tracked.cons (tree.tracked tokens origin first) tracked fun _ =>
        Numbers.disjoint

end

/-- A recorded run reports what the run does and leaves the same world. What was written down since
`calls` is only about these leaves, and sound. -/
structure RunsAlike (origin size : Nat) (leaves : Nat → Prop) (calls : Calls)
    (recorded : Report α × Own × Calls × World) (plain : Report α × Plain × World) : Prop where
  report : recorded.1 = plain.1
  world : recorded.2.2.2 = plain.2.2
  beside : Calls.Beside leaves calls recorded.2.2.1
  sound : recorded.2.2.1.Sound origin size leaves

namespace RunsAlike

variable {tokens : Tokens} {origin : Nat} {leaves : Nat → Prop} {before calls : Calls}
  {recorded : Report α × Own × Calls × World} {plain : Report α × Plain × World}

theorem since (alike : RunsAlike origin tokens.size leaves calls recorded plain)
    (beside : Calls.Beside leaves before calls) :
    RunsAlike origin tokens.size leaves before recorded plain :=
  { alike with beside := beside.trans alike.beside }

theorem prepend (first : List (Segment α))
    (alike : RunsAlike origin tokens.size leaves calls recorded plain) :
    RunsAlike origin tokens.size leaves calls (recorded.1.after first, recorded.2)
      (plain.1.after first, plain.2) :=
  { alike with report := congrArg (Report.after first) alike.report }

end RunsAlike

namespace Finder.Tracked

variable {own : Finder (Calls × World) α} {plain : Finder World α} {tokens : Tokens} {origin : Nat}
  {leaves : Nat → Prop} {Ready : Nat → Calls → own.Memory → plain.Memory → Prop}

theorem runsAlike (tracked : own.Tracked plain tokens origin leaves Ready) (pending : Nat)
    {position : Nat} (above : origin ≤ position) (calls : Calls) (kept : own.Memory)
    (left : plain.Memory) (world : World) (ready : Ready position calls kept left) :
    RunsAlike origin tokens.size leaves calls
      (course tokens (own.answer tokens) pending position (kept, calls, world))
      (course tokens (plain.answer tokens) pending position (left, world)) := by
  -- Whatever comes of an answer, the finder is ready for the position that is asked about next.
  induction position using forwards tokens.size generalizing pending calls kept left world with
  | step position ih =>
      by_cases unfinished : position < tokens.size
      · rw [course_eq_resume _ _ unfinished, course_eq_resume _ _ unfinished]
        rcases tracked.finds above unfinished calls kept left world ready with
          ⟨answer, now, more, rest, after, ran, same, beside, -, rests⟩ |
          ⟨fault, now, more, rest, after, ran, same, beside, sound⟩ <;>
          rw [Finder.answer_of_find ran, Finder.answer_of_find same]
        · obtain ⟨_, later⟩ := rests.exists_ready
          have sound := tracked.readiness.sound _ _ _ later
          cases answer with
          | none => exact ⟨rfl, rfl, beside, sound⟩
          | some found =>
              refine RunsAlike.since ?_ beside
              refine resume_relates pending found (fun _ => ⟨rfl, rfl, .refl leaves now, sound⟩)
                (fun first _ _ => .prepend first) fun pending forward => ?_
              exact ih unfinished found.resumption forward pending (by omega) now more rest after
                (rests found.resumption found.start_lt_resumption)
        · exact ⟨rfl, rfl, beside, sound⟩
      · rw [course, course, if_neg unfinished, if_neg unfinished]
        exact ⟨rfl, rfl, .refl leaves calls, tracked.readiness.sound _ _ _ ready⟩

theorem records_fullRun (tracked : own.Tracked plain tokens origin leaves Ready) (world : World) :
    ∃ report calls after, own.fullRun tokens origin ([], world) = (report, calls, after) ∧
      plain.fullRun tokens origin world = (report, after) ∧
      Calls.Beside leaves [] calls ∧ calls.Sound origin tokens.size leaves := by
  rcases tracked.starts [] world (fun _ _ => rfl) with
    ⟨kept, left, begun, ran, same, ready⟩ | ⟨fault, begun, ran, same⟩
  · rw [fullRun_of_start own origin ran, fullRun_of_start plain origin same]
    have alike := tracked.runsAlike origin (Nat.le_refl origin) [] kept left begun ready
    refine ⟨_, _, _, ?_, rfl, alike.beside, alike.sound⟩
    rw [← alike.report, ← alike.world]
  · rw [fullRun_of_fault own origin ran, fullRun_of_fault plain origin same]
    exact ⟨_, [], begun, rfl, rfl, .refl leaves [], fun _ _ => .nil _ _ _⟩

end Finder.Tracked

namespace Composite

theorem fullRun_recorded (tree : Composite World α) (tokens : Tokens) (offset : Nat)
    (world : World) :
    ∃ report calls after,
      (tree.recorded 0).pattern.finder.fullRun tokens offset ([], world) =
        (report, calls, after) ∧
      tree.pattern.finder.fullRun tokens offset world = (report, after) ∧
      ∀ leaf, Calls.Ahead offset tokens.size tokens.size (calls.offsets leaf) := by
  obtain ⟨Ready, tracked, -⟩ := (tree.tracked tokens offset 0).finder
  obtain ⟨report, calls, after, recorded, same, beside, sound⟩ := tracked.records_fullRun world
  refine ⟨report, calls, after, recorded, same, fun leaf => ?_⟩
  by_cases own : Numbers 0 tree.leaves leaf
  · exact sound leaf own
  · rw [beside leaf own]
    exact .nil _ _ _

/-- In a full run of a composite, which goes as it does unrecorded, every leaf scans at increasing
offsets of the input from the first one on, so that it never scans twice at one. -/
theorem scans_once (tree : Composite World α) (tokens : Tokens) (offset : Int) (world : World) :
    ∃ outcome segments calls after,
      (tree.pattern.drain tokens offset).run [] world = (outcome, segments, after) ∧
      ((tree.recorded 0).pattern.drain tokens offset).run [] ([], world) =
        (outcome, segments, calls, after) ∧
      ∀ leaf, (calls.offsets leaf).Pairwise (· < ·) ∧
        (∀ place ∈ calls.offsets leaf, offset ≤ place ∧ place < tokens.size) ∧
        (calls.offsets leaf).length ≤ (tokens.size - offset).toNat := by
  rw [Pattern.run_drain, Pattern.run_drain, (tree.tracked tokens 0 0).label]
  by_cases within : 0 ≤ offset ∧ offset ≤ tokens.size
  · obtain ⟨place, rfl⟩ := Int.eq_ofNat_of_zero_le within.1
    have inside : place ≤ tokens.size := Int.ofNat_le.mp within.2
    rw [Pattern.fullRun_inside _ inside, Pattern.fullRun_inside _ inside]
    obtain ⟨report, calls, after, recorded, same, ahead⟩ :=
      tree.fullRun_recorded tokens place world
    rw [recorded, same]
    refine ⟨_, _, calls, after, rfl, rfl, fun leaf => ⟨(ahead leaf).increasing, ?_, ?_⟩⟩
    · intro offset member
      obtain ⟨above, before, -⟩ := (ahead leaf).within offset member
      exact ⟨Int.ofNat_le.mpr above, before⟩
    · have fewer := (ahead leaf).length_le
      omega
  · rw [Pattern.fullRun_outside _ within, Pattern.fullRun_outside _ within]
    exact ⟨_, _, [], world, rfl, rfl, fun leaf => ⟨.nil, nofun, Nat.zero_le _⟩⟩

-- The leaf runs ahead of the literal to the "b", and is asked again when that is behind.
example :
    let leaf : Composite Unit Tokens := .leaf (.custom "Leaf" "") fun tokens offset =>
      pure (if tokens.part offset (offset + 1) = .ofString "b" then some ⟨offset + 1, .empty .text⟩
        else none)
    let tree : Composite Unit Tokens := .choice (.cons (.mapped leaf pure none)
      (.cons (.literal ⟨.ofString "a", false⟩) .nil))
    ((tree.recorded 0).pattern.drain (.ofString "aba") 0).run [] ([], ()) |>.2.2.1 |>.offsets 0 =
      [0, 1, 2] := by
  decide +kernel

end Composite

end SpanEdit
