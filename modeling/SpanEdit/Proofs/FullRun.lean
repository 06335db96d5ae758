import SpanEdit.Proofs.Course

/-!
Full runs: what the segments of a pattern are and how they end, as the pattern's finder decides. A
pattern that can only scan has a finder too, which probes one offset after the other, and its full
run is the one of the loop that scans. Draining a separation and listing it come to the same.
-/

namespace SpanEdit

variable {World α : Type}

section Course

variable {S : Type} {tokens : Tokens}

def resume (tokens : Tokens)
    (answer : (position : Nat) → S → Except Fault (Move α tokens.size position) × S)
    (pending : Nat) (now : S) {position : Nat} :
    Except Fault (Move α tokens.size position) → Report α × S
  | .error fault => (⟨[], .raised fault⟩, now)
  | .ok .finish => (⟨gap tokens pending tokens.size, .complete⟩, now)
  | .ok (.skip next _) => course tokens answer pending next now
  | .ok (.emit start stop value _ _ _) =>
      let rest := course tokens answer stop stop now
      (rest.1.after (gap tokens pending start ++ [.matched value start stop]), rest.2)
  | .ok (.outside offset place _) => (⟨[], .outside offset place⟩, now)

variable (answer other : (position : Nat) → S → Except Fault (Move α tokens.size position) × S)
  (pending : Nat) {position : Nat}

theorem course_eq_resume (inside : position < tokens.size) (asked : S) :
    course tokens answer pending position asked =
      resume tokens answer pending (answer position asked).2 (answer position asked).1 := by
  rw [course, if_pos inside]
  rcases answer position asked with ⟨fault | move, now⟩
  · rfl
  · cases move <;> rfl

theorem resume_congr (now : S)
    (same : ∀ pending later, position < later →
      course tokens answer pending later now = course tokens other pending later now)
    (outcome : Except Fault (Move α tokens.size position)) :
    resume tokens answer pending now outcome = resume tokens other pending now outcome := by
  rcases outcome with fault | move
  · rfl
  · cases move with
    | finish => rfl
    | skip next forward => exact same pending next forward
    | emit start stop value reached consumes inside =>
        simp only [resume, same stop stop (by omega)]
    | outside offset place beyond => rfl

theorem resume_ofFound (now : S) {later : Nat} (ordered : position ≤ later) {found : Found α}
    (ahead : (later : Int) ≤ found.start) :
    resume tokens answer pending now (.ok (.ofFound position found)) =
      resume tokens answer pending now (.ok (.ofFound later found)) := by
  have front : ¬found.start < position := by omega
  have still : ¬found.start < later := by omega
  by_cases beyond : (tokens.size : Int) ≤ found.start
  · simp only [Move.ofFound, front, still, beyond, ↓reduceDIte, ↓reduceIte, resume]
  · by_cases empty : found.stop ≤ found.start
    · simp only [Move.ofFound, front, still, beyond, empty, ↓reduceDIte, ↓reduceIte, resume]
    · by_cases inside : found.stop ≤ tokens.size <;>
        simp only [Move.ofFound, front, still, beyond, empty, inside, ↓reduceDIte, ↓reduceIte,
          resume]

def Found.resumption (found : Found α) : Nat :=
  if found.start < found.stop then found.stop.toNat else found.start.toNat + 1

theorem Found.start_lt_resumption (found : Found α) : found.start < found.resumption := by
  unfold resumption
  split <;> omega

/-- After an occurrence two walks end with the same report, or both go on behind it. -/
theorem resume_relates {T : Type} {Alike : Report α × S → Report α × T → Prop} {now : S} {left : T}
    {answer : (position : Nat) → S → Except Fault (Move α tokens.size position) × S}
    {other : (position : Nat) → T → Except Fault (Move α tokens.size position) × T}
    (pending : Nat) (found : Found α) (ends : ∀ report, Alike (report, now) (report, left))
    (prepends : ∀ first run rest, Alike run rest →
      Alike (run.1.after first, run.2) (rest.1.after first, rest.2))
    (goesOn : ∀ pending, position < found.resumption →
      Alike (course tokens answer pending found.resumption now)
        (course tokens other pending found.resumption left)) :
    Alike (resume tokens answer pending now (.ok (.ofFound position found)))
      (resume tokens other pending left (.ok (.ofFound position found))) := by
  unfold Move.ofFound
  split
  · exact ends _
  · rename_i front
    split
    · exact ends _
    · split
      · rename_i inside still
        have next : found.resumption = found.start.toNat + 1 := if_neg (by omega)
        rw [next] at goesOn
        exact goesOn pending (by omega)
      · rename_i inside consumes
        have next : found.resumption = found.stop.toNat := if_pos (by omega)
        rw [next] at goesOn
        split
        · exact prepends _ _ _ (goesOn _ (by omega))
        · exact ends _

end Course

namespace Pattern

section Probing

variable (pattern : Pattern World α) (tokens : Tokens)

theorem probe_of_none {position : Nat} (inside : position < tokens.size) {world now : World}
    (scanned : pattern.scan tokens position world = (.ok none, now)) :
    pattern.probe tokens position world = pattern.probe tokens (position + 1) now := by
  rw [probe, firstFrom, if_pos inside]
  simp only [Eff.bind_apply, scanned, Eff.pure_apply, Option.map_none]
  rfl

theorem probe_of_some {position : Nat} (inside : position < tokens.size) {world now : World}
    {hit : Hit α} (scanned : pattern.scan tokens position world = (.ok (some hit), now)) :
    pattern.probe tokens position world = (.ok (some (hit.at position)), now) := by
  rw [probe, firstFrom, if_pos inside]
  simp only [Eff.bind_apply, scanned, Eff.pure_apply, Option.map_some]

theorem probe_of_error {position : Nat} (inside : position < tokens.size) {world now : World}
    {fault : Fault} (scanned : pattern.scan tokens position world = (.error fault, now)) :
    pattern.probe tokens position world = (.error fault, now) := by
  rw [probe, firstFrom, if_pos inside]
  simp only [Eff.bind_apply, scanned]

theorem probe_finished {position : Nat} (finished : tokens.size ≤ position) :
    pattern.probe tokens position = (pure none : Eff World (Option (Found α))) := by
  rw [probe, firstFrom, if_neg (by omega)]

theorem start_of_probe {position : Nat} {world after : World} {found : Found α}
    (probed : pattern.probe tokens position world = (.ok (some found), after)) :
    (position : Int) ≤ found.start := by
  induction position using forwards tokens.size generalizing world with
  | step position later =>
      by_cases inside : position < tokens.size
      · rcases scanned : pattern.scan tokens position world with ⟨fault | _ | hit, now⟩
        · rw [probe_of_error pattern tokens inside scanned] at probed
          cases probed
        · rw [probe_of_none pattern tokens inside scanned] at probed
          have next := later inside (position + 1) (Nat.lt_succ_self position) probed
          omega
        · rw [probe_of_some pattern tokens inside scanned] at probed
          cases probed
          exact Int.le_refl _
      · rw [probe_finished pattern tokens (Nat.le_of_not_lt inside)] at probed
        cases probed

def probeAnswer (position : Nat) (asked : Unit × World) :
    Except Fault (Move α tokens.size position) × Unit × World :=
  let answer := pattern.probe tokens position asked.2
  (answer.1.map (.ofSearch position), (), answer.2)

theorem course_probeAnswer_of_none {position : Nat} (inside : position < tokens.size)
    {asked : Unit × World} {now : World}
    (scanned : pattern.scan tokens position asked.2 = (.ok none, now)) (pending : Nat) :
    course tokens (pattern.probeAnswer tokens) pending position asked =
      course tokens (pattern.probeAnswer tokens) pending (position + 1) ((), now) := by
  have probed := probe_of_none pattern tokens inside scanned
  rw [course_eq_resume _ _ inside, probeAnswer, probed]
  by_cases next : position + 1 < tokens.size
  · rw [course_eq_resume _ _ next, probeAnswer]
    rcases again : pattern.probe tokens (position + 1) now with ⟨fault | _ | found, after⟩
    · rfl
    · rfl
    · exact resume_ofFound _ _ _ (Nat.le_succ position)
        (start_of_probe pattern tokens again)
  · rw [probe_finished pattern tokens (Nat.le_of_not_lt next), course, if_neg next]
    rfl

/-- Probing ahead makes the scans that the loop which scans would make next. -/
theorem course_probeAnswer (pending position : Nat) (asked : Unit × World) :
    course tokens (pattern.probeAnswer tokens) pending position asked =
      course tokens (pattern.scanAnswer tokens) pending position asked := by
  induction position using forwards tokens.size generalizing pending asked with
  | step position ih =>
      by_cases inside : position < tokens.size
      · rw [course_eq_resume (pattern.scanAnswer tokens) _ inside]
        rcases scanned : pattern.scan tokens position asked.2 with ⟨fault | _ | hit, now⟩
        · rw [course_eq_resume _ _ inside, probeAnswer, scanAnswer, scanned,
            probe_of_error pattern tokens inside scanned]
          rfl
        · rw [course_probeAnswer_of_none pattern tokens inside scanned, scanAnswer, scanned]
          exact ih inside (position + 1) (Nat.lt_succ_self position) pending ((), now)
        · rw [course_eq_resume _ _ inside, probeAnswer, scanAnswer, scanned,
            probe_of_some pattern tokens inside scanned]
          exact resume_congr _ _ pending ((), now)
            (fun pending later further => ih inside later further pending ((), now)) _
      · rw [course, course, if_neg inside, if_neg inside]

end Probing

end Pattern

namespace Finder

variable (finder : Finder World α) {tokens : Tokens} (offset : Nat) {world begun : World}

def fullRun (tokens : Tokens) (offset : Nat) (world : World) : Report α × World :=
  match finder.start tokens world with
  | (.error fault, begun) => (⟨[], .raised fault⟩, begun)
  | (.ok memory, begun) =>
      let run := course tokens (finder.answer tokens) offset offset (memory, begun)
      (run.1, run.2.2)

theorem fullRun_of_start {memory : finder.Memory}
    (started : finder.start tokens world = (.ok memory, begun)) :
    let run := course tokens (finder.answer tokens) offset offset (memory, begun)
    finder.fullRun tokens offset world = (run.1, run.2.2) := by
  rw [fullRun, started]

theorem fullRun_of_fault {fault : Fault}
    (failed : finder.start tokens world = (.error fault, begun)) :
    finder.fullRun tokens offset world = (⟨[], .raised fault⟩, begun) := by
  rw [fullRun, failed]

end Finder

namespace Pattern

def fullRun (pattern : Pattern World α) (tokens : Tokens) (offset : Int) (world : World) :
    Report α × World :=
  match pattern.separate tokens offset with
  | .error fault => (⟨[], .raised fault⟩, world)
  | .ok separation => pattern.finder.fullRun tokens separation.offset world

theorem fullRun_inside (pattern : Pattern World α) {tokens : Tokens} {offset : Nat}
    (inside : offset ≤ tokens.size) (world : World) :
    pattern.fullRun tokens offset world = pattern.finder.fullRun tokens offset world := by
  rw [fullRun, separate_ok _ inside]

theorem fullRun_outside (pattern : Pattern World α) {tokens : Tokens} {offset : Int}
    (outside : ¬(0 ≤ offset ∧ offset ≤ tokens.size)) (world : World) :
    pattern.fullRun tokens offset world =
      (⟨[], .raised (.outOfRange offset tokens.size)⟩, world) := by
  rw [fullRun, separate, if_neg outside]

theorem fullRun_of_scanOnly (label : Label) (scan : Tokens → Nat → Eff World (Option (Hit α)))
    (tokens : Tokens) (offset : Nat) (world : World) :
    let pattern : Pattern World α := ⟨label, scan, .scanOnly⟩
    let run := course tokens (pattern.scanAnswer tokens) offset offset ((), world)
    pattern.finder.fullRun tokens offset world = (run.1, run.2.2) := by
  intro pattern run
  show ((course tokens (pattern.probeAnswer tokens) offset offset ((), world)).1,
    (course tokens (pattern.probeAnswer tokens) offset offset ((), world)).2.2) = _
  rw [course_probeAnswer]

/-- Draining a separation yields the segments of the full run. -/
theorem run_drain (pattern : Pattern World α) (tokens : Tokens) (offset : Int)
    (segments : List (Segment α)) (world : World) :
    (pattern.drain tokens offset).run segments world =
      ((pattern.fullRun tokens offset world).1.ending.outcome pattern.label tokens.size,
        segments ++ (pattern.fullRun tokens offset world).1.segments,
        (pattern.fullRun tokens offset world).2) := by
  by_cases within : 0 ≤ offset ∧ offset ≤ tokens.size
  · obtain ⟨place, rfl⟩ := Int.eq_ofNat_of_zero_le within.1
    have inside : place ≤ tokens.size := Int.ofNat_le.mp within.2
    cases searches : pattern.searches with
    | false =>
        obtain ⟨label, scan, _ | _ | _⟩ := pattern <;> cases searches
        rw [run_drain_of_scans rfl inside, fullRun_inside _ inside, fullRun_of_scanOnly]
        rfl
    | true =>
        rw [run_drain_of_searches searches rfl inside, fullRun_inside pattern inside]
        rcases started : pattern.finder.start tokens world with ⟨fault | memory, begun⟩
        · rw [Finder.fullRun_of_fault _ place started, List.append_nil]
          rfl
        · rw [Finder.fullRun_of_start _ place started]
          rfl
  · rw [fullRun_outside pattern within, drain, separate, if_neg within, List.append_nil,
      Ending.outcome, Fault.leaving_outOfRange]
    generalize Fault.outOfRange offset tokens.size = fault
    rfl

end Pattern

namespace Separation

variable {S : Type} (pattern : Pattern World α) (tokens : Tokens)

def gather (segment : Segment α) (gathered : Array (Segment α)) :
    Eff World (ForInStep (Array (Segment α))) := pure (.yield (gathered.push segment))

theorem finish_gather (pending : Nat) (segments : List (Segment α)) :
    (finish tokens pending segments.toArray gather : Eff World _) =
      pure (segments ++ gap tokens pending tokens.size).toArray := by
  unfold finish emitUnmatched gap gather
  split <;> simp

theorem emit_gather (pending start stop : Nat) (value : α) (segments : List (Segment α)) :
    (emit tokens pending start stop value segments.toArray gather : Eff World _) =
      pure (.yield (segments ++
        (gap tokens pending start ++ [Segment.matched value start stop])).toArray) := by
  unfold emit emitUnmatched gap gather
  split <;> simp

theorem walk_gather
    (ask : (position : Nat) → S → Eff World (Move α tokens.size position × S))
    (answer : (position : Nat) → S × World →
      Except Fault (Move α tokens.size position) × S × World)
    (asks : ∀ position asked world, ask position asked world =
      match answer position (asked, world) with
      | (.ok move, asked, world) => (.ok (move, asked), world)
      | (.error fault, _, world) => (.error (fault.leaving .generator), world))
    (pending position : Nat) (asked : S) (segments : List (Segment α)) (world : World) :
    walk pattern tokens ask gather asked pending position segments.toArray world =
      let run := course tokens answer pending position (asked, world)
      ((run.1.ending.outcome pattern.label tokens.size).map fun _ =>
        (segments ++ run.1.segments).toArray, run.2.2) := by
  induction position using forwards tokens.size generalizing pending asked segments world with
  | step position ih =>
      rw [walk, course]
      split
      · rename_i inside
        rw [Eff.bind_apply, asks]
        rcases answer position (asked, world) with ⟨fault | move, asked, world⟩
        · rfl
        · cases move with
          | finish =>
              simp only [finish_gather]
              rfl
          | skip next forward => exact ih inside next forward pending asked segments world
          | emit start stop value reached consumes within =>
              simp only [emit_gather, pure_bind]
              rw [ih inside stop (by omega)]
              simp only [Report.segments_after, Report.ending_after, List.append_assoc]
          | outside offset place beyond => rfl
      · simp only [finish_gather]
        rfl

end Separation

namespace Pattern

theorem scanning_gather (pattern : Pattern World α) (tokens : Tokens) (offset : Nat)
    (world : World) :
    Separation.scanning pattern tokens Separation.gather offset offset #[] world =
      let run := course tokens (pattern.scanAnswer tokens) offset offset ((), world)
      ((run.1.ending.outcome pattern.label tokens.size).map fun _ => run.1.segments.toArray,
        run.2.2) := by
  rw [Separation.scanning_eq_walk]
  refine Separation.walk_gather pattern tokens _ _ ?_ offset offset () [] world
  intro position asked world
  simp only [Separation.askScan, liftM, monadLift_self, Eff.bind_apply, Eff.leaving, scanAnswer]
  rcases pattern.scan tokens position world with ⟨fault | hit, world⟩ <;> rfl

theorem searching_gather (pattern : Pattern World α) (tokens : Tokens)
    (memory : pattern.finder.Memory) (offset : Nat) (world : World) :
    Separation.searching pattern tokens Separation.gather memory offset offset #[] world =
      let run := course tokens (pattern.finder.answer tokens) offset offset (memory, world)
      ((run.1.ending.outcome pattern.label tokens.size).map fun _ => run.1.segments.toArray,
        run.2.2) := by
  rw [Separation.searching_eq_walk]
  refine Separation.walk_gather pattern tokens _ _ ?_ offset offset memory [] world
  intro position memory world
  simp only [Separation.askSearch, liftM, monadLift_self, Eff.bind_apply, Eff.leaving,
    Finder.answer, Finder.ask, Eff.remembering]
  rcases pattern.finder.find tokens position (memory, world) with ⟨fault | found, memory, world⟩ <;>
    rfl

theorem toList_of_gather {action : Eff World (Array (Segment α))} {world after : World}
    {outcome : Except Fault Unit} {segments : List (Segment α)}
    (gathered : action world = (outcome.map fun _ => segments.toArray, after)) :
    (do return (← action).toList : Eff World (List (Segment α))) world =
      (outcome.map fun _ => segments, after) := by
  rw [Eff.bind_apply, gathered]
  cases outcome <;> rfl

/-- Listing a separation lists the segments of the full run, unless that ends with a fault. -/
theorem toList_eq (pattern : Pattern World α) {tokens : Tokens} {offset : Nat}
    (inside : offset ≤ tokens.size) (world : World) :
    (⟨pattern, tokens, offset⟩ : Separation World α).toList world =
      (((pattern.fullRun tokens offset world).1.ending.outcome pattern.label tokens.size).map
        fun _ => (pattern.fullRun tokens offset world).1.segments,
        (pattern.fullRun tokens offset world).2) := by
  apply toList_of_gather
  show Separation.run ⟨pattern, tokens, offset⟩ #[] Separation.gather world = _
  rw [fullRun_inside pattern inside]
  cases searches : pattern.searches with
  | false =>
      obtain ⟨label, scan, _ | _ | _⟩ := pattern <;> cases searches
      rw [fullRun_of_scanOnly]
      exact scanning_gather _ tokens offset world
  | true =>
      simp only [Separation.run, searches, ↓reduceIte, liftM, monadLift_self, Eff.bind_apply,
        Eff.leaving, searching_gather]
      rcases started : pattern.finder.start tokens world with ⟨fault | memory, begun⟩
      · rw [Finder.fullRun_of_fault _ offset started]
        rfl
      · rw [Finder.fullRun_of_start _ offset started]

theorem separated_scan (pattern : Pattern World α) (tokens : Tokens) (offset : Nat)
    (world : World) :
    pattern.separated.scan tokens offset world =
      (((pattern.fullRun tokens offset world).1.ending.outcome pattern.label tokens.size).map
        fun _ => some ⟨tokens.size, (pattern.fullRun tokens offset world).1.segments⟩,
        (pattern.fullRun tokens offset world).2) := by
  by_cases inside : offset ≤ tokens.size
  · simp only [separated, separate_ok pattern inside, Eff.bind_apply, toList_eq pattern inside]
    cases (pattern.fullRun tokens offset world).1.ending <;> rfl
  · have outside : ¬(0 ≤ (offset : Int) ∧ (offset : Int) ≤ tokens.size) := by omega
    rw [fullRun_outside pattern outside]
    simp only [separated, separate, if_neg outside, Ending.outcome, Fault.leaving_outOfRange]
    rfl

end Pattern

end SpanEdit
