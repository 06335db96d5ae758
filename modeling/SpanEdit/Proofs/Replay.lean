import SpanEdit.Proofs.Exact

/-!
Loops over the separation of an exact pattern. What the body of the loop does to the world changes
no answer, so the loop gives the body the segments of the reference one after the other.
-/

namespace SpanEdit

variable {World α β : Type}

def replay (outcome : Except Fault Unit) (body : Segment α → β → Eff World (ForInStep β)) :
    List (Segment α) → β → Eff World β
  | [], state => do
      Eff.ofExcept outcome
      return state
  | segment :: rest, state => do
      match ← body segment state with
      | .done state => pure state
      | .yield state => replay outcome body rest state

namespace Separation

variable (tokens : Tokens) (body : Segment α → β → Eff World (ForInStep β))

theorem emitUnmatched_eq_replay (outcome : Except Fault Unit) (pending stop : Nat)
    (rest : List (Segment α)) (state : β) :
    (emitUnmatched tokens pending stop state body >>= fun
      | .done state => pure state
      | .yield state => replay outcome body rest state) =
      replay outcome body (gap tokens pending stop ++ rest) state := by
  unfold emitUnmatched gap
  split
  · rfl
  · simp only [pure_bind, List.nil_append]

theorem finish_eq_replay (pending : Nat) (state : β) :
    finish tokens pending state body =
      replay (.ok ()) body (gap tokens pending tokens.size) state := by
  have ended := emitUnmatched_eq_replay tokens body (.ok ()) pending tokens.size [] state
  rw [List.append_nil] at ended
  exact ended

theorem emit_eq_replay (outcome : Except Fault Unit) (pending start stop : Nat) (value : α)
    (rest : List (Segment α)) (state : β) :
    (emit tokens pending start stop value state body >>= fun
      | .done state => pure state
      | .yield state => replay outcome body rest state) =
      replay outcome body (gap tokens pending start ++ .matched value start stop :: rest)
        state := by
  rw [← emitUnmatched_eq_replay, emit, bind_assoc]
  congr 1
  funext step
  cases step <;> rfl

variable {S : Type} {scan : Verdicts α}

/-- A loop whose answers are as good as those of the reference gives its body the segments of the
reference. -/
theorem walk_eq_replay {tokens : Tokens} (pattern : Pattern World α)
    (ask : (position : Nat) → S → Eff World (Move α tokens.size position × S)) (Valid : S → Prop)
    (asks : ∀ position asked world, position < tokens.size → Valid asked →
      ∃ outcome later, ask position asked world =
          ((outcome.mapError (Fault.leaving .generator)).map (·, later), world) ∧
        Valid later ∧ ∀ pending, reference tokens scan pending position =
          follow tokens (reference tokens scan) pending outcome)
    {asked : S} (valid : Valid asked) (pending position : Nat) (state : β) :
    walk pattern tokens ask body asked pending position state =
      replay ((reference tokens scan pending position).ending.outcome pattern.label tokens.size)
        body (reference tokens scan pending position).segments state := by
  induction position using forwards tokens.size generalizing asked pending state with
  | step position ih =>
      by_cases unfinished : position < tokens.size
      · funext world
        -- The body may change the world between two answers, so each is taken in its own world.
        obtain ⟨outcome, later, answered, stays, follows⟩ :=
          asks position asked world unfinished valid
        rw [walk, if_pos unfinished, Eff.bind_apply, answered, follows pending]
        rcases outcome with fault | move
        · rfl
        · cases move with
          | finish => exact congrFun (finish_eq_replay tokens body pending state) world
          | skip next forward =>
              exact congrFun (ih unfinished next forward stays pending state) world
          | emit start stop value reached consumes inside =>
              have rest (state : β) := ih unfinished stop (by omega) stays stop state
              have emitted := emit_eq_replay tokens body
                ((reference tokens scan stop stop).ending.outcome pattern.label tokens.size)
                pending start stop value (reference tokens scan stop stop).segments state
              simp only [Except.mapError, Except.map, rest, follow, Report.after, List.append_assoc,
                List.singleton_append]
              exact congrFun emitted world
          | outside offset place beyond => rfl
      · have finished : tokens.size ≤ position := by omega
        rw [walk, if_neg unfinished, reference_finished finished]
        exact finish_eq_replay tokens body pending state

end Separation

namespace Pattern.Exact

variable {tokens : Tokens} {scan : Verdicts α} {pattern : Pattern World α}

theorem scanning_eq_replay (exact : pattern.Exact tokens scan) (offset : Nat)
    (body : Segment α → β → Eff World (ForInStep β)) (state : β) :
    Separation.scanning pattern tokens body offset offset state =
      replay ((reference tokens scan offset offset).ending.outcome pattern.label tokens.size)
        body (reference tokens scan offset offset).segments state := by
  rw [Separation.scanning_eq_walk]
  refine Separation.walk_eq_replay body pattern _ (fun _ => True) ?_ trivial offset offset state
  intro position asked world unfinished _
  refine ⟨(scan position).map (.ofScan position), (), ?_, trivial,
    reference_eq_follow unfinished⟩
  have scanned : (liftM ((pattern.scan tokens position).leaving .generator) : Eff World _) world =
      ((scan position).mapError (Fault.leaving .generator), world) := by
    show (pattern.scan tokens position).leaving .generator world = _
    rw [Eff.leaving_apply, exact.scans position unfinished world]
  rw [Separation.askScan, Eff.bind_apply, scanned]
  rcases scan position with fault | hit <;> rfl

theorem searching_eq_replay {Valid : pattern.finder.Memory → Prop}
    (finds : ∀ offset, offset ≤ tokens.size → ∀ world,
      Eff.Sustains (fun state => Valid state.1 ∧ state.2 = world)
        (pattern.finder.find tokens offset) (Leftmost scan tokens.size offset))
    {memory : pattern.finder.Memory} (valid : Valid memory) (offset : Nat)
    (body : Segment α → β → Eff World (ForInStep β)) (state : β) :
    Separation.searching pattern tokens body memory offset offset state =
      replay ((reference tokens scan offset offset).ending.outcome pattern.label tokens.size)
        body (reference tokens scan offset offset).segments state := by
  rw [Separation.searching_eq_walk]
  refine Separation.walk_eq_replay body pattern _ Valid ?_ valid offset offset state
  intro position asked world unfinished valid
  obtain ⟨⟨stays, unchanged⟩, leftmost⟩ :=
    finds position unfinished.le world (asked, world) ⟨valid, rfl⟩
  rcases answered : pattern.finder.find tokens position (asked, world) with
    ⟨outcome, later, changed⟩
  rw [answered] at stays unchanged leftmost
  refine ⟨outcome.map (.ofSearch position), later, ?_, stays,
    reference_of_permitted unfinished leftmost.permitted⟩
  subst unchanged
  have asks : (liftM ((pattern.finder.ask tokens position asked).leaving .generator) :
      Eff World _) changed =
      ((outcome.mapError (Fault.leaving .generator)).map (·, later), changed) := by
    show (pattern.finder.ask tokens position asked).leaving .generator changed = _
    rw [Eff.leaving_apply, Finder.ask, Eff.remembering, answered]
    cases outcome <;> rfl
  rw [Separation.askSearch, Eff.bind_apply, asks]
  rcases outcome with fault | found <;> rfl

/-- A loop over the separation gives its body the segments of the reference. -/
theorem run_eq_replay (exact : pattern.Exact tokens scan) (offset : Nat)
    (body : Segment α → β → Eff World (ForInStep β)) (state : β) :
    Separation.run ⟨pattern, tokens, offset⟩ state body =
      replay ((reference tokens scan offset offset).ending.outcome pattern.label tokens.size)
        body (reference tokens scan offset offset).segments state := by
  simp only [Separation.run]
  split
  · obtain ⟨Valid, ⟨memory, valid, begins⟩, finds⟩ := exact.finds
    have started : (liftM ((pattern.finder.start tokens).leaving .generator) : Eff World _) =
        pure memory := by
      funext world
      exact Eff.leaving_ok (begins world) .generator
    rw [started, pure_bind, searching_eq_replay finds valid]
  · exact exact.scanning_eq_replay offset body state

end Pattern.Exact

theorem replay_push (outcome : Except Fault Unit) (segments : List (Segment α))
    (collected : Array (Segment α)) :
    replay outcome (fun segment collected => pure (.yield (collected.push segment))) segments
        collected =
      (do
        Eff.ofExcept outcome
        return collected ++ segments : Eff World (Array (Segment α))) := by
  induction segments generalizing collected with
  | nil => simp [replay]
  | cons segment rest ih =>
      have appended : collected.push segment ++ rest = collected ++ (segment :: rest) := by
        simp
      simp only [replay, pure_bind, ih, appended]

theorem Pattern.Exact.toList_eq {tokens : Tokens} {scan : Verdicts α} {pattern : Pattern World α}
    (exact : pattern.Exact tokens scan) (offset : Nat) :
    (⟨pattern, tokens, offset⟩ : Separation World α).toList =
      (do
        Eff.ofExcept
          ((reference tokens scan offset offset).ending.outcome pattern.label tokens.size)
        return (reference tokens scan offset offset).segments) := by
  have pushed := exact.run_eq_replay offset
    (fun segment collected => pure (.yield (collected.push segment))) #[]
  rw [replay_push] at pushed
  show (do
    let collected ← Separation.run ⟨pattern, tokens, offset⟩ #[]
      fun segment collected => pure (.yield (collected.push segment))
    return collected.toList : Eff World _) = _
  rw [pushed]
  simp

theorem reference_raised {tokens : Tokens} {scan : Verdicts α} {pending position : Nat}
    {fault : Fault} (raised : (reference tokens scan pending position).ending = .raised fault) :
    ∃ place, place < tokens.size ∧ scan place = .error fault := by
  induction position using forwards tokens.size generalizing pending with
  | step position ih =>
      by_cases unfinished : position < tokens.size
      · rw [reference_eq_follow unfinished] at raised
        rcases scanned : scan position with other | hit <;>
          simp only [scanned, Except.map] at raised
        · simp only [follow, Ending.raised.injEq] at raised
          exact ⟨position, unfinished, raised ▸ scanned⟩
        · generalize (Move.ofScan position hit : Move α tokens.size position) = move at raised
          cases move with
          | finish => cases raised
          | skip next forward => exact ih unfinished next forward raised
          | emit start stop value reached consumes inside =>
              exact ih unfinished stop (by omega) raised
          | outside offset place beyond => cases raised
      · rw [reference_finished (by omega)] at raised
        cases raised

namespace Pattern

def separatedVerdict (label : Label) (tokens : Tokens) (scan : Verdicts α) :
    Verdicts (List (Segment α)) := fun place =>
  ((reference tokens scan place place).ending.outcome label tokens.size).map fun _ =>
    some ⟨tokens.size, (reference tokens scan place place).segments⟩

theorem Exact.outcome_reports {tokens : Tokens} {scan : Verdicts α} {pattern : Pattern World α}
    (exact : pattern.Exact tokens scan) {pending position : Nat} {fault : Fault}
    (raised : (reference tokens scan pending position).ending.outcome pattern.label tokens.size =
      .error fault) :
    ∃ label offset position, fault = .outside label offset position tokens.size := by
  rcases ends : (reference tokens scan pending position).ending with _ | other | ⟨offset, place⟩ <;>
    rw [ends] at raised <;> cases raised
  · obtain ⟨place, inside, scanned⟩ := reference_raised ends
    obtain ⟨label, offset, position, rfl⟩ := exact.reports place inside _ scanned
    exact ⟨label, offset, position, Fault.leaving_outside _ _ _ _ _⟩
  · exact ⟨_, _, _, rfl⟩

theorem Exact.scan_separated {tokens : Tokens} {scan : Verdicts α} {pattern : Pattern World α}
    (exact : pattern.Exact tokens scan) {offset : Nat} (inside : offset ≤ tokens.size)
    (world : World) :
    pattern.separated.scan tokens offset world =
      (separatedVerdict pattern.label tokens scan offset, world) := by
  simp only [Pattern.separated, separate_ok pattern inside, exact.toList_eq, separatedVerdict]
  cases (reference tokens scan offset offset).ending.outcome pattern.label tokens.size <;> rfl

theorem Exact.separated {tokens : Tokens} {scan : Verdicts α} {pattern : Pattern World α}
    (exact : pattern.Exact tokens scan) :
    pattern.separated.Exact tokens (separatedVerdict pattern.label tokens scan) := by
  refine exact_of_scan (fun place inside world => exact.scan_separated inside.le world)
    (.inr fun place inside => ?_) fun place inside fault raised => ?_
  · simp only [separatedVerdict]
    cases (reference tokens scan place place).ending.outcome pattern.label tokens.size <;>
      simp [Except.map]
  · simp only [separatedVerdict] at raised
    cases outcome :
      (reference tokens scan place place).ending.outcome pattern.label tokens.size with
    | error other =>
        rw [outcome] at raised
        cases raised
        exact exact.outcome_reports outcome
    | ok _ =>
        rw [outcome] at raised
        cases raised

end Pattern

namespace Pattern

variable {tokens : Tokens} {scan : Verdicts α} {pattern : Pattern World α} {offset : Nat}

/-- A pattern that can only scan needs no more than that its scan leaves the world alone. -/
theorem run_drain_of_verdicts (searches : pattern.searches = false)
    (scans : ∀ place, place < tokens.size → ∀ world,
      pattern.scan tokens place world = (scan place, world))
    (inside : offset ≤ tokens.size) (segments : List (Segment α)) (world : World) :
    (pattern.drain tokens offset).run segments world =
      ((reference tokens scan offset offset).ending.outcome pattern.label tokens.size,
        segments ++ (reference tokens scan offset offset).segments, world) := by
  let Kept (state : Unit × World) : Prop := state.2 = world
  have kept : Kept ((), world) := rfl
  have unchanged : Kept _ := course_keeps Kept (pattern.scanAnswer tokens)
    (fun position asked inside kept => by
      rw [scanAnswer, scans position inside]
      exact kept) offset offset kept
  have answers place inside now : (pattern.scan tokens place now).1 = scan place :=
    congrArg Prod.fst (scans place inside now)
  rw [run_drain_of_scans searches inside, Collecting.result, course_scanAnswer answers, unchanged]

theorem Exact.run_drain (exact : pattern.Exact tokens scan) (inside : offset ≤ tokens.size)
    (segments : List (Segment α)) (world : World) :
    (pattern.drain tokens offset).run segments world =
      ((reference tokens scan offset offset).ending.outcome pattern.label tokens.size,
        segments ++ (reference tokens scan offset offset).segments, world) := by
  cases searches : pattern.searches with
  | false => exact run_drain_of_verdicts searches exact.scans inside segments world
  | true =>
      obtain ⟨Valid, ⟨memory, valid, begins⟩, finds⟩ := exact.finds
      let Kept (state : pattern.finder.Memory × World) : Prop := Valid state.1 ∧ state.2 = world
      have kept : Kept (memory, world) := ⟨valid, rfl⟩
      have unchanged : Kept _ := course_keeps Kept (pattern.finder.answer tokens)
        (fun position asked inside kept => (finds position inside.le world asked kept).1) offset
        offset kept
      have same : (course tokens (pattern.finder.answer tokens) offset offset (memory, world)).1 =
          reference tokens scan offset offset := by
        refine course_eq_reference _ (fun _ state => Kept state) ?_ kept (Nat.zero_le offset) offset
        intro next position asked kept _ unfinished
        obtain ⟨stays, leftmost⟩ := finds position unfinished.le world asked kept
        exact ⟨_, leftmost.permitted, rfl, fun _ => stays⟩
      rw [run_drain_of_searches searches rfl inside, begins]
      simp only [Collecting.result, same, unchanged.2]

end Pattern

end SpanEdit
