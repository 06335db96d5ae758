import SpanEdit.Proofs.Tiling
import SpanEdit.Proofs.Walk

/-!
The course of a walk: the segments that a full run yields and how it ends, as a function of the
answers alone. Draining a separation follows the course of its loop.
-/

namespace SpanEdit

/-- How a full run ends. -/
inductive Ending where
  | complete
  /-- A call of the pattern failed. -/
  | raised (fault : Fault)
  /-- The pattern reported a place outside the input. -/
  | outside (offset : Nat) (place : Int)

namespace Ending

def outcome (label : Label) (size : Nat) : Ending → Except Fault Unit
  | complete => .ok ()
  | raised fault => .error (fault.leaving .generator)
  | outside offset place => .error (.outside label offset place size)

theorem outcome_eq_ok {label : Label} {size : Nat} {ending : Ending} :
    ending.outcome label size = .ok () ↔ ending = .complete := by
  cases ending <;> simp [outcome]

end Ending

structure Report (α : Type) where
  segments : List (Segment α)
  ending : Ending

namespace Report

variable {α : Type}

def after (first : List (Segment α)) (report : Report α) : Report α :=
  ⟨first ++ report.segments, report.ending⟩

@[simp] theorem segments_after (first : List (Segment α)) (report : Report α) :
    (report.after first).segments = first ++ report.segments := rfl

@[simp] theorem ending_after (first : List (Segment α)) (report : Report α) :
    (report.after first).ending = report.ending := rfl

end Report

section Course

variable {α S T : Type} {tokens : Tokens}

def course (tokens : Tokens)
    (answer : (position : Nat) → S → Except Fault (Move α tokens.size position) × S)
    (pending position : Nat) (asked : S) : Report α × S :=
  if position < tokens.size then
    match answer position asked with
    | (.error fault, asked) => (⟨[], .raised fault⟩, asked)
    | (.ok .finish, asked) => (⟨gap tokens pending tokens.size, .complete⟩, asked)
    | (.ok (.skip next _), asked) => course tokens answer pending next asked
    | (.ok (.emit start stop value _ _ _), asked) =>
        let rest := course tokens answer stop stop asked
        (rest.1.after (gap tokens pending start ++ [.matched value start stop]), rest.2)
    | (.ok (.outside offset place _), asked) => (⟨[], .outside offset place⟩, asked)
  else (⟨gap tokens pending tokens.size, .complete⟩, asked)
termination_by tokens.size - position

/-- Whatever the answers are, the segments of a course cover the input up to some place without a
gap, and up to its end if the course is complete. -/
theorem course_tiling
    (answer : (position : Nat) → S → Except Fault (Move α tokens.size position) × S)
    (pending position : Nat) (asked : S) (ordered : pending ≤ position)
    (inside : pending ≤ tokens.size) :
    ∃ stop ≤ tokens.size,
      Tiling tokens pending stop (course tokens answer pending position asked).1.segments ∧
      ((course tokens answer pending position asked).1.ending = .complete →
        stop = tokens.size) := by
  fun_induction course tokens answer pending position asked with
  | case1 => exact ⟨_, inside, .nil, by simp⟩
  | case2 => exact ⟨tokens.size, Nat.le_refl _, .gap inside (Nat.le_refl _), fun _ => rfl⟩
  | case3 pending position asked unfinished next forward later answered ih =>
      exact ih (by omega) inside
  | case4 pending position asked unfinished start stop value reached consumes within later answered
      rest ih =>
      obtain ⟨last, lastInside, tiling, complete⟩ := ih (Nat.le_refl stop) within
      refine ⟨last, lastInside, ?_, complete⟩
      simpa using tiling.emit value (Nat.le_trans ordered reached) consumes within
  | case5 => exact ⟨_, inside, .nil, by simp⟩
  | case6 => exact ⟨tokens.size, Nat.le_refl _, .gap inside (Nat.le_refl _), fun _ => rfl⟩

theorem course_outside
    (answer : (position : Nat) → S → Except Fault (Move α tokens.size position) × S)
    (pending position : Nat) (asked : S) {offset : Nat} {place : Int}
    (ends : (course tokens answer pending position asked).1.ending = .outside offset place) :
    place < offset ∨ tokens.size < place := by
  fun_induction course tokens answer pending position asked with
  | case1 => simp at ends
  | case2 => simp at ends
  | case3 pending position asked unfinished next forward later answered ih => exact ih ends
  | case4 pending position asked unfinished start stop value reached consumes within later answered
      rest ih => exact ih ends
  | case5 pending position asked unfinished reportedAt reported beyond later answered =>
      simp only [Ending.outside.injEq] at ends
      rw [← ends.1, ← ends.2]
      exact beyond
  | case6 => simp at ends

theorem course_keeps (Valid : S → Prop)
    (answer : (position : Nat) → S → Except Fault (Move α tokens.size position) × S)
    (keeps : ∀ position asked, position < tokens.size → Valid asked →
      Valid (answer position asked).2)
    (pending position : Nat) {asked : S} (valid : Valid asked) :
    Valid (course tokens answer pending position asked).2 := by
  fun_induction course tokens answer pending position asked with
  | case1 pending position asked unfinished fault later answered =>
      simpa only [answered] using keeps position asked unfinished valid
  | case2 pending position asked unfinished later answered =>
      simpa only [answered] using keeps position asked unfinished valid
  | case3 pending position asked unfinished next forward later answered ih =>
      exact ih (by simpa only [answered] using keeps position asked unfinished valid)
  | case4 pending position asked unfinished start stop value reached consumes within later answered
      rest ih =>
      exact ih (by simpa only [answered] using keeps position asked unfinished valid)
  | case5 pending position asked unfinished offset place beyond later answered =>
      simpa only [answered] using keeps position asked unfinished valid
  | case6 => exact valid

theorem course_map (view : S → T)
    (answer : (position : Nat) → S → Except Fault (Move α tokens.size position) × S)
    (other : (position : Nat) → T → Except Fault (Move α tokens.size position) × T)
    (agrees : ∀ position asked,
      other position (view asked) = ((answer position asked).1, view (answer position asked).2))
    (pending position : Nat) (asked : S) :
    course tokens other pending position (view asked) =
      ((course tokens answer pending position asked).1,
        view (course tokens answer pending position asked).2) := by
  fun_induction course tokens answer pending position asked with
  | case1 pending position asked unfinished fault later answered =>
      simp [course, unfinished, agrees, answered]
  | case2 pending position asked unfinished later answered =>
      simp [course, unfinished, agrees, answered]
  | case3 pending position asked unfinished next forward later answered ih =>
      rw [course, if_pos unfinished, agrees, answered]
      exact ih
  | case4 pending position asked unfinished start stop value reached consumes within later answered
      rest ih =>
      rw [course, if_pos unfinished, agrees, answered]
      simp only [ih, rest]
  | case5 pending position asked unfinished offset place beyond later answered =>
      simp [course, unfinished, agrees, answered]
  | case6 pending position asked finished => simp [course, finished]

end Course

def Collecting (World α : Type) (β : Type) : Type := Eff (List (Segment α) × World) β

namespace Collecting

variable {World α β : Type}

instance : Monad (Collecting World α) := inferInstanceAs (Monad (Eff _))

instance : LawfulMonad (Collecting World α) := inferInstanceAs (LawfulMonad (Eff _))

instance : MonadLift (Eff World) (Collecting World α) := ⟨Eff.besideMemory⟩

def run (action : Collecting World α β) (segments : List (Segment α)) (world : World) :
    Except Fault β × List (Segment α) × World := action (segments, world)

def yield (segment : Segment α) : Collecting World α Unit := fun (segments, world) =>
  (.ok (), segments ++ [segment], world)

@[simp] theorem run_pure (value : β) (segments : List (Segment α)) (world : World) :
    (pure value : Collecting World α β).run segments world = (.ok value, segments, world) := rfl

@[simp] theorem run_yield (segment : Segment α) (segments : List (Segment α)) (world : World) :
    (yield segment).run segments world = (.ok (), segments ++ [segment], world) := rfl

@[simp] theorem run_lift (action : Eff World β) (segments : List (Segment α)) (world : World) :
    (liftM action : Collecting World α β).run segments world =
      ((action world).1, segments, (action world).2) := rfl

def result {S : Type} (label : Label) (size : Nat) (segments : List (Segment α))
    (run : Report α × S × World) : Except Fault Unit × List (Segment α) × World :=
  (run.1.ending.outcome label size, segments ++ run.1.segments, run.2.2)

theorem run_bind {γ : Type} (action : Collecting World α β) (next : β → Collecting World α γ)
    (segments : List (Segment α)) (world : World) :
    (action >>= next).run segments world =
      match action.run segments world with
      | (.ok value, segments, world) => (next value).run segments world
      | (.error fault, segments, world) => (.error fault, segments, world) := by
  show Eff.andThen action next (segments, world) = _
  unfold Eff.andThen run
  rcases action (segments, world) with ⟨fault | value, segments, world⟩ <;> rfl

end Collecting

/-- Pulls every segment of a separation. -/
def Pattern.drain {World α : Type} (pattern : Pattern World α) (tokens : Tokens) (offset : Int) :
    Collecting World α Unit :=
  match pattern.separate tokens offset with
  | .error fault => liftM (throw fault : Eff World Unit)
  | .ok separation => do
      for segment in separation do
        Collecting.yield segment

namespace Separation

variable {World α S : Type}

def collect (segment : Segment α) (_ : Unit) : Collecting World α (ForInStep Unit) := do
  Collecting.yield segment
  return .yield ()

@[simp] theorem run_collect (segment : Segment α) (segments : List (Segment α)) (world : World) :
    (collect segment ()).run segments world = (.ok (.yield ()), segments ++ [segment], world) :=
  rfl

@[simp] theorem run_finish (tokens : Tokens) (pending : Nat) (segments : List (Segment α))
    (world : World) :
    (finish tokens pending () collect).run segments world =
      (.ok (), segments ++ gap tokens pending tokens.size, world) := by
  unfold finish emitUnmatched gap
  split <;> simp [Collecting.run_bind]

@[simp] theorem run_emit (tokens : Tokens) (pending start stop : Nat) (value : α)
    (segments : List (Segment α)) (world : World) :
    (emit tokens pending start stop value () collect).run segments world =
      (.ok (.yield ()), segments ++ (gap tokens pending start ++ [.matched value start stop]),
        world) := by
  unfold emit emitUnmatched gap
  split <;> simp [Collecting.run_bind]

@[simp] theorem run_outside (pattern : Pattern World α) (offset : Nat) (place : Int)
    (length : Nat) (segments : List (Segment α)) (world : World) :
    (outside pattern offset place length : Collecting World α Unit).run segments world =
      (.error (.outside pattern.label offset place length), segments, world) := rfl

theorem run_walk (pattern : Pattern World α) (tokens : Tokens)
    (ask : (position : Nat) → S → Collecting World α (Move α tokens.size position × S))
    (answer : (position : Nat) → S × World →
      Except Fault (Move α tokens.size position) × S × World)
    (asks : ∀ position asked segments world, (ask position asked).run segments world =
      match answer position (asked, world) with
      | (.ok move, asked, world) => (.ok (move, asked), segments, world)
      | (.error fault, _, world) => (.error (fault.leaving .generator), segments, world))
    (pending position : Nat) (asked : S) (segments : List (Segment α)) (world : World) :
    (walk pattern tokens ask collect asked pending position ()).run segments world =
      Collecting.result pattern.label tokens.size segments
        (course tokens answer pending position (asked, world)) := by
  induction position using forwards tokens.size generalizing pending asked segments world with
  | step position ih =>
      rw [walk, course]
      split
      · rename_i inside
        rw [Collecting.run_bind, asks]
        rcases answer position (asked, world) with ⟨fault | move, asked, world⟩
        · simp [Collecting.result, Ending.outcome]
        · cases move with
          | finish => simp [Collecting.result, Ending.outcome]
          | skip next forward => exact ih inside next forward pending asked segments world
          | emit start stop value reached consumes within =>
              simp only [Collecting.run_bind, run_emit]
              rw [ih inside stop (by omega)]
              simp [Collecting.result]
          | outside offset place beyond => simp [Collecting.result, Ending.outcome]
      · simp [Collecting.result, Ending.outcome]

end Separation

def Finder.answer {World α : Type} (finder : Finder World α) (tokens : Tokens) (position : Nat)
    (asked : finder.Memory × World) :
    Except Fault (Move α tokens.size position) × finder.Memory × World :=
  let answer := finder.find tokens position asked
  (answer.1.map (.ofSearch position), answer.2)

theorem Finder.answer_of_find {World α : Type} {finder : Finder World α} {tokens : Tokens}
    {position : Nat} {asked later : finder.Memory × World}
    {outcome : Except Fault (Option (Found α))}
    (found : finder.find tokens position asked = (outcome, later)) :
    finder.answer tokens position asked = (outcome.map (.ofSearch position), later) := by
  rw [answer, found]

namespace Pattern

variable {World α : Type}

theorem separate_ok (pattern : Pattern World α) {tokens : Tokens} {offset : Nat}
    (inside : offset ≤ tokens.size) :
    pattern.separate tokens offset = .ok ⟨pattern, tokens, offset⟩ := by
  simp [separate, inside]

def scanAnswer (pattern : Pattern World α) (tokens : Tokens) (position : Nat)
    (asked : Unit × World) : Except Fault (Move α tokens.size position) × Unit × World :=
  let answer := pattern.scan tokens position asked.2
  (answer.1.map (.ofScan position), (), answer.2)

theorem run_scanning (pattern : Pattern World α) (tokens : Tokens) (offset : Nat)
    (segments : List (Segment α)) (world : World) :
    (Separation.scanning pattern tokens Separation.collect offset offset ()).run segments world =
      Collecting.result pattern.label tokens.size segments
        (course tokens (pattern.scanAnswer tokens) offset offset ((), world)) := by
  rw [Separation.scanning_eq_walk]
  apply Separation.run_walk
  intro position asked segments world
  simp only [Separation.askScan, Collecting.run_bind, Collecting.run_lift, Eff.leaving, scanAnswer]
  rcases pattern.scan tokens position world with ⟨fault | hit, world⟩ <;> rfl

theorem run_searching (pattern : Pattern World α) (tokens : Tokens)
    (memory : pattern.finder.Memory) (offset : Nat) (segments : List (Segment α)) (world : World) :
    (Separation.searching pattern tokens Separation.collect memory offset offset ()).run segments
        world =
      Collecting.result pattern.label tokens.size segments
        (course tokens (pattern.finder.answer tokens) offset offset (memory, world)) := by
  rw [Separation.searching_eq_walk]
  apply Separation.run_walk
  intro position memory segments world
  simp only [Separation.askSearch, Collecting.run_bind, Collecting.run_lift, Eff.leaving,
    Finder.answer, Finder.ask, Eff.remembering]
  rcases pattern.finder.find tokens position (memory, world) with ⟨fault | found, memory, world⟩ <;>
    rfl

theorem run_drain_of_scans {pattern : Pattern World α} (scans : pattern.searches = false)
    {tokens : Tokens} {offset : Nat} (inside : offset ≤ tokens.size)
    (segments : List (Segment α)) (world : World) :
    (pattern.drain tokens offset).run segments world =
      Collecting.result pattern.label tokens.size segments
        (course tokens (pattern.scanAnswer tokens) offset offset ((), world)) := by
  rw [drain, separate_ok pattern inside]
  simp only [bind_pure_unit]
  show (Separation.run ⟨pattern, tokens, offset⟩ () Separation.collect).run segments world = _
  simp only [Separation.run, scans, Bool.false_eq_true, ↓reduceIte]
  exact pattern.run_scanning tokens offset segments world

theorem run_drain_of_searches {pattern : Pattern World α} {finder : Finder World α}
    (searches : pattern.searches = true) (is : pattern.finder = finder) {tokens : Tokens}
    {offset : Nat} (inside : offset ≤ tokens.size) (segments : List (Segment α)) (world : World) :
    (pattern.drain tokens offset).run segments world =
      match finder.start tokens world with
      | (.ok memory, world) =>
          Collecting.result pattern.label tokens.size segments
            (course tokens (finder.answer tokens) offset offset (memory, world))
      | (.error fault, world) => (.error (fault.leaving .generator), segments, world) := by
  subst is
  rw [drain, separate_ok pattern inside]
  simp only [bind_pure_unit]
  show (Separation.run ⟨pattern, tokens, offset⟩ () Separation.collect).run segments world = _
  simp only [Separation.run, searches, ↓reduceIte, Collecting.run_bind, Collecting.run_lift,
    Eff.leaving]
  rcases pattern.finder.start tokens world with ⟨fault | memory, world⟩
  · rfl
  · exact pattern.run_searching tokens memory offset segments world

end Pattern

end SpanEdit
