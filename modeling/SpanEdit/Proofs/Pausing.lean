import SpanEdit.Edit.Pausing
import SpanEdit.Proofs.Observation

/-!
Edits whose editor may pause: whatever happens to the world in the meantime, the edit does what it
would do with an editor that has its replacements at once, and nothing of its own happens while it
waits for one.
-/

namespace SpanEdit

variable {World α β γ : Type}

namespace Task

theorem bind_eq (task : Task World β) (next : β → Task World γ) :
    (task >>= next) = task.bind next := rfl

instance : LawfulMonad (Task World) := LawfulMonad.mk' _
  (fun task => by
    show task.bind .done = task
    induction task with
    | done value => rfl
    | perform action next ih => exact congrArg (perform action) (funext ih)
    | pause next ih => exact congrArg pause ih)
  (fun _ _ => rfl)
  (fun task next last => by
    show (task.bind next).bind last = task.bind fun value => (next value).bind last
    induction task with
    | done value => rfl
    | perform action rest ih => exact congrArg (perform action) (funext ih)
    | pause rest ih => exact congrArg pause ih)

/-- Runs a task. Wherever it pauses, the world changes before it goes on. What the world becomes may
depend on everything that it holds, so this is a run under any schedule. -/
def runUnder (between : World → World) : Task World β → Eff World β
  | .done value => pure value
  | .perform action next => do (next (← action)).runUnder between
  | .pause next => do
      Eff.modify between
      next.runUnder between

def attempt : Task World β → Task World (Except Fault β)
  | .done value => .done (.ok value)
  | .perform action next =>
      .perform action.attempt fun
        | .ok result => (next result).attempt
        | .error fault => .done (.error fault)
  | .pause next => .pause next.attempt

def beside : Task World γ → Task (β × World) γ
  | .done value => .done value
  | .perform action next => .perform action.besideMemory fun result => (next result).beside
  | .pause next => .pause next.beside

variable (between : World → World)

@[simp] theorem runUnder_pure (value : β) :
    (pure value : Task World β).runUnder between = pure value := rfl

@[simp] theorem runUnder_lift (action : Eff World β) :
    (liftM action : Task World β).runUnder between = action := bind_pure action

@[simp] theorem runUnder_bind (task : Task World β) (next : β → Task World γ) :
    (task >>= next).runUnder between =
      task.runUnder between >>= fun value => (next value).runUnder between := by
  rw [bind_eq]
  induction task with
  | done value => rfl
  | perform action rest ih =>
      simp only [Task.bind, runUnder, ih, bind_assoc]
  | pause rest ih =>
      simp only [Task.bind, runUnder, ih, bind_assoc]

theorem runUnder_attempt (task : Task World β) :
    task.attempt.runUnder between = (task.runUnder between).attempt := by
  induction task with
  | done value => rfl
  | perform action next ih =>
      funext world
      simp only [attempt, runUnder, Eff.bind_apply, Eff.attempt]
      rcases action world with ⟨fault | result, after⟩
      · rfl
      · exact congrFun (ih result) after
  | pause next ih =>
      funext world
      exact congrFun ih (between world)

theorem runUnder_leaving (frame : Frame) (task : Task World β) :
    (task.leaving frame).runUnder between = (task.runUnder between).leaving frame := by
  induction task with
  | done value => rfl
  | perform action next ih =>
      rw [runUnder, Eff.leaving_bind, leaving, runUnder]
      exact congrArg _ (funext ih)
  | pause next ih =>
      rw [runUnder, Eff.leaving_bind, leaving, runUnder, ih]
      rfl

end Task

namespace Separation

open SpanEdit.Task

variable {S : Type} (between : World → World)

theorem runUnder_emitUnmatched (tokens : Tokens) (pending stop : Nat) (state : β)
    (body : Segment α → β → Task World (ForInStep β)) :
    (emitUnmatched tokens pending stop state body).runUnder between =
      emitUnmatched tokens pending stop state
        fun segment state => (body segment state).runUnder between := by
  unfold emitUnmatched
  split <;> rfl

theorem runUnder_emit (tokens : Tokens) (pending start stop : Nat) (value : α) (state : β)
    (body : Segment α → β → Task World (ForInStep β)) :
    (emit tokens pending start stop value state body).runUnder between =
      emit tokens pending start stop value state
        fun segment state => (body segment state).runUnder between := by
  simp only [emit, runUnder_bind, runUnder_emitUnmatched]
  congr 1
  funext step
  cases step <;> rfl

theorem runUnder_finish (tokens : Tokens) (pending : Nat) (state : β)
    (body : Segment α → β → Task World (ForInStep β)) :
    (finish tokens pending state body).runUnder between =
      finish tokens pending state
        fun segment state => (body segment state).runUnder between := by
  simp only [finish, runUnder_bind, runUnder_emitUnmatched]
  congr 1
  funext step
  cases step <;> rfl

theorem runUnder_walk (pattern : Pattern World α) (tokens : Tokens)
    (ask : (position : Nat) → S → Task World (Move α tokens.size position × S))
    (body : Segment α → β → Task World (ForInStep β)) (asked : S) (pending position : Nat)
    (state : β) :
    (walk pattern tokens ask body asked pending position state).runUnder between =
      walk pattern tokens (fun position asked => (ask position asked).runUnder between)
        (fun segment state => (body segment state).runUnder between) asked pending position
        state := by
  induction position using forwards tokens.size generalizing asked pending state with
  | step position later =>
      rw [walk, walk]
      by_cases unfinished : position < tokens.size
      · rw [if_pos unfinished, if_pos unfinished, runUnder_bind]
        congr 1
        funext answer
        obtain ⟨move, asked⟩ := answer
        cases move with
        | finish => exact runUnder_finish between tokens pending state body
        | skip next forward => exact later unfinished next forward asked pending state
        | emit start stop value reached consumes within =>
            simp only [runUnder_bind, runUnder_emit]
            congr 1
            funext step
            cases step with
            | done state => rfl
            | yield state => exact later unfinished stop (by omega) asked stop state
        | outside offset place beyond => exact runUnder_lift between _
      · rw [if_neg unfinished, if_neg unfinished]
        exact runUnder_finish between tokens pending state body

theorem runUnder_run (separation : Separation World α) (state : β)
    (body : Segment α → β → Task World (ForInStep β)) :
    (separation.run state body).runUnder between =
      separation.run state fun segment state => (body segment state).runUnder between := by
  obtain ⟨pattern, tokens, offset⟩ := separation
  have asksScan : (fun position asked =>
      (askScan pattern tokens position asked : Task World _).runUnder between) =
      askScan pattern tokens := by
    funext position asked
    simp only [askScan, runUnder_bind, runUnder_lift]
    rfl
  have asksSearch : (fun position memory =>
      (askSearch pattern tokens position memory : Task World _).runUnder between) =
      askSearch pattern tokens := by
    funext position memory
    simp only [askSearch, runUnder_bind, runUnder_lift]
    rfl
  simp only [run]
  split
  · simp only [runUnder_bind, runUnder_lift, searching_eq_walk, runUnder_walk, asksSearch]
    rfl
  · simp only [scanning_eq_walk, runUnder_walk, asksScan]

theorem runUnder_forIn (separation : Separation World α) (state : β)
    (body : Segment α → β → Task World (ForInStep β)) :
    (forIn separation state body).runUnder between =
      forIn separation state fun segment state => (body segment state).runUnder between :=
  runUnder_run between separation state body

end Separation

theorem runUnder_editPausing [Journal World] [Shows α] (between : World → World)
    (pattern : Pattern World α) (editor : α → Task World Output) (tokens : Tokens) :
    (editPausing pattern editor tokens).runUnder between =
      (edit pattern (fun value => (editor value).runUnder between) tokens).leaving .coroutine := by
  rw [editPausing, Task.runUnder_leaving]
  congr 1
  unfold pausingEdit edit editSegments spliced
  simp only [Task.runUnder_bind, Task.runUnder_lift, Task.runUnder_pure]
  rw [Separation.runUnder_forIn]
  congr 3
  funext segment state
  rw [Task.runUnder_bind, Task.runUnder_lift]
  congr 1
  funext coverage
  cases segment with
  | unmatched text start => rfl
  | matched value start stop =>
      rw [Task.runUnder_bind]
      congr 1

/-- An editor that gives back a replacement, or something that comes to one when it is awaited. It
may fail at the call and in the wait. -/
structure AsyncEditor (World α : Type) where
  Awaitable : Type
  call : α → Eff World (Output ⊕ Awaitable)
  await : Awaitable → Task World Output

namespace AsyncEditor

variable (editor : AsyncEditor World α) (between : World → World)

def task (value : α) : Task World Output := do
  match ← (liftM (editor.call value) : Task World (Output ⊕ editor.Awaitable)) with
  | .inl replacement => pure replacement
  | .inr awaitable => editor.await awaitable

/-- The editor that has at once what the wait comes to. -/
def resolved (value : α) : Eff World Output := do
  match ← editor.call value with
  | .inl replacement => pure replacement
  | .inr awaitable => (editor.await awaitable).runUnder between

def note (event : Event α) : Task (List (Event α) × World) Unit :=
  .perform (Event.record event) .done

def conclude (outcome : Except Fault Output) : Task (List (Event α) × World) Output := do
  note (.answered outcome)
  .perform (Eff.ofExcept outcome) .done

def watched (value : α) : Task (List (Event α) × World) Output := do
  note (.called value)
  match ← .perform (editor.call value).besideMemory.attempt .done with
  | .ok (.inl replacement) => conclude (.ok replacement)
  | .ok (.inr awaitable) =>
      note .awaiting
      conclude (← (editor.await awaitable).beside.attempt)
  | .error fault => conclude (.error fault)

theorem runUnder_task (value : α) :
    (editor.task value).runUnder between = editor.resolved between value := by
  simp only [task, resolved, Task.runUnder_bind, Task.runUnder_lift]
  congr 1
  funext called
  cases called <;> rfl

end AsyncEditor

namespace Event

def settled (events : List (Event α)) : List (Event α) :=
  events.filter fun
    | .awaiting | .suspended => false
    | _ => true

@[simp] theorem settled_append (events more : List (Event α)) :
    settled (events ++ more) = settled events ++ settled more := List.filter_append ..

@[simp] theorem settled_suspended (count : Nat) :
    settled (List.replicate count (suspended : Event α)) = [] := by
  simp [settled]

/-- One thing after the other: nothing is asked and nothing called while something is awaited. -/
inductive Sequential : List (Event α) → Prop
  | nil : Sequential []
  | asked (question : Question) {rest : List (Event α)} :
      Sequential rest → Sequential (.asked question :: rest)
  | answered (value : α) (outcome : Except Fault Output) {rest : List (Event α)} :
      Sequential rest → Sequential (.called value :: .answered outcome :: rest)
  | awaited (value : α) (suspensions : Nat) (outcome : Except Fault Output)
      {rest : List (Event α)} : Sequential rest →
      Sequential (.called value :: .awaiting ::
        (List.replicate suspensions .suspended ++ .answered outcome :: rest))

theorem Sequential.append {events more : List (Event α)} (first : Sequential events)
    (second : Sequential more) : Sequential (events ++ more) := by
  induction first with
  | nil => exact second
  | asked question _ ih => exact .asked question ih
  | answered value outcome _ ih => exact .answered value outcome ih
  | awaited value suspensions outcome _ ih =>
      rw [List.cons_append, List.cons_append, List.append_assoc, List.cons_append]
      exact .awaited value suspensions outcome ih

def suspend (between : World → World) (outer : List (Event α) × World) :
    List (Event α) × World := (outer.1 ++ [.suspended], between outer.2)

end Event

theorem Task.runUnder_beside (between : World → World) (task : Task World γ)
    (events : List (Event α)) (world : World) :
    ∃ suspensions, task.beside.runUnder (Event.suspend between) (events, world) =
      ((task.runUnder between world).1, events ++ List.replicate suspensions .suspended,
        (task.runUnder between world).2) := by
  induction task generalizing events world with
  | done value => exact ⟨0, by simp [beside, runUnder]⟩
  | perform action next ih =>
      simp only [beside, runUnder, Eff.bind_apply, Eff.besideMemory, Eff.within]
      rcases action world with ⟨fault | result, after⟩
      · exact ⟨0, by simp⟩
      · exact ih result events after
  | pause next ih =>
      obtain ⟨suspensions, ran⟩ := ih (events ++ [.suspended]) (between world)
      refine ⟨suspensions + 1, ?_⟩
      simp only [beside, runUnder, Eff.bind_apply, Eff.modify_apply, Event.suspend]
      rw [ran, List.append_assoc, List.replicate_succ]
      rfl

namespace AsyncEditor

variable (editor : AsyncEditor World α) (between : World → World)

theorem runUnder_conclude {change : List (Event α) × World → List (Event α) × World}
    (outcome : Except Fault Output) (events : List (Event α)) (world : World) :
    (conclude outcome).runUnder change (events, world) =
      (outcome, events ++ [.answered outcome], world) := by
  cases outcome <;> rfl

theorem runUnder_awaited (task : Task World Output) (events : List (Event α)) (world : World) :
    ∃ suspensions,
      (do
        note .awaiting
        conclude (← task.beside.attempt) : Task (List (Event α) × World) Output).runUnder
          (Event.suspend between) (events, world) =
        ((task.runUnder between world).1,
          events ++ .awaiting :: (List.replicate suspensions .suspended ++
            [.answered (task.runUnder between world).1]),
          (task.runUnder between world).2) := by
  obtain ⟨suspensions, waited⟩ := task.runUnder_beside between (events ++ [.awaiting]) world
  refine ⟨suspensions, ?_⟩
  have noted : (note .awaiting : Task (List (Event α) × World) Unit).runUnder
      (Event.suspend between) (events, world) = (.ok (), events ++ [.awaiting], world) := rfl
  rw [Task.runUnder_bind, Eff.bind_ok noted, Task.runUnder_bind, Task.runUnder_attempt,
    Eff.bind_apply, Eff.attempt, waited]
  simp only [runUnder_conclude, List.append_assoc]
  rfl

theorem runUnder_watched (value : α) (events : List (Event α)) (world : World) :
    ∃ more, Event.Sequential more ∧
      Event.settled more =
        [.called value, .answered (editor.resolved between value world).1] ∧
      (editor.watched value).runUnder (Event.suspend between) (events, world) =
        ((editor.resolved between value world).1, events ++ more,
          (editor.resolved between value world).2) := by
  have called : (editor.watched value).runUnder (Event.suspend between) (events, world) =
      Task.runUnder (Event.suspend between)
        (match (editor.call value world).1 with
        | .ok (.inl replacement) => conclude (.ok replacement)
        | .ok (.inr awaitable) => do
            note .awaiting
            conclude (← (editor.await awaitable).beside.attempt)
        | .error fault => conclude (.error fault))
        (events ++ [.called value], (editor.call value world).2) := rfl
  rw [called, resolved, Eff.bind_apply]
  rcases editor.call value world with ⟨fault | replacement | awaitable, after⟩
  · refine ⟨_, .answered value (.error fault) .nil, rfl, ?_⟩
    simp only [runUnder_conclude, List.append_assoc]
    rfl
  · refine ⟨_, .answered value (.ok replacement) .nil, rfl, ?_⟩
    simp only [runUnder_conclude, List.append_assoc]
    rfl
  · obtain ⟨suspensions, awaited⟩ := runUnder_awaited between (editor.await awaitable)
      (events ++ [.called value]) after
    refine ⟨_, .awaited value suspensions ((editor.await awaitable).runUnder between after).1 .nil,
      ?_, ?_⟩
    · simp [Event.settled]
    · rw [awaited, List.append_assoc]
      rfl

end AsyncEditor

def Event.Settles (outer settled : List (Event α) × World) : Prop :=
  outer.2 = settled.2 ∧ settled.1 = Event.settled outer.1 ∧ Event.Sequential outer.1

namespace Event.Settles

theorem agree_observing :
    (Seat.observing : Seat World (List (Event α) × World)).Agree Settles .observing where
  part _ _ _ settles := settles.1
  update question outer settled world := by
    rintro ⟨-, same, sequential⟩
    refine ⟨rfl, ?_, sequential.append (.asked question .nil)⟩
    simp only [Seat.observing, same, Event.settled_append]
    rfl

theorem note [Journal World] {outer settled : List (Event α) × World}
    (settles : Settles outer settled) (entry : LogEntry) :
    Settles (Journal.note entry outer) (Journal.note entry settled) :=
  ⟨congrArg (Journal.note entry) settles.1, settles.2⟩

theorem agrees_watched (editor : AsyncEditor World α) (between : World → World) (value : α) :
    Eff.Agrees Settles ((editor.watched value).runUnder (Event.suspend between))
      (watched (editor.resolved between) value) := by
  rintro ⟨events, world⟩ ⟨_, _⟩ ⟨rfl, rfl, sequential⟩
  obtain ⟨more, added, settles, called⟩ := editor.runUnder_watched between value events world
  have linked : Settles (events ++ more, (editor.resolved between value world).2)
      (Event.settled events ++ [.called value, .answered (editor.resolved between value world).1],
        (editor.resolved between value world).2) :=
    ⟨rfl, by rw [Event.settled_append, settles], sequential.append added⟩
  rw [called, watched_apply]
  revert linked
  rcases editor.resolved between value world with ⟨fault | replacement, after⟩ <;> intro linked
  · exact .inr ⟨fault, _, _, rfl, rfl, linked⟩
  · exact .inl ⟨replacement, _, _, _, rfl, rfl, rfl, linked⟩

end Event.Settles

/-- What becomes of an outcome that leaves a generator or a coroutine: it stays the same, unless it
is the report that there is no next item. -/
inductive Leaves (frame : Frame) : Except Fault β → Except Fault β → Prop
  | same {outcome : Except Fault β} : (∀ message, outcome ≠ .error (.exhausted message)) →
      Leaves frame outcome outcome
  | stopped {message : Option String} :
      Leaves frame (.error (.exhausted message)) (.error (.stopped frame))

theorem leaves_mapError (frame : Frame) (outcome : Except Fault β) :
    Leaves frame outcome (outcome.mapError (Fault.leaving frame)) := by
  rcases outcome with fault | value
  · cases fault with
    | exhausted message => exact .stopped
    | _ => exact .same (by simp)
  · exact .same (by simp)

end SpanEdit
