import SpanEdit.Fault

/-!
Effects: a computation that reads and changes a world and may fail with a fault. What it did to the
world before a fault stays done.
-/

namespace SpanEdit

universe u v

theorem exists_of_bind_eq_ok {ε : Type} {α β : Type u} {outcome : Except ε α}
    {next : α → Except ε β} {result : β} (succeeds : (outcome >>= next) = .ok result) :
    ∃ value, outcome = .ok value ∧ next value = .ok result := by
  cases outcome with
  | error fault => cases succeeds
  | ok value => exact ⟨value, rfl, succeeds⟩

/-- A computation over the world `World`. The result may live in any universe, since patterns are
among the results. -/
def Eff (World : Type) (α : Type u) : Type u := World → Except Fault α × World

namespace Eff

variable {World Outer : Type} {α : Type u} {β : Type v}

def run (action : Eff World α) (world : World) : Except Fault α × World := action world

protected def pure (value : α) : Eff World α := fun world => (.ok value, world)

protected def throw (fault : Fault) : Eff World α := fun world => (.error fault, world)

def andThen (action : Eff World α) (next : α → Eff World β) : Eff World β := fun world =>
  match action world with
  | (.ok value, world) => next value world
  | (.error fault, world) => (.error fault, world)

def attempt (action : Eff World α) : Eff World (Except Fault α) := fun world =>
  match action world with
  | (outcome, world) => (.ok outcome, world)

instance : Monad (Eff.{u} World) where
  pure := Eff.pure
  bind := andThen

instance : MonadExceptOf Fault (Eff.{u} World) where
  throw := Eff.throw
  tryCatch action handler := fun world =>
    match action world with
    | (.error fault, world) => handler fault world
    | outcome => outcome

def leaving (frame : Frame) (action : Eff World α) : Eff World α := fun world =>
  match action world with
  | (.ok value, world) => (.ok value, world)
  | (.error fault, world) => (.error (fault.leaving frame), world)

def ofExcept (outcome : Except Fault α) : Eff World α := fun world => (outcome, world)

instance : MonadLift (Except Fault) (Eff.{u} World) := ⟨ofExcept⟩

def get : Eff World World := fun world => (.ok world, world)

def modify (change : World → World) : Eff World Unit := fun world => (.ok (), change world)

def within (part : Outer → World) (update : World → Outer → Outer) (action : Eff World α) :
    Eff Outer α := fun outer =>
  match action (part outer) with
  | (outcome, world) => (outcome, update world outer)

@[simp] theorem pure_apply (value : α) (world : World) :
    (pure value : Eff World α) world = (.ok value, world) := rfl

@[simp] theorem throw_apply (fault : Fault) (world : World) :
    (throw fault : Eff World α) world = (.error fault, world) := rfl

theorem bind_apply {α β : Type u} (action : Eff World α) (next : α → Eff World β) (world : World) :
    (action >>= next) world =
      match action world with
      | (.ok value, world) => next value world
      | (.error fault, world) => (.error fault, world) := rfl

theorem bind_ok {α β : Type u} {action : Eff World α} {world changed : World} {value : α}
    (succeeds : action world = (.ok value, changed)) (next : α → Eff World β) :
    (action >>= next) world = next value changed := by
  rw [bind_apply, succeeds]

theorem bind_error {α β : Type u} {action : Eff World α} {world changed : World} {fault : Fault}
    (fails : action world = (.error fault, changed)) (next : α → Eff World β) :
    (action >>= next) world = (.error fault, changed) := by
  rw [bind_apply, fails]

theorem leaving_apply (frame : Frame) (action : Eff World α) (world : World) :
    action.leaving frame world =
      ((action world).1.mapError (Fault.leaving frame), (action world).2) := by
  rw [leaving]
  rcases action world with ⟨fault | value, after⟩ <;> rfl

theorem leaving_ok {action : Eff World α} {world after : World} {value : α}
    (succeeds : action world = (.ok value, after)) (frame : Frame) :
    action.leaving frame world = (.ok value, after) := by
  rw [leaving, succeeds]

theorem leaving_error {action : Eff World α} {world after : World} {fault : Fault}
    (fails : action world = (.error fault, after)) (frame : Frame) :
    action.leaving frame world = (.error (fault.leaving frame), after) := by
  rw [leaving, fails]

@[simp] theorem ofExcept_apply (outcome : Except Fault α) (world : World) :
    ofExcept outcome world = (outcome, world) := rfl

@[simp] theorem get_apply (world : World) : (get : Eff World World) world = (.ok world, world) :=
  rfl

@[simp] theorem modify_apply (change : World → World) (world : World) :
    modify change world = (.ok (), change world) := rfl

@[simp] theorem leaving_pure (frame : Frame) (value : α) :
    (pure value : Eff World α).leaving frame = pure value := rfl

theorem leaving_bind {α β : Type u} (frame : Frame) (action : Eff World α)
    (next : α → Eff World β) :
    (action >>= next).leaving frame =
      action.leaving frame >>= fun value => (next value).leaving frame := by
  funext world
  simp only [leaving, bind_apply]
  rcases action world with ⟨fault | value, after⟩ <;> rfl

instance : LawfulMonad (Eff.{u} World) := LawfulMonad.mk' _
  (fun action => by
    funext world
    show (match action world with
      | (.ok value, world) => (.ok (id value), world)
      | (.error fault, world) => (.error fault, world)) = action world
    rcases action world with ⟨fault | value, after⟩ <;> rfl)
  (fun _ _ => rfl)
  (fun action next last => by
    funext world
    rw [bind_apply, bind_apply, bind_apply]
    rcases action world with ⟨fault | value, changed⟩ <;> rfl)

end Eff

end SpanEdit
