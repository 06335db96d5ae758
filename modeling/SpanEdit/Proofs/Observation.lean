import SpanEdit.Proofs.Lockstep
import SpanEdit.Proofs.Splicing

/-!
Observed edits: what an edit asks of its pattern and of its editor, written down in order. Nothing
else changes with it, so an edit does the same unobserved.
-/

namespace SpanEdit

variable {World First Second α β : Type}

inductive Event (α : Type) where
  | asked (question : Question)
  | called (value : α)
  /-- The editor gave back something that has to be awaited. -/
  | awaiting
  | suspended
  | answered (outcome : Except Fault Output)

instance [Journal World] : Journal (β × World) :=
  ⟨fun entry outer => (outer.1, Journal.note entry outer.2)⟩

namespace Event

def record (event : Event α) : Eff (List (Event α) × World) Unit :=
  Eff.modify fun outer => (outer.1 ++ [event], outer.2)

def value? : Event α → Option α
  | .called value => some value
  | _ => none

def calls (events : List (Event α)) : List α := events.filterMap value?

@[simp] theorem calls_append (events more : List (Event α)) :
    calls (events ++ more) = calls events ++ calls more := List.filterMap_append

@[simp] theorem calls_asked (question : Question) : calls [.asked question] = ([] : List α) := rfl

@[simp] theorem calls_answered (value : α) (outcome : Except Fault Output) :
    calls [.called value, .answered outcome] = [value] := rfl

end Event

def Seat.observing : Seat World (List (Event α) × World) where
  part outer := outer.2
  update world outer := (outer.1, world)
  hear question outer := (outer.1 ++ [.asked question], outer.2)

def Pattern.observed (pattern : Pattern World α) : Pattern (List (Event α) × World) α :=
  pattern.seated .observing

/-- The editor with its calls and their outcomes written down. -/
def watched (editor : α → Eff World Output) (value : α) :
    Eff (List (Event α) × World) Output := do
  Event.record (.called value)
  let outcome ← (editor value).besideMemory.attempt
  Event.record (.answered outcome)
  Eff.ofExcept outcome

theorem watched_apply (editor : α → Eff World Output) (value : α) (events : List (Event α))
    (world : World) :
    watched editor value (events, world) =
      ((editor value world).1,
        events ++ [.called value, .answered (editor value world).1], (editor value world).2) := by
  simp [watched, Eff.bind_apply, Event.record, Eff.attempt, Eff.besideMemory, Eff.within]

theorem edit_eq_run [Journal World] [Shows α] (pattern : Pattern World α)
    (editor : α → Eff World Output) (tokens : Tokens) :
    edit pattern editor tokens = (do
      let state ← Separation.run ⟨pattern, tokens, 0⟩ (Coverage.start, Splice.empty)
        (spliceStep tokens editor)
      Eff.ofExcept (state.1.close tokens.size)
      state.2.finish tokens) := by
  unfold edit editSegments spliced
  simp only [bind_assoc, pure_bind]
  rfl

section Agreement

variable {Link : First → Second → Prop}

theorem agrees_ofExcept (outcome : Except Fault β) :
    Eff.Agrees Link (Eff.ofExcept outcome) (Eff.ofExcept outcome) := by
  intro first second linked
  cases outcome with
  | ok value => exact .inl ⟨value, value, first, second, rfl, rfl, rfl, linked⟩
  | error fault => exact .inr ⟨fault, first, second, rfl, rfl, linked⟩

theorem related_spliceStep [Shows α] (tokens : Tokens) {editor : α → Eff First Output}
    {other : α → Eff Second Output}
    (editors : ∀ value, Eff.Agrees Link (editor value) (other value)) :
    Separation.Related tokens (fun _ => True) (fun _ => Link)
      (fun _ _ state result first second => result = state ∧ Link first second)
      (spliceStep tokens editor) (spliceStep tokens other) where
  unmatched start stop state result nonempty inside := by
    rintro first second ⟨rfl, linked⟩
    refine (agrees_ofExcept _).bind (fun coverage same => ?_) first second linked
    exact .pure fun _ _ related => ⟨by rw [related.1], related.2⟩
  matched start stop value afterUnmatched state result consumes inside _ := by
    rintro first second ⟨rfl, linked⟩
    refine (agrees_ofExcept _).bind (fun coverage same => ?_) first second linked
    rintro first second ⟨rfl, linked⟩
    refine (editors value).bind (fun replacement same => ?_) first second linked
    rintro first second ⟨rfl, linked⟩
    refine (agrees_ofExcept _).bind (fun splice same => ?_) first second linked
    exact .pure fun _ _ related => ⟨by rw [related.1], related.2⟩
  fails _ _ _ _ _ _ related := related.2

theorem edit_agrees [Journal First] [Journal Second] [Shows α] (pattern : Pattern World α)
    (tokens : Tokens) {seat : Seat World First} {place : Seat World Second}
    (agree : seat.Agree Link place)
    (notes : ∀ entry first second, Link first second →
      Link (Journal.note entry first) (Journal.note entry second))
    {editor : α → Eff First Output} {other : α → Eff Second Output}
    (editors : ∀ value, Eff.Agrees Link (editor value) (other value)) :
    Eff.Agrees Link (edit (pattern.seated seat) editor tokens)
      (edit (pattern.seated place) other tokens) := by
  have runs := (related_spliceStep tokens editors).run seat place
    (pattern.finds_something tokens)
    (fun pending state result => ⟨fun question first second related =>
      agree.part question first second related.2, fun question first second world related =>
      ⟨related.1, agree.update question first second world related.2⟩⟩)
    (Nat.zero_le tokens.size) (Coverage.start, Splice.empty) (Coverage.start, Splice.empty)
  rw [edit_eq_run, edit_eq_run]
  intro first second linked
  refine runs.bind ?_ first second ⟨rfl, linked⟩
  rintro _ state first second ⟨_, rfl, linked⟩
  refine (agrees_ofExcept _).bind ?_ first second linked
  rintro _ ⟨⟩ first second ⟨-, linked⟩
  have reports (entry : LogEntry) : Eff.Relates Link (fun (_ _ : Unit) => Link) (fun _ => Link)
      (report entry) (report entry) :=
    fun first second linked => .inl ⟨(), (), _, _, rfl, rfl, notes entry first second linked⟩
  exact (reports _).bind (fun _ _ => agrees_ofExcept _) first second linked

/-- An observed edit comes to what the edit comes to. -/
theorem edit_observed [Journal World] [Shows α] (pattern : Pattern World α)
    (editor : α → Eff World Output) (tokens : Tokens) (world : World) :
    ∃ result events after,
      edit pattern.observed (watched editor) tokens ([], world) = (result, events, after) ∧
      edit pattern editor tokens world = (result, after) := by
  let Link (outer : List (Event α) × World) (now : World) : Prop := outer.2 = now
  have agree : Seat.observing.Agree Link .whole :=
    ⟨fun _ _ _ linked => linked, fun _ _ _ _ _ => rfl⟩
  have notes entry outer now (linked : Link outer now) :
      Link (Journal.note entry outer) (Journal.note entry now) :=
    congrArg (Journal.note entry) linked
  have editors (value : α) : Eff.Agrees Link (watched editor value) (editor value) := by
    rintro ⟨events, world⟩ _ rfl
    rcases ran : editor value world with ⟨fault | replacement, after⟩
    · exact .inr ⟨fault, _, after, by rw [watched_apply, ran], rfl, rfl⟩
    · exact .inl ⟨replacement, _, _, after, by rw [watched_apply, ran], rfl, rfl, rfl⟩
  have agrees := edit_agrees pattern tokens agree notes editors ([], world) world rfl
  rw [Pattern.seated_whole] at agrees
  rcases agrees with ⟨_, result, ⟨events, _⟩, after, observed, ran, rfl, rfl⟩ |
    ⟨fault, ⟨events, _⟩, after, observed, ran, rfl⟩
  · exact ⟨.ok result, events, _, observed, ran⟩
  · exact ⟨.error fault, events, _, observed, ran⟩

theorem edit_eq_of_observed [Journal World] [Shows α] {pattern : Pattern World α}
    {editor : α → Eff World Output} {world after : World} {result : Except Fault Tokens}
    {events : List (Event α)}
    (observed : edit pattern.observed (watched editor) tokens ([], world) =
      (result, events, after)) : edit pattern editor tokens world = (result, after) := by
  obtain ⟨same, _, last, again, unobserved⟩ := edit_observed pattern editor tokens world
  rw [observed] at again
  cases again
  exact unobserved

end Agreement

end SpanEdit
