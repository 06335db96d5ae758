import SpanEdit.Proofs.Observation

/-!
The stages of a separation that scans, and the walks between them. A step of a walk is an event: an
attempt of the pattern, or a segment that the consumer receives. Whatever led to a walk, it attempts
every offset once that is not inside a match, and nothing ahead of what is received.
-/

namespace SpanEdit

variable {α : Type}

namespace Event

def offset? : Event α → Option Nat
  | .asked (.scan offset) => some offset
  | _ => none

def offsets (events : List (Event α)) : List Nat := events.filterMap offset?

theorem offsets_asked (offset : Nat) (events : List (Event α)) :
    offsets (.asked (.scan offset) :: events) = offset :: offsets events := rfl

theorem offsets_called (value : α) (events : List (Event α)) :
    offsets (.called value :: events) = offsets events := rfl

theorem calls_cons_called (value : α) (events : List (Event α)) :
    calls (.called value :: events) = value :: calls events := rfl

end Event

/-- How far attempts may have come when the segment is received: to the start of the match, also
where it is the unmatched run before it that is received. -/
def Segment.lead (segment : Segment α) : Int :=
  if segment.isUnmatched then segment.stop else segment.start

theorem lead_unmatched (tokens : Tokens) {start stop : Nat} (ordered : start ≤ stop)
    (inside : stop ≤ tokens.size) :
    (Segment.unmatched (tokens.slice start stop) start : Segment α).lead = stop :=
  unmatched_stop (α := α) tokens ordered inside

/-- Offsets before `frontier` are attempted in increasing order, and exactly those are left out that
lie strictly inside a match. -/
structure AttemptedOnce (offset frontier : Nat) (places : List Nat) (segments : List (Segment α)) :
    Prop where
  increasing : places.Pairwise (· < ·)
  mem_iff : ∀ place, place ∈ places ↔ offset ≤ place ∧ place < frontier ∧
    ∀ value start stop, Segment.matched value start stop ∈ segments →
      ¬(start < (place : Int) ∧ (place : Int) < stop)

/-- Where a separation stands between two events: it looks for an occurrence from a position on, or
it has found one. -/
inductive Stage (α : Type) where
  | seeking (pending position : Nat)
  | found (pending start stop : Nat) (value : α)

theorem Tiling.stop_le_of_mem {tokens : Tokens} {start stop : Nat} {segments : List (Segment α)}
    (tiling : Tiling tokens start stop segments) {segment : Segment α}
    (member : segment ∈ segments) : segment.stop ≤ stop := by
  induction segments generalizing start with
  | nil => cases member
  | cons first rest ih =>
      obtain ⟨middle, -, ends, -, tail⟩ := tiling.uncons
      have further := tail.start_le_stop
      rcases List.mem_cons.mp member with rfl | later
      · omega
      · exact ih tail later

namespace Stage

def pending : Stage α → Nat
  | .seeking pending _ => pending
  | .found pending _ _ _ => pending

def next : Stage α → Nat
  | .seeking _ position => position
  | .found _ _ stop _ => stop

def frontier : Stage α → Nat
  | .seeking _ position => position
  | .found _ start _ _ => start + 1

def first : Stage α → Nat
  | .seeking _ position => position
  | .found _ start _ _ => start

structure Sound (tokens : Tokens) (stage : Stage α) : Prop where
  pending_le : stage.pending ≤ stage.next
  inside : stage.next ≤ tokens.size
  ordered : ∀ pending start stop value, stage = .found pending start stop value →
    pending ≤ start ∧ start < stop

inductive Step (tokens : Tokens) : Stage α → Event (Segment α) → Stage α → Prop
  /-- The scan consumes nothing, or it ends the loop. -/
  | missed {pending position : Nat} : position < tokens.size →
      Step tokens (.seeking pending position) (.asked (.scan position))
        (.seeking pending (position + 1))
  | hit {pending start stop : Nat} {value : α} : start < stop → stop ≤ tokens.size →
      Step tokens (.seeking pending start) (.asked (.scan start)) (.found pending start stop value)
  | before {pending start stop : Nat} {value : α} : pending < start →
      Step tokens (.found pending start stop value)
        (.called (.unmatched (tokens.slice pending start) pending)) (.found start start stop value)
  | matched {start stop : Nat} {value : α} :
      Step tokens (.found start start stop value) (.called (.matched value start stop))
        (.seeking stop stop)
  | last {pending : Nat} : pending < tokens.size →
      Step tokens (.seeking pending tokens.size)
        (.called (.unmatched (tokens.slice pending tokens.size) pending))
        (.seeking tokens.size tokens.size)

inductive Walk (tokens : Tokens) : Stage α → List (Event (Segment α)) → Stage α → Prop
  | nil {stage : Stage α} : Walk tokens stage [] stage
  | cons {stage now after : Stage α} {event : Event (Segment α)}
      {rest : List (Event (Segment α))} :
      Step tokens stage event now → Walk tokens now rest after →
      Walk tokens stage (event :: rest) after

variable {tokens : Tokens} {stage now after : Stage α} {event : Event (Segment α)}
  {events rest : List (Event (Segment α))}

theorem sound_seeking {pending position : Nat} (ordered : pending ≤ position)
    (inside : position ≤ tokens.size) :
    Sound tokens (.seeking pending position : Stage α) where
  pending_le := ordered
  inside := inside
  ordered _ _ _ _ impossible := by cases impossible

theorem Step.sound (step : Step tokens stage event now) (sound : stage.Sound tokens) :
    now.Sound tokens := by
  have pending_le := sound.pending_le
  have inside := sound.inside
  cases step with
  | missed unfinished =>
      exact sound_seeking (Nat.le_succ_of_le pending_le) unfinished
  | @hit pending start stop value consumes within =>
      refine ⟨Nat.le_trans pending_le consumes.le, within, ?_⟩
      rintro _ _ _ _ ⟨⟩
      exact ⟨pending_le, consumes⟩
  | @before pending start stop value nonempty =>
      obtain ⟨-, consumes⟩ := sound.ordered _ _ _ _ rfl
      refine ⟨consumes.le, inside, ?_⟩
      rintro _ _ _ _ ⟨⟩
      exact ⟨Nat.le_refl start, consumes⟩
  | matched => exact sound_seeking (Nat.le_refl _) inside
  | last => exact sound_seeking (Nat.le_refl _) (Nat.le_refl _)

namespace Walk

theorem sound (walk : Walk tokens stage events after) (sound : stage.Sound tokens) :
    after.Sound tokens := by
  induction walk with
  | nil => exact sound
  | cons step _ ih => exact ih (step.sound sound)

theorem trans (walk : Walk tokens stage events now) (later : Walk tokens now rest after) :
    Walk tokens stage (events ++ rest) after := by
  induction walk with
  | nil => exact later
  | cons step _ ih => exact .cons step (ih later)

theorem split {before : List (Event (Segment α))}
    (walk : Walk tokens stage (before ++ event :: rest) after) :
    ∃ here now, Walk tokens stage before here ∧ Step tokens here event now ∧
      Walk tokens now rest after := by
  induction before generalizing stage with
  | nil =>
      cases walk with
      | cons step later => exact ⟨_, _, .nil, step, later⟩
  | cons first before ih =>
      cases walk with
      | cons step later =>
          obtain ⟨here, now, earlier, next, behind⟩ := ih later
          exact ⟨here, now, .cons step earlier, next, behind⟩

theorem eq_nil_of_finished
    (walk : Walk tokens (.seeking tokens.size tokens.size) events after) : events = [] := by
  cases walk with
  | nil => rfl
  | cons step _ =>
      cases step with
      | missed unfinished => omega
      | hit consumes within => omega
      | last unfinished => omega

/-- A match is given out before anything else where nothing is pending before it. -/
theorem isolated {start stop : Nat} {value : α}
    (walk : Walk tokens (.found start start stop value) events after) :
    ∀ next ∈ (Event.calls events).head?, next.isUnmatched = false := by
  intro next member
  cases walk with
  | nil => cases member
  | cons step _ =>
      cases step with
      | before nonempty => omega
      | matched =>
          cases member
          rfl

theorem tiling (walk : Walk tokens stage events after) (sound : stage.Sound tokens) :
    Tiling tokens stage.pending after.pending (Event.calls events) := by
  induction walk with
  | nil => exact .nil
  | @cons stage now after event rest step walk ih =>
      have tail := ih (step.sound sound)
      cases step with
      | missed => exact tail
      | hit => exact tail
      | before nonempty =>
          obtain ⟨-, consumes⟩ := sound.ordered _ _ _ _ rfl
          have inside := sound.inside
          exact .unmatched nonempty (Nat.le_trans consumes.le inside) tail walk.isolated
      | matched =>
          obtain ⟨-, consumes⟩ := sound.ordered _ _ _ _ rfl
          exact .matched _ consumes tail
      | last nonempty =>
          obtain rfl := walk.eq_nil_of_finished
          exact .unmatched nonempty (Nat.le_refl _) tail nofun

theorem next_le (walk : Walk tokens stage events after) :
    ∀ place ∈ Event.offsets events, stage.next ≤ place := by
  induction walk with
  | nil => nofun
  | cons step _ ih =>
      intro place member
      cases step with
      | missed =>
          rcases List.mem_cons.mp member with rfl | later
          · exact Nat.le_refl place
          · exact Nat.le_of_succ_le (ih place later)
      | hit consumes =>
          rcases List.mem_cons.mp member with rfl | later
          · exact Nat.le_refl place
          · exact Nat.le_trans consumes.le (ih place later)
      | before => exact ih place member
      | matched => exact ih place member
      | last => exact ih place member

theorem increasing (walk : Walk tokens stage events after) :
    (Event.offsets events).Pairwise (· < ·) := by
  induction walk with
  | nil => exact .nil
  | cons step walk ih =>
      have above := walk.next_le
      cases step with
      | missed => exact .cons above ih
      | hit consumes =>
          exact .cons (fun place later => Nat.lt_of_lt_of_le consumes (above place later)) ih
      | before => exact ih
      | matched => exact ih
      | last => exact ih

theorem frontier_le (walk : Walk tokens stage events after) (sound : stage.Sound tokens) :
    stage.frontier ≤ after.frontier := by
  induction walk with
  | nil => exact Nat.le_refl _
  | cons step _ ih =>
      have later := ih (step.sound sound)
      cases step with
      | missed => exact Nat.le_of_succ_le later
      | hit => exact Nat.le_of_succ_le later
      | before => exact later
      | matched =>
          obtain ⟨-, consumes⟩ := sound.ordered _ _ _ _ rfl
          exact Nat.le_trans consumes later
      | last => exact later

theorem first_le (walk : Walk tokens stage events after) (sound : stage.Sound tokens) {value : α}
    {start stop : Int} (member : Segment.matched value start stop ∈ Event.calls events) :
    stage.first ≤ start := by
  induction walk with
  | nil => cases member
  | cons step _ ih =>
      have later := ih (step.sound sound)
      cases step with
      | missed =>
          have behind := later member
          simp only [first] at behind ⊢
          omega
      | hit => exact later member
      | before =>
          rcases List.mem_cons.mp member with impossible | member
          · cases impossible
          · exact later member
      | matched =>
          obtain ⟨-, consumes⟩ := sound.ordered _ _ _ _ rfl
          rcases List.mem_cons.mp member with here | member
          · cases here
            exact Int.le_refl _
          · have behind := later member
            simp only [first] at behind ⊢
            omega
      | last =>
          rcases List.mem_cons.mp member with impossible | member
          · cases impossible
          · exact later member

/-- What was found is given out before anything else is attempted. -/
theorem frontier_or_matched {pending start stop : Nat} {value : α}
    (walk : Walk tokens (.found pending start stop value) events after) :
    after.frontier = start + 1 ∨ Segment.matched value start stop ∈ Event.calls events := by
  cases walk with
  | nil => exact .inl rfl
  | cons step rest =>
      cases step with
      | before =>
          cases rest with
          | nil => exact .inl rfl
          | cons step rest =>
              cases step with
              | before nonempty => omega
              | matched => exact .inr (List.mem_cons_of_mem _ List.mem_cons_self)
      | matched => exact .inr List.mem_cons_self

theorem mem_offsets_iff (walk : Walk tokens stage events after) (sound : stage.Sound tokens)
    (place : Nat) :
    place ∈ Event.offsets events ↔ stage.next ≤ place ∧ place < after.frontier ∧
      ∀ value start stop, Segment.matched value start stop ∈ Event.calls events →
        ¬(start < (place : Int) ∧ (place : Int) < stop) := by
  induction walk with
  | @nil stage =>
      refine iff_of_false nofun ?_
      rintro ⟨reached, unattempted, -⟩
      cases stage with
      | seeking =>
          simp only [next, frontier] at reached unattempted
          omega
      | found =>
          obtain ⟨-, consumes⟩ := sound.ordered _ _ _ _ rfl
          simp only [next, frontier] at reached unattempted
          omega
  | @cons stage now after event rest step walk ih =>
      have soundNow := step.sound sound
      have later := ih soundNow
      have further := walk.frontier_le soundNow
      cases step with
      | @missed pending position unfinished =>
          rw [Event.offsets_asked, List.mem_cons, later]
          constructor
          · rintro (rfl | ⟨reached, unattempted, outer⟩)
            · refine ⟨Nat.le_refl place, further, fun value start stop member => ?_⟩
              have behind := walk.first_le soundNow member
              simp only [first] at behind
              omega
            · exact ⟨Nat.le_of_succ_le reached, unattempted, outer⟩
          · rintro ⟨reached, unattempted, outer⟩
            by_cases here : place = position
            · exact .inl here
            · exact .inr ⟨Nat.lt_of_le_of_ne reached (Ne.symm here), unattempted, outer⟩
      | @hit pending start stop value consumes =>
          rw [Event.offsets_asked, List.mem_cons, later]
          constructor
          · rintro (rfl | ⟨reached, unattempted, outer⟩)
            · refine ⟨Nat.le_refl place, further, fun other start stop member => ?_⟩
              have behind := walk.first_le soundNow member
              simp only [first] at behind
              omega
            · exact ⟨Nat.le_trans consumes.le reached, unattempted, outer⟩
          · rintro ⟨reached, unattempted, outer⟩
            by_cases here : place = start
            · exact .inl here
            · have behind : start < place := Nat.lt_of_le_of_ne reached (Ne.symm here)
              refine .inr ⟨?_, unattempted, outer⟩
              -- An offset inside the match would be attempted only after the match was received,
              -- and then `outer` excludes it.
              by_contra inner
              obtain ended | member := walk.frontier_or_matched
              · omega
              · simp only [next] at inner
                exact outer value start stop member (by omega)
      | before =>
          rw [Event.offsets_called, Event.calls_cons_called]
          simpa [next] using later
      | @matched start stop value =>
          have outside (reached : stop ≤ place) : ¬((start : Int) < place ∧ (place : Int) < stop) :=
            by omega
          rw [Event.offsets_called, later]
          constructor
          · rintro ⟨reached, unattempted, outer⟩
            refine ⟨reached, unattempted, fun other first last member => ?_⟩
            rcases List.mem_cons.mp member with here | member
            · cases here
              exact outside reached
            · exact outer other first last member
          · rintro ⟨reached, unattempted, outer⟩
            exact ⟨reached, unattempted, fun other first last member =>
              outer other first last (List.mem_cons_of_mem _ member)⟩
      | last =>
          rw [Event.offsets_called, Event.calls_cons_called]
          simpa [next] using later

theorem attempts {offset : Nat}
    (walk : Walk tokens (.seeking offset offset) events after) (inside : offset ≤ tokens.size) :
    AttemptedOnce offset after.frontier (Event.offsets events) (Event.calls events) where
  increasing := walk.increasing
  mem_iff := walk.mem_offsets_iff (sound_seeking (Nat.le_refl offset) inside)

/-- At the time at which a match is found its start has been attempted. -/
theorem mem_offsets_of_found {offset start stop : Nat} {value : α}
    (walk : Walk tokens (.seeking offset offset) events (.found start start stop value))
    (inside : offset ≤ tokens.size) : start ∈ Event.offsets events := by
  have sound : Sound tokens (.seeking offset offset : Stage α) :=
    sound_seeking (Nat.le_refl offset) inside
  have tiling := walk.tiling sound
  refine (walk.mem_offsets_iff sound start).mpr
    ⟨tiling.start_le_stop, Nat.lt_succ_self start, fun other first last member => ?_⟩
  have ended : last ≤ start := tiling.stop_le_of_mem member
  omega

/-- Whatever the consumer receives, nothing behind its start has been attempted then, and the start
of a match has been. -/
theorem prompt {offset : Nat} {before : List (Event (Segment α))} {segment : Segment α}
    (walk : Walk tokens (.seeking offset offset) (before ++ .called segment :: rest) after)
    (inside : offset ≤ tokens.size) :
    (∀ place ∈ Event.offsets before, (place : Int) ≤ segment.lead) ∧
    ∀ value start stop, segment = .matched value start stop →
      (∃ place ∈ Event.offsets before, (place : Int) = start) ∧
      ∀ place ∈ Event.offsets rest, stop ≤ (place : Int) := by
  have sound : Sound tokens (.seeking offset offset : Stage α) :=
    sound_seeking (Nat.le_refl offset) inside
  obtain ⟨here, now, earlier, step, later⟩ := walk.split
  have attempted place (member : place ∈ Event.offsets before) : place < here.frontier :=
    ((earlier.mem_offsets_iff sound place).mp member).2.1
  cases step with
  | before nonempty =>
      obtain ⟨-, consumes⟩ := (earlier.sound sound).ordered _ _ _ _ rfl
      have within := (earlier.sound sound).inside
      refine ⟨fun place member => ?_, nofun⟩
      rw [lead_unmatched tokens nonempty.le (Nat.le_trans consumes.le within)]
      exact Int.ofNat_le.mpr (Nat.le_of_lt_succ (attempted place member))
  | matched =>
      refine ⟨fun place member => ?_, ?_⟩
      · exact Int.ofNat_le.mpr (Nat.le_of_lt_succ (attempted place member))
      · rintro _ _ _ ⟨⟩
        refine ⟨⟨_, earlier.mem_offsets_of_found inside, rfl⟩, fun place member => ?_⟩
        exact Int.ofNat_le.mpr (later.next_le place member)
  | last nonempty =>
      refine ⟨fun place member => ?_, nofun⟩
      rw [lead_unmatched tokens nonempty.le (Nat.le_refl _)]
      exact Int.ofNat_le.mpr (attempted place member).le

end Walk

end Stage

end SpanEdit
