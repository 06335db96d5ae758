import SpanEdit.Proofs.Piecewise
import SpanEdit.Proofs.Stages

/-!
Laziness: a pattern that can only scan is attempted once at every offset that is not inside a match,
and never further than the consumer of the segments has come. What the pattern answers may depend on
what was asked before and on what the consumer did. A loop that scans is a walk between stages, and
the events of an edit can be told from what its loop received.
-/

namespace SpanEdit

variable {World α β : Type}

def receiving (body : Segment α → β → Eff World (ForInStep β)) (segment : Segment α) (state : β) :
    Eff (List (Event (Segment α)) × World) (ForInStep β) := do
  Event.record (.called segment)
  (body segment state).besideMemory

def Pattern.logged (pattern : Pattern World α) : Pattern (List (Event (Segment α)) × World) α :=
  pattern.seated .observing

def NeverDone (body : Segment α → β → Eff World (ForInStep β)) : Prop :=
  ∀ segment state world ended, (body segment state world).1 ≠ .ok (.done ended)

section Runs

variable {γ : Type} {tokens : Tokens} {body : Segment α → β → Eff World (ForInStep β)}
  {stage now : Stage α} {log : List (Event (Segment α))}

/-- A run with what is written down beside it: what comes to the log is a walk from the stage on,
and it leads to the end of the input if nothing ends the loop before. -/
def Follows (tokens : Tokens) (body : Segment α → β → Eff World (ForInStep β))
    (log : List (Event (Segment α))) (stage : Stage α) (plain : Except Fault γ × World)
    (recorded : Except Fault γ × List (Event (Segment α)) × World) : Prop :=
  ∃ events after, recorded = (plain.1, log ++ events, plain.2) ∧
    stage.Walk tokens events after ∧
    (NeverDone body → (∃ result, plain.1 = .ok result) → after = .seeking tokens.size tokens.size)

theorem Follows.step {event : Event (Segment α)} (step : stage.Step tokens event now)
    {plain : Except Fault γ × World}
    {recorded : Except Fault γ × List (Event (Segment α)) × World}
    (follows : Follows tokens body (log ++ [event]) now plain recorded) :
    Follows tokens body log stage plain recorded := by
  obtain ⟨events, after, same, walk, completes⟩ := follows
  rw [List.append_assoc, List.singleton_append] at same
  exact ⟨event :: events, after, same, .cons step walk, completes⟩

theorem Follows.failed (fault : Fault) (world : World) :
    Follows tokens body log stage ((.error fault, world) : Except Fault γ × World)
      (.error fault, log, world) := by
  refine ⟨[], stage, by rw [List.append_nil], .nil, ?_⟩
  rintro - ⟨result, impossible⟩
  cases impossible

theorem Follows.ended (result : γ) (world : World)
    (complete : NeverDone body → stage = .seeking tokens.size tokens.size) :
    Follows tokens body log stage ((.ok result, world) : Except Fault γ × World)
      (.ok result, log, world) :=
  ⟨[], stage, by rw [List.append_nil], .nil, fun never _ => complete never⟩

theorem receiving_apply (body : Segment α → β → Eff World (ForInStep β)) (segment : Segment α)
    (state : β) (log : List (Event (Segment α))) (world : World) :
    receiving body segment state (log, world) =
      ((body segment state world).1, log ++ [.called segment], (body segment state world).2) :=
  rfl

structure Resumes (tokens : Tokens) (body : Segment α → β → Eff World (ForInStep β))
    (now : Stage α) (next : ForInStep β → Eff World γ)
    (nextToo : ForInStep β → Eff (List (Event (Segment α)) × World) γ) : Prop where
  done : ∀ state, ∃ result, next (.done state) = pure result ∧ nextToo (.done state) = pure result
  yield : ∀ log state world, Follows tokens body log now (next (.yield state) world)
    (nextToo (.yield state) (log, world))

variable {next : ForInStep β → Eff World γ}
  {nextToo : ForInStep β → Eff (List (Event (Segment α)) × World) γ}

theorem Resumes.received {segment : Segment α} (resumes : Resumes tokens body now next nextToo)
    (step : stage.Step tokens (.called segment) now) (log : List (Event (Segment α))) (state : β)
    (world : World) :
    Follows tokens body log stage ((body segment state >>= next) world)
      ((receiving body segment state >>= nextToo) (log, world)) := by
  refine .step step ?_
  rw [Eff.bind_apply, Eff.bind_apply, receiving_apply]
  rcases ran : body segment state world with ⟨fault | ended | state, after⟩
  · exact .failed fault after
  · obtain ⟨result, finished, finishedToo⟩ := resumes.done ended
    simp only [finished, finishedToo]
    refine .ended result after fun never => ?_
    exact absurd (congrArg Prod.fst ran) (never segment state world ended)
  · exact resumes.yield _ state after

theorem Resumes.gap {pending stop : Nat} (resumes : Resumes tokens body now next nextToo)
    (steps : pending < stop →
      stage.Step tokens (.called (.unmatched (tokens.slice pending stop) pending)) now)
    (stays : ¬pending < stop → stage = now) (log : List (Event (Segment α))) (state : β)
    (world : World) :
    Follows tokens body log stage
      ((Separation.emitUnmatched tokens pending stop state body >>= next) world)
      ((Separation.emitUnmatched tokens pending stop state (receiving body) >>= nextToo)
        (log, world)) := by
  unfold Separation.emitUnmatched
  by_cases nonempty : pending < stop
  · rw [if_pos nonempty, if_pos nonempty]
    exact resumes.received (steps nonempty) log state world
  · rw [if_neg nonempty, if_neg nonempty, pure_bind, pure_bind, stays nonempty]
    exact resumes.yield log state world

theorem follows_finish {pending : Nat} (inside : pending ≤ tokens.size)
    (log : List (Event (Segment α))) (state : β) (world : World) :
    Follows tokens body log (.seeking pending tokens.size)
      (Separation.finish tokens pending state body world)
      (Separation.finish tokens pending state (receiving body) (log, world)) := by
  refine Resumes.gap ⟨fun state => ⟨state, rfl, rfl⟩, fun log state world => ?_⟩ .last
    (fun finished => ?_) log state world
  · exact .ended state world fun _ => rfl
  · have same : pending = tokens.size := by omega
    rw [same]

theorem follows_emit {pending start stop : Nat} {value : α} (ordered : pending ≤ start)
    {more : β → Eff World β} {moreToo : β → Eff (List (Event (Segment α)) × World) β}
    (rest : ∀ log state world, Follows tokens body log (.seeking stop stop) (more state world)
      (moreToo state (log, world)))
    (log : List (Event (Segment α))) (state : β) (world : World) :
    Follows tokens body log (.found pending start stop value)
      ((Separation.emit tokens pending start stop value state body >>= fun
        | .done state => pure state
        | .yield state => more state) world)
      ((Separation.emit tokens pending start stop value state (receiving body) >>= fun
        | .done state => pure state
        | .yield state => moreToo state) (log, world)) := by
  have resumes : Resumes tokens body (.seeking stop stop)
      (fun
        | .done state => pure state
        | .yield state => more state)
      (fun
        | .done state => pure state
        | .yield state => moreToo state) :=
    ⟨fun state => ⟨state, rfl, rfl⟩, rest⟩
  rw [Separation.emit, Separation.emit, bind_assoc, bind_assoc]
  refine Resumes.gap ?_ .before (fun finished => ?_) log state world
  · refine ⟨fun state => ⟨state, rfl, rfl⟩, fun log state world => ?_⟩
    exact resumes.received .matched log state world
  · have same : pending = start := by omega
    rw [same]

theorem scan_logged (pattern : Pattern World α) (tokens : Tokens) (position : Nat)
    (log : List (Event (Segment α))) (world : World) :
    pattern.logged.scan tokens position (log, world) =
      ((pattern.scan tokens position world).1, log ++ [.asked (.scan position)],
        (pattern.scan tokens position world).2) := rfl

theorem scanning_apply (pattern : Pattern World α) {position : Nat}
    (unfinished : position < tokens.size) (pending : Nat) (state : β) (world : World) :
    Separation.scanning pattern tokens body pending position state world =
      match pattern.scan tokens position world with
      | (.error fault, now) => (.error (fault.leaving .generator), now)
      | (.ok none, now) =>
          Separation.scanning pattern tokens body pending (position + 1) state now
      | (.ok (some hit), now) =>
          if position < hit.stop then
            if hit.stop ≤ tokens.size then
              (Separation.emit tokens pending position hit.stop.toNat hit.value state body >>= fun
                | .done state => pure state
                | .yield state => Separation.scanning pattern tokens body hit.stop.toNat
                    hit.stop.toNat state) now
            else (.error (.outside pattern.label position hit.stop tokens.size), now)
          else Separation.scanning pattern tokens body pending (position + 1) state now := by
  have scans : (liftM ((pattern.scan tokens position).leaving .generator) : Eff World _) world =
    (pattern.scan tokens position).leaving .generator world := rfl
  rw [Separation.scanning.eq_def, if_pos unfinished, Eff.bind_apply, scans, Eff.leaving]
  rcases pattern.scan tokens position world with ⟨fault | _ | ⟨stop, value⟩, now⟩
  · rfl
  · rfl
  · by_cases consumes : (position : Int) < stop
    · by_cases within : stop ≤ tokens.size
      · refine (congrFun ((if_pos consumes).trans (if_pos within)) now).trans ?_
        exact ((if_pos consumes).trans (if_pos within)).symm
      · simp only [if_pos consumes, if_neg within]
        rfl
    · simp only [if_neg consumes]

/-- A loop that scans is a walk between stages. -/
theorem scanning_follows (pattern : Pattern World α) {pending position : Nat}
    (ordered : pending ≤ position) (inside : position ≤ tokens.size)
    (log : List (Event (Segment α))) (state : β) (world : World) :
    Follows tokens body log (.seeking pending position)
      (Separation.scanning pattern tokens body pending position state world)
      (Separation.scanning pattern.logged tokens (receiving body) pending position state
        (log, world)) := by
  -- The world is general: what the pattern answers at a later offset depends on the scans and the
  -- body's steps before it.
  induction position using forwards tokens.size generalizing pending log state world with
  | step position ih =>
      by_cases unfinished : position < tokens.size
      · rw [scanning_apply pattern unfinished, scanning_apply pattern.logged unfinished,
          scan_logged]
        have missed (now : World) : Follows tokens body log (.seeking pending position)
            (Separation.scanning pattern tokens body pending (position + 1) state now)
            (Separation.scanning pattern.logged tokens (receiving body) pending (position + 1) state
              (log ++ [.asked (.scan position)], now)) :=
          .step (.missed unfinished) (ih unfinished (position + 1) (Nat.lt_succ_self position)
            (Nat.le_succ_of_le ordered) unfinished _ state now)
        rcases pattern.scan tokens position world with ⟨fault | _ | ⟨stop, value⟩, now⟩
        · exact .step (.missed unfinished) (.failed (fault.leaving .generator) now)
        · exact missed now
        · by_cases consumes : (position : Int) < stop
          · by_cases within : stop ≤ tokens.size
            · simp only [if_pos consumes, if_pos within]
              obtain ⟨place, rfl⟩ := Int.eq_ofNat_of_zero_le (by omega : 0 ≤ stop)
              rw [Int.toNat_natCast]
              have forward : position < place := by omega
              have bounded : place ≤ tokens.size := by omega
              refine .step (.hit forward bounded) (follows_emit ordered ?_ _ state now)
              intro log state world
              exact ih unfinished place forward (Nat.le_refl place) bounded log state world
            · simp only [if_pos consumes, if_neg within]
              exact .step (.missed unfinished) (.failed _ now)
          · simp only [if_neg consumes]
            exact missed now
      · have finished : position = tokens.size := by omega
        rw [Separation.scanning.eq_def, if_neg unfinished, Separation.scanning.eq_def,
          if_neg unfinished]
        subst finished
        exact follows_finish ordered log state world

theorem searches_logged (pattern : Pattern World α) :
    pattern.logged.searches = pattern.searches := by
  obtain ⟨label, scan, reach⟩ := pattern
  cases reach <;> rfl

theorem run_eq_scanning {pattern : Pattern World α} (scans : pattern.searches = false)
    (offset : Nat) (state : β) :
    Separation.run ⟨pattern, tokens, offset⟩ state body =
      Separation.scanning pattern tokens body offset offset state := by
  simp only [Separation.run, scans, Bool.false_eq_true, ↓reduceIte]

end Runs

/-- What is written down of a separation that attempts its pattern lazily. -/
structure Lazy (tokens : Tokens) (offset frontier reached : Nat)
    (events : List (Event (Segment α))) : Prop where
  tiling : Tiling tokens offset reached (Event.calls events)
  attempts : AttemptedOnce offset frontier (Event.offsets events) (Event.calls events)
  prompt : ∀ before segment rest, events = before ++ .called segment :: rest →
    (∀ place ∈ Event.offsets before, (place : Int) ≤ segment.lead) ∧
    ∀ value start stop, segment = .matched value start stop →
      (∃ place ∈ Event.offsets before, (place : Int) = start) ∧
      ∀ place ∈ Event.offsets rest, stop ≤ (place : Int)

theorem Pattern.run_lazy {pattern : Pattern World α} (scans : pattern.searches = false)
    {tokens : Tokens} {offset : Nat} (inside : offset ≤ tokens.size)
    (body : Segment α → β → Eff World (ForInStep β)) (state : β) (world : World) :
    ∃ outcome events after frontier reached,
      Separation.run ⟨pattern.logged, tokens, offset⟩ state (receiving body) ([], world) =
        (outcome, events, after) ∧
      Separation.run ⟨pattern, tokens, offset⟩ state body world = (outcome, after) ∧
      Lazy tokens offset frontier reached events ∧
      (NeverDone body → (∃ result, outcome = .ok result) →
        frontier = tokens.size ∧ reached = tokens.size) := by
  have follows : Follows tokens body [] (.seeking offset offset) _ _ :=
    scanning_follows pattern (Nat.le_refl offset) inside [] state world
  obtain ⟨events, stage, same, walk, completes⟩ := follows
  rw [run_eq_scanning scans, run_eq_scanning ((searches_logged pattern).trans scans), same,
    List.nil_append]
  refine ⟨_, events, _, stage.frontier, stage.pending, rfl, rfl, ⟨?_, ?_, ?_⟩, ?_⟩
  · exact walk.tiling (Stage.sound_seeking (Nat.le_refl offset) inside)
  · exact walk.attempts inside
  · rintro before segment rest rfl
    exact walk.prompt inside
  · intro never succeeds
    rw [completes never succeeds]
    exact ⟨rfl, rfl⟩

section Edits

inductive Tells : List (Event (Segment α)) → List (Event α) → Prop
  | nil : Tells [] []
  | asked {question : Question} {log : List (Event (Segment α))} {events : List (Event α)} :
      Tells log events → Tells (.asked question :: log) (.asked question :: events)
  | unmatched {text : Tokens} {start : Int} {log : List (Event (Segment α))}
      {events : List (Event α)} :
      Tells log events → Tells (.called (.unmatched text start) :: log) events
  | matched {value : α} {start stop : Int} {outcome : Except Fault Output}
      {log : List (Event (Segment α))} {events : List (Event α)} : Tells log events →
      Tells (.called (.matched value start stop) :: log)
        (.called value :: .answered outcome :: events)

namespace Tells

variable {log more : List (Event (Segment α))} {events others : List (Event α)}

theorem append (tells : Tells log events) (later : Tells more others) :
    Tells (log ++ more) (events ++ others) := by
  induction tells with
  | nil => exact later
  | asked _ ih => exact .asked ih
  | unmatched _ ih => exact .unmatched ih
  | matched _ ih => exact .matched ih

theorem offsets_eq (tells : Tells log events) : Event.offsets events = Event.offsets log := by
  induction tells with
  | nil => rfl
  | @asked question _ _ _ ih =>
      cases question with
      | scan offset => exact congrArg (List.cons offset) ih
      | begin => exact ih
      | next => exact ih
  | unmatched _ ih => exact ih
  | matched _ ih => exact ih

theorem calls_eq (tells : Tells log events) :
    Event.calls events = Segment.values (Event.calls log) := by
  induction tells with
  | nil => rfl
  | asked _ ih => exact ih
  | unmatched _ ih => exact ih
  | matched _ ih => exact congrArg (List.cons _) ih

/-- A call of the editor is where the loop received the match. -/
theorem split {before rest : List (Event α)} {value : α}
    (tells : Tells log (before ++ .called value :: rest)) :
    ∃ earlier start stop later,
      log = earlier ++ .called (.matched value start stop) :: later ∧
      Event.offsets before = Event.offsets earlier ∧ Event.offsets rest = Event.offsets later ∧
      Event.calls before = Segment.values (Event.calls earlier) := by
  obtain ⟨events, same⟩ : ∃ events, events = before ++ .called value :: rest := ⟨_, rfl⟩
  rw [← same] at tells
  induction tells generalizing before with
  | nil => simp at same
  | @asked question log events tells ih =>
      cases before with
      | nil => cases same
      | cons first before =>
          cases same
          obtain ⟨earlier, start, stop, later, rfl, ahead, behind, calls⟩ := ih rfl
          refine ⟨.asked question :: earlier, start, stop, later, rfl, ?_, behind, calls⟩
          cases question with
          | scan offset => exact congrArg (List.cons offset) ahead
          | begin => exact ahead
          | next => exact ahead
  | @unmatched text place log events tells ih =>
      obtain ⟨earlier, start, stop, later, rfl, ahead, behind, calls⟩ := ih same
      exact ⟨.called (.unmatched text place) :: earlier, start, stop, later, rfl, ahead, behind,
        calls⟩
  | @matched own start stop outcome log events tells ih =>
      cases before with
      | nil =>
          cases same
          exact ⟨[], start, stop, log, rfl, rfl, tells.offsets_eq, rfl⟩
      | cons first before =>
          cases before with
          | nil => cases same
          | cons second before =>
              cases same
              obtain ⟨earlier, first, last, later, rfl, ahead, behind, calls⟩ := ih rfl
              exact ⟨.called (.matched own start stop) :: earlier, first, last, later, rfl, ahead,
                behind, congrArg (List.cons own) calls⟩

end Tells

theorem length_values (segments : List (Segment α)) :
    (segments.filter (!·.isUnmatched)).length = (Segment.values segments).length := by
  induction segments with
  | nil => rfl
  | cons segment rest ih =>
      cases segment with
      | unmatched text start => exact ih
      | matched value start stop => exact congrArg Nat.succ ih

/-- The match that is received after so many others. -/
theorem getElem?_matched (before rest : List (Segment α)) (value : α) (start stop : Int) :
    ((before ++ .matched value start stop :: rest).filter
      (!·.isUnmatched))[(Segment.values before).length]? = some (.matched value start stop) := by
  rw [List.filter_append, ← length_values, List.getElem?_append_right (Nat.le_refl _),
    Nat.sub_self]
  rfl

variable [Shows α] {tokens : Tokens}

theorem related_receiving (tokens : Tokens) (editor : α → Eff World Output) :
    Separation.Related tokens (fun _ => True)
      (fun _ (outer : List (Event (Segment α)) × World) (now : List (Event α) × World) =>
        Tells outer.1 now.1 ∧ outer.2 = now.2)
      (fun place afterUnmatched state result outer now =>
        state.1 = ⟨place, afterUnmatched⟩ ∧ result = state ∧ Tells outer.1 now.1 ∧
          outer.2 = now.2)
      (receiving (spliceStep tokens editor)) (spliceStep tokens (watched editor)) where
  unmatched := by
    rintro start stop ⟨_, splice⟩ _ nonempty inside ⟨log, world⟩ ⟨events, _⟩
      ⟨rfl, rfl, tells, rfl⟩
    have last : Tells [.called (.unmatched (tokens.slice start stop) start)]
      ([] : List (Event α)) := .unmatched .nil
    have told := tells.append last
    rw [List.append_nil] at told
    have advanced := Coverage.advance_unmatched (α := α) nonempty inside
    rw [receiving_apply, spliceStep_unmatched advanced, spliceStep_unmatched advanced]
    exact .inl ⟨_, _, _, _, rfl, rfl, rfl, rfl, told, rfl⟩
  matched := by
    rintro start stop value afterUnmatched ⟨_, splice⟩ _ consumes inside - ⟨log, world⟩
      ⟨events, _⟩ ⟨rfl, rfl, tells, rfl⟩
    have told (outcome : Except Fault Output) :
        Tells (log ++ [.called (.matched value start stop)])
          (events ++ [.called value, .answered outcome]) := tells.append (.matched .nil)
    have advanced := Coverage.advance_matched value afterUnmatched consumes
    have called := watched_apply editor value events world
    rw [receiving_apply]
    rcases ran : editor value world with ⟨fault | replacement, after⟩ <;> rw [ran] at called
    · rw [spliceStep_raised advanced ran, spliceStep_raised advanced called]
      exact .inr ⟨fault, _, _, rfl, rfl, told _, rfl⟩
    · cases compared : replacement.differs (tokens.part start stop) with
      | error fault =>
          rw [spliceStep_incomparable advanced ran compared,
            spliceStep_incomparable advanced called compared]
          exact .inr ⟨fault, _, _, rfl, rfl, told _, rfl⟩
      | ok differs =>
          have changed := splice.replace_eq_ok compared
          rw [spliceStep_matched advanced ran changed, spliceStep_matched advanced called changed]
          exact .inl ⟨_, _, _, _, rfl, rfl, rfl, rfl, told _, rfl⟩
  fails _ _ _ _ _ _ inv := inv.2.2

theorem neverDone_spliceStep (tokens : Tokens) (editor : α → Eff World Output) :
    NeverDone (spliceStep tokens editor) := by
  rintro segment ⟨coverage, splice⟩ world ended ends
  cases advanced : coverage.advance segment with
  | error fault =>
      rw [spliceStep_refused advanced] at ends
      cases ends
  | ok next =>
      cases segment with
      | unmatched text start =>
          rw [spliceStep_unmatched advanced] at ends
          cases ends
      | matched value start stop =>
          rcases answered : editor value world with ⟨fault | replacement, after⟩
          · rw [spliceStep_raised advanced answered] at ends
            cases ends
          · cases compared : replacement.differs (tokens.part start stop) with
            | error fault =>
                rw [spliceStep_incomparable advanced answered compared] at ends
                cases ends
            | ok differs =>
                rw [spliceStep_matched advanced answered (splice.replace_eq_ok compared)] at ends
                cases ends

/-- The rest of an edit, behind its loop, adds nothing to its events, and an edit that succeeds has
come to the end of its loop. -/
theorem edit_events [Journal World] (pattern : Pattern World α) (editor : α → Eff World Output)
    {world now : World} {outcome : Except Fault (Coverage × Splice)} {events : List (Event α)}
    (ran : Separation.run ⟨pattern.observed, tokens, 0⟩ (Coverage.start, Splice.empty)
      (spliceStep tokens (watched editor)) ([], world) = (outcome, events, now)) :
    ∃ result after,
      edit pattern.observed (watched editor) tokens ([], world) = (result, events, after) ∧
      ((∃ edited, result = .ok edited) → ∃ state, outcome = .ok state) := by
  rw [edit_eq_run]
  cases outcome with
  | error fault =>
      refine ⟨_, _, Eff.bind_error ran _, ?_⟩
      rintro ⟨edited, impossible⟩
      cases impossible
  | ok state =>
      rw [Eff.bind_ok ran]
      cases state.1.close tokens.size with
      | error fault => exact ⟨_, _, rfl, fun _ => ⟨state, rfl⟩⟩
      | ok => exact ⟨_, _, rfl, fun _ => ⟨state, rfl⟩⟩

theorem Pattern.edit_lazy [Journal World] {pattern : Pattern World α}
    (scans : pattern.searches = false) (editor : α → Eff World Output) (tokens : Tokens)
    (world : World) :
    ∃ result events after segments frontier reached,
      edit pattern.observed (watched editor) tokens ([], world) = (result, events, after) ∧
      edit pattern editor tokens world = (result, after) ∧
      Tiling tokens 0 reached segments ∧
      ((∃ edited, result = .ok edited) → frontier = tokens.size ∧ reached = tokens.size) ∧
      AttemptedOnce 0 frontier (Event.offsets events) segments ∧
      Event.calls events = Segment.values segments ∧
      ∀ before value rest, events = before ++ .called value :: rest →
        ∃ start stop : Nat,
          (segments.filter (!·.isUnmatched))[(Event.calls before).length]? =
            some (.matched value start stop) ∧
          start ∈ Event.offsets before ∧ (∀ place ∈ Event.offsets before, place ≤ start) ∧
          ∀ place ∈ Event.offsets rest, stop ≤ place := by
  obtain ⟨outcome, log, now, frontier, reached, recorded, -, isLazy, completes⟩ :=
    run_lazy scans (Nat.zero_le tokens.size) (spliceStep tokens editor)
      (Coverage.start, Splice.empty) world
  have runs := (related_receiving tokens editor).run .observing .observing
    (pattern.finds_something tokens)
    (fun _ _ _ => ⟨fun _ _ _ inv => inv.2.2.2, fun _ _ _ _ inv =>
      ⟨inv.1, inv.2.1, inv.2.2.1.append (.asked .nil), rfl⟩⟩)
    (Nat.zero_le tokens.size) (Coverage.start, Splice.empty) (Coverage.start, Splice.empty)
    ([], world) ([], world) ⟨rfl, rfl, .nil, rfl⟩
  obtain ⟨ended, events, last, ran, tells, succeeds⟩ : ∃ ended events last,
      Separation.run ⟨pattern.observed, tokens, 0⟩ (Coverage.start, Splice.empty)
        (spliceStep tokens (watched editor)) ([], world) = (ended, events, last) ∧
      Tells log events ∧ ((∃ state, ended = .ok state) → ∃ state, outcome = .ok state) := by
    rcases runs with ⟨_, _, _, ⟨events, last⟩, received, ran, flag, -, -, tells, -⟩ |
      ⟨fault, _, ⟨events, last⟩, received, ran, tells, -⟩
    · cases recorded.symm.trans received
      exact ⟨_, events, last, ran, tells, fun _ => ⟨_, rfl⟩⟩
    · cases recorded.symm.trans received
      exact ⟨_, events, last, ran, tells, fun ⟨_, impossible⟩ => by cases impossible⟩
  obtain ⟨result, after, observed, edited⟩ := edit_events pattern editor ran
  refine ⟨result, events, after, Event.calls log, frontier, reached, observed,
    edit_eq_of_observed observed, isLazy.tiling, fun ends =>
      completes (neverDone_spliceStep tokens editor) (succeeds (edited ends)), ?_, tells.calls_eq,
    ?_⟩
  · rw [tells.offsets_eq]
    exact isLazy.attempts
  · rintro before value rest rfl
    obtain ⟨earlier, start, stop, later, rfl, ahead, behind, calls⟩ := tells.split
    obtain ⟨notBeyond, found⟩ := isLazy.prompt earlier _ later rfl
    obtain ⟨⟨place, attempted, rfl⟩, further⟩ := found value start stop rfl
    have received : Event.calls (earlier ++ .called (.matched value place stop) :: later) =
        Event.calls earlier ++ .matched value place stop :: Event.calls later := by
      rw [Event.calls_append, Event.calls_cons_called]
    have consumes : (place : Int) < stop := by
      refine isLazy.tiling.nonempty (.matched value place stop) ?_
      rw [received]
      exact List.mem_append_right _ List.mem_cons_self
    obtain ⟨last, rfl⟩ := Int.eq_ofNat_of_zero_le (by omega : 0 ≤ stop)
    refine ⟨place, last, ?_, ?_, fun other member => ?_, fun other member => ?_⟩
    · rw [received, calls]
      exact getElem?_matched _ _ value place last
    · rw [ahead]
      exact attempted
    · rw [ahead] at member
      exact Int.ofNat_le.mp (notBeyond other member)
    · rw [behind] at member
      exact Int.ofNat_le.mp (further other member)

/-- A pattern that can only scan is attempted lazily. Whatever a consumer does with the segments,
the scans are those at the offsets that are not strictly inside a match, up to where the run has
come, and none of them is ahead of a segment that is received. So an editor is called for a match
after the attempt at its start, and before any attempt behind it. -/
theorem Pattern.attempts_lazily {pattern : Pattern World α} (scans : pattern.searches = false)
    (tokens : Tokens) (world : World) :
    (∀ (γ : Type) (offset : Nat) (body : Segment α → γ → Eff World (ForInStep γ)) (state : γ),
      offset ≤ tokens.size →
      ∃ separation outcome events after frontier reached,
        (Eff.ofExcept (pattern.logged.separate tokens offset) :
          Eff (List (Event (Segment α)) × World) _) ([], world) = (.ok separation, [], world) ∧
        separation.run state (receiving body) ([], world) = (outcome, events, after) ∧
        Separation.run ⟨pattern, tokens, offset⟩ state body world = (outcome, after) ∧
        Lazy tokens offset frontier reached events ∧
        (NeverDone body → (∃ result, outcome = .ok result) →
          frontier = tokens.size ∧ reached = tokens.size)) ∧
    ∀ [Journal World] (editor : α → Eff World Output),
      ∃ result events after segments frontier reached,
        edit pattern.observed (watched editor) tokens ([], world) = (result, events, after) ∧
        edit pattern editor tokens world = (result, after) ∧
        Tiling tokens 0 reached segments ∧
        ((∃ edited, result = .ok edited) → frontier = tokens.size ∧ reached = tokens.size) ∧
        AttemptedOnce 0 frontier (Event.offsets events) segments ∧
        Event.calls events = Segment.values segments ∧
        ∀ before value rest, events = before ++ .called value :: rest →
          ∃ start stop : Nat,
            (segments.filter (!·.isUnmatched))[(Event.calls before).length]? =
              some (.matched value start stop) ∧
            start ∈ Event.offsets before ∧ (∀ place ∈ Event.offsets before, place ≤ start) ∧
            ∀ place ∈ Event.offsets rest, stop ≤ place := by
  refine ⟨fun γ offset body state inside => ?_, fun editor => edit_lazy scans editor tokens world⟩
  obtain ⟨outcome, events, after, frontier, reached, recorded, plain, isLazy, completes⟩ :=
    run_lazy scans inside body state world
  refine ⟨_, outcome, events, after, frontier, reached, ?_, recorded, plain, isLazy, completes⟩
  rw [separate_ok _ inside]
  rfl

theorem Pattern.fickle_attempts :
    fickle.searches = false ∧ ∃ outcome events after frontier reached,
      Separation.run ⟨fickle.logged, .ofString "ab", 0⟩ () (receiving fun _ _ => pure (.yield ()))
        ([], Testing.World.empty) = (outcome, events, after) ∧
      Lazy (.ofString "ab") 0 frontier reached events ∧
      ((∃ result, outcome = .ok result) → frontier = 2 ∧ reached = 2) := by
  have scans : fickle.searches = false := rfl
  obtain ⟨separation, outcome, events, after, frontier, reached, made, ran, -, isLazy, completes⟩ :=
    (attempts_lazily scans (.ofString "ab") Testing.World.empty).1 Unit 0
      (fun _ _ => pure (.yield ())) () (Nat.zero_le _)
  cases made
  exact ⟨scans, outcome, events, after, frontier, reached, ran, isLazy, completes nofun⟩

end Edits

end SpanEdit
