import SpanEdit.Proofs.Walk

/-!
Two runs in lockstep: the same pattern, seated in two worlds, gives two loops the same segments for
as long as the worlds agree on the part that it works on. What the bodies of the loops do is related
by an invariant of the place that the loops have come to.
-/

namespace SpanEdit

variable {First Second World α β γ δ ε : Type}

/-- From worlds that are related before, both actions succeed and leave related results and worlds,
or both fail with one fault. -/
def Eff.Relates (Before : First → Second → Prop) (After : β → γ → First → Second → Prop)
    (Failed : Fault → First → Second → Prop) (action : Eff First β) (other : Eff Second γ) :
    Prop :=
  ∀ first second, Before first second →
    (∃ value result changed now, action first = (.ok value, changed) ∧
      other second = (.ok result, now) ∧ After value result changed now) ∨
    ∃ fault changed now, action first = (.error fault, changed) ∧
      other second = (.error fault, now) ∧ Failed fault changed now

def Eff.Agrees (Link : First → Second → Prop) (action : Eff First β) (other : Eff Second β) :
    Prop :=
  Eff.Relates Link (fun value result first second => result = value ∧ Link first second)
    (fun _ => Link) action other

def Eff.Gives (action : Eff World β) (value : β) : Prop :=
  ∃ world changed, action world = (.ok value, changed)

namespace Eff.Relates

variable {Before Link : First → Second → Prop} {Middle : β → γ → First → Second → Prop}
  {After : δ → ε → First → Second → Prop} {Failed : Fault → First → Second → Prop}

theorem pure {value : β} {result : γ}
    (related : ∀ first second, Before first second → Middle value result first second) :
    Relates Before Middle Failed (Pure.pure value : Eff First β) (Pure.pure result) :=
  fun first second before => .inl ⟨_, _, _, _, rfl, rfl, related first second before⟩

theorem throw {fault : Fault}
    (related : ∀ first second, Before first second → Failed fault first second) :
    Relates Before Middle Failed (MonadExcept.throw fault) (MonadExcept.throw fault) :=
  fun first second before => .inr ⟨_, _, _, rfl, rfl, related first second before⟩

theorem bind {action : Eff First β} {other : Eff Second γ} {next : β → Eff First δ}
    {following : γ → Eff Second ε} (relates : Relates Before Middle Failed action other)
    (later : ∀ value result, Relates (Middle value result) After Failed (next value)
      (following result)) :
    Relates Before After Failed (action >>= next) (other >>= following) := by
  intro first second before
  rcases relates first second before with ⟨value, result, changed, now, ran, same, middle⟩ |
    ⟨fault, changed, now, ran, same, failed⟩
  · rw [Eff.bind_ok ran, Eff.bind_ok same]
    exact later value result changed now middle
  · exact .inr ⟨fault, changed, now, Eff.bind_error ran next, Eff.bind_error same following, failed⟩

theorem map {action : Eff First β} {other : Eff Second γ}
    (relates : Relates Before Middle Failed action other) (change : β → δ) (turn : γ → ε)
    (after : ∀ value result first second, Middle value result first second →
      After (change value) (turn result) first second) :
    Relates Before After Failed (do return change (← action)) (do return turn (← other)) :=
  relates.bind fun value result => .pure (after value result)

theorem weaken {Stronger : First → Second → Prop} {Weaker : β → γ → First → Second → Prop}
    {Broken : Fault → First → Second → Prop} {action : Eff First β} {other : Eff Second γ}
    (relates : Relates Before Middle Failed action other)
    (before : ∀ first second, Stronger first second → Before first second)
    (after : ∀ value result first second, Middle value result first second →
      Weaker value result first second)
    (failed : ∀ fault first second, Failed fault first second → Broken fault first second) :
    Relates Stronger Weaker Broken action other := by
  intro first second stronger
  rcases relates first second (before _ _ stronger) with
    ⟨value, result, changed, now, ran, same, middle⟩ | ⟨fault, changed, now, ran, same, broken⟩
  · exact .inl ⟨value, result, changed, now, ran, same, after _ _ _ _ middle⟩
  · exact .inr ⟨fault, changed, now, ran, same, failed _ _ _ broken⟩

theorem leaving {Broken : First → Second → Prop} {action : Eff First β} {other : Eff Second γ}
    (relates : Relates Before Middle (fun _ => Broken) action other) (frame : Frame) :
    Relates Before Middle (fun _ => Broken) (action.leaving frame) (other.leaving frame) := by
  intro first second before
  rcases relates first second before with ⟨value, result, changed, now, ran, same, middle⟩ |
    ⟨fault, changed, now, ran, same, broken⟩
  · exact .inl ⟨value, result, changed, now, Eff.leaving_ok ran frame, Eff.leaving_ok same frame,
      middle⟩
  · exact .inr ⟨_, changed, now, Eff.leaving_error ran frame, Eff.leaving_error same frame, broken⟩

end Eff.Relates

theorem Eff.agrees_self (action : Eff First β) : Eff.Agrees Eq action action := by
  rintro world _ rfl
  rcases ran : action world with ⟨fault | value, changed⟩
  · exact .inr ⟨fault, changed, changed, rfl, rfl, rfl⟩
  · exact .inl ⟨value, value, changed, changed, rfl, rfl, rfl, rfl⟩

inductive Question where
  | scan (offset : Nat)
  | begin
  | next (offset : Nat)

/-- A place for a pattern in a larger world: the part that the pattern works on, and what the rest
of the world makes of a question. -/
structure Seat (World Outer : Type) where
  part : Outer → World
  update : World → Outer → Outer
  hear : Question → Outer → Outer

namespace Seat

variable {Outer : Type}

def whole : Seat World World := ⟨id, fun world _ => world, fun _ world => world⟩

def aside : Seat World (β × World) := ⟨(·.2), fun world outer => (outer.1, world), fun _ => id⟩

def act (seat : Seat World Outer) (question : Question) (action : Eff World β) : Eff Outer β :=
  fun outer => action.within seat.part seat.update (seat.hear question outer)

def finder (seat : Seat World Outer) (finder : Finder World α) : Finder Outer α where
  Memory := finder.Memory
  start tokens := seat.act .begin (finder.start tokens)
  find tokens offset := fun (memory, outer) =>
    let heard := seat.hear (.next offset) outer
    match finder.find tokens offset (memory, seat.part heard) with
    | (outcome, memory, world) => (outcome, memory, seat.update world heard)

structure Agree (Link : First → Second → Prop) (seat : Seat World First)
    (other : Seat World Second) : Prop where
  part : ∀ question first second, Link first second →
    seat.part (seat.hear question first) = other.part (other.hear question second)
  update : ∀ question first second world, Link first second →
    Link (seat.update world (seat.hear question first))
      (other.update world (other.hear question second))

end Seat

def Pattern.seated {Outer : Type} (seat : Seat World Outer) (pattern : Pattern World α) :
    Pattern Outer α where
  label := pattern.label
  scan tokens offset := seat.act (.scan offset) (pattern.scan tokens offset)
  reach :=
    match pattern.reach with
    | .scanOnly => .scanOnly
    | .searchable search =>
        .searchable fun tokens offset => seat.act (.next offset) (search tokens offset)
    | .incremental search finder =>
        .incremental (fun tokens offset => seat.act (.next offset) (search tokens offset))
          (seat.finder finder)

@[simp] theorem Pattern.seated_whole (pattern : Pattern World α) :
    pattern.seated .whole = pattern := by
  obtain ⟨label, scan, reach⟩ := pattern
  cases reach <;> rfl

namespace Seat.Agree

variable {Link : First → Second → Prop} {seat : Seat World First} {other : Seat World Second}

theorem act (agree : Agree Link seat other) (question : Question) (action : Eff World β) :
    Eff.Relates Link
      (fun value result first second =>
        result = value ∧ action.Gives value ∧ Link first second)
      (fun _ => Link) (seat.act question action) (other.act question action) := by
  intro first second linked
  have kept := agree.update question first second
  simp only [Seat.act, Eff.within, ← agree.part question first second linked]
  rcases ran : action (seat.part (seat.hear question first)) with ⟨fault | value, world⟩
  · exact .inr ⟨fault, _, _, rfl, rfl, kept world linked⟩
  · exact .inl ⟨value, value, _, _, rfl, rfl, rfl, ⟨_, _, ran⟩, kept world linked⟩

theorem ask_search (agree : Agree Link seat other)
    (search : Tokens → Nat → Eff World (Option (Found α))) (tokens : Tokens) (position : Nat)
    (memory : Unit) :
    Eff.Relates Link
      (fun answer same first second =>
        same = answer ∧
          ((search tokens position).besideMemory.remembering memory).Gives answer ∧
          Link first second)
      (fun _ => Link)
      ((seat.act (.next position) (search tokens position)).besideMemory.remembering memory)
      ((other.act (.next position) (search tokens position)).besideMemory.remembering memory) := by
  intro first second linked
  rcases agree.act (.next position) (search tokens position) first second linked with
    ⟨_, found, changed, now, ran, same, rfl, ⟨world, after, given⟩, linked⟩ |
    ⟨fault, changed, now, ran, same, linked⟩
  · refine .inl ⟨(found, memory), _, changed, now, ?_, ?_, rfl, ⟨world, after, ?_⟩, linked⟩
    · simp only [Eff.remembering, Eff.besideMemory, Eff.within, ran]
    · simp only [Eff.remembering, Eff.besideMemory, Eff.within, same]
    · simp only [Eff.remembering, Eff.besideMemory, Eff.within, given]
  · refine .inr ⟨fault, changed, now, ?_, ?_, linked⟩
    · simp only [Eff.remembering, Eff.besideMemory, Eff.within, ran]
    · simp only [Eff.remembering, Eff.besideMemory, Eff.within, same]

theorem ask_finder (agree : Agree Link seat other) (finder : Finder World α) (tokens : Tokens)
    (position : Nat) (memory : finder.Memory) :
    Eff.Relates Link
      (fun answer same first second =>
        same = answer ∧ (finder.ask tokens position memory).Gives answer ∧ Link first second)
      (fun _ => Link) ((seat.finder finder).ask tokens position memory)
      ((other.finder finder).ask tokens position memory) := by
  intro first second linked
  have kept := agree.update (.next position) first second
  simp only [Finder.ask, Eff.remembering, Seat.finder,
    ← agree.part (.next position) first second linked]
  rcases answered : finder.find tokens position
    (memory, seat.part (seat.hear (.next position) first)) with ⟨fault | found, later, world⟩
  · simp only [answered]
    exact .inr ⟨fault, _, _, rfl, rfl, kept world linked⟩
  · simp only [answered]
    have gives : (finder.ask tokens position memory).Gives (found, later) :=
      ⟨seat.part (seat.hear (.next position) first), world, by
        simp only [Finder.ask, Eff.remembering, answered]⟩
    exact .inl ⟨(found, later), _, _, _, rfl, rfl, rfl, gives, kept world linked⟩

end Seat.Agree

structure Pattern.Finds (pattern : Pattern World α) (tokens : Tokens)
    (Genuine : Found α → Prop) : Prop where
  scans : ∀ place hit, (pattern.scan tokens place).Gives (some hit) → Genuine (hit.at place)
  asks : ∀ place memory found later,
    (pattern.finder.ask tokens place memory).Gives (some found, later) → Genuine found

theorem Pattern.finds_something (pattern : Pattern World α) (tokens : Tokens) :
    pattern.Finds tokens fun _ => True :=
  ⟨fun _ _ _ => trivial, fun _ _ _ _ _ => trivial⟩

namespace Move

variable {size position : Nat} {Genuine : Found α → Prop}

def Emits (Genuine : Found α → Prop) : Move α size position → Prop
  | .emit start stop value _ _ _ => Genuine ⟨start, stop, value⟩
  | _ => True

theorem emits_ofFound {found : Found α} (genuine : Genuine found) :
    (ofFound position found : Move α size position).Emits Genuine := by
  unfold ofFound
  split
  · trivial
  · split
    · trivial
    · split
      · trivial
      · split
        · have start : (found.start.toNat : Int) = found.start := by omega
          have stop : (found.stop.toNat : Int) = found.stop := by omega
          simpa only [Emits, start, stop] using genuine
        · trivial

theorem emits_ofScan (size position : Nat) {hit : Option (Hit α)}
    (genuine : ∀ found, hit = some found → Genuine (found.at position)) :
    (ofScan position hit : Move α size position).Emits Genuine := by
  cases hit with
  | none => trivial
  | some hit => exact emits_ofFound (genuine hit rfl)

theorem emits_ofSearch {found : Option (Found α)}
    (genuine : ∀ first, found = some first → Genuine first) :
    (ofSearch position found : Move α size position).Emits Genuine := by
  cases found with
  | none => trivial
  | some found => exact emits_ofFound (genuine found rfl)

end Move

namespace Separation

def Continues (Related : β → γ → First → Second → Prop) :
    ForInStep β → ForInStep γ → First → Second → Prop
  | .yield state, .yield result, first, second => Related state result first second
  | _, _, _, _ => False

/-- An invariant of two loops, by the place that their segments have come to and whether the last
segment was unmatched, and the bodies that keep it. -/
structure Related (tokens : Tokens) (Genuine : Found α → Prop)
    (Failed : Fault → First → Second → Prop)
    (Inv : Nat → Bool → β → γ → First → Second → Prop)
    (body : Segment α → β → Eff First (ForInStep β))
    (other : Segment α → γ → Eff Second (ForInStep γ)) : Prop where
  unmatched : ∀ start stop state result, start < stop → stop ≤ tokens.size →
    Eff.Relates (Inv start false state result) (Continues (Inv stop true)) Failed
      (body (.unmatched (tokens.slice start stop) start) state)
      (other (.unmatched (tokens.slice start stop) start) result)
  matched : ∀ start stop value afterUnmatched state result, start < stop → stop ≤ tokens.size →
    Genuine ⟨start, stop, value⟩ →
    Eff.Relates (Inv start afterUnmatched state result) (Continues (Inv stop false)) Failed
      (body (.matched value start stop) state) (other (.matched value start stop) result)
  fails : ∀ place state result fault first second, Inv place false state result first second →
    Failed fault first second

namespace Related

variable {tokens : Tokens} {Genuine : Found α → Prop}
  {Failed : Fault → First → Second → Prop} {Inv : Nat → Bool → β → γ → First → Second → Prop}
  {body : Segment α → β → Eff First (ForInStep β)}
  {other : Segment α → γ → Eff Second (ForInStep γ)} {state : β} {result : γ}

theorem emitUnmatched (related : Related tokens Genuine Failed Inv body other) {pending stop : Nat}
    (ordered : pending ≤ stop) (inside : stop ≤ tokens.size) :
    Eff.Relates (Inv pending false state result)
      (Continues fun state result first second =>
        ∃ afterUnmatched, Inv stop afterUnmatched state result first second) Failed
      (emitUnmatched tokens pending stop state body)
      (emitUnmatched tokens pending stop result other) := by
  unfold Separation.emitUnmatched
  by_cases nonempty : pending < stop
  · rw [if_pos nonempty, if_pos nonempty]
    refine (related.unmatched pending stop state result nonempty inside).weaken
      (fun _ _ inv => inv) ?_ (fun _ _ _ failed => failed)
    intro step following first second continues
    cases step <;> cases following
    case yield.yield => exact ⟨true, continues⟩
    all_goals exact continues
  · have same : pending = stop := by omega
    rw [if_neg nonempty, if_neg nonempty, ← same]
    exact .pure fun _ _ inv => ⟨false, inv⟩

theorem andThen {Middle : β → γ → First → Second → Prop} {Before : First → Second → Prop}
    {After : δ → ε → First → Second → Prop} {step : Eff First (ForInStep β)}
    {following : Eff Second (ForInStep γ)} {next : ForInStep β → Eff First δ}
    {afterwards : ForInStep γ → Eff Second ε}
    (relates : Eff.Relates Before (Continues Middle) Failed step following)
    (later : ∀ state result, Eff.Relates (Middle state result) After Failed
      (next (.yield state)) (afterwards (.yield result))) :
    Eff.Relates Before After Failed (step >>= next) (following >>= afterwards) := by
  refine relates.bind fun value result => ?_
  intro first second continues
  cases value <;> cases result
  case yield.yield => exact later _ _ first second continues
  all_goals exact continues.elim

theorem emit (related : Related tokens Genuine Failed Inv body other) {pending start stop : Nat}
    {value : α} (ordered : pending ≤ start) (consumes : start < stop)
    (inside : stop ≤ tokens.size) (genuine : Genuine ⟨start, stop, value⟩) :
    Eff.Relates (Inv pending false state result) (Continues (Inv stop false)) Failed
      (emit tokens pending start stop value state body)
      (emit tokens pending start stop value result other) := by
  refine andThen (related.emitUnmatched ordered (by omega)) fun state result => ?_
  rintro first second ⟨afterUnmatched, inv⟩
  exact related.matched start stop value afterUnmatched state result consumes inside genuine first
    second inv

theorem finish (related : Related tokens Genuine Failed Inv body other) {pending : Nat}
    (inside : pending ≤ tokens.size) :
    Eff.Relates (Inv pending false state result)
      (fun state result first second =>
        ∃ afterUnmatched, Inv tokens.size afterUnmatched state result first second) Failed
      (finish tokens pending state body) (finish tokens pending result other) :=
  andThen (related.emitUnmatched inside (Nat.le_refl _)) fun _ _ => .pure fun _ _ inv => inv

variable {S T : Type} {pattern : Pattern First α} {copy : Pattern Second α}

theorem walk (related : Related tokens Genuine Failed Inv body other)
    (labels : pattern.label = copy.label)
    {ask : (position : Nat) → S → Eff First (Move α tokens.size position × S)}
    {askToo : (position : Nat) → T → Eff Second (Move α tokens.size position × T)}
    (convey : S → T)
    (asks : ∀ position asked pending state result,
      Eff.Relates (Inv pending false state result)
        (fun answer same first second =>
          same = (answer.1, convey answer.2) ∧ answer.1.Emits Genuine ∧
            Inv pending false state result first second)
        (fun _ => Inv pending false state result)
        (ask position asked) (askToo position (convey asked)))
    (asked : S) {pending position : Nat} (ordered : pending ≤ position)
    (inside : pending ≤ tokens.size) (state : β) (result : γ) :
    Eff.Relates (Inv pending false state result)
      (fun state result first second =>
        ∃ afterUnmatched, Inv tokens.size afterUnmatched state result first second) Failed
      (walk pattern tokens ask body asked pending position state)
      (walk copy tokens askToo other (convey asked) pending position result) := by
  induction position using forwards tokens.size generalizing asked pending state result with
  | step position later =>
      rw [Separation.walk, Separation.walk]
      by_cases unfinished : position < tokens.size
      · rw [if_pos unfinished, if_pos unfinished]
        have answers := (asks position asked pending state result).weaken (fun _ _ inv => inv)
          (fun _ _ _ _ answered => answered)
          (fun fault _ _ inv => related.fails pending state result fault _ _ inv)
        -- Both walks stand at one place, the second with what `convey` makes of the memory.
        refine answers.bind ?_
        rintro ⟨move, asked⟩ _ world now ⟨rfl, emits, inv⟩
        cases move with
        | finish => exact related.finish inside world now inv
        | skip next forward =>
            exact later unfinished next forward asked (by omega) inside state result world now inv
        | emit start stop value reached consumes within =>
            refine andThen (related.emit (by omega) consumes within emits) ?_ world now inv
            intro state result
            exact later unfinished stop (by omega) asked (Nat.le_refl stop) within state result
        | outside offset place beyond =>
            simp only [outside, labels]
            refine Eff.Relates.throw (fun _ _ => ?_) world now inv
            exact related.fails pending state result _ _ _
      · rw [if_neg unfinished, if_neg unfinished]
        exact related.finish inside

theorem searching (related : Related tokens Genuine Failed Inv body other)
    (pattern : Pattern First α) (copy : Pattern Second α) (labels : pattern.label = copy.label)
    (convey : pattern.finder.Memory → copy.finder.Memory)
    (asks : ∀ position memory pending state result,
      Eff.Relates (Inv pending false state result)
        (fun answer same first second =>
          same = (answer.1, convey answer.2) ∧ (∀ found, answer.1 = some found → Genuine found) ∧
            Inv pending false state result first second)
        (fun _ => Inv pending false state result)
        (pattern.finder.ask tokens position memory)
        (copy.finder.ask tokens position (convey memory)))
    (memory : pattern.finder.Memory) {offset : Nat} (inside : offset ≤ tokens.size) (state : β)
    (result : γ) :
    Eff.Relates (Inv offset false state result)
      (fun state result first second =>
        ∃ afterUnmatched, Inv tokens.size afterUnmatched state result first second) Failed
      (searching pattern tokens body memory offset offset state)
      (searching copy tokens other (convey memory) offset offset result) := by
  rw [searching_eq_walk, searching_eq_walk]
  refine related.walk labels convey (fun position memory pending state result => ?_) memory
    (Nat.le_refl offset) inside state result
  refine ((asks position memory pending state result).leaving .generator).bind ?_
  rintro answer _ world now ⟨rfl, genuine, inv⟩
  exact .inl ⟨_, _, world, now, rfl, rfl, rfl, Move.emits_ofSearch genuine, inv⟩

/-- A pattern at two places that agree gives two loops the same segments. -/
theorem run (related : Related tokens Genuine Failed Inv body other) (seat : Seat World First)
    (place : Seat World Second) {pattern : Pattern World α}
    (finds : pattern.Finds tokens Genuine)
    (agree : ∀ pending state result, seat.Agree (Inv pending false state result) place)
    {offset : Nat} (inside : offset ≤ tokens.size) (state : β) (result : γ) :
    Eff.Relates (Inv offset false state result)
      (fun state result first second =>
        ∃ afterUnmatched, Inv tokens.size afterUnmatched state result first second) Failed
      (Separation.run ⟨pattern.seated seat, tokens, offset⟩ state body)
      (Separation.run ⟨pattern.seated place, tokens, offset⟩ result other) := by
  have fails fault first second := related.fails offset state result fault first second
  obtain ⟨label, scan, reach⟩ := pattern
  cases reach with
  | scanOnly =>
      show Eff.Relates _ _ _ (scanning _ tokens body offset offset state)
        (scanning _ tokens other offset offset result)
      rw [scanning_eq_walk, scanning_eq_walk]
      refine related.walk rfl id (fun position asked pending state result => ?_) ()
        (Nat.le_refl offset) inside state result
      have scans := (agree pending state result).act (.scan position) (scan tokens position)
      refine (Eff.Relates.leaving scans .generator).bind ?_
      rintro answer _ world now ⟨rfl, gives, inv⟩
      have emits := Move.emits_ofScan tokens.size position
        fun hit same => finds.scans position hit (same ▸ gives)
      exact .inl ⟨_, _, world, now, rfl, rfl, rfl, emits, inv⟩
  | searchable search =>
      refine related.searching (.seated seat ⟨label, scan, .searchable search⟩)
        (.seated place ⟨label, scan, .searchable search⟩) rfl (fun memory => memory)
        (fun position memory pending state result => ?_) () inside state result
      refine ((agree pending state result).ask_search search tokens position memory).weaken
        (fun _ _ inv => inv) ?_ fun _ _ _ inv => inv
      rintro ⟨answer, later⟩ _ world now ⟨rfl, gives, inv⟩
      exact ⟨rfl, fun found same => finds.asks position memory found later (same ▸ gives), inv⟩
  | incremental search finder =>
      have starts := (agree offset state result).act .begin (finder.start tokens)
      refine ((Eff.Relates.leaving starts .generator).weaken (fun _ _ inv => inv)
        (fun _ _ _ _ answered => answered) fails).bind ?_
      rintro _ memory world now ⟨rfl, -, inv⟩
      refine related.searching (.seated seat ⟨label, scan, .incremental search finder⟩)
        (.seated place ⟨label, scan, .incremental search finder⟩) rfl (fun memory => memory)
        (fun position memory pending state result => ?_) memory inside state result world now inv
      refine ((agree pending state result).ask_finder finder tokens position memory).weaken
        (fun _ _ inv => inv) ?_ fun _ _ _ inv => inv
      rintro ⟨answer, later⟩ _ world now ⟨rfl, gives, inv⟩
      exact ⟨rfl, fun found same => finds.asks position memory found later (same ▸ gives), inv⟩

end Related

end Separation

end SpanEdit
