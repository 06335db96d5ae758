import SpanEdit.Proofs.Tracking

/-!
Choices of recorded alternatives. What an alternative answered last is kept until the offset has
come past the occurrence, and by then the alternative may be asked again.
-/

namespace SpanEdit

variable {World Own Plain α β : Type} {origin size : Nat}

namespace LastAnswer

/-- What is kept of a recorded alternative, beside what is kept of the alternative. One that can
only scan is never asked. -/
structure Tracked (searches : Bool) (size : Nat) (Ready : Nat → Calls → Own → Plain → Prop)
    (next : Nat) (calls : Calls) (kept : LastAnswer Own α) (left : LastAnswer Plain α) : Prop where
  asked : kept.asked = left.asked
  answer : kept.answer = left.answer
  unasked : searches = false → kept.asked = none
  fresh : kept.asked = none → Ready next calls kept.memory left.memory
  spent : ∀ asked, kept.asked = some asked → asked ≤ next ∧
    Rests size (fun next => Ready next calls kept.memory left.memory) kept.answer

namespace Tracked

variable {searches : Bool} {Ready : Nat → Calls → Own → Plain → Prop} {offset : Nat}
  {calls : Calls} {kept : LastAnswer Own α} {left : LastAnswer Plain α} {leaves : Nat → Prop}

theorem unanswered {kept : Own} {left : Plain} (ready : Ready offset calls kept left) :
    Tracked searches size Ready offset calls (⟨kept, none, none⟩ : LastAnswer Own α)
      ⟨left, none, none⟩ where
  asked := rfl
  answer := rfl
  unasked _ := rfl
  fresh _ := ready
  spent := nofun

theorem answered {kept : Own} {left : Plain} {answer : Option (Found α)}
    (rests : Rests size (fun next => Ready next calls kept left) answer) :
    Tracked true size Ready offset calls ⟨kept, some offset, answer⟩
      ⟨left, some offset, answer⟩ where
  asked := rfl
  answer := rfl
  unasked := nofun
  fresh := nofun
  spent := by
    rintro _ ⟨⟩
    exact ⟨Nat.le_refl offset, rests⟩

theorem exists_ready (tracked : Tracked searches size Ready offset calls kept left) :
    ∃ next, Ready next calls kept.memory left.memory := by
  rcases before : kept.asked with _ | asked
  · exact ⟨offset, tracked.fresh before⟩
  · exact (tracked.spent asked before).2.exists_ready

theorem readiness (ready : Readiness origin size leaves Ready) :
    Readiness origin size leaves
      (Tracked searches size Ready (α := α)) where
  later calls kept left next further forward tracked :=
    { tracked with
      fresh := fun unasked => ready.later _ _ _ forward (tracked.fresh unasked)
      spent := fun asked is => by
        obtain ⟨before, rests⟩ := tracked.spent asked is
        exact ⟨Nat.le_trans before forward, rests⟩ }
  apart kept left next others before calls disjoint beside tracked :=
    { tracked with
      fresh := fun unasked => ready.apart _ _ disjoint beside (tracked.fresh unasked)
      spent := fun asked is => by
        obtain ⟨before, rests⟩ := tracked.spent asked is
        exact ⟨before, rests.imp fun next => ready.apart _ _ disjoint beside⟩ }
  sound calls kept left next tracked := by
    obtain ⟨next, is⟩ := tracked.exists_ready
    exact ready.sound _ _ _ is

theorem isStale_eq (tracked : Tracked searches size Ready offset calls kept left) :
    kept.isStale offset = left.isStale offset := by
  rw [isStale, isStale, tracked.asked, tracked.answer]

/-- A stale answer is behind the offset, so its finder may be asked there. -/
theorem ready_of_stale (tracked : Tracked searches size Ready offset calls kept left)
    (stale : kept.isStale offset = true) : Ready offset calls kept.memory left.memory := by
  rcases before : kept.asked with _ | asked
  · exact tracked.fresh before
  · obtain ⟨reached, rests⟩ := tracked.spent asked before
    have notBefore : ¬offset < asked := Nat.not_lt.mpr reached
    simp only [isStale, before, notBefore, decide_false, Bool.false_or] at stale
    rcases answered : kept.answer with _ | found <;> rw [answered] at stale rests
    · cases stale
    · exact rests offset (of_decide_eq_true stale)

end Tracked

theorem notBefore_of_fresh {kept : LastAnswer Own α} {offset : Nat}
    (fresh : kept.isStale offset = false) : NotBefore offset kept.answer := by
  intro found answered
  rcases before : kept.asked with _ | asked
  · simp [isStale, before] at fresh
  · simp only [isStale, before, answered, Bool.or_eq_false_iff, decide_eq_false_iff_not] at fresh
    omega

theorem records_ask {own : Finder (Calls × World) α} {plain : Finder World α} {tokens : Tokens}
    {leaves : Nat → Prop} {Ready : Nat → Calls → own.Memory → plain.Memory → Prop}
    (finder : own.Tracked plain tokens origin leaves Ready) {searches : Bool}
    (asks : searches = true) {offset : Nat} (above : origin ≤ offset)
    (inside : offset < tokens.size) :
    Eff.Records origin tokens.size leaves (Tracked searches tokens.size Ready offset)
      (fun answer calls kept left => NotBefore offset answer ∧
        Tracked searches tokens.size Ready offset calls kept left)
      (ask (own.find tokens) offset) (ask (plain.find tokens) offset) := by
  subst asks
  intro calls kept left world tracked
  simp only [ask, ← tracked.isStale_eq]
  by_cases stale : kept.isStale offset = true
  · simp only [stale, ↓reduceIte]
    rcases finder.finds above inside calls kept.memory left.memory world
        (tracked.ready_of_stale stale) with
      ⟨answer, now, more, rest, after, ran, same, beside, ahead, rests⟩ |
      ⟨fault, now, more, rest, after, ran, same, beside, sound⟩
    · rw [ran, same]
      exact .inl ⟨answer, now, _, _, after, rfl, rfl, beside, ahead, .answered rests⟩
    · rw [ran, same]
      exact .inr ⟨fault, now, _, _, after, rfl, rfl, beside, sound⟩
  · have fresh : kept.isStale offset = false := Bool.eq_false_iff.mpr stale
    simp only [fresh, Bool.false_eq_true, ↓reduceIte, ← tracked.answer]
    exact .inl ⟨kept.answer, calls, kept, left, world, rfl, rfl, .refl _ _,
      notBefore_of_fresh fresh, tracked⟩

end LastAnswer

namespace Choice

section Parts

variable {Mine Yours Rest Others : Type} {leaves more : Nat → Prop}
  {Ready : Nat → Calls → Mine → Yours → Prop} {Beside : Nat → Calls → Rest → Others → Prop}

theorem readiness_both (first : Readiness origin size leaves Ready)
    (rest : Readiness origin size more Beside) :
    Readiness origin size (fun leaf => leaves leaf ∨ more leaf)
      fun next calls (kept : Mine × Rest) (left : Yours × Others) =>
        Ready next calls kept.1 left.1 ∧ Beside next calls kept.2 left.2 where
  later calls kept left next further forward both :=
    ⟨first.later _ _ _ forward both.1, rest.later _ _ _ forward both.2⟩
  apart kept left next others before calls disjoint beside both :=
    ⟨first.apart _ _ (fun leaf own => disjoint leaf (.inl own)) beside both.1,
      rest.apart _ _ (fun leaf own => disjoint leaf (.inr own)) beside both.2⟩
  sound calls kept left next both := by
    rintro leaf (own | other)
    · exact first.sound _ _ _ both.1 leaf own
    · exact rest.sound _ _ _ both.2 leaf other

/-- An action on the first alternative leaves the others as they are. -/
theorem records_onFirst {Before : Calls → Mine → Yours → Prop}
    {After : β → Calls → Mine → Yours → Prop} {action : Eff (Mine × Calls × World) β}
    {other : Eff (Yours × World) β}
    (records : Eff.Records origin size leaves Before After action other)
    (rest : Readiness origin size more Beside) (disjoint : ∀ leaf, more leaf → ¬leaves leaf)
    (next : Nat) :
    Eff.Records origin size (fun leaf => leaves leaf ∨ more leaf)
      (fun calls (kept : Mine × Rest) (left : Yours × Others) =>
        Before calls kept.1 left.1 ∧ Beside next calls kept.2 left.2)
      (fun value calls kept left =>
        After value calls kept.1 left.1 ∧ Beside next calls kept.2 left.2)
      (onFirst action) (onFirst other) := by
  rintro calls ⟨kept, remains⟩ ⟨left, others⟩ world ⟨before, theirs⟩
  simp only [onFirst, Eff.within]
  rcases records calls kept left world before with
    ⟨value, now, held, last, after, ran, same, beside, holds⟩ |
    ⟨fault, now, held, last, after, ran, same, beside, sound⟩ <;>
    rw [ran, same] <;> have stays := rest.apart _ _ disjoint beside theirs
  · exact .inl ⟨value, now, _, _, after, rfl, rfl, beside.widen fun _ => .inl, holds, stays⟩
  · refine .inr ⟨fault, now, _, _, after, rfl, rfl, beside.widen fun _ => .inl, ?_⟩
    rintro leaf (own | other)
    · exact sound leaf own
    · exact rest.sound _ _ _ stays leaf other

/-- An action on the other alternatives leaves the first one as it is. -/
theorem records_onRest {Before : Calls → Rest → Others → Prop}
    {After : β → Calls → Rest → Others → Prop} {action : Eff (Rest × Calls × World) β}
    {other : Eff (Others × World) β}
    (records : Eff.Records origin size more Before After action other)
    (first : Readiness origin size leaves Ready) (disjoint : ∀ leaf, leaves leaf → ¬more leaf)
    (next : Nat) :
    Eff.Records origin size (fun leaf => leaves leaf ∨ more leaf)
      (fun calls (kept : Mine × Rest) (left : Yours × Others) =>
        Ready next calls kept.1 left.1 ∧ Before calls kept.2 left.2)
      (fun value calls kept left =>
        Ready next calls kept.1 left.1 ∧ After value calls kept.2 left.2)
      (onRest action) (onRest other) := by
  rintro calls ⟨kept, remains⟩ ⟨left, others⟩ world ⟨mine, before⟩
  simp only [onRest, Eff.within]
  rcases records calls remains others world before with
    ⟨value, now, held, last, after, ran, same, beside, holds⟩ |
    ⟨fault, now, held, last, after, ran, same, beside, sound⟩ <;>
    rw [ran, same] <;> have stays := first.apart _ _ disjoint beside mine
  · exact .inl ⟨value, now, _, _, after, rfl, rfl, beside.widen fun _ => .inr, stays, holds⟩
  · refine .inr ⟨fault, now, _, _, after, rfl, rfl, beside.widen fun _ => .inr, ?_⟩
    rintro leaf (own | other)
    · exact first.sound _ _ _ stays leaf own
    · exact sound leaf other

end Parts

structure Tracked (owns : List (Pattern (Calls × World) α)) (plains : List (Pattern World α))
    (tokens : Tokens) (origin : Nat) (leaves : Nat → Prop)
    (Ready : Nat → Calls → Answers owns → Answers plains → Prop) : Prop where
  labels : owns.map (·.label) = plains.map (·.label)
  searches : owns.all (·.searches) = plains.all (·.searches)
  readiness : Readiness origin tokens.size leaves Ready
  starts : ∀ (calls : Calls) (world : World), (∀ leaf, leaves leaf → calls.offsets leaf = []) →
    (∃ kept left after, start tokens owns (calls, world) = (.ok kept, calls, after) ∧
      start tokens plains world = (.ok left, after) ∧ Ready origin calls kept left) ∨
    ∃ fault after, start tokens owns (calls, world) = (.error fault, calls, after) ∧
      start tokens plains world = (.error fault, after)
  decides : ∀ {offset : Nat}, origin ≤ offset → offset < tokens.size →
    Eff.Records origin tokens.size leaves (Ready offset)
      (fun answer calls kept left => (∀ found : Found α, answer = some found →
        found.start = offset) ∧ Ready (offset + 1) calls kept left)
      (decideAt tokens offset owns) (decideAt tokens offset plains)
  leftmost : owns.all (·.searches) = true → ∀ {offset : Nat}, origin ≤ offset →
    offset < tokens.size → ∀ {best : Option (Found α)}, NotBefore offset best →
    Eff.Records origin tokens.size leaves (Ready offset)
      (fun answer calls kept left => NotBefore offset answer ∧ Ready offset calls kept left)
      (leftmost tokens offset owns best) (leftmost tokens offset plains best)

namespace Tracked

variable {tokens : Tokens} {leaves more : Nat → Prop}

theorem nil : Tracked ([] : List (Pattern (Calls × World) α)) ([] : List (Pattern World α)) tokens
    origin (fun _ => False) fun _ _ _ _ => True where
  labels := rfl
  searches := rfl
  readiness := .of_no_leaf fun _ _ => True
  starts _ world _ := .inl ⟨(), (), world, rfl, rfl, trivial⟩
  decides _ _ := .pure fun _ _ _ _ => ⟨nofun, trivial⟩
  leftmost _ _ _ _ _ ahead := .pure fun _ _ _ _ => ⟨ahead, trivial⟩

section Cons

variable {own : Pattern (Calls × World) α} {plain : Pattern World α}
  {owns : List (Pattern (Calls × World) α)} {plains : List (Pattern World α)}
  {Ready : Nat → Calls → own.finder.Memory → plain.finder.Memory → Prop}
  {Theirs : Nat → Calls → Answers owns → Answers plains → Prop}

abbrev Both (size : Nat) (Ready : Nat → Calls → own.finder.Memory → plain.finder.Memory → Prop)
    (Theirs : Nat → Calls → Answers owns → Answers plains → Prop) (next : Nat) (calls : Calls)
    (kept : Answers (own :: owns)) (left : Answers (plain :: plains)) : Prop :=
  LastAnswer.Tracked own.searches size Ready next calls kept.1 left.1 ∧
    Theirs next calls kept.2 left.2

theorem records_askFirst
    (finder : own.finder.Tracked plain.finder tokens origin leaves Ready)
    (rest : Readiness origin tokens.size more Theirs)
    (disjoint : ∀ leaf, more leaf → ¬leaves leaf) (searches : own.searches = true) {offset : Nat}
    (above : origin ≤ offset) (inside : offset < tokens.size) :
    Eff.Records origin tokens.size (fun leaf => leaves leaf ∨ more leaf)
      (Both tokens.size Ready Theirs offset)
      (fun found calls kept left =>
        NotBefore offset found ∧ Both tokens.size Ready Theirs offset calls kept left)
      (onFirst (LastAnswer.ask (own.finder.find tokens) offset))
      (onFirst (LastAnswer.ask (plain.finder.find tokens) offset)) := by
  have asks := LastAnswer.records_ask finder searches above inside
  refine (records_onFirst asks rest disjoint offset).weaken (fun _ _ _ both => both) ?_
  rintro found calls kept left ⟨⟨ahead, mine⟩, theirs⟩
  exact ⟨ahead, mine, theirs⟩

/-- What is kept of an alternative that can only scan is ready for the next offset after a scan. -/
theorem records_scanFirst (finder : own.finder.Tracked plain.finder tokens origin leaves Ready)
    (alike : own.ScansAlike plain tokens origin leaves Ready)
    (rest : Readiness origin tokens.size more Theirs)
    (disjoint : ∀ leaf, more leaf → ¬leaves leaf) (scansOnly : own.searches = false) {offset : Nat}
    (above : origin ≤ offset) (inside : offset < tokens.size) :
    Eff.Records origin tokens.size (fun leaf => leaves leaf ∨ more leaf)
      (Both tokens.size Ready Theirs offset)
      (fun _ calls kept left =>
        LastAnswer.Tracked own.searches tokens.size Ready (offset + 1) calls kept.1 left.1 ∧
        Theirs offset calls kept.2 left.2)
      (own.scan tokens offset).besideMemory (plain.scan tokens offset).besideMemory := by
  rintro calls kept left world ⟨tracked, theirs⟩
  have unasked := tracked.unasked scansOnly
  rcases alike.beside finder.readiness above inside calls kept.1.memory left.1.memory world
      (tracked.fresh unasked) kept left with
    ⟨hit, now, after, ran, same, beside, ready⟩ |
    ⟨fault, now, after, ran, same, beside, sound⟩ <;>
    have stays := rest.apart _ _ disjoint beside theirs
  · refine .inl ⟨hit, now, kept, left, after, ran, same, beside.widen fun _ => .inl, ?_, stays⟩
    refine ⟨tracked.asked, tracked.answer, tracked.unasked, fun _ => ready, fun asked is => ?_⟩
    rw [unasked] at is
    cases is
  · refine .inr ⟨fault, now, kept, left, after, ran, same, beside.widen fun _ => .inl, ?_⟩
    rintro leaf (own | other)
    · exact sound leaf own
    · exact rest.sound _ _ _ stays leaf other

theorem records_decideFirst (first : own.Tracked plain tokens origin leaves)
    (finder : own.finder.Tracked plain.finder tokens origin leaves Ready)
    (scans : own.searches = false → own.ScansAlike plain tokens origin leaves Ready)
    (rest : Readiness origin tokens.size more Theirs)
    (disjoint : ∀ leaf, more leaf → ¬leaves leaf) {offset : Nat} (above : origin ≤ offset)
    (inside : offset < tokens.size) :
    Eff.Records origin tokens.size (fun leaf => leaves leaf ∨ more leaf)
      (Both tokens.size Ready Theirs offset)
      (fun answer calls kept left => (∀ found : Found α, answer = some found →
        found.start = offset) ∧
        LastAnswer.Tracked own.searches tokens.size Ready (offset + 1) calls kept.1 left.1 ∧
        Theirs offset calls kept.2 left.2)
      (decideFirst tokens offset own) (decideFirst tokens offset plain) := by
  unfold decideFirst
  rw [← first.searches]
  by_cases searches : own.searches = true
  · rw [if_pos searches, if_pos searches]
    refine (records_askFirst finder rest disjoint searches above inside).map
      (Option.filter fun first => first.start == (offset : Int)) ?_
    rintro answer calls kept left ⟨-, tracked, theirs⟩
    refine ⟨fun found is => ?_, ?_, theirs⟩
    · exact beq_iff_eq.mp (Option.filter_eq_some_iff.mp is).2
    · exact (LastAnswer.Tracked.readiness finder.readiness).later _ _ _ (Nat.le_succ offset)
        tracked
  · rw [if_neg searches, if_neg searches]
    have scansOnly : own.searches = false := Bool.eq_false_iff.mpr searches
    refine (records_scanFirst finder (scans scansOnly) rest disjoint scansOnly above inside).map
      (Option.map (·.at offset)) ?_
    intro hit calls kept left both
    refine ⟨fun found is => ?_, both⟩
    obtain ⟨_, -, rfl⟩ := Option.map_eq_some_iff.mp is
    rfl

theorem cons (first : own.Tracked plain tokens origin leaves)
    (rest : Tracked owns plains tokens origin more Theirs)
    (disjoint : ∀ leaf, leaves leaf → ¬more leaf) :
    ∃ Ready, Tracked (own :: owns) (plain :: plains) tokens origin
      (fun leaf => leaves leaf ∨ more leaf) Ready := by
  obtain ⟨Ready, finder, scans⟩ := first.finder
  have held : Readiness origin tokens.size leaves
      (LastAnswer.Tracked own.searches tokens.size Ready (α := α)) :=
    LastAnswer.Tracked.readiness finder.readiness
  refine ⟨Both tokens.size Ready Theirs, ?_⟩
  constructor
  case labels => rw [List.map_cons, List.map_cons, first.label, rest.labels]
  case searches => rw [List.all_cons, List.all_cons, first.searches, rest.searches]
  case readiness => exact readiness_both held rest.readiness
  case starts =>
    intro calls world fresh
    simp only [start, Eff.bind_apply]
    rcases finder.starts calls world (fun leaf is => fresh leaf (.inl is)) with
      ⟨kept, left, begun, ran, same, ready⟩ | ⟨fault, begun, ran, same⟩
    · rw [ran, same]
      rcases rest.starts calls begun (fun leaf is => fresh leaf (.inr is)) with
        ⟨more, others, after, ran, same, theirs⟩ | ⟨fault, after, ran, same⟩
      · simp only [ran, same]
        exact .inl ⟨_, _, after, rfl, rfl, .unanswered ready, theirs⟩
      · simp only [ran, same]
        exact .inr ⟨fault, after, rfl, rfl⟩
    · rw [ran, same]
      exact .inr ⟨fault, begun, rfl, rfl⟩
  case decides =>
    intro offset above inside
    rw [decideAt_cons, decideAt_cons]
    have decidesFirst := records_decideFirst first finder scans rest.readiness
      (fun leaf other own => disjoint leaf own other) above inside
    refine decidesFirst.bind fun found => ?_
    -- The first alternative is done with the offset here, the others are still asked about it.
    cases found with
    | none =>
        refine (records_onRest (rest.decides above inside) held disjoint (offset + 1)).weaken ?_ ?_
        · rintro calls kept left ⟨-, mine, theirs⟩
          exact ⟨mine, theirs⟩
        · rintro answer calls kept left ⟨mine, here, theirs⟩
          exact ⟨here, mine, theirs⟩
    | some found =>
        refine .pure ?_
        rintro calls kept left ⟨here, mine, theirs⟩
        exact ⟨here, mine, rest.readiness.later _ _ _ (Nat.le_succ offset) theirs⟩
  case leftmost =>
    intro searches offset above inside best ahead
    rw [List.all_cons, Bool.and_eq_true] at searches
    unfold Choice.leftmost
    refine (records_askFirst finder rest.readiness (fun leaf other own => disjoint leaf own other)
      searches.1 above inside).bind fun found => ?_
    refine .knowing fun farther => ?_
    have nearest : NotBefore offset (earlier best found) := by
      rcases earlier_eq_or best found with same | same <;> rw [same]
      · exact ahead
      · exact farther
    have goesOn : Eff.Records origin tokens.size (fun leaf => leaves leaf ∨ more leaf)
        (Both tokens.size Ready Theirs offset)
        (fun answer calls kept left =>
          NotBefore offset answer ∧ Both tokens.size Ready Theirs offset calls kept left)
        (onRest (Choice.leftmost tokens offset owns (earlier best found)))
        (onRest (Choice.leftmost tokens offset plains (earlier best found))) := by
      refine (records_onRest (rest.leftmost searches.2 above inside nearest) held disjoint
        offset).weaken (fun _ _ _ both => both) ?_
      rintro answer calls kept left ⟨mine, ahead, theirs⟩
      exact ⟨ahead, mine, theirs⟩
    rcases better : earlier best found with _ | first <;> rw [better] at goesOn nearest
    · exact goesOn
    · by_cases reached : first.start = offset
      · simp only [reached, ↓reduceIte]
        exact .pure fun calls kept left both => ⟨nearest, both⟩
      · simp only [reached, ↓reduceIte]
        exact goesOn

end Cons

/-- A choice of alternatives that are tracked. -/
theorem choice {owns : List (Pattern (Calls × World) α)} {plains : List (Pattern World α)}
    {Ready : Nat → Calls → Answers owns → Answers plains → Prop}
    (tracked : Tracked owns plains tokens origin leaves Ready) :
    (Pattern.choice owns).Tracked (.choice plains) tokens origin leaves where
  label := congrArg Label.choice tracked.labels
  searches := rfl
  finder := by
    refine ⟨Ready, ⟨tracked.readiness, tracked.starts, ?_⟩, nofun⟩
    intro offset above inside
    show Eff.Records _ _ _ _ _ (find owns tokens offset) (find plains tokens offset)
    unfold find
    rw [← tracked.searches]
    cases searches : owns.all (·.searches) with
    | true =>
        refine (tracked.leftmost searches above inside (.none offset)).weaken
          (fun _ _ _ ready => ready) ?_
        rintro answer calls kept left ⟨ahead, ready⟩
        refine ⟨ahead, ?_⟩
        cases answer with
        | none => exact tracked.readiness.later _ _ _ inside.le ready
        | some found =>
            intro next further
            have start := ahead found rfl
            exact tracked.readiness.later _ _ _ (by omega) ready
    | false =>
        exact records_firstFrom tracked.readiness tracked.decides above inside.le

end Tracked

end Choice

end SpanEdit
