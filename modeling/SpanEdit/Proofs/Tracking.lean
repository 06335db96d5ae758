import SpanEdit.Proofs.Composite
import SpanEdit.Proofs.Tree

/-!
A recorded pattern beside the pattern itself. Both find the same, and what the finder remembers
tells from which offset on it may be asked so that no leaf scans where it has scanned before.
-/

namespace SpanEdit

variable {World Own Plain α β : Type}

def Calls.Sound (origin size : Nat) (leaves : Nat → Prop) (calls : Calls) : Prop :=
  ∀ leaf, leaves leaf → Ahead origin size size (calls.offsets leaf)

/-- From states that are related before, both actions come to one outcome and one world. What is
written down is only about these leaves, and sound after a fault. -/
def Eff.Records (origin size : Nat) (leaves : Nat → Prop) (Before : Calls → Own → Plain → Prop)
    (After : α → Calls → Own → Plain → Prop) (action : Eff (Own × Calls × World) α)
    (other : Eff (Plain × World) α) : Prop :=
  ∀ calls own plain world, Before calls own plain →
    (∃ value now kept left after,
      action (own, calls, world) = (.ok value, kept, now, after) ∧
      other (plain, world) = (.ok value, left, after) ∧
      Calls.Beside leaves calls now ∧ After value now kept left) ∨
    ∃ fault now kept left after,
      action (own, calls, world) = (.error fault, kept, now, after) ∧
      other (plain, world) = (.error fault, left, after) ∧
      Calls.Beside leaves calls now ∧ Calls.Sound origin size leaves now

namespace Eff.Records

variable {origin size : Nat} {leaves : Nat → Prop} {Before : Calls → Own → Plain → Prop}
  {Middle : α → Calls → Own → Plain → Prop} {After : β → Calls → Own → Plain → Prop}

theorem pure {value : α} (related : ∀ calls own plain, Before calls own plain →
      Middle value calls own plain) :
    Records origin size leaves Before Middle (Pure.pure value : Eff (Own × Calls × World) α)
      (Pure.pure value) :=
  fun calls own plain world before => .inl ⟨value, calls, own, plain, world, rfl, rfl,
    .refl leaves calls, related calls own plain before⟩

theorem bind {action : Eff (Own × Calls × World) α} {other : Eff (Plain × World) α}
    {next : α → Eff (Own × Calls × World) β} {following : α → Eff (Plain × World) β}
    (first : Records origin size leaves Before Middle action other)
    (later : ∀ value, Records origin size leaves (Middle value) After (next value)
      (following value)) :
    Records origin size leaves Before After (action >>= next) (other >>= following) := by
  intro calls own plain world before
  rcases first calls own plain world before with
    ⟨value, now, kept, left, after, ran, same, beside, middle⟩ |
    ⟨fault, now, kept, left, after, ran, same, beside, sound⟩
  · rw [Eff.bind_ok ran, Eff.bind_ok same]
    rcases later value now kept left after middle with
      ⟨result, last, kept, left, after, ran, same, apart, final⟩ |
      ⟨fault, last, kept, left, after, ran, same, apart, sound⟩
    · exact .inl ⟨result, last, kept, left, after, ran, same, beside.trans apart, final⟩
    · exact .inr ⟨fault, last, kept, left, after, ran, same, beside.trans apart, sound⟩
  · exact .inr ⟨fault, now, kept, left, after, Eff.bind_error ran next,
      Eff.bind_error same following, beside, sound⟩

theorem weaken {Stronger : Calls → Own → Plain → Prop} {Weaker : α → Calls → Own → Plain → Prop}
    {action : Eff (Own × Calls × World) α} {other : Eff (Plain × World) α}
    (records : Records origin size leaves Before Middle action other)
    (before : ∀ calls own plain, Stronger calls own plain → Before calls own plain)
    (after : ∀ value calls own plain, Middle value calls own plain →
      Weaker value calls own plain) :
    Records origin size leaves Stronger Weaker action other := by
  intro calls own plain world stronger
  rcases records calls own plain world (before calls own plain stronger) with
    ⟨value, now, kept, left, rest, ran, same, beside, middle⟩ | failed
  · exact .inl ⟨value, now, kept, left, rest, ran, same, beside, after value now kept left middle⟩
  · exact .inr failed

theorem knowing {known : Prop} {action : Eff (Own × Calls × World) α}
    {other : Eff (Plain × World) α}
    (records : known → Records origin size leaves Before Middle action other) :
    Records origin size leaves (fun calls own plain => known ∧ Before calls own plain) Middle
      action other :=
  fun calls own plain world ⟨holds, before⟩ => records holds calls own plain world before

theorem map {action : Eff (Own × Calls × World) α} {other : Eff (Plain × World) α}
    (records : Records origin size leaves Before Middle action other) (change : α → β)
    (after : ∀ value calls own plain, Middle value calls own plain →
      After (change value) calls own plain) :
    Records origin size leaves Before After (do return change (← action))
      (do return change (← other)) :=
  records.bind fun value => .pure fun calls own plain => after value calls own plain

/-- An action that writes nothing down. -/
theorem silent (sound : ∀ calls own plain, Before calls own plain →
      Calls.Sound origin size leaves calls) (action : Eff World α) :
    Records origin size leaves Before (fun _ => Before)
      (action.besideMemory : Eff (Calls × World) α).besideMemory action.besideMemory := by
  intro calls own plain world before
  simp only [besideMemory, within]
  rcases action world with ⟨fault | value, after⟩
  · exact .inr ⟨fault, calls, own, plain, after, rfl, rfl, .refl leaves calls,
      sound calls own plain before⟩
  · exact .inl ⟨value, calls, own, plain, after, rfl, rfl, .refl leaves calls, before⟩

end Eff.Records

/-- After an answer a finder may be asked from behind the occurrence on, and at the end of the input
if there is none. -/
def Rests (size : Nat) (Ready : Nat → Prop) : Option (Found α) → Prop
  | none => Ready size
  | some found => ∀ next : Nat, found.start < next → Ready next

theorem Rests.exists_ready {size : Nat} {Ready : Nat → Prop} {answer : Option (Found α)}
    (rests : Rests size Ready answer) : ∃ next, Ready next := by
  cases answer with
  | none => exact ⟨size, rests⟩
  | some found => exact ⟨found.start.toNat + 1, rests _ (by omega)⟩

theorem Rests.imp {size : Nat} {Ready Other : Nat → Prop} {answer : Option (Found α)}
    (rests : Rests size Ready answer) (implies : ∀ next, Ready next → Other next) :
    Rests size Other answer := by
  cases answer with
  | none => exact implies size rests
  | some found => exact fun next further => implies next (rests next further)

theorem Rests.of_forall {size : Nat} {Ready : Nat → Prop} (ready : ∀ next, Ready next)
    (answer : Option (Found α)) : Rests size Ready answer := by
  cases answer with
  | none => exact ready size
  | some found => exact fun next _ => ready next

def NotBefore (offset : Nat) (answer : Option (Found α)) : Prop :=
  ∀ found, answer = some found → (offset : Int) ≤ found.start

theorem NotBefore.none (offset : Nat) : NotBefore offset (none : Option (Found α)) := nofun

/-- What is remembered is ready from an offset on. That lasts, other leaves have no part in it, and
under it what is written down is sound. -/
structure Readiness (origin size : Nat) (leaves : Nat → Prop)
    (Ready : Nat → Calls → Own → Plain → Prop) : Prop where
  later : ∀ calls kept left {next further : Nat}, next ≤ further →
    Ready next calls kept left → Ready further calls kept left
  apart : ∀ kept left {next : Nat} {others : Nat → Prop} {before calls : Calls},
    (∀ leaf, leaves leaf → ¬others leaf) → Calls.Beside others before calls →
    Ready next before kept left → Ready next calls kept left
  sound : ∀ calls kept left {next : Nat}, Ready next calls kept left →
    calls.Sound origin size leaves

theorem Readiness.of_no_leaf {origin size : Nat} (Valid : Own → Plain → Prop) :
    Readiness origin size (fun _ => False) fun _ _ => Valid where
  later _ _ _ _ _ _ valid := valid
  apart _ _ _ _ _ _ _ _ valid := valid
  sound _ _ _ _ _ _ := False.elim

/-- The finder of a recorded pattern beside the finder of the pattern. While it is ready for an
offset, it may be asked there. -/
structure Finder.Tracked (own : Finder (Calls × World) α) (plain : Finder World α) (tokens : Tokens)
    (origin : Nat) (leaves : Nat → Prop)
    (Ready : Nat → Calls → own.Memory → plain.Memory → Prop) : Prop where
  readiness : Readiness origin tokens.size leaves Ready
  starts : ∀ (calls : Calls) (world : World), (∀ leaf, leaves leaf → calls.offsets leaf = []) →
    (∃ kept left after, own.start tokens (calls, world) = (.ok kept, calls, after) ∧
      plain.start tokens world = (.ok left, after) ∧ Ready origin calls kept left) ∨
    ∃ fault after, own.start tokens (calls, world) = (.error fault, calls, after) ∧
      plain.start tokens world = (.error fault, after)
  finds : ∀ {offset : Nat}, origin ≤ offset → offset < tokens.size →
    Eff.Records origin tokens.size leaves (Ready offset)
      (fun answer calls kept left => NotBefore offset answer ∧
        Rests tokens.size (fun next => Ready next calls kept left) answer)
      (own.find tokens offset) (plain.find tokens offset)

/-- Where the finder is ready, a scan of the recorded pattern answers as one of the pattern, and the
finder is ready for the next offset. -/
def Pattern.ScansAlike (own : Pattern (Calls × World) α) (plain : Pattern World α) (tokens : Tokens)
    (origin : Nat) (leaves : Nat → Prop) (Ready : Nat → Calls → Own → Plain → Prop) : Prop :=
  ∀ {offset : Nat}, origin ≤ offset → offset < tokens.size → ∀ calls kept left world,
    Ready offset calls kept left → ∃ outcome now after,
      own.scan tokens offset (calls, world) = (outcome, now, after) ∧
      plain.scan tokens offset world = (outcome, after) ∧
      Calls.Beside leaves calls now ∧ Ready (offset + 1) now kept left

structure Pattern.Tracked (own : Pattern (Calls × World) α) (plain : Pattern World α)
    (tokens : Tokens) (origin : Nat) (leaves : Nat → Prop) : Prop where
  label : own.label = plain.label
  searches : own.searches = plain.searches
  finder : ∃ Ready, own.finder.Tracked plain.finder tokens origin leaves Ready ∧
    (own.searches = false → own.ScansAlike plain tokens origin leaves Ready)

variable {tokens : Tokens} {origin : Nat} {leaves : Nat → Prop}

theorem records_firstFrom {Ready : Nat → Calls → Own → Plain → Prop}
    {size : Nat} (readiness : Readiness origin size leaves Ready)
    {attempt : Nat → Eff (Own × Calls × World) (Option (Found α))}
    {other : Nat → Eff (Plain × World) (Option (Found α))}
    (attempts : ∀ {place : Nat}, origin ≤ place → place < size →
      Eff.Records origin size leaves (Ready place)
        (fun answer calls kept left =>
          (∀ found : Found α, answer = some found → found.start = place) ∧
          Ready (place + 1) calls kept left) (attempt place) (other place))
    {offset : Nat} (above : origin ≤ offset) (inside : offset ≤ size) :
    Eff.Records origin size leaves (Ready offset)
      (fun answer calls kept left => NotBefore offset answer ∧
        Rests size (fun next => Ready next calls kept left) answer)
      (firstFrom size attempt offset) (firstFrom size other offset) := by
  induction offset using forwards size with
  | step offset ih =>
      rw [firstFrom, firstFrom.eq_def size other]
      by_cases unfinished : offset < size
      · rw [if_pos unfinished, if_pos unfinished]
        refine (attempts above unfinished).bind fun answer => ?_
        cases answer with
        | none =>
            have later := ih unfinished (offset + 1) (Nat.lt_succ_self offset) (by omega) unfinished
            refine later.weaken (fun _ _ _ before => before.2) fun answer calls kept left after =>
              ⟨?_, after.2⟩
            intro found answered
            have ahead := after.1 found answered
            omega
        | some found =>
            refine .pure fun calls kept left after => ?_
            have start := after.1 found rfl
            refine ⟨?_, fun next further =>
              readiness.later calls kept left (by omega) after.2⟩
            rintro _ ⟨⟩
            omega
      · have ended : offset = size := by omega
        rw [if_neg unfinished, if_neg unfinished]
        exact .pure fun calls kept left ready => ⟨.none offset, ended ▸ ready⟩

theorem besideMemory_firstFrom {Memory : Type} (limit : Nat)
    (attempt : Nat → Eff World (Option α)) (position : Nat) :
    (firstFrom limit attempt position).besideMemory =
      (firstFrom limit (fun place => (attempt place).besideMemory) position :
        Eff (Memory × World) (Option α)) := by
  induction position using forwards limit with
  | step position ih =>
      rw [firstFrom, firstFrom.eq_def limit fun place => (attempt place).besideMemory]
      split
      · rename_i unfinished
        have next := ih unfinished (position + 1) (Nat.lt_succ_self position)
        funext outer
        rw [Eff.bind_apply, ← next]
        simp only [Eff.besideMemory, Eff.within, Eff.bind_apply]
        rcases attempt position outer.2 with ⟨fault | _ | answer, after⟩ <;> rfl
      · rfl

theorem First.notBefore {scan : Verdicts α} {size offset : Nat} {answer : Option (Found α)}
    (first : First scan size offset answer) : NotBefore offset answer := by
  cases first with
  | absent => exact .none offset
  | found ordered =>
      rintro _ ⟨⟩
      exact Int.ofNat_le.mpr ordered

/-- A scan leaves every memory beside it alone. -/
theorem Pattern.ScansAlike.beside {own : Pattern (Calls × World) α} {plain : Pattern World α}
    {Ready : Nat → Calls → Own → Plain → Prop}
    (alike : own.ScansAlike plain tokens origin leaves Ready)
    (readiness : Readiness origin tokens.size leaves Ready)
    {offset : Nat} (above : origin ≤ offset) (inside : offset < tokens.size) (calls : Calls)
    (kept : Own) (left : Plain) (world : World) (ready : Ready offset calls kept left)
    {Mine Yours : Type} (mine : Mine) (yours : Yours) :
    (∃ hit now after,
      (own.scan tokens offset).besideMemory (mine, calls, world) = (.ok hit, mine, now, after) ∧
      (plain.scan tokens offset).besideMemory (yours, world) = (.ok hit, yours, after) ∧
      Calls.Beside leaves calls now ∧ Ready (offset + 1) now kept left) ∨
    ∃ fault now after,
      (own.scan tokens offset).besideMemory (mine, calls, world) =
        (.error fault, mine, now, after) ∧
      (plain.scan tokens offset).besideMemory (yours, world) = (.error fault, yours, after) ∧
      Calls.Beside leaves calls now ∧ Calls.Sound origin tokens.size leaves now := by
  obtain ⟨outcome, now, after, ran, same, beside, ready⟩ :=
    alike above inside calls kept left world ready
  simp only [Eff.besideMemory, Eff.within, ran, same]
  cases outcome with
  | ok hit => exact .inl ⟨hit, now, after, rfl, rfl, beside, ready⟩
  | error fault =>
      exact .inr ⟨fault, now, after, rfl, rfl, beside, readiness.sound now kept left ready⟩

namespace Pattern.Tracked

theorem leaf (label : Label) (number : Nat) (scan : Tokens → Nat → Eff World (Option (Hit α))) :
    Tracked ⟨label, recordedScan number scan, .scanOnly⟩ ⟨label, scan, .scanOnly⟩ tokens origin
      (· = number) where
  label := rfl
  searches := rfl
  finder := by
    let Ready (next : Nat) (calls : Calls) (_ _ : Unit) : Prop :=
      Calls.Ahead origin tokens.size next (calls.offsets number)
    have readiness : Readiness origin tokens.size (· = number) Ready := by
      constructor
      case later => exact fun _ _ _ _ _ forward ready => Calls.Ahead.later ready forward
      case apart =>
        intro _ _ next others before calls disjoint beside ready
        show Calls.Ahead _ _ _ _
        rw [beside number (disjoint number rfl)]
        exact ready
      case sound =>
        rintro calls _ _ next ready _ rfl
        exact Calls.Ahead.whole ready
    have scans : Pattern.ScansAlike ⟨label, recordedScan number scan, .scanOnly⟩
        ⟨label, scan, .scanOnly⟩ tokens origin (· = number) Ready := by
      intro offset above inside calls kept left world ready
      refine ⟨_, calls ++ [(number, offset)], _, rfl, rfl, fun other different =>
        calls.offsets_push_of_ne different offset, ?_⟩
      show Calls.Ahead _ _ _ _
      rw [calls.offsets_push number offset]
      exact Calls.Ahead.push ready above inside
    refine ⟨Ready, ⟨readiness, ?_, ?_⟩, fun _ => scans⟩
    · intro calls world fresh
      refine .inl ⟨(), (), world, rfl, rfl, ?_⟩
      show Calls.Ahead _ _ _ _
      rw [fresh number rfl]
      exact .nil _ _ _
    · intro offset above inside
      show Eff.Records _ _ _ _ _ (firstFrom _ _ _).besideMemory (firstFrom _ _ _).besideMemory
      rw [besideMemory_firstFrom, besideMemory_firstFrom]
      refine records_firstFrom readiness ?_ above inside.le
      intro place above inside calls own plain world ready
      simp only [Eff.besideMemory_map]
      rcases scans.beside readiness above inside calls own plain world ready own plain with
        ⟨hit, now, after, ran, same, beside, ready⟩ | ⟨fault, now, after, ran, same, beside, sound⟩
      · refine .inl ⟨_, now, own, plain, after, Eff.bind_ok ran _, Eff.bind_ok same _, beside,
          fun found is => ?_, ready⟩
        obtain ⟨_, -, rfl⟩ := Option.map_eq_some_iff.mp is
        rfl
      · exact .inr ⟨fault, now, own, plain, after, Eff.bind_error ran _, Eff.bind_error same _,
          beside, sound⟩

theorem literal (literal : Literal) :
    Tracked (literal.pattern : Pattern (Calls × World) Tokens) literal.pattern tokens origin
      fun _ => False where
  label := rfl
  searches := rfl
  finder := by
    refine ⟨fun _ _ _ _ => True, ⟨.of_no_leaf fun _ _ => True, ?_, ?_⟩, nofun⟩
    · exact fun _ world _ => .inl ⟨(), (), world, rfl, rfl, trivial⟩
    · intro offset above inside calls own plain world _
      have searched {Inner Memory : Type} (memory : Memory) (world : Inner) :
          (literal.pattern.search tokens offset).besideMemory (memory, world) =
            (if tokens.kind = literal.value.kind then .ok (literal.search? tokens offset)
              else .error (.kindMismatch literal.value.kind tokens.kind), memory, world) :=
        congrArg (fun run => (run.1, memory, run.2))
          (requireKind_return literal.value.kind tokens (literal.search? tokens offset) world)
      by_cases sameKind : tokens.kind = literal.value.kind
      · simp only [if_pos sameKind] at searched
        exact .inl ⟨literal.search? tokens offset, calls, own, plain, world,
          searched own (calls, world), searched plain world, .refl _ _,
          (literal.first_search? sameKind offset).notBefore, .of_forall (fun _ => trivial) _⟩
      · simp only [if_neg sameKind] at searched
        exact .inr ⟨.kindMismatch literal.value.kind tokens.kind, calls, own, plain, world,
          searched own (calls, world), searched plain world, .refl _ _, fun _ => False.elim⟩

theorem regex (regex : Regex) :
    Tracked (regex.pattern : Pattern (Calls × World) Regex.Match) regex.pattern tokens origin
      fun _ => False where
  label := rfl
  searches := rfl
  finder := by
    let Valid (kept left : Option Regex.Cursor) : Prop :=
      tokens.kind = regex.source.kind ∧ regex.Remembers tokens kept ∧ regex.Remembers tokens left
    refine ⟨fun _ _ => Valid, ⟨.of_no_leaf Valid, ?_, ?_⟩, nofun⟩
    · intro calls world _
      by_cases sameKind : tokens.kind = regex.source.kind
      · exact .inl ⟨none, none, world, Regex.start_of_sameKind sameKind _ (calls, world),
          Regex.start_of_sameKind sameKind _ world, sameKind, nofun, nofun⟩
      · exact .inr ⟨.kindMismatch regex.source.kind tokens.kind, world,
          Regex.start_of_otherKind sameKind _ (calls, world),
          Regex.start_of_otherKind sameKind _ world⟩
    · rintro offset above inside calls own plain world ⟨sameKind, kept, left⟩
      have recorded := regex.sustains_find inside.le (calls, world) (own, calls, world) ⟨kept, rfl⟩
      have unrecorded := regex.sustains_find inside.le world (plain, world) ⟨left, rfl⟩
      rcases ran : regex.pattern.finder.find tokens offset (own, calls, world) with
        ⟨outcome, later, now⟩
      rcases same : regex.pattern.finder.find tokens offset (plain, world) with
        ⟨other, last, after⟩
      rw [ran] at recorded
      rw [same] at unrecorded
      obtain ⟨⟨kept, (unchanged : now = (calls, world))⟩, (answered : outcome = _)⟩ := recorded
      obtain ⟨⟨left, (still : after = world)⟩, (replied : other = _)⟩ := unrecorded
      subst unchanged answered still replied
      exact .inl ⟨_, calls, later, last, after, rfl, rfl, .refl _ _,
        (Regex.first_searchFrom? offset).notBefore, .of_forall (fun _ => ⟨sameKind, kept, left⟩) _⟩

end Pattern.Tracked

theorem Rests.congr {size : Nat} {Ready : Nat → Prop} {answer : Option (Found α)}
    {other : Option (Found β)} (starts : other.map (·.start) = answer.map (·.start))
    (rests : Rests size Ready answer) : Rests size Ready other := by
  rcases answer with _ | found <;> rcases other with _ | same
  · exact rests
  · cases starts
  · cases starts
  · intro next further
    have place : same.start = found.start := Option.some.inj starts
    exact rests next (by rwa [← place])

/-- The answers of a finder are changed, and they stay where they are. -/
theorem Finder.Tracked.change {own : Finder (Calls × World) α} {plain : Finder World α}
    {Ready : Nat → Calls → own.Memory → plain.Memory → Prop}
    (tracked : own.Tracked plain tokens origin leaves Ready)
    {next : Tokens → Option (Found α) →
      Eff (own.Memory × Calls × World) (Option (Found β))}
    {following : Tokens → Option (Found α) → Eff (plain.Memory × World) (Option (Found β))}
    (stays : ∀ answer {Before : Calls → own.Memory → plain.Memory → Prop},
      (∀ calls kept left, Before calls kept left → calls.Sound origin tokens.size leaves) →
      Eff.Records origin tokens.size leaves Before
        (fun result calls kept left => result.map (·.start) = answer.map (·.start) ∧
          Before calls kept left) (next tokens answer) (following tokens answer)) :
    Finder.Tracked
      ⟨own.Memory, own.start, fun tokens offset => own.find tokens offset >>= next tokens⟩
      ⟨plain.Memory, plain.start, fun tokens offset =>
        plain.find tokens offset >>= following tokens⟩ tokens origin leaves Ready where
  readiness := tracked.readiness
  starts := tracked.starts
  finds {offset} above inside := by
    refine (tracked.finds above inside).bind fun answer => ?_
    refine (stays answer ?_).weaken (fun _ _ _ before => before) ?_
    · rintro calls kept left ⟨-, rests⟩
      obtain ⟨next, ready⟩ := rests.exists_ready
      exact tracked.readiness.sound calls kept left ready
    · rintro result calls kept left ⟨starts, ahead, rests⟩
      refine ⟨fun found is => ?_, rests.congr starts⟩
      subst is
      obtain ⟨first, answered, same⟩ := Option.map_eq_some_iff.mp starts.symm
      exact (ahead first answered).trans_eq same

namespace Pattern

theorem finder_mapValues (pattern : Pattern World α) (change : α → β) :
    (pattern.mapValues change).finder = pattern.finder.mapValues change := by
  obtain ⟨label, scan, reach⟩ := pattern
  cases reach with
  | scanOnly =>
      let pattern : Pattern World α := ⟨label, scan, .scanOnly⟩
      show Finder.mk Unit _ (fun tokens offset =>
        ((pattern.mapValues change).probe tokens offset).besideMemory) = Finder.mk _ _ _
      congr 1
      funext tokens offset
      rw [probe_mapValues]
      exact Eff.besideMemory_map _ _
  | searchable search =>
      show Finder.mk Unit _ _ = Finder.mk _ _ _
      congr 1
      funext tokens offset
      exact Eff.besideMemory_map _ _
  | incremental search finder => rfl

namespace Tracked

variable {own : Pattern (Calls × World) α} {plain : Pattern World α}

theorem captured (tracked : own.Tracked plain tokens origin leaves) :
    own.captured.Tracked plain.captured tokens origin leaves where
  label := congrArg Label.captured tracked.label
  searches := rfl
  finder := by
    obtain ⟨Ready, finder, -⟩ := tracked.finder
    refine ⟨Ready, finder.change ?_, nofun⟩
    intro answer Before sound
    exact .pure fun calls kept left before => ⟨by cases answer <;> rfl, before⟩

theorem mapped (tracked : own.Tracked plain tokens origin leaves) (change : α → Eff World β)
    (name : Option String) :
    (own.mapped (fun value => (change value).besideMemory) name).Tracked
      (plain.mapped change name) tokens origin leaves where
  label := congrArg (Label.mapped · name) tracked.label
  searches := rfl
  finder := by
    obtain ⟨Ready, finder, -⟩ := tracked.finder
    refine ⟨Ready, finder.change ?_, nofun⟩
    intro answer Before sound
    cases answer with
    | none => exact .pure fun calls kept left before => ⟨rfl, before⟩
    | some found =>
        let place (value : β) : Option (Found β) := some ⟨found.start, found.stop, value⟩
        show Eff.Records _ _ _ _ _
          (Eff.besideMemory (do return place (← (change found.value).besideMemory)))
          (Eff.besideMemory (do return place (← change found.value)))
        rw [Eff.besideMemory_map, Eff.besideMemory_map]
        exact (Eff.Records.silent sound (change found.value)).map _
          fun _ calls kept left before => ⟨rfl, before⟩

theorem mapValues (tracked : own.Tracked plain tokens origin leaves) (change : α → β) :
    (own.mapValues change).Tracked (plain.mapValues change) tokens origin leaves where
  label := tracked.label
  searches := by rw [searches_mapValues, searches_mapValues, tracked.searches]
  finder := by
    obtain ⟨Ready, finder, scans⟩ := tracked.finder
    rw [finder_mapValues, finder_mapValues]
    refine ⟨Ready, finder.change ?_, ?_⟩
    · intro answer Before sound
      exact .pure fun calls kept left before => ⟨by cases answer <;> rfl, before⟩
    · intro scansOnly offset above inside calls kept left world ready
      rw [searches_mapValues] at scansOnly
      obtain ⟨outcome, now, after, ran, same, beside, ready⟩ :=
        scans scansOnly above inside calls kept left world ready
      refine ⟨outcome.map (Option.map (·.map change)), now, after, ?_, ?_, beside, ready⟩
      · simp only [Pattern.mapValues, Eff.bind_apply, ran]
        cases outcome <;> rfl
      · simp only [Pattern.mapValues, Eff.bind_apply, same]
        cases outcome <;> rfl

theorem labelled (tracked : own.Tracked plain tokens origin leaves) (label : Label) :
    (own.labelled label).Tracked (plain.labelled label) tokens origin leaves where
  label := rfl
  searches := tracked.searches
  finder := tracked.finder

end Tracked

end Pattern

end SpanEdit
