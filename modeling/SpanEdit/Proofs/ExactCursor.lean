import SpanEdit.Pattern.Regex
import SpanEdit.Proofs.Exact
import SpanEdit.Regex.Machine

/-!
Regular expressions are exact. The pending match of a cursor is the first one from some place on,
and that place does not lie behind the offset from which the cursor goes on.
-/

namespace SpanEdit.Regex

variable {World : Type} {regex : Regex} {tokens : Tokens}

def verdict (regex : Regex) (tokens : Tokens) : Verdicts Match := fun place =>
  .ok ((regex.match? tokens place).map hit)

theorem first_searchFrom? (place : Nat) :
    First (regex.verdict tokens) tokens.size place
      ((regex.searchFrom? tokens place).map found) := by
  fun_induction searchFrom? regex tokens place with
  | case1 place inside first here =>
      have start := matchAt?_start here
      have same : found first = (hit first).at place := by rw [found, hit, Hit.at, start]
      simp only [Option.map, same]
      refine .found (Nat.le_refl place) inside (Misses.empty (Nat.le_refl place)) ?_
      rw [verdict, match?, Nat.min_eq_left inside, here]
      rfl
  | case2 place inside none ih =>
      refine ih.earlier ?_
      rw [verdict, match?, Nat.min_eq_left inside, none]
      rfl
  | case3 place outside => exact .absent (Misses.empty (by omega))

/-- A search may begin further on, as long as it does not pass over the match. -/
theorem searchFrom?_later {place offset : Nat} (ordered : place ≤ offset)
    (ahead : ∀ first, regex.searchFrom? tokens place = some first → offset ≤ first.start) :
    regex.searchFrom? tokens place = regex.searchFrom? tokens offset := by
  fun_induction searchFrom? regex tokens place with
  | case1 place inside first here =>
      have start := matchAt?_start here
      have reached := ahead first rfl
      have same : offset = place := by omega
      rw [same, searchFrom?, if_pos inside, here]
  | case2 place inside none ih =>
      by_cases same : offset = place
      · rw [same, searchFrom?.eq_def regex tokens place, if_pos inside, none]
      · exact ih (by omega) ahead
  | case3 place outside => rw [searchFrom?, if_neg (by omega)]

theorem searchFrom?_stop {place : Nat} {first : Match}
    (searched : regex.searchFrom? tokens place = some first) : first.stop ≤ tokens.size := by
  fun_induction searchFrom? regex tokens place with
  | case1 place inside match_ here =>
      rw [← Option.some.inj searched, ← matchAt?_subject here]
      exact match_.stop_le_size
  | case2 place inside none ih => exact ih searched
  | case3 place outside => cases searched

namespace Cursor

/-- The pending match is the first one from a place on that does not lie behind the offset from
which the cursor goes on, and the pass goes on behind the match. -/
def Valid (regex : Regex) (tokens : Tokens) (cursor : Cursor) : Prop :=
  ∃ place, place ≤ tokens.size ∧ place ≤ cursor.resumed ∧
    cursor.pending = regex.searchFrom? tokens place ∧
    ∀ found, cursor.pending = some found → cursor.pass = .after tokens place found.stop

theorem Valid.of_next {pass later : Pass} {pending : Option Match} {place resumed : Nat}
    (stands : pass.place = some place) (inside : place ≤ tokens.size) (reached : place ≤ resumed)
    (stepped : pass.next regex tokens = (pending, later)) :
    Valid regex tokens ⟨later, pending, resumed⟩ := by
  simp only [Pass.next, stands] at stepped
  refine ⟨place, inside, reached, ?_⟩
  rcases searched : regex.searchFrom? tokens place with _ | first <;> rw [searched] at stepped <;>
    cases stepped
  · exact ⟨rfl, by simp⟩
  · refine ⟨rfl, fun found same => ?_⟩
    rw [Option.some.inj same]

theorem valid_start {offset : Nat} (inside : offset ≤ tokens.size) :
    Valid regex tokens (start regex tokens offset) := by
  have stands : (Pass.start tokens offset).place = some offset :=
    congrArg some (Nat.min_eq_left inside)
  exact .of_next stands inside (Nat.le_refl offset) rfl

/-- The pass goes on behind the pending match, and not behind where a search does. -/
theorem Valid.goesOn {cursor : Cursor} (valid : Valid regex tokens cursor) {first : Match}
    (pending : cursor.pending = some first) {offset : Nat} (before : first.start < offset)
    (inside : offset ≤ tokens.size) :
    ∃ place, cursor.pass.place = some place ∧ first.stop ≤ place ∧ place ≤ resumption first ∧
      place ≤ tokens.size := by
  obtain ⟨place, -, -, searched, passes⟩ := valid
  rw [pending] at searched
  have ordered := (searchFrom?_start searched.symm).1
  have extent := first.start_le_stop
  have within := searchFrom?_stop searched.symm
  -- A pass is over only after a match that it found from the end of the input.
  have unfinished : place ≠ tokens.size := by omega
  rw [passes first pending, Pass.after, if_neg unfinished]
  unfold resumption
  by_cases still : first.stop = place
  · rw [if_pos still]
    refine ⟨place + 1, rfl, ?_, ?_, ?_⟩
    · omega
    · split <;> omega
    · omega
  · rw [if_neg still]
    refine ⟨first.stop, rfl, Nat.le_refl _, ?_, within⟩
    split <;> omega

theorem Valid.step {cursor : Cursor} (valid : Valid regex tokens cursor) {first : Match}
    (pending : cursor.pending = some first) {offset : Nat} (before : first.start < offset)
    (inside : offset ≤ tokens.size) {next : Option Match} {later : Pass}
    (stepped : cursor.pass.next regex tokens = (next, later)) :
    Valid regex tokens ⟨later, next, resumption first⟩ := by
  obtain ⟨place, stands, -, reached, within⟩ := valid.goesOn pending before inside
  exact .of_next stands within reached stepped

theorem Valid.stepTo {cursor : Cursor} (valid : Valid regex tokens cursor) {offset : Nat}
    (reached : cursor.resumed ≤ offset) (inside : offset ≤ tokens.size) {later : Cursor}
    (stepped : cursor.stepTo? regex tokens offset = some later) :
    Valid regex tokens later ∧ later.resumed ≤ offset ∧
      ∀ first, later.pending = some first → offset ≤ first.start := by
  fun_induction stepTo? regex tokens offset cursor with
  | case1 cursor pending =>
      cases stepped
      exact ⟨valid, reached, by simp [pending]⟩
  | case2 => cases stepped
  | case3 cursor first pending before passed pass next =>
      cases stepped
      exact ⟨valid.step pending before inside next, by simpa using passed, by simp⟩
  | case4 cursor first pending before passed next pass step ih =>
      exact ih (valid.step pending before inside step) (by simpa using passed) stepped
  | case5 cursor first pending ahead =>
      cases stepped
      refine ⟨valid, reached, fun other same => ?_⟩
      rw [pending] at same
      cases same
      exact Nat.le_of_not_lt ahead

def settle (regex : Regex) (tokens : Tokens) (offset : Nat) (memory : Option Cursor) : Cursor :=
  let cursor :=
    match memory with
    | some cursor => if isBehind (some cursor) offset then start regex tokens offset else cursor
    | none => start regex tokens offset
  (cursor.stepTo? regex tokens offset).getD (start regex tokens offset)

theorem find_eq (offset : Nat) (memory : Option Cursor) (world : World) :
    find regex (fun _ world => world) tokens offset (memory, world) =
      (.ok (settle regex tokens offset memory).pending, some (settle regex tokens offset memory),
        world) := by
  unfold find settle
  rcases memory with _ | cursor
  · simp only [Eff.bind_apply, Eff.get_apply, restart]
    cases (start regex tokens offset).stepTo? regex tokens offset <;> rfl
  · by_cases behind : isBehind (some cursor) offset
    · simp only [Eff.bind_apply, Eff.get_apply, restart, behind, ↓reduceIte]
      cases (start regex tokens offset).stepTo? regex tokens offset <;> rfl
    · simp only [Eff.bind_apply, Eff.get_apply, behind, Bool.false_eq_true, ↓reduceIte, pure_bind]
      cases cursor.stepTo? regex tokens offset <;> rfl

theorem Valid.pending_eq {cursor : Cursor} (valid : Valid regex tokens cursor) {offset : Nat}
    (reached : cursor.resumed ≤ offset)
    (ahead : ∀ first, cursor.pending = some first → offset ≤ first.start) :
    cursor.pending = regex.searchFrom? tokens offset := by
  obtain ⟨place, -, before, searched, -⟩ := valid
  rw [searched] at ahead ⊢
  exact searchFrom?_later (Nat.le_trans before reached) ahead

theorem pending_start {offset : Nat} (inside : offset ≤ tokens.size) :
    (start regex tokens offset).pending = regex.searchFrom? tokens offset := by
  simp only [start, Pass.next, Pass.start, Nat.min_eq_left inside]
  cases regex.searchFrom? tokens offset <;> rfl

/-- Stepping to the offset, or beginning a new pass there, comes to the first match. -/
theorem Valid.reach {cursor : Cursor} (valid : Valid regex tokens cursor) {offset : Nat}
    (reached : cursor.resumed ≤ offset) (inside : offset ≤ tokens.size) {settled : Cursor}
    (same : (cursor.stepTo? regex tokens offset).getD (start regex tokens offset) = settled) :
    Valid regex tokens settled ∧ settled.pending = regex.searchFrom? tokens offset := by
  subst same
  cases stepped : cursor.stepTo? regex tokens offset with
  | none => exact ⟨valid_start inside, pending_start inside⟩
  | some later =>
      obtain ⟨laterValid, laterReached, ahead⟩ := valid.stepTo reached inside stepped
      exact ⟨laterValid, laterValid.pending_eq laterReached ahead⟩

/-- A cursor answers what a search from the offset on would answer that remembers nothing. -/
theorem valid_settle {offset : Nat} (inside : offset ≤ tokens.size) {memory : Option Cursor}
    (valid : ∀ cursor, memory = some cursor → Valid regex tokens cursor) :
    Valid regex tokens (settle regex tokens offset memory) ∧
      (settle regex tokens offset memory).pending = regex.searchFrom? tokens offset := by
  have begun : Valid regex tokens (start regex tokens offset) := valid_start inside
  rcases memory with _ | cursor
  · exact begun.reach (Nat.le_refl offset) inside rfl
  · by_cases behind : isBehind (some cursor) offset
    · exact begun.reach (Nat.le_refl offset) inside (by simp [settle, behind])
    · have reached : cursor.resumed ≤ offset := by simpa [isBehind] using behind
      exact (valid cursor rfl).reach reached inside (by simp [settle, behind])

end Cursor

def Remembers (regex : Regex) (tokens : Tokens) (memory : Option Cursor) : Prop :=
  ∀ cursor, memory = some cursor → Cursor.Valid regex tokens cursor

theorem sustains_find {offset : Nat} (inside : offset ≤ tokens.size) (world : World) :
    Eff.Sustains (fun state => regex.Remembers tokens state.1 ∧ state.2 = world)
      (regex.pattern.finder.find tokens offset)
      fun outcome => outcome = .ok ((regex.searchFrom? tokens offset).map found) := by
  rintro ⟨(memory : Option Cursor), now⟩ ⟨valid, same⟩
  obtain ⟨settled, pending⟩ := Cursor.valid_settle inside valid
  have answered : regex.pattern.finder.find tokens offset (memory, now) =
      (.ok ((Cursor.settle regex tokens offset memory).pending.map found),
        some (Cursor.settle regex tokens offset memory), now) := by
    show (do return (← Cursor.find regex (fun _ world => world) tokens offset).map found :
      Eff (Option Cursor × World) (Option (Found Match))) (memory, now) = _
    rw [Eff.bind_apply, Cursor.find_eq]
    rfl
  rw [answered, pending]
  refine ⟨⟨fun cursor same => ?_, same⟩, rfl⟩
  rw [← Option.some.inj same]
  exact settled

theorem start_of_sameKind (sameKind : tokens.kind = regex.source.kind)
    (observe : Call → World → World) (world : World) :
    (regex.observed observe).finder.start tokens world = (.ok none, world) := by
  refine (requireKind_return regex.source.kind tokens none world).trans ?_
  rw [if_pos sameKind]
  rfl

theorem start_of_otherKind (otherKind : tokens.kind ≠ regex.source.kind)
    (observe : Call → World → World) (world : World) :
    (regex.observed observe).finder.start tokens world =
      (.error (.kindMismatch regex.source.kind tokens.kind), world) := by
  refine (requireKind_return regex.source.kind tokens none world).trans ?_
  rw [if_neg otherKind]
  rfl

theorem exact_pattern (sameKind : tokens.kind = regex.source.kind) :
    (regex.pattern : Pattern World Match).Exact tokens (regex.verdict tokens) where
  scans place _ world := by
    simp only [pattern, observed, requireKind, sameKind, ↓reduceIte, pure_bind]
    rfl
  prompt := .of_total fun _ _ _ => by simp [verdict]
  reports _ _ _ := by simp [verdict]
  finds := by
    refine ⟨regex.Remembers tokens, ⟨none, by simp [Remembers], start_of_sameKind sameKind _⟩,
      fun offset inside world => ?_⟩
    refine (sustains_find inside world).weaken ?_
    rintro _ rfl
    exact (first_searchFrom? offset).leftmost fun _ _ => rfl

theorem search_apply (sameKind : tokens.kind = regex.source.kind) {offset : Nat}
    (inside : offset ≤ tokens.size) (world : World) :
    (regex.pattern : Pattern World Match).search tokens offset world =
      (.ok ((regex.searchFrom? tokens offset).map found), world) := by
  refine (requireKind_return regex.source.kind tokens ((regex.search? tokens offset).map found)
    world).trans ?_
  rw [if_pos sameKind, search?, Nat.min_eq_left inside]

theorem sustains_finds {offsets : List Nat} (inside : ∀ offset ∈ offsets, offset ≤ tokens.size)
    (world : World) :
    Eff.Sustains (fun state => regex.Remembers tokens state.1 ∧ state.2 = world)
      (offsets.mapM (regex.pattern.finder.find tokens))
      fun outcome =>
        outcome = .ok (offsets.map fun offset => (regex.searchFrom? tokens offset).map found) := by
  induction offsets with
  | nil => exact .pure rfl
  | cons offset others ih =>
      have others_inside : ∀ other ∈ others, other ≤ tokens.size := fun other member =>
        inside other (List.mem_cons_of_mem offset member)
      rw [List.mapM_cons]
      refine (sustains_find (inside offset List.mem_cons_self) world).bind ?_ nofun
      intro answer answered
      cases answered
      refine (ih others_inside).map _ ?_
      rintro _ rfl
      rfl

theorem searches_apply (sameKind : tokens.kind = regex.source.kind) {offsets : List Nat}
    (inside : ∀ offset ∈ offsets, offset ≤ tokens.size) (world : World) :
    offsets.mapM ((regex.pattern : Pattern World Match).search tokens) world =
      (.ok (offsets.map fun offset => (regex.searchFrom? tokens offset).map found), world) := by
  induction offsets with
  | nil => rfl
  | cons offset others ih =>
      have others_inside : ∀ other ∈ others, other ≤ tokens.size := fun other member =>
        inside other (List.mem_cons_of_mem offset member)
      have answered := search_apply sameKind (inside offset List.mem_cons_self) world
      rw [List.mapM_cons, Eff.bind_ok answered, Eff.bind_ok (ih others_inside)]
      rfl

/-- A finder answers any sequence of questions as searches do that remember nothing, and neither
is made for an input of the other kind. -/
theorem finder_answers_searches (regex : Regex) (tokens : Tokens) {offsets : List Nat}
    (inside : ∀ offset ∈ offsets, offset ≤ tokens.size) (world : World) :
    (tokens.kind = regex.source.kind →
      ∃ memory later, regex.pattern.finder.start tokens world = (.ok memory, world) ∧
        offsets.mapM (regex.pattern.finder.find tokens) (memory, world) =
          (.ok (offsets.map fun offset => (regex.searchFrom? tokens offset).map found),
            later, world) ∧
        offsets.mapM (regex.pattern.search tokens) world =
          (.ok (offsets.map fun offset => (regex.searchFrom? tokens offset).map found), world)) ∧
    (tokens.kind ≠ regex.source.kind →
      let mismatch := Fault.kindMismatch regex.source.kind tokens.kind
      regex.pattern.finder.start tokens world = (.error mismatch, world) ∧
        ∀ offset, regex.pattern.search tokens offset world = (.error mismatch, world)) := by
  constructor
  · intro sameKind
    have begun : regex.pattern.finder.start tokens world = (.ok none, world) :=
      start_of_sameKind sameKind _ world
    obtain ⟨⟨-, unchanged⟩, answered⟩ :=
      @sustains_finds World regex tokens offsets inside world (none, world)
        ⟨by simp [Remembers], rfl⟩
    rcases finds : offsets.mapM (regex.pattern.finder.find tokens) (none, world) with
      ⟨outcome, later, now⟩
    rw [finds] at answered unchanged
    cases answered
    cases unchanged
    exact ⟨none, later, begun, finds, searches_apply sameKind inside _⟩
  · intro otherKind
    have refused : requireKind regex.source.kind tokens world =
        (.error (.kindMismatch regex.source.kind tokens.kind), world) := by
      rw [requireKind, if_neg otherKind]
      rfl
    exact ⟨Eff.bind_error refused _, fun offset => Eff.bind_error refused _⟩

def letters : Regex :=
  ofProgram (.ofString "b*") false ⟨#[.accept, .split 2 0, .char 98 1], 1, 0⟩ []

/-- Questions that go backwards, are repeated and lie inside an earlier match. -/
theorem finder_answers_backwards :
    compile (.ofString "b*") false = .ok letters ∧
    (∀ offset ∈ [2, 0, 1, 1, 3], offset ≤ (Tokens.ofString "abb").size) ∧
    ∃ memory later answers,
      letters.pattern.finder.start (.ofString "abb") () = (.ok memory, ()) ∧
      [2, 0, 1, 1, 3].mapM (letters.pattern.finder.find (.ofString "abb")) (memory, ()) =
        (.ok answers, later, ()) ∧
      [2, 0, 1, 1, 3].mapM (letters.pattern.search (.ofString "abb")) () = (.ok answers, ()) ∧
      answers.map (Option.map fun found => (found.start, found.stop)) =
        [some (2, 3), some (0, 0), some (1, 3), some (1, 3), some (3, 3)] := by
  have compiled : compile (.ofString "b*") false = .ok letters := by with_unfolding_all rfl
  have inside : ∀ offset ∈ [2, 0, 1, 1, 3], offset ≤ (Tokens.ofString "abb").size := by decide
  obtain ⟨memory, later, begun, found, searched⟩ :=
    (finder_answers_searches letters (.ofString "abb") inside ()).1 rfl
  refine ⟨compiled, inside, memory, later, _, begun, found, searched, ?_⟩
  cbv

end SpanEdit.Regex
