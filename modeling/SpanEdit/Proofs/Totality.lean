import SpanEdit.Proofs.Course

/-!
Separation is total: whatever a pattern answers, and whatever its answers depend on, the segments
cover the input exactly or the pattern is reported for a place outside it, and it is reported only
for an answer that it gave. What a pattern answers is written down by a transcript.
-/

namespace SpanEdit

/-- A question to a pattern and its answer. The answer to a scan begins where it was asked. -/
structure Exchange (α : Type) where
  asked : Nat
  answer : Option (Found α)

namespace Exchange

variable {α : Type}

/-- The occurrence begins before the offset that was asked for, or consumes tokens beyond the end
of the input. -/
def Breaks (size : Nat) (exchange : Exchange α) : Prop :=
  ∃ found, exchange.answer = some found ∧
    (found.start < exchange.asked ∨
      (found.start < size ∧ found.start < found.stop ∧ (size : Int) < found.stop))

end Exchange

namespace Move

variable {α : Type} {size : Nat}

def isOutside {position : Nat} : Move α size position → Prop
  | outside _ _ _ => True
  | _ => False

theorem isOutside_ofFound (position : Nat) (found : Found α) :
    (ofFound position found : Move α size position).isOutside ↔
      (⟨position, some found⟩ : Exchange α).Breaks size := by
  simp only [Exchange.Breaks, Option.some.injEq, exists_eq_left', ofFound]
  split
  · simp only [isOutside, true_iff]
    exact .inl ‹_›
  · split
    · simp only [isOutside, false_iff]
      omega
    · split
      · simp only [isOutside, false_iff]
        omega
      · split
        · simp only [isOutside, false_iff]
          omega
        · simp only [isOutside, true_iff]
          omega

end Move

variable {World α : Type}

def Finder.transcribed (finder : Finder World α) : Finder (List (Exchange α) × World) α where
  Memory := finder.Memory
  start tokens := (finder.start tokens).besideMemory
  find tokens offset := fun (memory, exchanges, world) =>
    match finder.find tokens offset (memory, world) with
    | (.ok answer, memory, world) =>
        (.ok answer, memory, exchanges ++ [⟨offset, answer⟩], world)
    | (.error fault, memory, world) => (.error fault, memory, exchanges, world)

def Pattern.transcribed (pattern : Pattern World α) :
    Pattern (List (Exchange α) × World) α where
  label := pattern.label
  scan tokens offset := fun (exchanges, world) =>
    match pattern.scan tokens offset world with
    | (.ok hit, world) => (.ok hit, exchanges ++ [⟨offset, hit.map (·.at offset)⟩], world)
    | (.error fault, world) => (.error fault, exchanges, world)
  reach :=
    match pattern.reach with
    | .scanOnly => .scanOnly
    | _ =>
        .incremental (fun tokens offset => (pattern.search tokens offset).besideMemory)
          pattern.finder.transcribed

/-- No call of the pattern on these tokens fails, whatever came before it. -/
structure Pattern.NeverFails (pattern : Pattern World α) (tokens : Tokens) : Prop where
  scan : ∀ offset world, ∃ answer after, pattern.scan tokens offset world = (.ok answer, after)
  start : ∀ world, ∃ memory after, pattern.finder.start tokens world = (.ok memory, after)
  find : ∀ offset asked, ∃ answer after,
    pattern.finder.find tokens offset asked = (.ok answer, after)

/-- The exchanges account for how a course ends: it reports a place exactly if one of the answers
breaks the contract. -/
def Accounts (size : Nat) (exchanges : List (Exchange α)) (ending : Ending) : Prop :=
  (ending = .complete ∧ ∀ exchange ∈ exchanges, ¬exchange.Breaks size) ∨
    ((∃ offset place, ending = .outside offset place) ∧
      ∃ exchange ∈ exchanges, exchange.Breaks size)

theorem Accounts.cons {size : Nat} {exchange : Exchange α} {exchanges : List (Exchange α)}
    {ending : Ending} (keeps : ¬exchange.Breaks size)
    (accounts : Accounts size exchanges ending) :
    Accounts size (exchange :: exchanges) ending := by
  rcases accounts with ⟨complete, kept⟩ | ⟨reported, broken, member, breaks⟩
  · refine .inl ⟨complete, ?_⟩
    simp only [List.forall_mem_cons]
    exact ⟨keeps, kept⟩
  · exact .inr ⟨reported, broken, List.mem_cons_of_mem _ member, breaks⟩

theorem Accounts.step {size position next : Nat} {exchange : Exchange α}
    {exchanges before after last : List (Exchange α)} {ending : Ending}
    (unfinished : position < size) (forward : position < next)
    (written : after = before ++ [exchange]) (keeps : ¬exchange.Breaks size)
    (continued : last = after ++ exchanges) (fewer : exchanges.length ≤ size - next)
    (accounts : Accounts size exchanges ending) :
    ∃ exchanges, last = before ++ exchanges ∧ exchanges.length ≤ size - position ∧
      Accounts size exchanges ending := by
  refine ⟨exchange :: exchanges, ?_, ?_, accounts.cons keeps⟩
  · rw [continued, written, List.append_assoc, List.singleton_append]
  · simp only [List.length_cons]
    omega

section Transcript

variable {S T : Type} {tokens : Tokens}

/-- Where every answer is written down, the transcript accounts for the course, and holds no more
answers than there are tokens. -/
theorem course_accounts
    (answer : (position : Nat) → S → Except Fault (Move α tokens.size position) × S)
    (transcript : S → List (Exchange α))
    (writes : ∀ position asked, ∃ exchange move,
      (answer position asked).1 = .ok move ∧
      transcript (answer position asked).2 = transcript asked ++ [exchange] ∧
      (move.isOutside ↔ exchange.Breaks tokens.size))
    (pending position : Nat) (asked : S) :
    ∃ exchanges,
      transcript (course tokens answer pending position asked).2 =
        transcript asked ++ exchanges ∧
      exchanges.length ≤ tokens.size - position ∧
      Accounts tokens.size exchanges (course tokens answer pending position asked).1.ending := by
  fun_induction course tokens answer pending position asked with
  | case1 pending position asked unfinished fault later answered =>
      obtain ⟨exchange, move, same, -⟩ := writes position asked
      simp [answered] at same
  | case2 pending position asked unfinished later answered =>
      obtain ⟨exchange, move, same, written, breaks⟩ := writes position asked
      simp only [answered, Except.ok.injEq] at same written
      refine ⟨[exchange], written, Nat.sub_pos_of_lt unfinished, .inl ⟨rfl, ?_⟩⟩
      simp [← breaks, ← same, Move.isOutside]
  | case3 pending position asked unfinished next forward later answered ih =>
      obtain ⟨exchange, move, same, written, breaks⟩ := writes position asked
      simp only [answered, Except.ok.injEq] at same written
      obtain ⟨exchanges, continued, fewer, accounts⟩ := ih
      have keeps : ¬exchange.Breaks tokens.size := by simp [← breaks, ← same, Move.isOutside]
      exact accounts.step unfinished forward written keeps continued fewer
  | case4 pending position asked unfinished start stop value reached consumes within later answered
      rest ih =>
      obtain ⟨exchange, move, same, written, breaks⟩ := writes position asked
      simp only [answered, Except.ok.injEq] at same written
      obtain ⟨exchanges, continued, fewer, accounts⟩ := ih
      have keeps : ¬exchange.Breaks tokens.size := by simp [← breaks, ← same, Move.isOutside]
      have forward : position < stop := Nat.lt_of_le_of_lt reached consumes
      exact accounts.step unfinished forward written keeps continued fewer
  | case5 pending position asked unfinished offset place beyond later answered =>
      obtain ⟨exchange, move, same, written, breaks⟩ := writes position asked
      simp only [answered, Except.ok.injEq] at same written
      refine ⟨[exchange], written, Nat.sub_pos_of_lt unfinished,
        .inr ⟨⟨offset, place, rfl⟩, exchange, by simp, ?_⟩⟩
      rw [← breaks, ← same]
      trivial
  | case6 pending position asked finished => exact ⟨[], by simp, by simp, .inl ⟨rfl, by simp⟩⟩

end Transcript

theorem Pattern.finder_transcribed {pattern : Pattern World α}
    (searches : pattern.searches = true) :
    pattern.transcribed.finder = pattern.finder.transcribed := by
  obtain ⟨label, scan, reach⟩ := pattern
  cases reach with
  | scanOnly => simp [Pattern.searches] at searches
  | searchable search => rfl
  | incremental search finder => rfl

theorem Pattern.searches_transcribed (pattern : Pattern World α) :
    pattern.transcribed.searches = pattern.searches := by
  obtain ⟨label, scan, reach⟩ := pattern
  cases reach <;> rfl

/-- How a run over an input from `offset` on may end, by what it yields and the answers it got:
either no answer breaks the contract and the segments cover the rest of the input, or one does, a
place outside the input is reported, and the segments cover what lies before some place. -/
def TilesOrReports (label : Label) (tokens : Tokens) (offset : Nat)
    (outcome : Except Fault Unit) (segments : List (Segment α))
    (exchanges : List (Exchange α)) : Prop :=
  (outcome = .ok () ∧ (∀ exchange ∈ exchanges, ¬exchange.Breaks tokens.size) ∧
    Tiling tokens offset tokens.size segments ∧ (segments = [] ↔ offset = tokens.size) ∧
    render segments tokens = .ok (tokens.slice offset tokens.size)) ∨
  (∃ place position stop fault, outcome = .error fault ∧
    Fault.Reported label place position tokens.size fault ∧
    (position < place ∨ tokens.size < position) ∧
    (∃ exchange ∈ exchanges, exchange.Breaks tokens.size) ∧
    stop ≤ tokens.size ∧ Tiling tokens offset stop segments ∧ (segments = [] ↔ offset = stop) ∧
    render segments tokens = .ok (tokens.slice offset stop))

theorem course_tilesOrReports {S : Type} {tokens : Tokens}
    (answer : (position : Nat) → S → Except Fault (Move α tokens.size position) × S)
    (label : Label) {offset : Nat} (inside : offset ≤ tokens.size) (asked : S)
    {exchanges : List (Exchange α)}
    (accounts : Accounts tokens.size exchanges
      (course tokens answer offset offset asked).1.ending) :
    TilesOrReports label tokens offset
      ((course tokens answer offset offset asked).1.ending.outcome label tokens.size)
      (course tokens answer offset offset asked).1.segments exchanges := by
  obtain ⟨stop, stopInside, tiling, whole⟩ :=
    course_tiling answer offset offset asked (Nat.le_refl offset) inside
  rcases accounts with ⟨complete, kept⟩ | ⟨⟨place, position, reported⟩, broken⟩
  · have last := whole complete
    subst last
    exact .inl ⟨by rw [complete]; rfl, kept, tiling, tiling.eq_nil_iff,
      tiling.render_eq stopInside⟩
  · exact .inr ⟨place, position, stop, _, by rw [reported]; rfl, Fault.reported_outside _ _ _ _,
      course_outside answer offset offset asked reported, broken, stopInside, tiling,
      tiling.eq_nil_iff, tiling.render_eq stopInside⟩

theorem course_transcribed {S T : Type} {tokens : Tokens}
    (answer : (position : Nat) → S → Except Fault (Move α tokens.size position) × S)
    (other : (position : Nat) → T → Except Fault (Move α tokens.size position) × T)
    (view : S → T) (agrees : ∀ position asked,
      other position (view asked) = ((answer position asked).1, view (answer position asked).2))
    (transcript : S → List (Exchange α))
    (writes : ∀ position asked, ∃ exchange move,
      (answer position asked).1 = .ok move ∧
      transcript (answer position asked).2 = transcript asked ++ [exchange] ∧
      (move.isOutside ↔ exchange.Breaks tokens.size))
    (label : Label) {offset : Nat} (inside : offset ≤ tokens.size) (asked : S)
    (fresh : transcript asked = []) :
    ∃ report after, course tokens answer offset offset asked = (report, after) ∧
      course tokens other offset offset (view asked) = (report, view after) ∧
      (transcript after).length ≤ tokens.size - offset ∧
      TilesOrReports label tokens offset (report.ending.outcome label tokens.size)
        report.segments (transcript after) := by
  obtain ⟨exchanges, written, fewer, accounts⟩ :=
    course_accounts answer transcript writes offset offset asked
  rw [fresh, List.nil_append] at written
  refine ⟨_, _, rfl, course_map view answer other agrees offset offset asked, ?_, ?_⟩
  · rw [written]
    exact fewer
  · rw [written]
    exact course_tilesOrReports answer label inside asked accounts

theorem Pattern.scanAnswer_writes {pattern : Pattern World α} {tokens : Tokens}
    (quiet : pattern.NeverFails tokens) (position : Nat)
    (asked : Unit × List (Exchange α) × World) :
    ∃ exchange move,
      (pattern.transcribed.scanAnswer tokens position asked).1 = .ok move ∧
      (pattern.transcribed.scanAnswer tokens position asked).2.2.1 =
        asked.2.1 ++ [exchange] ∧
      (move.isOutside ↔ exchange.Breaks tokens.size) := by
  obtain ⟨-, exchanges, world⟩ := asked
  obtain ⟨hit, after, scanned⟩ := quiet.scan position world
  refine ⟨⟨position, hit.map (·.at position)⟩, .ofScan position hit, ?_, ?_, ?_⟩
  · simp only [scanAnswer, transcribed, scanned]
    rfl
  · simp only [scanAnswer, transcribed, scanned]
  · cases hit with
    | none => simp [Move.ofScan, Move.isOutside, Exchange.Breaks]
    | some hit => exact Move.isOutside_ofFound position (hit.at position)

theorem Pattern.finderAnswer_writes {pattern : Pattern World α} {tokens : Tokens}
    (quiet : pattern.NeverFails tokens) (position : Nat)
    (asked : pattern.finder.transcribed.Memory × List (Exchange α) × World) :
    ∃ exchange move,
      (pattern.finder.transcribed.answer tokens position asked).1 = .ok move ∧
      (pattern.finder.transcribed.answer tokens position asked).2.2.1 =
        asked.2.1 ++ [exchange] ∧
      (move.isOutside ↔ exchange.Breaks tokens.size) := by
  obtain ⟨memory, exchanges, world⟩ := asked
  obtain ⟨found, ⟨later, after⟩, searched⟩ := quiet.find position (memory, world)
  refine ⟨⟨position, found⟩, .ofSearch position found, ?_, ?_, ?_⟩
  · simp only [Finder.answer, Finder.transcribed, searched]
    rfl
  · simp only [Finder.answer, Finder.transcribed, searched]
  · cases found with
    | none => simp [Move.ofSearch, Move.isOutside, Exchange.Breaks]
    | some found => exact Move.isOutside_ofFound position found

theorem Pattern.scanAnswer_transcribed (pattern : Pattern World α) (tokens : Tokens)
    (position : Nat) (asked : Unit × List (Exchange α) × World) :
    pattern.scanAnswer tokens position ((), asked.2.2) =
      ((pattern.transcribed.scanAnswer tokens position asked).1, (),
        (pattern.transcribed.scanAnswer tokens position asked).2.2.2) := by
  obtain ⟨-, exchanges, world⟩ := asked
  simp only [scanAnswer, transcribed]
  rcases pattern.scan tokens position world with ⟨fault | hit, after⟩ <;> rfl

theorem Finder.answer_transcribed (finder : Finder World α) (tokens : Tokens) (position : Nat)
    (asked : finder.transcribed.Memory × List (Exchange α) × World) :
    finder.answer tokens position (asked.1, asked.2.2) =
      ((finder.transcribed.answer tokens position asked).1,
        (finder.transcribed.answer tokens position asked).2.1,
        (finder.transcribed.answer tokens position asked).2.2.2) := by
  obtain ⟨memory, exchanges, world⟩ := asked
  simp only [answer, transcribed]
  rcases finder.find tokens position (memory, world) with ⟨fault | found, memory, after⟩ <;> rfl

namespace Pattern

def lengthening : Pattern Nat Unit where
  label := .custom "Lengthening" ""
  scan _ offset := fun calls => (.ok (some ⟨(offset + calls : Nat), ()⟩), calls + 1)
  reach := .scanOnly

theorem lengthening_neverFails (tokens : Tokens) : lengthening.NeverFails tokens where
  scan _ _ := ⟨_, _, rfl⟩
  start _ := ⟨_, _, rfl⟩
  find offset asked := by
    simp only [finder, search, lengthening, probe]
    unfold firstFrom
    split <;> exact ⟨_, _, rfl⟩

end Pattern

end SpanEdit
