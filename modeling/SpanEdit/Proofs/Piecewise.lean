import SpanEdit.Proofs.Observation
import SpanEdit.Script
import SpanEdit.Testing.World

/-!
Edits piece by piece: a plain loop over the separation, in which an editor answers every match as it
comes, says what the editor is called with and what the edit comes to, also where the edit gives its
input back without joining anything.
-/

namespace SpanEdit

variable {World α β : Type}

def Tokens.concat (kind : Kind) (pieces : List Tokens) : Tokens :=
  pieces.foldl (· ++ ·) (.empty kind)

def Value.IsOf (kind : Kind) (value : Value) : Prop :=
  ∃ tokens, value = .tokens tokens ∧ tokens.kind = kind

namespace Output

def Holds (kind : Kind) (output : Output) (tokens : Tokens) : Prop :=
  output.content? = some tokens ∧ tokens.kind = kind

def IsOf (kind : Kind) (output : Output) : Prop := ∃ tokens, output.Holds kind tokens

theorem isOf_ofValue {kind : Kind} {value : Value} :
    (ofValue value).IsOf kind ↔ value.IsOf kind := by
  cases value <;> simp [IsOf, Holds, Value.IsOf, ofValue, ofTokens]

end Output

namespace Tokens

@[simp] theorem kind_append (tokens more : Tokens) : (tokens ++ more).kind = tokens.kind := by
  cases tokens <;> cases more <;> rfl

@[simp] theorem kind_empty (kind : Kind) : (empty kind).kind = kind := by
  cases kind <;> rfl

theorem concat_append (kind : Kind) (pieces : List Tokens) (last : Tokens) :
    concat kind (pieces ++ [last]) = concat kind pieces ++ last := by
  rw [concat, List.foldl_append]
  rfl

end Tokens

/-- What joining outputs comes to: their tokens one after the other, or a report of the first of
them that stands for no tokens of the kind. -/
inductive Joins (kind : Kind) (outputs : List Output) : Except Fault Tokens → Prop
  | all {parts : List Tokens} : List.Forall₂ (Output.Holds kind) outputs parts →
      Joins kind outputs (.ok (.concat kind parts))
  | refused {before rest : List Output} {foreign : Output} : outputs = before ++ foreign :: rest →
      (∀ output ∈ before, output.IsOf kind) → ¬foreign.IsOf kind →
      Joins kind outputs (.error (.unjoinable before.length kind foreign.typeName))

section Join

variable {kind : Kind}

theorem joinOnto_of_isOf {result tokens : Tokens} {piece : Output}
    (holds : piece.Holds result.kind tokens) (index : Nat) (rest : List Output) :
    joinOnto result index (piece :: rest) = joinOnto (result ++ tokens) (index + 1) rest := by
  rw [joinOnto, holds.1]
  exact if_pos holds.2

theorem joinOnto_of_not_isOf {result : Tokens} {piece : Output} (foreign : ¬piece.IsOf result.kind)
    (index : Nat) (rest : List Output) : joinOnto result index (piece :: rest) =
      .error (.unjoinable index result.kind piece.typeName) := by
  rw [joinOnto]
  split
  · rename_i tokens content
    exact if_neg fun same => foreign ⟨tokens, content, same⟩
  · rfl

theorem joinOnto_of_holds {result : Tokens} {outputs : List Output} {parts : List Tokens}
    (holds : List.Forall₂ (Output.Holds result.kind) outputs parts) (index : Nat)
    (rest : List Output) : joinOnto result index (outputs ++ rest) =
      joinOnto (parts.foldl (· ++ ·) result) (index + outputs.length) rest := by
  induction outputs generalizing result index parts with
  | nil =>
      cases holds
      rfl
  | cons output others ih =>
      obtain - | ⟨first, later⟩ := holds
      rw [← Tokens.kind_append] at later
      rw [List.cons_append, joinOnto_of_isOf first, ih later, List.length_cons, Nat.add_right_comm,
        Nat.add_assoc]
      rfl

theorem exists_holds {outputs : List Output} (each : ∀ output ∈ outputs, output.IsOf kind) :
    ∃ parts, List.Forall₂ (Output.Holds kind) outputs parts := by
  induction outputs with
  | nil => exact ⟨[], .nil⟩
  | cons output rest ih =>
      obtain ⟨⟨tokens, holds⟩, others⟩ := List.forall_mem_cons.mp each
      obtain ⟨parts, all⟩ := ih others
      exact ⟨tokens :: parts, .cons holds all⟩

theorem isOf_of_holds {outputs : List Output} {parts : List Tokens}
    (holds : List.Forall₂ (Output.Holds kind) outputs parts) :
    ∀ output ∈ outputs, output.IsOf kind := by
  induction holds with
  | nil => simp
  | cons first _ ih => exact List.forall_mem_cons.mpr ⟨⟨_, first⟩, ih⟩

theorem outputs_cases (kind : Kind) (outputs : List Output) :
    (∀ output ∈ outputs, output.IsOf kind) ∨
      ∃ before foreign rest, outputs = before ++ foreign :: rest ∧
        (∀ output ∈ before, output.IsOf kind) ∧ ¬foreign.IsOf kind := by
  induction outputs with
  | nil => exact .inl (by simp)
  | cons output others ih =>
      by_cases own : output.IsOf kind
      · rcases ih with all | ⟨before, foreign, rest, rfl, kinds, refused⟩
        · exact .inl (List.forall_mem_cons.mpr ⟨own, all⟩)
        · exact .inr ⟨output :: before, foreign, rest, rfl, List.forall_mem_cons.mpr ⟨own, kinds⟩,
            refused⟩
      · exact .inr ⟨[], output, others, rfl, by simp, own⟩

theorem Joins.join_eq {outputs : List Output} {result : Except Fault Tokens}
    (joins : Joins kind outputs result) : join kind outputs = result := by
  cases joins with
  | all holds =>
      rw [← Tokens.kind_empty kind] at holds
      have joined := joinOnto_of_holds holds 0 []
      rw [List.append_nil] at joined
      exact joined
  | @refused before rest foreign same kinds refused =>
      obtain ⟨parts, holds⟩ := exists_holds kinds
      have reached := parts.foldlRecOn (motive := fun result => result.kind = kind)
        (fun result part => result ++ part) (Tokens.kind_empty kind)
        (fun result same part _ => by rw [Tokens.kind_append, same])
      rw [join, same, joinOnto_of_holds (by rwa [Tokens.kind_empty]), Nat.zero_add,
        joinOnto_of_not_isOf (by rwa [reached]), reached]

theorem joins_join (kind : Kind) (outputs : List Output) :
    Joins kind outputs (join kind outputs) := by
  rcases outputs_cases kind outputs with all | ⟨before, foreign, rest, same, kinds, refused⟩
  · obtain ⟨parts, holds⟩ := exists_holds all
    have joins := Joins.all holds
    rwa [joins.join_eq]
  · have joins := Joins.refused same kinds refused
    rwa [joins.join_eq]

end Join

theorem Joins.eq_concat {kind : Kind} {parts : List Tokens} {result : Except Fault Tokens}
    (joins : Joins kind (parts.map .ofTokens) result) (kinds : ∀ part ∈ parts, part.kind = kind) :
    result = .ok (.concat kind parts) := by
  have holds : List.Forall₂ (Output.Holds kind) (parts.map .ofTokens) parts := by
    rw [List.forall₂_map_left_iff, List.forall₂_same]
    exact fun part member => ⟨rfl, kinds part member⟩
  rw [← joins.join_eq, (Joins.all holds).join_eq]

abbrev Answer (α : Type) : Type := α × Except Fault Output

namespace Segment

def piece : Segment (Answer α) → Except Fault Output
  | .unmatched text _ => .ok (.ofTokens text)
  | .matched answered _ _ => answered.2

def differs (tokens : Tokens) : Segment (Answer α) → Except Fault Bool
  | .unmatched _ _ => .ok false
  | .matched answered start stop => do (← answered.2).differs (tokens.part start stop)

/-- If the editor was called for the segment, it succeeded, and comparing its answer did. -/
def Answered (tokens : Tokens) (segment : Segment (Answer α)) : Prop :=
  ∃ differs, segment.differs tokens = .ok differs

def Honest (tokens : Tokens) (segment : Segment (Answer α)) : Prop :=
  ∀ output, segment.piece = .ok output → output.IsHonest (segment.span tokens)

def values (segments : List (Segment α)) : List α := segments.filterMap Script.valueOf?

@[simp] theorem values_append (segments more : List (Segment α)) :
    values (segments ++ more) = values segments ++ values more := List.filterMap_append

@[simp] theorem values_unmatched (text : Tokens) (start : Int) :
    values [.unmatched text start] = ([] : List α) := rfl

@[simp] theorem values_matched (value : α) (start stop : Int) :
    values [.matched value start stop] = [value] := rfl

end Segment

def collectSegment (segment : Segment β) : Eff (List (Segment β) × World) Unit :=
  Eff.modify fun outer => (outer.1 ++ [segment], outer.2)

/-- The loop that collects the segments, each match with what an editor answers as it comes. A fault
of the editor ends the loop, and so does one of comparing its answer. -/
def Pattern.offer (pattern : Pattern World α) (editor : α → Eff World Output) (tokens : Tokens) :
    Eff (List (Segment (Answer α)) × World) Unit := do
  let separation : Separation (List (Segment (Answer α)) × World) α :=
    ⟨pattern.seated .aside, tokens, 0⟩
  for segment in separation do
    match segment with
    | .unmatched text start => collectSegment (.unmatched text start)
    | .matched value start stop =>
        let outcome ← (editor value).besideMemory.attempt
        let offered := .matched (value, outcome) start stop
        collectSegment offered
        if let .error fault := offered.differs tokens then throw fault

/-- What an edit comes to, by the segments, by the answers of the editor, and by how the loop over
them ends. -/
inductive Splices (tokens : Tokens) (offered : List (Segment (Answer α))) :
    Except Fault Unit → Except Fault Tokens → Prop
  /-- The separation fails between two segments. -/
  | interrupted {fault : Fault} : (∀ segment ∈ offered, segment.Answered tokens) →
      Splices tokens offered (.error fault) (.error fault)
  /-- The editor fails on the last match that it is called for, or comparing its answer does. -/
  | failed {fault : Fault} {before : List (Segment (Answer α))} {last : Segment (Answer α)} :
      offered = before ++ [last] → (∀ segment ∈ before, segment.Answered tokens) →
      last.differs tokens = .error fault → Splices tokens offered (.error fault) (.error fault)
  /-- No answer is said to differ from what it is to replace. -/
  | unchanged : (∀ segment ∈ offered, segment.differs tokens = .ok false) →
      Splices tokens offered (.ok ()) (.ok tokens)
  | joined {outputs : List Output} {result : Except Fault Tokens} :
      offered.map Segment.piece = outputs.map .ok →
      (∀ segment ∈ offered, segment.Answered tokens) →
      (∃ segment ∈ offered, segment.differs tokens = .ok true) →
      Joins tokens.kind outputs result → Splices tokens offered (.ok ()) result

structure InStep (tokens : Tokens) (place : Nat) (afterUnmatched : Bool)
    (state : Coverage × Splice) (events : List (Event α))
    (offered : List (Segment (Answer α))) : Prop where
  covered : state.1 = ⟨place, afterUnmatched⟩
  called : Event.calls events = (Segment.values offered).map Prod.fst
  counted : state.2.occurrences = (Event.calls events).length
  pieces : offered.map Segment.piece = state.2.pieces.toList.map .ok
  answered : ∀ segment ∈ offered, segment.Answered tokens
  unchanged : state.2.changes = 0 ↔ ∀ segment ∈ offered, segment.differs tokens = .ok false
  kinds : ∀ segment ∈ offered, (segment.span tokens).kind = tokens.kind
  spans : Tokens.concat tokens.kind (offered.map (·.span tokens)) = tokens.slice 0 place

namespace InStep

variable {tokens : Tokens} {place start stop : Nat} {afterUnmatched : Bool}
  {state : Coverage × Splice} {events : List (Event α)}
  {offered : List (Segment (Answer α))}

theorem begins : InStep tokens 0 false (Coverage.start, Splice.empty) ([] : List (Event α)) [] where
  covered := rfl
  called := rfl
  counted := rfl
  pieces := rfl
  answered := by simp
  unchanged := by simp [Splice.empty]
  kinds := by simp
  spans := (Tokens.slice_empty tokens 0).symm

theorem keep (inStep : InStep tokens start false state events offered) (nonempty : start < stop) :
    InStep tokens stop true
      (⟨stop, true⟩, state.2.keep (tokens.slice start stop)) events
      (offered ++ [.unmatched (tokens.slice start stop) start]) where
  covered := rfl
  called := by simp [inStep.called]
  counted := inStep.counted
  pieces := by
    rw [List.map_append, inStep.pieces]
    simp [Splice.keep, Segment.piece]
  answered := List.forall_mem_append.mpr
    ⟨inStep.answered, List.forall_mem_singleton.mpr ⟨false, rfl⟩⟩
  unchanged := by
    rw [List.forall_mem_append, List.forall_mem_singleton, ← inStep.unchanged]
    exact (and_iff_left rfl).symm
  kinds := List.forall_mem_append.mpr
    ⟨inStep.kinds, List.forall_mem_singleton.mpr (Tokens.kind_slice tokens start stop)⟩
  spans := by
    rw [List.map_append, List.map_singleton, Tokens.concat_append, inStep.spans]
    exact Tokens.slice_append_slice tokens (Nat.zero_le start) nonempty.le

theorem replace (inStep : InStep tokens start afterUnmatched state events offered) (value : α)
    {replacement : Output} (consumes : start < stop) (inside : stop ≤ tokens.size) {differs : Bool}
    (compared : replacement.differs (tokens.part start stop) = .ok differs) :
    InStep tokens stop false
      (⟨stop, false⟩, ⟨state.2.pieces.push replacement, state.2.occurrences + 1,
        state.2.changes + if differs then 1 else 0⟩)
      (events ++ [.called value, .answered (.ok replacement)])
      (offered ++ [.matched (value, .ok replacement) start stop]) where
  covered := rfl
  called := by simp [inStep.called]
  counted := by simp [inStep.counted]
  pieces := by
    rw [List.map_append, inStep.pieces]
    simp [Segment.piece]
  answered := List.forall_mem_append.mpr
    ⟨inStep.answered, List.forall_mem_singleton.mpr ⟨differs, compared⟩⟩
  unchanged := by
    have last : (Segment.matched (value, .ok replacement) start stop).differs tokens =
        .ok differs := compared
    rw [List.forall_mem_append, List.forall_mem_singleton, ← inStep.unchanged, last]
    cases differs <;> simp
  kinds := List.forall_mem_append.mpr
    ⟨inStep.kinds, List.forall_mem_singleton.mpr (tokens.kind_part start stop)⟩
  spans := by
    have span : (Segment.matched (value, (.ok replacement : Except Fault Output)) start stop).span
        tokens = tokens.slice start stop := Tokens.part_natCast tokens consumes.le inside
    rw [List.map_append, List.map_singleton, Tokens.concat_append, inStep.spans, span]
    exact Tokens.slice_append_slice tokens (Nat.zero_le start) consumes.le

end InStep

def offerStep (editor : α → Eff World Output) (tokens : Tokens) :
    Segment α → Unit → Eff (List (Segment (Answer α)) × World) (ForInStep Unit)
  | .unmatched text start, _ => do
      collectSegment (.unmatched text start)
      return .yield ()
  | .matched value start stop, _ => do
      let outcome ← (editor value).besideMemory.attempt
      let offered := .matched (value, outcome) start stop
      collectSegment offered
      if let .error fault := offered.differs tokens then throw fault
      return .yield ()

theorem Pattern.offer_eq_run (pattern : Pattern World α) (editor : α → Eff World Output)
    (tokens : Tokens) :
    pattern.offer editor tokens =
      (⟨pattern.seated .aside, tokens, 0⟩ :
        Separation (List (Segment (Answer α)) × World) α).run () (offerStep editor tokens) := by
  show Separation.run _ _ _ >>= (fun _ => Pure.pure ()) = _
  rw [bind_pure_unit]
  congr 1
  funext segment state
  cases segment with
  | unmatched text start => rfl
  | matched value start stop => rfl

theorem offerStep_matched (editor : α → Eff World Output) (tokens : Tokens) (value : α)
    (start stop : Int) (offered : List (Segment (Answer α))) (world : World) :
    offerStep editor tokens (.matched value start stop) () (offered, world) =
      (((Segment.matched (value, (editor value world).1) start stop).differs tokens).map
          (fun _ => .yield ()),
        offered ++ [.matched (value, (editor value world).1) start stop],
        (editor value world).2) := by
  simp only [offerStep, Eff.bind_apply, Eff.attempt, Eff.besideMemory, Eff.within, collectSegment,
    Eff.modify_apply]
  rcases (Segment.matched (value, (editor value world).1) start stop).differs tokens with
    fault | differs <;> rfl

theorem Coverage.advance_unmatched [Shows α] {tokens : Tokens} {start stop : Nat}
    (nonempty : start < stop) (inside : stop ≤ tokens.size) :
    advance ⟨start, false⟩ (.unmatched (tokens.slice start stop) start : Segment α) =
      .ok ⟨stop, true⟩ := by
  have ends := unmatched_stop (α := α) tokens nonempty.le inside
  have placed : ¬((Segment.unmatched (tokens.slice start stop) start : Segment α).start ≠ start ∨
      (Segment.unmatched (tokens.slice start stop) start : Segment α).stop ≤
        (Segment.unmatched (tokens.slice start stop) start : Segment α).start) := by
    rw [ends]
    simp only [Segment.start]
    omega
  rw [advance, if_neg placed, Bool.and_false, if_neg Bool.false_ne_true, ends]
  rfl

theorem Coverage.advance_matched [Shows α] {start stop : Nat} (value : α)
    (afterUnmatched : Bool) (consumes : start < stop) :
    advance ⟨start, afterUnmatched⟩ (.matched value start stop) = .ok ⟨stop, false⟩ := by
  have placed : ¬((Segment.matched value start stop).start ≠ start ∨
      (Segment.matched value start stop).stop ≤ (Segment.matched value start stop).start) := by
    simp only [Segment.start, Segment.stop]
    omega
  rw [advance, if_neg placed]
  rfl

def Stopped (tokens : Tokens) (fault : Fault) (offered : List (Segment (Answer α))) : Prop :=
  (∀ segment ∈ offered, segment.Answered tokens) ∨
    ∃ before last, offered = before ++ [last] ∧ (∀ segment ∈ before, segment.Answered tokens) ∧
      last.differs tokens = .error fault

theorem related_offer [Shows α] (editor : α → Eff World Output) (tokens : Tokens) :
    Separation.Related tokens (fun _ => True)
      (fun fault (outer : List (Event α) × World) (now : List (Segment (Answer α)) × World) =>
        Event.calls outer.1 = (Segment.values now.1).map Prod.fst ∧ Stopped tokens fault now.1 ∧
          outer.2 = now.2)
      (fun place afterUnmatched state _ outer now =>
        InStep tokens place afterUnmatched state outer.1 now.1 ∧ outer.2 = now.2)
      (spliceStep tokens (watched editor)) (offerStep editor tokens) where
  unmatched := by
    rintro start stop ⟨coverage, splice⟩ _ nonempty inside ⟨events, world⟩ ⟨offered, _⟩
      ⟨inStep, rfl⟩
    obtain rfl : coverage = ⟨start, false⟩ := inStep.covered
    rw [spliceStep_unmatched (Coverage.advance_unmatched nonempty inside)]
    exact .inl ⟨.yield _, .yield (), _, _, rfl, rfl, inStep.keep nonempty, rfl⟩
  matched := by
    rintro start stop value afterUnmatched ⟨coverage, splice⟩ _ consumes inside - ⟨events, world⟩
      ⟨offered, _⟩ ⟨inStep, rfl⟩
    obtain rfl : coverage = ⟨start, afterUnmatched⟩ := inStep.covered
    have advanced := Coverage.advance_matched value afterUnmatched consumes
    have called := watched_apply editor value events world
    rw [offerStep_matched]
    rcases ran : editor value world with ⟨fault | replacement, after⟩ <;> rw [ran] at called
    -- The call is written down before the editor fails, so both know of the last match.
    · rw [spliceStep_raised advanced called]
      refine .inr ⟨fault, _, _, rfl, rfl, by simp [inStep.called], ?_, rfl⟩
      exact .inr ⟨offered, _, rfl, inStep.answered, rfl⟩
    · cases compared : replacement.differs (tokens.part start stop) with
      | error fault =>
          have last : (Segment.matched (value, .ok replacement) start stop).differs tokens =
              .error fault := compared
          rw [spliceStep_incomparable advanced called compared, last]
          refine .inr ⟨fault, _, _, rfl, rfl, by simp [inStep.called], ?_, rfl⟩
          exact .inr ⟨offered, _, rfl, inStep.answered, last⟩
      | ok differs =>
          have last : (Segment.matched (value, .ok replacement) start stop).differs tokens =
              .ok differs := compared
          rw [spliceStep_matched advanced called (splice.replace_eq_ok compared), last]
          exact .inl ⟨_, _, _, _, rfl, rfl, inStep.replace value consumes inside compared, rfl⟩
  fails place state result fault outer now inStep :=
    ⟨inStep.1.called, .inl inStep.1.answered, inStep.2⟩

namespace InStep

variable {tokens : Tokens} {afterUnmatched : Bool} {state : Coverage × Splice}
  {events : List (Event α)} {offered : List (Segment (Answer α))}

theorem splices (inStep : InStep tokens tokens.size afterUnmatched state events offered) :
    Splices tokens offered (.ok ()) (state.2.result tokens) := by
  rw [Splice.result]
  split
  · exact .unchanged (inStep.unchanged.mp ‹_›)
  · rename_i changed
    have some_changed : ∃ segment ∈ offered, segment.differs tokens = .ok true := by
      rw [inStep.unchanged] at changed
      push Not at changed
      obtain ⟨segment, member, differs⟩ := changed
      obtain ⟨answer, compared⟩ := inStep.answered segment member
      refine ⟨segment, member, compared.trans ?_⟩
      cases answer with
      | true => rfl
      | false => exact absurd compared differs
    exact .joined inStep.pieces inStep.answered some_changed (joins_join _ _)

end InStep

theorem Segment.holds_span {tokens : Tokens} {segment : Segment (Answer α)} {output : Output}
    (honest : segment.Honest tokens) (kind : (segment.span tokens).kind = tokens.kind)
    (same : segment.differs tokens = .ok false) (piece : segment.piece = .ok output) :
    output.Holds tokens.kind (segment.span tokens) := by
  refine ⟨?_, kind⟩
  cases segment with
  | unmatched text start =>
      cases piece
      rfl
  | matched answered start stop =>
      have answer : answered.2 = .ok output := piece
      rw [differs, answer] at same
      exact honest output piece same

theorem Segment.holds_spans {tokens : Tokens} {offered : List (Segment (Answer α))}
    {outputs : List Output} (pieces : offered.map Segment.piece = outputs.map .ok)
    (holds : ∀ segment ∈ offered, ∀ output, segment.piece = .ok output →
      output.Holds tokens.kind (segment.span tokens)) :
    List.Forall₂ (Output.Holds tokens.kind) outputs (offered.map (·.span tokens)) := by
  induction offered generalizing outputs with
  | nil =>
      obtain rfl := List.map_eq_nil_iff.mp pieces.symm
      exact .nil
  | cons segment rest ih =>
      obtain ⟨output, others, rfl, first, later⟩ := List.map_eq_cons_iff.mp pieces.symm
      refine .cons (holds segment List.mem_cons_self output first.symm) ?_
      exact ih later.symm fun other member => holds other (List.mem_cons_of_mem segment member)

/-- The outcome of the loop and of the edit, where the loop comes to its end: no matter whether
anything is joined, it is what joining comes to. -/
def Joined (tokens : Tokens) (offered : List (Segment (Answer α))) (outcome : Except Fault Unit)
    (result : Except Fault Tokens) : Prop :=
  outcome = .ok () → ∃ outputs, offered.map Segment.piece = outputs.map .ok ∧
    Joins tokens.kind outputs result

theorem InStep.joined {tokens : Tokens} {afterUnmatched : Bool} {state : Coverage × Splice}
    {events : List (Event α)} {offered : List (Segment (Answer α))}
    (inStep : InStep tokens tokens.size afterUnmatched state events offered)
    (honest : ∀ segment ∈ offered, segment.Honest tokens) :
    Joined tokens offered (.ok ()) (state.2.result tokens) := by
  refine fun _ => ⟨state.2.pieces.toList, inStep.pieces, ?_⟩
  rw [Splice.result]
  split
  · have same := inStep.unchanged.mp ‹_›
    have holds : List.Forall₂ (Output.Holds tokens.kind) _ _ :=
      Segment.holds_spans inStep.pieces fun segment member output =>
        Segment.holds_span (honest segment member) (inStep.kinds segment member)
          (same segment member)
    have whole := Joins.all holds
    rwa [inStep.spans, Tokens.slice_self] at whole
  · exact joins_join _ _

theorem Separation.toList_eq_run (separation : Separation World α) :
    separation.toList = (do
      let collected ← separation.run #[] fun segment collected =>
        pure (.yield (collected.push segment))
      return collected.toList) := rfl

theorem Pattern.captured_finds (pattern : Pattern World α) (tokens : Tokens) :
    pattern.captured.Finds tokens fun found =>
      found.value.1 = tokens.part found.start found.stop where
  scans place hit := by
    rintro ⟨world, changed, scanned⟩
    simp only [captured, Eff.bind_apply] at scanned
    rcases inner : pattern.scan tokens place world with ⟨fault | _ | own, now⟩ <;>
      rw [inner] at scanned <;> cases scanned
    rfl
  asks place memory found later := by
    rintro ⟨world, changed, asked⟩
    have answered : pattern.captured.finder.find tokens place (memory, world) =
        (pattern.finder.find tokens place >>= fun answer =>
          pure (answer.map (capture tokens))) (memory, world) := rfl
    rw [Finder.ask, Eff.remembering, answered, Eff.bind_apply] at asked
    rcases inner : pattern.finder.find tokens place (memory, world) with
      ⟨fault | _ | own, now⟩ <;> rw [inner] at asked <;> cases asked
    rfl

theorem related_captured [Shows (Tokens × α)] (tokens : Tokens) :
    Separation.Related tokens
      (fun found : Found (Tokens × α) => found.value.1 = tokens.part found.start found.stop)
      (fun _ (world now : World) => world = now)
      (fun place afterUnmatched state (_ : Array (Segment (Tokens × α))) world now =>
        state.1 = ⟨place, afterUnmatched⟩ ∧ state.2.changes = 0 ∧ world = now)
      (spliceStep tokens fun pair => pure (.ofTokens pair.1))
      (fun segment collected => pure (.yield (collected.push segment))) where
  unmatched := by
    rintro start stop ⟨coverage, splice⟩ collected nonempty inside world _ ⟨rfl, same, rfl⟩
    exact .inl ⟨_, _, _, _,
      spliceStep_unmatched (Coverage.advance_unmatched nonempty inside) world, rfl, rfl, same, rfl⟩
  matched := by
    rintro start stop value afterUnmatched ⟨coverage, splice⟩ collected consumes inside genuine
      world _ ⟨rfl, same, rfl⟩
    have equal : (Output.ofTokens value.1).differs (tokens.part start stop) = .ok false := by
      simpa [Output.ofTokens] using genuine
    exact .inl ⟨_, _, _, _,
      spliceStep_matched (Coverage.advance_matched value afterUnmatched consumes)
        (Eff.pure_apply _ world) (splice.replace_eq_ok equal), rfl, rfl, same, rfl⟩
  fails _ _ _ _ _ _ inv := inv.2.2

theorem Coverage.close_of_end (size : Nat) (afterUnmatched : Bool) :
    close ⟨size, afterUnmatched⟩ size = .ok () := if_pos rfl

/-- The world after an edit whose loop ends with the outcome: one that comes to its end is
reported. -/
def concluded [Journal World] (entry : LogEntry) : Except Fault Unit → World → World
  | .ok _, world => Journal.note entry world
  | .error _, world => world

/-- An edit calls its editor for the matches that are offered, one after the other, and comes to
what the answers come to. -/
theorem edit_offer [Journal World] [Shows α] (pattern : Pattern World α)
    (editor : α → Eff World Output) (tokens : Tokens) (world : World) :
    ∃ outcome offered after result events changes,
      pattern.offer editor tokens ([], world) = (outcome, offered, after) ∧
      edit pattern editor tokens world = (result,
        concluded (.edited (Event.calls events).length changes tokens.size) outcome after) ∧
      edit pattern.observed (watched editor) tokens ([], world) = (result, events,
        concluded (.edited (Event.calls events).length changes tokens.size) outcome after) ∧
      Event.calls events = (Segment.values offered).map Prod.fst ∧
      Splices tokens offered outcome result ∧
      ((∀ segment ∈ offered, segment.Honest tokens) → Joined tokens offered outcome result) := by
  have runs := (related_offer editor tokens).run .observing .aside (pattern.finds_something tokens)
    (fun _ _ _ => ⟨fun _ _ _ inv => inv.2, fun _ _ _ _ inv => ⟨{
      inv.1 with
      called := by simpa [Seat.observing, Seat.aside] using inv.1.called
      counted := by simpa [Seat.observing] using inv.1.counted }, rfl⟩⟩)
    (Nat.zero_le tokens.size) (Coverage.start, Splice.empty) () ([], world) ([], world)
    ⟨InStep.begins, rfl⟩
  rw [← Pattern.offer_eq_run] at runs
  -- Either both loops come to the end of the input, or both stop with one fault.
  rcases runs with
    ⟨⟨coverage, splice⟩, _, ⟨events, now⟩, ⟨offered, _⟩, ran, collected, flag, inStep, rfl⟩ |
    ⟨fault, ⟨events, now⟩, ⟨offered, _⟩, ran, collected, called, stopped, rfl⟩
  · have observed : edit pattern.observed (watched editor) tokens ([], world) =
        (splice.result tokens, events, concluded
          (.edited (Event.calls events).length splice.changes tokens.size) (.ok ()) now) := by
      obtain rfl : coverage = ⟨tokens.size, flag⟩ := inStep.covered
      have counted : splice.occurrences = (Event.calls events).length := inStep.counted
      have closed := Coverage.close_of_end tokens.size flag
      rw [edit_eq_run, Pattern.observed, Eff.bind_ok ran, closed, ← counted]
      rfl
    exact ⟨.ok (), offered, now, _, events, _, collected, edit_eq_of_observed observed, observed,
      inStep.called, inStep.splices, inStep.joined⟩
  · have observed : edit pattern.observed (watched editor) tokens ([], world) =
        (.error fault, events, concluded
          (.edited (Event.calls events).length 0 tokens.size) (.error fault) now) := by
      rw [edit_eq_run, Pattern.observed, Eff.bind_error ran]
      rfl
    refine ⟨.error fault, offered, now, _, events, _, collected, edit_eq_of_observed observed,
      observed, called, ?_, nofun⟩
    rcases stopped with answered | ⟨before, last, same, answered, failed⟩
    · exact .interrupted answered
    · exact .failed same answered failed

theorem edit_captured [Journal World] [Shows (Tokens × α)] (pattern : Pattern World α)
    (tokens : Tokens) (world : World) (completes : ∃ segments after,
      pattern.captured.segments tokens world = (.ok segments, after)) :
    (edit pattern.captured (fun pair => pure (.ofTokens pair.1)) tokens world).1 = .ok tokens := by
  obtain ⟨segments, after, ran⟩ := completes
  have runs := (related_captured tokens).run .whole .whole
    (pattern.captured_finds tokens)
    (fun _ _ _ => ⟨fun _ _ _ inv => inv.2.2, fun _ _ _ _ inv => ⟨inv.1, inv.2.1, rfl⟩⟩)
    (Nat.zero_le tokens.size) (Coverage.start, Splice.empty) #[] world world ⟨rfl, rfl, rfl⟩
  rw [Pattern.seated_whole] at runs
  rw [Pattern.segments, Separation.toList_eq_run] at ran
  rcases runs with ⟨state, collected, changed, now, edited, collecting, flag, covered, same, -⟩ |
    ⟨fault, changed, now, edited, collecting, -⟩
  · rw [edit_eq_run, Eff.bind_ok edited, covered]
    rw [Coverage.close_of_end]
    show Splice.result state.2 tokens = _
    rw [Splice.result, if_pos same]
  · rw [Eff.bind_error collecting] at ran
    cases ran

def Segment.output (answer : α → Output) : Segment α → Output
  | .unmatched text _ => .ofTokens text
  | .matched value _ _ => answer value

theorem related_toList {answer : α → Output} (comparable : ∀ value, (answer value).IsComparable)
    (tokens : Tokens) :
    Separation.Related tokens (fun _ => True) (fun _ _ _ => True)
      (fun _ _ _ (collected : Array (Segment α)) (outer : List (Segment (Answer α)) × World) now =>
        outer.1 = collected.toList.map (Segment.map fun value => (value, .ok (answer value))) ∧
          outer.2 = now)
      (offerStep (fun value => pure (answer value)) tokens)
      (fun segment collected => pure (.yield (collected.push segment))) where
  unmatched := by
    rintro start stop _ collected nonempty inside ⟨_, world⟩ _ ⟨rfl, rfl⟩
    exact .inl ⟨.yield (), _, _, _, rfl, rfl, by simp [Segment.map], rfl⟩
  matched := by
    rintro start stop value afterUnmatched _ collected consumes inside - ⟨_, world⟩ _ ⟨rfl, rfl⟩
    obtain ⟨differs, compared⟩ := comparable value (tokens.part start stop)
    have answered : (Segment.matched (value, .ok (answer value)) start stop).differs tokens =
        .ok differs := compared
    rw [offerStep_matched, Eff.pure_apply, answered]
    exact .inl ⟨.yield (), _, _, _, rfl, rfl, by simp [Segment.map], rfl⟩
  fails _ _ _ _ _ _ _ := trivial

theorem Pattern.offer_of_segments {pattern : Pattern World α} {tokens : Tokens}
    {world after : World} {segments : List (Segment α)} {answer : α → Output}
    (comparable : ∀ value, (answer value).IsComparable)
    (ran : pattern.segments tokens world = (.ok segments, after)) :
    pattern.offer (fun value => pure (answer value)) tokens ([], world) =
      (.ok (), segments.map (Segment.map fun value => (value, .ok (answer value))), after) := by
  have runs := (related_toList comparable tokens).run .aside .whole
    (pattern.finds_something tokens)
    (fun _ _ _ => ⟨fun _ _ _ inv => inv.2, fun _ _ _ _ inv => ⟨inv.1, rfl⟩⟩)
    (Nat.zero_le tokens.size) () #[] ([], world) world ⟨rfl, rfl⟩
  rw [← offer_eq_run, seated_whole] at runs
  rw [Pattern.segments, Separation.toList_eq_run] at ran
  rcases runs with ⟨_, collected, ⟨_, now⟩, _, offered, collecting, -, rfl, rfl⟩ |
    ⟨fault, _, _, offered, collecting, -⟩
  · rw [Eff.bind_ok collecting] at ran
    cases ran
    exact offered
  · rw [Eff.bind_error collecting] at ran
    cases ran

theorem Segment.pieces_map (answer : α → Output) (segments : List (Segment α)) :
    (segments.map (Segment.map fun value => (value, .ok (answer value)))).map Segment.piece =
      (segments.map (Segment.output answer)).map .ok := by
  rw [List.map_map, List.map_map]
  refine List.map_congr_left fun segment _ => ?_
  cases segment <;> rfl

/-- An edit whose editor only looks at the value joins what the segments become. -/
theorem edit_of_segments [Journal World] [Shows α] {pattern : Pattern World α} {tokens : Tokens}
    {world after : World} {segments : List (Segment α)} {answer : α → Output}
    (comparable : ∀ value, (answer value).IsComparable)
    (honest : ∀ value span, (answer value).IsHonest span)
    (ran : pattern.segments tokens world = (.ok segments, after)) :
    Joins tokens.kind (segments.map (Segment.output answer))
      (edit pattern (fun value => pure (answer value)) tokens world).1 := by
  obtain ⟨outcome, offered, now, result, events, changes, collected, edited, -, -, -, joined⟩ :=
    edit_offer pattern (fun value => pure (answer value)) tokens world
  rw [pattern.offer_of_segments comparable ran] at collected
  cases collected
  have truthful : ∀ segment ∈ segments.map (Segment.map fun value => (value, .ok (answer value))),
      segment.Honest tokens := by
    simp only [List.forall_mem_map]
    rintro (⟨text, start⟩ | ⟨value, start, stop⟩) - output same
    · cases same
      exact Output.isHonest_ofTokens _ _
    · cases same
      exact honest value _
  obtain ⟨outputs, pieces, joins⟩ := joined truthful rfl
  rw [Segment.pieces_map, (List.map_injective_iff.mpr fun _ _ => Except.ok.inj).eq_iff] at pieces
  rw [edited, pieces]
  exact joins

def Pattern.fickle : Pattern Testing.World Tokens where
  label := .custom "Fickle" ""
  scan tokens offset := do
    Testing.World.ask "fickle" (.scan offset)
    let asked := (← Eff.get).events.size
    return if asked % 2 = 0 then some ⟨(offset + 1 : Nat), tokens.token offset⟩ else none
  reach := .scanOnly

theorem Pattern.segments_fickle : ∃ segments after,
    fickle.captured.segments (.ofString "ab") Testing.World.empty = (.ok segments, after) :=
  ⟨[.unmatched (.ofString "a") 0, .matched (.ofString "b", .ofString "b") 1 2],
    { Testing.World.empty with events := #[⟨"fickle", .scan 0⟩, ⟨"fickle", .scan 1⟩] },
    by with_unfolding_all rfl⟩

def Pattern.answeredFickle (outcome : Except Fault Output) : List (Segment (Answer Tokens)) :=
  [.unmatched (.ofString "a") 0, .matched (.ofString "b", outcome) 1 2]

theorem Pattern.offer_fickle_changing : ∃ after,
    fickle.offer (fun _ => pure (.ofTokens (.ofString "Z"))) (.ofString "ab")
      ([], Testing.World.empty) =
        (.ok (), answeredFickle (.ok (.ofTokens (.ofString "Z"))), after) :=
  ⟨_, by with_unfolding_all rfl⟩

theorem Pattern.offer_fickle_foreign : ∃ after,
    fickle.offer (fun _ => pure (.ofValue .null)) (.ofString "ab") ([], Testing.World.empty) =
      (.ok (), answeredFickle (.ok (.ofValue .null)), after) :=
  ⟨_, by with_unfolding_all rfl⟩

theorem Segment.pieces_answeredFickle {output : Output} {outputs : List Output}
    (pieces : (Pattern.answeredFickle (.ok output)).map Segment.piece = outputs.map .ok) :
    outputs = [.ofTokens (.ofString "a"), output] := by
  obtain ⟨first, rest, rfl, ⟨⟩, more⟩ := List.map_eq_cons_iff.mp pieces.symm
  obtain ⟨second, others, rfl, ⟨⟩, none⟩ := List.map_eq_cons_iff.mp more
  rw [List.map_eq_nil_iff.mp none]

theorem Segment.honest_answeredFickle {output : Output} (honest : ∀ span, output.IsHonest span) :
    ∀ segment ∈ Pattern.answeredFickle (.ok output), segment.Honest (.ofString "ab") := by
  rintro segment (_ | ⟨_, _ | ⟨_, ⟨⟩⟩⟩)
  · rintro _ ⟨⟩
    exact Output.isHonest_ofTokens _ _
  · rintro _ ⟨⟩
    exact honest _

end SpanEdit
