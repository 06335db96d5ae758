import SpanEdit.Edit.Basic
import SpanEdit.Proofs.Replay

/-!
Edits with an exact pattern: the segments of the reference go to the editor one after the other. The
segments cover the input, so the check of the coverage never fails.
-/

namespace SpanEdit

variable {World α β : Type}

def spliceStep [Shows α] (tokens : Tokens) (editor : α → Eff World Output) (segment : Segment α)
    (state : Coverage × Splice) : Eff World (ForInStep (Coverage × Splice)) := do
  let coverage ← Eff.ofExcept (state.1.advance segment)
  match segment with
  | .unmatched text _ => return .yield (coverage, state.2.keep text)
  | .matched value start stop =>
      let replacement ← editor value
      let splice ← Eff.ofExcept (state.2.replace (tokens.part start stop) replacement)
      return .yield (coverage, splice)

theorem Pattern.Exact.edit_eq [Journal World] [Shows α] {tokens : Tokens} {scan : Verdicts α}
    {pattern : Pattern World α} (exact : pattern.Exact tokens scan)
    (editor : α → Eff World Output) :
    edit pattern editor tokens = (do
      let state ← replay ((reference tokens scan 0 0).ending.outcome pattern.label tokens.size)
        (spliceStep tokens editor) (reference tokens scan 0 0).segments
        (Coverage.start, Splice.empty)
      Eff.ofExcept (state.1.close tokens.size)
      state.2.finish tokens) := by
  rw [← exact.run_eq_replay]
  unfold edit editSegments spliced
  simp only [bind_assoc, pure_bind]
  rfl

def Fault.IsContract : Fault → Prop
  | .contract _ _ _ _ => True
  | _ => False

def Blameless (outcome : Except Fault β) : Prop :=
  ∀ fault, outcome = .error fault → ¬fault.IsContract

def Eff.IsBlameless (action : Eff World β) : Prop :=
  Eff.Sustains (fun _ => True) action Blameless

structure BlamelessEditor (editor : α → Eff World Output) : Prop where
  calls : ∀ value, (editor value).IsBlameless
  compares : ∀ value world output, (editor value world).1 = .ok output →
    ∀ span, Blameless (output.differs span)

/-- Neither the editor fails, nor a comparison of what it gives back. -/
def NeverFails (editor : α → Eff World Output) : Prop :=
  ∀ value now, ∃ output later, editor value now = (.ok output, later) ∧ output.IsComparable

theorem Blameless.ok (value : β) : Blameless (.ok value : Except Fault β) := nofun

theorem Eff.IsBlameless.bind {action : Eff World α} {next : α → Eff World β}
    (first : action.IsBlameless) (later : ∀ value, (next value).IsBlameless) :
    (action >>= next).IsBlameless :=
  Eff.Sustains.bind first (fun value _ => later value) fun fault blameless other same =>
    blameless other (by rw [← Except.error.inj same])

theorem Eff.isBlameless_ofExcept {outcome : Except Fault β} (blameless : Blameless outcome) :
    (Eff.ofExcept outcome : Eff World β).IsBlameless := fun _ _ => ⟨trivial, blameless⟩

theorem Eff.isBlameless_pure (value : β) : (pure value : Eff World β).IsBlameless :=
  fun _ _ => ⟨trivial, .ok value⟩

theorem written_blameless (value : Int) : Blameless (written value) := by
  intro fault failed
  unfold written at failed
  split at failed
  · cases failed
    exact not_false
  · cases failed

theorem Coverage.close_blameless (coverage : Coverage) (size : Nat) :
    Blameless (coverage.close size) := by
  intro fault failed
  unfold close at failed
  split at failed
  · cases failed
  · have blameless := written_blameless coverage.expected
    simp only [Except.error.injEq] at failed
    subst failed
    unfold Fault.stopping
    cases unwritten : written coverage.expected with
    | error cause => exact blameless cause unwritten
    | ok text => exact not_false

theorem joinOnto_blameless (result : Tokens) (index : Nat) (pieces : List Output) :
    Blameless (joinOnto result index pieces) := by
  fun_induction joinOnto result index pieces with
  | case1 => exact .ok _
  | case2 result index piece rest tokens content same ih => exact ih
  | case3 =>
      rintro fault ⟨⟩
      exact nofun
  | case4 =>
      rintro fault ⟨⟩
      exact nofun

theorem Splice.finish_isBlameless [Journal World] (splice : Splice) (tokens : Tokens) :
    (splice.finish tokens : Eff World Tokens).IsBlameless := by
  refine .bind (fun _ _ => ⟨trivial, .ok ()⟩) fun _ => ?_
  refine Eff.isBlameless_ofExcept ?_
  unfold result
  split
  · exact .ok tokens
  · exact joinOnto_blameless _ _ _

theorem Splice.replace_eq_ok {output : Output} {span : Tokens} {differs : Bool}
    (compared : output.differs span = .ok differs) (splice : Splice) :
    splice.replace span output = .ok ⟨splice.pieces.push output, splice.occurrences + 1,
      splice.changes + if differs then 1 else 0⟩ := by
  rw [replace, compared]
  rfl

theorem Splice.replace_eq_error {output : Output} {span : Tokens} {fault : Fault}
    (compared : output.differs span = .error fault) (splice : Splice) :
    splice.replace span output = .error fault := by
  rw [replace, compared]
  rfl

theorem Coverage.advance_of_tiling [Shows α] {tokens : Tokens} {start stop : Nat}
    {segment : Segment α} {rest : List (Segment α)} {afterUnmatched : Bool}
    (tiling : Tiling tokens start stop (segment :: rest))
    (isolated : ¬(afterUnmatched ∧ segment.isUnmatched)) :
    advance ⟨start, afterUnmatched⟩ segment = .ok ⟨segment.stop, segment.isUnmatched⟩ := by
  obtain ⟨middle, begins, ends, before, -⟩ := tiling.uncons
  have placed : ¬(segment.start ≠ start ∨ segment.stop ≤ segment.start) := by omega
  have separated : ¬(segment.isUnmatched && afterUnmatched) := by
    simpa [and_comm] using isolated
  rw [advance, if_neg placed, if_neg separated]

theorem Coverage.isolated_of_tiling {start stop : Nat} {segment : Segment α}
    {rest : List (Segment α)} (tiling : Tiling tokens start stop (segment :: rest)) :
    ∀ first ∈ rest.head?, ¬(segment.isUnmatched ∧ first.isUnmatched) := by
  intro first head
  obtain ⟨more, rfl⟩ := List.head?_eq_some_iff.mp head
  exact (List.isChain_cons_cons.mp tiling.coalesced).1

section Replay

variable [Shows α] {tokens : Tokens} {editor : α → Eff World Output} {coverage next : Coverage}
  {splice : Splice}

theorem spliceStep_refused {segment : Segment α} {fault : Fault}
    (refused : coverage.advance segment = .error fault) (world : World) :
    spliceStep tokens editor segment (coverage, splice) world = (.error fault, world) := by
  rw [spliceStep, refused]
  rfl

theorem spliceStep_unmatched {text : Tokens} {start : Int}
    (advanced : coverage.advance (.unmatched text start : Segment α) = .ok next) (world : World) :
    spliceStep tokens editor (.unmatched text start) (coverage, splice) world =
      (.ok (.yield (next, splice.keep text)), world) := by
  rw [spliceStep, advanced]
  rfl

theorem spliceStep_matched {value : α} {start stop : Int}
    (advanced : coverage.advance (.matched value start stop) = .ok next) {replacement : Output}
    {world after : World} (replaced : editor value world = (.ok replacement, after))
    {changed : Splice}
    (compared : splice.replace (tokens.part start stop) replacement = .ok changed) :
    spliceStep tokens editor (.matched value start stop) (coverage, splice) world =
      (.ok (.yield (next, changed)), after) := by
  rw [spliceStep, advanced]
  refine (Eff.bind_ok replaced _).trans ?_
  rw [compared]
  rfl

/-- An editor that never fails brings an edit to the end of the segments. -/
theorem replay_spliceStep (total : NeverFails editor) (outcome : Except Fault Unit)
    {segments : List (Segment α)} {start stop : Nat} (tiling : Tiling tokens start stop segments)
    (afterUnmatched : Bool)
    (isolated : ∀ first ∈ segments.head?, ¬(afterUnmatched ∧ first.isUnmatched))
    (splice : Splice) (world : World) :
    ∃ state after,
      replay outcome (spliceStep tokens editor) segments (⟨start, afterUnmatched⟩, splice) world =
        (outcome.map fun _ => state, after) := by
  induction segments generalizing start afterUnmatched splice world with
  | nil =>
      refine ⟨(⟨start, afterUnmatched⟩, splice), world, ?_⟩
      cases outcome <;> rfl
  | cons segment rest ih =>
      obtain ⟨middle, -, ends, -, tail⟩ := tiling.uncons
      have advanced := Coverage.advance_of_tiling tiling (isolated segment rfl)
      have next := Coverage.isolated_of_tiling tiling
      rw [ends] at advanced
      cases segment with
      | unmatched text place =>
          obtain ⟨state, after, ran⟩ := ih tail true next (splice.keep text) world
          refine ⟨state, after, ?_⟩
          rw [← ran, replay, Eff.bind_ok (spliceStep_unmatched advanced world)]
          rfl
      | matched value first last =>
          obtain ⟨replacement, later, edited, comparable⟩ := total value world
          obtain ⟨differs, compared⟩ := comparable (tokens.part first last)
          have replaced := splice.replace_eq_ok compared
          obtain ⟨state, after, ran⟩ := ih tail false next _ later
          refine ⟨state, after, ?_⟩
          rw [← ran, replay, Eff.bind_ok (spliceStep_matched advanced edited replaced)]
          rfl

theorem spliceStep_raised {value : α} {start stop : Int}
    (advanced : coverage.advance (.matched value start stop) = .ok next) {fault : Fault}
    {world after : World} (raised : editor value world = (.error fault, after)) :
    spliceStep tokens editor (.matched value start stop) (coverage, splice) world =
      (.error fault, after) := by
  rw [spliceStep, advanced]
  exact Eff.bind_error raised _

theorem spliceStep_incomparable {value : α} {start stop : Int}
    (advanced : coverage.advance (.matched value start stop) = .ok next) {replacement : Output}
    {world after : World} (replaced : editor value world = (.ok replacement, after)) {fault : Fault}
    (compared : replacement.differs (tokens.part start stop) = .error fault) :
    spliceStep tokens editor (.matched value start stop) (coverage, splice) world =
      (.error fault, after) := by
  rw [spliceStep, advanced]
  refine (Eff.bind_ok replaced _).trans ?_
  rw [splice.replace_eq_error compared]
  rfl

theorem spliceStep_isBlameless (blameless : BlamelessEditor editor) {segment : Segment α}
    (advanced : coverage.advance segment = .ok next) (world : World) :
    Blameless (spliceStep tokens editor segment (coverage, splice) world).1 ∧
      ∀ step, (spliceStep tokens editor segment (coverage, splice) world).1 = .ok step →
        ∃ changed, step = .yield (next, changed) := by
  cases segment with
  | unmatched text start =>
      rw [spliceStep_unmatched advanced]
      exact ⟨.ok _, fun step same => ⟨_, (Except.ok.inj same).symm⟩⟩
  | matched value start stop =>
      rcases called : editor value world with ⟨fault | output, after⟩
      · have spared := (blameless.calls value world trivial).2 fault (by rw [called])
        rw [spliceStep_raised advanced called]
        exact ⟨fun _ same => Except.error.inj same ▸ spared, fun step same => by cases same⟩
      · have spared := blameless.compares value world output (by rw [called])
          (tokens.part start stop)
        cases compared : output.differs (tokens.part start stop) with
        | error fault =>
            have spared := spared fault compared
            rw [spliceStep_incomparable advanced called compared]
            exact ⟨fun _ same => Except.error.inj same ▸ spared, fun step same => by cases same⟩
        | ok differs =>
            rw [spliceStep_matched advanced called (splice.replace_eq_ok compared)]
            exact ⟨.ok _, fun step same => ⟨_, (Except.ok.inj same).symm⟩⟩

theorem replay_isBlameless (blameless : BlamelessEditor editor) {outcome : Except Fault Unit}
    (ends : Blameless outcome) {segments : List (Segment α)} {start stop : Nat}
    (tiling : Tiling tokens start stop segments) (afterUnmatched : Bool)
    (isolated : ∀ first ∈ segments.head?, ¬(afterUnmatched ∧ first.isUnmatched))
    (splice : Splice) : (replay outcome (spliceStep tokens editor) segments
      (⟨start, afterUnmatched⟩, splice)).IsBlameless := by
  induction segments generalizing start afterUnmatched splice with
  | nil => exact (Eff.isBlameless_ofExcept ends).bind fun _ => Eff.isBlameless_pure _
  | cons segment rest ih =>
      obtain ⟨middle, -, stops, -, tail⟩ := tiling.uncons
      have advanced := Coverage.advance_of_tiling tiling (isolated segment rfl)
      have next := Coverage.isolated_of_tiling tiling
      rw [stops] at advanced
      intro world _
      obtain ⟨spared, goesOn⟩ : Blameless
          (spliceStep tokens editor segment (⟨start, afterUnmatched⟩, splice) world).1 ∧ _ :=
        spliceStep_isBlameless blameless advanced world
      rw [replay]
      rcases stepped : spliceStep tokens editor segment (⟨start, afterUnmatched⟩, splice) world with
        ⟨fault | step, after⟩ <;> rw [stepped] at spared goesOn
      · rw [Eff.bind_error stepped]
        refine ⟨trivial, ?_⟩
        rintro _ ⟨⟩
        exact spared fault rfl
      · obtain ⟨changed, rfl⟩ := goesOn step rfl
        rw [Eff.bind_ok stepped]
        exact ih tail segment.isUnmatched next changed after trivial

end Replay

theorem reference_tiling {tokens : Tokens} (scan : Verdicts α) {offset : Nat}
    (inside : offset ≤ tokens.size) :
    ∃ stop ≤ tokens.size,
      Tiling tokens offset stop (reference tokens scan offset offset).segments :=
  let ⟨stop, within, tiling, _⟩ := course_tiling _ offset offset () (Nat.le_refl offset) inside
  ⟨stop, within, tiling⟩

namespace Pattern.Exact

variable [Journal World] [Shows α] {tokens : Tokens} {scan : Verdicts α}
  {pattern : Pattern World α}

/-- An edit reports no place outside the input where neither the separation nor the editor does. -/
theorem edit_isBlameless (exact : pattern.Exact tokens scan) {editor : α → Eff World Output}
    (blameless : BlamelessEditor editor)
    (complete : (reference tokens scan 0 0).ending = .complete) :
    (edit pattern editor tokens).IsBlameless := by
  obtain ⟨stop, within, tiling⟩ := reference_tiling scan (Nat.zero_le tokens.size)
  have replays := replay_isBlameless blameless (.ok ()) tiling false (by simp) Splice.empty
  rw [exact.edit_eq, complete]
  refine Eff.IsBlameless.bind replays fun state => ?_
  exact (Eff.isBlameless_ofExcept (Coverage.close_blameless _ _)).bind fun _ =>
    Splice.finish_isBlameless _ tokens

/-- An edit fails as the separation does where the editor never fails. -/
theorem edit_eq_error (exact : pattern.Exact tokens scan) {editor : α → Eff World Output}
    (total : NeverFails editor) {fault : Fault}
    (fails : (reference tokens scan 0 0).ending.outcome pattern.label tokens.size = .error fault)
    (world : World) : ((edit pattern editor tokens) world).1 = .error fault := by
  obtain ⟨stop, within, tiling⟩ := reference_tiling scan (Nat.zero_le tokens.size)
  obtain ⟨state, after, ran⟩ := replay_spliceStep total
    ((reference tokens scan 0 0).ending.outcome pattern.label tokens.size) tiling false (by simp)
    Splice.empty world
  rw [fails] at ran
  rw [exact.edit_eq, fails]
  exact congrArg Prod.fst (Eff.bind_error ran _)

end Pattern.Exact

end SpanEdit
