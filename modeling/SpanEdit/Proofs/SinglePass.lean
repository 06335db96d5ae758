import SpanEdit.Proofs.ExactCursor
import SpanEdit.Proofs.Partition

/-!
A single pass: a full run over the matches of a regular expression begins one pass through its
input and calls the expression in no other way. Where a separation asks next, the pass of the cursor
goes on, and it never has to begin again.
-/

namespace SpanEdit

variable {World α β : Type} {tokens : Tokens} {origin : Nat}

namespace Regex

variable {regex : Regex}

theorem matchAt?_of_searchFrom? {place : Nat} {first : Match}
    (searched : regex.searchFrom? tokens place = some first) :
    regex.matchAt? tokens first.start = some first := by
  fun_induction searchFrom? regex tokens place with
  | case1 place inside found here =>
      cases searched
      rw [matchAt?_start here, here]
  | case2 place inside none ih => exact ih searched
  | case3 place outside => cases searched

namespace Cursor

variable {cursor : Cursor} {offset : Nat}

/-- The cursor can go on to the offset: it is not beyond it, and if the pending match begins before
the offset, then the offset is where a search goes on after that match. -/
structure Meets (regex : Regex) (tokens : Tokens) (offset : Nat) (cursor : Cursor) : Prop where
  valid : cursor.Valid regex tokens
  reached : cursor.resumed ≤ offset
  resumes : ∀ first, cursor.pending = some first → first.start < offset →
    resumption first = offset

theorem meets_start (inside : offset ≤ tokens.size) :
    (start regex tokens offset).Meets regex tokens offset where
  valid := valid_start inside
  reached := Nat.le_refl offset
  resumes first pending before := by
    rw [pending_start inside] at pending
    have ahead := (searchFrom?_start pending).1
    omega

/-- After an empty match the pass may report the same match once more, which ends no further. -/
theorem Meets.step (meets : cursor.Meets regex tokens offset) (inside : offset ≤ tokens.size)
    {first : Match} (pending : cursor.pending = some first) (before : first.start < offset)
    {next : Option Match} {later : Pass}
    (stepped : cursor.pass.next regex tokens = (next, later)) :
    Meets regex tokens offset ⟨later, next, resumption first⟩ where
  valid := meets.valid.step pending before inside stepped
  reached := Nat.le_of_eq (meets.resumes first pending before)
  resumes second is earlier := by
    have ends := meets.resumes first pending before
    obtain ⟨place, stands, behind, -, -⟩ := meets.valid.goesOn pending before inside
    have searched : regex.searchFrom? tokens place = some second := by
      simp only [Pass.next, stands] at stepped
      rcases found : regex.searchFrom? tokens place with _ | other <;> rw [found] at stepped <;>
        cases stepped <;> cases is
      rfl
    have ahead := (searchFrom?_start searched).1
    have same : second = first := by
      obtain ⟨origin, -, -, found, -⟩ := meets.valid
      have extent := first.start_le_stop
      have start : second.start = first.start := by
        unfold resumption at ends
        split at ends <;> omega
      have again := matchAt?_of_searchFrom? searched
      rw [start, matchAt?_of_searchFrom? (found.symm.trans pending)] at again
      exact (Option.some.inj again).symm
    rw [same, ends]

theorem Meets.exists_stepTo (meets : cursor.Meets regex tokens offset)
    (inside : offset ≤ tokens.size) : ∃ later, cursor.stepTo? regex tokens offset = some later := by
  fun_induction stepTo? regex tokens offset cursor with
  | case1 cursor pending => exact ⟨cursor, rfl⟩
  | case2 cursor first pending before passed =>
      have ends := meets.resumes first pending before
      omega
  | case3 cursor first pending before passed pass step => exact ⟨_, rfl⟩
  | case4 cursor first pending before passed next pass step ih =>
      exact ih (meets.step inside pending before step)
  | case5 cursor first pending ahead => exact ⟨cursor, rfl⟩

/-- Where a separation goes on after the match that is found, the cursor can go on as well. -/
theorem Meets.advance (meets : cursor.Meets regex tokens offset) (inside : offset ≤ tokens.size) :
    ∃ later, cursor.stepTo? regex tokens offset = some later ∧
      ∀ first, later.pending = some first → later.Meets regex tokens (resumption first) := by
  obtain ⟨later, stepped⟩ := meets.exists_stepTo inside
  obtain ⟨valid, reached, ahead⟩ := meets.valid.stepTo meets.reached inside stepped
  refine ⟨later, stepped, fun first pending => ⟨valid, ?_, fun other is _ => ?_⟩⟩
  · have front := ahead first pending
    unfold resumption
    split <;> omega
  · rw [Option.some.inj (pending.symm.trans is)]

variable {later : Cursor}

theorem find_of_none (observe : Call → World → World)
    (stepped : (start regex tokens offset).stepTo? regex tokens offset = some later)
    (world : World) :
    find regex observe tokens offset (none, world) =
      (.ok later.pending, some later, observe (.pass offset) world) := by
  simp only [find, Eff.bind_apply, Eff.get_apply, restart, stepped]
  rfl

theorem find_of_some (observe : Call → World → World) (reached : cursor.resumed ≤ offset)
    (stepped : cursor.stepTo? regex tokens offset = some later) (world : World) :
    find regex observe tokens offset (some cursor, world) =
      (.ok later.pending, some later, world) := by
  have current : isBehind (some cursor) offset = false := by simpa [isBehind] using reached
  simp only [find, Eff.bind_apply, Eff.get_apply, current, Bool.false_eq_true, ↓reduceIte,
    Eff.pure_apply, stepped]
  rfl

end Cursor

def Call.record (call : Call) (outer : List Call × World) : List Call × World :=
  (outer.1 ++ [call], outer.2)

inductive Owes (regex : Regex) (tokens : Tokens) : List Call → Nat → Option Cursor → Prop
  | unasked (position : Nat) : Owes regex tokens [.pass position] position none
  | underWay {position : Nat} {cursor : Cursor} :
      cursor.Meets regex tokens position → Owes regex tokens [] position (some cursor)

/-- Recorded or not, a search finds the same, and then no call is owed from where a separation goes
on. -/
theorem Owes.find {due : List Call} {position : Nat} {memory : Option Cursor}
    (owes : regex.Owes tokens due position memory) (inside : position ≤ tokens.size)
    (calls : List Call) (world : World) :
    ∃ later : Cursor,
      Cursor.find regex Call.record tokens position (memory, calls, world) =
        (.ok later.pending, some later, calls ++ due, world) ∧
      Cursor.find regex (fun _ world => world) tokens position (memory, world) =
        (.ok later.pending, some later, world) ∧
      ∀ first, later.pending = some first →
        regex.Owes tokens [] (Cursor.resumption first) (some later) := by
  cases owes with
  | unasked =>
      obtain ⟨later, stepped, resumes⟩ := (Cursor.meets_start inside).advance inside
      exact ⟨later, Cursor.find_of_none _ stepped _, Cursor.find_of_none _ stepped _,
        fun first pending => .underWay (resumes first pending)⟩
  | underWay meets =>
      obtain ⟨later, stepped, resumes⟩ := meets.advance inside
      rw [List.append_nil]
      exact ⟨later, Cursor.find_of_some _ meets.reached stepped _,
        Cursor.find_of_some _ meets.reached stepped _,
        fun first pending => .underWay (resumes first pending)⟩

/-- The calls of a full run from an offset on: one pass from there, or none if nothing is left. -/
def passes (size : Nat) (offset : Int) : List Call :=
  if 0 ≤ offset ∧ offset < size then [.pass offset.toNat] else []

theorem passes_natCast (size offset : Nat) :
    passes size offset = if offset < size then [.pass offset] else [] := by
  simp [passes]

end Regex

open Regex (Call)

theorem Regex.resumption_found (first : Regex.Match) :
    (Regex.found first).resumption = Regex.Cursor.resumption first := by
  simp [Found.resumption, Regex.found, Regex.Cursor.resumption]

/-- A recorded run reports what the run does and leaves the same world, and these are the calls that
are written down then. -/
structure SameRun (calls : List Call) {Own Plain : Type}
    (recorded : Report α × Own × List Call × World) (plain : Report α × Plain × World) :
    Prop where
  report : recorded.1 = plain.1
  world : recorded.2.2.2 = plain.2.2
  written : recorded.2.2.1 = calls

/-- The finder of a recorded pattern beside the finder of the pattern. They answer alike. A search
makes the calls that are due: with the first search one pass is due, and where a separation goes on
after an answer nothing is. -/
structure Finder.SinglePass (own : Finder (List Call × World) α) (plain : Finder World α)
    (tokens : Tokens) (origin : Nat)
    (Ready : List Call → Nat → own.Memory → plain.Memory → Prop) : Prop where
  starts : ∃ kept left, Ready [.pass origin] origin kept left ∧ ∀ calls world,
    own.start tokens (calls, world) = (.ok kept, calls, world) ∧
    plain.start tokens world = (.ok left, world)
  finds : ∀ {due : List Call} {position : Nat} {kept left}, Ready due position kept left →
    position < tokens.size → ∀ calls world, ∃ outcome now rest after,
      own.find tokens position (kept, calls, world) = (outcome, now, calls ++ due, after) ∧
      plain.find tokens position (left, world) = (outcome, rest, after) ∧
      ∀ found, outcome = .ok (some found) → Ready [] found.resumption now rest

namespace Finder.SinglePass

variable {own : Finder (List Call × World) α} {plain : Finder World α}
  {Ready : List Call → Nat → own.Memory → plain.Memory → Prop}

theorem sameRun (single : own.SinglePass plain tokens origin Ready) {due : List Call}
    (pending : Nat) {position : Nat} {kept : own.Memory} {left : plain.Memory}
    (ready : Ready due position kept left) (calls : List Call) (world : World) :
    SameRun (calls ++ if position < tokens.size then due else [])
      (course tokens (own.answer tokens) pending position (kept, calls, world))
      (course tokens (plain.answer tokens) pending position (left, world)) := by
  -- What is due is called for by the first search, so nothing is due in the rest of the run.
  induction position using forwards tokens.size generalizing pending due kept left calls world with
  | step position ih =>
      by_cases unfinished : position < tokens.size
      · obtain ⟨outcome, now, rest, after, ran, same, resumes⟩ :=
          single.finds ready unfinished calls world
        rw [course_eq_resume _ _ unfinished, course_eq_resume _ _ unfinished, if_pos unfinished,
          Finder.answer_of_find ran, Finder.answer_of_find same]
        rcases outcome with fault | _ | found
        · exact ⟨rfl, rfl, rfl⟩
        · exact ⟨rfl, rfl, rfl⟩
        · refine resume_relates pending found (fun _ => ⟨rfl, rfl, rfl⟩)
            (fun first run rest alike =>
              { alike with report := congrArg (Report.after first) alike.report })
            fun pending further => ?_
          have later := ih unfinished found.resumption further pending (resumes found rfl)
            (calls ++ due) after
          rwa [ite_self, List.append_nil] at later
      · rw [course, course, if_neg unfinished, if_neg unfinished, if_neg unfinished,
          List.append_nil]
        exact ⟨rfl, rfl, rfl⟩

theorem fullRun (single : own.SinglePass plain tokens origin Ready) (calls : List Call)
    (world : World) :
    ∃ report after,
      own.fullRun tokens origin (calls, world) =
        (report, calls ++ Regex.passes tokens.size origin, after) ∧
      plain.fullRun tokens origin world = (report, after) := by
  obtain ⟨kept, left, ready, starts⟩ := single.starts
  obtain ⟨started, same⟩ := starts calls world
  rw [fullRun_of_start own origin started, fullRun_of_start plain origin same,
    Regex.passes_natCast]
  have alike := single.sameRun origin ready calls world
  refine ⟨_, _, ?_, rfl⟩
  rw [← alike.report, ← alike.world, ← alike.written]

/-- The answers of a finder are changed, but not where a separation goes on after them. -/
theorem change (single : own.SinglePass plain tokens origin Ready)
    {next : Tokens → Option (Found α) → Eff (own.Memory × List Call × World) (Option (Found β))}
    {following : Tokens → Option (Found α) → Eff (plain.Memory × World) (Option (Found β))}
    (stays : ∀ answer kept left calls world, ∃ outcome after,
      next tokens answer (kept, calls, world) = (outcome, kept, calls, after) ∧
      following tokens answer (left, world) = (outcome, left, after) ∧
      ∀ found, outcome = .ok (some found) → ∃ first, answer = some first ∧
        found.resumption = first.resumption) :
    Finder.SinglePass
      ⟨own.Memory, own.start, fun tokens offset => own.find tokens offset >>= next tokens⟩
      ⟨plain.Memory, plain.start, fun tokens offset =>
        plain.find tokens offset >>= following tokens⟩ tokens origin Ready where
  starts := single.starts
  finds {due _ _ _} ready inside calls world := by
    obtain ⟨outcome, now, rest, after, ran, same, resumes⟩ :=
      single.finds ready inside calls world
    rcases outcome with fault | answer
    · exact ⟨.error fault, now, rest, after, Eff.bind_error ran _, Eff.bind_error same _, nofun⟩
    · obtain ⟨outcome, last, changed, alike, places⟩ := stays answer now rest (calls ++ due) after
      refine ⟨outcome, now, rest, last, (Eff.bind_ok ran _).trans changed,
        (Eff.bind_ok same _).trans alike, fun found is => ?_⟩
      obtain ⟨first, rfl, place⟩ := places found is
      rw [place]
      exact resumes first rfl

end Finder.SinglePass

structure Pattern.SinglePass (own : Pattern (List Call × World) α) (plain : Pattern World α)
    (tokens : Tokens) (origin : Nat) : Prop where
  label : own.label = plain.label
  finder : ∃ Ready, own.finder.SinglePass plain.finder tokens origin Ready

namespace Pattern.SinglePass

theorem regex {regex : Regex} (sameKind : tokens.kind = regex.source.kind) :
    (regex.observed Call.record : Pattern (List Call × World) Regex.Match).SinglePass regex.pattern
      tokens origin where
  label := rfl
  finder := by
    refine ⟨fun due position (kept left : Option Regex.Cursor) =>
      kept = left ∧ regex.Owes tokens due position left, ⟨none, none, ⟨rfl, .unasked origin⟩,
      fun calls world => ?_⟩, ?_⟩
    · exact ⟨regex.start_of_sameKind sameKind _ (calls, world),
        regex.start_of_sameKind sameKind _ world⟩
    · rintro due position memory _ ⟨rfl, owes⟩ inside calls world
      obtain ⟨later, recorded, plainly, resumes⟩ := owes.find inside.le calls world
      refine ⟨_, some later, some later, world, Eff.bind_ok recorded _, Eff.bind_ok plainly _,
        fun found is => ?_⟩
      obtain ⟨first, pending, rfl⟩ := Option.map_eq_some_iff.mp (Except.ok.inj is)
      rw [Regex.resumption_found]
      exact ⟨rfl, resumes first pending⟩

variable {own : Pattern (List Call × World) α} {plain : Pattern World α}

theorem captured (single : own.SinglePass plain tokens origin) :
    own.captured.SinglePass plain.captured tokens origin where
  label := congrArg Label.captured single.label
  finder := by
    obtain ⟨Ready, finder⟩ := single.finder
    refine ⟨Ready, finder.change fun answer kept left calls world =>
      ⟨.ok (answer.map (capture tokens)), world, rfl, rfl, fun found is => ?_⟩⟩
    obtain ⟨first, rfl, rfl⟩ := Option.map_eq_some_iff.mp (Except.ok.inj is)
    exact ⟨first, rfl, rfl⟩

theorem mapped (single : own.SinglePass plain tokens origin) (change : α → Eff World β)
    (name : Option String) :
    (own.mapped (fun value => (change value).besideMemory) name).SinglePass
      (plain.mapped change name) tokens origin where
  label := congrArg (Label.mapped · name) single.label
  finder := by
    obtain ⟨Ready, finder⟩ := single.finder
    refine ⟨Ready, finder.change fun answer kept left calls world => ?_⟩
    cases answer with
    | none =>
        refine ⟨.ok none, world, rfl, rfl, fun found is => ?_⟩
        cases is
    | some first =>
        simp only [convert, Eff.besideMemory, Eff.within, Eff.bind_apply]
        rcases change first.value world with ⟨fault | value, after⟩
        · refine ⟨.error fault, after, rfl, rfl, fun found is => ?_⟩
          cases is
        · refine ⟨_, after, rfl, rfl, fun found is => ?_⟩
          cases is
          exact ⟨first, rfl, rfl⟩

theorem labelled (single : own.SinglePass plain tokens origin) (label : Label) :
    (own.labelled label).SinglePass (plain.labelled label) tokens origin where
  label := rfl
  finder := single.finder

theorem fullRun (single : own.SinglePass plain tokens origin) (inside : origin ≤ tokens.size)
    (calls : List Call) (world : World) :
    ∃ report after,
      own.fullRun tokens origin (calls, world) =
        (report, calls ++ Regex.passes tokens.size origin, after) ∧
      plain.fullRun tokens origin world = (report, after) := by
  obtain ⟨Ready, finder⟩ := single.finder
  rw [fullRun_inside own inside, fullRun_inside plain inside]
  exact finder.fullRun calls world

theorem scan_separated (single : own.SinglePass plain tokens origin) (inside : origin ≤ tokens.size)
    (calls : List Call) (world : World) :
    ∃ outcome after,
      own.separated.scan tokens origin (calls, world) =
        (outcome, calls ++ Regex.passes tokens.size origin, after) ∧
      plain.separated.scan tokens origin world = (outcome, after) ∧
      ∀ answer, outcome = .ok answer → ∃ segments, answer = some ⟨tokens.size, segments⟩ := by
  obtain ⟨report, after, recorded, plainly⟩ := single.fullRun inside calls world
  rw [separated_scan, separated_scan, recorded, plainly, single.label]
  refine ⟨_, after, rfl, rfl, fun answer is => ⟨report.segments, ?_⟩⟩
  cases ends : report.ending.outcome plain.label tokens.size <;> rw [ends] at is <;> cases is
  rfl

/-- All segments are listed by one scan, which reaches to the end of the input. Nothing is asked
there. -/
theorem separated (single : own.SinglePass plain tokens origin) :
    own.separated.SinglePass plain.separated tokens origin where
  label := congrArg Label.separated single.label
  finder := by
    refine ⟨fun due position _ _ => (due = [.pass origin] ∧ position = origin) ∨
      (due = [] ∧ tokens.size ≤ position), ⟨(), (), .inl ⟨rfl, rfl⟩, fun _ _ => ⟨rfl, rfl⟩⟩, ?_⟩
    rintro due position _ _ (⟨rfl, rfl⟩ | ⟨rfl, finished⟩) inside calls world
    · obtain ⟨outcome, after, scanned, alike, reaches⟩ :=
        single.scan_separated inside.le calls world
      rw [Regex.passes_natCast, if_pos inside] at scanned
      rcases outcome with fault | answer
      · have probed := probe_of_error _ _ inside scanned
        have same := probe_of_error _ _ inside alike
        exact ⟨.error fault, (), (), after, congrArg (fun run => (run.1, (), run.2)) probed,
          congrArg (fun run => (run.1, (), run.2)) same, nofun⟩
      · obtain ⟨segments, rfl⟩ := reaches answer rfl
        have probed := probe_of_some _ _ inside scanned
        have same := probe_of_some _ _ inside alike
        refine ⟨_, (), (), after, congrArg (fun run => (run.1, (), run.2)) probed,
          congrArg (fun run => (run.1, (), run.2)) same, ?_⟩
        rintro _ ⟨⟩
        have ends : ((⟨tokens.size, segments⟩ : Hit _).at position).resumption = tokens.size :=
          if_pos (Int.ofNat_lt.mpr inside)
        exact .inr ⟨rfl, Nat.le_of_eq ends.symm⟩
    · omega

end Pattern.SinglePass

namespace Regex

/-- How a pattern is made from the pattern of one expression. -/
inductive Wrapper (World : Type) : Type → Type 1
  | expression : Wrapper World Match
  | mapped {α β : Type} (wrapper : Wrapper World α) (change : α → Eff World β)
      (name : Option String) : Wrapper World β
  | captured {α : Type} (wrapper : Wrapper World α) : Wrapper World (Tokens × α)
  | separated {α : Type} (wrapper : Wrapper World α) : Wrapper World (List (Segment α))
  | labelled {α : Type} (wrapper : Wrapper World α) (label : Label) : Wrapper World α

namespace Wrapper

def around (inner : Pattern World Match) : {α : Type} → Wrapper World α → Pattern World α
  | _, .expression => inner
  | _, .mapped wrapper change name => (wrapper.around inner).mapped change name
  | _, .captured wrapper => (wrapper.around inner).captured
  | _, .separated wrapper => (wrapper.around inner).separated
  | _, .labelled wrapper label => (wrapper.around inner).labelled label

def aside : {α : Type} → Wrapper World α → Wrapper (List Call × World) α
  | _, .expression => .expression
  | _, .mapped wrapper change name =>
      .mapped wrapper.aside (fun value => (change value).besideMemory) name
  | _, .captured wrapper => .captured wrapper.aside
  | _, .separated wrapper => .separated wrapper.aside
  | _, .labelled wrapper label => .labelled wrapper.aside label

def pattern (regex : Regex) (wrapper : Wrapper World α) : Pattern World α :=
  wrapper.around regex.pattern

def recorded (regex : Regex) (wrapper : Wrapper World α) : Pattern (List Call × World) α :=
  wrapper.aside.around (regex.observed Call.record)

def consumed (wrapper : Wrapper World α) : Wrapper World Tokens :=
  .mapped (.captured wrapper) (fun pair => pure pair.1) (some "operator.itemgetter(0)")

theorem pattern_consumed (regex : Regex) (wrapper : Wrapper World α) :
    wrapper.consumed.pattern regex = (wrapper.pattern regex).consumed := rfl

theorem singlePass {regex : Regex} (sameKind : tokens.kind = regex.source.kind) :
    {α : Type} → (wrapper : Wrapper World α) →
    (wrapper.recorded regex).SinglePass (wrapper.pattern regex) tokens origin
  | _, .expression => .regex sameKind
  | _, .mapped wrapper change name => (wrapper.singlePass sameKind).mapped change name
  | _, .captured wrapper => (wrapper.singlePass sameKind).captured
  | _, .separated wrapper => (wrapper.singlePass sameKind).separated
  | _, .labelled wrapper label => (wrapper.singlePass sameKind).labelled label

/-- A full run of an expression, however it is wrapped, drained or listed, begins exactly one pass
through the input, at its own offset, and none at the end of the input. The expression is called in
no other way, and the run is that of the pattern whose calls are not written down. -/
theorem runs_in_one_pass (regex : Regex) (wrapper : Wrapper World α) (tokens : Tokens)
    (sameKind : tokens.kind = regex.source.kind) (offset : Int) (world : World) :
    ∃ report after,
      (wrapper.pattern regex).RunsTo tokens offset world report after ∧
      (wrapper.recorded regex).RunsTo tokens offset ([], world) report
        (passes tokens.size offset, after) := by
  by_cases within : 0 ≤ offset ∧ offset ≤ tokens.size
  · obtain ⟨place, rfl⟩ := Int.eq_ofNat_of_zero_le within.1
    have inside : place ≤ tokens.size := Int.ofNat_le.mp within.2
    obtain ⟨report, after, recorded, plainly⟩ :=
      (wrapper.singlePass sameKind).fullRun inside [] world
    rw [List.nil_append] at recorded
    exact ⟨report, after, .of_fullRun plainly, .of_fullRun recorded⟩
  · have outside : passes tokens.size offset = [] := if_neg (by omega)
    have recorded := (wrapper.recorded regex).fullRun_outside within ([], world)
    have plainly := (wrapper.pattern regex).fullRun_outside within world
    rw [outside]
    exact ⟨_, world, .of_fullRun plainly, .of_fullRun recorded⟩

def letterOrEdge : Regex :=
  ofProgram (.ofString "b|\\b") false
    ⟨#[.accept, .assert .wordEdge 0, .char 98 0, .split 2 1], 3, 0⟩ []

/-- Matches that adjoin each other, and edges, of which the pass reports the second one twice before
it comes to the last letter. -/
theorem letterOrEdge_runs_in_one_pass :
    compile (.ofString "b|\\b") false = .ok letterOrEdge ∧
    (Tokens.ofString " bb  ab").kind = letterOrEdge.source.kind ∧
    [0, 1, 2, 3, 4, 5, 6, 7].map (fun place =>
      (letterOrEdge.matchAt? (.ofString " bb  ab") place).map (·.stop)) =
      [none, some 2, some 3, some 3, none, some 5, some 7, some 7] ∧
    ∃ report after,
      (letterOrEdge.pattern : Pattern Unit Match).consumed.RunsTo (.ofString " bb  ab") 0 () report
        after ∧
      ((consumed .expression : Wrapper Unit Tokens).recorded letterOrEdge).RunsTo
        (.ofString " bb  ab") 0 ([], ()) report ([.pass 0], after) := by
  have compiled : compile (.ofString "b|\\b") false = .ok letterOrEdge := by
    with_unfolding_all rfl
  obtain ⟨report, after, plainly, recorded⟩ :=
    runs_in_one_pass letterOrEdge (consumed .expression : Wrapper Unit Tokens)
      (.ofString " bb  ab") rfl 0 ()
  rw [pattern_consumed] at plainly
  refine ⟨compiled, rfl, ?_, report, after, plainly, recorded⟩
  cbv

end Wrapper

end Regex

end SpanEdit
