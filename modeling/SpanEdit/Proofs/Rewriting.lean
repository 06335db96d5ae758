import SpanEdit.Proofs.Library
import SpanEdit.Proofs.Piecewise

/-!
Scripts as rewriters: one pass over the input, in which the first rule that succeeds at a position
decides. A script searches for its rules together and ahead of the position, keeps what it finds,
and joins what it has found at the end; it comes to the same.
-/

namespace SpanEdit

variable {World : Type}

def Rule.first (tokens : Tokens) (position : Nat) :
    List (Rule World) → Eff World (Option (Option Value × Int))
  | [] => pure none
  | rule :: rest => do
      match ← rule.pattern.scan tokens position with
      | some hit => pure (some (rule.replacement, hit.stop))
      | none => first tokens position rest

def Rule.written (replacement : Option Value) (claim : Tokens) : Tokens :=
  match replacement with
  | some (.tokens text) => text
  | _ => claim

/-- What a rewriter has written, and the slices of the input that rules have claimed. -/
structure Rewriting where
  output : Tokens
  claims : List Tokens

namespace Rewriting

def claiming (rewriting : Rewriting) (text claim : Tokens) : Rewriting :=
  ⟨text ++ rewriting.output, claim :: rewriting.claims⟩

def copying (rewriting : Rewriting) (text : Tokens) : Rewriting :=
  ⟨text ++ rewriting.output, rewriting.claims⟩

end Rewriting

/-- The rewriter, from a position on. A token is copied where no rule succeeds, and where the first
one that does consumes nothing. -/
def Script.rewrite (script : Script World) (tokens : Tokens) (position : Nat) :
    Eff World Rewriting :=
  if position < tokens.size then do
    match ← Rule.first tokens position script.rules with
    | some (replacement, stop) =>
        if position < stop then
          let claim := tokens.slice position stop.toNat
          return (← script.rewrite tokens stop.toNat).claiming
            (Rule.written replacement claim) claim
        else return (← script.rewrite tokens (position + 1)).copying (tokens.token position)
    | none => return (← script.rewrite tokens (position + 1)).copying (tokens.token position)
  else return ⟨.empty tokens.kind, []⟩
termination_by tokens.size - position

/-- The rule is made for this input: its pattern is one of the library or a pure one that can only
scan, its scans do not fail and stay within the input, and its replacement is of the kind of the
input. -/
structure Rule.Fits (rule : Rule World) (tokens : Tokens) : Prop where
  pattern : Library tokens.kind True rule.pattern ∨ rule.pattern.reach = .scanOnly
  scans : ∃ verdict : Nat → Option (Hit rule.Out), ∀ place, place < tokens.size →
    (∀ world, rule.pattern.scan tokens place world = (.ok (verdict place), world)) ∧
      ∀ hit, verdict place = some hit → hit.stop ≤ tokens.size
  replacement : ∀ value, rule.replacement = some value → value.IsOf tokens.kind

namespace Rule

variable {tokens : Tokens} {rules : List (Rule World)}

theorem Fits.exact {rule : Rule World} (fits : rule.Fits tokens) :
    ∃ scan, rule.pattern.Exact tokens scan := by
  rcases fits.pattern with library | scansOnly
  · exact library.exact
  · obtain ⟨verdict, scans⟩ := fits.scans
    obtain ⟨⟨label, scan, reach⟩, replacement⟩ := rule
    obtain rfl : reach = .scanOnly := scansOnly
    exact ⟨fun place => .ok (verdict place), Pattern.exact_of_scan
      (fun place inside => (scans place inside).1) (.of_total fun _ _ _ => nofun)
      fun _ _ _ => nofun⟩

theorem exact_pattern (fits : ∀ rule ∈ rules, rule.Fits tokens) :
    ∃ scan, (Script.pattern ⟨rules⟩).Exact tokens scan := by
  have each : ∀ pattern ∈ rules.map tagged, ∃ scan, pattern.Exact tokens scan := by
    intro pattern member
    obtain ⟨rule, listed, rfl⟩ := List.mem_map.mp member
    obtain ⟨scan, exact⟩ := (fits rule listed).exact
    exact ⟨_, exact.captured.mapped (fun pair => (rule.replacement, pair.1)) none⟩
  obtain ⟨scan, Valid, exact⟩ := Choice.Exact.of_forall each
  exact ⟨scan, exact.choice⟩

theorem scan_pattern (rules : List (Rule World)) (tokens : Tokens) (position : Nat) :
    (Script.pattern ⟨rules⟩).scan tokens position = (do
      return (← first tokens position rules).map fun found =>
        ⟨found.2, found.1, tokens.part position found.2⟩) := by
  show Choice.scan tokens position (rules.map tagged) = _
  induction rules with
  | nil => rfl
  | cons rule rest ih =>
      funext world
      simp only [List.map_cons, Choice.scan, first, ih, tagged, Pattern.mapped, Pattern.captured,
        Eff.bind_apply]
      rcases rule.pattern.scan tokens position world with ⟨fault | _ | hit, after⟩ <;> rfl

theorem answer_of_first {scan : Verdicts (Option Value × Tokens)}
    (exact : (Script.pattern ⟨rules⟩).Exact tokens scan) {position : Nat}
    (inside : position < tokens.size) {world after : World} {found : Option (Option Value × Int)}
    (ran : first tokens position rules world = (.ok found, after)) :
    scan position = .ok (found.map fun claimed =>
      ⟨claimed.2, claimed.1, tokens.part position claimed.2⟩) := by
  have scanned := exact.scans position inside world
  rw [scan_pattern, Eff.bind_ok ran] at scanned
  exact (congrArg Prod.fst scanned).symm

theorem first_of_fits (fits : ∀ rule ∈ rules, rule.Fits tokens) {position : Nat}
    (inside : position < tokens.size) (world : World) :
    ∃ found, first tokens position rules world = (.ok found, world) ∧
      ∀ replacement stop, found = some (replacement, stop) →
        stop ≤ tokens.size ∧ ∃ rule ∈ rules, rule.replacement = replacement := by
  induction rules with
  | nil => exact ⟨none, rfl, nofun⟩
  | cons rule rest ih =>
      obtain ⟨verdict, scans⟩ := (fits rule List.mem_cons_self).scans
      obtain ⟨scanned, within⟩ := scans position inside
      rcases answer : verdict position with _ | hit
      · obtain ⟨found, same, bounds⟩ :=
          ih fun other member => fits other (List.mem_cons_of_mem rule member)
        refine ⟨found, ?_, fun replacement stop is => ?_⟩
        · rw [first, Eff.bind_apply, scanned, answer]
          exact same
        · obtain ⟨bounded, other, member, own⟩ := bounds replacement stop is
          exact ⟨bounded, other, List.mem_cons_of_mem rule member, own⟩
      · refine ⟨some (rule.replacement, hit.stop), ?_, ?_⟩
        · rw [first, Eff.bind_apply, scanned, answer]
          rfl
        · rintro _ _ ⟨⟩
          exact ⟨within hit answer, rule, List.mem_cons_self, rfl⟩

end Rule

namespace Tokens

theorem empty_append {tokens : Tokens} {kind : Kind} (same : tokens.kind = kind) :
    empty kind ++ tokens = tokens := by
  subst same
  cases tokens <;> simp [empty, Tokens.kind]

theorem append_empty {tokens : Tokens} {kind : Kind} (same : tokens.kind = kind) :
    tokens ++ empty kind = tokens := by
  subst same
  cases tokens <;> simp [empty, Tokens.kind]

theorem append_assoc {first second : Tokens} (same : second.kind = first.kind) (third : Tokens) :
    first ++ second ++ third = first ++ (second ++ third) := by
  cases first <;> cases second <;> cases third <;> simp_all [Tokens.kind]
  all_goals rfl

theorem foldl_append {first second : Tokens} (same : second.kind = first.kind)
    {rest : List Tokens} (kinds : ∀ part ∈ rest, part.kind = first.kind) :
    rest.foldl (· ++ ·) (first ++ second) = first ++ rest.foldl (· ++ ·) second := by
  induction rest generalizing second with
  | nil => rfl
  | cons part rest ih =>
      have others := fun other member => kinds other (List.mem_cons_of_mem part member)
      have own : (second ++ part).kind = first.kind := by rw [kind_append, same]
      rw [List.foldl_cons, List.foldl_cons, append_assoc same part, ih own others]

theorem concat_cons {kind : Kind} {first : Tokens} {rest : List Tokens}
    (same : first.kind = kind) (kinds : ∀ part ∈ rest, part.kind = kind) :
    concat kind (first :: rest) = first ++ concat kind rest := by
  have others : ∀ part ∈ rest, part.kind = first.kind := fun part member => by
    rw [kinds part member, same]
  have none : (empty kind).kind = first.kind := by rw [kind_empty, same]
  rw [concat, List.foldl_cons, empty_append same]
  have appended := foldl_append none others
  rwa [append_empty same] at appended

end Tokens

def Rule.text : Segment (Option Value × Tokens) → Tokens
  | .unmatched text _ => text
  | .matched tagged _ _ => written tagged.1 tagged.2

section Text

variable {tokens : Tokens} {segments : List (Segment (Option Value × Tokens))}

/-- Where every replacement is of the kind of the input, an edit joins what the segments become. -/
theorem Rule.joined_text (kinds : ∀ part ∈ segments.map text, part.kind = tokens.kind)
    (results : ∀ tagged start stop, Segment.matched tagged start stop ∈ segments →
      result tagged = .ofTokens (written tagged.1 tagged.2))
    {edited : Except Fault Tokens}
    (joins : Joins tokens.kind (segments.map (Segment.output result)) edited) :
    edited = .ok (.concat tokens.kind (segments.map text)) := by
  have outputs : segments.map (Segment.output result) = (segments.map text).map .ofTokens := by
    rw [List.map_map]
    refine List.map_congr_left fun segment member => ?_
    cases segment with
    | unmatched text start => rfl
    | matched tagged start stop => exact results tagged start stop member
  rw [outputs] at joins
  exact joins.eq_concat kinds

end Text

def Rule.claims (segments : List (Segment (Option Value × Tokens))) : List Tokens :=
  segments.filterMap fun segment => (Script.valueOf? segment).map (·.2)

/-- From `pending` on the segments say what the rewriter does from `position` on, where it has
copied what lies between. -/
structure Rewriting.Covers (rewriting : Rewriting) (tokens : Tokens) (pending position : Nat)
    (segments : List (Segment (Option Value × Tokens))) : Prop where
  kinds : ∀ segment ∈ segments, (Rule.text segment).kind = tokens.kind
  results : ∀ tagged start stop, Segment.matched tagged start stop ∈ segments →
    Rule.result tagged = .ofTokens (Rule.written tagged.1 tagged.2)
  kind : rewriting.output.kind = tokens.kind
  output : Tokens.concat tokens.kind (segments.map Rule.text) =
    tokens.slice pending position ++ rewriting.output
  claims : Rule.claims segments = rewriting.claims

namespace Rewriting.Covers

variable {rewriting : Rewriting} {tokens : Tokens} {pending position : Nat}
  {segments : List (Segment (Option Value × Tokens))}

theorem finished (tokens : Tokens) (place : Nat) :
    Covers ⟨.empty tokens.kind, []⟩ tokens place place [] where
  kinds := by simp
  results := by simp
  kind := Tokens.kind_empty tokens.kind
  output := by
    rw [Tokens.slice_empty, Tokens.empty_append (Tokens.kind_empty tokens.kind)]
    rfl
  claims := rfl

theorem copying (covers : Covers rewriting tokens pending (position + 1) segments)
    (ordered : pending ≤ position) :
    Covers (rewriting.copying (tokens.token position)) tokens pending position segments where
  kinds := covers.kinds
  results := covers.results
  kind := by
    rw [Rewriting.copying, Tokens.kind_append]
    exact Tokens.kind_slice tokens position (position + 1)
  output := by
    have joined := tokens.slice_append_slice ordered (Nat.le_succ position)
    rw [covers.output, ← joined, Tokens.append_assoc (by simp)]
    rfl
  claims := covers.claims

theorem kinds_text (covers : Covers rewriting tokens pending position segments) :
    ∀ part ∈ segments.map Rule.text, part.kind = tokens.kind := by
  intro part member
  obtain ⟨segment, listed, rfl⟩ := List.mem_map.mp member
  exact covers.kinds segment listed

theorem claiming {stop : Nat} (covers : Covers rewriting tokens stop stop segments)
    {replacement : Option Value}
    (own : ∀ value, replacement = some value → value.IsOf tokens.kind) :
    Covers
      (rewriting.claiming (Rule.written replacement (tokens.slice position stop))
        (tokens.slice position stop))
      tokens position position
      (.matched (replacement, tokens.slice position stop) position stop :: segments) := by
  let claim := tokens.slice position stop
  have result : Rule.result (replacement, claim) = .ofTokens (Rule.written replacement claim) := by
    cases replacement with
    | none => rfl
    | some value =>
        obtain ⟨text, rfl, -⟩ := own value rfl
        rfl
  have kind : (Rule.written replacement claim).kind = tokens.kind := by
    cases replacement with
    | none => exact Tokens.kind_slice tokens position stop
    | some value =>
        obtain ⟨text, rfl, same⟩ := own value rfl
        exact same
  constructor
  case kinds => exact List.forall_mem_cons.mpr ⟨kind, covers.kinds⟩
  case results =>
    intro tagged start last member
    rcases List.mem_cons.mp member with first | listed
    · cases first
      exact result
    · exact covers.results tagged start last listed
  case kind =>
    rw [Rewriting.claiming, Tokens.kind_append]
    exact kind
  case output =>
    have rest : Tokens.concat tokens.kind (segments.map Rule.text) = rewriting.output := by
      rw [covers.output, Tokens.slice_empty, Tokens.empty_append covers.kind]
    have whole := Tokens.concat_cons kind covers.kinds_text
    rw [rest] at whole
    rw [List.map_cons, Tokens.slice_empty, Tokens.empty_append]
    · exact whole
    · rw [Rewriting.claiming, Tokens.kind_append]
      exact kind
  case claims => exact congrArg (claim :: ·) covers.claims

theorem after_gap (covers : Covers rewriting tokens position position segments)
    (ordered : pending ≤ position) :
    Covers rewriting tokens pending position (gap tokens pending position ++ segments) := by
  by_cases nonempty : pending < position
  · rw [gap, if_pos nonempty]
    constructor
    case kinds =>
      exact List.forall_mem_cons.mpr ⟨Tokens.kind_slice tokens pending position, covers.kinds⟩
    case results =>
      intro tagged start stop member
      rcases List.mem_cons.mp member with first | listed
      · cases first
      · exact covers.results tagged start stop listed
    case kind => exact covers.kind
    case output =>
      have rest := covers.output
      rw [Tokens.slice_empty, Tokens.empty_append covers.kind] at rest
      have whole := Tokens.concat_cons (Tokens.kind_slice tokens pending position) covers.kinds_text
      rw [rest] at whole
      exact whole
    case claims => exact covers.claims
  · have same : pending = position := by omega
    rw [gap, if_neg nonempty, same]
    exact covers

theorem joined (covers : Covers rewriting tokens 0 0 segments)
    {result : Except Fault Tokens}
    (joins : Joins tokens.kind (segments.map (Segment.output Rule.result)) result) :
    result = .ok rewriting.output := by
  have output := covers.output
  rw [Tokens.slice_empty, Tokens.empty_append covers.kind] at output
  rw [Rule.joined_text covers.kinds_text covers.results joins, output]

end Rewriting.Covers

namespace Script

variable {script : Script World} {tokens : Tokens} {scan : Verdicts (Option Value × Tokens)}

theorem apply_of_segments [Journal World] {segments : List (Segment (Option Value × Tokens))}
    {world after : World} (listed : script.pattern.segments tokens world = (.ok segments, after)) :
    Joins tokens.kind (segments.map (Segment.output Rule.result)) (script.apply tokens world).1 :=
  edit_of_segments Rule.isComparable_result Rule.isHonest_result listed

/-- One step of the rewriter: the first rule that succeeds consumes something, or a token is
copied. -/
theorem rewrite_step (script : Script World) {position : Nat} (unfinished : position < tokens.size)
    {world after : World} {found : Option (Option Value × Int)}
    (first : Rule.first tokens position script.rules world = (.ok found, after)) :
    (∃ replacement stop, found = some (replacement, stop) ∧ position < stop ∧
      script.rewrite tokens position world = (do
        return (← script.rewrite tokens stop.toNat).claiming
          (Rule.written replacement (tokens.slice position stop.toNat))
          (tokens.slice position stop.toNat) : Eff World Rewriting) after) ∨
    ((∀ replacement stop, found = some (replacement, stop) → stop ≤ position) ∧
      script.rewrite tokens position world = (do
        return (← script.rewrite tokens (position + 1)).copying (tokens.token position) :
          Eff World Rewriting) after) := by
  rw [rewrite, if_pos unfinished, Eff.bind_ok first]
  rcases found with _ | ⟨replacement, stop⟩
  · exact .inr ⟨by simp, rfl⟩
  · by_cases consumes : position < stop
    · exact .inl ⟨replacement, stop, rfl, consumes, by simp only [consumes, ↓reduceIte]⟩
    · refine .inr ⟨?_, by simp only [consumes, ↓reduceIte]⟩
      rintro _ _ ⟨⟩
      exact Int.not_lt.mp consumes

/-- The reference separates the input at what the rewriter claims. -/
theorem rewrite_covers (fits : ∀ rule ∈ script.rules, rule.Fits tokens)
    (exact : script.pattern.Exact tokens scan) (world : World) {pending position : Nat}
    (ordered : pending ≤ position) (inside : position ≤ tokens.size) :
    ∃ rewriting, script.rewrite tokens position world = (.ok rewriting, world) ∧
      (reference tokens scan pending position).ending = .complete ∧
      rewriting.Covers tokens pending position
        (reference tokens scan pending position).segments := by
  induction position using forwards tokens.size generalizing pending with
  | step position later =>
      by_cases unfinished : position < tokens.size
      · obtain ⟨found, first, bounds⟩ := Rule.first_of_fits fits unfinished world
        have answer := Rule.answer_of_first exact unfinished first
        rcases script.rewrite_step unfinished first with
          ⟨replacement, stop, rfl, consumes, stepped⟩ | ⟨still, stepped⟩
        · obtain ⟨bounded, rule, member, own⟩ := bounds replacement stop rfl
          obtain ⟨rewriting, ran, complete, covers⟩ :=
            later unfinished stop.toNat (by omega) (Nat.le_refl _) (by omega)
          have places : (stop.toNat : Int) = stop := by omega
          have claim : tokens.part position stop = tokens.slice position stop.toNat := by
            rw [← places, Tokens.part_natCast tokens (by omega) (by omega)]
            rfl
          rw [stepped, Eff.bind_ok ran, reference_eq_follow unfinished, answer]
          simp only [Except.map, Option.map]
          rw [follow_consuming _ _ consumes bounded]
          refine ⟨_, rfl, complete, ?_⟩
          have kind : ∀ value, replacement = some value → value.IsOf tokens.kind :=
            fun value is => (fits rule member).replacement value (own.trans is)
          have claimed := (covers.claiming kind).after_gap ordered
          simpa [claim] using claimed
        · obtain ⟨rewriting, ran, complete, covers⟩ :=
            later unfinished (position + 1) (Nat.lt_succ_self position) (Nat.le_succ_of_le ordered)
              unfinished
          have passed : reference tokens scan pending position =
              reference tokens scan pending (position + 1) := by
            rw [reference_eq_follow unfinished, answer]
            rcases found with _ | ⟨replacement, stop⟩
            · rfl
            · exact follow_still _ _ unfinished (still replacement stop rfl)
          rw [stepped, Eff.bind_ok ran, passed]
          exact ⟨_, rfl, complete, covers.copying ordered⟩
      · have ended : position = tokens.size := by omega
        rw [rewrite, if_neg unfinished, reference_finished (by omega), ended]
        have covers := (Rewriting.Covers.finished tokens tokens.size).after_gap (ended ▸ ordered)
        rw [List.append_nil] at covers
        exact ⟨_, rfl, rfl, covers⟩

theorem segments_pattern (fits : ∀ rule ∈ script.rules, rule.Fits tokens) (world : World) :
    ∃ rewriting segments, script.rewrite tokens 0 world = (.ok rewriting, world) ∧
      script.pattern.segments tokens world = (.ok segments, world) ∧
      rewriting.Covers tokens 0 0 segments := by
  obtain ⟨scan, exact⟩ := Rule.exact_pattern fits
  obtain ⟨rewriting, ran, complete, covers⟩ :=
    rewrite_covers fits exact world (Nat.le_refl 0) (Nat.zero_le tokens.size)
  refine ⟨rewriting, _, ran, ?_, covers⟩
  have listed := exact.toList_eq 0
  rw [complete] at listed
  exact congrFun listed world

theorem rewrite_unchanged (fits : ∀ rule ∈ script.rules, rule.Fits tokens)
    (keeps : ∀ rule ∈ script.rules, rule.replacement = none) (world : World) {position : Nat}
    (inside : position ≤ tokens.size) :
    ∃ claims, script.rewrite tokens position world =
      (.ok ⟨tokens.slice position tokens.size, claims⟩, world) := by
  induction position using forwards tokens.size with
  | step position later =>
      by_cases unfinished : position < tokens.size
      · obtain ⟨found, first, bounds⟩ := Rule.first_of_fits fits unfinished world
        rcases script.rewrite_step unfinished first with
          ⟨replacement, stop, rfl, consumes, stepped⟩ | ⟨-, stepped⟩
        · obtain ⟨bounded, rule, member, own⟩ := bounds replacement stop rfl
          obtain rfl : replacement = none := own.symm.trans (keeps rule member)
          obtain ⟨claims, ran⟩ := later unfinished stop.toNat (by omega) (by omega)
          have joined : tokens.slice position stop.toNat ++
              tokens.slice stop.toNat tokens.size = tokens.slice position tokens.size :=
            tokens.slice_append_slice (by omega) (by omega)
          rw [stepped, Eff.bind_ok ran, ← joined]
          exact ⟨_, rfl⟩
        · obtain ⟨claims, ran⟩ :=
            later unfinished (position + 1) (Nat.lt_succ_self position) unfinished
          rw [stepped, Eff.bind_ok ran,
            ← tokens.slice_append_slice (Nat.le_succ position) unfinished]
          exact ⟨claims, rfl⟩
      · have ended : position = tokens.size := by omega
        rw [rewrite, if_neg unfinished, ended, Tokens.slice_empty]
        exact ⟨[], rfl⟩

def replacing (change : Rule World → Option Value) (script : Script World) : Script World :=
  ⟨script.rules.map fun rule => { rule with replacement := change rule }⟩

theorem first_replacing (change : Rule World → Option Value) (tokens : Tokens) (position : Nat)
    (rules : List (Rule World)) :
    Eff.Relates Eq (fun found other first second =>
        other.map Prod.snd = found.map Prod.snd ∧ first = second) (fun _ => Eq)
      (Rule.first tokens position rules)
      (Rule.first tokens position
        (rules.map fun rule => { rule with replacement := change rule })) := by
  induction rules with
  | nil => exact .pure fun _ _ same => ⟨rfl, same⟩
  | cons rule rest ih =>
      refine (Eff.agrees_self (rule.pattern.scan tokens position)).bind ?_
      rintro _ hit world _ ⟨rfl, rfl⟩
      cases hit with
      | none => exact ih world world rfl
      | some hit => exact .inl ⟨_, _, world, world, rfl, rfl, rfl, rfl⟩

/-- What the rules claim does not depend on the replacements: none of them is read again. -/
theorem rewrite_replacing (change : Rule World → Option Value) (script : Script World)
    (tokens : Tokens) (position : Nat) :
    Eff.Relates Eq (fun rewriting other first second =>
        other.claims = rewriting.claims ∧ first = second) (fun _ => Eq)
      (script.rewrite tokens position) ((script.replacing change).rewrite tokens position) := by
  induction position using forwards tokens.size with
  | step position later =>
      have own := rewrite.eq_def script tokens position
      have other := rewrite.eq_def (script.replacing change) tokens position
      by_cases unfinished : position < tokens.size
      · let token := tokens.token position
        have copied : Eff.Relates Eq (fun rewriting other first second =>
              other.claims = rewriting.claims ∧ first = second) (fun _ => Eq)
            (do return (← script.rewrite tokens (position + 1)).copying token)
            (do return (← (script.replacing change).rewrite tokens (position + 1)).copying token) :=
          (later unfinished (position + 1) (Nat.lt_succ_self position)).map _ _
            fun _ _ _ _ same => same
        rw [own, other, if_pos unfinished, if_pos unfinished]
        refine (first_replacing change tokens position script.rules).bind ?_
        rintro found replaced world _ ⟨same, rfl⟩
        rcases found with _ | ⟨replacement, stop⟩ <;>
          rcases replaced with _ | ⟨changed, last⟩ <;> cases same
        · exact copied world world rfl
        · by_cases consumes : position < stop
          · simp only [consumes, ↓reduceIte]
            let claim := tokens.slice position stop.toNat
            exact (later unfinished stop.toNat (by omega)).map
              (·.claiming (Rule.written replacement claim) claim)
              (·.claiming (Rule.written changed claim) claim)
              (fun _ _ _ _ same => ⟨congrArg (claim :: ·) same.1, same.2⟩) world world rfl
          · simp only [consumes, ↓reduceIte]
            exact copied world world rfl
      · rw [own, other, if_neg unfinished, if_neg unfinished]
        exact .pure fun _ _ same => ⟨rfl, same⟩

/-- A script edits its input as the rewriter does, and finds what the rewriter claims; the rewriter
reads no replacement again, and copies its input where there is none. -/
theorem apply_eq_rewrite [Journal World] (fits : ∀ rule ∈ script.rules, rule.Fits tokens)
    (world : World) :
    ∃ rewriting, script.rewrite tokens 0 world = (.ok rewriting, world) ∧
      (script.apply tokens world).1 = .ok rewriting.output ∧
      script.find tokens world = (.ok rewriting.claims, world) ∧
      (∀ change, ∃ output, (script.replacing change).rewrite tokens 0 world =
        (.ok ⟨output, rewriting.claims⟩, world)) ∧
      ((∀ rule ∈ script.rules, rule.replacement = none) → rewriting.output = tokens) := by
  obtain ⟨rewriting, segments, ran, listed, covers⟩ := segments_pattern fits world
  refine ⟨rewriting, ran, covers.joined (apply_of_segments listed), ?_,
    fun change => ?_, fun keeps => ?_⟩
  · rw [find, Eff.bind_ok listed, ← covers.claims]
    rfl
  · rcases rewrite_replacing change script tokens 0 world world rfl with
      ⟨_, other, _, now, own, replaced, claims, rfl⟩ | ⟨fault, _, _, own, -, -⟩
    · rw [ran] at own
      cases own
      exact ⟨other.output, by rw [replaced, ← claims]⟩
    · rw [ran] at own
      cases own
  · obtain ⟨claims, copied⟩ := rewrite_unchanged fits keeps world (Nat.zero_le tokens.size)
    rw [ran] at copied
    cases copied
    exact Tokens.slice_self tokens

def tangled : Script Testing.World :=
  ⟨[⟨Literal.pattern ⟨.ofString "b", false⟩, some (.tokens (.ofString "ab"))⟩,
    ⟨Literal.pattern ⟨.ofString "abc", false⟩, none⟩,
    ⟨Literal.pattern ⟨.ofString "", false⟩, none⟩]⟩

theorem fits_literal (literal : Literal) (keepsCase : literal.ignoreCase = false)
    {replacement : Option Value} (sameKind : literal.value.kind = tokens.kind)
    (own : ∀ value, replacement = some value → value.IsOf tokens.kind) :
    Rule.Fits (⟨literal.pattern, replacement⟩ : Rule World) tokens where
  pattern := .inl (.literal literal sameKind)
  scans := by
    refine ⟨literal.scan? tokens, fun place inside => ⟨fun world => ?_, fun hit found => ?_⟩⟩
    · exact (literal.exact_pattern sameKind.symm).scans place inside world
    · by_contra beyond
      have cut : tokens.size < place + literal.value.size := by
        simp only [Literal.scan?] at found
        split at found
        · cases found
          exact Nat.lt_of_not_le fun within => beyond (Int.ofNat_le.mpr within)
        · cases found
      rw [literal.scan?_eq_none_of_cut keepsCase cut inside.le] at found
      cases found
  replacement := own

theorem fits_tangled : ∀ rule ∈ tangled.rules, rule.Fits (.ofString "xbabc") := by
  intro rule member
  simp only [tangled, List.mem_cons, List.not_mem_nil, or_false] at member
  rcases member with rfl | rfl | rfl
  · refine fits_literal _ rfl rfl ?_
    rintro _ ⟨⟩
    exact ⟨_, rfl, rfl⟩
  · exact fits_literal _ rfl rfl nofun
  · exact fits_literal _ rfl rfl nofun

theorem apply_tangled :
    (∀ rule ∈ tangled.rules, rule.Fits (.ofString "xbabc")) ∧
    ∃ rewriting,
      tangled.rewrite (.ofString "xbabc") 0 Testing.World.empty =
        (.ok rewriting, Testing.World.empty) ∧
      (tangled.apply (.ofString "xbabc") Testing.World.empty).1 = .ok rewriting.output ∧
      tangled.find (.ofString "xbabc") Testing.World.empty =
        (.ok rewriting.claims, Testing.World.empty) ∧
      (∀ change, ∃ output,
        (tangled.replacing change).rewrite (.ofString "xbabc") 0 Testing.World.empty =
          (.ok ⟨output, rewriting.claims⟩, Testing.World.empty)) ∧
      ((∀ rule ∈ tangled.rules, rule.replacement = none) →
        rewriting.output = .ofString "xbabc") :=
  ⟨fits_tangled, apply_eq_rewrite fits_tangled Testing.World.empty⟩

example : (tangled.apply (.ofString "xbabc") Testing.World.empty).1.toOption =
    some (.ofString "xababc") := by
  decide +kernel

end Script

end SpanEdit
