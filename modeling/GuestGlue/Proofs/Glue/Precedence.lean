/-
Which of two imports with one name keeps it.  The imports run host module after host
module, in the order in which the modules are first named, and those of one module in
the declared order.  The first in this order has the name; the order of the list alone
does not tell, since an import runs with the first one of its module.
-/

import GuestGlue.Proofs.Glue.Regeneration
import GuestGlue.Proofs.Glue.Lines

namespace GuestGlue.Glue

open CSource SymbolTable

/-! ### Sound bindings with the same names -/

section Verdicts

variable {β : Type}

theorem mem_accepted {verdicts : List (Verdict β)} {binding : β} :
    binding ∈ accepted verdicts ↔
      ∃ verdict ∈ verdicts, verdict.report = none ∧ verdict.binding = binding := by
  rw [accepted, List.mem_filterMap]
  refine exists_congr fun verdict => and_congr_right fun _ => ?_
  obtain ⟨judgedBinding, report⟩ := verdict
  cases report with
  | none => exact Option.some_inj.trans (and_iff_right rfl).symm
  | some diagnostic => simp [Verdict.accepted?]

/-- Behind a sound binding every sound one with the same names is rejected, whether the
first was accepted or not. -/
theorem Settles.later_rejected {side : Side β} {table last : SymbolTable}
    {verdicts before after : List (Verdict β)} {first second : Verdict β}
    (settles : Settles side table verdicts last)
    (split : verdicts = before ++ second :: after) (earlier : first ∈ before)
    (firstSound : side.Sound first.binding) (secondSound : side.Sound second.binding)
    (same : side.cNames first.binding = side.cNames second.binding)
    (named : side.cNames second.binding ≠ []) :
    ∃ diagnostic, second.report = some diagnostic ∧ diagnostic.code = .duplicateSymbol ∧
      diagnostic.symbol = side.fullName second.binding := by
  have judged := settles.judged split
  have taken : ∃ name ∈ side.cNames second.binding,
      name ∈ table.names ++ (accepted before).flatMap side.cNames := by
    obtain ⟨sooner, between, rfl⟩ := List.append_of_mem earlier
    by_cases silent : first.report = none
    · obtain ⟨name, isNamed⟩ := List.exists_mem_of_ne_nil _ named
      have isAccepted : first.binding ∈ accepted (sooner ++ first :: between) :=
        mem_accepted.mpr ⟨first, earlier, silent, rfl⟩
      exact ⟨name, isNamed, List.mem_append_right _
        (List.mem_flatMap.mpr ⟨first.binding, isAccepted, same ▸ isNamed⟩)⟩
    · -- what stood in the way of the first one stands there still
      rw [List.append_assoc, List.cons_append] at split
      obtain ⟨name, isNamed, isTaken⟩ :=
        ((settles.judged split).rejected_iff firstSound).mp silent
      refine ⟨name, same ▸ isNamed, ?_⟩
      rw [accepted, List.filterMap_append, List.flatMap_append, ← List.append_assoc]
      exact List.mem_append_left _ isTaken
  obtain ⟨diagnostic, reported⟩ := Option.ne_none_iff_exists'.mp
    ((judged.rejected_iff secondSound).mpr taken)
  exact ⟨diagnostic, reported, judged.duplicate secondSound diagnostic reported,
    judged.symbol diagnostic reported⟩

end Verdicts

/-! ### Places in the order of the run -/

def firstNamed (imports : List ImportBinding) (hostModule : String) : Nat :=
  (imports.map (·.hostModule)).idxOf hostModule

/-- Host modules run in the order in which they are first named, and the imports of one
host module in that of their places. -/
def RunsBefore (imports : List ImportBinding) (first second : ImportBinding × Nat) : Prop :=
  firstNamed imports first.1.hostModule < firstNamed imports second.1.hostModule ∨
    first.1.hostModule = second.1.hostModule ∧ first.2 < second.2

/-- The imports with their places in the list, in the order of the run. -/
def placedOrder (imports : List ImportBinding) : List (ImportBinding × Nat) :=
  (hostModules imports).flatMap fun hostModule =>
    imports.zipIdx.filter (·.1.hostModule = hostModule)

section Places

variable (imports : List ImportBinding)

theorem RunsBefore.asymm {imports : List ImportBinding} {first second : ImportBinding × Nat}
    (before : RunsBefore imports first second) : ¬RunsBefore imports second first := by
  rintro (sooner | ⟨same, sooner⟩) <;> rcases before with earlier | ⟨alike, earlier⟩
  · omega
  · rw [alike] at sooner
    omega
  · rw [same] at earlier
    omega
  · omega

theorem firstSeen_pairwise (names : List String) :
    (firstSeen names).Pairwise fun first second => names.idxOf first < names.idxOf second := by
  induction names with
  | nil => exact List.Pairwise.nil
  | cons name rest ih =>
      have behind {other : String} (different : other ≠ name) :
          (name :: rest).idxOf other = rest.idxOf other + 1 :=
        List.idxOf_cons_ne _ different.symm
      rw [firstSeen]
      refine List.Pairwise.cons (fun other member => ?_) ?_
      · have different : other ≠ name := by simpa using (List.mem_filter.mp member).2
        rw [List.idxOf_cons_self, behind different]
        exact Nat.succ_pos _
      · refine List.Pairwise.imp_of_mem (fun inFirst inSecond earlier => ?_) (ih.filter _)
        have firstDifferent := (List.mem_filter.mp inFirst).2
        have secondDifferent := (List.mem_filter.mp inSecond).2
        rw [behind (of_decide_eq_true firstDifferent), behind (of_decide_eq_true secondDifferent)]
        exact Nat.succ_lt_succ earlier

theorem placedOrder_bindings : (placedOrder imports).map (·.1) = emissionOrder imports := by
  rw [placedOrder, emissionOrder, List.map_flatMap]
  refine List.flatMap_congr fun hostModule _ => ?_
  conv_rhs => rw [← List.zipIdx_map_fst 0 imports, List.filter_map]
  rfl

theorem placedOrder_perm : (placedOrder imports).Perm imports.zipIdx := by
  refine flatMap_filter_perm (fun placed : ImportBinding × Nat => placed.1.hostModule)
    (firstSeen_nodup _) fun placed member => ?_
  have listed : placed.1 ∈ imports := List.fst_mem_of_mem_zipIdx member
  exact mem_firstSeen.mpr (List.mem_map_of_mem listed)

theorem placedOrder_pairwise : (placedOrder imports).Pairwise (RunsBefore imports) := by
  refine List.pairwise_flatMap.mpr ⟨fun hostModule _ => ?_, ?_⟩
  · have increasing : imports.zipIdx.Pairwise fun first second => first.2 < second.2 := by
      rw [← List.pairwise_map, List.zipIdx_map_snd]
      exact List.pairwise_lt_range'
    refine List.Pairwise.imp_of_mem (fun inFirst inSecond earlier => ?_) (increasing.filter _)
    have firstOwn := of_decide_eq_true (List.mem_filter.mp inFirst).2
    have secondOwn := of_decide_eq_true (List.mem_filter.mp inSecond).2
    exact Or.inr ⟨firstOwn.trans secondOwn.symm, earlier⟩
  · refine (firstSeen_pairwise _).imp fun earlier first inFirst second inSecond => ?_
    have firstOwn := of_decide_eq_true (List.mem_filter.mp inFirst).2
    have secondOwn := of_decide_eq_true (List.mem_filter.mp inSecond).2
    refine Or.inl ?_
    rw [firstOwn, secondOwn]
    exact earlier

end Places

/-! ### Runs that stop earlier -/

theorem ruleImports_take (symbols : SymbolTable) (bindings : List ImportBinding) (count : Nat) :
    (ruleImports symbols (bindings.take count)).1 =
      (ruleImports symbols bindings).1.take count := by
  induction bindings generalizing symbols count with
  | nil => simp [ruleImports]
  | cons binding rest ih =>
      cases count with
      | zero => rfl
      | succ count => exact congrArg (ruleImport symbols binding :: ·) (ih _ count)

theorem ruleImports_length (symbols : SymbolTable) (bindings : List ImportBinding) :
    (ruleImports symbols bindings).1.length = bindings.length := by
  rw [← List.length_map, ruleImports_bindings]

/-- Without the imports behind it, the rulings on the first part of a run are the same. -/
theorem ruleGroups_take {options : Options} {taken : List String} {table : SymbolTable}
    {all : List Group} (distinct : (all.map (·.hostModule)).Nodup)
    (own : ∀ group ∈ all, ∀ binding ∈ group.imports, binding.hostModule = group.hostModule)
    (nonempty : ∀ group ∈ all, group.imports ≠ []) (count : Nat) :
    (ruleGroups options taken table (groups ((all.flatMap (·.imports)).take count))).1.flatMap
        (·.rulings) =
      ((ruleGroups options taken table all).1.flatMap (·.rulings)).take count := by
  induction all generalizing taken table count with
  | nil =>
      rw [List.flatMap_nil, List.take_nil]
      exact List.take_nil.symm
  | cons group rest ih =>
      obtain ⟨ownHere, ownLater⟩ := List.forall_mem_cons.mp own
      obtain ⟨nonemptyHere, nonemptyLater⟩ := List.forall_mem_cons.mp nonempty
      obtain ⟨apart, distinctLater⟩ := List.nodup_cons.mp distinct
      rcases count.eq_zero_or_pos with rfl | positive
      · rw [List.take_zero, List.take_zero]
        rfl
      have split : groups (((group :: rest).flatMap (·.imports)).take count) =
          ⟨group.hostModule, group.imports.take count⟩ ::
            groups ((rest.flatMap (·.imports)).take (count - group.imports.length)) := by
        rw [List.flatMap_cons, List.take_append]
        refine groups_append ?_ (fun binding member => ?_) fun binding member same => ?_
        · rw [Ne, List.take_eq_nil_iff]
          exact not_or.mpr ⟨positive.ne', nonemptyHere⟩
        · exact ownHere binding (List.mem_of_mem_take member)
        · obtain ⟨other, listed, imported⟩ :=
            List.mem_flatMap.mp (List.mem_of_mem_take member)
          have alike := (ownLater other listed binding imported).symm.trans same
          exact apart (List.mem_map.mpr ⟨other, listed, alike⟩)
      rw [split, ruleGroups, ruleGroups]
      simp only
      split
      · next refusal _ =>
        rw [List.flatMap_cons, List.flatMap_cons, List.take_append,
          ih distinctLater ownLater nonemptyLater, List.length_map, List.map_take]
      · rw [List.flatMap_cons, List.flatMap_cons, List.take_append, ruleImports_take,
          ruleImports_length]
        congr 1
        -- either nothing is left of the later groups, or this one is whole
        rcases Nat.le_total count group.imports.length with inside | beyond
        · rw [Nat.sub_eq_zero_of_le inside, List.take_zero, List.take_zero]
          rfl
        · rw [List.take_of_length_le beyond, ih distinctLater ownLater nonemptyLater]

theorem planImports_take (options : Options) (table : SymbolTable) (imports : List ImportBinding)
    (count : Nat) :
    (planImports options table ((emissionOrder imports).take count)).rulings =
      (planImports options table imports).rulings.take count := by
  rw [emissionOrder_eq]
  exact ruleGroups_take (groups_nodup imports) (groups_own imports) (groups_nonempty imports) count

/-! ### Rulings with their places -/

structure PlacedRuling where
  ruling : ImportRuling
  place : Nat

def PlacedRuling.source (placed : PlacedRuling) : ImportBinding × Nat :=
  (placed.ruling.binding, placed.place)

theorem exists_placedRulings {rulings : List ImportRuling}
    {sources : List (ImportBinding × Nat)}
    (same : rulings.map (·.binding) = sources.map (·.1)) :
    ∃ ruled : List PlacedRuling, ruled.map (·.ruling) = rulings ∧
      ruled.map (·.source) = sources := by
  induction rulings generalizing sources with
  | nil => exact ⟨[], rfl, (List.map_eq_nil_iff.mp same.symm).symm⟩
  | cons ruling rest ih =>
      obtain ⟨⟨binding, place⟩, later, rfl, own, sameLater⟩ := List.map_eq_cons_iff.mp same.symm
      obtain ⟨ruled, rulings, placed⟩ := ih sameLater.symm
      cases own
      exact ⟨⟨ruling, place⟩ :: ruled, congrArg (ruling :: ·) rulings,
        congrArg ((ruling.binding, place) :: ·) placed⟩

/-- A rejected import has its marker as a line of its module's file. -/
theorem planImports_marker {options : Options} {table : SymbolTable}
    {imports : List ImportBinding} {ruling : ImportRuling} {diagnostic : Diagnostic}
    (ruled : ruling ∈ (planImports options table imports).rulings)
    (filed : ruling.binding.hostModule ∈ (planImports options table imports).filed options)
    (reported : ruling.diagnostic? = some diagnostic) (boilerplate : String) :
    ∃ file ∈ (planImports options table imports).files options boilerplate,
      file.name = options.fileName ruling.binding.hostModule ∧
        (errorMarker diagnostic.message).toList ∈ lines file.content := by
  obtain ⟨module, listed, member, own, _⟩ := planImports_origin ruled
  have hasFile := (planImports_tells module listed ruling member).mp filed
  obtain ⟨file, found, named, holds⟩ := module.exists_file_lines hasFile options boilerplate
  refine ⟨file, ImportPlan.mem_files listed found, own ▸ named, ?_⟩
  have inFile := (holds ruling member).subset
  obtain ⟨binding, outcome⟩ := ruling
  cases outcome with
  | ok returned => cases reported
  | error objection =>
      cases reported
      refine inFile ?_
      rw [block, lines_eq_singleton (controls_errorMarker diagnostic.message)]
      exact List.mem_singleton_self _

/-! ### Precedence -/

def Admissible (options : Options) (imports : List ImportBinding) (binding : ImportBinding) :
    Prop :=
  (∃ returned, Forwardable binding returned) ∧
    binding.hostModule ∈ (planImports options .runtime imports).filed options

structure InRunOrder (options : Options) (imports : List ImportBinding)
    (ruled : List PlacedRuling) : Prop where
  rulings : ruled.map (·.ruling) = (planImports options .runtime imports).rulings
  sources : (ruled.map (·.source)).Perm imports.zipIdx
  ordered : ruled.Pairwise fun first second => RunsBefore imports first.source second.source

structure Precedence (options : Options) (imports : List ImportBinding)
    (ruled : List PlacedRuling) : Prop extends InRunOrder options imports ruled where
  forwarded : ∀ boilerplate exports,
    (generate options boilerplate exports imports).imports =
      ruled.filterMap (·.ruling.forwarded?)
  later_rejected : ∀ first ∈ ruled, ∀ second ∈ ruled,
    RunsBefore imports first.source second.source →
    Admissible options imports first.ruling.binding →
    Admissible options imports second.ruling.binding →
    first.ruling.binding.functionName = second.ruling.binding.functionName →
    second.ruling.forwarded? = none ∧ ∃ diagnostic,
      second.ruling.diagnostic? = some diagnostic ∧ diagnostic.code = .duplicateSymbol ∧
        diagnostic.symbol = second.ruling.binding.method.fullName ∧
        ∀ boilerplate exports,
          diagnostic ∈ (generate options boilerplate exports imports).diagnostics ∧
            ∃ file ∈ (generate options boilerplate exports imports).files,
              file.name = options.fileName second.ruling.binding.hostModule ∧
                (errorMarker diagnostic.message).toList ∈ lines file.content
  earlier_taken : ∀ second ∈ ruled, Admissible options imports second.ruling.binding →
    second.ruling.forwarded? = none →
      ∃ name ∈ second.ruling.binding.cNames, name ∈ runtimeSymbols ∨
        ∃ first ∈ ruled, RunsBefore imports first.source second.source ∧
          first.ruling.forwarded? = some first.ruling.binding ∧
            name ∈ first.ruling.binding.cNames
  later_irrelevant : ∀ before after, ruled = before ++ after →
    (planImports options .runtime (before.map (·.ruling.binding))).rulings =
      before.map (·.ruling)

theorem exists_inRunOrder (options : Options) (imports : List ImportBinding) :
    ∃ ruled, InRunOrder options imports ruled ∧ ruled.map (·.source) = placedOrder imports := by
  have order : (planImports options .runtime imports).rulings.map (·.binding) =
      (placedOrder imports).map (·.1) := by
    rw [placedOrder_bindings, ← planImports_order options .runtime imports, bindings,
      List.map_map]
    rfl
  obtain ⟨ruled, rulings, sources⟩ := exists_placedRulings order
  have ordered := placedOrder_pairwise imports
  rw [← sources, List.pairwise_map] at ordered
  exact ⟨ruled, ⟨rulings, sources ▸ placedOrder_perm imports, ordered⟩, sources⟩

namespace InRunOrder

variable {options : Options} {imports : List ImportBinding} {ruled before after : List PlacedRuling}
  {first second : PlacedRuling}

theorem mem_plan (inOrder : InRunOrder options imports ruled) (member : second ∈ ruled) :
    second.ruling ∈ (planImports options .runtime imports).rulings :=
  inOrder.rulings ▸ List.mem_map_of_mem member

theorem mem_before (inOrder : InRunOrder options imports ruled)
    (split : ruled = before ++ second :: after) (member : first ∈ ruled)
    (runsBefore : RunsBefore imports first.source second.source) : first ∈ before := by
  have ordered := inOrder.ordered
  rw [split] at ordered member
  refine (List.mem_append.mp member).resolve_right fun notBefore => ?_
  rcases List.mem_cons.mp notBefore with rfl | later
  · exact runsBefore.asymm runsBefore
  · have behind := (List.pairwise_cons.mp (List.pairwise_append.mp ordered).2.1).1 first later
    exact runsBefore.asymm behind

theorem runsBefore_of_mem (inOrder : InRunOrder options imports ruled)
    (split : ruled = before ++ second :: after) (member : first ∈ before) :
    RunsBefore imports first.source second.source := by
  have ordered := inOrder.ordered
  rw [split] at ordered
  exact (List.pairwise_append.mp ordered).2.2 first member second List.mem_cons_self

theorem settles (inOrder : InRunOrder options imports ruled) :
    Settles (importSide fun binding =>
        binding.hostModule ∈ (planImports options .runtime imports).filed options) .runtime
      (ruled.map (·.ruling.verdict)) (planImports options .runtime imports).symbols := by
  have settles := planImports_settles options .runtime imports
  rwa [← inOrder.rulings, List.map_map] at settles

theorem verdicts_split (split : ruled = before ++ second :: after) :
    ruled.map (·.ruling.verdict) = before.map (·.ruling.verdict) ++
      second.ruling.verdict :: after.map (·.ruling.verdict) := by
  rw [split, List.map_append, List.map_cons]

theorem reported_of_later (inOrder : InRunOrder options imports ruled)
    (firstRuled : first ∈ ruled) (secondRuled : second ∈ ruled)
    (runsBefore : RunsBefore imports first.source second.source)
    (firstAdmissible : Admissible options imports first.ruling.binding)
    (secondAdmissible : Admissible options imports second.ruling.binding)
    (same : first.ruling.binding.functionName = second.ruling.binding.functionName) :
    ∃ diagnostic, second.ruling.diagnostic? = some diagnostic ∧
      diagnostic.code = .duplicateSymbol ∧
        diagnostic.symbol = second.ruling.binding.method.fullName := by
  obtain ⟨before, after, split⟩ := List.append_of_mem secondRuled
  have earlier := inOrder.mem_before split firstRuled runsBefore
  exact inOrder.settles.later_rejected (verdicts_split split) (List.mem_map_of_mem earlier)
    firstAdmissible secondAdmissible (ImportBinding.cNames_congr same) (List.cons_ne_nil _ _)

theorem taken_of_rejected (inOrder : InRunOrder options imports ruled)
    (secondRuled : second ∈ ruled) (admissible : Admissible options imports second.ruling.binding)
    (dropped : second.ruling.forwarded? = none) :
    ∃ name ∈ second.ruling.binding.cNames, name ∈ runtimeSymbols ∨
      ∃ first ∈ ruled, RunsBefore imports first.source second.source ∧
        first.ruling.forwarded? = some first.ruling.binding ∧
          name ∈ first.ruling.binding.cNames := by
  obtain ⟨before, after, split⟩ := List.append_of_mem secondRuled
  have judged := inOrder.settles.judged (verdicts_split split)
  obtain ⟨name, named, taken⟩ := (judged.rejected_iff admissible).mp
    ((ImportRuling.decides.dropped_iff second.ruling).mp dropped)
  refine ⟨name, named, (List.mem_append.mp taken).imp_right fun byImport => ?_⟩
  obtain ⟨binding, isAccepted, takes⟩ := List.mem_flatMap.mp byImport
  obtain ⟨verdict, judgedBefore, silent, rfl⟩ := mem_accepted.mp isAccepted
  obtain ⟨first, earlier, rfl⟩ := List.mem_map.mp judgedBefore
  refine ⟨first, split ▸ List.mem_append_left _ earlier,
    inOrder.runsBefore_of_mem split earlier, ?_, takes⟩
  rw [← ImportRuling.verdict_accepted?, Verdict.accepted?, silent]
  rfl

end InRunOrder

/-- In the order of the run the first of the admissible imports with a function name keeps
it, and what comes later never stands in the way of what comes before. -/
theorem generate_precedence (options : Options) (imports : List ImportBinding) :
    ∃ ruled, Precedence options imports ruled := by
  obtain ⟨ruled, inOrder, sources⟩ := exists_inRunOrder options imports
  refine ⟨ruled, inOrder, ?forwarded, ?later_rejected, ?earlier_taken, ?later_irrelevant⟩
  case forwarded =>
    intro boilerplate exports
    rw [generate_imports, ImportPlan.forwarded, ← inOrder.rulings, List.filterMap_map]
    rfl
  case later_rejected =>
    intro first firstRuled second secondRuled runsBefore firstAdmissible secondAdmissible same
    obtain ⟨diagnostic, reported, code, symbol⟩ := inOrder.reported_of_later
      firstRuled secondRuled runsBefore firstAdmissible secondAdmissible same
    have dropped := (ImportRuling.decides.dropped_iff second.ruling).mpr
      (Option.ne_none_iff_exists'.mpr ⟨diagnostic, reported⟩)
    refine ⟨dropped, diagnostic, reported, code, symbol, fun boilerplate exports => ⟨?_, ?_⟩⟩
    · rw [generate_reports, ImportPlan.objections_diagnostics]
      exact List.mem_append_left _
        (List.mem_filterMap.mpr ⟨second.ruling, inOrder.mem_plan secondRuled, reported⟩)
    · obtain ⟨file, made, holds⟩ := planImports_marker (inOrder.mem_plan secondRuled)
        secondAdmissible.2 reported boilerplate
      refine ⟨file, ?_, holds⟩
      rw [generate_files]
      exact List.mem_append_left _ made
  case earlier_taken =>
    intro second secondRuled admissible dropped
    exact inOrder.taken_of_rejected secondRuled admissible dropped
  case later_irrelevant =>
    rintro before after rfl
    have kept : before.map (·.ruling.binding) = (emissionOrder imports).take before.length := by
      rw [← placedOrder_bindings, ← sources, List.map_map, List.map_append]
      exact (List.take_left' (List.length_map _)).symm
    rw [kept, planImports_take, ← inOrder.rulings, List.map_append]
    exact List.take_left' (List.length_map _)

/-- The third import runs before the second one, as its module is named first. -/
theorem generate_precedence_interleaved :
    let importOf (name hostModule entryPoint : String) : ImportBinding :=
      ⟨⟨"App.dll", "", "App", name, [], .void⟩, hostModule, some entryPoint⟩
    let first := importOf "First" "a" "first"
    let second := importOf "Second" "b" "same"
    let third := importOf "Third" "a" "same"
    let imports := [first, second, third]
    let run := generate .standard "" [] imports
    second.functionName = third.functionName ∧ Admissible .standard imports second ∧
      Admissible .standard imports third ∧ run.imports = [first, third] ∧
        run.diagnostics.map (fun diagnostic => (diagnostic.code, diagnostic.symbol)) =
          [(.duplicateSymbol, second.method.fullName)] := by
  intro importOf first second third imports run
  have secondForwardable : Forwardable second .void := ⟨rfl, nofun, by decide, nofun⟩
  have thirdForwardable : Forwardable third .void := ⟨rfl, nofun, by decide, nofun⟩
  refine ⟨rfl, ⟨⟨.void, secondForwardable⟩, ?_⟩, ⟨⟨.void, thirdForwardable⟩, ?_⟩, ?_, ?_⟩
  all_goals decide +kernel

end GuestGlue.Glue
