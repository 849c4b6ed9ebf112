/-
The order in which a scan asks for modules.  It is the depth-first order of the references,
where a module that cannot be read refers to nothing.  The scan asks for the names of this
order one after another, and stops at the first one that cannot be read.
-/

import GuestGlue.Proofs.Metadata.Scan
import Mathlib.Data.List.Perm.Subperm

namespace GuestGlue

variable {ε : Type} {references : NameSet}

/-! ### Depth-first orders -/

/-- Looks at names in order; a name of the set that was not visited is listed before
everything that it leads to. -/
inductive DepthFirst (references : NameSet) (next : String → List String) :
    List String → List String → List String → Prop
  | done (visited : List String) : DepthFirst references next visited [] []
  | pass {visited names order : List String} {name : String}
      (passed : references.contains name = false ∨ name ∈ visited)
      (later : DepthFirst references next visited names order) :
      DepthFirst references next visited (name :: names) order
  | enter {visited names inner outer : List String} {name : String}
      (member : references.contains name = true) (fresh : name ∉ visited)
      (inside : DepthFirst references next (name :: visited) (next name) inner)
      (later : DepthFirst references next (inner.reverse ++ name :: visited) names outer) :
      DepthFirst references next visited (name :: names) (name :: inner ++ outer)

/-- There is an order whatever the names lead to, for each name that is listed leaves fewer
names of the set. -/
theorem exists_depthFirst (next : String → List String) (visited names : List String) :
    ∃ order, DepthFirst references next visited names order := by
  induction size : unvisited references visited using Nat.strongRecOn
    generalizing visited names with
  | ind size smaller =>
      subst size
      induction names with
      | nil => exact ⟨[], .done visited⟩
      | cons name names ih =>
          by_cases passed : references.contains name = false ∨ name ∈ visited
          · obtain ⟨order, later⟩ := ih
            exact ⟨order, .pass passed later⟩
          · obtain ⟨inSet, fresh⟩ := not_or.mp passed
            have member : references.contains name = true := by simpa using inSet
            have fewer := unvisited_cons_lt member fun seen => fresh (List.contains_iff_mem.mp seen)
            obtain ⟨inner, inside⟩ := smaller _ fewer (name :: visited) (next name) rfl
            have stillFewer : unvisited references (inner.reverse ++ name :: visited) <
                unvisited references visited :=
              Nat.lt_of_le_of_lt (unvisited_le (List.subset_append_right _ _)) fewer
            obtain ⟨outer, later⟩ := smaller _ stillFewer _ names rfl
            exact ⟨_, .enter member fresh inside later⟩

theorem not_passed {visited : List String} {name : String}
    (member : references.contains name = true) (fresh : name ∉ visited) :
    ¬(references.contains name = false ∨ name ∈ visited) := by
  rintro (outside | seen)
  · rw [outside] at member
    cases member
  · exact fresh seen

namespace DepthFirst

variable {next : String → List String} {visited names order : List String}

theorem unique {other : List String} (walks : DepthFirst references next visited names order)
    (walksToo : DepthFirst references next visited names other) : other = order := by
  induction walks generalizing other with
  | done visited =>
      cases walksToo
      rfl
  | pass passed later ih =>
      cases walksToo with
      | pass _ laterToo => exact ih laterToo
      | enter member fresh _ _ => exact absurd passed (not_passed member fresh)
  | enter member fresh inside later ihInside ihLater =>
      cases walksToo with
      | pass passed _ => exact absurd passed (not_passed member fresh)
      | enter _ _ insideToo laterToo =>
          cases ihInside insideToo
          cases ihLater laterToo
          rfl

/-- Only names of the set are listed, none that was visited, and each once. -/
theorem listed (walks : DepthFirst references next visited names order) :
    order.Nodup ∧ ∀ name ∈ order, references.contains name = true ∧ name ∉ visited := by
  induction walks with
  | done visited => exact ⟨List.nodup_nil, nofun⟩
  | pass passed later ih => exact ih
  | @enter visited names inner outer name member fresh inside later ihInside ihLater =>
      obtain ⟨innerDistinct, innerFresh⟩ := ihInside
      obtain ⟨outerDistinct, outerFresh⟩ := ihLater
      rw [List.cons_append]
      constructor
      · refine List.nodup_cons.mpr ⟨fun present => ?_,
          List.nodup_append.mpr ⟨innerDistinct, outerDistinct, ?_⟩⟩
        · rcases List.mem_append.mp present with inInner | inOuter
          · exact (innerFresh name inInner).2 List.mem_cons_self
          · exact (outerFresh name inOuter).2 (List.mem_append_right _ List.mem_cons_self)
        · rintro other inInner _ inOuter rfl
          exact (outerFresh other inOuter).2
            (List.mem_append_left _ (List.mem_reverse.mpr inInner))
      · intro other present
        rcases List.mem_cons.mp present with rfl | later
        · exact ⟨member, fresh⟩
        · rcases List.mem_append.mp later with inInner | inOuter
          · obtain ⟨inSet, unseen⟩ := innerFresh other inInner
            exact ⟨inSet, fun seen => unseen (List.mem_cons_of_mem _ seen)⟩
          · obtain ⟨inSet, unseen⟩ := outerFresh other inOuter
            exact ⟨inSet, fun seen =>
              unseen (List.mem_append_right _ (List.mem_cons_of_mem _ seen))⟩

end DepthFirst

/-! ### References that readers show -/

section Readers

variable {read : String → Except ε Module}

/-- The references of the module that is read under a name; a module that cannot be read
shows none. -/
def shown (read : String → Except ε Module) (name : String) : List String :=
  match read name with
  | .ok module => module.references
  | .error _ => []

theorem shown_of_ok {name : String} {module : Module} (found : read name = .ok module) :
    shown read name = module.references := by
  rw [shown, found]

/-- The reader with an empty module in the place of each one that cannot be read. -/
def orEmpty (read : String → Except ε Module) (name : String) : Except ε Module :=
  match read name with
  | .ok module => .ok module
  | .error _ => .ok (.named name)

theorem exists_orEmpty (read : String → Except ε Module) (name : String) :
    ∃ module, orEmpty read name = .ok module ∧ module.references = shown read name := by
  unfold orEmpty shown
  cases read name with
  | ok module => exact ⟨module, rfl, rfl⟩
  | error cause => exact ⟨.named name, rfl, rfl⟩

theorem follows_orEmpty (read : String → Except ε Module) (rootName : String) :
    Follows references (orEmpty read) rootName = Follows references read rootName := by
  funext name other
  unfold Follows orEmpty
  cases read name with
  | ok module => rfl
  | error cause =>
      apply propext
      constructor
      · rintro ⟨module, found, referred, _⟩
        cases found
        cases referred
      · rintro ⟨module, found, _⟩
        cases found

theorem visited_after_enter (visited inner outer : List String) (name : String) :
    (name :: inner ++ outer).reverse ++ visited =
      outer.reverse ++ (inner.reverse ++ name :: visited) := by
  simp

/-- The order lists the names that a descent with empty modules visits. -/
theorem DepthFirst.descends {visited names order : List String}
    (walks : DepthFirst references (shown read) visited names order) :
    ∃ reached, Descends references (orEmpty read) visited names reached
      (order.reverse ++ visited) := by
  induction walks with
  | done visited => exact ⟨[], .done visited⟩
  | pass passed later ih =>
      obtain ⟨reached, descends⟩ := ih
      exact ⟨reached, .pass passed descends⟩
  | @enter visited names inner outer name member fresh inside later ihInside ihLater =>
      obtain ⟨module, found, referred⟩ := exists_orEmpty read name
      obtain ⟨reachedInside, inside⟩ := ihInside
      obtain ⟨reachedLater, later⟩ := ihLater
      rw [visited_after_enter]
      exact ⟨_, .enter member fresh found (referred ▸ inside) later⟩

/-- The depth-first order from the root lists what its references lead to. -/
theorem DepthFirst.mem_iff_reachable {root : Module} {order : List String}
    (walks : DepthFirst references (shown read) [root.name] root.references order)
    (name : String) :
    name ∈ order ↔ ReachableFrom references read root.name root.references name := by
  obtain ⟨reached, descends⟩ := walks.descends
  have visited := descends.mem_after name
  have reachable := descends.mem_iff_reachable name
  unfold ReachableFrom at reachable ⊢
  rw [follows_orEmpty] at reachable
  rw [List.mem_append, List.mem_reverse] at visited
  rw [← reachable]
  constructor
  · intro present
    refine (visited.mp (Or.inl present)).resolve_left ?_
    exact (walks.listed.2 name present).2
  · intro present
    exact (visited.mpr (Or.inr present)).resolve_right (descends.nodup.2 name present)

end Readers

/-! ### Walks, one visit after another -/

section Walks

variable {m : Type → Type} [Monad m] {read : String → m Module} {visited : List String}
  {name : String}

theorem walk_of_passed (passed : references.contains name = false ∨ name ∈ visited)
    (rest : List Step) :
    walk references read visited (.visit name :: rest) = walk references read visited rest := by
  rw [walk]
  rcases passed with outside | seen
  · rw [dif_neg (by simp [outside])]
  · simp only [List.contains_iff_mem.mpr seen, if_true, dite_eq_ite, ite_self]

theorem walk_of_fresh (member : references.contains name = true) (fresh : name ∉ visited)
    (rest : List Step) :
    walk references read visited (.visit name :: rest) =
      read name >>= fun module =>
        walk references read (name :: visited) (visits module ++ .finish module :: rest) := by
  have notContained : ¬visited.contains name = true :=
    fun contained => fresh (List.contains_iff_mem.mp contained)
  rw [walk, dif_pos member, dif_neg notContained]

end Walks

/-! ### Logs of reads -/

section Logs

variable {α β : Type} {read : String → Except ε Module}

def logged (read : String → Except ε Module) (name : String) :
    ExceptT ε (StateM (List String)) Module :=
  ExceptT.mk fun asked => (read name, asked ++ [name])

/-- The outcome of a program, with the names asked for in it behind those asked before. -/
def runLogged (program : ExceptT ε (StateM (List String)) α) (asked : List String) :
    Except ε α × List String :=
  program.run.run asked

theorem runLogged_logged (name : String) (asked : List String) :
    runLogged (logged read name) asked = (read name, asked ++ [name]) :=
  rfl

theorem runLogged_pure (value : α) (asked : List String) :
    runLogged (pure value : ExceptT ε (StateM (List String)) α) asked = (.ok value, asked) :=
  rfl

theorem runLogged_bind (program : ExceptT ε (StateM (List String)) α)
    (following : α → ExceptT ε (StateM (List String)) β) (asked : List String) :
    runLogged (program >>= following) asked =
      match runLogged program asked with
      | (.ok value, after) => runLogged (following value) after
      | (.error cause, after) => (.error cause, after) := by
  change StateT.run (ExceptT.bindCont following (runLogged program asked).1)
    (runLogged program asked).2 = _
  rcases runLogged program asked with ⟨_ | value, after⟩ <;> rfl

theorem walk_logged (visited : List String) (steps : List Step) (asked : List String) :
    (runLogged (walk references (logged read) visited steps) asked).1 =
      walk references read visited steps := by
  fun_induction walk references read visited steps generalizing asked with
  | case1 visited =>
      rw [walk]
      rfl
  | case2 visited module rest ih =>
      rw [walk, runLogged_bind, ← ih asked]
      rcases runLogged (walk references (logged read) visited rest) asked with ⟨_ | modules, after⟩ <;>
        rfl
  | case3 visited name rest member seen ih =>
      rw [walk, dif_pos member, dif_pos seen]
      exact ih asked
  | case4 visited name rest member fresh ih =>
      rw [walk, dif_pos member, dif_neg fresh, runLogged_bind, runLogged_logged]
      cases found : read name with
      | error cause => rfl
      | ok module => exact ih module (asked ++ [name])
  | case5 visited name rest outside ih =>
      rw [walk, dif_neg outside]
      exact ih asked

/-- An item of two lists stands behind the first one or in it. -/
private theorem splits_append {first second before after : List α} {item : α}
    (split : first ++ second = before ++ item :: after) :
    (∃ middle, before = first ++ middle ∧ second = middle ++ item :: after) ∨
      ∃ middle, first = before ++ item :: middle ∧ after = middle ++ second := by
  rcases List.append_eq_append_iff.mp split with
    ⟨middle, same, rest⟩ | ⟨middle, same, rest⟩
  · exact Or.inl ⟨middle, same, rest⟩
  · rcases List.cons_eq_append_iff.mp rest with ⟨rfl, rfl⟩ | ⟨later, rfl, ended⟩
    · exact Or.inl ⟨[], by simpa using same.symm, rfl⟩
    · exact Or.inr ⟨later, same, ended⟩

namespace DepthFirst

variable {visited names order : List String}

/-- Where every name of the order can be read, all of them are asked for, and the walk turns
to the other steps. -/
theorem walk_readable (walks : DepthFirst references (shown read) visited names order)
    (readable : ∀ name ∈ order, ∃ module, read name = .ok module) (rest : List Step)
    (asked : List String) :
    ∃ modules,
      runLogged (walk references (logged read) visited (names.map Step.visit ++ rest)) asked =
        let later := runLogged (walk references (logged read) (order.reverse ++ visited) rest)
          (asked ++ order)
        (later.1.map (modules ++ ·), later.2) := by
  induction walks generalizing rest asked with
  | done visited =>
      refine ⟨[], ?_⟩
      simp only [List.map_nil, List.reverse_nil, List.append_nil, List.nil_append]
      rcases runLogged (walk references (logged read) visited rest) asked with
        ⟨_ | modules, after⟩ <;> rfl
  | pass passed later ih =>
      rw [List.map_cons, List.cons_append, walk_of_passed passed]
      exact ih readable rest asked
  | @enter visited names inner outer name member fresh inside later ihInside ihLater =>
      rw [List.cons_append, List.forall_mem_cons, List.forall_mem_append] at readable
      obtain ⟨⟨module, found⟩, innerReadable, outerReadable⟩ := readable
      rw [List.map_cons, List.cons_append, walk_of_fresh member fresh, runLogged_bind,
        runLogged_logged, found]
      dsimp only
      rw [visits, ← shown_of_ok found]
      obtain ⟨innerModules, ranInside⟩ := ihInside innerReadable
        (.finish module :: (names.map Step.visit ++ rest)) (asked ++ [name])
      obtain ⟨outerModules, ranLater⟩ := ihLater outerReadable rest (asked ++ [name] ++ inner)
      refine ⟨innerModules ++ module :: outerModules, ?_⟩
      have askedAfter : asked ++ (name :: inner ++ outer) =
          asked ++ [name] ++ inner ++ outer := by
        simp
      rw [ranInside, walk, runLogged_bind, ranLater, visited_after_enter, askedAfter]
      rcases runLogged (walk references (logged read)
          (outer.reverse ++ (inner.reverse ++ name :: visited)) rest)
        (asked ++ [name] ++ inner ++ outer) with ⟨_ | modules, after⟩
      · rfl
      · simp [Except.map, runLogged_pure]

/-- The first name of the order that cannot be read is the last one asked for, and the walk
fails as its read does. -/
theorem walk_unreadable {before after : List String} {name : String} {cause : ε}
    (walks : DepthFirst references (shown read) visited names order)
    (split : order = before ++ name :: after)
    (readable : ∀ earlier ∈ before, ∃ module, read earlier = .ok module)
    (failed : read name = .error cause) (rest : List Step) (asked : List String) :
    runLogged (walk references (logged read) visited (names.map Step.visit ++ rest)) asked =
      (.error cause, asked ++ before ++ [name]) := by
  induction walks generalizing before after rest asked with
  | done visited => exact absurd split.symm (List.append_ne_nil_of_right_ne_nil _ nofun)
  | pass passed later ih =>
      rw [List.map_cons, List.cons_append, walk_of_passed passed]
      exact ih split readable rest asked
  | @enter visited names inner outer first member fresh inside later ihInside ihLater =>
      rw [List.map_cons, List.cons_append, walk_of_fresh member fresh, runLogged_bind,
        runLogged_logged]
      rw [List.cons_append] at split
      cases before with
      | nil =>
          obtain ⟨rfl, _⟩ := List.cons.inj split
          rw [failed, List.append_nil]
      | cons head before =>
          obtain ⟨rfl, splitRest⟩ := List.cons.inj split
          obtain ⟨⟨module, found⟩, readable⟩ := List.forall_mem_cons.mp readable
          have askedBefore : asked ++ first :: before = asked ++ [first] ++ before := by
            simp
          rw [found, askedBefore]
          dsimp only
          rw [visits, ← shown_of_ok found]
          rcases splits_append splitRest with
            ⟨middle, rfl, splitOuter⟩ | ⟨middle, splitInner, _⟩
          · -- everything that this name leads to can be read
            obtain ⟨readableInside, readable⟩ := List.forall_mem_append.mp readable
            obtain ⟨modules, ranInside⟩ := inside.walk_readable readableInside
              (.finish module :: (names.map Step.visit ++ rest)) (asked ++ [first])
            rw [ranInside, walk, runLogged_bind, ihLater splitOuter readable]
            simp [Except.map]
          · exact ihInside splitInner readable _ _

end DepthFirst

/-- All names can be read, or there is a first one that cannot. -/
theorem readable_or_first_unreadable (read : String → Except ε Module) (order : List String) :
    (∀ name ∈ order, ∃ module, read name = .ok module) ∨
      ∃ before name after cause, order = before ++ name :: after ∧
        (∀ earlier ∈ before, ∃ module, read earlier = .ok module) ∧ read name = .error cause := by
  induction order with
  | nil => exact Or.inl nofun
  | cons name rest ih =>
      cases found : read name with
      | error cause => exact Or.inr ⟨[], name, rest, cause, rfl, nofun, found⟩
      | ok module =>
          rcases ih with readable | ⟨before, other, after, cause, rfl, readable, failed⟩
          · exact Or.inl (List.forall_mem_cons.mpr ⟨⟨module, found⟩, readable⟩)
          · exact Or.inr ⟨name :: before, other, after, cause, rfl,
              List.forall_mem_cons.mpr ⟨⟨module, found⟩, readable⟩, failed⟩

end Logs

/-! ### Scans -/

section Scans

variable (references) (read : String → Except ε Module) (root : Module)

def loggedScan : Except ε ScanResult × List String :=
  runLogged (scan references (logged read) root) []

theorem loggedScan_outcome :
    (loggedScan references read root).1 = scan references read root := by
  rw [loggedScan, scan, scan, runLogged_bind, ← walk_logged [root.name] (visits root) []]
  rcases runLogged (walk references (logged read) [root.name] (visits root)) [] with
    ⟨_ | modules, asked⟩ <;> rfl

theorem loggedScan_eq :
    loggedScan references read root =
      let walked := runLogged (walk references (logged read) [root.name]
        (root.references.map Step.visit ++ [])) []
      (walked.1.map (.ofModules · root), walked.2) := by
  rw [loggedScan, scan, runLogged_bind, List.append_nil, visits]
  rcases runLogged (walk references (logged read) [root.name] (root.references.map Step.visit))
    [] with ⟨_ | modules, asked⟩ <;> rfl

variable {references read root} {order : List String}
  (walks : DepthFirst references (shown read) [root.name] root.references order)

include walks

theorem DepthFirst.scan_readable (readable : ∀ name ∈ order, ∃ module, read name = .ok module) :
    (loggedScan references read root).2 = order ∧
      ∃ result, scan references read root = .ok result := by
  obtain ⟨modules, ran⟩ := walks.walk_readable readable [] []
  have ended : runLogged (walk references (logged read) (order.reverse ++ [root.name]) [])
      order = (.ok [], order) := by
    rw [walk]
    rfl
  rw [List.nil_append, ended] at ran
  rw [← loggedScan_outcome, loggedScan_eq, ran]
  exact ⟨rfl, _, rfl⟩

theorem DepthFirst.scan_unreadable {before after : List String} {name : String} {cause : ε}
    (split : order = before ++ name :: after)
    (readable : ∀ earlier ∈ before, ∃ module, read earlier = .ok module)
    (failed : read name = .error cause) :
    (loggedScan references read root).2 = before ++ [name] ∧
      scan references read root = .error cause := by
  have ran := walks.walk_unreadable split readable failed [] []
  rw [← loggedScan_outcome, loggedScan_eq, ran]
  exact ⟨rfl, rfl⟩

end Scans

/-- What a scan asks for when the names that its references lead to have this order. -/
structure AsksInOrder (references : NameSet) (read : String → Except ε Module) (root : Module)
    (order : List String) : Prop where
  reached_iff : ∀ name,
    name ∈ order ↔ ReachableFrom references read root.name root.references name
  outcome : (loggedScan references read root).1 = scan references read root
  inOrder : (loggedScan references read root).2 <+: order
  once : (loggedScan references read root).2.Nodup
  inSet : ∀ name ∈ (loggedScan references read root).2, references.contains name = true
  notRoot : root.name ∉ (loggedScan references read root).2
  bounded : (loggedScan references read root).2.length ≤ references.toList.length
  succeeds : (∀ name ∈ order, ∃ module, read name = .ok module) →
    (loggedScan references read root).2 = order ∧
      ∃ result, scan references read root = .ok result
  fails : ∀ before name after cause, order = before ++ name :: after →
    (∀ earlier ∈ before, ∃ module, read earlier = .ok module) → read name = .error cause →
      (loggedScan references read root).2 = before ++ [name] ∧
        scan references read root = .error cause
  fails_iff : (∃ cause, scan references read root = .error cause) ↔
    ∃ name ∈ order, ∃ cause, read name = .error cause

/-- Every scan ends, and asks for modules in the depth-first order of the references up to
the first one that cannot be read. -/
theorem scan_asks_depthFirst (references : NameSet) (read : String → Except ε Module)
    (root : Module) :
    ∃ order, DepthFirst references (shown read) [root.name] root.references order ∧
      (∀ other, DepthFirst references (shown read) [root.name] root.references other →
        other = order) ∧
      AsksInOrder references read root order := by
  obtain ⟨order, walks⟩ := exists_depthFirst (shown read) [root.name] root.references
  obtain ⟨distinct, fresh⟩ := walks.listed
  have inOrder : (loggedScan references read root).2 <+: order := by
    rcases readable_or_first_unreadable read order with
      readable | ⟨before, name, after, cause, split, readable, failed⟩
    · exact ⟨[], by rw [(walks.scan_readable readable).1, List.append_nil]⟩
    · rw [(walks.scan_unreadable split readable failed).1, split]
      exact ⟨after, by simp⟩
  have asked : ∀ name ∈ (loggedScan references read root).2, name ∈ order := inOrder.subset
  have once : (loggedScan references read root).2.Nodup := distinct.sublist inOrder.sublist
  have inSet : ∀ name ∈ (loggedScan references read root).2, references.contains name = true :=
    fun name present => (fresh name (asked name present)).1
  refine ⟨order, walks, fun other => walks.unique, ?_⟩
  constructor
  case reached_iff => exact walks.mem_iff_reachable
  case outcome => exact loggedScan_outcome references read root
  case inOrder => exact inOrder
  case once => exact once
  case inSet => exact inSet
  case notRoot =>
    exact fun present => (fresh _ (asked _ present)).2 (List.mem_singleton_self root.name)
  case bounded =>
    have among : (loggedScan references read root).2 ⊆ references.toList :=
      fun name present => List.contains_iff_mem.mp (inSet name present)
    exact (List.subperm_of_subset once among).length_le
  case succeeds => exact walks.scan_readable
  case fails => exact fun before name after cause => walks.scan_unreadable
  case fails_iff =>
    simp only [walks.mem_iff_reachable]
    rw [scan_fails_iff]
    constructor
    · rintro ⟨name, cause, reached, failed⟩
      exact ⟨name, reached, cause, failed⟩
    · rintro ⟨name, reached, cause, failed⟩
      exact ⟨name, cause, reached, failed⟩

end GuestGlue
