/-
The walk over references, told as a recursive descent.  A module is finished when
every name it refers to was looked at, so what it refers to comes first unless it
waits for that module itself.
-/

import GuestGlue.Metadata.Scan
import Mathlib.Logic.Relation

namespace GuestGlue

variable {ε : Type} {references : NameSet} {read : String → Except ε Module}

structure Reached where
  name : String
  module : Module

/-- Looks at names in order; what is reached is listed as it is finished.  The
names visited before and after the descent are its first and last index. -/
inductive Descends (references : NameSet) (read : String → Except ε Module) :
    List String → List String → List Reached → List String → Prop
  | done (visited : List String) : Descends references read visited [] [] visited
  | pass {visited names after : List String} {name : String} {reached : List Reached}
      (passed : references.contains name = false ∨ name ∈ visited)
      (later : Descends references read visited names reached after) :
      Descends references read visited (name :: names) reached after
  | enter {visited names middle after : List String} {name : String} {module : Module}
      {inner outer : List Reached}
      (member : references.contains name = true) (fresh : name ∉ visited)
      (found : read name = .ok module)
      (inside : Descends references read (name :: visited) module.references inner middle)
      (later : Descends references read middle names outer after) :
      Descends references read visited (name :: names) (inner ++ ⟨name, module⟩ :: outer) after

/-! ### The walk is a descent -/

theorem unvisited_le {visited after : List String} (grows : visited ⊆ after) :
    unvisited references after ≤ unvisited references visited := by
  apply List.countP_mono_left
  intro name _ absent
  simp only [Bool.not_eq_true', List.contains_eq_mem, decide_eq_false_iff_not] at absent ⊢
  exact fun present => absent (grows present)

namespace Descends

theorem mem_after {visited names after : List String} {reached : List Reached}
    (descends : Descends references read visited names reached after) (name : String) :
    name ∈ after ↔ name ∈ visited ∨ name ∈ reached.map (·.name) := by
  induction descends with
  | done visited => simp
  | pass passed later ih => exact ih
  | enter member fresh found inside later ihInside ihLater =>
      rw [ihLater, ihInside, List.mem_cons, List.map_append, List.map_cons, List.mem_append,
        List.mem_cons]
      grind

theorem grows {visited names after : List String} {reached : List Reached}
    (descends : Descends references read visited names reached after) : visited ⊆ after :=
  fun name present => (descends.mem_after name).mpr (Or.inl present)

/-- The walk does the whole descent before it turns to the other steps. -/
theorem walk_eq {visited names after : List String} {reached : List Reached}
    (descends : Descends references read visited names reached after) (rest : List Step) :
    walk references read visited (names.map Step.visit ++ rest) =
      (walk references read after rest).map (reached.map (·.module) ++ ·) := by
  induction descends generalizing rest with
  | done visited =>
      cases ended : walk references read visited rest with
      | error error => simp [ended, Except.map]
      | ok modules => simp [ended, Except.map]
  | pass passed later ih =>
      rw [List.map_cons, List.cons_append, walk]
      rcases passed with outside | seen
      · rw [dif_neg (by simp [outside])]
        exact ih rest
      · have contained := List.contains_iff_mem.mpr seen
        simp only [contained, if_true, dite_eq_ite, ite_self]
        exact ih rest
  | @enter visited names middle after name module inner outer member fresh found inside later
      ihInside ihLater =>
      have notContained : ¬visited.contains name = true :=
        fun contained => fresh (List.contains_iff_mem.mp contained)
      rw [List.map_cons, List.cons_append, walk, dif_pos member, dif_neg notContained, found]
      change walk references read (name :: visited)
        (module.references.map Step.visit ++ Step.finish module :: (names.map Step.visit ++ rest)) = _
      rw [ihInside, walk, ihLater]
      cases walk references read after rest with
      | error error => rfl
      | ok modules => simp [Except.map, bind, Except.bind, pure, Except.pure]

/-! ### What a descent reaches -/

theorem read_eq {visited names after : List String} {reached : List Reached}
    (descends : Descends references read visited names reached after) :
    ∀ entry ∈ reached, read entry.name = .ok entry.module := by
  induction descends with
  | done visited => intro entry impossible; cases impossible
  | pass passed later ih => exact ih
  | enter member fresh found inside later ihInside ihLater =>
      intro entry present
      rcases List.mem_append.mp present with within | rest
      · exact ihInside entry within
      · rcases List.mem_cons.mp rest with rfl | beyond
        · exact found
        · exact ihLater entry beyond

/-- Another reader that gives the same modules makes the same descent. -/
theorem congr {visited names after : List String} {reached : List Reached}
    {other : String → Except ε Module}
    (descends : Descends references read visited names reached after)
    (same : ∀ entry ∈ reached, other entry.name = read entry.name) :
    Descends references other visited names reached after := by
  induction descends with
  | done visited => exact .done visited
  | pass passed later ih => exact .pass passed (ih same)
  | enter member fresh found inside later ihInside ihLater =>
      have within := fun entry present => same entry (List.mem_append_left _ present)
      have itself := same _ (List.mem_append_right _ List.mem_cons_self)
      have beyond := fun entry present =>
        same entry (List.mem_append_right _ (List.mem_cons_of_mem _ present))
      exact .enter member fresh (itself.trans found) (ihInside within) (ihLater beyond)

theorem nodup {visited names after : List String} {reached : List Reached}
    (descends : Descends references read visited names reached after) :
    (reached.map (·.name)).Nodup ∧ ∀ name ∈ reached.map (·.name), name ∉ visited := by
  induction descends with
  | done visited => exact ⟨List.nodup_nil, fun _ impossible => nomatch impossible⟩
  | pass passed later ih => exact ih
  | @enter visited names middle after name module inner outer member fresh found inside later
      ihInside ihLater =>
      obtain ⟨innerDistinct, innerFresh⟩ := ihInside
      obtain ⟨outerDistinct, outerFresh⟩ := ihLater
      have nameFirst : name ∈ middle := inside.grows List.mem_cons_self
      have innerFirst : ∀ other ∈ inner.map (·.name), other ∈ middle :=
        fun other present => (inside.mem_after other).mpr (Or.inr present)
      rw [List.map_append, List.map_cons]
      constructor
      · refine List.nodup_append.mpr ⟨innerDistinct, List.nodup_cons.mpr ⟨?_, outerDistinct⟩, ?_⟩
        · exact fun present => outerFresh name present nameFirst
        · intro left inInner right present same
          subst same
          rcases List.mem_cons.mp present with rfl | inOuter
          · exact innerFresh left inInner List.mem_cons_self
          · exact outerFresh left inOuter (innerFirst left inInner)
      · intro other present seen
        rcases List.mem_append.mp present with inInner | rest
        · exact innerFresh other inInner (List.mem_cons_of_mem _ seen)
        · rcases List.mem_cons.mp rest with rfl | inOuter
          · exact fresh seen
          · exact outerFresh other inOuter (inside.grows (List.mem_cons_of_mem _ seen))

/-- No name of the set is left unvisited among those that were looked at. -/
theorem covers {visited names after : List String} {reached : List Reached}
    (descends : Descends references read visited names reached after) :
    ∀ name ∈ names, references.contains name = true → name ∈ after := by
  induction descends with
  | done visited => intro name impossible; cases impossible
  | pass passed later ih =>
      intro other present member
      rcases List.mem_cons.mp present with rfl | rest
      · rcases passed with outside | seen
        · rw [outside] at member; cases member
        · exact later.grows seen
      · exact ih other rest member
  | enter member fresh found inside later ihInside ihLater =>
      intro other present inSet
      rcases List.mem_cons.mp present with rfl | rest
      · exact later.grows (inside.grows List.mem_cons_self)
      · exact ihLater other rest inSet

theorem closed {visited names after : List String} {reached : List Reached}
    (descends : Descends references read visited names reached after) :
    ∀ entry ∈ reached, ∀ name ∈ entry.module.references,
      references.contains name = true → name ∈ after := by
  induction descends with
  | done visited => intro entry impossible; cases impossible
  | pass passed later ih => exact ih
  | enter member fresh found inside later ihInside ihLater =>
      intro entry present name referred inSet
      rcases List.mem_append.mp present with within | rest
      · exact later.grows (ihInside entry within name referred inSet)
      · rcases List.mem_cons.mp rest with rfl | beyond
        · exact later.grows (inside.covers name referred inSet)
        · exact ihLater entry beyond name referred inSet

end Descends

/-- Every walk that succeeds is a descent over the visits it starts with. -/
theorem exists_descends_of_walk {visited names : List String} {rest : List Step}
    {modules : List Module}
    (walked : walk references read visited (names.map Step.visit ++ rest) = .ok modules) :
    ∃ reached after, Descends references read visited names reached after := by
  -- entering a module leaves fewer names unvisited; passing a name leaves a shorter list
  induction size : unvisited references visited using Nat.strongRecOn
    generalizing visited names rest modules with
  | ind size smaller =>
      subst size
      induction names with
      | nil => exact ⟨[], visited, .done visited⟩
      | cons name names ih =>
          rw [List.map_cons, List.cons_append, walk] at walked
          split at walked
          · next member =>
            split at walked
            · next seen =>
              obtain ⟨reached, after, descends⟩ := ih walked
              exact ⟨reached, after, .pass (Or.inr (List.contains_iff_mem.mp seen)) descends⟩
            · next fresh =>
              cases found : read name with
              | error error => simp [found, bind, Except.bind] at walked
              | ok module =>
                  simp only [found, bind, Except.bind, visits] at walked
                  have fewer := unvisited_cons_lt member fresh
                  obtain ⟨inner, middle, inside⟩ := smaller _ fewer walked rfl
                  rw [inside.walk_eq, walk] at walked
                  have kept : unvisited references middle < unvisited references visited :=
                    Nat.lt_of_le_of_lt (unvisited_le inside.grows) fewer
                  cases tail : walk references read middle (names.map Step.visit ++ rest) with
                  | error error => simp [tail, Except.map, bind, Except.bind] at walked
                  | ok others =>
                      obtain ⟨outer, after, later⟩ := smaller _ kept tail rfl
                      exact ⟨_, after, .enter member (fun seen => fresh (List.contains_iff_mem.mpr seen))
                        found inside later⟩
          · next outside =>
            obtain ⟨reached, after, descends⟩ := ih walked
            exact ⟨reached, after, .pass (Or.inl (by simpa using outside)) descends⟩

/-! ### Reachability -/

/-- Reading the one module shows a reference to the other, which is in the set and
is not the root. -/
def Follows (references : NameSet) (read : String → Except ε Module) (rootName : String)
    (name other : String) : Prop :=
  ∃ module, read name = .ok module ∧ other ∈ module.references ∧
    references.contains other = true ∧ other ≠ rootName

def ReachableFrom (references : NameSet) (read : String → Except ε Module) (rootName : String)
    (names : List String) (name : String) : Prop :=
  ∃ first ∈ names, references.contains first = true ∧ first ≠ rootName ∧
    Relation.ReflTransGen (Follows references read rootName) first name

def Precedes (names : List String) (first second : String) : Prop :=
  [first, second].Sublist names

theorem precedes_append {left right : List String} {first second : String}
    (inLeft : first ∈ left) (inRight : second ∈ right) : Precedes (left ++ right) first second :=
  (List.singleton_sublist.mpr inLeft).append (List.singleton_sublist.mpr inRight)

namespace Descends

theorem reachable {visited names after : List String} {reached : List Reached} {rootName : String}
    (descends : Descends references read visited names reached after) (excluded : rootName ∈ visited) :
    ∀ entry ∈ reached, ReachableFrom references read rootName names entry.name := by
  induction descends with
  | done visited => intro entry impossible; cases impossible
  | pass passed later ih =>
      intro entry present
      obtain ⟨first, listed, start⟩ := ih excluded entry present
      exact ⟨first, List.mem_cons_of_mem _ listed, start⟩
  | @enter visited names middle after name module inner outer member fresh found inside later
      ihInside ihLater =>
      have notRoot : name ≠ rootName := fun same => fresh (same ▸ excluded)
      intro entry present
      rcases List.mem_append.mp present with within | rest
      · obtain ⟨first, listed, inSet, other, path⟩ :=
          ihInside (List.mem_cons_of_mem _ excluded) entry within
        exact ⟨name, List.mem_cons_self, member, notRoot,
          path.head ⟨module, found, listed, inSet, other⟩⟩
      · rcases List.mem_cons.mp rest with rfl | beyond
        · exact ⟨name, List.mem_cons_self, member, notRoot, .refl⟩
        · obtain ⟨first, listed, start⟩ :=
            ihLater (inside.grows (List.mem_cons_of_mem _ excluded)) entry beyond
          exact ⟨first, List.mem_cons_of_mem _ listed, start⟩

/-- What a module refers to was visited at the start or comes before the module,
unless it is the module or leads back to it. -/
theorem ordered {visited names after : List String} {reached : List Reached} {rootName : String}
    (descends : Descends references read visited names reached after) (excluded : rootName ∈ visited) :
    ∀ entry ∈ reached, ∀ name ∈ entry.module.references, references.contains name = true →
      name = entry.name ∨ name ∈ visited ∨ Precedes (reached.map (·.name)) name entry.name ∨
        Relation.ReflTransGen (Follows references read rootName) name entry.name := by
  induction descends with
  | done visited => intro entry impossible; cases impossible
  | pass passed later ih => exact ih excluded
  | @enter visited names middle after name module inner outer member fresh found inside later
      ihInside ihLater =>
      have excludedInside := List.mem_cons_of_mem name excluded
      intro entry present other referred inSet
      rw [List.map_append, List.map_cons]
      rcases List.mem_append.mp present with within | rest
      · rcases ihInside excludedInside entry within other referred inSet with
          same | seen | before | back
        · exact Or.inl same
        · rcases List.mem_cons.mp seen with rfl | earlier
          · -- a reference back to a module that waits: that module reaches this one
            obtain ⟨first, listed, firstInSet, notRoot, path⟩ :=
              inside.reachable excludedInside entry within
            exact Or.inr (Or.inr (Or.inr (path.head ⟨module, found, listed, firstInSet, notRoot⟩)))
          · exact Or.inr (Or.inl earlier)
        · exact Or.inr (Or.inr (Or.inl (before.trans (List.sublist_append_left _ _))))
        · exact Or.inr (Or.inr (Or.inr back))
      · rcases List.mem_cons.mp rest with rfl | beyond
        · rcases (inside.mem_after other).mp (inside.covers other referred inSet) with seen | inInner
          · rcases List.mem_cons.mp seen with same | earlier
            · exact Or.inl same
            · exact Or.inr (Or.inl earlier)
          · exact Or.inr (Or.inr (Or.inl (precedes_append inInner List.mem_cons_self)))
        · have inOuter : entry.name ∈ name :: outer.map (·.name) :=
            List.mem_cons_of_mem _ (List.mem_map_of_mem beyond)
          rcases ihLater (inside.grows excludedInside) entry beyond other referred inSet with
            same | seen | before | back
          · exact Or.inl same
          · rcases (inside.mem_after other).mp seen with first | inInner
            · rcases List.mem_cons.mp first with rfl | earlier
              · refine Or.inr (Or.inr (Or.inl ?_))
                exact ((List.singleton_sublist.mpr (List.mem_map_of_mem beyond)).cons_cons other).trans
                  (List.sublist_append_right _ _)
              · exact Or.inr (Or.inl earlier)
            · exact Or.inr (Or.inr (Or.inl (precedes_append inInner inOuter)))
          · refine Or.inr (Or.inr (Or.inl (before.trans ?_)))
            exact (List.sublist_cons_self _ _).trans (List.sublist_append_right _ _)
          · exact Or.inr (Or.inr (Or.inr back))

end Descends

end GuestGlue
