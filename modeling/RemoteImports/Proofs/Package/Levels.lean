import RemoteImports.Package.Npm
import RemoteImports.Proofs.KeyMap
import Mathlib.Data.List.Lex

/-!
# Going through a tree level by level

A package in a tree is reached by a path of names.  Going through the tree level
by level meets the packages in the order of their paths: the shorter first, and
of two as long the one that is earlier in the order of the names.  So what is
kept for a name is the version of the first package of that name that has one.
-/

namespace RemoteImports
namespace Package
namespace Npm

def Node.at? (root : Node) : (path : List String) -> Option Node
  | [] => some root
  | name :: path =>
      match root.dependencies.lookup name with
      | some child => child.at? path
      | none => none

/-- Everywhere in the tree, the dependencies are in the order of their names. -/
inductive Node.Ordered : Node -> Prop where
  | node {version : Option String} {dependencies : List (String × Node)} :
      dependencies.Pairwise (fun a b => a.1 < b.1) ->
      (forall entry, entry ∈ dependencies -> Node.Ordered entry.2) ->
      Node.Ordered (.node version dependencies)

/-- A path comes before another one if it is shorter, or as long and earlier in
the order of the names. -/
def Before (path other : List String) : Prop :=
  path.length < other.length ∨
    path.length = other.length ∧ List.Lex (· < ·) path other

/-- The path leads to a package of this name and version, below the root. -/
def Node.Has (root : Node) (path : List String) (name version : String) : Prop :=
  path.getLast? = some name ∧
    exists node : Node, root.at? path = some node ∧ node.version = some version

/-- A package of this name and version is in the tree before every other one of
the name that has a version. -/
def Node.Foremost (root : Node) (name version : String) : Prop :=
  exists path : List String, root.Has path name version ∧
    forall (other : List String) (rival : String), root.Has other name rival ->
      other = path ∨ Before path other

def directlyBelow (place : List String × Node) : List (List String × Node) :=
  place.2.dependencies.map fun entry => (place.1 ++ [entry.1], entry.2)

def below (level : List (String × Node)) : List (String × Node) :=
  level.flatMap fun entry => entry.2.dependencies

theorem countAll_append (a b : List (String × Node)) :
    countAll (a ++ b) = countAll a + countAll b := by
  rw [← waiting_map_snd, List.map_append, waiting_append, waiting_map_snd, waiting_map_snd]

theorem countAll_below (level : List (String × Node)) :
    countAll (below level) + level.length = countAll level := by
  induction level with
  | nil =>
      rfl
  | cons entry level ih =>
      rcases entry with ⟨name, node⟩
      have hbelow : below ((name, node) :: level) = node.dependencies ++ below level := rfl
      rw [hbelow, countAll_append, countAll, node.count_eq, List.length_cons]
      omega

def breadthFirst (level : List (String × Node)) : List (String × Node) :=
  match level with
  | [] => []
  | entry :: rest => entry :: rest ++ breadthFirst (below (entry :: rest))
termination_by countAll level
decreasing_by
  have h := countAll_below (entry :: rest)
  rw [List.length_cons] at h
  omega

def Node.row (root : Node) : Nat -> List (List String × Node)
  | 0 => [([], root)]
  | depth + 1 => (root.row depth).flatMap directlyBelow

def entryOf (place : List String × Node) : String × Node :=
  (place.1.getLastD "", place.2)

section

variable {root node : Node} {path other : List String} {name version : String}
  {depth : Nat}

/-!
# Paths
-/

theorem Node.at?_cons (root : Node) (name : String) (path : List String) :
    root.at? (name :: path) =
      (root.dependencies.lookup name).bind fun child => child.at? path := by
  rw [Node.at?]
  cases root.dependencies.lookup name with
  | none =>
      rfl
  | some child =>
      rfl

theorem Node.at?_append (root : Node) (path : List String) (name : String) :
    root.at? (path ++ [name]) =
      (root.at? path).bind fun parent => parent.dependencies.lookup name := by
  induction path generalizing root with
  | nil =>
      rw [List.nil_append, Node.at?_cons, Node.at?, Option.bind_some]
      exact Option.bind_fun_some _
  | cons first path ih =>
      rw [List.cons_append, Node.at?_cons, Node.at?_cons]
      cases root.dependencies.lookup first with
      | none =>
          rfl
      | some child =>
          exact ih child

theorem Node.Ordered.pairwise (h : node.Ordered) :
    node.dependencies.Pairwise fun a b => a.1 < b.1 := by
  cases h with
  | node hpairwise _ =>
      exact hpairwise

theorem Node.Ordered.inner {inner : Node} (h : node.Ordered)
    (hmem : (name, inner) ∈ node.dependencies) :
    inner.Ordered := by
  cases h with
  | node _ hchildren =>
      exact hchildren _ hmem

theorem Node.Ordered.lookup_iff {inner : Node} (h : node.Ordered) :
    node.dependencies.lookup name = some inner <-> (name, inner) ∈ node.dependencies :=
  KeyMap.lookup_eq_some_iff_mem h.pairwise

theorem Node.Ordered.at? (h : root.Ordered) (hpath : root.at? path = some node) :
    node.Ordered := by
  induction path generalizing root with
  | nil =>
      cases hpath
      exact h
  | cons name path ih =>
      rw [Node.at?_cons] at hpath
      rcases Option.bind_eq_some_iff.mp hpath with ⟨inner, hinner, hlater⟩
      exact ih (h.inner (h.lookup_iff.mp hinner)) hlater

theorem Before.asymm (h : Before path other) : ¬ Before other path := by
  rintro (hshorter | ⟨hlength, hother⟩)
  · rcases h with h | ⟨h, _⟩ <;> omega
  · rcases h with h | ⟨_, hpath⟩
    · omega
    · exact List.Lex.asymm (· < ·) |>.asymm _ _ hpath hother

theorem lex_append_singleton {a b : String} (h : List.Lex (· < ·) path other)
    (hlength : path.length = other.length) :
    List.Lex (· < ·) (path ++ [a]) (other ++ [b]) := by
  induction h with
  | nil =>
      cases hlength
  | rel hlt =>
      exact List.Lex.rel hlt
  | cons _ ih =>
      exact List.Lex.cons (ih (Nat.succ.inj hlength))

/-!
# Rows
-/

theorem mem_row_iff (h : root.Ordered) :
    (path, node) ∈ root.row depth <-> path.length = depth ∧ root.at? path = some node := by
  induction depth generalizing path node with
  | zero =>
      rw [Node.row, List.mem_singleton, Prod.mk.injEq, List.length_eq_zero_iff]
      constructor
      · rintro ⟨rfl, rfl⟩
        exact ⟨rfl, rfl⟩
      · rintro ⟨rfl, hnode⟩
        exact ⟨rfl, (Option.some.inj hnode).symm⟩
  | succ depth ih =>
      simp only [Node.row, directlyBelow, List.mem_flatMap, List.mem_map, Prod.exists,
        Prod.mk.injEq]
      constructor
      · rintro ⟨above, parent, hparent, name, child, hchild, rfl, rfl⟩
        rcases ih.mp hparent with ⟨hlength, hat⟩
        refine ⟨by rw [List.length_append, hlength]; rfl, ?_⟩
        rw [Node.at?_append, hat, Option.bind_some]
        exact (h.at? hat).lookup_iff.mpr hchild
      · rintro ⟨hlength, hat⟩
        rcases List.eq_nil_or_concat path with rfl | ⟨above, name, rfl⟩
        · cases hlength
        rw [List.concat_eq_append] at hlength hat ⊢
        rw [Node.at?_append] at hat
        rcases Option.bind_eq_some_iff.mp hat with ⟨parent, hparent, hchild⟩
        rw [List.length_append, List.length_singleton, Nat.succ.injEq] at hlength
        exact ⟨above, parent, ih.mpr ⟨hlength, hparent⟩, name, node,
          (h.at? hparent).lookup_iff.mp hchild, rfl, rfl⟩

theorem row_pairwise (h : root.Ordered) (depth : Nat) :
    (root.row depth).Pairwise fun a b => List.Lex (· < ·) a.1 b.1 := by
  induction depth with
  | zero =>
      exact List.pairwise_singleton _ _
  | succ depth ih =>
      rw [Node.row, List.pairwise_flatMap]
      constructor
      · rintro ⟨path, node⟩ hmem
        have hnode := h.at? ((mem_row_iff h).mp hmem).right
        rw [directlyBelow, List.pairwise_map]
        refine hnode.pairwise.imp ?_
        intro first second hlt
        exact List.Lex.append_left _ (List.Lex.rel hlt) path
      · refine ih.imp_of_mem ?_
        rintro ⟨path, node⟩ ⟨other, rival⟩ hmem hother hlex place hplace later hlater
        rcases List.mem_map.mp hplace with ⟨first, _, rfl⟩
        rcases List.mem_map.mp hlater with ⟨second, _, rfl⟩
        apply lex_append_singleton hlex
        rw [((mem_row_iff h).mp hmem).left, ((mem_row_iff h).mp hother).left]

theorem below_row (root : Node) (depth : Nat) :
    below ((root.row depth).map entryOf) = (root.row (depth + 1)).map entryOf := by
  have hentry : forall place : List String × Node,
      (directlyBelow place).map entryOf = (entryOf place).2.dependencies := by
    intro place
    simp [directlyBelow, entryOf, Function.comp_def]
  rw [below, Node.row, List.flatMap_map, List.map_flatMap]
  exact congrArg (List.flatMap · _) (funext fun place => (hentry place).symm)

theorem row_eq_nil {deeper : Nat} (h : root.row depth = []) (hle : depth <= deeper) :
    root.row deeper = [] := by
  induction hle with
  | refl =>
      exact h
  | step _ ih =>
      rw [Node.row, ih, List.flatMap_nil]

/-- Going through the tree from some level on meets the packages whose paths are
that long, in the order of their paths. -/
theorem exists_breadthFirst_eq (h : root.Ordered) (depth : Nat)
    (level : List (String × Node)) (hlevel : level = (root.row (depth + 1)).map entryOf) :
    exists found : List (List String × Node),
      breadthFirst level = found.map entryOf ∧
      (forall (path : List String) (node : Node),
        (path, node) ∈ found <-> depth < path.length ∧ root.at? path = some node) ∧
      found.Pairwise fun a b => Before a.1 b.1 := by
  fun_induction breadthFirst level generalizing depth with
  | case1 =>
      refine ⟨[], rfl, ?_, List.Pairwise.nil⟩
      intro path node
      constructor
      · intro hmem
        cases hmem
      · rintro ⟨hlength, hpath⟩
        have hplace := (mem_row_iff h).mpr ⟨rfl, hpath⟩
        rw [row_eq_nil (List.map_eq_nil_iff.mp hlevel.symm) hlength] at hplace
        cases hplace
  | case2 entry rest ih =>
      rcases ih (depth + 1) (by rw [hlevel, below_row]) with ⟨later, hlater, hmem, hpairwise⟩
      refine ⟨root.row (depth + 1) ++ later, ?_, ?_, ?_⟩
      · rw [List.map_append, ← hlevel, hlater]
      · intro path node
        rw [List.mem_append, mem_row_iff h, hmem, ← or_and_right]
        exact and_congr_left' (by omega)
      · rw [List.pairwise_append]
        refine ⟨?_, hpairwise, ?_⟩
        · refine (row_pairwise h (depth + 1)).imp_of_mem ?_
          rintro ⟨path, node⟩ ⟨other, rival⟩ hpath hother hlex
          rw [mem_row_iff h] at hpath hother
          exact Or.inr ⟨hpath.left.trans hother.left.symm, hlex⟩
        · rintro ⟨path, node⟩ hpath ⟨other, rival⟩ hother
          rw [mem_row_iff h] at hpath
          rw [hmem] at hother
          have hshorter : path.length < other.length := by
            rw [hpath.left]
            exact hother.left
          exact Or.inl hshorter

/-!
# The queue

When the packages of a level have been taken out, those of the next level stand
behind whatever else was in the queue.
-/

theorem collect_append (map : VersionMap) (level : List (String × Node))
    (behind : List Node) :
    collect map (level.map Prod.snd ++ behind) =
      collect ((below level).foldl offer map) (behind ++ (below level).map Prod.snd) := by
  induction level generalizing map behind with
  | nil =>
      exact congrArg (collect map) (List.append_nil behind).symm
  | cons entry level ih =>
      have hbelow : below (entry :: level) = entry.2.dependencies ++ below level := rfl
      rw [List.map_cons, List.cons_append, collect, List.append_assoc, ih, hbelow,
        List.foldl_append, List.map_append, List.append_assoc]

theorem collect_level (map : VersionMap) (level : List (String × Node)) :
    collect (level.foldl offer map) (level.map Prod.snd) =
      (breadthFirst level).foldl offer map := by
  fun_induction breadthFirst level generalizing map with
  | case1 =>
      rw [List.map_nil, collect]
  | case2 entry rest ih =>
      -- One round of the queue takes out this level and leaves the next one alone in it.
      have hround := collect_append ((entry :: rest).foldl offer map) (entry :: rest) []
      rw [List.append_nil, List.nil_append, ih, ← List.foldl_append] at hround
      exact hround

/-- The queue goes through the tree level by level. -/
theorem Node.versions_eq (root : Node) :
    root.versions = (breadthFirst root.dependencies).foldl offer .empty := by
  rw [Node.versions, collect, List.nil_append, collect_level]

/-!
# What is kept
-/

def versioned (found : List (List String × Node)) : List (String × String) :=
  (found.map entryOf).filterMap fun entry =>
    entry.2.version.map fun version => (entry.1, version)

theorem get?_offer (map : VersionMap) (entry : String × Node) (name : String) :
    (offer map entry).get? name =
      (map.get? name).or (if name = entry.1 then entry.2.version else none) := by
  rw [offer]
  cases hversion : entry.2.version with
  | none =>
      simp
  | some version =>
      by_cases hname : name = entry.1
      · cases hkept : map.get? entry.1 with
        | none =>
            simp [hname, hkept, KeyMap.get?_insert]
        | some kept =>
            simp [hname, hkept]
      · cases hkept : (map.get? entry.1).isSome with
        | true =>
            simp [hname]
        | false =>
            simp [hname, KeyMap.get?_insert]

theorem lookup_versioned_cons (place : List String × Node)
    (found : List (List String × Node)) (name : String) :
    (versioned (place :: found)).lookup name =
      (if name = (entryOf place).1 then (entryOf place).2.version else none).or
        ((versioned found).lookup name) := by
  rw [versioned, List.map_cons, List.filterMap_cons]
  cases hversion : (entryOf place).2.version with
  | none =>
      rw [ite_self]
      rfl
  | some version =>
      refine (KeyMap.lookup_cons _ _ _ _).trans ?_
      by_cases hname : name = (entryOf place).1
      · rw [if_pos hname, if_pos hname]
        rfl
      · rw [if_neg hname, if_neg hname]
        rfl

theorem get?_foldl_offer (map : VersionMap) (found : List (List String × Node))
    (name : String) :
    ((found.map entryOf).foldl offer map).get? name =
      (map.get? name).or ((versioned found).lookup name) := by
  induction found generalizing map with
  | nil =>
      exact (Option.or_none).symm
  | cons place found ih =>
      rw [List.map_cons, List.foldl_cons, ih, get?_offer, lookup_versioned_cons,
        Option.or_assoc]

def Counts (name : String) (place : List String × Node) : Prop :=
  place.1.getLastD "" = name ∧ place.2.version.isSome

theorem lookup_versioned_of_counts {place : List String × Node}
    (h : Counts name place) (found : List (List String × Node)) :
    (versioned (place :: found)).lookup name = place.2.version := by
  rcases Option.isSome_iff_exists.mp h.right with ⟨version, hversion⟩
  have hname : name = (entryOf place).1 := h.left.symm
  have hsame : (entryOf place).2.version = place.2.version := rfl
  rw [lookup_versioned_cons, if_pos hname, hsame, hversion, Option.some_or]

theorem lookup_versioned_of_not_counts {place : List String × Node}
    (h : ¬ Counts name place) (found : List (List String × Node)) :
    (versioned (place :: found)).lookup name = (versioned found).lookup name := by
  have hnone : (if name = (entryOf place).1 then (entryOf place).2.version else none) =
      none := by
    by_cases hname : name = (entryOf place).1
    · rw [if_pos hname, ← Option.not_isSome_iff_eq_none]
      exact fun hversion => h ⟨hname.symm, hversion⟩
    · exact if_neg hname
  rw [lookup_versioned_cons, hnone, Option.none_or]

/-- Looking up a name among packages that are in order finds the first of them
that counts. -/
theorem lookup_versioned_iff {found : List (List String × Node)}
    (h : found.Pairwise fun a b => Before a.1 b.1) :
    (versioned found).lookup name = some version <->
      exists place : List String × Node,
        place ∈ found ∧ Counts name place ∧ place.2.version = some version ∧
        forall rival : List String × Node, rival ∈ found -> Counts name rival ->
          rival.1 = place.1 ∨ Before place.1 rival.1 := by
  induction found with
  | nil =>
      simp [versioned]
  | cons head found ih =>
      rw [List.pairwise_cons] at h
      by_cases hcounts : Counts name head
      · rw [lookup_versioned_of_counts hcounts]
        constructor
        · intro hversion
          refine ⟨head, List.mem_cons_self, hcounts, hversion, ?_⟩
          intro rival hrival _
          rcases List.mem_cons.mp hrival with rfl | hlater
          · exact Or.inl rfl
          · exact Or.inr (h.left rival hlater)
        · rintro ⟨place, hplace, _, hversion, hfirst⟩
          rcases List.mem_cons.mp hplace with rfl | hlater
          · exact hversion
          · have hbefore := h.left place hlater
            rcases hfirst head List.mem_cons_self hcounts with heq | hafter
            · rw [heq] at hbefore
              exact absurd hbefore hbefore.asymm
            · exact absurd hafter hbefore.asymm
      · rw [lookup_versioned_of_not_counts hcounts, ih h.right]
        constructor
        · rintro ⟨place, hplace, hcount, hversion, hfirst⟩
          refine ⟨place, List.mem_cons_of_mem head hplace, hcount, hversion, ?_⟩
          intro rival hrival hcount
          rcases List.mem_cons.mp hrival with rfl | hlater
          · exact absurd hcount hcounts
          · exact hfirst rival hlater hcount
        · rintro ⟨place, hplace, hcount, hversion, hfirst⟩
          rcases List.mem_cons.mp hplace with rfl | hlater
          · exact absurd hcount hcounts
          · exact ⟨place, hlater, hcount, hversion, fun rival hrival =>
              hfirst rival (List.mem_cons_of_mem head hrival)⟩

theorem isSome_lookup_versioned {found : List (List String × Node)}
    {place : List String × Node} (hplace : place ∈ found) (hcount : Counts name place) :
    ((versioned found).lookup name).isSome := by
  induction found with
  | nil =>
      cases hplace
  | cons head found ih =>
      by_cases hcounts : Counts name head
      · rw [lookup_versioned_of_counts hcounts]
        exact hcounts.right
      · rw [lookup_versioned_of_not_counts hcounts]
        rcases List.mem_cons.mp hplace with rfl | hlater
        · exact absurd hcount hcounts
        · exact ih hlater

theorem Node.Ordered.exists_found (h : root.Ordered) :
    exists found : List (List String × Node),
      (forall name : String, root.versions.get? name = (versioned found).lookup name) ∧
      (forall (path : List String) (node : Node),
        (path, node) ∈ found <-> 0 < path.length ∧ root.at? path = some node) ∧
      found.Pairwise fun a b => Before a.1 b.1 := by
  have hlevel : root.dependencies = (root.row 1).map entryOf := by
    rw [← below_row]
    exact (List.append_nil _).symm
  rcases exists_breadthFirst_eq h 0 root.dependencies hlevel with
    ⟨found, hfound, hmem, hpairwise⟩
  refine ⟨found, ?_, hmem, hpairwise⟩
  intro name
  rw [Node.versions_eq, hfound, get?_foldl_offer]
  rfl

theorem getLastD_eq_iff :
    0 < path.length ∧ path.getLastD "" = name <-> path.getLast? = some name := by
  rcases List.eq_nil_or_concat path with rfl | ⟨above, last, rfl⟩
  · simp
  · simp

theorem mem_and_counts_iff {found : List (List String × Node)}
    (hmem : forall (path : List String) (node : Node),
      (path, node) ∈ found <-> 0 < path.length ∧ root.at? path = some node) :
    (exists node : Node, (path, node) ∈ found ∧ Counts name (path, node) ∧
      node.version = some version) <-> root.Has path name version := by
  simp only [hmem, Node.Has, ← getLastD_eq_iff, Counts]
  constructor
  · rintro ⟨node, ⟨hlength, hat⟩, ⟨hname, _⟩, hversion⟩
    exact ⟨⟨hlength, hname⟩, node, hat, hversion⟩
  · rintro ⟨⟨hlength, hname⟩, node, hat, hversion⟩
    exact ⟨node, ⟨hlength, hat⟩, ⟨hname, Option.isSome_of_eq_some hversion⟩, hversion⟩

theorem Node.Ordered.get?_versions_iff (h : root.Ordered) (name version : String) :
    root.versions.get? name = some version <-> root.Foremost name version := by
  rcases h.exists_found with ⟨found, hget, hmem, hpairwise⟩
  rw [hget, lookup_versioned_iff hpairwise]
  constructor
  · rintro ⟨⟨path, node⟩, hplace, hcount, hversion, hfirst⟩
    refine ⟨path, (mem_and_counts_iff hmem).mp ⟨node, hplace, hcount, hversion⟩, ?_⟩
    intro other rival hrival
    rcases (mem_and_counts_iff hmem).mpr hrival with ⟨node, hplace, hcount, _⟩
    exact hfirst (other, node) hplace hcount
  · rintro ⟨path, hhas, hfirst⟩
    rcases (mem_and_counts_iff hmem).mpr hhas with ⟨node, hplace, hcount, hversion⟩
    refine ⟨(path, node), hplace, hcount, hversion, ?_⟩
    rintro ⟨other, rival⟩ hrival hcount
    rcases Option.isSome_iff_exists.mp hcount.right with ⟨version, hversion⟩
    exact hfirst other version
      ((mem_and_counts_iff hmem).mp ⟨rival, hrival, hcount, hversion⟩)

theorem Node.Ordered.isSome_get?_versions_iff (h : root.Ordered) (name : String) :
    (root.versions.get? name).isSome <->
      exists (path : List String) (version : String), root.Has path name version := by
  constructor
  · intro hkept
    rcases Option.isSome_iff_exists.mp hkept with ⟨version, hversion⟩
    rcases (h.get?_versions_iff name version).mp hversion with ⟨path, hhas, _⟩
    exact ⟨path, version, hhas⟩
  · rintro ⟨path, version, hhas⟩
    rcases h.exists_found with ⟨found, hget, hmem, _⟩
    rcases (mem_and_counts_iff hmem).mpr hhas with ⟨node, hplace, hcount, _⟩
    rw [hget]
    exact isSome_lookup_versioned hplace hcount

end

end Npm
end Package
end RemoteImports
