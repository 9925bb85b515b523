import RemoteImports.Proofs.Json.Members
import RemoteImports.Proofs.Package.Levels

/-!
# Listings of trees

Every tree that is read has its packages in the order of their names.  A tree
that is written as a listing is read back, provided that no package is further
below the root than containers may be nested; a higher tree is refused.
-/

namespace RemoteImports
namespace Package
namespace Npm

open Json

/-!
# Trees that are read
-/

def Tidy (dependencies : List (String × Node)) : Prop :=
  dependencies.Pairwise (fun a b => a.1 < b.1) ∧
    forall entry, entry ∈ dependencies -> entry.2.Ordered

section

variable {read : Reader Node} {depth : Nat} {cs rest : List Char} {root : Node}

theorem Tidy.nil : Tidy [] := by
  refine ⟨List.Pairwise.nil, ?_⟩
  intro entry hentry
  cases hentry

theorem Tidy.insertEntry {dependencies : List (String × Node)} (h : Tidy dependencies)
    (hroot : root.Ordered) (name : String) :
    Tidy (KeyMap.insertEntry name root dependencies) := by
  refine ⟨KeyMap.pairwise_insertEntry name root h.left, ?_⟩
  intro entry hentry
  rcases KeyMap.mem_insertEntry hentry with rfl | hentry
  · exact hroot
  · exact h.right entry hentry

def Draft.Tidy (draft : Draft) : Prop :=
  forall dependencies : List (String × Node),
    draft.dependencies = some dependencies -> Npm.Tidy dependencies

theorem Draft.Tidy.node {draft : Draft} (h : draft.Tidy) : draft.node.Ordered := by
  have hdependencies : Npm.Tidy (draft.dependencies.getD []) := by
    cases hread : draft.dependencies with
    | none =>
        exact Npm.Tidy.nil
    | some dependencies =>
        exact h dependencies hread
  exact Node.Ordered.node hdependencies.left hdependencies.right

theorem readDependencies_tidy
    (hread : forall (cs : List Char) (node : Node) (rest : List Char),
      read cs = .ok (node, rest) -> node.Ordered)
    {dependencies : List (String × Node)}
    (h : readDependencies read depth cs = .ok (dependencies, rest)) :
    Tidy dependencies := by
  refine readObject_keeps ?_ Tidy.nil h
  intro _ name before after cs rest hbefore hentry
  rcases readEntry_eq_ok hentry with ⟨node, inside, hnode, rfl⟩
  exact hbefore.insertEntry (hread inside node rest hnode) name

theorem member_tidy
    (hread : forall (cs : List Char) (node : Node) (rest : List Char),
      read cs = .ok (node, rest) -> node.Ordered)
    {name : String} {draft next : Draft} (hdraft : draft.Tidy)
    (h : member read depth name draft cs = .ok (next, rest)) :
    next.Tidy := by
  unfold member at h
  split at h
  · rcases readOnce_eq_ok h with ⟨version, inside, _, rfl⟩
    exact hdraft
  · rcases readOnce_eq_ok h with ⟨dependencies, inside, hinside, rfl⟩
    intro kept hkept
    cases hkept
    exact readDependencies_tidy hread hinside
  · rw [readOther_eq_ok h]
    exact hdraft

theorem readNodeWith_ordered
    (hread : forall (cs : List Char) (node : Node) (rest : List Char),
      read cs = .ok (node, rest) -> node.Ordered)
    (h : readNodeWith read depth cs = .ok (root, rest)) :
    root.Ordered := by
  rcases readRecord_eq_ok h with ⟨inner, inside, left, h | h⟩
  · rcases bind_eq_ok.mp h with ⟨⟨version, cs⟩, _, h⟩
    rcases bind_eq_ok.mp h with ⟨⟨dependencies, cs⟩, hdependencies, h⟩
    cases h
    refine Draft.Tidy.node ?_
    intro kept hkept
    rw [show dependencies = some kept from hkept] at hdependencies
    rcases readField_eq_ok hdependencies with ⟨inside, hinside⟩
    exact readDependencies_tidy hread hinside
  · rcases bind_eq_ok.mp h with ⟨⟨draft, cs⟩, hdraft, h⟩
    cases h
    have hstart : ({} : Draft).Tidy := by
      intro kept hkept
      cases hkept
    refine (readMembers_keeps ?_ hstart hdraft).node
    intro _ _ _ _ _ hbefore hmember
    exact member_tidy hread hbefore hmember

theorem readNode_ordered (depth : Nat) (cs : List Char) (node : Node) (rest : List Char)
    (h : readNode depth cs = .ok (node, rest)) :
    node.Ordered := by
  have hdeep : forall (cs : List Char) (node : Node) (rest : List Char),
      readNode.tooDeep cs = .ok (node, rest) -> node.Ordered := by
    intro cs node rest h
    cases h
  -- A tree within another one is read two levels down.
  induction depth using readNode.induct generalizing cs node rest with
  | case1 =>
      exact readNodeWith_ordered hdeep h
  | case2 =>
      exact readNodeWith_ordered hdeep h
  | case3 depth ih =>
      exact readNodeWith_ordered ih h

end

/-!
# Trees that are written
-/

def versionMember : Option String -> List (String × Json)
  | none => []
  | some version => [("version", .string version)]

def dependenciesMember : List (String × Json) -> List (String × Json)
  | [] => []
  | entry :: entries => [("dependencies", .object (entry :: entries))]

mutual

def Node.toJson : Node -> Json
  | .node version dependencies =>
      .object (dependenciesMember (allToJson dependencies) ++ versionMember version)

def allToJson : List (String × Node) -> List (String × Json)
  | [] => []
  | (name, child) :: dependencies => (name, child.toJson) :: allToJson dependencies

end

def Node.listing (root : Node) : String :=
  root.toJson.toText

mutual

def Node.height : Node -> Nat
  | .node _ dependencies => heightAll dependencies

def heightAll : List (String × Node) -> Nat
  | [] => 0
  | (_, child) :: dependencies => max (child.height + 1) (heightAll dependencies)

end

section

variable {read : Reader Node} {depth : Nat} {node : Node} {version : Option String}
  {dependencies : List (String × Node)}

theorem heightAll_lt_iff {n : Nat} (dependencies : List (String × Node)) :
    n < heightAll dependencies <->
      exists entry, entry ∈ dependencies ∧ n <= entry.2.height := by
  induction dependencies with
  | nil =>
      simp [heightAll]
  | cons entry dependencies ih =>
      rcases entry with ⟨name, child⟩
      have hmax : n < heightAll ((name, child) :: dependencies) <->
          n <= child.height ∨ n < heightAll dependencies := by
        rw [heightAll]
        omega
      rw [hmax, ih]
      simp

def Reads (read : Reader Node) (node : Node) : Prop :=
  forall rest : List Char, read (compact node.toJson ++ rest) = .ok (node, rest)

def Stops (read : Reader Node) (node : Node) : Prop :=
  forall rest : List Char, exists left : Nat,
    read (compact node.toJson ++ rest) = .error (.placed .nestedTooDeep left)

theorem puts_entry (h : Reads read node) (name : String) (before : List (String × Node)) :
    Puts (readEntry read KeyMap.insertEntry) name node.toJson before
      (KeyMap.insertEntry name node before) :=
  ReadAs.puts_entry (fun rest _ => h rest) KeyMap.insertEntry name before

theorem bars_entry (h : Stops read node) (name : String) (before : List (String × Node)) :
    Bars (readEntry read KeyMap.insertEntry) name node.toJson before .nestedTooDeep := by
  intro rest
  rcases h rest with ⟨left, hleft⟩
  refine ⟨left, ?_⟩
  rw [readEntry, takeColon_colon]
  change (read (compact node.toJson ++ rest) >>= _) = _
  rw [hleft]
  rfl

theorem gathers_dependencies (before : List (String × Node))
    (hsorted : (before ++ dependencies).Pairwise fun a b => a.1 < b.1)
    (hread : forall entry, entry ∈ dependencies -> Reads read entry.2) :
    Gathers (readEntry read KeyMap.insertEntry) (allToJson dependencies) before
      (before ++ dependencies) := by
  induction dependencies generalizing before with
  | nil =>
      rw [allToJson, List.append_nil]
      exact Gathers.nil
  | cons entry dependencies ih =>
      rcases entry with ⟨name, child⟩
      have hput := puts_entry (hread _ List.mem_cons_self) name before
      have hlast : forall entry, entry ∈ before -> entry.1 < name := by
        intro entry hentry
        exact (List.pairwise_append.mp hsorted).right.right entry hentry _ List.mem_cons_self
      rw [KeyMap.insertEntry_of_last hlast] at hput
      rw [allToJson]
      refine Gathers.cons hput ?_
      have hsplit : before ++ (name, child) :: dependencies =
          before ++ [(name, child)] ++ dependencies := List.append_cons _ _ _
      rw [hsplit] at hsorted ⊢
      exact ih _ hsorted fun entry hentry => hread entry (List.mem_cons_of_mem _ hentry)

theorem refuses_dependencies (before : List (String × Node))
    (hread : forall entry, entry ∈ dependencies -> Reads read entry.2 ∨ Stops read entry.2)
    (hstop : exists entry, entry ∈ dependencies ∧ ¬ Reads read entry.2) :
    Refuses (readEntry read KeyMap.insertEntry) .nestedTooDeep (allToJson dependencies)
      before := by
  induction dependencies generalizing before with
  | nil =>
      rcases hstop with ⟨entry, hentry, _⟩
      cases hentry
  | cons entry dependencies ih =>
      rcases entry with ⟨name, child⟩
      rw [allToJson]
      rcases hread _ List.mem_cons_self with hchild | hchild
      · refine Refuses.later (puts_entry hchild name before) ?_
        apply ih
        · exact fun entry hentry => hread entry (List.mem_cons_of_mem _ hentry)
        · rcases hstop with ⟨entry, hentry, hnot⟩
          rcases List.mem_cons.mp hentry with rfl | hlater
          · exact absurd hchild hnot
          · exact ⟨entry, hlater, hnot⟩
      · exact Refuses.here (bars_entry hchild name before)

/-!
# Trees that are read back
-/

theorem gathers_version (version : Option String) {draft : Draft}
    (h : draft.version = none) :
    Gathers (member read depth) (versionMember version) draft
      { draft with version := version.map some } := by
  rcases draft with ⟨before, dependencies⟩
  cases h
  cases version with
  | none =>
      exact Gathers.nil
  | some version =>
      have hput : Puts (member read depth) "version" (.string version)
          { version := none, dependencies }
          { version := some (some version), dependencies } := by
        intro rest hrest
        rw [member]
        exact ReadAs.readOnce (fun rest _ => readOptional_string version rest) _ _ hrest
      exact Gathers.cons hput Gathers.nil

theorem puts_dependencies (depth : Nat) {entries : List (String × Json)}
    (h : Gathers (readEntry read KeyMap.insertEntry) entries [] dependencies)
    (draft : Draft) (hdraft : draft.dependencies = none) :
    Puts (member read (depth + 1)) "dependencies" (.object entries) draft
      { draft with dependencies := some dependencies } := by
  intro rest hrest
  have hread : ReadAs (readDependencies read (depth + 1)) (.object entries) dependencies :=
    fun rest _ => Gathers.readObject (fun _ => readEntry read _) h rest
  rw [member, hdraft]
  exact hread.readOnce _ _ hrest

theorem bars_dependencies {entries : List (String × Json)} (draft : Draft)
    (hdraft : draft.dependencies = none)
    (h : depth = 0 ∨
      Refuses (readEntry read KeyMap.insertEntry) .nestedTooDeep entries []) :
    Bars (member read depth) "dependencies" (.object entries) draft .nestedTooDeep := by
  intro rest
  have hread : exists left : Nat,
      readDependencies read depth (compact (.object entries) ++ rest) =
        .error (.placed .nestedTooDeep left) := by
    cases depth with
    | zero =>
        exact readObject_zero entries rest
    | succ depth =>
        exact Refuses.readObject (fun _ => readEntry read _)
          (h.resolve_left (Nat.succ_ne_zero depth)) rest
  rcases hread with ⟨left, hleft⟩
  refine ⟨left, ?_⟩
  rw [member, readOnce, hdraft, takeColon_colon]
  change (readDependencies read depth (compact (.object entries) ++ rest) >>= _) = _
  rw [hleft]
  rfl

theorem reads_of_gathers {members : List (String × Json)} {draft : Draft}
    (hmembers : node.toJson = .object members) (hnode : draft.node = node)
    (h : Gathers (member read depth) members {} draft) :
    Reads (readNodeWith read (depth + 1)) node := by
  intro rest
  have hread := h.readMembers (lt_length_led members rest) true rest
  rw [hmembers, readNodeWith, readRecord_object, readMembers, hread]
  simp only [bind, Except.bind, pure, Except.pure, hnode, settle, endObject_close, Except.map]

theorem stops_of_refuses {members : List (String × Json)}
    (hmembers : node.toJson = .object members)
    (h : Refuses (member read depth) .nestedTooDeep members {}) :
    Stops (readNodeWith read (depth + 1)) node := by
  intro rest
  rcases h.readMembers (lt_length_led members rest) true rest with ⟨left, hleft⟩
  refine ⟨left, ?_⟩
  rw [hmembers, readNodeWith, readRecord_object, readMembers, hleft]
  rfl

theorem stops_zero (node : Node) : Stops (readNodeWith read 0) node := by
  intro rest
  cases node with
  | node version dependencies =>
      rw [Node.toJson, compact_object]
      exact ⟨_, rfl⟩

theorem toJson_leaf (version : Option String) :
    (Node.node version []).toJson = .object (versionMember version) := rfl

theorem toJson_parent (version : Option String) (entry : String × Node) :
    (Node.node version (entry :: dependencies)).toJson =
      .object (("dependencies", .object (allToJson (entry :: dependencies))) ::
        versionMember version) := rfl

theorem Draft.node_of_version (version : Option String)
    (dependencies : Option (List (String × Node))) :
    ({ version := version.map some, dependencies } : Draft).node =
      .node version (dependencies.getD []) := by
  cases version with
  | none =>
      rfl
  | some version =>
      rfl

theorem reads_leaf (version : Option String) :
    Reads (readNodeWith read (depth + 1)) (.node version []) := by
  exact reads_of_gathers (toJson_leaf version) (Draft.node_of_version version none)
    (gathers_version version rfl)

theorem reads_parent (h : node.Ordered)
    (hread : forall entry, entry ∈ node.dependencies -> Reads read entry.2) :
    Reads (readNodeWith read (depth + 2)) node := by
  rcases node with ⟨version, dependencies⟩
  cases dependencies with
  | nil =>
      exact reads_leaf version
  | cons entry dependencies =>
      have hentries := gathers_dependencies [] h.pairwise hread
      have hput := puts_dependencies depth hentries {} rfl
      exact reads_of_gathers (toJson_parent version entry) (Draft.node_of_version version _)
        (Gathers.cons hput (gathers_version version rfl))

theorem stops_parent (h : node.dependencies ≠ [])
    (hread : depth = 0 ∨
      Refuses (readEntry read KeyMap.insertEntry) .nestedTooDeep
        (allToJson node.dependencies) []) :
    Stops (readNodeWith read (depth + 1)) node := by
  rcases node with ⟨version, dependencies⟩
  cases dependencies with
  | nil =>
      exact absurd rfl h
  | cons entry dependencies =>
      exact stops_of_refuses (toJson_parent version entry)
        (Refuses.here (bars_dependencies {} rfl hread))

/-- A package and the object of its dependencies are two levels of containers, so
a tree is read exactly if twice its height fits into the depth. -/
theorem reads_or_stops (depth : Nat) (node : Node) (h : node.Ordered) :
    (2 * node.height < depth -> Reads (readNode depth) node) ∧
      (depth <= 2 * node.height -> Stops (readNode depth) node) := by
  -- The reader goes down two levels at a time, so the induction does, too.
  induction depth using readNode.induct generalizing node with
  | case1 =>
      refine ⟨?_, ?_⟩
      · intro hlt
        omega
      · intro _
        exact stops_zero node
  | case2 =>
      rcases node with ⟨version, dependencies⟩
      refine ⟨?_, ?_⟩
      · intro hlt
        cases dependencies with
        | nil =>
            exact reads_leaf version
        | cons entry dependencies =>
            have hpos := (heightAll_lt_iff (n := 0) (entry :: dependencies)).mpr
              ⟨entry, List.mem_cons_self, Nat.zero_le _⟩
            rw [Node.height] at hlt
            omega
      · intro hle
        refine stops_parent ?_ (Or.inl rfl)
        rintro rfl
        rw [Node.height, heightAll] at hle
        omega
  | case3 depth ih =>
      rcases node with ⟨version, dependencies⟩
      rw [Node.height]
      have hinner : forall entry, entry ∈ dependencies -> entry.2.Ordered :=
        fun entry hentry => h.inner hentry
      refine ⟨?_, ?_⟩
      · intro hlt
        refine reads_parent h ?_
        intro entry hentry
        refine (ih entry.2 (hinner entry hentry)).left ?_
        have hheight := (heightAll_lt_iff dependencies).mpr ⟨entry, hentry, Nat.le_refl _⟩
        omega
      · intro hle
        -- A dependency as high as any is too high, and the first such stops the reading.
        rcases (heightAll_lt_iff (n := heightAll dependencies - 1) dependencies).mp
            (by omega) with
          ⟨entry, hentry, hheight⟩
        have hstop := (ih entry.2 (hinner entry hentry)).right (by omega)
        refine stops_parent (List.ne_nil_of_mem hentry) (Or.inr ?_)
        refine refuses_dependencies [] ?_ ⟨entry, hentry, ?_⟩
        · intro entry hentry
          rcases Nat.lt_or_ge (2 * entry.2.height) depth with hlt | hge
          · exact Or.inl ((ih entry.2 (hinner entry hentry)).left hlt)
          · exact Or.inr ((ih entry.2 (hinner entry hentry)).right hge)
        · intro hreads
          rcases hstop [] with ⟨left, hleft⟩
          rw [hreads []] at hleft
          cases hleft

end

/-!
# Versions of a listing
-/

/-- A map has exactly the versions that count in a tree: a name is there if some
package of the name has a version, and then with the version of the foremost of
them. -/
def Node.Flattens (root : Node) (map : VersionMap) : Prop :=
  forall name : String,
    ((map.get? name).isSome <->
      exists (path : List String) (version : String), root.Has path name version) ∧
    forall version : String, map.get? name = some version <-> root.Foremost name version

theorem Node.Ordered.flattens {root : Node} (h : root.Ordered) :
    root.Flattens root.versions :=
  fun name => ⟨h.isSome_get?_versions_iff name, h.get?_versions_iff name⟩

theorem versions_of_parse {output : String} {root : Node}
    (h : Json.parse readNode output = .ok root) :
    exists map : VersionMap, versions output = .ok map ∧ root.Flattens map := by
  refine ⟨root.versions, by rw [versions, h], ?_⟩
  rcases parse_eq_ok h with ⟨rest, hread⟩
  exact (readNode_ordered _ _ _ _ hread).flattens

theorem parse_listing {root : Node} (h : root.Ordered) (hheight : root.height <= 63) :
    Json.parse readNode root.listing = .ok root := by
  have hdepth : 2 * root.height < greatestDepth := by
    rw [greatestDepth]
    omega
  have hread := (reads_or_stops greatestDepth root h).left hdepth []
  rw [List.append_nil] at hread
  rw [Node.listing, Json.parse, toText, String.toList_ofList]
  simp only [hread]
  rfl

theorem versions_of_high {root : Node} (h : root.Ordered) (hheight : 63 < root.height) :
    exists error : Json.Error,
      versions root.listing = .error (.malformedListing .npm error) ∧
        error.problem = .nestedTooDeep := by
  have hdepth : greatestDepth <= 2 * root.height := by
    rw [greatestDepth]
    omega
  rcases (reads_or_stops greatestDepth root h).right hdepth [] with ⟨left, hstop⟩
  rw [List.append_nil] at hstop
  have hparse : Json.parse readNode root.listing =
      .error ((Stop.placed .nestedTooDeep left).error (compact root.toJson)) := by
    rw [Node.listing, Json.parse, toText, String.toList_ofList]
    simp only [hstop]
  refine ⟨_, by rw [versions, hparse], rfl⟩

/-- From every output that is read as a tree come the versions that count in the
tree; a tree of at most 63 levels below its root is read from its listing, and a
higher one is refused as nested too deep. -/
theorem versions_listing :
    (forall (output : String) (root : Node), Json.parse readNode output = .ok root ->
      exists map : VersionMap, versions output = .ok map ∧ root.Flattens map) ∧
    (forall root : Node, root.Ordered -> root.height <= 63 ->
      exists map : VersionMap, versions root.listing = .ok map ∧ root.Flattens map) ∧
    (forall root : Node, root.Ordered -> 63 < root.height ->
      exists error : Json.Error,
        versions root.listing = .error (.malformedListing .npm error) ∧
          error.problem = .nestedTooDeep) := by
  refine ⟨?_, ?_, ?_⟩
  · intro output root h
    exact versions_of_parse h
  · intro root h hheight
    exact versions_of_parse (parse_listing h hheight)
  · intro root h hheight
    exact versions_of_high h hheight

def chain : Nat -> Node
  | 0 => .node (some "1") []
  | length + 1 => .node none [("a", chain length)]

theorem chain_ordered (length : Nat) : (chain length).Ordered := by
  induction length with
  | zero =>
      exact Node.Ordered.node List.Pairwise.nil (fun _ hentry => nomatch hentry)
  | succ length ih =>
      refine Node.Ordered.node (List.pairwise_singleton _ _) ?_
      intro entry hentry
      rw [List.mem_singleton.mp hentry]
      exact ih

theorem height_chain (length : Nat) : (chain length).height = length := by
  induction length with
  | zero =>
      rfl
  | succ length ih =>
      rw [chain, Node.height, heightAll, heightAll, ih]
      exact Nat.max_zero _

theorem versions_listing_chain :
    (Json.parse readNode (chain 2).listing = .ok (chain 2) ∧ exists map : VersionMap,
      versions (chain 2).listing = .ok map ∧ (chain 2).Flattens map) ∧
    ((chain 63).height <= 63 ∧ exists map : VersionMap,
      versions (chain 63).listing = .ok map ∧ (chain 63).Flattens map) ∧
    (63 < (chain 64).height ∧ exists error : Json.Error,
      versions (chain 64).listing = .error (.malformedListing .npm error) ∧
        error.problem = .nestedTooDeep) := by
  have hread : Json.parse readNode (chain 2).listing = .ok (chain 2) :=
    parse_listing (chain_ordered 2) (by rw [height_chain]; decide)
  have hlimit : (chain 63).height <= 63 := by
    rw [height_chain]
  have hbeyond : 63 < (chain 64).height := by
    rw [height_chain]
    decide
  exact ⟨⟨hread, versions_listing.left _ _ hread⟩,
    ⟨hlimit, versions_listing.right.left _ (chain_ordered 63) hlimit⟩,
    ⟨hbeyond, versions_listing.right.right _ (chain_ordered 64) hbeyond⟩⟩

/-- Not every tree has its versions read from its listing. -/
theorem not_forall_versions_listing :
    ¬ forall root : Node, root.Ordered ->
      exists map : VersionMap, versions root.listing = .ok map ∧ root.Flattens map := by
  intro h
  rcases h (chain 64) (chain_ordered 64) with ⟨map, hmap, _⟩
  rcases versions_of_high (chain_ordered 64) (by rw [height_chain]; decide) with
    ⟨error, herror, _⟩
  rw [hmap] at herror
  cases herror

end Npm
end Package
end RemoteImports
