import RemoteImports.Package.Yarn
import RemoteImports.Proofs.Json.Values
import RemoteImports.Proofs.KeyMap

/-!
# Listings by yarn, line by line

What is read from a listing is told by its tree records alone, in the order of
their lines.  The first one that does not hold names refuses the listing.  If
there is none, the map has for each name the version of the last entry that
splits into the name and a version.
-/

namespace RemoteImports
namespace Package
namespace Yarn

open Json

/-- A line is a tree record with this data. -/
def TreeRecord (line : List Char) (data : Json) : Prop :=
  Text.trim line ≠ [] ∧
    exists record : Record,
      Json.parse readRecord (String.ofList (Text.trim line)) = .ok record ∧
        record.kind = "tree" ∧ record.data = data

def IsTree (line : List Char) : Prop :=
  exists data : Json, TreeRecord line data

/-- The first tree record whose data are no names has this problem. -/
inductive Refused (problem : Problem) : List (List Char) -> Prop where
  | here {line : List Char} {lines : List (List Char)} {data : Json} :
      TreeRecord line data -> treeNames data = .error problem ->
      Refused problem (line :: lines)
  | later {line : List Char} {lines : List (List Char)} :
      (forall data, TreeRecord line data ->
        exists names : List String, treeNames data = .ok names) ->
      Refused problem lines -> Refused problem (line :: lines)

/-- All tree records hold names, and these are the names in their order. -/
inductive Entries : List (List Char) -> List String -> Prop where
  | nil : Entries [] []
  | tree {line : List Char} {lines : List (List Char)} {data : Json}
      {names later : List String} :
      TreeRecord line data -> treeNames data = .ok names -> Entries lines later ->
      Entries (line :: lines) (names ++ later)
  | other {line : List Char} {lines : List (List Char)} {names : List String} :
      ¬ IsTree line -> Entries lines names -> Entries (line :: lines) names

/-- Two listings differ in lines that are no tree records only. -/
inductive SameTrees : List (List Char) -> List (List Char) -> Prop where
  | nil : SameTrees [] []
  | keep {line : List Char} {first second : List (List Char)} :
      SameTrees first second -> SameTrees (line :: first) (line :: second)
  | insert {line : List Char} {first second : List (List Char)} :
      ¬ IsTree line -> SameTrees first second -> SameTrees first (line :: second)
  | delete {line : List Char} {first second : List (List Char)} :
      ¬ IsTree line -> SameTrees first second -> SameTrees (line :: first) second

/-- An entry is a name, an `@`, which is its last, and a version. -/
structure Splits (entry name version : String) : Prop where
  joined : entry.toList = name.toList ++ '@' :: version.toList
  name_ne : name ≠ ""
  version_ne : version ≠ ""
  last : '@' ∉ version.toList

/-- The last entry that splits into the name and some version has this one. -/
def LastOf (entries : List String) (name version : String) : Prop :=
  exists (before behind : List String) (entry : String),
    entries = before ++ entry :: behind ∧ Splits entry name version ∧
      forall later, later ∈ behind -> forall other, ¬ Splits later name other

section

variable {line : List Char} {lines first second : List (List Char)} {data : Json}
  {problem : Problem} {entry name version : String} {names : List String}
  {groups : List (List String)}

/-!
# Entries
-/

theorem nameVersion?_of_splits (h : Splits entry name version) :
    nameVersion? entry = some (name, version) := by
  have hplain : forall c, c ∈ version.toList.reverse -> (c != '@') = true := by
    intro c hc
    rw [bne_iff_ne]
    exact ne_of_mem_of_not_mem (List.mem_reverse.mp hc) h.last
  have hreversed : entry.toList.reverse =
      version.toList.reverse ++ '@' :: name.toList.reverse := by
    rw [h.joined]
    simp
  have htake : entry.toList.reverse.takeWhile (· != '@') = version.toList.reverse := by
    rw [hreversed, List.takeWhile_append_of_pos hplain]
    simp
  have hdrop : entry.toList.reverse.dropWhile (· != '@') = '@' :: name.toList.reverse := by
    rw [hreversed, List.dropWhile_append_of_pos hplain]
    simp
  have hversion : version.toList.isEmpty = false := by
    rw [List.isEmpty_eq_false_iff]
    exact fun hnil => h.version_ne (String.toList_eq_nil_iff.mp hnil)
  rw [nameVersion?, htake, hdrop, List.reverse_reverse]
  have hname : name.toList.reverse ≠ [] := by
    intro hnil
    exact h.name_ne (String.toList_eq_nil_iff.mp (List.reverse_eq_nil_iff.mp hnil))
  rcases List.exists_cons_of_ne_nil hname with ⟨c, cs, hcons⟩
  have hback : (c :: cs).reverse = name.toList := by
    rw [← hcons, List.reverse_reverse]
  rw [hcons]
  change (if version.toList.isEmpty = true then none
    else some (String.ofList (c :: cs).reverse, String.ofList version.toList)) = _
  rw [hversion, if_neg Bool.false_ne_true, hback, String.ofList_toList, String.ofList_toList]

theorem splits_of_nameVersion? (h : nameVersion? entry = some (name, version)) :
    Splits entry name version := by
  have hsplit : entry.toList.reverse.takeWhile (· != '@') ++
      entry.toList.reverse.dropWhile (· != '@') = entry.toList.reverse :=
    List.takeWhile_append_dropWhile
  have hplain : (entry.toList.reverse.takeWhile (· != '@')).all (· != '@') = true :=
    List.all_takeWhile
  simp only [nameVersion?] at h
  generalize entry.toList.reverse.takeWhile (· != '@') = behind at h hsplit hplain
  split at h
  · rename_i c cs hdrop
    split at h
    · cases h
    · rename_i hversion
      cases h
      rw [hdrop] at hsplit
      refine ⟨?_, ?_, ?_, ?_⟩
      · rw [← List.reverse_reverse entry.toList, ← hsplit]
        simp
      · intro hname
        have hnil := congrArg String.toList hname
        simp at hnil
      · intro hempty
        have hnil := congrArg String.toList hempty
        rw [String.toList_ofList] at hnil
        rw [hnil] at hversion
        exact hversion rfl
      · rw [String.toList_ofList, List.mem_reverse]
        intro hat
        cases List.all_eq_true.mp hplain _ hat
  · cases h

theorem lastOf_iff (entries : List String) :
    LastOf entries name version <->
      exists before behind : List (String × String),
        entries.filterMap nameVersion? = before ++ (name, version) :: behind ∧
          forall pair, pair ∈ behind -> pair.1 ≠ name := by
  constructor
  · rintro ⟨before, behind, entry, rfl, hsplits, hlast⟩
    refine ⟨before.filterMap nameVersion?, behind.filterMap nameVersion?, ?_, ?_⟩
    · rw [List.filterMap_append, List.filterMap_cons, nameVersion?_of_splits hsplits]
    · rintro ⟨found, other⟩ hpair rfl
      rcases List.mem_filterMap.mp hpair with ⟨later, hlater, hfound⟩
      exact hlast later hlater other (splits_of_nameVersion? hfound)
  · rintro ⟨before, behind, hpairs, hlast⟩
    rcases List.filterMap_eq_append_iff.mp hpairs with ⟨first, second, rfl, _, hsecond⟩
    rcases List.filterMap_eq_cons_iff.mp hsecond with
      ⟨passed, entry, later, rfl, _, hentry, hlater⟩
    refine ⟨first ++ passed, later, entry, (List.append_assoc _ _ _).symm,
      splits_of_nameVersion? hentry, ?_⟩
    intro found hfound other hsplits
    refine hlast (name, other) ?_ rfl
    rw [← hlater]
    exact List.mem_filterMap.mpr ⟨found, hfound, nameVersion?_of_splits hsplits⟩

/-!
# Records
-/

def treeRecord? (line : List Char) : Option Json :=
  if (Text.trim line).isEmpty then none else treeData? (Text.trim line)

theorem trees_eq (output : String) :
    trees output = (Yarn.lines output.toList).filterMap treeRecord? := rfl

theorem treeRecord?_eq_some_iff : treeRecord? line = some data <-> TreeRecord line data := by
  rw [treeRecord?, TreeRecord]
  by_cases hempty : Text.trim line = []
  · simp [hempty]
  · have hne : (Text.trim line).isEmpty = false := List.isEmpty_eq_false_iff.mpr hempty
    rw [hne, if_neg Bool.false_ne_true, treeData?]
    cases hread : Json.parse readRecord (String.ofList (Text.trim line)) with
    | error e =>
        simp
    | ok record =>
        simp [hempty]

theorem treeRecord?_eq_none_iff : treeRecord? line = none <-> ¬ IsTree line := by
  rw [Option.eq_none_iff_forall_not_mem, IsTree, not_exists]
  exact forall_congr' fun data => not_congr treeRecord?_eq_some_iff

theorem filterMap_treeRecord?_eq_nil_iff :
    lines.filterMap treeRecord? = [] <-> forall line, line ∈ lines -> ¬ IsTree line := by
  rw [List.filterMap_eq_nil_iff]
  exact forall_congr' fun line => imp_congr_right fun _ => treeRecord?_eq_none_iff

theorem entries_of_mapM (h : (lines.filterMap treeRecord?).mapM treeNames = .ok groups) :
    Entries lines groups.flatten := by
  induction lines generalizing groups with
  | nil =>
      cases h
      exact Entries.nil
  | cons line lines ih =>
      cases hline : treeRecord? line with
      | none =>
          rw [List.filterMap_cons_none hline] at h
          exact Entries.other (treeRecord?_eq_none_iff.mp hline) (ih h)
      | some data =>
          rw [List.filterMap_cons_some hline, List.mapM_cons] at h
          rcases bind_eq_ok.mp h with ⟨names, hnames, h⟩
          rcases bind_eq_ok.mp h with ⟨later, hlater, h⟩
          cases h
          exact Entries.tree (treeRecord?_eq_some_iff.mp hline) hnames (ih hlater)

theorem mapM_eq_error_iff :
    (lines.filterMap treeRecord?).mapM treeNames = .error problem <->
      Refused problem lines := by
  induction lines with
  | nil =>
      constructor
      · rintro ⟨⟩
      · rintro ⟨⟩
  | cons line lines ih =>
      cases hline : treeRecord? line with
      | none =>
          have hother := treeRecord?_eq_none_iff.mp hline
          rw [List.filterMap_cons_none hline, ih]
          constructor
          · exact Refused.later fun data htree => absurd ⟨data, htree⟩ hother
          · rintro (⟨htree, _⟩ | ⟨_, hlater⟩)
            · exact absurd ⟨_, htree⟩ hother
            · exact hlater
      | some data =>
          have htree := treeRecord?_eq_some_iff.mp hline
          have hunique : forall other, TreeRecord line other -> other = data := by
            intro other hother
            rw [← treeRecord?_eq_some_iff, hline] at hother
            exact (Option.some.inj hother).symm
          rw [List.filterMap_cons_some hline, mapM_cons_eq_error_iff, ih]
          constructor
          · rintro (herror | ⟨names, hok, hlater⟩)
            · exact Refused.here htree herror
            · refine Refused.later (fun other hother => ⟨names, ?_⟩) hlater
              rw [hunique other hother]
              exact hok
          · rintro (⟨hother, herror⟩ | ⟨hread, hlater⟩)
            · rw [hunique _ hother] at herror
              exact Or.inl herror
            · rcases hread data htree with ⟨names, hok⟩
              exact Or.inr ⟨names, hok, hlater⟩

theorem SameTrees.refl (lines : List (List Char)) : SameTrees lines lines := by
  induction lines with
  | nil =>
      exact SameTrees.nil
  | cons _ _ ih =>
      exact SameTrees.keep ih

theorem SameTrees.filterMap_eq (h : SameTrees first second) :
    first.filterMap treeRecord? = second.filterMap treeRecord? := by
  induction h with
  | nil =>
      rfl
  | keep _ ih =>
      rw [List.filterMap_cons, List.filterMap_cons, ih]
  | insert hline _ ih =>
      rw [List.filterMap_cons_none (treeRecord?_eq_none_iff.mpr hline), ih]
  | delete hline _ ih =>
      rw [List.filterMap_cons_none (treeRecord?_eq_none_iff.mpr hline), ih]

/-!
# What a listing comes to
-/

/-- What a listing comes to is told by the data of its tree records. -/
theorem versions_congr {output other : String} (h : trees output = trees other) :
    versions output = versions other := by
  rw [versions, versions, h]

theorem versions_of_trees_ne_nil {output : String} (h : trees output ≠ []) :
    versions output =
      match (trees output).mapM treeNames with
      | .error problem => .error (.malformedListing .yarn { problem, position := none })
      | .ok names => .ok (.ofList (names.flatten.filterMap nameVersion?)) := by
  rw [versions]
  split
  · rename_i hnil
    exact absurd hnil h
  · rfl

theorem trees_eq_nil_iff {output : String} :
    trees output = [] <-> forall line, line ∈ Yarn.lines output.toList -> ¬ IsTree line := by
  rw [trees_eq, filterMap_treeRecord?_eq_nil_iff]

theorem trees_ne_nil {output : String}
    (h : exists line, line ∈ Yarn.lines output.toList ∧ IsTree line) : trees output ≠ [] := by
  rcases h with ⟨line, hline, htree⟩
  exact fun hnil => trees_eq_nil_iff.mp hnil line hline htree

theorem versions_eq_noTree_iff {output : String} :
    versions output = .error .noTree <->
      forall line, line ∈ Yarn.lines output.toList -> ¬ IsTree line := by
  rw [← trees_eq_nil_iff]
  constructor
  · intro h
    by_cases hnil : trees output = []
    · exact hnil
    · rw [versions_of_trees_ne_nil hnil] at h
      split at h
      · cases h
      · cases h
  · intro h
    rw [versions, h]

theorem Refused.exists_isTree (h : Refused problem lines) :
    exists line, line ∈ lines ∧ IsTree line := by
  induction h with
  | @here line lines data htree _ =>
      exact ⟨line, List.mem_cons_self, data, htree⟩
  | later _ _ ih =>
      rcases ih with ⟨line, hline, htree⟩
      exact ⟨line, List.mem_cons_of_mem _ hline, htree⟩

theorem versions_eq_malformed_iff {output : String} {error : Json.Error} :
    versions output = .error (.malformedListing .yarn error) <->
      Refused error.problem (Yarn.lines output.toList) ∧ error.position = none := by
  rcases error with ⟨problem, position⟩
  constructor
  · intro h
    have hne : trees output ≠ [] := by
      intro hnil
      rw [versions, hnil] at h
      cases h
    rw [versions_of_trees_ne_nil hne] at h
    split at h
    · rename_i hrefused
      cases h
      exact ⟨mapM_eq_error_iff.mp hrefused, rfl⟩
    · cases h
  · rintro ⟨hrefused, rfl⟩
    have hne := trees_ne_nil hrefused.exists_isTree
    rw [versions_of_trees_ne_nil hne, trees_eq, mapM_eq_error_iff.mpr hrefused]

/-- A listing that has a tree record and is not refused comes to the map of its
entries. -/
theorem exists_versions_eq_ok {output : String}
    (htree : exists line, line ∈ Yarn.lines output.toList ∧ IsTree line)
    (hread : forall problem, ¬ Refused problem (Yarn.lines output.toList)) :
    exists (entries : List String) (map : VersionMap),
      Entries (Yarn.lines output.toList) entries ∧ versions output = .ok map ∧
        forall name version : String,
          map.get? name = some version <-> LastOf entries name version := by
  have hversions := versions_of_trees_ne_nil (trees_ne_nil htree)
  cases hgroups : (trees output).mapM treeNames with
  | error problem =>
      exact absurd (mapM_eq_error_iff.mp hgroups) (hread problem)
  | ok groups =>
      rw [hgroups] at hversions
      refine ⟨groups.flatten, _, entries_of_mapM hgroups, hversions, ?_⟩
      intro name version
      rw [KeyMap.get?_ofList_iff, lastOf_iff]

/-!
# Listings that are written
-/

def entryRecord (name version : String) : Json :=
  .object [("name", .string (name ++ "@" ++ version)), ("children", .array []),
    ("hint", .null), ("color", .string "bold"), ("depth", .integer 0)]

def treeData (map : VersionMap) : Json :=
  .object [("type", .string "list"),
    ("trees", .array (map.entries.map fun entry => entryRecord entry.1 entry.2))]

def listed (map : VersionMap) : Json :=
  .object [("type", .string "tree"), ("data", treeData map)]

def listing (map : VersionMap) : String :=
  toText (listed map)

section

variable {depth : Nat} {map : VersionMap}

theorem fits_entryRecord (name version : String) :
    Fits (depth + 2) (entryRecord name version) := by
  refine Fits.object ?_
  simp only [List.forall_mem_cons]
  refine ⟨Fits.string _, Fits.array ?_, Fits.null, Fits.string _, Fits.integer ?_, ?_⟩
  · intro item hitem
    cases hitem
  · exact ⟨by decide, by decide⟩
  · intro entry hentry
    cases hentry

theorem fits_treeData (map : VersionMap) : Fits (depth + 4) (treeData map) := by
  refine Fits.object ?_
  simp only [List.forall_mem_cons]
  refine ⟨Fits.string _, Fits.array ?_, ?_⟩
  · intro item hitem
    rcases List.mem_map.mp hitem with ⟨entry, _, rfl⟩
    exact fits_entryRecord entry.1 entry.2
  · intro entry hentry
    cases hentry

theorem entryName_sorted (name version : String) :
    entryName (entryRecord name version).sorted = .ok (name ++ "@" ++ version) := by
  have hname : (KeyMap.insertEntry "depth" (Json.integer 0)
      (KeyMap.insertEntry "color" (.string "bold")
        (KeyMap.insertEntry "hint" .null
          (KeyMap.insertEntry "children" (.array [])
            (KeyMap.insertEntry "name" (.string (name ++ "@" ++ version)) []))))).lookup "name" =
      some (.string (name ++ "@" ++ version)) := by
    simp [KeyMap.lookup_insertEntry]
  simp only [entryRecord, sorted, sortedMembers, sortedItems, ofMembers, List.foldl, entryName,
    hname]

theorem treeNames_sorted (map : VersionMap) :
    treeNames (treeData map).sorted =
      .ok (map.entries.map fun entry => entry.1 ++ "@" ++ entry.2) := by
  have htrees : forall items : Json, (KeyMap.insertEntry "trees" items
      (KeyMap.insertEntry "type" (.string "list") [])).lookup "trees" = some items := by
    intro items
    simp [KeyMap.lookup_insertEntry]
  simp only [treeData, sorted, sortedMembers, ofMembers, List.foldl, treeNames, htrees,
    listNames, sortedItems_eq_map, List.map_map]
  rw [List.mapM_map]
  exact mapM_eq_ok_of_forall fun entry _ => entryName_sorted entry.1 entry.2

theorem gathers_record (depth : Nat) (map : VersionMap) :
    Gathers (member (depth + 4)) [("type", .string "tree"), ("data", treeData map)] {}
      { kind := some "tree", data := some (treeData map).sorted } := by
  have hkind : Puts (member (depth + 4)) "type" (.string "tree") {} { kind := some "tree" } := by
    intro rest hrest
    rw [member]
    exact ReadAs.readOnce (fun rest _ => readText_string "tree" rest) _ _ hrest
  have hdata : Puts (member (depth + 4)) "data" (treeData map) { kind := some "tree" }
      { kind := some "tree", data := some (treeData map).sorted } := by
    intro rest hrest
    rw [member]
    exact (fits_treeData map).readAs.readOnce _ _ hrest
  exact Gathers.cons hkind (Gathers.cons hdata Gathers.nil)

theorem readRecord_listing (map : VersionMap) :
    readRecord greatestDepth (compact (listed map)) =
      .ok ({ kind := "tree", data := (treeData map).sorted }, []) := by
  have hread := (gathers_record 122 map).readMembers (lt_length_led _ []) true []
  have hsplit := @readRecord_object _ "YarnRecord" readFields readMembers 126
    [("type", .string "tree"), ("data", treeData map)] []
  rw [List.append_nil] at hsplit
  rw [readRecord, listed]
  refine hsplit.trans ?_
  rw [readMembers, hread]
  rfl

theorem parse_listing (map : VersionMap) :
    Json.parse readRecord (listing map) =
      .ok { kind := "tree", data := (treeData map).sorted } := by
  rw [listing, Json.parse, toText, String.toList_ofList]
  simp only [readRecord_listing]
  rfl

theorem fits_listed (depth : Nat) (map : VersionMap) : Fits (depth + 5) (listed map) := by
  refine Fits.object ?_
  simp only [List.forall_mem_cons]
  refine ⟨Fits.string _, fits_treeData map, ?_⟩
  intro entry hentry
  cases hentry

theorem lines_of_not_mem {cs : List Char} (h : '\n' ∉ cs) : Yarn.lines cs = [cs] := by
  induction cs with
  | nil =>
      rfl
  | cons c cs ih =>
      rw [List.mem_cons, not_or] at h
      rw [Yarn.lines, if_neg (Ne.symm h.left), ih h.right]

theorem trim_of_ends {first last : Char} (hfirst : Text.isBlank first = false)
    (hlast : Text.isBlank last = false) (cs : List Char) :
    Text.trim (first :: (cs ++ [last])) = first :: (cs ++ [last]) := by
  have hback : (first :: (cs ++ [last])).reverse = last :: (first :: cs).reverse := by
    simp
  rw [Text.trim, List.dropWhile_cons, hfirst, if_neg Bool.false_ne_true, Text.dropEndWhile,
    hback, List.dropWhile_cons, hlast, if_neg Bool.false_ne_true, ← hback, List.reverse_reverse]

theorem trim_listing (map : VersionMap) :
    Text.trim (listing map).toList = (listing map).toList := by
  have hsplit := compact_object [("type", .string "tree"), ("data", treeData map)] []
  rw [List.append_nil] at hsplit
  rw [listing, toText, String.toList_ofList, listed, hsplit]
  exact trim_of_ends rfl rfl _

theorem treeRecord_listing (map : VersionMap) :
    TreeRecord (listing map).toList (treeData map).sorted := by
  rw [TreeRecord, trim_listing, String.ofList_toList]
  refine ⟨?_, _, parse_listing map, rfl, rfl⟩
  rw [listing, toText, String.toList_ofList]
  rcases (fits_listed 0 map).exists_compact_eq with ⟨c, cs, hcompact, _⟩
  rw [hcompact]
  exact List.cons_ne_nil c cs

theorem lines_listing (map : VersionMap) :
    Yarn.lines (listing map).toList = [(listing map).toList] := by
  apply lines_of_not_mem
  rw [listing, toText, String.toList_ofList]
  exact (fits_listed 0 map).newline_not_mem

theorem trees_listing (map : VersionMap) : trees (listing map) = [(treeData map).sorted] := by
  rw [trees_eq, lines_listing, List.filterMap_cons_some
    (treeRecord?_eq_some_iff.mpr (treeRecord_listing map))]
  rfl

/-- Names and versions that an `@` between them does not hide. -/
def Separable (map : VersionMap) : Prop :=
  forall entry, entry ∈ map.entries ->
    entry.1 ≠ "" ∧ entry.2 ≠ "" ∧ '@' ∉ entry.2.toList

theorem filterMap_nameVersion? {entries : List (String × String)}
    (h : forall entry, entry ∈ entries ->
      entry.1 ≠ "" ∧ entry.2 ≠ "" ∧ '@' ∉ entry.2.toList) :
    (entries.map fun entry => entry.1 ++ "@" ++ entry.2).filterMap nameVersion? =
      entries := by
  induction entries with
  | nil =>
      rfl
  | cons entry entries ih =>
      rw [List.forall_mem_cons] at h
      rcases h with ⟨⟨hname, hversion, hlast⟩, hlater⟩
      have hsplits : Splits (entry.1 ++ "@" ++ entry.2) entry.1 entry.2 := by
        refine ⟨?_, hname, hversion, hlast⟩
        simp
      rw [List.map_cons, List.filterMap_cons_some (nameVersion?_of_splits hsplits), ih hlater]

theorem Separable.versions_eq_ok (h : Separable map) : versions (listing map) = .ok map := by
  have hne : trees (listing map) ≠ [] := by
    rw [trees_listing]
    exact List.cons_ne_nil _ _
  rw [versions_of_trees_ne_nil hne, trees_listing, List.mapM_cons, treeNames_sorted]
  simp only [List.mapM_nil, bind, Except.bind, pure, Except.pure, List.flatten_cons,
    List.flatten_nil, List.append_nil, filterMap_nameVersion? h, KeyMap.ofList_entries]

end

end

/-- What is read from a listing is told by its tree records, and a map is read
from its own listing. -/
theorem versions_by_records :
    (forall output : String,
      versions output = .error .noTree <->
        forall line, line ∈ Yarn.lines output.toList -> ¬ IsTree line) ∧
    (forall (output : String) (error : Json.Error),
      versions output = .error (.malformedListing .yarn error) <->
        Refused error.problem (Yarn.lines output.toList) ∧ error.position = none) ∧
    (forall output : String,
      (exists line, line ∈ Yarn.lines output.toList ∧ IsTree line) ->
      (forall problem, ¬ Refused problem (Yarn.lines output.toList)) ->
      exists (entries : List String) (map : VersionMap),
        Entries (Yarn.lines output.toList) entries ∧ versions output = .ok map ∧
          forall name version : String,
            map.get? name = some version <-> LastOf entries name version) ∧
    (forall output other : String,
      SameTrees (Yarn.lines output.toList) (Yarn.lines other.toList) ->
      versions output = versions other) ∧
    (forall map : VersionMap, Separable map -> versions (listing map) = .ok map) := by
  refine ⟨?_, ?_, ?_, ?_, ?_⟩
  · exact fun _ => versions_eq_noTree_iff
  · exact fun _ _ => versions_eq_malformed_iff
  · exact fun _ htree hread => exists_versions_eq_ok htree hread
  · intro output other h
    apply versions_congr
    rw [trees_eq, trees_eq, h.filterMap_eq]
  · exact fun _ h => h.versions_eq_ok

theorem sameTrees_newline (output : String) :
    SameTrees (Yarn.lines output.toList) (Yarn.lines ("\n" ++ output).toList) := by
  have hblank : ¬ IsTree [] := by
    rintro ⟨data, hne, _⟩
    exact hne rfl
  have hlines : Yarn.lines ("\n" ++ output).toList = [] :: Yarn.lines output.toList := by
    rw [String.toList_append]
    rfl
  rw [hlines]
  exact SameTrees.insert hblank (SameTrees.refl _)

theorem versions_by_records_react :
    let map : VersionMap := .ofList [("@babel/core", "7.0.0"), ("react", "18.2.0")]
    Separable map ∧ versions (listing map) = .ok map ∧
      SameTrees (Yarn.lines (listing map).toList) (Yarn.lines ("\n" ++ listing map).toList) ∧
      versions (listing map) = versions ("\n" ++ listing map) ∧
      (exists line, line ∈ Yarn.lines (listing map).toList ∧ IsTree line) ∧
      (forall problem, ¬ Refused problem (Yarn.lines (listing map).toList)) ∧
      exists (entries : List String) (found : VersionMap),
        Entries (Yarn.lines (listing map).toList) entries ∧
          versions (listing map) = .ok found ∧
          forall name version : String,
            found.get? name = some version <-> LastOf entries name version := by
  intro map
  have hseparable : Separable map := by
    unfold Separable
    decide
  have hmap := versions_by_records.right.right.right.right map hseparable
  have hsame := sameTrees_newline (listing map)
  have htree : exists line, line ∈ Yarn.lines (listing map).toList ∧ IsTree line := by
    rw [lines_listing]
    exact ⟨_, List.mem_singleton_self _, _, treeRecord_listing map⟩
  have hread : forall problem, ¬ Refused problem (Yarn.lines (listing map).toList) := by
    intro problem hrefused
    have herror : versions (listing map) =
        .error (.malformedListing .yarn { problem, position := none }) :=
      versions_eq_malformed_iff.mpr ⟨hrefused, rfl⟩
    rw [hmap] at herror
    cases herror
  exact ⟨hseparable, hmap, hsame, versions_by_records.right.right.right.left _ _ hsame,
    htree, hread, versions_by_records.right.right.left _ htree hread⟩

end Yarn
end Package
end RemoteImports
