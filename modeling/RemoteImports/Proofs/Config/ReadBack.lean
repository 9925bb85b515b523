import RemoteImports.Config.File
import RemoteImports.Proofs.Json.Expected

/-!
# Configurations that are written

A configuration that is written as an object is read back as it was: every
member that was there or was not, every rule in the form in which it was
written, and every pinned version.  The members may stand in any order, and what
was read of them so far is the part of the configuration that they make up.
-/

namespace RemoteImports
namespace Config

open Json

def File.draft (file : File) (names : List String) : Draft where
  host := if "cdn" ∈ names then some file.host else none
  fallback := if "fallback" ∈ names then some file.fallback else none
  shim := if "shim" ∈ names then some file.shim else none
  entries := if "matches" ∈ names then some file.entries else none
  webpackIgnore := if "webpackIgnore" ∈ names then some file.webpackIgnore else none
  versions := if "versions" ∈ names then some file.versions else none
  manager := if "packageManager" ∈ names then some file.manager else none

/-- The values of rules are such as can be read: they have no numbers but
integers of 64 bits and the members of their objects are in order, and as the
configuration, its list of rules and the rule stand around them, they are three
levels less deep than the reader goes. -/
def File.IsReadable (file : File) : Prop :=
  forall (pattern : String) (value : Json), MatchEntry.pair pattern value ∈ file.entries ->
    Fits (greatestDepth - 3) value ∧ value.sorted = value

def File.Writes (file : File) (text : String) : Prop :=
  exists members : List (String × Json),
    members.Perm file.members ∧ text = toText (.object members)

section

variable {file : File} {entry : MatchEntry} {depth : Nat} {name : String} {value : Json}
  {names : List String} {members : List (String × Json)}

/-!
# Rules
-/

theorem fits_entry
    (h : forall pattern value, entry = .pair pattern value -> Fits depth value) :
    Fits (depth + 1) entry.toJson := by
  cases entry with
  | pair pattern value =>
      have hvalue := h pattern value rfl
      exact Fits.array (List.forall_mem_cons.mpr
        ⟨Fits.string pattern, List.forall_mem_singleton.mpr hvalue⟩)
  | gate pattern =>
      exact Fits.array (List.forall_mem_singleton.mpr (Fits.string pattern))
  | bare pattern =>
      exact Fits.string pattern

/-- The three forms of a rule are told apart by their shapes. -/
theorem ofJson?_sorted (h : forall pattern value, entry = .pair pattern value ->
    value.sorted = value) : MatchEntry.ofJson? entry.toJson.sorted = some entry := by
  cases entry with
  | pair pattern value =>
      rw [MatchEntry.toJson, sorted, sortedItems_eq_map, List.map_cons, List.map_cons,
        h pattern value rfl]
      rfl
  | gate pattern =>
      rfl
  | bare pattern =>
      rfl

theorem readAs_entry (hfits : Fits depth entry.toJson)
    (hentry : MatchEntry.ofJson? entry.toJson.sorted = some entry) :
    ReadAs (readEntry depth) entry.toJson entry := by
  intro rest hrest
  simp only [readEntry, hfits.readAs rest hrest, bind, Except.bind, hentry]
  rfl

theorem readAs_entries (h : file.IsReadable) :
    ReadAs (readList readEntry 126) (.array (file.entries.map MatchEntry.toJson))
      file.entries := by
  apply readAs_list
  intro entry hentry
  have hfits : Fits 125 entry.toJson := by
    apply fits_entry
    rintro pattern value rfl
    exact (h pattern value hentry).left
  constructor
  · exact hfits
  · apply readAs_entry hfits
    apply ofJson?_sorted
    rintro pattern value rfl
    exact (h pattern value hentry).right

/-!
# Members
-/

theorem readAs_ignore (value : Option Bool) :
    ReadAs (readOptional readBool) ((value.map Json.bool).getD .null) value := by
  refine readAs_optional readAs_bool (fun value => ?_) value
  cases value with
  | true =>
      exact ⟨'t', _, rfl, rfl, by decide⟩
  | false =>
      exact ⟨'f', _, rfl, rfl, by decide⟩

theorem readAs_versions (versions : Option VersionMap) :
    ReadAs (readOptional (readTexts (depth + 1))) ((versions.map ofTexts).getD .null)
      versions :=
  readAs_optional readAs_texts (fun _ => ⟨'{', _, rfl, rfl, by decide⟩) versions

theorem readAs_manager (manager : Option Package.Manager) :
    ReadAs (readOptional (readManager depth)) (.ofOption (manager.map Package.Manager.name))
      manager := by
  have hread : forall manager : Package.Manager,
      ReadAs (readManager depth) (.string manager.name) manager := by
    intro manager
    apply readAs_name ("yarn", Package.Manager.yarn) ("npm", .npm) (manager.name, manager)
    cases manager with
    | yarn =>
        exact Or.inl rfl
    | npm =>
        exact Or.inr ⟨rfl, by decide⟩
  rw [ofOption_eq, Option.map_map]
  exact readAs_optional hread (fun _ => ⟨'"', _, rfl, rfl, by decide⟩) manager

theorem puts_member (h : file.IsReadable) (hmember : (name, value) ∈ file.members)
    (hnew : name ∉ names) :
    Puts (member 126) name value (file.draft names) (file.draft (name :: names)) := by
  intro rest hrest
  simp only [File.members, List.mem_cons, Prod.mk.injEq, List.not_mem_nil, or_false] at hmember
  rcases hmember with ⟨rfl, rfl⟩ | ⟨rfl, rfl⟩ | ⟨rfl, rfl⟩ | ⟨rfl, rfl⟩ | ⟨rfl, rfl⟩ |
    ⟨rfl, rfl⟩ | ⟨rfl, rfl⟩
  · have hbefore : (file.draft names).host = none := if_neg hnew
    rw [member, hbefore, (readAs_optionalText file.host).readOnce _ _ hrest]
    simp [File.draft]
  · have hbefore : (file.draft names).fallback = none := if_neg hnew
    rw [member, hbefore, (readAs_optionalText file.fallback).readOnce _ _ hrest]
    simp [File.draft]
  · have hbefore : (file.draft names).shim = none := if_neg hnew
    rw [member, hbefore, (readAs_optionalText file.shim).readOnce _ _ hrest]
    simp [File.draft]
  · have hbefore : (file.draft names).entries = none := if_neg hnew
    rw [member, hbefore, (readAs_entries h).readOnce _ _ hrest]
    simp [File.draft]
  · have hbefore : (file.draft names).webpackIgnore = none := if_neg hnew
    rw [member, hbefore, (readAs_ignore file.webpackIgnore).readOnce _ _ hrest]
    simp [File.draft]
  · have hbefore : (file.draft names).versions = none := if_neg hnew
    rw [member, hbefore, (readAs_versions file.versions).readOnce _ _ hrest]
    simp [File.draft]
  · have hbefore : (file.draft names).manager = none := if_neg hnew
    rw [member, hbefore, (readAs_manager file.manager).readOnce _ _ hrest]
    simp [File.draft]

/-- Members of the configuration with different names are read one after the
other, whatever their order. -/
theorem gathers_members (h : file.IsReadable)
    (hmembers : forall entry, entry ∈ members -> entry ∈ file.members)
    (hnodup : (members.map Prod.fst).Nodup)
    (hnew : forall name, name ∈ members.map Prod.fst -> name ∉ names) :
    Gathers (member 126) members (file.draft names)
      (file.draft ((members.map Prod.fst).reverse ++ names)) := by
  induction members generalizing names with
  | nil =>
      exact Gathers.nil
  | cons entry members ih =>
      rcases entry with ⟨name, value⟩
      rw [List.map_cons, List.nodup_cons] at hnodup
      rw [List.map_cons, List.forall_mem_cons] at hnew
      rw [List.forall_mem_cons] at hmembers
      have hput := puts_member h hmembers.left hnew.left
      have hlater : forall later, later ∈ members.map Prod.fst -> later ∉ name :: names := by
        intro later hlater
        rw [List.mem_cons, not_or]
        exact ⟨ne_of_mem_of_not_mem hlater hnodup.left, hnew.right later hlater⟩
      have hrest := ih hmembers.right hnodup.right hlater
      rw [List.map_cons, List.reverse_cons, List.append_assoc]
      exact Gathers.cons hput hrest

theorem file_draft (h : forall name, name ∈ file.members.map Prod.fst -> name ∈ names) :
    (file.draft names).file = file := by
  simp only [File.members, List.map_cons, List.map_nil, List.forall_mem_cons] at h
  rcases h with ⟨hhost, hfallback, hshim, hentries, hignore, hversions, hmanager, _⟩
  simp [Draft.file, File.draft, hhost, hfallback, hshim, hentries, hignore, hversions, hmanager]

theorem nodup_members (file : File) : (file.members.map Prod.fst).Nodup := by
  simp [File.members]

theorem readFile_object (h : file.IsReadable) (hperm : members.Perm file.members) :
    readFile greatestDepth (compact (.object members)) = .ok (file, []) := by
  have hnames := hperm.map Prod.fst
  have hgathers := gathers_members h (fun entry => hperm.mem_iff.mp)
    (hnames.nodup_iff.mpr (nodup_members file)) (fun _ _ => List.not_mem_nil)
  have hread := hgathers.readMembers (lt_length_led members []) true []
  have hfile : (file.draft ((members.map Prod.fst).reverse ++ [])).file = file := by
    apply file_draft
    intro name hname
    rw [List.append_nil, List.mem_reverse]
    exact hnames.mem_iff.mpr hname
  have hsplit := @readRecord_object _ "ConfigFile" readFields readMembers 126 members []
  rw [List.append_nil] at hsplit
  have hstart : file.draft [] = {} := by
    simp [File.draft]
  rw [hstart] at hread
  rw [readFile]
  refine hsplit.trans ?_
  simp only [readMembers, hread, bind, Except.bind, hfile]
  rfl

theorem writes_toJson (file : File) : file.Writes (toText file.toJson) := by
  have hnodup : (([] ++ file.members).map Prod.fst).Nodup := nodup_members file
  exact ⟨_, KeyMap.perm_foldl_insertEntry hnodup, rfl⟩

end

/-- A configuration is read back from any text that writes it, with each of its
rules in the form in which it was written, and so it gives the same options.
Its members may stand in the order in which they are declared, or in that of
their names. -/
theorem parse_of_writes (path : String) {file : File} (hreadable : file.IsReadable) :
    file.Writes (toText (.object file.members)) ∧
    file.Writes (toText file.toJson) ∧
    forall text : String, file.Writes text ->
      File.parse path text = .ok file ∧
      (File.parse path text >>= File.options) = file.options := by
  refine ⟨⟨file.members, List.Perm.refl _, rfl⟩, writes_toJson file, ?_⟩
  rintro text ⟨members, hperm, rfl⟩
  have hparse : Json.parse readFile (toText (.object members)) = .ok file := by
    rw [Json.parse, toText, String.toList_ofList]
    simp only [readFile_object hreadable hperm]
    rfl
  have hfile : File.parse path (toText (.object members)) = .ok file := by
    rw [File.parse, hparse]
  constructor
  · exact hfile
  · rw [hfile]
    rfl

/-- One rule in each form, the first with a value of some depth, and members
that are not there. -/
theorem parse_of_writes_mixed :
    let file : File := {
      host := some "https://c"
      entries := [.pair "^a" (.object [("k", .array [.integer (-1), .null]),
          ("s", .string "\"\n")]), .gate "b", .bare "c"]
      versions := some (KeyMap.ofList [("jest", "1")])
      manager := some .npm }
    file.IsReadable ∧ file.Writes (toText file.toJson) ∧
      File.parse "c.json" (toText file.toJson) = .ok file := by
  intro file
  have hreadable : file.IsReadable := by
    intro pattern value hentry
    have hvalue : value = .object [("k", .array [.integer (-1), .null]),
        ("s", .string "\"\n")] := by
      simp only [file, List.mem_cons, MatchEntry.pair.injEq, reduceCtorEq, List.not_mem_nil,
        or_false] at hentry
      exact hentry.right
    rw [hvalue]
    constructor
    · refine Fits.object (List.forall_mem_cons.mpr ⟨Fits.array ?_, ?_⟩)
      · exact List.forall_mem_cons.mpr ⟨Fits.integer ⟨by decide, by decide⟩,
          List.forall_mem_singleton.mpr Fits.null⟩
      · exact List.forall_mem_singleton.mpr (Fits.string _)
    · rfl
  rcases parse_of_writes "c.json" hreadable with ⟨_, hwrites, hparse⟩
  exact ⟨hreadable, hwrites, (hparse _ hwrites).left⟩

end Config
end RemoteImports
