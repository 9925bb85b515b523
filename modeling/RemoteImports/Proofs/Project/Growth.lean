import RemoteImports.Project.FileTree
import RemoteImports.Proofs.Computation
import RemoteImports.Proofs.Project.Descent

/-!
# Trees that grow

In a tree without links, where a path leads is told by its segments alone.
Making folders changes no file, and writing a file changes only the file where
its path leads.  So a file that a path leads to stays where it is, whatever else
is written.
-/

namespace RemoteImports
namespace Project
namespace FileTree

open Pathname (isSilent up)

def NoLinks (tree : FileTree) : Prop :=
  forall (location : Location) (target : Pathname),
    tree.get? location ≠ some (.link target)

def file? (tree : FileTree) (location : Location) : Option (List UInt8) :=
  match tree.get? location with
  | some (.file bytes) => some bytes
  | _ => none

/-- Where segments lead from a location, if nothing on the way is a link. -/
def through : Location -> List String -> Location
  | here, [] => here
  | here, segment :: rest =>
      if isSilent segment then through here rest
      else if segment = up then through here.dropLast rest
      else through (here ++ [segment]) rest

def whereabouts (tree : FileTree) (path : Pathname) : Location :=
  through (tree.origin path) path.segments

/-- A tree differs from an earlier one in new folders, and in what is in the
files at some locations; at these, a file may also be new. -/
structure Spares (before after : FileTree) (changed : List Location) : Prop where
  home : after.home = before.home
  noLinks : before.NoLinks -> after.NoLinks
  folder : forall location : Location,
    before.get? location = some .folder -> after.get? location = some .folder
  file : forall (location : Location) (bytes : List UInt8),
    before.get? location = some (.file bytes) ->
      exists later : List UInt8, after.get? location = some (.file later)
  elsewhere : forall location : Location,
    location ∉ changed -> after.file? location = before.file? location

variable {tree before after : FileTree} {location here : Location}
  {segments rest : List String} {path : Pathname} {place : Place} {bytes : List UInt8}
  {changed later : List Location}

/-!
# Where paths lead
-/

/-- What a walk without links comes to lies where the segments lead, and a file
is called by the last of them. -/
structure Reaches (tree : FileTree) (here : Location) (segments : List String)
    (place : Place) : Prop where
  location : place.location = through here segments
  file : forall bytes : List UInt8, place.content = .file bytes ->
    tree.get? place.location = some (.file bytes)
  free : place.content = .free -> tree.get? place.location = none
  named : place.content ≠ .folder -> exists name : String,
    segments.getLast? = some name ∧ isSilent name = false ∧ name ≠ up

theorem Reaches.cons {segment : String} {there : Location}
    (h : tree.Reaches there rest place)
    (hthere : through here (segment :: rest) = through there rest) :
    tree.Reaches here (segment :: rest) place := by
  refine ⟨h.location.trans hthere.symm, h.file, h.free, ?_⟩
  intro hcontent
  rcases h.named hcontent with ⟨name, hname, hboth⟩
  refine ⟨name, ?_, hboth⟩
  rw [List.getLast?_cons, hname]
  rfl

theorem walk_reaches (hlinks : tree.NoLinks)
    {follow : Location -> List String -> Except Refusal Place}
    (h : tree.walk follow here segments = .ok place) :
    tree.Reaches here segments place := by
  induction segments generalizing here with
  | nil =>
      cases h
      exact ⟨rfl, nofun, nofun, fun h => absurd rfl h⟩
  | cons segment rest ih =>
      rw [walk] at h
      by_cases hsilent : isSilent segment = true
      · rw [if_pos hsilent] at h
        exact (ih h).cons (by rw [through, if_pos hsilent])
      rw [if_neg hsilent] at h
      by_cases hup : segment = up
      · rw [if_pos hup] at h
        exact (ih h).cons (by rw [through, if_neg hsilent, if_pos hup])
      rw [if_neg hup] at h
      have hthrough : through here (segment :: rest) = through (here ++ [segment]) rest := by
        rw [through, if_neg hsilent, if_neg hup]
      split at h
      · cases h
      split at h
      · exact (ih h).cons hthrough
      · rename_i target hlink
        exact absurd hlink (hlinks _ target)
      · rename_i bytes hfile
        split at h
        · rename_i hrest
          cases h
          rw [List.isEmpty_iff.mp hrest]
          refine ⟨?_, ?_, nofun, ?_⟩
          · rw [through, if_neg hsilent, if_neg hup, through]
          · intro found hfound
            cases hfound
            exact hfile
          · intro _
            exact ⟨segment, rfl, by simpa using hsilent, hup⟩
        · cases h
      · rename_i hfree
        split at h
        · rename_i hrest
          cases h
          rw [List.isEmpty_iff.mp hrest]
          refine ⟨?_, nofun, fun _ => hfree, ?_⟩
          · rw [through, if_neg hsilent, if_neg hup, through]
          · intro _
            exact ⟨segment, rfl, by simpa using hsilent, hup⟩
        · cases h

/-- A walk to a file, or to a place for one, still gets there when a file is
there, whatever the tree gained meanwhile. -/
theorem walk_of_grown (hlinks : before.NoLinks)
    (hfolder : forall location : Location,
      before.get? location = some .folder -> after.get? location = some .folder)
    {follow later : Location -> List String -> Except Refusal Place}
    (h : before.walk follow here segments = .ok place) (hcontent : place.content ≠ .folder)
    (hfile : after.get? place.location = some (.file bytes)) :
    after.walk later here segments =
      .ok { location := place.location, content := .file bytes } := by
  induction segments generalizing here with
  | nil =>
      cases h
      exact absurd rfl hcontent
  | cons segment rest ih =>
      rw [walk] at h ⊢
      by_cases hsilent : isSilent segment = true
      · rw [if_pos hsilent] at h ⊢
        exact ih h
      rw [if_neg hsilent] at h ⊢
      by_cases hup : segment = up
      · rw [if_pos hup] at h ⊢
        exact ih h
      rw [if_neg hup] at h ⊢
      by_cases hlong : isTooLong segment = true
      · rw [if_pos hlong] at h
        cases h
      rw [if_neg hlong] at h ⊢
      split at h
      · rename_i hthere
        rw [hfolder _ hthere]
        exact ih h
      · rename_i target hlink
        exact absurd hlink (hlinks _ target)
      · split at h
        · rename_i hrest
          cases h
          rw [hfile]
          exact if_pos hrest
        · cases h
      · split at h
        · rename_i hrest
          cases h
          rw [hfile]
          exact if_pos hrest
        · cases h

theorem follow_eq_walk (tree : FileTree) (links : Nat) :
    exists later : Location -> List String -> Except Refusal Place,
      tree.follow links = tree.walk later := by
  cases links with
  | zero =>
      exact ⟨_, rfl⟩
  | succ links =>
      exact ⟨_, rfl⟩

theorem find_eq_ok (h : tree.find path = .ok place) :
    accept path = .ok () ∧
      tree.follow linkLimit (tree.origin path) path.segments = .ok place := by
  rw [find] at h
  cases haccept : accept path with
  | error refusal =>
      rw [haccept] at h
      cases h
  | ok accepted =>
      rw [haccept] at h
      exact ⟨rfl, h⟩

theorem find_of_accept (h : accept path = .ok ()) :
    tree.find path = tree.follow linkLimit (tree.origin path) path.segments := by
  rw [find, h]
  rfl

theorem find_reaches (hlinks : tree.NoLinks) (h : tree.find path = .ok place) :
    tree.Reaches (tree.origin path) path.segments place := by
  rcases follow_eq_walk tree linkLimit with ⟨later, hlater⟩
  have hfollow := (find_eq_ok h).right
  rw [hlater] at hfollow
  exact walk_reaches hlinks hfollow

theorem find_of_grown (hlinks : before.NoLinks) (hhome : after.home = before.home)
    (hfolder : forall location : Location,
      before.get? location = some .folder -> after.get? location = some .folder)
    (h : before.find path = .ok place) (hcontent : place.content ≠ .folder)
    (hfile : after.get? place.location = some (.file bytes)) :
    after.find path = .ok { location := place.location, content := .file bytes } := by
  rcases find_eq_ok h with ⟨haccept, hfollow⟩
  rcases follow_eq_walk before linkLimit with ⟨earlier, hearlier⟩
  rcases follow_eq_walk after linkLimit with ⟨later, hlater⟩
  rw [hearlier] at hfollow
  have horigin : after.origin path = before.origin path := by
    rw [origin, origin, hhome]
  rw [find_of_accept haccept, hlater, horigin]
  exact walk_of_grown hlinks hfolder hfollow hcontent hfile

/-!
# Changes
-/

theorem file?_of_get? (h : tree.get? location = some (.file bytes)) :
    tree.file? location = some bytes := by
  rw [file?, h]

theorem get?_of_file? (h : tree.file? location = some bytes) :
    tree.get? location = some (.file bytes) := by
  rw [file?] at h
  split at h
  · rename_i hget
    rw [hget, Option.some.inj h]
  · cases h

theorem Spares.refl (tree : FileTree) : tree.Spares tree [] :=
  ⟨rfl, id, fun _ h => h, fun _ bytes h => ⟨bytes, h⟩, fun _ _ => rfl⟩

theorem Spares.trans {middle : FileTree}
    (h : before.Spares middle changed) (hlater : middle.Spares after later) :
    before.Spares after (changed ++ later) := by
  refine ⟨hlater.home.trans h.home, fun hlinks => hlater.noLinks (h.noLinks hlinks),
    fun location hfolder => hlater.folder location (h.folder location hfolder), ?_, ?_⟩
  · intro location bytes hfile
    rcases h.file location bytes hfile with ⟨bytes, hfile⟩
    exact hlater.file location bytes hfile
  · intro location hnot
    rw [List.mem_append, not_or] at hnot
    rw [hlater.elsewhere location hnot.right, h.elsewhere location hnot.left]

theorem Spares.find (h : before.Spares after changed) (hlinks : before.NoLinks)
    (hfind : before.find path = .ok { location, content := .file bytes })
    (hnot : location ∉ changed) :
    after.find path = .ok { location, content := .file bytes } := by
  have hthere : before.get? location = some (.file bytes) :=
    (find_reaches hlinks hfind).file bytes rfl
  have hkept := h.elsewhere location hnot
  rw [file?_of_get? hthere] at hkept
  exact find_of_grown hlinks h.home h.folder hfind nofun (get?_of_file? hkept)

theorem get?_put (tree : FileTree) (node : Node) (h : location ≠ []) (other : Location) :
    (tree.put location node).get? other =
      if other = location then some node else tree.get? other := by
  by_cases heq : other = location
  · rw [if_pos heq, heq, get?_put_self tree node h]
  · rw [if_neg heq, get?_put_of_ne tree node heq]

theorem NoLinks.put (hlinks : tree.NoLinks) (h : location ≠ []) {node : Node}
    (hnode : forall target : Pathname, node ≠ .link target) :
    (tree.put location node).NoLinks := by
  intro other target hlink
  rw [get?_put tree node h] at hlink
  split at hlink
  · exact hnode target (Option.some.inj hlink)
  · exact hlinks other target hlink

end FileTree
end Project
end RemoteImports
