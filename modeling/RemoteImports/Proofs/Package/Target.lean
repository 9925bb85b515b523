import RemoteImports.Package.Target

/-!
# What an import names

The source of an import is cut into segments, and its package is the first of
them or the first two.  Here this is said of the text itself: the name ends
before the first slash or before the second, and what stands behind it goes into
the address as it is, with empty segments and with a slash at its end.
-/

namespace RemoteImports
namespace Package

open Text (segments joined joined_segments)

def beforeSlash (cs : List Char) : List Char :=
  cs.takeWhile (· != '/')

/-- What stands before the second slash, or all of the text if there is none. -/
def beforeSecondSlash (cs : List Char) : List Char :=
  match cs.dropWhile (· != '/') with
  | [] => cs
  | slash :: behind => beforeSlash cs ++ slash :: beforeSlash behind

/-- The package that a source names: what stands before its first slash if that
is installed, and what stands before its second slash if not. -/
def packageName (installed : VersionMap) (source : String) : String :=
  if (installed.get? (String.ofList (beforeSlash source.toList))).isSome then
    String.ofList (beforeSlash source.toList)
  else
    String.ofList (beforeSecondSlash source.toList)

/-- A host is this text with nothing but slashes behind it, and the text does
not end in one. -/
def IsBaseOf (base host : String) : Prop :=
  (exists slashes : List Char,
    host.toList = base.toList ++ slashes ∧ forall c, c ∈ slashes -> c = '/') ∧
  base.toList.getLast? ≠ some '/'

/-!
# Segments of the text
-/

theorem segments_eq_of_dropWhile_nil {cs : List Char}
    (h : cs.dropWhile (· != '/') = []) : segments cs = [cs] := by
  induction cs with
  | nil =>
      rfl
  | cons c cs ih =>
      rw [List.dropWhile_cons] at h
      split at h
      · rename_i hc
        rw [segments, if_neg (bne_iff_ne.mp hc), ih h]
      · cases h

theorem segments_eq_of_dropWhile_cons {cs behind : List Char} {c : Char}
    (h : cs.dropWhile (· != '/') = c :: behind) :
    segments cs = beforeSlash cs :: segments behind := by
  induction cs with
  | nil =>
      cases h
  | cons d cs ih =>
      rw [List.dropWhile_cons] at h
      split at h
      · rename_i hd
        have htake : beforeSlash (d :: cs) = d :: beforeSlash cs :=
          List.takeWhile_cons_of_pos hd
        rw [segments, if_neg (bne_iff_ne.mp hd), ih h, htake]
      · rename_i hd
        cases h
        have hslash : c = '/' := by
          simpa using hd
        have htake : beforeSlash (c :: behind) = [] :=
          List.takeWhile_cons_of_neg hd
        rw [segments, if_pos hslash, htake]

theorem exists_segments_eq (cs : List Char) :
    exists later : List (List Char), segments cs = beforeSlash cs :: later := by
  cases h : cs.dropWhile (· != '/') with
  | nil =>
      have hsplit : beforeSlash cs ++ cs.dropWhile (· != '/') = cs :=
        List.takeWhile_append_dropWhile
      rw [h, List.append_nil] at hsplit
      exact ⟨[], by rw [segments_eq_of_dropWhile_nil h, hsplit]⟩
  | cons c behind =>
      exact ⟨segments behind, segments_eq_of_dropWhile_cons h⟩

theorem beforeSecondSlash_of_segments {cs one two : List Char}
    {later : List (List Char)} (h : segments cs = one :: two :: later) :
    beforeSecondSlash cs = one ++ '/' :: two := by
  cases hdrop : cs.dropWhile (· != '/') with
  | nil =>
      rw [segments_eq_of_dropWhile_nil hdrop] at h
      cases h
  | cons c behind =>
      have hslash : c = '/' := by
        have hnot := List.head?_dropWhile_not (· != '/') cs
        rw [hdrop] at hnot
        simpa using hnot
      rw [segments_eq_of_dropWhile_cons hdrop] at h
      rcases exists_segments_eq behind with ⟨others, hbehind⟩
      rw [hbehind] at h
      cases h
      simp only [beforeSecondSlash, hdrop, hslash]

theorem beforeSecondSlash_of_segments_singleton {cs one : List Char}
    (h : segments cs = [one]) : beforeSecondSlash cs = one := by
  cases hdrop : cs.dropWhile (· != '/') with
  | nil =>
      rw [segments_eq_of_dropWhile_nil hdrop] at h
      cases h
      simp only [beforeSecondSlash, hdrop]
  | cons c behind =>
      rw [segments_eq_of_dropWhile_cons hdrop] at h
      exact absurd (List.cons.inj h).right (Text.segments_ne_nil behind)

theorem joined_cons (segment : List Char) (later : List (List Char)) :
    joined (segment :: later) = segment ++ later.flatMap ('/' :: ·) := by
  induction later generalizing segment with
  | nil =>
      rw [joined, List.flatMap_nil, List.append_nil]
  | cons next later ih =>
      rw [joined, ih, List.flatMap_cons, List.cons_append]

/-!
# The target of a source
-/

/-- A target is told by the name of its package: the version is that of the
package, and the path is what follows in the source. -/
structure Target.Names (target : Target) (installed : VersionMap) (source : String) :
    Prop where
  name : target.name = packageName installed source
  version : target.version = installed.get? target.name
  joined : joined (target.name.toList :: target.subpath.map String.toList) = source.toList

theorem map_toList_map_ofList (texts : List (List Char)) :
    (texts.map String.ofList).map String.toList = texts := by
  induction texts with
  | nil =>
      rfl
  | cons text texts ih =>
      rw [List.map_cons, List.map_cons, ih, String.toList_ofList]

theorem Target.ofSource_names (installed : VersionMap) (source : String) :
    (Target.ofSource installed source).Names installed source := by
  have hjoined := joined_segments source.toList
  rcases exists_segments_eq source.toList with ⟨later, hsegments⟩
  rw [hsegments] at hjoined
  cases hone : installed.get? (String.ofList (beforeSlash source.toList)) with
  | some version =>
      have htarget : Target.ofSource installed source =
          ⟨String.ofList (beforeSlash source.toList), some version,
            later.map String.ofList⟩ := by
        rw [Target.ofSource, hsegments]
        simp only [List.map_cons, hone]
      rw [htarget]
      refine ⟨?_, hone.symm, ?_⟩
      · rw [packageName, hone]
        rfl
      · rw [map_toList_map_ofList, String.toList_ofList, hjoined]
  | none =>
      have hname : packageName installed source =
          String.ofList (beforeSecondSlash source.toList) := by
        rw [packageName, hone]
        rfl
      cases later with
      | nil =>
          have htarget : Target.ofSource installed source =
              ⟨String.ofList (beforeSlash source.toList), none, []⟩ := by
            rw [Target.ofSource, hsegments]
            simp only [List.map_cons, List.map_nil, hone]
          rw [htarget]
          refine ⟨?_, hone.symm, ?_⟩
          · rw [hname, beforeSecondSlash_of_segments_singleton hsegments]
          · rw [String.toList_ofList, List.map_nil, hjoined]
      | cons two later =>
          have htext : String.ofList (beforeSlash source.toList) ++ "/" ++
              String.ofList two =
                String.ofList (beforeSlash source.toList ++ '/' :: two) := by
            apply String.toList_inj.mp
            simp
          have htarget : Target.ofSource installed source =
              ⟨String.ofList (beforeSlash source.toList ++ '/' :: two),
                installed.get? (String.ofList (beforeSlash source.toList ++ '/' :: two)),
                later.map String.ofList⟩ := by
            rw [Target.ofSource, hsegments]
            simp only [List.map_cons, hone, htext]
          rw [htarget]
          refine ⟨?_, rfl, ?_⟩
          · rw [hname, beforeSecondSlash_of_segments hsegments]
          · rw [joined_cons, List.flatMap_cons] at hjoined
            rw [map_toList_map_ofList, String.toList_ofList, joined_cons,
              List.append_assoc]
            exact hjoined

/-- A target is resolved exactly if something is installed under the first
segment of the source or under the first two. -/
theorem Target.isResolved_ofSource_iff (installed : VersionMap) (source : String) :
    (Target.ofSource installed source).isResolved = true <->
      (installed.get? (String.ofList (beforeSlash source.toList))).isSome = true ∨
        (installed.get? (String.ofList (beforeSecondSlash source.toList))).isSome = true := by
  have hnames := Target.ofSource_names installed source
  rw [Target.isResolved, hnames.version, hnames.name, packageName]
  by_cases hone : (installed.get? (String.ofList (beforeSlash source.toList))).isSome = true
  · rw [if_pos hone]
    exact iff_of_true hone (Or.inl hone)
  · rw [if_neg hone]
    exact (or_iff_right hone).symm

/-!
# Addresses
-/

theorem Target.address_of_not_isResolved {target : Target}
    (h : target.isResolved = false) (host : String) (suffix : Option String) :
    exists behind : String,
      target.address host suffix =
        withoutTrailingSlashes host ++ "/" ++ target.name ++ "@" ++ "undefined" ++ behind := by
  have hversion : target.version = none := by
    cases hknown : target.version with
    | none =>
        rfl
    | some version =>
        rw [Target.isResolved, hknown] at h
        cases h
  refine ⟨String.join (target.subpath.map ("/" ++ ·)) ++ suffix.getD "", ?_⟩
  rw [Target.address, hversion, Option.getD_none, unknownVersion]
  simp only [String.append_assoc]

theorem isBaseOf_withoutTrailingSlashes (host : String) :
    IsBaseOf (withoutTrailingSlashes host) host := by
  rw [withoutTrailingSlashes]
  constructor
  · refine ⟨(host.toList.reverse.takeWhile (· == '/')).reverse, ?_, ?_⟩
    · rw [String.toList_ofList, ← List.reverse_append, List.takeWhile_append_dropWhile,
        List.reverse_reverse]
    · intro c hmem
      have hslash := List.all_eq_true.mp List.all_takeWhile c (List.mem_reverse.mp hmem)
      exact beq_iff_eq.mp hslash
  · rw [String.toList_ofList, List.getLast?_reverse]
    intro hlast
    have hnot := List.head?_dropWhile_not (· == '/') host.toList.reverse
    rw [hlast] at hnot
    simp at hnot

theorem toList_join_slashed (segments : List String) :
    (String.join (segments.map ("/" ++ ·))).toList =
      (segments.map String.toList).flatMap ('/' :: ·) := by
  rw [String.toList_join, List.flatMap_map, List.flatMap_map]
  congr 1
  funext segment
  rw [String.toList_append]
  rfl

theorem Target.Names.exists_address {target : Target} {installed : VersionMap}
    {source : String} (h : target.Names installed source) :
    exists remainder : String,
      source = packageName installed source ++ remainder ∧
      forall (host : String) (suffix : Option String),
        target.address host suffix =
          withoutTrailingSlashes host ++
            ("/" ++ packageName installed source ++ "@" ++
              (installed.get? (packageName installed source)).getD "undefined" ++
              remainder ++ suffix.getD "") := by
  exists String.join (target.subpath.map ("/" ++ ·))
  constructor
  · apply String.toList_inj.mp
    rw [String.toList_append, toList_join_slashed, ← h.joined, joined_cons, ← h.name]
  · intro host suffix
    rw [Target.address, h.version, h.name, unknownVersion]
    simp only [String.append_assoc]

end Package
end RemoteImports
