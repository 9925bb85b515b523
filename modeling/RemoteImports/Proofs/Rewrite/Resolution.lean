import RemoteImports.Proofs.Package.Target
import RemoteImports.Proofs.Rewrite.Plans

/-!
# Where an import is loaded from

The plan for an import follows from the options, the installed versions and the
source alone.  The rules are asked twice: all of them about the source, and in
their order about the name of the package.  The address is the host, the package
with its version, the rest of the source and the suffix, one behind the other.
-/

namespace RemoteImports
namespace Rewrite

open Config Import Package

/-- The suffix for a package: that of the first rule that has one and whose
pattern matches the name, or an empty one. -/
def IsSuffixFor (rules : Rules) (name suffix : String) : Prop :=
  (exists (earlier : Rules) (rule : Rule) (later : Rules),
    rules = earlier ++ rule :: later ∧
    rule.suffix = some suffix ∧ rule.pattern.isMatch name = true ∧
    forall other, other ∈ earlier ->
      other.suffix = none ∨ other.pattern.isMatch name = false) ∨
  suffix = "" ∧ forall rule, rule ∈ rules ->
    rule.suffix = none ∨ rule.pattern.isMatch name = false

def addressTail (installed : VersionMap) (name remainder suffix : String) : String :=
  "/" ++ name ++ "@" ++ (installed.get? name).getD "undefined" ++ remainder ++ suffix

section

variable {options : Options} {installed : VersionMap} {source : String} {made : Plan}

theorem suffix_eq_none_or_of_not {rule : Rule} {name : String}
    (h : ¬ (rule.suffix.isSome && rule.pattern.isMatch name) = true) :
    rule.suffix = none ∨ rule.pattern.isMatch name = false := by
  cases hsuffix : rule.suffix with
  | none =>
      exact Or.inl rfl
  | some suffix =>
      rw [hsuffix, Option.isSome_some, Bool.true_and] at h
      exact Or.inr (Bool.eq_false_iff.mpr h)

theorem isSuffixFor_suffix? (rules : Rules) (name : String) :
    IsSuffixFor rules name ((rules.suffix? name).getD "") := by
  rw [Rules.suffix?]
  cases hfound : rules.find? fun rule => rule.suffix.isSome && rule.pattern.isMatch name with
  | none =>
      right
      refine ⟨rfl, ?_⟩
      intro rule hmem
      exact suffix_eq_none_or_of_not (List.find?_eq_none.mp hfound rule hmem)
  | some rule =>
      left
      rcases List.find?_eq_some_iff_append.mp hfound with
        ⟨hrule, earlier, later, hrules, hearlier⟩
      rw [Bool.and_eq_true] at hrule
      rcases Option.isSome_iff_exists.mp hrule.left with ⟨suffix, hsuffix⟩
      refine ⟨earlier, rule, later, hrules, ?_, hrule.right, ?_⟩
      · rw [Option.bind_some, hsuffix]
        rfl
      · intro other hmem
        have hnot := hearlier other hmem
        rw [Bool.not_eq_true'] at hnot
        exact suffix_eq_none_or_of_not (Bool.eq_false_iff.mp hnot)

theorem planned_eq_none_iff :
    planned options installed source = none <->
      exists rule, rule ∈ options.rules ∧ rule.pattern.isMatch source = false := by
  rw [planned]
  split
  · rename_i heligible
    constructor
    · rintro ⟨⟩
    · rintro ⟨rule, hmem, hno⟩
      rw [heligible rule hmem] at hno
      cases hno
  · rename_i heligible
    simp only [Eligible, Classical.not_forall, Bool.not_eq_true] at heligible
    rcases heligible with ⟨rule, hmem, hno⟩
    exact iff_of_true rfl ⟨rule, hmem, hno⟩

theorem eq_planFor_of_planned (h : planned options installed source = some made) :
    made = planFor options (.ofSource installed source) := by
  rw [planned] at h
  split at h
  · exact (Option.some.inj h).symm
  · cases h

theorem exists_addresses_planFor (options : Options) {target : Target}
    (h : target.Names installed source) :
    exists remainder suffix : String,
      source = packageName installed source ++ remainder ∧
      IsSuffixFor options.rules (packageName installed source) suffix ∧
      (planFor options target).addresses =
        { primary := withoutTrailingSlashes options.host ++
            addressTail installed (packageName installed source) remainder suffix
          fallback := options.fallback.map fun host => withoutTrailingSlashes host ++
            addressTail installed (packageName installed source) remainder suffix } := by
  rcases h.exists_address with ⟨remainder, hsource, haddress⟩
  refine ⟨remainder, _, hsource, isSuffixFor_suffix? options.rules _, ?_⟩
  simp only [planFor, haddress, h.name, addressTail]

end

/-- An import has no plan if some pattern does not match its source.  Otherwise
its package, the version and the rest of the source are those that the installed
versions tell, and they are what its addresses are made of. -/
theorem plan_resolved (options : Options) (source : String) {resolver : Resolver}
    {installed : VersionMap} (h : resolver.Answers installed) :
    exists made : Option Plan,
      ((plan options source).run.run resolver).1 = .ok made ∧
      (made = none <->
        exists rule, rule ∈ options.rules ∧ rule.pattern.isMatch source = false) ∧
      forall resolved : Plan, made = some resolved ->
        resolved.target.Names installed source ∧
        exists remainder suffix : String,
          let tail := addressTail installed resolved.target.name remainder suffix
          source = resolved.target.name ++ remainder ∧
          IsSuffixFor options.rules resolved.target.name suffix ∧
          (exists base, IsBaseOf base options.host ∧
            resolved.addresses.primary = base ++ tail) ∧
          (options.fallback = none -> resolved.addresses.fallback = none) ∧
          forall host, options.fallback = some host ->
            exists base, IsBaseOf base host ∧
              resolved.addresses.fallback = some (base ++ tail) := by
  rcases plan_run options source h with ⟨next, hrun, _⟩
  refine ⟨planned options installed source, congrArg Prod.fst hrun, planned_eq_none_iff, ?_⟩
  intro resolved hresolved
  have hnames := Target.ofSource_names installed source
  rw [eq_planFor_of_planned hresolved]
  rcases exists_addresses_planFor options hnames with
    ⟨remainder, suffix, hsource, hsuffix, haddresses⟩
  rw [haddresses]
  refine ⟨hnames, remainder, suffix, ?_, ?_, ?_, ?_, ?_⟩
  · rw [planFor, hnames.name]
    exact hsource
  · rw [planFor, hnames.name]
    exact hsuffix
  · refine ⟨_, isBaseOf_withoutTrailingSlashes options.host, ?_⟩
    rw [planFor, hnames.name]
  · intro hnone
    rw [hnone]
    rfl
  · intro host hhost
    refine ⟨_, isBaseOf_withoutTrailingSlashes host, ?_⟩
    rw [hhost, planFor, hnames.name]
    rfl

/-- A package of two segments, with an empty segment and a slash behind it. -/
theorem plan_resolved_scoped :
    let options : Options :=
      { host := "https://c//", fallback := some "https://f"
        rules := [{ pattern := .char 'p', suffix := none },
          { pattern := .char '/', suffix := some ".js" }] }
    let resolver : Resolver := { lister := .pinned (.ofList [("@s/p", "1")]) }
    resolver.Answers (.ofList [("@s/p", "1")]) ∧
    packageName (.ofList [("@s/p", "1")]) "@s/p//x/" = "@s/p" ∧
    exists made : Option Plan,
      ((plan options "@s/p//x/").run.run resolver).1 = .ok made ∧
      (made = none <-> exists rule,
        rule ∈ options.rules ∧ rule.pattern.isMatch "@s/p//x/" = false) ∧
      forall resolved : Plan, made = some resolved ->
        resolved.target.Names (.ofList [("@s/p", "1")]) "@s/p//x/" ∧
        exists remainder suffix : String,
          let tail := addressTail (.ofList [("@s/p", "1")]) resolved.target.name
            remainder suffix
          "@s/p//x/" = resolved.target.name ++ remainder ∧
          IsSuffixFor options.rules resolved.target.name suffix ∧
          (exists base, IsBaseOf base options.host ∧
            resolved.addresses.primary = base ++ tail) ∧
          (options.fallback = none -> resolved.addresses.fallback = none) ∧
          forall host, options.fallback = some host ->
            exists base, IsBaseOf base host ∧
              resolved.addresses.fallback = some (base ++ tail) := by
  intro options resolver
  have hanswers : resolver.Answers (.ofList [("@s/p", "1")]) := .of_pinned _
  exact ⟨hanswers, by decide +kernel, plan_resolved options "@s/p//x/" hanswers⟩

end Rewrite
end RemoteImports
