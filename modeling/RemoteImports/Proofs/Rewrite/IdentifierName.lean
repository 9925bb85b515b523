import RemoteImports.Proofs.Script.IdentifierName
import RemoteImports.Rewrite.Statements
import Mathlib.Data.List.SplitBy

/-!
# Names without quotes

The variable of a package is named after its letters: the characters of its name
without the scope that count as letters or numbers here.  Camel case leaves out what
stands between them and changes the case of some, which neither makes nor mends a
name.  Keys without quotes are such characters too.
-/

namespace RemoteImports
namespace Rewrite

open Script Text.Unicode

def letters (package : String) : List Char :=
  (unscoped package.toList).filter isIdentifierPart

/-!
# The words of a name
-/

theorem eq_head_of_isChain {p : Char -> Bool} {c : Char} {cs : List Char}
    (h : (c :: cs).IsChain fun a b => (p a == p b) = true) :
    forall d, d ∈ cs -> p d = p c := by
  induction cs generalizing c with
  | nil =>
      simp
  | cons d ds ih =>
      rw [List.isChain_cons_cons, beq_iff_eq] at h
      rcases h with ⟨hcd, hds⟩
      intro e he
      rcases List.mem_cons.mp he with rfl | he
      · exact hcd.symm
      · exact (ih hds e he).trans hcd.symm

/-- A run of characters on which a property does not change has it throughout or
nowhere. -/
theorem filter_of_isChain {p : Char -> Bool} {run : List Char}
    (h : run.IsChain fun a b => (p a == p b) = true) :
    run.filter p = if run.all p then run else [] := by
  cases run with
  | nil =>
      rfl
  | cons c cs =>
      have hsame := eq_head_of_isChain h
      cases hc : p c with
      | true =>
          have hall : forall d, d ∈ c :: cs -> p d = true :=
            List.forall_mem_cons.mpr ⟨hc, fun d hd => (hsame d hd).trans hc⟩
          rw [if_pos (List.all_eq_true.mpr hall), List.filter_eq_self.mpr hall]
      | false =>
          have hnone : forall d, d ∈ c :: cs -> ¬ p d = true :=
            List.forall_mem_cons.mpr ⟨by simp [hc], fun d hd => by simp [hsame d hd, hc]⟩
          rw [if_neg (by simp [hc]), List.filter_eq_nil_iff.mpr hnone]

theorem flatten_filter_all {p : Char -> Bool} {runs : List (List Char)}
    (h : forall run, run ∈ runs -> run.filter p = if run.all p then run else []) :
    (runs.filter (·.all p)).flatten = runs.flatten.filter p := by
  induction runs with
  | nil =>
      rfl
  | cons run runs ih =>
      rw [List.forall_mem_cons] at h
      rw [List.flatten_cons, List.filter_append, h.left, ← ih h.right, List.filter_cons]
      split
      · rw [List.flatten_cons]
      · rw [List.nil_append]

theorem flatten_words (name : List Char) :
    (words name).flatten = name.filter isIdentifierPart := by
  rw [words, flatten_filter_all, List.flatten_splitBy]
  intro run hrun
  exact filter_of_isChain (List.isChain_of_mem_splitBy hrun)

theorem ne_nil_of_mem_words {name word : List Char} (h : word ∈ words name) : word ≠ [] :=
  List.ne_nil_of_mem_splitBy (List.mem_filter.mp h).left

/-!
# The words run together
-/

theorem all_withFirst {change : Char -> List Char}
    (hchange : forall c, (change c).all canContinue = canContinue c) (word : List Char) :
    (withFirst change word).all canContinue = word.all canContinue := by
  cases word with
  | nil =>
      rfl
  | cons c cs =>
      rw [withFirst, List.all_append, hchange, List.all_cons]

theorem all_joinWords (words : List (List Char)) :
    (joinWords words).all canContinue = words.flatten.all canContinue := by
  cases words with
  | nil =>
      rfl
  | cons word words =>
      have hlater : forall word : List Char,
          (withFirst toUpper word).all canContinue = word.all canContinue :=
        all_withFirst fun c => all_canContinue_of_turned (turned_toUpper c)
      rw [joinWords, List.all_append, List.flatten_cons, List.all_append,
        all_withFirst fun c => all_canContinue_of_turned (turned_toLower c),
        List.all_flatMap, List.all_flatten]
      simp only [hlater]

theorem exists_joinWords_eq_cons {c : Char} {cs : List Char} {words : List (List Char)}
    (hne : forall word, word ∈ words -> word ≠ []) (h : words.flatten = c :: cs) :
    exists d ds, joinWords words = d :: ds ∧ canBegin d = canBegin c ∧
      d.isDigit = c.isDigit := by
  cases words with
  | nil =>
      cases h
  | cons word words =>
      cases word with
      | nil =>
          exact absurd rfl (hne [] List.mem_cons_self)
      | cons e word =>
          cases h
          rcases exists_toLower_eq_cons c with ⟨d, marks, hlower, hbegin, hdigit⟩
          refine ⟨d, marks ++ word ++ words.flatMap (withFirst toUpper), ?_, hbegin, hdigit⟩
          rw [joinWords, withFirst, hlower]
          rfl

/-!
# The variable of a package
-/

theorem exists_camelCase_eq (package : String) :
    (letters package = [] ∧ camelCase package = "_") ∨
      exists c cs d ds, letters package = c :: cs ∧
        (camelCase package).toList = (if c.isDigit then '_' :: d :: ds else d :: ds) ∧
        canBegin d = canBegin c ∧
        (d :: ds).all canContinue = (c :: cs).all canContinue := by
  have hletters : (words (unscoped package.toList)).flatten = letters package :=
    flatten_words _
  have hne : forall word, word ∈ words (unscoped package.toList) -> word ≠ [] :=
    fun word => ne_nil_of_mem_words
  have hall := all_joinWords (words (unscoped package.toList))
  rw [hletters] at hall
  rw [camelCase]
  generalize words (unscoped package.toList) = parts at hletters hne hall
  cases hparts : letters package with
  | nil =>
      left
      rw [hparts, List.flatten_eq_nil_iff] at hletters
      cases parts with
      | nil =>
          exact ⟨rfl, rfl⟩
      | cons word parts =>
          exact absurd (hletters word List.mem_cons_self) (hne word List.mem_cons_self)
  | cons c cs =>
      right
      rcases exists_joinWords_eq_cons hne (hletters.trans hparts) with
        ⟨d, ds, hjoined, hbegin, hdigit⟩
      rw [hjoined, hparts] at hall
      refine ⟨c, cs, d, ds, rfl, ?_, hbegin, hall⟩
      simp only [hjoined, hdigit, String.toList_ofList]

/-- An underscore in front mends a digit, and nothing mends another first letter. -/
theorem isIdentifierName_camelCase (package : String) :
    isIdentifierName (camelCase package).toList =
      ((letters package).all canContinue &&
        (letters package).head?.all fun c => c.isDigit || canBegin c) := by
  rcases exists_camelCase_eq package with
    ⟨hnone, hname⟩ | ⟨c, cs, d, ds, hsome, hname, hbegin, hall⟩
  · simp [hnone, hname, isIdentifierName, canBegin_underscore]
  · rw [hsome, hname, ← hall, isIdentifierName_eq, Bool.and_comm]
    cases hdigit : c.isDigit with
    | true =>
        simp [hdigit, canBegin_underscore, canContinue_of_canBegin canBegin_underscore]
    | false =>
        simp [hdigit, hbegin]

theorem camelCase_ne_nil (package : String) : (camelCase package).toList ≠ [] := by
  rcases exists_camelCase_eq package with ⟨_, hname⟩ | ⟨c, cs, d, ds, _, hname, _⟩
  · simp [hname]
  · rw [hname]
    split <;> simp

theorem isIdentifierName_resultName (package : String) :
    isIdentifierName (resultName package).toList =
      (!(letters package).any isStray &&
        (letters package).head?.all fun c => c.isDigit || canBegin c) := by
  have hresult : "Result".toList.all canContinue = true := by
    decide
  have hparts : forall c, c ∈ letters package -> isIdentifierPart c = true :=
    fun c hc => (List.mem_filter.mp hc).right
  rw [resultName, String.toList_append,
    isIdentifierName_append (camelCase_ne_nil package) hresult,
    isIdentifierName_camelCase, all_canContinue_eq hparts]

/-- What is written without quotes is a name of the language unless it has a stray
character or begins with one that may only stand behind others.  The variable of a
package may begin with an ASCII digit too, which gets an underscore in front. -/
theorem isIdentifierName_without_quotes (package key binding : String) :
    isIdentifierName (resultName package).toList =
      (!(letters package).any isStray &&
        (letters package).head?.all fun c => c.isDigit || canBegin c) ∧
    ((Property.ofNames key binding).isBare = true ->
      key.toList <+: writeProperty (.ofNames key binding) ∧
      isIdentifierName key.toList =
        (!key.toList.any isStray && key.toList.head?.all canBegin)) := by
  refine ⟨isIdentifierName_resultName package, ?_⟩
  intro hbare
  rw [isBare_ofNames] at hbare
  exact ⟨prefix_writeProperty_of_isIdentifier hbare binding,
    isIdentifierName_of_isIdentifier hbare⟩

theorem isIdentifierName_without_quotes_default :
    isIdentifierName (resultName "@s/2d-é").toList = true ∧
      isIdentifierName "default".toList = true := by
  have hboth := isIdentifierName_without_quotes "@s/2d-é" "default" "d"
  constructor
  · exact hboth.left.trans (by decide)
  · exact (hboth.right (by decide)).right.trans (by decide)

/-- A superscript is a number, but no part of a name: it begins the variable of a
package and stands in a key without quotes. -/
theorem not_forall_isIdentifierName_without_quotes :
    ¬ ((forall package : String, isIdentifierName (resultName package).toList = true) ∧
      forall key binding : String, (Property.ofNames key binding).isBare = true ->
        isIdentifierName key.toList = true) ∧
    isIdentifierName (resultName "²").toList = false ∧
    (Property.ofNames "a²" "b").isBare = true ∧ isIdentifierName "a²".toList = false := by
  have hpackage : isIdentifierName (resultName "²").toList = false := by
    decide
  have hbare : (Property.ofNames "a²" "b").isBare = true := by
    decide
  have hkey : isIdentifierName "a²".toList = false := by
    decide
  refine ⟨?_, hpackage, hbare, hkey⟩
  rintro ⟨hall, _⟩
  have hname := hall "²"
  rw [hpackage] at hname
  cases hname

end Rewrite
end RemoteImports
