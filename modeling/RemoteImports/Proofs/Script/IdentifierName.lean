import RemoteImports.Proofs.Script.Trivia
import RemoteImports.Proofs.Text.OtherCase
import RemoteImports.Script.Printer

/-!
# Names by the rules of the language

A name in a script begins with a character of ID_Start, `$` or `_` and goes on with
characters of ID_Continue or `$`.  Names are put together here from letters and
numbers, which are more than that: an identifier may not hold a stray character,
and may not begin with a digit or with a mark that counts as a letter.
-/

namespace RemoteImports
namespace Script

open Text.Unicode

def canBegin (c : Char) : Bool :=
  isIdStart c || c == '$' || c == '_'

def canContinue (c : Char) : Bool :=
  isIdContinue c || c == '$'

/-- Whether a text is a name by the rules of the language. -/
def isIdentifierName : List Char -> Bool
  | [] => false
  | c :: cs => canBegin c && cs.all canContinue

theorem canBegin_underscore : canBegin '_' = true := by
  decide

theorem canContinue_of_canBegin {c : Char} (h : canBegin c = true) :
    canContinue c = true := by
  simp only [canBegin, Bool.or_eq_true, beq_iff_eq] at h
  rcases h with (hstart | rfl) | rfl
  · simp [canContinue, isIdContinue_of_isIdStart hstart]
  · decide
  · decide

theorem isIdentifierName_eq (cs : List Char) :
    isIdentifierName cs = (cs.head?.any canBegin && cs.all canContinue) := by
  cases cs with
  | nil =>
      rfl
  | cons c cs =>
      cases hbegin : canBegin c with
      | false =>
          simp [isIdentifierName, hbegin]
      | true =>
          simp [isIdentifierName, hbegin, canContinue_of_canBegin hbegin]

theorem isIdentifierName_append {name later : List Char} (hname : name ≠ [])
    (hlater : later.all canContinue = true) :
    isIdentifierName (name ++ later) = isIdentifierName name := by
  cases name with
  | nil =>
      exact absurd rfl hname
  | cons c cs =>
      rw [List.cons_append, isIdentifierName, isIdentifierName, List.all_append, hlater,
        Bool.and_true]

theorem canContinue_of_isStray {c : Char} (h : isStray c = true) : canContinue c = false := by
  have hdollar : isStray '$' = false := by
    decide
  rw [canContinue, isIdContinue_of_isStray h, Bool.false_or, beq_eq_false_iff_ne]
  rintro rfl
  rw [hdollar] at h
  cases h

/-- Stray characters are all that stands between the letters and numbers here and the
characters of identifiers. -/
theorem canContinue_eq_not_isStray {c : Char} (h : isIdentifierPart c = true) :
    canContinue c = !isStray c := by
  cases hstray : isStray c with
  | true =>
      exact canContinue_of_isStray hstray
  | false =>
      simp only [isIdentifierPart, isIdentifierStart, Bool.or_eq_true, beq_iff_eq] at h
      rcases h with ((halphabetic | rfl) | rfl) | hnumeric
      · have hpart := isIdContinue_or_isStray_of_isAlphabetic halphabetic
        rw [hstray] at hpart
        simpa [canContinue] using Or.inl hpart
      · decide
      · decide
      · have hpart := isIdContinue_or_isStray_of_isNumeric hnumeric
        rw [hstray] at hpart
        simpa [canContinue] using Or.inl hpart

theorem all_canContinue_eq {cs : List Char}
    (h : forall c, c ∈ cs -> isIdentifierPart c = true) :
    cs.all canContinue = !cs.any isStray := by
  rw [List.not_any_eq_all_not, Bool.eq_iff_iff, List.all_eq_true, List.all_eq_true]
  refine forall_congr' fun c => forall_congr' fun hc => ?_
  rw [canContinue_eq_not_isStray (h c hc)]

/-!
# The other case
-/

theorem canBegin_of_isLetter {c : Char} (h : isLetter c.toNat = true) : canBegin c = true := by
  simp [canBegin, isIdStart_of_isLetter h]

theorem canContinue_of_isLetter {c : Char} (h : isLetter c.toNat = true) :
    canContinue c = true :=
  canContinue_of_canBegin (canBegin_of_isLetter h)

theorem canContinue_of_isMark {c : Char} (h : isMark c.toNat = true) :
    canContinue c = true := by
  simp [canContinue, isIdContinue_of_isMark h]

theorem isDigit_of_isLetter {c : Char} (h : isLetter c.toNat = true) : c.isDigit = false := by
  have hrange := range_of_isLetter h
  rw [Bool.eq_false_iff]
  intro hdigit
  rw [isDigit_iff] at hdigit
  omega

theorem all_canContinue_of_turned {c : Char} {image : List Char} (h : Turned c image) :
    image.all canContinue = canContinue c := by
  cases h with
  | same =>
      simp
  | letter d marks hc hd hmarks =>
      have hall : marks.all canContinue = true := by
        rw [List.all_eq_true]
        intro e he
        rcases hmarks e he with hletter | hmark
        · exact canContinue_of_isLetter hletter
        · exact canContinue_of_isMark hmark
      rw [List.all_cons, canContinue_of_isLetter hd, hall, canContinue_of_isLetter hc]
      rfl
  | circled d hc hd =>
      simp [canContinue_of_isStray (isStray_of_isCircled hc),
        canContinue_of_isStray (isStray_of_isCircled hd)]
  | iota d hc hd =>
      have hmark : isMark c.toNat = true := by
        rw [hc]
        decide
      simp [canContinue_of_isLetter hd, canContinue_of_isMark hmark]

theorem canBegin_of_isCircled {c : Char} (h : isCircled c.toNat = true) :
    canBegin c = false := by
  rw [Bool.eq_false_iff]
  intro hbegin
  have hcontinue := canContinue_of_canBegin hbegin
  rw [canContinue_of_isStray (isStray_of_isCircled h)] at hcontinue
  cases hcontinue

theorem isDigit_of_isCircled {c : Char} (h : isCircled c.toNat = true) :
    c.isDigit = false := by
  rw [isCircled_iff] at h
  rw [Bool.eq_false_iff]
  intro hdigit
  rw [isDigit_iff] at hdigit
  omega

theorem exists_toLower_eq_cons (c : Char) :
    exists d marks, toLower c = d :: marks ∧ canBegin d = canBegin c ∧
      d.isDigit = c.isDigit := by
  generalize himage : toLower c = image
  have hturned := turned_toLower c
  rw [himage] at hturned
  cases hturned with
  | same =>
      exact ⟨c, [], rfl, rfl, rfl⟩
  | letter d marks hc hd =>
      refine ⟨d, marks, rfl, ?_, ?_⟩
      · rw [canBegin_of_isLetter hd, canBegin_of_isLetter hc]
      · rw [isDigit_of_isLetter hd, isDigit_of_isLetter hc]
  | circled d hc hd =>
      refine ⟨d, [], rfl, ?_, ?_⟩
      · rw [canBegin_of_isCircled hd, canBegin_of_isCircled hc]
      · rw [isDigit_of_isCircled hd, isDigit_of_isCircled hc]
  | iota d hc hd =>
      -- The mark has no lower case but itself.
      have hself : mapCase lowerRuns lowerSequences iotaBelow = [iotaBelow] := by
        decide
      rw [toLower, hc, hself] at himage
      cases himage
      have hletter : isLetter (Char.ofNat iotaBelow).toNat = false := by
        decide
      rw [hletter] at hd
      cases hd

/-!
# Keys
-/

theorem isIdentifierPart_of_mem {key : String} (h : isIdentifier key = true) :
    forall c, c ∈ key.toList -> isIdentifierPart c = true := by
  intro c hc
  rw [isIdentifier] at h
  cases hkey : key.toList with
  | nil =>
      rw [hkey] at hc
      cases hc
  | cons d ds =>
      rw [hkey] at h hc
      rw [Bool.and_eq_true, List.all_eq_true] at h
      rcases List.mem_cons.mp hc with rfl | hc
      · simp [isIdentifierPart, h.left]
      · exact h.right c hc

/-- What needs no quotes here is a name of the language unless one of its characters is
stray or its first one may only stand behind others. -/
theorem isIdentifierName_of_isIdentifier {key : String} (h : isIdentifier key = true) :
    isIdentifierName key.toList =
      (!key.toList.any isStray && key.toList.head?.all canBegin) := by
  rw [isIdentifierName_eq, all_canContinue_eq (isIdentifierPart_of_mem h), Bool.and_comm]
  rw [isIdentifier] at h
  cases hkey : key.toList with
  | nil =>
      rw [hkey] at h
      cases h
  | cons c cs =>
      rfl

/-- Whether a property is written with its name as it is: in front of what it is bound
to, or for both. -/
def Property.isBare : Property -> Bool
  | .bind (.name _) _ _ => true
  | .bind (.text _) _ shorthand => shorthand

theorem isBare_ofNames (key binding : String) :
    (Property.ofNames key binding).isBare = isIdentifier key := by
  cases h : isIdentifier key <;> simp [Property.ofNames, Key.ofName, Property.isBare, h]

theorem prefix_writeProperty_of_isIdentifier {key : String} (h : isIdentifier key = true)
    (binding : String) : key.toList <+: writeProperty (.ofNames key binding) := by
  rw [Property.ofNames, Key.ofName, if_pos h, h, Bool.and_true]
  cases hsame : key == binding with
  | true =>
      rw [beq_iff_eq] at hsame
      have hwritten : writeProperty (.bind (.name key) (.name binding) true) = key.toList := by
        rw [writeProperty, writeBinding, hsame]
      exact hwritten ▸ List.prefix_rfl
  | false =>
      rw [writeProperty, writeKey]
      exact List.prefix_append _ _

end Script
end RemoteImports
