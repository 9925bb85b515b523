import RemoteImports.Proofs.Script.Spelling
import RemoteImports.Proofs.Script.Trivia

/-!
# Written literals in strict mode

The writer goes character by character, but whether an escape may stand in a
literal can depend on the character behind it: in strict mode, `\0` is no
escape before a digit.  So the literal of a text is one of the language exactly
if the text has no digit directly behind U+0000.
-/

namespace RemoteImports
namespace Script

open Text

def written (c : Char) : Piece :=
  if c = '\\' then .escaped '\\'
  else if c = '"' then .escaped '"'
  else if c = '\n' then .escaped 'n'
  else if c = '\r' then .escaped 'r'
  else if c = '\t' then .escaped 't'
  else if c.toNat = 0 then .escaped '0'
  else if isControl c then .unit (hexDigits 4 c.toNat)
  else .plain c

inductive Writing (c : Char) : List Char -> Piece -> Prop where
  | escaped {d : Char} :
      d ∈ ['\\', '"', 'n', 'r', 't', '0'] -> (d = '0' <-> c = '\x00') ->
      (Piece.escaped d).code? = some c.toNat -> Writing c ['\\', d] (.escaped d)
  | coded :
      isControl c = true -> c ≠ '\x00' ->
      Writing c ('\\' :: 'u' :: hexDigits 4 c.toNat) (.unit (hexDigits 4 c.toNat))
  | plain :
      c ∉ ['\\', '"', '\n', '\r', '\x00'] -> Writing c [c] (.plain c)

/-- No digit stands directly behind U+0000. -/
def IsStrict (value : List Char) : Prop :=
  forall digit : Char, digit.isDigit = true -> ¬ ['\x00', digit] <:+: value

def firstPiece? : List Char -> Option (Piece × List Char)
  | [] => none
  | '\\' :: 'x' :: cs => some (.byte (cs.take 2), cs.drop 2)
  | '\\' :: 'u' :: '{' :: cs =>
      some (.braced (cs.takeWhile (· != '}')), (cs.dropWhile (· != '}')).drop 1)
  | '\\' :: 'u' :: cs => some (.unit (cs.take 4), cs.drop 4)
  | '\\' :: '\r' :: '\n' :: cs => some (.continued ['\r', '\n'], cs)
  | '\\' :: c :: cs =>
      if lineEnds.contains [c] then some (.continued [c], cs) else some (.escaped c, cs)
  | c :: cs => some (.plain c, cs)

section

variable {c d quote : Char} {cs rest value behind : List Char} {piece : Piece}
  {pieces : List Piece}

/-!
# The parts that are written
-/

theorem writing (c : Char) : Writing c (writeChar c) (written c) := by
  unfold writeChar written
  by_cases hslash : c = '\\'
  · cases hslash
    exact Writing.escaped (by decide) (by decide) (by decide)
  rw [if_neg hslash, if_neg hslash]
  by_cases hquote : c = '"'
  · cases hquote
    exact Writing.escaped (by decide) (by decide) (by decide)
  rw [if_neg hquote, if_neg hquote]
  by_cases hline : c = '\n'
  · cases hline
    exact Writing.escaped (by decide) (by decide) (by decide)
  rw [if_neg hline, if_neg hline]
  by_cases hreturn : c = '\r'
  · cases hreturn
    exact Writing.escaped (by decide) (by decide) (by decide)
  rw [if_neg hreturn, if_neg hreturn]
  by_cases htab : c = '\t'
  · cases htab
    exact Writing.escaped (by decide) (by decide) (by decide)
  rw [if_neg htab, if_neg htab]
  have hnul : c.toNat = 0 <-> c = '\x00' := Char.toNat_inj (d := '\x00')
  by_cases hzero : c.toNat = 0
  · cases hnul.mp hzero
    exact Writing.escaped (by decide) (by decide) (by decide)
  rw [if_neg hzero, if_neg hzero]
  rw [hnul] at hzero
  by_cases hcontrol : isControl c = true
  · rw [if_pos hcontrol, if_pos hcontrol]
    exact Writing.coded hcontrol hzero
  · rw [if_neg hcontrol, if_neg hcontrol]
    exact Writing.plain (by simp [hslash, hquote, hline, hreturn, hzero])

theorem hexValue?_of_isControl (h : isControl c = true) :
    hexValue? (hexDigits 4 c.toNat) = some c.toNat := by
  rw [isControl_iff] at h
  exact hexValue?_hexDigits (by omega)

theorem Writing.text {text : List Char} (h : Writing c text piece) : piece.text = text := by
  cases h <;> rfl

theorem Writing.code? {text : List Char} (h : Writing c text piece) :
    piece.code? = some c.toNat := by
  cases h with
  | escaped _ _ hcode =>
      exact hcode
  | coded hcontrol _ =>
      exact hexValue?_of_isControl hcontrol
  | plain _ =>
      rfl

/-- A part that is written may stand anywhere, except for U+0000 before a
digit. -/
theorem Writing.isLegal_iff {text : List Char} (h : Writing c text piece) :
    piece.isLegal '"' behind = true <->
      ¬ (c = '\x00' ∧ behind.head?.any Char.isDigit = true) := by
  cases h with
  | @escaped d hmem hnul _ =>
      rw [← hnul]
      simp only [List.mem_cons, List.not_mem_nil, or_false] at hmem
      rcases hmem with rfl | rfl | rfl | rfl | rfl | rfl <;> simp [Piece.isLegal, lineEnds]
  | coded hcontrol hne =>
      have hlength : (hexDigits 4 c.toNat).length = 4 := rfl
      simp [Piece.isLegal, hexValue?_of_isControl hcontrol, hlength, hne]
  | plain hne =>
      simp only [List.mem_cons, List.not_mem_nil, or_false, not_or] at hne
      simp [Piece.isLegal, hne]

theorem Writing.head?_isDigit {text : List Char} (h : Writing c text piece)
    (rest : List Char) : (text ++ rest).head?.any Char.isDigit = c.isDigit := by
  cases h with
  | @escaped d hmem _ hcode =>
      rw [Piece.code?, Option.some.injEq] at hcode
      simp only [List.mem_cons, List.not_mem_nil, or_false] at hmem
      have hc : c.isDigit = false := by
        rw [← Char.ofNat_toNat c, ← hcode]
        rcases hmem with rfl | rfl | rfl | rfl | rfl | rfl <;> decide
      rw [hc]
      rfl
  | coded hcontrol _ =>
      rw [isControl_iff] at hcontrol
      have hc : c.isDigit = false := by
        rw [Bool.eq_false_iff]
        intro hdigit
        rw [isDigit_iff] at hdigit
        omega
      rw [hc]
      rfl
  | plain _ =>
      rfl

/-!
# The parts that are there

What stands between the quotes can be taken apart from the front, in one way
only.
-/

theorem head?_text_ne (h : piece.isLegal quote behind = true) (rest : List Char) :
    (piece.text ++ rest).head? ≠ some '\n' := by
  cases piece with
  | plain c =>
      simp only [Piece.isLegal, Bool.and_eq_true, bne_iff_ne] at h
      intro hhead
      exact h.left.right (Option.some.inj hhead)
  | escaped | byte | unit | braced | continued =>
      rintro ⟨⟩

theorem firstPiece?_unit {digits : List Char} {n : Nat} (hlength : digits.length = 4)
    (hn : hexValue? digits = some n) (rest : List Char) :
    firstPiece? ('\\' :: 'u' :: (digits ++ rest)) = some (.unit digits, rest) := by
  rw [firstPiece?, ← hlength, List.take_left, List.drop_left]
  intro cs hbrace
  cases digits with
  | nil =>
      cases hlength
  | cons d digits =>
      cases hbrace
      exact not_mem_of_hexValue? hn (c := '{') rfl List.mem_cons_self

theorem firstPiece?_text (h : piece.isLegal quote behind = true)
    (hrest : rest.head? ≠ some '\n') :
    firstPiece? (piece.text ++ rest) = some (piece, rest) := by
  cases piece with
  | plain c =>
      simp only [Piece.isLegal, Bool.and_eq_true, bne_iff_ne] at h
      have hslash : c ≠ '\\' := h.left.left.right
      simp [Piece.text, firstPiece?, hslash]
  | escaped c =>
      simp only [Piece.isLegal, Bool.and_eq_true, bne_iff_ne, Bool.not_eq_true'] at h
      rcases h with ⟨⟨⟨hline, hx⟩, hu⟩, _⟩
      have hreturn : c ≠ '\r' := by
        rintro rfl
        cases hline
      rw [Piece.text, List.cons_append, List.singleton_append, firstPiece?, hline]
      · rfl
      · exact fun hc => absurd hc hx
      · exact fun _ hc => absurd hc hu
      · exact fun hc => absurd hc hu
      · exact fun _ hc => absurd hc hreturn
  | byte digits =>
      simp only [Piece.isLegal, Bool.and_eq_true, beq_iff_eq] at h
      rw [Piece.text, List.cons_append, List.cons_append, firstPiece?, ← h.left,
        List.take_left, List.drop_left]
  | unit digits =>
      simp only [Piece.isLegal, Bool.and_eq_true, beq_iff_eq, Option.isSome_iff_exists] at h
      rcases h with ⟨hlength, n, hn⟩
      exact firstPiece?_unit hlength hn rest
  | braced digits =>
      simp only [Piece.isLegal, Bool.and_eq_true, Option.any_eq_true] at h
      rcases h with ⟨_, n, hn, _⟩
      have hdigits : forall d, d ∈ digits -> (d != '}') = true := by
        intro d hmem
        rw [bne_iff_ne]
        exact ne_of_mem_of_not_mem hmem (not_mem_of_hexValue? hn rfl)
      simp only [Piece.text, List.cons_append, List.append_assoc, firstPiece?]
      rw [List.takeWhile_append_of_pos hdigits, List.dropWhile_append_of_pos hdigits]
      simp
  | continued lineEnd =>
      rw [Piece.isLegal, List.contains_eq_mem, decide_eq_true_eq] at h
      simp only [lineEnds, List.mem_cons, List.not_mem_nil, or_false] at h
      rcases h with rfl | rfl | rfl | rfl | rfl
      · rfl
      · cases rest with
        | nil =>
            rfl
        | cons c rest =>
            have hc : c ≠ '\n' := fun heq => hrest (congrArg some heq)
            simp [Piece.text, firstPiece?, lineEnds, hc]
      · rfl
      · rfl
      · rfl

theorem Writing.firstPiece? {text : List Char} (h : Writing c text piece)
    (rest : List Char) : firstPiece? (text ++ rest) = some (piece, rest) := by
  cases h with
  | @escaped d hmem _ _ =>
      simp only [List.mem_cons, List.not_mem_nil, or_false] at hmem
      rcases hmem with rfl | rfl | rfl | rfl | rfl | rfl <;> rfl
  | coded hcontrol _ =>
      exact firstPiece?_unit rfl (hexValue?_of_isControl hcontrol) rest
  | plain hne =>
      simp only [List.mem_cons, List.not_mem_nil, or_false, not_or] at hne
      simp [Script.firstPiece?, hne]

theorem head?_flatMap_text_ne (h : areLegal '"' pieces = true) :
    (pieces.flatMap Piece.text ++ ['"']).head? ≠ some '\n' := by
  cases pieces with
  | nil =>
      rintro ⟨⟩
  | cons piece pieces =>
      rw [areLegal, Bool.and_eq_true] at h
      rw [List.flatMap_cons, List.append_assoc]
      exact head?_text_ne h.left _

theorem eq_map_written (h : areLegal '"' pieces = true)
    (htext : pieces.flatMap Piece.text ++ ['"'] = value.flatMap writeChar ++ ['"']) :
    pieces = value.map written := by
  induction value generalizing pieces with
  | nil =>
      cases pieces with
      | nil =>
          rfl
      | cons piece pieces =>
          rw [areLegal, Bool.and_eq_true] at h
          rw [List.flatMap_cons, List.append_assoc] at htext
          have hfirst := firstPiece?_text h.left (head?_flatMap_text_ne h.right)
          have hplain : firstPiece? ['"'] = some (.plain '"', []) := rfl
          rw [htext, List.flatMap_nil, List.nil_append, hplain] at hfirst
          have hpiece := h.left
          rw [← (Prod.mk.inj (Option.some.inj hfirst)).left] at hpiece
          cases hpiece
  | cons c value ih =>
      have hwritten := (writing c).firstPiece? (value.flatMap writeChar ++ ['"'])
      rw [List.flatMap_cons, List.append_assoc] at htext
      rw [← htext] at hwritten
      cases pieces with
      | nil =>
          have hplain : firstPiece? ['"'] = some (.plain '"', []) := rfl
          rw [List.flatMap_nil, List.nil_append, hplain] at hwritten
          have hnil := congrArg Prod.snd (Option.some.inj hwritten)
          simp at hnil
      | cons piece pieces =>
          rw [areLegal, Bool.and_eq_true] at h
          rw [List.flatMap_cons, List.append_assoc,
            firstPiece?_text h.left (head?_flatMap_text_ne h.right)] at hwritten
          rcases Prod.mk.inj (Option.some.inj hwritten) with ⟨hpiece, hlater⟩
          rw [List.map_cons, hpiece, ih h.right hlater]

/-!
# Literals of the language
-/

theorem flatMap_text_written (value : List Char) :
    (value.map written).flatMap Piece.text = value.flatMap writeChar := by
  rw [List.flatMap_map]
  exact congrArg (value.flatMap ·) (funext fun c => (writing c).text)

theorem flatMap_codeUnits_written (value : List Char) :
    (value.map written).flatMap (fun piece => piece.code?.toList.flatMap codeUnits) =
      value.flatMap fun c => codeUnits c.toNat := by
  rw [List.flatMap_map]
  refine congrArg (value.flatMap ·) (funext fun c => ?_)
  rw [(writing c).code?, Option.toList_some, List.flatMap_singleton]

theorem isStrict_cons :
    IsStrict (c :: value) <->
      ¬ (c = '\x00' ∧ value.head?.any Char.isDigit = true) ∧ IsStrict value := by
  have hprefix : forall digit : Char,
      ['\x00', digit] <+: c :: value <-> c = '\x00' ∧ value.head? = some digit := by
    intro digit
    cases value with
    | nil =>
        simp
    | cons d value =>
        simp [List.cons_prefix_cons, eq_comm]
  simp only [IsStrict, List.infix_cons_iff, not_or, hprefix, Option.any_eq_true]
  constructor
  · intro h
    refine ⟨?_, fun digit hdigit => (h digit hdigit).right⟩
    rintro ⟨hc, digit, hhead, hdigit⟩
    exact (h digit hdigit).left ⟨hc, hhead⟩
  · rintro ⟨hfirst, hlater⟩ digit hdigit
    refine ⟨?_, hlater digit hdigit⟩
    rintro ⟨hc, hhead⟩
    exact hfirst ⟨hc, digit, hhead, hdigit⟩

theorem areLegal_map_written_iff :
    areLegal '"' (value.map written) = true <-> IsStrict value := by
  induction value with
  | nil =>
      simp [areLegal, IsStrict]
  | cons c value ih =>
      have hhead : (value.flatMap writeChar).head?.any Char.isDigit =
          value.head?.any Char.isDigit := by
        cases value with
        | nil =>
            rfl
        | cons d value =>
            rw [List.flatMap_cons]
            exact (writing d).head?_isDigit _
      rw [List.map_cons, areLegal, Bool.and_eq_true, ih, flatMap_text_written,
        (writing c).isLegal_iff, hhead, isStrict_cons]

/-- The parts of a written literal that is one of the language are those that
were written. -/
theorem eq_and_isStrict_of_spells {allowed : Piece -> Bool} {read : List Char}
    (h : Spells allowed (writeLiteral value) read) : read = value ∧ IsStrict value := by
  generalize htext : writeLiteral value = text at h
  cases h with
  | @intro quote pieces read _ hlegal _ hunits =>
      rcases List.cons.inj htext with ⟨rfl, hinside⟩
      have hpieces := eq_map_written hlegal hinside.symm
      rw [hpieces] at hlegal hunits
      rw [flatMap_codeUnits_written] at hunits
      exact ⟨(flatMap_codeUnits_inj hunits).symm, areLegal_map_written_iff.mp hlegal⟩

theorem spells_of_isStrict (h : IsStrict value) :
    Spells (fun _ => true) (writeLiteral value) value := by
  rw [writeLiteral, ← flatMap_text_written]
  exact Spells.intro rfl (areLegal_map_written_iff.mpr h)
    (List.all_eq_true.mpr fun _ _ => rfl) (flatMap_codeUnits_written value)

end

/-- In strict mode, what is written for a text is a literal exactly if the text
has no digit directly behind U+0000, and then it is one of this text only. -/
theorem spells_writeLiteral_iff (value read : List Char) :
    Spells (fun _ => true) (writeLiteral value) read <-> read = value ∧ IsStrict value := by
  constructor
  · exact eq_and_isStrict_of_spells
  · rintro ⟨rfl, hstrict⟩
    exact spells_of_isStrict hstrict

/-- With a digit behind it, the escape of U+0000 is one in octal. -/
theorem not_forall_spells_writeLiteral :
    ¬ forall value : List Char, Spells (fun _ => true) (writeLiteral value) value := by
  intro h
  have hstrict := (eq_and_isStrict_of_spells (h ['\x00', '1'])).right
  exact hstrict '1' rfl List.infix_rfl

end Script
end RemoteImports
