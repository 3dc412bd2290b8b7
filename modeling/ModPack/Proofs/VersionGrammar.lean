import ModPack.Manifest
import ModPack.Proofs.TextPieces
import Mathlib.Data.List.Basic

/-!
# The grammar of versions

A version is three numbers between dots, then possibly a pre-release behind a hyphen and build
metadata behind a plus sign. Its parts are found by cutting at the first plus sign, at the first
hyphen before that, and at the dots: a number has none of these marks and a pre-release has no plus
sign, so a text is a version in one way at most, however many hyphens its words have. The digits of a
number behind its first one may be of any script; the versions in ASCII are those whose digits are.
Main statements: `ofText_of_spells`, `isVersion_iff` and `Manifest.versionOf_exact`.
-/
namespace ModPack

namespace Version

variable {digit : Char → Bool} {mark c : Char} {text : String} {chars front : List Char}
  {back : Option (List Char)}

/-! ## The grammar -/

/-- `0`, or a digit from 1 to 9 with digits of a class behind it. -/
inductive Number (digit : Char → Bool) : List Char → Prop
  | zero : Number digit ['0']
  | positive {first : Char} {rest : List Char} (low : '1' ≤ first) (high : first ≤ '9')
      (digits : ∀ c ∈ rest, digit c = true) : Number digit (first :: rest)

/-- A word of ASCII letters, ASCII digits and hyphens. -/
structure Word (word : List Char) : Prop where
  ne_nil : word ≠ []
  chars : ∀ c ∈ word, c.isAlphanum = true ∨ c = '-'

/-- Words between dots; there is at least one. -/
def Dotted (chars : List Char) : Prop :=
  ∃ words, words ≠ [] ∧ (∀ word ∈ words, Word word) ∧ ['.'].intercalate words = chars

/-- The five parts of a version. -/
structure Fields where
  major : List Char
  minor : List Char
  patch : List Char
  preRelease : Option (List Char)
  build : Option (List Char)

/-- A part that may be missing, behind its mark. -/
def marked (mark : Char) : Option (List Char) → List Char
  | none => []
  | some part => mark :: part

/-- The numbers of a version between dots. -/
def Fields.numbers (fields : Fields) : List (List Char) :=
  [fields.major, fields.minor, fields.patch]

/-- The parts put together. -/
def Fields.toList (fields : Fields) : List Char :=
  ['.'].intercalate fields.numbers ++ marked '-' fields.preRelease ++ marked '+' fields.build

/-- The text is a version with these parts, its numbers in digits of a class. -/
structure Spells (digit : Char → Bool) (text : String) (fields : Fields) : Prop where
  toList_eq : text.toList = fields.toList
  numbers : ∀ number ∈ fields.numbers, Number digit number
  preRelease : ∀ part ∈ fields.preRelease, Dotted part
  build : ∀ part ∈ fields.build, Dotted part

/-! ## Characters of the parts -/

theorem isNumber_iff : isNumber chars = true ↔ Number Text.isDecimalDigit chars := by
  unfold isNumber
  constructor
  · intro h
    split at h
    · cases h
    · exact .zero
    · simp only [Bool.and_eq_true, decide_eq_true_eq, List.all_eq_true] at h
      exact .positive h.1.1 h.1.2 h.2
  · intro h
    cases h with
    | zero => rfl
    | positive low high digits =>
      split
      · next hnil => cases hnil
      · rfl
      · next hcons =>
        cases hcons
        simp only [low, high, decide_true, Bool.and_self, Bool.true_and, List.all_eq_true]
        exact digits

theorem areWords_iff : areWords chars = true ↔ Dotted chars := by
  have hword (word : List Char) : isWord word = true ↔ Word word := by
    simp only [isWord, isWordChar, Bool.and_eq_true, Bool.or_eq_true, decide_eq_true_eq,
      List.all_eq_true]
    exact ⟨fun h => ⟨h.1, h.2⟩, fun h => ⟨h.ne_nil, h.chars⟩⟩
  simp only [areWords, List.all_eq_true, hword]
  constructor
  · intro h
    exact ⟨_, Text.pieces_ne_nil '.' chars, h, Text.intercalate_pieces '.' chars⟩
  · rintro ⟨words, hne, hwords, hchars⟩
    have hdots : ∀ word ∈ words, '.' ∉ word := by
      intro word hmem hdot
      exact absurd ((hwords word hmem).chars '.' hdot) (by decide)
    rwa [Text.pieces_eq_iff.2 ⟨hne, hdots, hchars⟩]

/-- The digits of a class that has the ASCII digits are all that a number is made of. -/
theorem Number.all (h : Number digit chars) (hascii : ∀ c, c.isDigit = true → digit c = true) :
    ∀ c ∈ chars, digit c = true := by
  cases h with
  | zero => simp [hascii]
  | positive low high digits =>
    refine List.forall_mem_cons.2 ⟨hascii _ ?_, digits⟩
    simp only [Char.isDigit, Bool.and_eq_true, decide_eq_true_eq]
    exact ⟨UInt32.le_trans (by decide) low, high⟩

theorem Number.not_mem (h : Number Text.isDecimalDigit chars) (hc : Text.isDecimalDigit c = false) :
    c ∉ chars := by
  intro hmem
  simp [h.all (fun _ => Text.isDecimalDigit_of_isDigit) c hmem] at hc

theorem mem_intercalate {texts : List (List Char)} (h : c ∈ [mark].intercalate texts) :
    c = mark ∨ ∃ text ∈ texts, c ∈ text := by
  induction texts with
  | nil => cases h
  | cons first rest ih =>
    cases rest with
    | nil =>
      have hfirst : c ∈ first := by simpa [List.intercalate] using h
      exact .inr ⟨first, List.mem_cons_self, hfirst⟩
    | cons second more =>
      have hparts : c ∈ first ∨ c = mark ∨ c ∈ [mark].intercalate (second :: more) := by
        simpa [List.intercalate] using h
      rcases hparts with hfirst | hmark | hrest
      · exact .inr ⟨first, List.mem_cons_self, hfirst⟩
      · exact .inl hmark
      · exact (ih hrest).imp_right fun ⟨text, htext, hc⟩ =>
          ⟨text, List.mem_cons_of_mem _ htext, hc⟩

theorem Dotted.not_mem_plus (h : Dotted chars) : '+' ∉ chars := by
  obtain ⟨words, _, hwords, rfl⟩ := h
  intro hplus
  rcases mem_intercalate hplus with hdot | ⟨word, hword, hplus⟩
  · cases hdot
  · exact absurd ((hwords word hword).chars '+' hplus) (by decide)

/-! ## Cutting -/

/-- A text is cut at the first mark. -/
theorem cut_eq_iff : cut mark chars = (front, back) ↔
    mark ∉ front ∧ front ++ marked mark back = chars := by
  unfold cut
  constructor
  · intro h
    split at h
    · next hdrop =>
      cases h
      rw [List.dropWhile_eq_nil_iff] at hdrop
      refine ⟨fun hmem => ?_, List.append_nil _⟩
      simpa using hdrop mark hmem
    · next first rest hdrop =>
      obtain ⟨_, rfl, hfront, htake, hchars⟩ := Text.exists_first_of_dropWhile hdrop
      rw [htake] at h
      cases h
      exact ⟨hfront, hchars.symm⟩
  · rintro ⟨hfront, rfl⟩
    cases back with
    | none =>
      have hdrop : (front ++ marked mark none).dropWhile (· ≠ mark) = [] := by
        rw [List.dropWhile_eq_nil_iff]
        intro other hother
        have hne : other ≠ mark := by
          rintro rfl
          exact hfront (by simpa [marked] using hother)
        simpa using hne
      rw [hdrop]
      simp [marked]
    | some rest =>
      obtain ⟨htake, hdrop⟩ := Text.span_ne hfront rest
      simp only [marked, htake, hdrop]

/-! ## Parts of a version -/

/-- What the parts are cut into. -/
def Fields.parts (fields : Fields) : Parts :=
  ⟨fields.numbers, fields.preRelease, fields.build⟩

theorem Fields.eq_of_parts {fields other : Fields} (h : fields.parts = other.parts) :
    fields = other := by
  obtain ⟨major, minor, patch, preRelease, build⟩ := fields
  simp only [parts, numbers, Parts.mk.injEq, List.cons.injEq] at h
  obtain ⟨⟨rfl, rfl, rfl, _⟩, rfl, rfl⟩ := h
  rfl

variable {fields other : Fields}

/-- The text is cut into the parts that it was put together from. -/
theorem ofText_of_spells (h : Spells Text.isDecimalDigit text fields) :
    Parts.ofText text.toList = fields.parts := by
  have hdigits (c : Char) (hc : Text.isDecimalDigit c = false) :
      ∀ number ∈ fields.numbers, c ∉ number := fun number hnumber =>
    (h.numbers number hnumber).not_mem hc
  have hjoined (c : Char) (hc : Text.isDecimalDigit c = false) (hdot : c ≠ '.') :
      c ∉ ['.'].intercalate fields.numbers := by
    intro hmem
    rcases mem_intercalate hmem with rfl | ⟨number, hnumber, hmem⟩
    · exact hdot rfl
    · exact hdigits c hc number hnumber hmem
  have hplus : '+' ∉ ['.'].intercalate fields.numbers ++ marked '-' fields.preRelease := by
    cases hpart : fields.preRelease with
    | none => simpa [marked] using hjoined '+' (by decide) (by decide)
    | some part =>
      have hwords := (h.preRelease part (by simp [hpart])).not_mem_plus
      simpa [marked, hwords] using hjoined '+' (by decide) (by decide)
  have hfront := cut_eq_iff.2 ⟨hplus, h.toList_eq.symm⟩
  have hnumbers := cut_eq_iff.2
    ⟨hjoined '-' (by decide) (by decide), rfl (a := _ ++ marked '-' fields.preRelease)⟩
  have hpieces : Text.pieces '.' (['.'].intercalate fields.numbers) = fields.numbers :=
    Text.pieces_intercalate (by simp [Fields.numbers]) (hdigits '.' (by decide))
  simp only [Parts.ofText, hfront, hnumbers, hpieces, Fields.parts]

/-- Parts that are valid spell the text that they were cut from. -/
theorem exists_spells_of_isValid (h : (Parts.ofText text.toList).isValid = true) :
    ∃ fields, Spells Text.isDecimalDigit text fields := by
  unfold Parts.ofText at h
  cases hfront : cut '+' text.toList with
  | mk front build =>
    cases hnumbers : cut '-' front with
    | mk numbers preRelease =>
      simp only [hfront, hnumbers, Parts.isValid, Bool.and_eq_true, decide_eq_true_eq,
        List.all_eq_true, isNumber_iff, Option.all_eq_true, areWords_iff] at h
      obtain ⟨⟨⟨hthree, hall⟩, hpreRelease⟩, hbuild⟩ := h
      obtain ⟨major, minor, patch, hpieces⟩ := List.length_eq_three.1 hthree
      obtain ⟨_, _, hjoined⟩ := Text.pieces_eq_iff.1 hpieces
      rw [hpieces] at hall
      refine ⟨⟨major, minor, patch, preRelease, build⟩, ?_, hall, hpreRelease, hbuild⟩
      rw [Fields.toList, Fields.numbers, hjoined, (cut_eq_iff.1 hnumbers).2,
        (cut_eq_iff.1 hfront).2]

theorem isValid_of_spells (h : Spells Text.isDecimalDigit text fields) :
    (Parts.ofText text.toList).isValid = true := by
  rw [ofText_of_spells h]
  simp only [Parts.isValid, Fields.parts, Bool.and_eq_true, List.all_eq_true, isNumber_iff,
    Option.all_eq_true, areWords_iff]
  exact ⟨⟨⟨rfl, h.numbers⟩, h.preRelease⟩, h.build⟩

/-- A text is a version in one way at most. -/
theorem Spells.unique (h : Spells Text.isDecimalDigit text fields)
    (h' : Spells Text.isDecimalDigit text other) : fields = other :=
  Fields.eq_of_parts ((ofText_of_spells h).symm.trans (ofText_of_spells h'))

/-- The versions are the texts of the grammar. -/
theorem isVersion_iff :
    isVersion text = true ↔ ∃ fields, Spells Text.isDecimalDigit text fields :=
  ⟨exists_spells_of_isValid, fun ⟨_, hspells⟩ => isValid_of_spells hspells⟩

/-! ## Versions in ASCII -/

/-- In ASCII there are no decimal digits but `0` to `9`: the other runs of digits begin above it. -/
theorem isDigit_of_isDecimalDigit (h : Text.isDecimalDigit c = true) (hc : c.toNat < 128) :
    c.isDigit = true := by
  obtain ⟨value, hvalue⟩ := Option.isSome_iff_exists.1 h
  obtain ⟨nought, hnought, _⟩ := Option.map_eq_some_iff.1 hvalue
  have hmem := List.mem_of_find?_eq_some hnought
  have hrun : nought ≤ c.toNat ∧ c.toNat < nought + 10 := by
    simpa using List.find?_some hnought
  have hfirst : ∀ nought ∈ Text.zeroDigits, nought = 48 ∨ 128 ≤ nought := by decide
  have hzero : nought = 48 := by
    have hcases := hfirst nought hmem
    omega
  simp only [Char.isDigit, Bool.and_eq_true, decide_eq_true_eq, UInt32.le_iff_toNat_le]
  change 48 ≤ c.toNat ∧ c.toNat ≤ 57
  omega

theorem lt_of_isAlphanum (h : c.isAlphanum = true) : c.toNat < 128 := by
  change ((decide (c.val ≥ 'A'.val ∧ c.val ≤ 'Z'.val) || (c.val ≥ 'a'.val && c.val ≤ 'z'.val)) ||
    (c.val ≥ '0'.val && c.val ≤ '9'.val)) = true at h
  simp only [Bool.or_eq_true, Bool.and_eq_true, decide_eq_true_eq, UInt32.le_iff_toNat_le,
    ge_iff_le] at h
  have hc : c.toNat = c.val.toNat := rfl
  have hZ : 'Z'.val.toNat = 90 := rfl
  have hz : 'z'.val.toNat = 122 := rfl
  have h9 : '9'.val.toNat = 57 := rfl
  omega

theorem Number.mono {wider : Char → Bool} (h : Number digit chars)
    (hdigit : ∀ c ∈ chars, digit c = true → wider c = true) : Number wider chars := by
  cases h with
  | zero => exact .zero
  | positive low high digits =>
    exact .positive low high fun c hc => hdigit c (List.mem_cons_of_mem _ hc) (digits c hc)

theorem Dotted.ascii (h : Dotted chars) : ∀ c ∈ chars, c.toNat < 128 := by
  obtain ⟨words, _, hwords, rfl⟩ := h
  intro c hc
  rcases mem_intercalate hc with rfl | ⟨word, hword, hc⟩
  · decide
  · rcases (hwords word hword).chars c hc with halphanum | rfl
    · exact lt_of_isAlphanum halphanum
    · decide

theorem mem_marked (h : c ∈ marked mark back) : c = mark ∨ ∃ part ∈ back, c ∈ part := by
  cases back with
  | none => cases h
  | some part => simpa [marked] using h

theorem Spells.ascii (h : Spells Char.isDigit text fields) : ∀ c ∈ text.toList, c.toNat < 128 := by
  intro c hc
  rw [h.toList_eq, Fields.toList, List.mem_append, List.mem_append] at hc
  rcases hc with (hnumber | hpart) | hpart
  · rcases mem_intercalate hnumber with rfl | ⟨number, hnumber, hc⟩
    · decide
    · have hdigit : c.isDigit = true := (h.numbers number hnumber).all (fun _ => id) c hc
      exact lt_of_isAlphanum (by simp [Char.isAlphanum, hdigit])
  · rcases mem_marked hpart with rfl | ⟨part, hpart, hc⟩
    · decide
    · exact (h.preRelease part hpart).ascii c hc
  · rcases mem_marked hpart with rfl | ⟨part, hpart, hc⟩
    · decide
    · exact (h.build part hpart).ascii c hc

theorem Fields.mem_toList {number : List Char} (h : number ∈ fields.numbers) (hc : c ∈ number) :
    c ∈ fields.toList := by
  simp only [Fields.numbers, List.mem_cons, List.not_mem_nil, or_false] at h
  simp only [Fields.toList, Fields.numbers, List.intercalate, List.intersperse_cons_cons,
    List.intersperse_singleton, List.flatten_cons, List.flatten_nil, List.mem_append]
  rcases h with rfl | rfl | rfl <;> simp [hc]

/-- The versions with ASCII digits are those in ASCII. -/
theorem spells_isDigit_iff : Spells Char.isDigit text fields ↔
    Spells Text.isDecimalDigit text fields ∧ ∀ c ∈ text.toList, c.toNat < 128 := by
  constructor
  · intro h
    refine ⟨⟨h.toList_eq, fun number hnumber => ?_, h.preRelease, h.build⟩, h.ascii⟩
    exact (h.numbers number hnumber).mono fun _ _ => Text.isDecimalDigit_of_isDigit
  · rintro ⟨h, hascii⟩
    refine ⟨h.toList_eq, fun number hnumber => ?_, h.preRelease, h.build⟩
    refine (h.numbers number hnumber).mono fun c hc hdigit => isDigit_of_isDecimalDigit hdigit ?_
    exact hascii c (h.toList_eq ▸ fields.mem_toList hnumber hc)

end Version

/-! ## Values that are versions -/

namespace Manifest

variable {value : Value} {text : String} {error : ManifestError}

theorem versionOf_ok :
    versionOf value = .ok text ↔ value = .text text ∧ Version.isVersion text = true := by
  unfold versionOf
  split
  · next found =>
    split
    · next hversion =>
      constructor
      · intro h
        cases h
        exact ⟨rfl, hversion⟩
      · rintro ⟨h, _⟩
        cases h
        rfl
    · next hversion =>
      constructor
      · intro h
        cases h
      · rintro ⟨h, hother⟩
        cases h
        exact absurd hother hversion
  · next hother =>
    constructor
    · intro h
      cases h
    · rintro ⟨h, _⟩
      exact absurd h (hother text)

/-- A value that is no version is shown in the error. -/
theorem versionOf_error :
    versionOf value = .error error ↔
      .version value.literal = error ∧ ∀ text, versionOf value ≠ .ok text := by
  unfold versionOf
  split
  · split <;> simp
  · simp

/-- A value is a version exactly when it is a text of the grammar, and then it is given back as it
is; every other value is refused, and the error shows it. The five parts of a version are known from
its text. The numbers can have digits of any script; the versions in ASCII are those that have ASCII
digits only. -/
theorem versionOf_exact (value : Value) :
    (∀ text, versionOf value = .ok text ↔
      value = .text text ∧ ∃! fields, Version.Spells Text.isDecimalDigit text fields) ∧
    (∀ error, versionOf value = .error error ↔
      .version value.literal = error ∧
        ∀ text fields, value = .text text → ¬ Version.Spells Text.isDecimalDigit text fields) ∧
    ∀ text, (value = .text text ∧ ∃! fields, Version.Spells Char.isDigit text fields) ↔
      versionOf value = .ok text ∧ ∀ c ∈ text.toList, c.toNat < 128 := by
  have hunique (text : String) : (∃! fields, Version.Spells Text.isDecimalDigit text fields) ↔
      ∃ fields, Version.Spells Text.isDecimalDigit text fields :=
    ⟨ExistsUnique.exists, fun ⟨fields, h⟩ => ⟨fields, h, fun other hother => hother.unique h⟩⟩
  have haccepts (text : String) : versionOf value = .ok text ↔
      value = .text text ∧ ∃! fields, Version.Spells Text.isDecimalDigit text fields := by
    rw [versionOf_ok, Version.isVersion_iff, hunique]
  refine ⟨haccepts, fun error => ?_, fun text => ?_⟩
  · simp only [versionOf_error, ne_eq, haccepts, hunique, not_and, not_exists]
    exact and_congr_right fun _ => forall_congr' fun text => forall_comm
  · rw [haccepts, and_assoc]
    refine and_congr_right fun _ => ?_
    constructor
    · rintro ⟨fields, h, _⟩
      obtain ⟨hspells, hascii⟩ := Version.spells_isDigit_iff.1 h
      exact ⟨(hunique text).2 ⟨fields, hspells⟩, hascii⟩
    · rintro ⟨⟨fields, hspells, honly⟩, hascii⟩
      refine ⟨fields, Version.spells_isDigit_iff.2 ⟨hspells, hascii⟩, fun other hother => ?_⟩
      exact honly other (Version.spells_isDigit_iff.1 hother).1

/-- The second digit of the second number is Arabic. -/
theorem versionOf_foreign_digit :
    versionOf (.text "1.1٢.0") = .ok "1.1٢.0" ∧
      ¬ ∃ fields, Version.Spells Char.isDigit "1.1٢.0" fields := by
  refine ⟨by decide +kernel, ?_⟩
  rintro ⟨fields, h⟩
  exact absurd (h.ascii '٢' (by decide)) (by decide)

end Manifest

end ModPack
