import ModPack.Proofs.HexText
import ModPack.Proofs.ScriptDumps

/-!
# The grammar of headers

The header of a named string begins with a mark, a section that has no colon, and `:(`. Its name
reaches to the last closing parenthesis, and whatever is behind that has no part in the string. A
text is a header in one way at most, so the grammar tells what a block is. Main statements:
`headerParts?_eq_some`, `bankOf?_eq_some` and `classify_exact`.
-/
namespace ModPack

namespace Block

variable {text bank name rest : String} {number : Nat}

/-- The parts of a header: its section, its name, and what is behind the parenthesis that closes
the name. -/
structure Parts (text bank name rest : String) : Prop where
  text_eq : text = "#string:" ++ bank ++ ":(" ++ name ++ ")" ++ rest
  colon : ':' ∉ bank.toList
  parenthesis : ')' ∉ rest.toList

/-- The section is a number in two hexadecimal digits of either case. -/
def Digits (bank : String) (number : Nat) : Prop :=
  ∃ first second high low, bank.toList = [first, second] ∧ Hex.digitValue? first = some high ∧
    Hex.digitValue? second = some low ∧ number = 16 * high + low

/-! ## Characters of a header -/

theorem toList_header (bank name rest : String) :
    ("#string:" ++ bank ++ ":(" ++ name ++ ")" ++ rest).toList =
      headerMark ++ (bank.toList ++ ':' :: '(' :: (name.toList ++ ')' :: rest.toList)) := by
  have hmark : headerMark = "#string:".toList := rfl
  have hopening : ":(".toList = [':', '('] := by decide
  have hclosing : ")".toList = [')'] := by decide
  simp only [String.toList_append, ← hmark, hopening, hclosing, List.append_assoc,
    List.cons_append, List.nil_append]

/-! ## Parts -/

/-- Reading a header gives its parts: the section is what is before the first colon, the name what
is before the last closing parenthesis. -/
theorem headerParts?_eq_some :
    headerParts? text = some (bank, name) ↔ ∃ rest, Parts text bank name rest := by
  unfold headerParts?
  constructor
  · intro h
    obtain ⟨_, hguard, h⟩ := Option.bind_eq_some_iff.1 h
    have hmark : headerMark <+: text.toList := by simpa [guard] using hguard
    obtain ⟨tail, htail⟩ := hmark
    rw [← htail, List.drop_left] at h
    dsimp only at h
    split at h
    · next named hnamed =>
      obtain ⟨front, _, hcolon, hfront, rfl⟩ := Text.exists_first_of_dropWhile hnamed
      rw [hfront] at h
      split at h
      · cases h
      · next last back hlast =>
        obtain ⟨behind, _, hparenthesis, _, hbehind⟩ := Text.exists_first_of_dropWhile hlast
        cases h
        refine ⟨.ofList behind.reverse, ?_, by simpa using hcolon, by simpa using hparenthesis⟩
        have hnamed : named = back.reverse ++ ')' :: behind.reverse := by
          rw [← List.reverse_reverse named, hbehind]
          simp
        rw [← String.toList_inj, toList_header, ← htail, hnamed]
        simp
    · cases h
  · rintro ⟨rest, htext, hcolon, hparenthesis⟩
    have hmark : headerMark.isPrefixOf text.toList = true := by
      rw [htext, toList_header, List.isPrefixOf_iff_prefix]
      exact List.prefix_append _ _
    have hbank := Text.span_ne hcolon ('(' :: (name.toList ++ ')' :: rest.toList))
    have hname := Text.span_ne (mt List.mem_reverse.1 hparenthesis) name.toList.reverse
    have hreverse : (name.toList ++ ')' :: rest.toList).reverse =
        rest.toList.reverse ++ ')' :: name.toList.reverse := by simp
    rw [htext, toList_header] at hmark ⊢
    simp only [hmark, List.drop_left, hbank, hreverse, hname]
    simp [guard]

theorem headerParts?_eq_none :
    headerParts? text = none ↔ ∀ bank name rest, ¬ Parts text bank name rest := by
  rw [Option.eq_none_iff_forall_ne_some]
  constructor
  · intro h bank name rest hparts
    exact h _ (headerParts?_eq_some.2 ⟨rest, hparts⟩)
  · rintro h ⟨bank, name⟩ hparts
    obtain ⟨rest, hparts⟩ := headerParts?_eq_some.1 hparts
    exact h bank name rest hparts

/-- A text is a header in one way at most. -/
theorem Parts.unique {bank' name' rest' : String} (h : Parts text bank name rest)
    (h' : Parts text bank' name' rest') : bank = bank' ∧ name = name' ∧ rest = rest' := by
  have hread := headerParts?_eq_some.2 ⟨rest, h⟩
  rw [headerParts?_eq_some.2 ⟨rest', h'⟩] at hread
  cases hread
  have htext := congrArg String.toList (h.text_eq.symm.trans h'.text_eq)
  simp only [toList_header, List.append_cancel_left_eq, List.cons.injEq, true_and] at htext
  exact ⟨rfl, rfl, String.toList_inj.1 htext⟩

/-- A header ends with a parenthesis when nothing is behind the one that closes the name. -/
theorem Parts.getLast?_eq_iff (h : Parts text bank name rest) :
    text.toList.getLast? = some ')' ↔ rest = "" := by
  have hback : text.toList.getLast? = some (rest.toList.getLast?.getD ')') := by
    have hfront : text.toList =
        (headerMark ++ (bank.toList ++ ':' :: '(' :: name.toList)) ++ ')' :: rest.toList := by
      rw [h.text_eq, toList_header]
      simp
    rw [hfront, List.getLast?_append_of_ne_nil _ (List.cons_ne_nil _ _), List.getLast?_cons]
  rw [hback, Option.some.injEq]
  constructor
  · intro hlast
    cases hrest : rest.toList.getLast? with
    | none => exact String.toList_eq_nil_iff.1 (List.getLast?_eq_none_iff.1 hrest)
    | some c =>
      rw [hrest, Option.getD_some] at hlast
      exact absurd (hlast ▸ List.mem_of_getLast? hrest) h.parenthesis
  · rintro rfl
    rfl

/-! ## Sections -/

theorem bankOf?_eq_some : bankOf? bank = some number ↔ Digits bank number := by
  have hlength : bank.length = bank.toList.length := String.length_toList.symm
  unfold bankOf? Digits
  rw [hlength]
  constructor
  · intro h
    split at h
    · next htwo =>
      obtain ⟨first, second, hchars⟩ := List.length_eq_two.1 htwo
      rw [hchars] at h
      obtain ⟨high, hhigh, h⟩ := Option.bind_eq_some_iff.1 h
      obtain ⟨low, hlow, h⟩ := Option.bind_eq_some_iff.1 h
      obtain ⟨high, hfirst, rfl⟩ := Option.map_eq_some_iff.1 hhigh
      obtain ⟨low, hsecond, rfl⟩ := Option.map_eq_some_iff.1 hlow
      refine ⟨first, second, high, low, hchars, hfirst, hsecond, ?_⟩
      simpa using (Option.some.inj h).symm
    · cases h
  · rintro ⟨first, second, high, low, hchars, hfirst, hsecond, rfl⟩
    rw [hchars]
    simp [Hex.value?, hfirst, hsecond]

theorem bankOf?_eq_none : bankOf? bank = none ↔ ∀ number, ¬ Digits bank number := by
  simp only [Option.eq_none_iff_forall_ne_some, ne_eq, bankOf?_eq_some]

theorem Digits.unique {number' : Nat} (h : Digits bank number) (h' : Digits bank number') :
    number = number' := by
  have hread := bankOf?_eq_some.2 h
  rw [bankOf?_eq_some.2 h'] at hread
  exact (Option.some.inj hread).symm

/-! ## Kinds -/

theorem kindOf?_eq_some_namedString :
    kindOf? text = some (.namedString number name) ↔
      ∃ bank rest, Parts text bank name rest ∧ Digits bank number := by
  unfold kindOf?
  cases hparts : headerParts? text with
  | none =>
    have hnone := headerParts?_eq_none.1 hparts
    simp [hnone]
  | some parts =>
    obtain ⟨bank, found⟩ := parts
    obtain ⟨rest, h⟩ := headerParts?_eq_some.1 hparts
    simp only [Option.map_eq_some_iff, bankOf?_eq_some, BlockKind.namedString.injEq]
    constructor
    · rintro ⟨_, hnumber, rfl, rfl⟩
      exact ⟨bank, rest, h, hnumber⟩
    · rintro ⟨bank', rest', h', hnumber⟩
      obtain ⟨rfl, rfl, _⟩ := h.unique h'
      exact ⟨number, hnumber, rfl, rfl⟩

theorem kindOf?_eq_some_other :
    kindOf? text = some .other ↔ ∀ bank name rest, ¬ Parts text bank name rest := by
  rw [← headerParts?_eq_none]
  unfold kindOf?
  cases headerParts? text <;> simp

section Classification

variable {path : Path} {header : Line} {rest : List Line} {error : LoadError}

/-- A header is garbled when its section is not two hexadecimal digits. -/
inductive Garbled (path : Path) (header : Line) : LoadError → Prop
  | badSection {bank name rest : String} (parts : Parts header.text bank name rest)
      (digits : ∀ number, ¬ Digits bank number) :
      Garbled path header (.badSection path header.number bank)

theorem classify_error :
    (classify path header rest).result = .error error ↔ Garbled path header error := by
  constructor
  · intro h
    unfold classify at h
    split at h
    · cases h
    · next bank name hparts =>
      obtain ⟨rest, hparts⟩ := headerParts?_eq_some.1 hparts
      split at h
      · next hbank =>
        cases h
        exact .badSection hparts (bankOf?_eq_none.1 hbank)
      · cases h
  · rintro ⟨hparts, hdigits⟩
    unfold classify
    rw [headerParts?_eq_some.2 ⟨_, hparts⟩]
    dsimp only
    rw [bankOf?_eq_none.2 hdigits]
    rfl

/-- A section is known without its name: of the parentheses behind it the last one closes the
name. -/
theorem exists_parts_iff :
    (∃ name rest, Parts text bank name rest) ↔
      ':' ∉ bank.toList ∧
        ∃ name rest, text = "#string:" ++ bank ++ ":(" ++ name ++ ")" ++ rest := by
  constructor
  · rintro ⟨name, rest, htext, hcolon, _⟩
    exact ⟨hcolon, name, rest, htext⟩
  · rintro ⟨hcolon, name, rest, htext⟩
    have hmem : ')' ∈ (name.toList ++ ')' :: rest.toList).reverse := by simp
    obtain ⟨behind, front, hreverse, hbehind⟩ := List.eq_append_cons_of_mem hmem
    have hlast : name.toList ++ ')' :: rest.toList = front.reverse ++ ')' :: behind.reverse := by
      rw [← List.reverse_inj, hreverse]
      simp
    refine ⟨.ofList front.reverse, .ofList behind.reverse, ?_, hcolon, by simpa using hbehind⟩
    rw [← String.toList_inj, htext, toList_header, hlast, toList_header]
    simp

/-- What a header is. It defines a named string when its section is two hexadecimal digits and its
name reaches to the last closing parenthesis, is refused when it has a section that is not two such
digits, and is any other block when it is not of that form; so these exclude each other. The section
and the name are known from the text. -/
theorem classify_exact (path : Path) (header : Line) (rest : List Line) :
    (∀ number name, (classify path header rest).result =
        .ok ⟨header, rest, .namedString number name⟩ ↔
      ∃ bank behind, Parts header.text bank name behind ∧ Digits bank number) ∧
    (∀ error, (classify path header rest).result = .error error ↔
      ∃ bank word behind, header.text = "#string:" ++ bank ++ ":(" ++ word ++ ")" ++ behind ∧
        ':' ∉ bank.toList ∧ (∀ number, ¬ Digits bank number) ∧
        .badSection path header.number bank = error) ∧
    ((classify path header rest).result = .ok ⟨header, rest, .other⟩ ↔
      ∀ bank word behind, header.text = "#string:" ++ bank ++ ":(" ++ word ++ ")" ++ behind →
        ':' ∈ bank.toList) ∧
    (∀ block, (classify path header rest).result = .ok block →
      ∃ kind, ⟨header, rest, kind⟩ = block) ∧
    ∀ bank name behind, Parts header.text bank name behind →
      ∀ bank' name' behind', Parts header.text bank' name' behind' →
        bank = bank' ∧ name = name' ∧ behind = behind' := by
  have hkind (kind : BlockKind) : (classify path header rest).result = .ok ⟨header, rest, kind⟩ ↔
      kindOf? header.text = some kind := by
    rw [classify_ok]
    simp
  refine ⟨fun number name => ?_, fun error => ?_, ?_, fun block hblock => ?_,
    fun _ _ _ h _ _ _ h' => h.unique h'⟩
  · rw [hkind, kindOf?_eq_some_namedString]
  · rw [classify_error]
    constructor
    · intro h
      cases h with
      | @badSection bank name behind parts digits =>
        exact ⟨bank, name, behind, parts.text_eq, parts.colon, digits, rfl⟩
    · rintro ⟨bank, word, behind, htext, hcolon, hdigits, rfl⟩
      obtain ⟨_, _, hparts⟩ := exists_parts_iff.2 ⟨hcolon, word, behind, htext⟩
      exact .badSection hparts hdigits
  · rw [hkind, kindOf?_eq_some_other]
    constructor
    · intro hnone bank word behind htext
      by_contra hcolon
      obtain ⟨_, _, hparts⟩ := exists_parts_iff.2 ⟨hcolon, word, behind, htext⟩
      exact hnone _ _ _ hparts
    · intro hcolons bank name behind hparts
      exact hparts.colon (hcolons bank name behind hparts.text_eq)
  · obtain ⟨kind, _, hblock⟩ := classify_ok.1 hblock
    exact ⟨kind, hblock⟩

end Classification

end Block

end ModPack
