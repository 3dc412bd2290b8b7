import ModPack.Proofs.TextPieces
import ModPack.Yaml.Cell
import ModPack.Yaml.Written

/-!
# Words in written YAML

A word is made of letters, digits, underscores and dots. It is written as it stands, or between
apostrophes when it would read as something else. Main statements: `Written.writeText_word` and
`Written.writeEntries_word`.
-/
namespace ModPack.Yaml

/-- The characters that mean nothing else wherever they stand behind another one. -/
def isPlainChar (c : Char) : Bool :=
  Name.isNameChar c || c == '.'

theorem ne_of_isPlainChar {c other : Char} (hc : isPlainChar c = true)
    (hother : isPlainChar other = false) : c ≠ other := by
  rintro rfl
  rw [hc] at hother
  cases hother

theorem beq_eq_false_of_isPlainChar {c other : Char} (hc : isPlainChar c = true)
    (hother : isPlainChar other = false) : (c == other) = false :=
  beq_eq_false_iff_ne.2 (ne_of_isPlainChar hc hother)

/-- A text of such characters that does not begin with a dot. -/
structure Word (text : List Char) : Prop where
  ne_nil : text ≠ []
  plain : ∀ c ∈ text, isPlainChar c = true
  head : ∀ c ∈ text.head?, c ≠ '.'

/-- A form that can be computed. -/
theorem Word.of_all {text : List Char} (hnil : text ≠ []) (hplain : text.all isPlainChar = true)
    (hhead : text.head?.all (· != '.') = true) : Word text where
  ne_nil := hnil
  plain := List.all_eq_true.1 hplain
  head := fun c hc => by
    rw [Option.mem_def.1 hc] at hhead
    exact bne_iff_ne.1 hhead

theorem Word.of_fault? {name : String} (h : Name.fault? name = none) : Word name.toList := by
  have hchars := Name.isNameChar_of_fault? h
  refine ⟨?_, fun c hc => ?_, fun c hc => ?_⟩
  · exact fun hnil => Name.ne_empty_of_fault? h (String.toList_eq_nil_iff.1 hnil)
  · rw [isPlainChar, hchars c hc]
    rfl
  · rintro rfl
    exact Name.not_mem_of_fault? h (by decide) (List.mem_of_mem_head? hc)

theorem toNat_of_isPlainChar {c : Char} (h : isPlainChar c = true) :
    0x20 ≤ c.toNat ∧ c.toNat ≤ 0x7E := by
  have hletter : c.isAlpha = (c.isUpper || c.isLower) := rfl
  have hupper : c.isUpper = decide (65 ≤ c.toNat ∧ c.toNat ≤ 90) := rfl
  have hlower : c.isLower = (decide (97 ≤ c.toNat) && decide (c.toNat ≤ 122)) := rfl
  have hdigit : c.isDigit = (decide (48 ≤ c.toNat) && decide (c.toNat ≤ 57)) := rfl
  simp only [isPlainChar, Name.isNameChar, Char.isAlphanum, hletter, hupper, hlower, hdigit,
    Bool.or_eq_true, Bool.and_eq_true, decide_eq_true_eq, beq_iff_eq] at h
  rcases h with (((h | h) | h) | rfl) | rfl
  · omega
  · omega
  · omega
  · decide
  · decide

namespace Written

variable {text : List Char} {pen : Pen} {indent : Nat}

/-! ## Styles -/

theorem mem_of_mem_neighbours {previous before after : Option Char} {c : Char}
    (h : (before, c, after) ∈ neighbours previous text) : c ∈ text := by
  induction text generalizing previous with
  | nil => cases h
  | cons first rest ih =>
    rcases List.mem_cons.1 h with heq | hmem
    · cases heq
      exact List.mem_cons_self
    · exact List.mem_cons_of_mem _ (ih hmem)

/-- What no single place says does not hold of a text at all. -/
theorem any_neighbours_eq_false {p : Option Char × Char × Option Char → Bool}
    (hp : ∀ before c after, c ∈ text → p (before, c, after) = false) (previous : Option Char) :
    (neighbours previous text).any p = false := by
  rw [List.any_eq_false]
  rintro ⟨before, c, after⟩ hmem
  rw [hp before c after (mem_of_mem_neighbours hmem)]
  exact Bool.false_ne_true

theorem isBreak_of_isPlainChar {c : Char} (h : isPlainChar c = true) : isBreak c = false := by
  have hne (other : Char) (hother : isPlainChar other = false) :=
    beq_eq_false_of_isPlainChar h hother
  simp [isBreak, hne '\n' (by decide), hne '\r' (by decide), hne '\x85' (by decide),
    hne '\u2028' (by decide), hne '\u2029' (by decide)]

theorem isPadding_of_isPlainChar {c : Char} (h : isPlainChar c = true) : isPadding c = false := by
  rw [isPadding, isBreak_of_isPlainChar h, beq_eq_false_of_isPlainChar h (by decide)]
  rfl

theorem isMark_of_isPlainChar {previous next : Option Char} {c : Char}
    (h : isPlainChar c = true) : isMark previous c next = false := by
  have hne (other : Char) (hother : isPlainChar other = false) :=
    beq_eq_false_of_isPlainChar h hother
  have hmarks : leadingMarks.all (fun other => !isPlainChar other) = true := by decide
  have hleading : c ∉ leadingMarks := fun hmem => by
    have hnot := List.all_eq_true.1 hmarks c hmem
    rw [h] at hnot
    cases hnot
  cases previous with
  | none => simp [isMark, hleading, hne '?' (by decide), hne ':' (by decide), hne '-' (by decide)]
  | some previous => simp [isMark, hne ':' (by decide), hne '#' (by decide)]

variable (hword : Word text)
include hword

theorem needsEscapes_word : needsEscapes text = false := by
  have hspecial : text.any isSpecial = false := by
    rw [List.any_eq_false]
    intro c hc
    have hrange := toNat_of_isPlainChar (hword.plain c hc)
    simp [isSpecial, hrange.1, hrange.2]
  have hblank : hasBlankAtBreak text = false :=
    any_neighbours_eq_false (fun before c after hc => by
      simp [beq_eq_false_of_isPlainChar (hword.plain c hc) (show isPlainChar ' ' = false from rfl)])
      none
  rw [needsEscapes, hspecial, hblank]
  rfl

theorem hasLines_word : hasLines text = false := by
  rw [hasLines, List.any_eq_false]
  intro c hc
  rw [isBreak_of_isPlainChar (hword.plain c hc)]
  exact Bool.false_ne_true

theorem hasMarks_word : hasMarks text = false := by
  obtain ⟨c, rest, rfl⟩ := List.exists_cons_of_ne_nil hword.ne_nil
  have hplaces : (neighbours none (c :: rest)).any
      (fun place => isMark place.1 place.2.1 place.2.2) = false :=
    any_neighbours_eq_false (fun _ c _ hc => isMark_of_isPlainChar (hword.plain c hc)) none
  have hdot : c ≠ '.' := hword.head c rfl
  have hhyphen : c ≠ '-' := ne_of_isPlainChar (hword.plain c List.mem_cons_self) (by decide)
  simp only [hasMarks, hplaces]
  simp [List.isPrefixOf, Ne.symm hdot, Ne.symm hhyphen]

theorem allowsPlain_word : allowsPlain text = true := by
  have hpadding {c : Option Char} (hc : ∀ first ∈ c, first ∈ text) :
      (c.map isPadding).getD false = false := by
    cases c with
    | none => rfl
    | some first => exact isPadding_of_isPlainChar (hword.plain first (hc first rfl))
  rw [allowsPlain, needsEscapes_word hword, hasLines_word hword, hasMarks_word hword,
    hpadding fun first hfirst => List.mem_of_mem_head? hfirst,
    hpadding fun first hfirst => List.mem_of_mem_getLast? hfirst]
  rfl

/-- A word is written as it stands unless it reads as something other than a text. -/
theorem style_word (onKeyLine : Bool) :
    style onKeyLine (.ofList text) =
      if Plain.kind (.ofList text) = .text then .plain else .single := by
  rw [style]
  simp only [String.toList_ofList, allowsPlain_word hword, needsEscapes_word hword,
    hasLines_word hword, hword.ne_nil]
  simp

omit hword in
theorem put_put (pen : Pen) (front back : String) :
    (pen.put front).put back = pen.put (front ++ back) := by
  simp only [Pen.put, String.append_assoc, String.length_append, Nat.add_assoc]

omit hword in
/-- Characters that are each put as they are make a text that is put as a whole. -/
theorem foldl_put (write : Pen → Option Char × Char × Option Char → Pen)
    (hwrite : ∀ pen before c after, isPlainChar c = true →
      write pen (before, c, after) = pen.put (.singleton c))
    (htext : ∀ c ∈ text, isPlainChar c = true) (previous : Option Char) (pen : Pen) :
    (neighbours previous text).foldl write pen = pen.put (.ofList text) := by
  induction text generalizing previous pen with
  | nil => simp [neighbours, Pen.put]
  | cons c rest ih =>
    obtain ⟨hc, hrest⟩ := List.forall_mem_cons.1 htext
    have hsplit : String.ofList (c :: rest) = .singleton c ++ .ofList rest := by
      rw [← String.toList_inj]
      simp
    rw [neighbours, List.foldl_cons, hwrite _ _ _ _ hc, ih hrest, hsplit, put_put]

omit hword in
theorem plainChar_of_isPlainChar {split : Bool} {before after : Option Char} {c : Char}
    (h : isPlainChar c = true) : plainChar indent split pen (before, c, after) =
      pen.put (.singleton c) := by
  have hblank : c ≠ ' ' := ne_of_isPlainChar h (by decide)
  simp [plainChar, hblank]

omit hword in
theorem singleChar_of_isPlainChar {split : Bool} {before after : Option Char} {c : Char}
    (h : isPlainChar c = true) : singleChar indent split pen (before, c, after) =
      pen.put (.singleton c) := by
  have hbreak : c ≠ '\n' := ne_of_isPlainChar h (by decide)
  have hquote : c ≠ '\'' := ne_of_isPlainChar h (by decide)
  simp [singleChar, hbreak, hquote, plainChar_of_isPlainChar h]

/-- A word as it stands in a written text. -/
def shown (text : List Char) : List Char :=
  if Plain.kind (.ofList text) = .text then text else '\'' :: text ++ ['\'']

/-- Such a text has been written so far, and something other than a blank was last. -/
structure Inked (output : String) (pen : Pen) : Prop where
  output_eq : pen.output = output
  afterBlank : pen.afterBlank = false
  inIndent : pen.inIndent = false

/-- A word comes behind a blank. -/
theorem writeText_word (pen : Pen) (indent : Nat) (onKeyLine : Bool) :
    Inked (pen.output ++ (if pen.afterBlank then "" else " ") ++ .ofList (shown text))
      (writeText pen indent onKeyLine (.ofList text)) := by
  rw [writeText, style_word hword, shown]
  simp only [String.toList_ofList]
  by_cases hkind : Plain.kind (.ofList text) = .text
  · have hput := foldl_put (plainChar indent (!onKeyLine))
      (fun _ _ _ _ => plainChar_of_isPlainChar) hword.plain none
    simp only [hkind, if_true, hput]
    refine ⟨?_, rfl, rfl⟩
    cases hblank : pen.afterBlank <;> simp [Pen.put]
  · have hput := foldl_put (singleChar indent (!onKeyLine))
      (fun _ _ _ _ => singleChar_of_isPlainChar) hword.plain none
    simp only [hkind, if_false, hput]
    refine ⟨?_, rfl, by simp [Pen.mark, Pen.put]⟩
    have hquoted : String.ofList ('\'' :: text ++ ['\'']) = "'" ++ .ofList text ++ "'" := by
      rw [← String.toList_inj]
      simp
    rw [hquoted, ← String.toList_inj]
    cases hblank : pen.afterBlank <;> simp [Pen.mark, Pen.put, hblank]

omit hword in
theorem Inked.mark {output : String} (h : Inked output pen) (text : String) (needsBlank : Bool) :
    Inked (output ++ (if needsBlank then " " else "") ++ text) (pen.mark text needsBlank) := by
  refine ⟨?_, rfl, by simp [Pen.mark, Pen.put]⟩
  cases needsBlank <;> simp [Pen.mark, Pen.put, h.afterBlank, h.output_eq, String.append_assoc]

omit hword in
/-- A mapping without entries stands behind its key. -/
theorem Inked.writeTree_empty {output : String} (h : Inked output pen) (indent : Nat) :
    Inked (output ++ " \x7b\x7d") (writeTree pen indent (.map [])) := by
  refine ⟨?_, rfl, by simp [writeTree, Pen.mark, Pen.put]⟩
  simp [writeTree, Pen.mark, Pen.put, h.afterBlank, h.output_eq, String.append_assoc]

omit hword in
theorem Inked.indentTo {output : String} (h : Inked output pen) :
    pen.indentTo 0 = { output := output.push '\n' } := by
  simp [Pen.indentTo, h.inIndent, Pen.lineBreak, h.output_eq]

/-! ## Entries -/

/-- The line of an entry. -/
def line (key text : List Char) : List Char :=
  shown key ++ ':' :: ' ' :: shown text ++ ['\n']

omit hword in
/-- A key that is a word is written at the start of a line, with a colon behind it. -/
theorem writeKey_word {key : List Char} {output : String} (hkey : Word key)
    (hlength : key.length < maxKeyLength) (hpen : pen.indentTo 0 = { output }) :
    Inked (output ++ .ofList (shown key) ++ ":") (writeKey pen 0 (.ofList key)) := by
  have hline : isLineKey (.ofList key) = true := by
    have hne : String.ofList key ≠ "" := by
      rw [ne_eq, ← String.toList_eq_nil_iff, String.toList_ofList]
      exact hkey.ne_nil
    simp [isLineKey, hlength, hne, hasLines_word hkey]
  have hwritten := writeText_word hkey { output } indentStep true
  have hmarked := hwritten.mark ":" false
  rw [writeKey, hpen, if_pos hline]
  simpa using hmarked

/-- The word of an entry stands behind its key. -/
theorem writeEntries_word {key : List Char} {output : String} (hkey : Word key)
    (hlength : key.length < maxKeyLength) (hpen : pen.indentTo 0 = { output })
    (rest : List (String × Tree)) :
    ∃ next, writeEntries pen 0 ((.ofList key, .text (.ofList text)) :: rest) =
        writeEntries next 0 rest ∧
      next.indentTo 0 = { output := output ++ .ofList (line key text) } := by
  have hwritten := writeText_word hword (writeKey pen 0 (.ofList key)) (0 + indentStep) false
  have hbefore := writeKey_word hkey hlength hpen
  rw [writeEntries, writeTree]
  refine ⟨_, rfl, ?_⟩
  rw [hwritten.indentTo, hbefore.output_eq, hbefore.afterBlank]
  have hline : String.ofList (line key text) =
      .ofList (shown key) ++ ":" ++ " " ++ .ofList (shown text) ++ "\n" := by
    rw [← String.toList_inj]
    simp [line]
  rw [hline]
  exact congrArg (fun output => ({ output } : Pen)) (String.toList_inj.1 (by simp))

end Written

end ModPack.Yaml
