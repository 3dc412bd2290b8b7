import ModPack.Text.Blank

/-!
# Text on a terminal

Reports go to a terminal, which gives some characters a meaning of their own: a code between two
colons is shown as a symbol, a tab goes to the next multiple of eight columns, and other characters
that would move the cursor are left out. Main statement: a text without colons and control
characters is shown as it is.
-/
namespace ModPack.Terminal

/-- The symbols whose codes are numbers. A line number in a message stands between colons too. -/
def symbolOf? (code : List Char) : Option Char :=
  [("100", '💯'), ("1234", '🔢'), ("+1", '👍'), ("-1", '👎')].lookup (String.ofList code)

/-- A character that may stand in a code. -/
def isCodeChar (c : Char) : Bool :=
  c != ':' && !Text.isBlank c

/-- The text with symbols for codes. A pair of colons around anything else stays. -/
def withSymbols (text : List Char) : List Char :=
  match text with
  | [] => []
  | ':' :: rest =>
    match _ : rest.dropWhile isCodeChar with
    | ':' :: after =>
      let code := rest.takeWhile isCodeChar
      let shown := match symbolOf? code with
        | some symbol => [symbol]
        | none => ':' :: code ++ [':']
      shown ++ withSymbols after
    | _ => ':' :: withSymbols rest
  | c :: rest => c :: withSymbols rest
termination_by text.length
decreasing_by
  · next hdrop =>
    have := (List.dropWhile_suffix (l := rest) isCodeChar).length_le
    rw [hdrop] at this
    simp only [List.length_cons] at *
    omega
  · exact Nat.lt_succ_self _
  · exact Nat.lt_succ_self _

/-- The bell and the controls that go back or down. -/
def movesCursor (c : Char) : Bool :=
  c.toNat = 7 || c.toNat = 8 || c.toNat = 11 || c.toNat = 12 || c.toNat = 13

/-- The text from a column on, with blanks for tabs. -/
def lineUp (column : Nat) : List Char → List Char
  | [] => []
  | '\n' :: rest => '\n' :: lineUp 0 rest
  | '\t' :: rest =>
    let width := 8 - column % 8
    List.replicate width ' ' ++ lineUp (column + width) rest
  | c :: rest => if movesCursor c then lineUp column rest else c :: lineUp (column + 1) rest

/-- A text as a terminal shows it. -/
def shown (text : String) : String :=
  .ofList (lineUp 0 (withSymbols text.toList))

/-- Neither a colon nor a control character. -/
def isPlain (c : Char) : Bool :=
  0x20 ≤ c.toNat && c != ':'

theorem withSymbols_of_isPlain {text : List Char} (h : text.all isPlain = true) :
    withSymbols text = text := by
  induction text with
  | nil => simp [withSymbols]
  | cons c rest ih =>
    rw [List.all_cons, Bool.and_eq_true] at h
    have hc : c ≠ ':' := by
      rintro rfl
      exact absurd h.1 (by decide)
    rw [withSymbols, ih h.2]
    exact hc

theorem lineUp_of_isPlain {text : List Char} (h : text.all isPlain = true) (column : Nat) :
    lineUp column text = text := by
  induction text generalizing column with
  | nil => rfl
  | cons c rest ih =>
    rw [List.all_cons, Bool.and_eq_true] at h
    have hcode : 0x20 ≤ c.toNat := by
      have := h.1
      rw [isPlain, Bool.and_eq_true, decide_eq_true_eq] at this
      exact this.1
    have hmoves : movesCursor c = false := by
      simp only [movesCursor, Bool.or_eq_false_iff, decide_eq_false_iff_not]
      omega
    have hbreak : c ≠ '\n' := by
      rintro rfl
      exact absurd hcode (by decide)
    have htab : c ≠ '\t' := by
      rintro rfl
      exact absurd hcode (by decide)
    rw [lineUp, if_neg (by simp [hmoves]), ih h.2]
    · exact hbreak
    · exact htab

theorem shown_of_isPlain {text : String} (h : text.toList.all isPlain = true) :
    shown text = text := by
  rw [shown, withSymbols_of_isPlain h, lineUp_of_isPlain h, String.ofList_toList]

end ModPack.Terminal
