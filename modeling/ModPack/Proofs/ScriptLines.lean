import ModPack.Proofs.TextPieces
import ModPack.Script

/-!
# The lines of a script

Stripping comments lets no mark of a comment and no line end into a line, and it only cuts a text
that has neither comments nor carriage returns. A line that is trimmed is not trimmed further, so
reading leaves a settled line as it is. Main statements: `strip_inert`, `strip_eq_splitAt` and
`texts_trimmedLines`.
-/
namespace ModPack

/-! ## Trimming -/

namespace Text

variable {text : List Char} {c : Char}

theorem dropWhile_of_head? {p : Char → Bool} (h : ∀ c ∈ text.head?, p c = false) :
    text.dropWhile p = text := by
  cases text with
  | nil => rfl
  | cons first rest =>
    rw [List.dropWhile_cons, h first rfl]
    rfl

theorem isBlank_head?_trimChars (h : (trimChars text).head? = some c) : isBlank c = false := by
  have hfront : trimChars text <+: text.dropWhile isBlank := by
    rw [← List.reverse_suffix, trimChars, List.reverse_reverse]
    exact List.dropWhile_suffix _
  obtain ⟨back, hback⟩ := hfront
  have hfirst : (text.dropWhile isBlank).head? = some c := by
    rw [← hback, List.head?_append, h]
    rfl
  have hdrop := List.head?_dropWhile_not isBlank text
  rw [hfirst] at hdrop
  exact hdrop

/-- A text without blanks at its ends is not trimmed. -/
theorem trimChars_eq_self (hhead : ∀ c ∈ text.head?, isBlank c = false)
    (hlast : ∀ c ∈ text.getLast?, isBlank c = false) : trimChars text = text := by
  have hreverse : ∀ c ∈ text.reverse.head?, isBlank c = false := by
    rwa [List.head?_reverse]
  rw [trimChars, dropWhile_of_head? hhead, dropWhile_of_head? hreverse, List.reverse_reverse]

theorem mem_of_mem_trimChars (h : c ∈ trimChars text) : c ∈ text := by
  rw [trimChars, List.mem_reverse] at h
  have hback := (List.dropWhile_sublist _).mem h
  exact (List.dropWhile_sublist _).mem (List.mem_reverse.1 hback)

/-- A text of lines that are all ended is cut into them, and nothing is behind the last one. -/
theorem pieces_lines {separator : Char} {lines : List (List Char)}
    (h : ∀ line ∈ lines, separator ∉ line) :
    pieces separator (lines.flatMap (· ++ [separator])) = lines ++ [[]] := by
  induction lines with
  | nil => rfl
  | cons line lines ih =>
    obtain ⟨hline, hrest⟩ := List.forall_mem_cons.1 h
    rw [List.flatMap_cons, List.append_assoc, List.singleton_append, pieces_append_cons _ hline,
      ih hrest]
    rfl

end Text

/-! ## Stripping -/

namespace Comment

variable {c : Char} {source : String}

/-- The character is no mark of a comment and ends no line. -/
def isInert (c : Char) : Bool :=
  c ≠ '%' && c ≠ '\r' && c ≠ '\n'

namespace Stripper

variable {s : Stripper}

/-- What has been kept so far is inert. -/
structure Clean (s : Stripper) : Prop where
  current : ∀ c ∈ s.current, isInert c = true
  lines : ∀ line ∈ s.lines, ∀ c ∈ line.text.toList, isInert c = true

theorem Clean.endLine (h : s.Clean) : s.endLine.Clean where
  current := by
    intro c hc
    cases hc
  lines := by
    intro line hline
    rcases List.mem_cons.1 hline with rfl | hline
    · intro c hc
      rw [String.toList_ofList, List.mem_reverse] at hc
      exact h.current c hc
    · exact h.lines line hline

theorem Clean.append (h : s.Clean) (hc : isInert c = true) : (s.append c).Clean where
  current := List.forall_mem_cons.2 ⟨hc, h.current⟩
  lines := h.lines

theorem Clean.openBlock (h : s.Clean) : s.openBlock.Clean where
  current := fun c hc => h.current c (List.mem_of_mem_tail hc)
  lines := h.lines

theorem Clean.openLine (h : s.Clean) : s.openLine.Clean := by
  unfold Stripper.openLine
  dsimp only
  split
  · refine ⟨fun c hc => ?_, h.lines⟩
    cases hc
  · exact ⟨h.endLine.current, h.endLine.lines⟩

/-- Every character keeps it so: the marks themselves are never kept. -/
theorem Clean.step (h : s.Clean) (c : Char) : (s.step c).Clean := by
  unfold Stripper.step
  split
  · exact h
  next hreturn =>
  split
  · split
    · exact ⟨h.current, h.lines⟩
    · exact ⟨h.current, h.lines⟩
  · exact ⟨h.current, h.lines⟩
  · split
    · split
      · exact h.openBlock
      · exact ⟨h.openLine.current, h.openLine.lines⟩
    next hmark =>
    split
    · exact ⟨h.endLine.current, h.endLine.lines⟩
    next hend =>
    have hc : isInert c = true := by simp [isInert, hmark, hreturn, hend]
    exact ⟨(h.append hc).current, (h.append hc).lines⟩

theorem Clean.foldl (h : s.Clean) (text : List Char) : (text.foldl Stripper.step s).Clean := by
  induction text generalizing s with
  | nil => exact h
  | cons c rest ih => exact ih (h.step c)

/-- Outside of comments a text without marks is cut at its line ends. The first piece goes on with
what has been read of its line. -/
theorem finish_foldl {text piece : List Char} {more : List (List Char)}
    (h : ∀ c ∈ text, c ≠ '%' ∧ c ≠ '\r') (hmode : s.mode = .text)
    (hpieces : Text.pieces '\n' text = piece :: more) :
    (text.foldl Stripper.step s).finish.map (·.text.toList) =
      s.lines.reverse.map (·.text.toList) ++ (s.current.reverse ++ piece) :: more := by
  induction text generalizing s piece more with
  | nil =>
    cases hpieces
    simp [finish, Stripper.endLine]
  | cons c rest ih =>
    obtain ⟨⟨hmark, hreturn⟩, hrest⟩ := List.forall_mem_cons.1 h
    obtain ⟨next, others, hnext⟩ := List.exists_cons_of_ne_nil (Text.pieces_ne_nil '\n' rest)
    rw [Text.pieces, hnext] at hpieces
    by_cases hend : c = '\n'
    · have hstep : s.step c = s.endLine.pass c := by
        simp [Stripper.step, hmode, hend]
      rw [if_pos hend] at hpieces
      cases hpieces
      rw [List.foldl_cons, hstep, ih (s := s.endLine.pass c) hrest hmode hnext]
      simp [Stripper.endLine, Stripper.pass]
    · have hstep : s.step c = (s.append c).pass c := by
        simp [Stripper.step, hreturn, hmode, hmark, hend]
      rw [if_neg hend] at hpieces
      cases hpieces
      rw [List.foldl_cons, hstep, ih (s := (s.append c).pass c) hrest hmode hnext]
      simp [Stripper.append, Stripper.pass]

end Stripper

/-- No mark of a comment and no line end gets into a line. -/
theorem strip_inert {line : Line} (h : line ∈ strip source) : ∀ c ∈ line.text.toList,
    isInert c = true := by
  have hstart : Stripper.Clean {} := by constructor <;> simp
  exact (hstart.foldl source.toList).endLine.lines line (List.mem_reverse.1 h)

/-- Stripping cuts a text that has no marks at its line ends, and does nothing else. -/
theorem strip_eq_splitAt (h : ∀ c ∈ source.toList, c ≠ '%' ∧ c ≠ '\r') :
    (strip source).map (·.text) = Text.splitAt '\n' source := by
  obtain ⟨piece, more, hpieces⟩ :=
    List.exists_cons_of_ne_nil (Text.pieces_ne_nil '\n' source.toList)
  have hlists := Stripper.finish_foldl (s := {}) h rfl hpieces
  rw [Text.splitAt, hpieces]
  have hback := congrArg (List.map String.ofList) hlists
  simpa [List.map_map, Function.comp_def, strip] using hback

end Comment

/-! ## Settled lines -/

/-- A line that reading leaves as it is: something that neither begins nor ends with a blank,
without marks of comments and line ends. -/
structure Settled (text : List Char) : Prop where
  ne_nil : text ≠ []
  head : ∀ c ∈ text.head?, Text.isBlank c = false
  last : ∀ c ∈ text.getLast?, Text.isBlank c = false
  inert : ∀ c ∈ text, Comment.isInert c = true

namespace Settled

variable {text : List Char} {c : Char}

theorem trimChars_eq (h : Settled text) : Text.trimChars text = text :=
  Text.trimChars_eq_self h.head h.last

theorem ne_of_mem (h : Settled text) (hc : c ∈ text) : c ≠ '%' ∧ c ≠ '\r' ∧ c ≠ '\n' := by
  simpa [Comment.isInert, and_assoc] using h.inert c hc

/-- A trimmed line is settled unless nothing is left of it. -/
theorem of_trimmedLines {source : String} {line : Line} (h : line ∈ Script.trimmedLines source)
    (hne : line.text ≠ "") : Settled line.text.toList := by
  obtain ⟨stripped, hstripped, rfl⟩ := List.mem_map.1 h
  have htext : (Text.trim stripped.text).toList = Text.trimChars stripped.text.toList := by
    rw [Text.trim, String.toList_ofList]
  refine ⟨mt String.toList_eq_nil_iff.1 hne, ?_, ?_, ?_⟩
  · intro c hc
    rw [htext] at hc
    exact Text.isBlank_head?_trimChars hc
  · intro c hc
    rw [htext] at hc
    exact Text.isBlank_getLast?_trimChars hc
  · intro c hc
    rw [htext] at hc
    exact Comment.strip_inert hstripped c (Text.mem_of_mem_trimChars hc)

end Settled

/-- Reading a text without marks cuts it into lines and trims them. -/
theorem Script.texts_trimmedLines {source : String}
    (h : ∀ c ∈ source.toList, c ≠ '%' ∧ c ≠ '\r') :
    (trimmedLines source).map (·.text) = (Text.splitAt '\n' source).map Text.trim := by
  rw [← Comment.strip_eq_splitAt h, trimmedLines, List.map_map, List.map_map]
  rfl

end ModPack
