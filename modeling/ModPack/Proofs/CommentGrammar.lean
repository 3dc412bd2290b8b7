import Mathlib.Data.List.Forall2
import ModPack.Proofs.ScriptLines

/-!
# The grammar of comments

Stripping decides about a mark by the character before it. The grammar looks ahead instead: it tells
what a text gives by what its next characters are. Both read the same lines of every source; the
characters may carry whatever else is known of them, such as the source lines they are on. Main
statements: `Tracks.exists_lines` and `texts_of_strip`.
-/
namespace ModPack.Comment

/-! ## Reading ahead -/

section Grammar

variable {α : Type} (char : α → Char)

/-- What is behind the first end of a block comment; nothing if there is none. -/
def behindBlock : List α → List α
  | first :: second :: rest =>
    if char first = '%' ∧ char second = '/' then rest else behindBlock (second :: rest)
  | _ => []

/-- What is behind the first line end; nothing if there is none. -/
def behindLine : List α → List α
  | [] => []
  | first :: rest => if char first = '\n' then rest else behindLine rest

theorem behindBlock_suffix (text : List α) : behindBlock char text <:+ text := by
  fun_induction behindBlock char text with
  | case1 first second rest h => exact ⟨[first, second], rfl⟩
  | case2 first second rest h ih => exact ih.trans (List.suffix_cons _ _)
  | case3 text h => exact List.nil_suffix

theorem behindLine_suffix (text : List α) : behindLine char text <:+ text := by
  induction text with
  | nil => exact List.nil_suffix
  | cons first rest ih =>
    rw [behindLine]
    split
    · exact List.suffix_cons _ _
    · exact ih.trans (List.suffix_cons _ _)

/-- The lines of a text without carriage returns, where `line` is what has been read of the first
one. A slash and a percent sign open a block comment, which is left out. Any other percent sign
opens a line comment, which is left out with its line end; it ends a line that is not blank, and
takes a blank one away. -/
def linesFrom (line : List α) (text : List α) : List (List α) :=
  match text with
  | [] => [line]
  | first :: rest =>
    if char first = '/' ∧ rest.head?.map char = some '%' then
      linesFrom line (behindBlock char rest.tail)
    else if char first = '%' then
      if line.all fun mark => Text.isBlank (char mark) then linesFrom [] (behindLine char rest)
      else line :: linesFrom [] (behindLine char rest)
    else if char first = '\n' then line :: linesFrom [] rest
    else linesFrom (line ++ [first]) rest
termination_by text.length
decreasing_by
  · have hbehind := (behindBlock_suffix char rest.tail).length_le
    simp only [List.length_tail, List.length_cons] at hbehind ⊢
    omega
  · exact Nat.lt_succ_of_le (behindLine_suffix char rest).length_le
  · exact Nat.lt_succ_of_le (behindLine_suffix char rest).length_le
  · exact Nat.lt_succ_self _
  · exact Nat.lt_succ_self _

end Grammar

/-! ## Steps of the reader -/

namespace Stripper

variable {s : Stripper} {c : Char}

theorem step_block (hmode : s.mode = .block) (hreturn : c ≠ '\r') :
    s.step c = if c = '/' ∧ s.previous = some '%' then { s with mode := .text, previous := none }
      else s.pass c := by
  simp [step, hmode, hreturn]

theorem step_line (hmode : s.mode = .line) (hreturn : c ≠ '\r') :
    s.step c = ({ s with mode := if c = '\n' then .text else .line } : Stripper).pass c := by
  simp [step, hmode, hreturn]

theorem step_mark (hmode : s.mode = .text) :
    s.step '%' = if s.previous = some '/' then s.openBlock else s.openLine.pass '%' := by
  simp [step, hmode]

theorem step_end (hmode : s.mode = .text) : s.step '\n' = s.endLine.pass '\n' := by
  simp [step, hmode]

theorem step_inert (hmode : s.mode = .text) (hc : isInert c = true) :
    s.step c = (s.append c).pass c := by
  simp only [isInert, Bool.and_eq_true, decide_eq_true_eq] at hc
  simp [step, hmode, hc]

theorem number_openLine (s : Stripper) : s.openLine.number = s.number := by
  unfold openLine
  dsimp only
  split <;> rfl

/-- Line ends are counted wherever they are. -/
theorem number_step (hreturn : c ≠ '\r') :
    (s.step c).number = if c = '\n' then s.number + 1 else s.number := by
  unfold step
  rw [if_neg hreturn]
  split
  · split
    · next hclose => simp [hclose.1]
    · rfl
  · rfl
  · split
    · next hmark =>
      subst hmark
      split
      · rfl
      · exact number_openLine s
    · split
      · next hend => simp [pass, endLine, hend]
      · next hend => simp [pass, append, hend]

/-- What has been read of lines is the same. -/
structure Keeps (s s' : Stripper) : Prop where
  lines : s'.lines = s.lines
  current : s'.current = s.current
  start : s'.start = s.start

theorem Keeps.trans {s s' s'' : Stripper} (h : s.Keeps s') (h' : s'.Keeps s'') : s.Keeps s'' :=
  ⟨h'.lines.trans h.lines, h'.current.trans h.current, h'.start.trans h.start⟩

/-- Nothing is read inside of a comment. -/
theorem keeps_step (hmode : s.mode ≠ .text) (c : Char) : s.Keeps (s.step c) := by
  by_cases hreturn : c = '\r'
  · simp only [step, if_pos hreturn]
    exact ⟨rfl, rfl, rfl⟩
  cases hblock : s.mode with
  | text => exact absurd hblock hmode
  | line =>
    rw [step_line hblock hreturn]
    exact ⟨rfl, rfl, rfl⟩
  | block =>
    rw [step_block hblock hreturn]
    split <;> exact ⟨rfl, rfl, rfl⟩

end Stripper

/-! ## The reader and the grammar -/

section Tracking

variable {α : Type} {char : α → Char} {row : α → Nat} {s : Stripper} {line text rest : List α}
  {first second : α}

variable (char row) in
/-- The text has no carriage returns, and it is told for each character which line of the source it
is on; the first one is on the line with the number. -/
def Numbered (number : Nat) : List α → Prop
  | [] => True
  | first :: rest =>
    char first ≠ '\r' ∧ row first = number ∧
      Numbered (if char first = '\n' then number + 1 else number) rest

theorem Numbered.step (h : Numbered char row s.number (first :: rest)) :
    Numbered char row (s.step (char first)).number rest := by
  obtain ⟨hreturn, _, hrest⟩ := h
  rwa [Stripper.number_step hreturn]

variable (char row) in
/-- Behind a comment the reader goes on with what it had before, and no mark has begun. -/
structure Resumes (s s' : Stripper) (text : List α) : Prop where
  keeps : s.Keeps s'
  outside : text ≠ [] → s'.mode = .text ∧ s'.previous ≠ some '/'
  numbered : Numbered char row s'.number text

/-- A line comment ends behind the next line end. The induction is on the text of the comment. -/
theorem exists_behindLine (hmode : s.mode = .line) (h : Numbered char row s.number text) :
    ∃ s', Resumes char row s s' (behindLine char text) ∧
      (text.map char).foldl Stripper.step s =
        ((behindLine char text).map char).foldl Stripper.step s' := by
  induction text generalizing s with
  | nil => exact ⟨s, ⟨⟨rfl, rfl, rfl⟩, fun hne => absurd rfl hne, trivial⟩, rfl⟩
  | cons first rest ih =>
    have hstep := Stripper.step_line hmode h.1
    have hkeeps : s.Keeps (s.step (char first)) := Stripper.keeps_step (by simp [hmode]) _
    rw [behindLine]
    split
    · next hend =>
      refine ⟨s.step (char first), ⟨hkeeps, fun _ => ?_, h.step⟩, rfl⟩
      rw [hstep]
      simp [Stripper.pass, hend]
    · next hend =>
      have hline : (s.step (char first)).mode = .line := by simp [hstep, Stripper.pass, hend]
      obtain ⟨s', hresumes, hfold⟩ := ih hline h.step
      exact ⟨s', ⟨hkeeps.trans hresumes.keeps, hresumes.outside, hresumes.numbered⟩, hfold⟩

/-- A block comment ends behind the next mark for that, unless the reader has read the first
character of the mark before the comment. The cases are those of the grammar. -/
theorem exists_behindBlock (hmode : s.mode = .block)
    (hbegun : s.previous = some '%' → text.head?.map char ≠ some '/')
    (h : Numbered char row s.number text) :
    ∃ s', Resumes char row s s' (behindBlock char text) ∧
      (text.map char).foldl Stripper.step s =
        ((behindBlock char text).map char).foldl Stripper.step s' := by
  have hkeeps {s : Stripper} (hmode : s.mode = .block) (c : Char) : s.Keeps (s.step c) :=
    Stripper.keeps_step (by simp [hmode]) c
  have hpass {s : Stripper} {first : α} {rest : List α} (hmode : s.mode = .block)
      (hbegun : s.previous = some '%' → (first :: rest).head?.map char ≠ some '/')
      (h : Numbered char row s.number (first :: rest)) :
      s.step (char first) = s.pass (char first) := by
    rw [Stripper.step_block hmode h.1, if_neg]
    rintro ⟨hslash, hprevious⟩
    exact hbegun hprevious (congrArg some hslash)
  fun_induction behindBlock char text generalizing s with
  | case1 first second rest hclose =>
    have hfirst := hpass hmode hbegun h
    have hblock : (s.step (char first)).mode = .block := by rw [hfirst]; exact hmode
    have hprevious : (s.step (char first)).previous = some '%' := by
      rw [hfirst, ← hclose.1]
      rfl
    refine ⟨(s.step (char first)).step (char second),
      ⟨(hkeeps hmode _).trans (hkeeps hblock _), fun _ => ?_, h.step.step⟩, rfl⟩
    rw [Stripper.step_block hblock h.step.1, if_pos ⟨hclose.2, hprevious⟩]
    simp
  | case2 first second rest hclose ih =>
    have hfirst := hpass hmode hbegun h
    have hblock : (s.step (char first)).mode = .block := by rw [hfirst]; exact hmode
    have hnext : (s.step (char first)).previous = some '%' →
        (second :: rest).head?.map char ≠ some '/' := by
      intro hprevious hslash
      rw [hfirst] at hprevious
      exact hclose ⟨Option.some.inj hprevious, Option.some.inj hslash⟩
    obtain ⟨s', hresumes, hfold⟩ := ih hblock hnext h.step
    exact ⟨s', ⟨(hkeeps hmode _).trans hresumes.keeps, hresumes.outside, hresumes.numbered⟩, hfold⟩
  | case3 text hshort =>
    match text, hshort with
    | [], _ => exact ⟨s, ⟨⟨rfl, rfl, rfl⟩, fun hne => absurd rfl hne, trivial⟩, rfl⟩
    | [first], _ =>
      exact ⟨s.step (char first), ⟨hkeeps hmode _, fun hne => absurd rfl hne, trivial⟩, rfl⟩
    | first :: second :: rest, hshort => exact absurd rfl (hshort first second rest)

variable (char row) in
/-- The reader has read as much of the text as the grammar, and has the same line before it. A slash
that it has just read opens no comment. -/
structure Tracks (s : Stripper) (line text : List α) : Prop where
  mode : text ≠ [] → s.mode = .text
  current : s.current = (line.map char).reverse
  start : ∀ first ∈ line.head?, s.start = row first
  begun : s.previous = some '/' → text.head?.map char ≠ some '%'
  numbered : Numbered char row s.number text

variable (char row) in
/-- The line has the text of these characters, and the number of the source line that the first one
of them is on. -/
structure Shows (shown : Line) (marks : List α) : Prop where
  text : shown.text.toList = marks.map char
  number : ∀ first ∈ marks.head?, shown.number = row first

namespace Tracks

theorem shows (h : Tracks char row s line text) :
    Shows char row ⟨s.start, .ofList s.current.reverse⟩ line where
  text := by rw [String.toList_ofList, h.current, List.reverse_reverse]
  number := h.start

/-- Behind a comment the grammar has the line that the reader has kept. -/
theorem of_resumes {s' : Stripper} (h : Resumes char row s s' text)
    (hcurrent : s.current = (line.map char).reverse)
    (hstart : ∀ first ∈ line.head?, s.start = row first) : Tracks char row s' line text where
  mode hne := (h.outside hne).1
  current := h.keeps.current.trans hcurrent
  start first hfirst := h.keeps.start.trans (hstart first hfirst)
  begun hprevious hmark := by
    have hne : text ≠ [] := by
      rintro rfl
      cases hmark
    exact (h.outside hne).2 hprevious
  numbered := h.numbered

theorem block (h : Tracks char row s line (first :: second :: rest)) (hslash : char first = '/')
    (hmark : char second = '%') :
    ∃ s', Tracks char row s' line (behindBlock char rest) ∧ s'.lines = s.lines ∧
      ((first :: second :: rest).map char).foldl Stripper.step s =
        ((behindBlock char rest).map char).foldl Stripper.step s' := by
  have hmode := h.mode (List.cons_ne_nil _ _)
  have hfirst : s.step (char first) = (s.append (char first)).pass (char first) :=
    Stripper.step_inert hmode (by rw [hslash]; rfl)
  have hsecond : (s.step (char first)).step (char second) = (s.step (char first)).openBlock := by
    rw [hmark, Stripper.step_mark (by rw [hfirst]; exact hmode), if_pos]
    rw [hfirst, hslash]
    rfl
  have hnumbered := h.numbered.step.step
  rw [hsecond] at hnumbered
  obtain ⟨s', hresumes, hfold⟩ := exists_behindBlock rfl (fun hnone => by cases hnone) hnumbered
  refine ⟨s', of_resumes hresumes ?_ ?_, ?_, ?_⟩
  · rw [hfirst]
    exact h.current
  · intro mark hmem
    have hne : s.current.isEmpty = false := by
      rw [h.current]
      cases line with
      | nil => cases hmem
      | cons _ _ => simp
    rw [hfirst, ← h.start mark hmem]
    simp [Stripper.openBlock, Stripper.pass, Stripper.append, hne]
  · rw [hresumes.keeps.lines, hfirst]
    rfl
  · rw [← hfold, ← hsecond]
    rfl

theorem comment (h : Tracks char row s line (first :: rest)) (hmark : char first = '%') :
    ∃ s', Tracks char row s' [] (behindLine char rest) ∧
      s'.lines = (if line.all fun mark => Text.isBlank (char mark) then s.lines
        else ⟨s.start, .ofList s.current.reverse⟩ :: s.lines) ∧
      ((first :: rest).map char).foldl Stripper.step s =
        ((behindLine char rest).map char).foldl Stripper.step s' := by
  have hstep : s.step (char first) = s.openLine.pass '%' := by
    rw [hmark, Stripper.step_mark (h.mode (List.cons_ne_nil _ _)), if_neg]
    exact fun hprevious => h.begun hprevious (congrArg some hmark)
  have hblank : Text.isBlankText s.current =
      line.all fun mark => Text.isBlank (char mark) := by
    rw [h.current, Text.isBlankText, List.all_reverse, List.all_map]
    rfl
  have hopened : s.openLine.current = [] ∧
      s.openLine.lines = if line.all fun mark => Text.isBlank (char mark) then s.lines
        else ⟨s.start, .ofList s.current.reverse⟩ :: s.lines := by
    unfold Stripper.openLine
    rw [hblank]
    dsimp only
    split <;> exact ⟨rfl, rfl⟩
  have hnumbered := h.numbered.step
  rw [hstep] at hnumbered
  obtain ⟨s', hresumes, hfold⟩ := exists_behindLine (s := s.openLine.pass '%') rfl hnumbered
  refine ⟨s', of_resumes hresumes hopened.1 (by simp), ?_, ?_⟩
  · exact hresumes.keeps.lines.trans hopened.2
  · rw [← hfold, ← hstep]
    rfl

theorem lineEnd (h : Tracks char row s line (first :: rest)) (hend : char first = '\n') :
    Tracks char row (s.step (char first)) [] rest ∧
      (s.step (char first)).lines = ⟨s.start, .ofList s.current.reverse⟩ :: s.lines := by
  have hmode := h.mode (List.cons_ne_nil _ _)
  have hstep : s.step (char first) = s.endLine.pass '\n' := by
    rw [hend, Stripper.step_end hmode]
  have hnumbered := h.numbered.step
  rw [hstep] at hnumbered ⊢
  refine ⟨⟨fun _ => hmode, rfl, by simp, fun hprevious => ?_, hnumbered⟩, rfl⟩
  cases hprevious

theorem inert (h : Tracks char row s line (first :: rest)) (hmark : char first ≠ '%')
    (hend : char first ≠ '\n')
    (hblock : ¬ (char first = '/' ∧ rest.head?.map char = some '%')) :
    Tracks char row (s.step (char first)) (line ++ [first]) rest ∧
      (s.step (char first)).lines = s.lines := by
  have hmode := h.mode (List.cons_ne_nil _ _)
  have hstep : s.step (char first) = (s.append (char first)).pass (char first) :=
    Stripper.step_inert hmode (by simp [isInert, hmark, hend, h.numbered.1])
  have hnumbered := h.numbered.step
  rw [hstep] at hnumbered ⊢
  refine ⟨⟨fun _ => hmode, ?_, ?_, ?_, hnumbered⟩, rfl⟩
  · simp [Stripper.pass, Stripper.append, h.current]
  · intro mark hmem
    cases line with
    | nil =>
      cases hmem
      have hnil : s.current = [] := h.current
      simp [Stripper.pass, Stripper.append, hnil, h.numbered.2.1]
    | cons head more =>
      cases hmem
      have hne : s.current ≠ [] := by simp [h.current]
      simpa [Stripper.pass, Stripper.append, hne] using h.start mark rfl
  · intro hprevious hnext
    exact hblock ⟨Option.some.inj hprevious, hnext⟩

/-- The reader finishes the lines of the grammar. The cases are those of the grammar: each is a run
of steps of the reader, after which it has the next line before it. -/
theorem exists_lines (h : Tracks char row s line text) :
    ∃ shown, ((text.map char).foldl Stripper.step s).finish = s.lines.reverse ++ shown ∧
      List.Forall₂ (Shows char row) shown (linesFrom char line text) := by
  fun_induction linesFrom char line text generalizing s with
  | case1 line => exact ⟨_, by simp [Stripper.finish, Stripper.endLine], .cons h.shows .nil⟩
  | case2 line first rest hopen ih =>
    obtain ⟨hslash, hsecond⟩ := hopen
    obtain ⟨second, hhead, hmark⟩ := Option.map_eq_some_iff.1 hsecond
    obtain ⟨rest, rfl⟩ := List.head?_eq_some_iff.1 hhead
    obtain ⟨s', htracks, hlines, hfold⟩ := h.block hslash hmark
    rw [hfold, ← hlines]
    exact ih htracks
  | case3 line first rest _ hmark hblank ih =>
    obtain ⟨s', htracks, hlines, hfold⟩ := h.comment hmark
    rw [if_pos hblank] at hlines
    rw [hfold, ← hlines]
    exact ih htracks
  | case4 line first rest _ hmark hblank ih =>
    obtain ⟨s', htracks, hlines, hfold⟩ := h.comment hmark
    rw [if_neg hblank] at hlines
    obtain ⟨shown, hshown, hall⟩ := ih htracks
    refine ⟨_ :: shown, ?_, .cons h.shows hall⟩
    rw [hfold, hshown, hlines]
    simp
  | case5 line first rest _ _ hend ih =>
    obtain ⟨htracks, hlines⟩ := h.lineEnd hend
    obtain ⟨shown, hshown, hall⟩ := ih htracks
    refine ⟨_ :: shown, ?_, .cons h.shows hall⟩
    rw [List.map_cons, List.foldl_cons, hshown, hlines]
    simp
  | case6 line first rest hblock hmark hend ih =>
    obtain ⟨htracks, hlines⟩ := h.inert hmark hend hblock
    rw [List.map_cons, List.foldl_cons, ← hlines]
    exact ih htracks

end Tracks

end Tracking

/-! ## Characters with their places -/

/-- The characters of a text that the reader does not drop, with their places in it. -/
def placed (text : List Char) : List (Char × Nat) :=
  text.zipIdx.filter fun mark => mark.1 ≠ '\r'

/-- The number of the source line that a place is on, when the text begins on the line `number`. -/
def rowAt (number : Nat) (text : List Char) (place : Nat) : Nat :=
  number + (text.take place).count '\n'

theorem map_placed (text : List Char) :
    (placed text).map Prod.fst = text.filter (· ≠ '\r') := by
  have hfilter := List.filter_map (f := Prod.fst) (p := fun c : Char => decide (c ≠ '\r'))
    (l := text.zipIdx)
  rw [List.zipIdx_map_fst] at hfilter
  rw [hfilter, placed]
  rfl

/-- The induction is on the text behind what has been numbered. -/
theorem numbered_zipIdx (number : Nat) (front back : List Char) :
    Numbered Prod.fst (fun mark => rowAt number (front ++ back) mark.2)
      (number + front.count '\n')
      ((back.zipIdx front.length).filter fun mark => mark.1 ≠ '\r') := by
  induction back generalizing front with
  | nil => trivial
  | cons c rest ih =>
    have hrest := ih (front ++ [c])
    rw [List.length_append, List.append_assoc, List.count_append] at hrest
    rw [List.zipIdx_cons]
    by_cases hreturn : c = '\r'
    · subst hreturn
      simpa using hrest
    · rw [List.filter_cons_of_pos (by simpa using hreturn)]
      refine ⟨hreturn, ?_, ?_⟩
      · simp [rowAt]
      · by_cases hend : c = '\n'
        · subst hend
          simpa [Nat.add_assoc] using hrest
        · simpa [hend, List.count_singleton] using hrest

theorem numbered_placed (number : Nat) (text : List Char) :
    Numbered Prod.fst (fun mark => rowAt number text mark.2) number (placed text) :=
  numbered_zipIdx number [] text

namespace Stripper

variable {s : Stripper}

theorem foldl_filter (s : Stripper) (text : List Char) :
    (text.filter (· ≠ '\r')).foldl step s = text.foldl step s := by
  induction text generalizing s with
  | nil => rfl
  | cons c rest ih =>
    by_cases hreturn : c = '\r'
    · subst hreturn
      exact ih s
    · rw [List.filter_cons_of_pos (by simpa using hreturn)]
      exact ih (s.step c)

/-- Nothing has been read of a line, and no comment has begun. -/
structure Fresh (s : Stripper) : Prop where
  mode : s.mode = .text
  current : s.current = []
  previous : s.previous ≠ some '/'

/-- From there on the lines of a text are those of the grammar. -/
theorem Fresh.exists_lines (h : s.Fresh) (text : List Char) :
    ∃ shown, (text.foldl step s).finish = s.lines.reverse ++ shown ∧
      List.Forall₂ (Shows Prod.fst fun mark => rowAt s.number text mark.2) shown
        (linesFrom Prod.fst [] (placed text)) := by
  have htracks : Tracks Prod.fst (fun mark => rowAt s.number text mark.2) s [] (placed text) :=
    ⟨fun _ => h.mode, h.current, by simp, fun hslash => absurd hslash h.previous,
      numbered_placed s.number text⟩
  rw [← foldl_filter, ← map_placed]
  exact htracks.exists_lines

end Stripper

/-- The lines of a source are those of the grammar, and a line with a text has the number of the
source line that its first character is on. -/
theorem shows_strip (source : String) :
    List.Forall₂ (Shows Prod.fst fun mark => rowAt 1 source.toList mark.2) (strip source)
      (linesFrom Prod.fst [] (placed source.toList)) := by
  have hfresh : Stripper.Fresh {} := ⟨rfl, rfl, nofun⟩
  obtain ⟨shown, hshown, hall⟩ := hfresh.exists_lines source.toList
  rw [List.reverse_nil, List.nil_append] at hshown
  rwa [strip, hshown]

/-! ## The grammar of plain texts -/

section Naturality

variable {α β : Type} (char : β → Char) (f : α → β)

theorem behindBlock_map (text : List α) :
    behindBlock char (text.map f) = (behindBlock (fun mark => char (f mark)) text).map f := by
  fun_induction behindBlock (fun mark => char (f mark)) text with
  | case1 first second rest h => simp [behindBlock, h]
  | case2 first second rest h ih => simpa [behindBlock, h] using ih
  | case3 text hshort =>
    match text, hshort with
    | [], _ => rfl
    | [_], _ => rfl
    | first :: second :: rest, hshort => exact absurd rfl (hshort first second rest)

theorem behindLine_map (text : List α) :
    behindLine char (text.map f) = (behindLine (fun mark => char (f mark)) text).map f := by
  induction text with
  | nil => rfl
  | cons first rest ih =>
    rw [List.map_cons, behindLine, behindLine, ih]
    split <;> rfl

/-- The grammar looks at the characters only. -/
theorem linesFrom_map (line text : List α) :
    linesFrom char (line.map f) (text.map f) =
      (linesFrom (fun mark => char (f mark)) line text).map (·.map f) := by
  have hnext (first : α) (rest : List α) :
      (char (f first) = '/' ∧ (rest.map f).head?.map char = some '%') =
        (char (f first) = '/' ∧ rest.head?.map (fun mark => char (f mark)) = some '%') := by
    rw [List.head?_map, Option.map_map]
    rfl
  have hall (line : List α) : ((line.map f).all fun mark => Text.isBlank (char mark)) =
      line.all fun mark => Text.isBlank (char (f mark)) := by
    rw [List.all_map]
    rfl
  fun_induction linesFrom (fun mark => char (f mark)) line text with
  | case1 line => simp [linesFrom]
  | case2 line first rest hopen ih =>
    rw [List.map_cons, linesFrom, if_pos (hnext first rest ▸ hopen), ← List.map_tail,
      behindBlock_map]
    exact ih
  | case3 line first rest hopen hmark hblank ih =>
    rw [List.map_cons, linesFrom, if_neg (hnext first rest ▸ hopen), if_pos hmark, hall,
      if_pos hblank, behindLine_map]
    exact ih
  | case4 line first rest hopen hmark hblank ih =>
    rw [List.map_cons, linesFrom, if_neg (hnext first rest ▸ hopen), if_pos hmark, hall,
      if_neg hblank, behindLine_map, List.map_cons]
    exact congrArg _ ih
  | case5 line first rest hopen hmark hend ih =>
    rw [List.map_cons, linesFrom, if_neg (hnext first rest ▸ hopen), if_neg hmark, if_pos hend,
      List.map_cons]
    exact congrArg _ ih
  | case6 line first rest hopen hmark hend ih =>
    rw [List.map_append] at ih
    rw [List.map_cons, linesFrom, if_neg (hnext first rest ▸ hopen), if_neg hmark, if_neg hend]
    exact ih

end Naturality

/-! ## The marks that the reader takes away -/

namespace Stripper

variable {s : Stripper}

/-- A slash that was read as the last character is at the end of the line. -/
def Slashed (s : Stripper) : Prop :=
  s.mode = .text → s.previous = some '/' → s.current.head? = some '/'

theorem Slashed.step (h : s.Slashed) (c : Char) : (s.step c).Slashed := by
  by_cases hreturn : c = '\r'
  · simpa only [Stripper.step, if_pos hreturn] using h
  cases hmode : s.mode with
  | block =>
    rw [step_block hmode hreturn]
    split
    · exact fun _ hprevious => by cases hprevious
    · exact fun hpass => by cases hmode.symm.trans hpass
  | line =>
    rw [step_line hmode hreturn]
    intro htext hprevious
    by_cases hend : c = '\n'
    · subst hend
      cases hprevious
    · simp [pass, hend] at htext
  | text =>
    by_cases hmark : c = '%'
    · subst hmark
      rw [step_mark hmode]
      split
      · exact fun hopened => by cases hopened
      · exact fun hopened => by cases hopened
    by_cases hend : c = '\n'
    · subst hend
      rw [step_end hmode]
      exact fun _ hprevious => by cases hprevious
    · rw [step_inert hmode (by simp [isInert, hmark, hreturn, hend])]
      exact fun _ hprevious => hprevious

/-- So it is there to be taken away, wherever the reader is in a text. -/
theorem Slashed.foldl (h : s.Slashed) (text : List Char) :
    (text.foldl Stripper.step s).Slashed := by
  induction text generalizing s with
  | nil => exact h
  | cons c rest ih => exact ih (h.step c)

end Stripper

/-- Stripping gives the lines of the grammar. The line from which the slash of a mark is taken away
ends in that slash, and no line holds a percent sign, a line end or a carriage return. -/
theorem texts_of_strip (source : String) :
    (strip source).map (·.text.toList) = linesFrom id [] (source.toList.filter (· ≠ '\r')) ∧
      (∀ front, front ++ ['%'] <+: source.toList →
        (front.foldl Stripper.step {}).mode = .text →
          (front.foldl Stripper.step {}).previous = some '/' →
            ∃ before, (front.foldl Stripper.step {}).current = '/' :: before) ∧
      ∀ line ∈ strip source, ∀ c ∈ line.text.toList, c ≠ '%' ∧ c ≠ '\n' ∧ c ≠ '\r' := by
  refine ⟨?_, fun front _ hmode hprevious => ?_, fun line hline c hc => ?_⟩
  · have hlines := linesFrom_map id Prod.fst [] (placed source.toList)
    rw [map_placed, List.map_nil] at hlines
    rw [hlines]
    have htexts : List.Forall₂ Eq ((strip source).map (·.text.toList))
        ((linesFrom Prod.fst [] (placed source.toList)).map (·.map Prod.fst)) :=
      List.forall₂_map_left_iff.2
        (List.forall₂_map_right_iff.2 ((shows_strip source).imp fun _ _ h => h.text))
    rwa [List.forall₂_eq_eq_eq] at htexts
  · have hstart : Stripper.Slashed {} := fun _ hprevious => by cases hprevious
    exact List.head?_eq_some_iff.1 (hstart.foldl front hmode hprevious)
  · have hinert := strip_inert hline c hc
    simp only [isInert, Bool.and_eq_true, decide_eq_true_eq] at hinert
    exact ⟨hinert.1.1, hinert.2, hinert.1.2⟩

/-- A mark that closes a block comment cannot share its percent sign with the one that opens it, and
carriage returns do not part a mark. -/
theorem texts_of_strip_marks :
    linesFrom id [] ("a/%\r\n/%\r/b//%/%/c %d\n".toList.filter (· ≠ '\r')) =
      ["ab/c ".toList, []] := by
  rw [← (texts_of_strip "a/%\r\n/%\r/b//%/%/c %d\n").1]
  decide +kernel

end ModPack.Comment
