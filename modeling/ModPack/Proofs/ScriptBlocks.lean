import ModPack.Proofs.LineNumbers

/-!
# Blocks of a source

The blocks of a script part its lines: each line that is not blank is in one block, trimmed and with
its number, and two that follow each other are in the same one when no blank line is between them.
Lines of the source that only hold a comment leave no line behind, blank or other, so they part
nothing. Main statements: `Stripper.Fresh.wholeLines` and `Script.blocks_of_parse`.
-/
namespace ModPack

namespace Comment

/-- A line of a source with a comment and nothing but blanks before it. -/
def WholeLine (text : List Char) : Prop :=
  ∃ blanks comment, text = blanks ++ '%' :: (comment ++ ['\n']) ∧
    (∀ c ∈ blanks, Text.isBlank c = true ∧ c ≠ '\n') ∧ '\n' ∉ comment

namespace Stripper

variable {s : Stripper} {c : Char} {lines : List Line} {text : List Char}

theorem number_foldl (s : Stripper) (text : List Char) :
    (text.foldl step s).number = s.number + text.count '\n' := by
  induction text generalizing s with
  | nil => rfl
  | cons c rest ih =>
    rw [List.foldl_cons, ih]
    by_cases hreturn : c = '\r'
    · subst hreturn
      simp [step]
    · rw [number_step hreturn, List.count_cons]
      by_cases hend : c = '\n'
      · simp only [hend, if_pos, beq_self_eq_true]
        omega
      · simp [hend]

/-- Outside of comments there are only blanks on the line. -/
structure Idle (lines : List Line) (s : Stripper) : Prop where
  mode : s.mode = .text
  blank : ∀ c ∈ s.current, Text.isBlank c = true
  previous : s.previous ≠ some '/'
  lines : s.lines = lines

/-- In a line comment there is nothing on the line. -/
structure Commented (lines : List Line) (s : Stripper) : Prop where
  mode : s.mode = .line
  current : s.current = []
  lines : s.lines = lines

theorem Fresh.idle (h : s.Fresh) : s.Idle s.lines where
  mode := h.mode
  blank := by simp [h.current]
  previous := h.previous
  lines := rfl

theorem Idle.step (h : s.Idle lines) (hblank : Text.isBlank c = true) (hend : c ≠ '\n') :
    (s.step c).Idle lines := by
  by_cases hreturn : c = '\r'
  · simpa only [Stripper.step, if_pos hreturn] using h
  have hmark : c ≠ '%' := by
    rintro rfl
    cases hblank
  have hslash : c ≠ '/' := by
    rintro rfl
    cases hblank
  rw [step_inert h.mode (by simp [isInert, hmark, hreturn, hend])]
  exact ⟨h.mode, List.forall_mem_cons.2 ⟨hblank, h.blank⟩,
    fun hprevious => hslash (Option.some.inj hprevious), h.lines⟩

theorem Idle.foldl (h : s.Idle lines)
    (htext : ∀ c ∈ text, Text.isBlank c = true ∧ c ≠ '\n') :
    (text.foldl Stripper.step s).Idle lines := by
  induction text generalizing s with
  | nil => exact h
  | cons c rest ih =>
    obtain ⟨⟨hblank, hend⟩, hrest⟩ := List.forall_mem_cons.1 htext
    exact ih (h.step hblank hend) hrest

/-- A comment on such a line takes the blanks away. -/
theorem Idle.comment (h : s.Idle lines) : (s.step '%').Commented lines := by
  rw [step_mark h.mode, if_neg h.previous, openLine]
  have hblank : Text.isBlankText s.current = true := List.all_eq_true.2 h.blank
  rw [if_pos hblank]
  exact ⟨rfl, rfl, h.lines⟩

theorem Commented.foldl (h : s.Commented lines) (htext : '\n' ∉ text) :
    (text.foldl step s).Commented lines := by
  induction text generalizing s with
  | nil => exact h
  | cons c rest ih =>
    rw [List.mem_cons, not_or] at htext
    obtain ⟨hend, hrest⟩ := htext
    refine ih ?_ hrest
    have hkeeps : s.Keeps (s.step c) := keeps_step (by simp [h.mode]) c
    refine ⟨?_, hkeeps.current.trans h.current, hkeeps.lines.trans h.lines⟩
    by_cases hreturn : c = '\r'
    · simpa only [Stripper.step, if_pos hreturn] using h.mode
    · rw [step_line h.mode hreturn]
      simp [pass, Ne.symm hend]

theorem Commented.fresh (h : s.Commented lines) :
    (s.step '\n').Fresh ∧ (s.step '\n').lines = lines := by
  rw [step_line h.mode (by decide)]
  exact ⟨⟨rfl, h.current, fun hprevious => by cases hprevious⟩, h.lines⟩

/-- Behind lines that only hold comments nothing has changed but the number. -/
theorem Fresh.wholeLines {comments : List (List Char)} (h : s.Fresh)
    (hcomments : ∀ comment ∈ comments, WholeLine comment) :
    (comments.flatten.foldl step s).Fresh ∧ (comments.flatten.foldl step s).lines = s.lines := by
  induction comments generalizing s with
  | nil => exact ⟨h, rfl⟩
  | cons comment comments ih =>
    obtain ⟨⟨blanks, marked, rfl, hblanks, hmarked⟩, hrest⟩ := List.forall_mem_cons.1 hcomments
    have hcommented := ((h.idle.foldl hblanks).comment).foldl hmarked
    obtain ⟨hfresh, hlines⟩ := hcommented.fresh
    obtain ⟨hlast, hsame⟩ := ih hfresh hrest
    rw [hlines] at hsame
    simpa using And.intro hlast hsame

end Stripper

/-- The text ends with a line end outside of comments, and this is the last line that was read
before that. -/
structure EndsLine (text : List Char) (last : Line) : Prop where
  mode : (text.foldl Stripper.step {}).mode = .text
  current : (text.foldl Stripper.step {}).current = []
  lines : (text.foldl Stripper.step {}).lines.head? = some last

theorem EndsLine.fresh {text : List Char} {last : Line} (h : EndsLine text last) :
    (text.foldl Stripper.step {}).Fresh where
  mode := h.mode
  current := h.current
  previous := by
    intro hprevious
    have hstart : Stripper.Slashed {} := fun _ hslash => by cases hslash
    have hslash := hstart.foldl text h.mode hprevious
    rw [h.current] at hslash
    cases hslash

/-- Lines that only hold comments leave the next line beside the last one. -/
theorem EndsLine.strip_eq {front back : List Char} {comments : List (List Char)}
    {first next : Line} {source : String} (h : EndsLine front first)
    (hsource : source.toList = front ++ comments.flatten ++ back)
    (hcomments : ∀ comment ∈ comments, WholeLine comment)
    (hnext : (strip (.ofList back)).head? = some next) (htext : next.text ≠ "") :
    ∃ before after, strip source = before ++
      first :: ⟨next.number + (front ++ comments.flatten).count '\n', next.text⟩ :: after := by
  obtain ⟨hfresh, hlines⟩ := h.fresh.wholeLines hcomments
  rw [← List.foldl_append] at hfresh hlines
  obtain ⟨shown, hshown, hall⟩ := hfresh.exists_lines back
  rw [hlines] at hshown
  have hstrip : strip source = (front.foldl Stripper.step {}).lines.reverse ++ shown := by
    rwa [strip, hsource, List.foldl_append]
  have halone := shows_strip (.ofList back)
  rw [String.toList_ofList] at halone
  obtain ⟨others, hothers⟩ := List.head?_eq_some_iff.1 hnext
  rw [hothers] at halone
  obtain ⟨earlier, hearlier⟩ := List.head?_eq_some_iff.1 h.lines
  obtain ⟨marks, more, hfirst, _, hmarks⟩ := List.forall₂_cons_left_iff.1 halone
  rw [hmarks] at hall
  obtain ⟨line, after, hline, _, rfl⟩ := List.forall₂_cons_right_iff.1 hall
  have hsame : line.text = next.text := String.toList_inj.1 (hline.text.trans hfirst.text.symm)
  have hnumber : line.number = next.number + (front ++ comments.flatten).count '\n' := by
    cases marks with
    | nil => exact absurd (String.toList_eq_nil_iff.1 hfirst.text) htext
    | cons mark marks =>
      rw [hline.number mark rfl, hfirst.number mark rfl, Stripper.number_foldl]
      simp only [rowAt]
      omega
  refine ⟨earlier.reverse, after, ?_⟩
  rw [hstrip, hearlier, ← hsame, ← hnumber]
  simp

end Comment

/-- A line without the blanks at its ends. -/
def Line.trimmed (line : Line) : Line :=
  { line with text := Text.trim line.text }

namespace Script

variable {path : Path} {source package : String} {script : Script}

theorem trimmedLines_eq (source : String) :
    trimmedLines source = (Comment.strip source).map Line.trimmed := rfl

theorem nodup_of_parse (h : (parse source path package).result = .ok script) :
    script.lines.Nodup :=
  (numbers_of_parse h).imp fun hlt heq => absurd (congrArg Line.number heq) hlt.ne

/-- A script that is read has its lines in blocks. All lines that are not blank are there, in order,
trimmed and with their numbers, and no block is empty. Two that follow each other are in the same
block exactly when there is no blank line between them. When the source has nothing but lines with
comments between two lines, these are in the same block. -/
theorem blocks_of_parse (h : (parse source path package).result = .ok script) :
    script.blocks.flatMap Block.lines =
        ((Comment.strip source).map Line.trimmed).filter (·.text ≠ "") ∧
      (∀ block ∈ script.blocks, block.lines ≠ [] ∧
        ∀ line ∈ block.lines, line.text ≠ "" ∧ Text.trim line.text = line.text) ∧
      (∀ before first between second after,
        Comment.strip source = before ++ first :: (between ++ second :: after) →
        first.trimmed.text ≠ "" → second.trimmed.text ≠ "" →
        (∀ line ∈ between, line.trimmed.text = "") →
          ((∃ block ∈ script.blocks, first.trimmed ∈ block.lines ∧
            second.trimmed ∈ block.lines) ↔ between = [])) ∧
      ∀ (front back : List Char) (comments : List (List Char)) (first next : Line),
        source.toList = front ++ comments.flatten ++ back →
        Comment.EndsLine front first → (∀ comment ∈ comments, Comment.WholeLine comment) →
        (Comment.strip (.ofList back)).head? = some next →
        first.trimmed.text ≠ "" → next.trimmed.text ≠ "" →
          ∃ block ∈ script.blocks, first.trimmed ∈ block.lines ∧
            ⟨next.number + (front ++ comments.flatten).count '\n', next.trimmed.text⟩ ∈
              block.lines := by
  have hlines := lines_of_parse h
  have hnodup := nodup_of_parse h
  have hsound := sound_of_parse h
  obtain ⟨blocks, hblocks, rfl⟩ := parse_ok.1 h
  rw [trimmedLines_eq] at hblocks hlines
  refine ⟨hlines, fun block hblock => ⟨List.cons_ne_nil _ _, fun line hline => ?_⟩, ?_, ?_⟩
  · have hsettled := (hsound block hblock).lines line hline
    refine ⟨mt String.toList_eq_nil_iff.2 hsettled.ne_nil, ?_⟩
    rw [Text.trim, hsettled.trimChars_eq, String.ofList_toList]
  · intro before first between second after hsplit hfirst hsecond hbetween
    rw [hsplit] at hblocks
    simp only [List.map_append, List.map_cons] at hblocks
    rw [sameBlock_iff hfirst hsecond (by simpa using hbetween) hblocks hnodup, List.map_eq_nil_iff]
  · intro front back comments first next hsource hends hcomments hnext hfirst hsecond
    obtain ⟨before, after, hsplit⟩ :=
      hends.strip_eq hsource hcomments hnext (ne_of_trim_ne hsecond)
    rw [hsplit] at hblocks
    simp only [List.map_append, List.map_cons] at hblocks
    exact exists_block_of_adjacent hfirst hsecond hblocks

end Script

namespace Sample

def indexPath : Path :=
  ⟨.root, ["index.bscr"]⟩

def indexFront : List Char :=
  "#new:Actor\n".toList

def indexComments : List (List Char) :=
  ["% index\n".toList, "  % and more /% \n".toList]

def indexBack : List Char :=
  "[Index] 00 % zero\n\n% tail\n[End]\n".toList

/-- A source with comments on lines of their own and a blank line. -/
def indexSource : String :=
  .ofList (indexFront ++ indexComments.flatten ++ indexBack)

def index : Script where
  path := indexPath
  blocks := [
    ⟨⟨1, "#new:Actor"⟩, [⟨4, "[Index] 00"⟩], .other⟩,
    ⟨⟨7, "[End]"⟩, [], .other⟩]
  package := "game"

theorem parse_index : (Script.parse indexSource indexPath "game").result = .ok index := by
  decide +kernel

theorem endsLine_indexFront : Comment.EndsLine indexFront ⟨1, "#new:Actor"⟩ :=
  ⟨rfl, rfl, by decide +kernel⟩

theorem wholeLine_indexComments : ∀ comment ∈ indexComments, Comment.WholeLine comment := by
  refine List.forall_mem_cons.2 ⟨?_, List.forall_mem_singleton.2 ?_⟩
  · exact ⟨[], " index".toList, rfl, by simp, by decide +kernel⟩
  · have hblank : Text.isBlank ' ' = true ∧ ' ' ≠ '\n' := by decide
    exact ⟨[' ', ' '], " and more /% ".toList, rfl, by simp [hblank], by decide +kernel⟩

end Sample

/-- The comments part nothing, and the blank line parts what is around it. -/
theorem Script.blocks_of_parse_index :
    (∃ block ∈ Sample.index.blocks, ⟨1, "#new:Actor"⟩ ∈ block.lines ∧
      ⟨4, "[Index] 00"⟩ ∈ block.lines) ∧
    ¬ ∃ block ∈ Sample.index.blocks, ⟨4, "[Index] 00"⟩ ∈ block.lines ∧
      ⟨7, "[End]"⟩ ∈ block.lines := by
  obtain ⟨_, _, hparted, hjoined⟩ := blocks_of_parse Sample.parse_index
  have hstrip : Comment.strip Sample.indexSource = [⟨1, "#new:Actor"⟩] ++
      ⟨4, "[Index] 00 "⟩ :: ([⟨4, ""⟩] ++ ⟨7, "[End]"⟩ :: [⟨7, ""⟩]) := by
    decide +kernel
  refine ⟨?_, fun hsame => ?_⟩
  · exact hjoined Sample.indexFront Sample.indexBack Sample.indexComments ⟨1, "#new:Actor"⟩
      ⟨1, "[Index] 00 "⟩ (String.toList_ofList) Sample.endsLine_indexFront
      Sample.wholeLine_indexComments (by decide +kernel) (by decide +kernel) (by decide +kernel)
  · have hnone := (hparted _ _ _ _ _ hstrip (by decide +kernel) (by decide +kernel)
      (by decide +kernel)).1 hsame
    cases hnone

end ModPack
