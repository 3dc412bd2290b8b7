import ModPack.Proofs.ScriptDumps

/-!
# Runs of lines

The blocks of a script are the runs of its lines without a blank one between them: all lines that
are not blank are in blocks, in order, a block begins behind a blank line, and a blank line between
two lines parts their blocks. Main statements: `lines_of_blocksOf`, `sameBlock_iff` and
`heads_of_blocksOf`.
-/
namespace ModPack

namespace Block

variable {path : Path} {header : Line} {rest : List Line} {error : LoadError}

/-- What is wrong with the header of a block: its section, or that it names no string. -/
inductive Refused (path : Path) (header : Line) : LoadError → Prop
  | badSection {bank name : String} (parts : headerParts? header.text = some (bank, name))
      (number : bankOf? bank = none) : Refused path header (.badSection path header.number bank)
  | notString (parts : headerParts? header.text = none) :
      Refused path header (.blockNotString path header.number)
  | badName {bank name : String} {cause : NameError}
      (parts : headerParts? header.text = some (bank, name))
      (check : (Name.checkExport name).result = .error cause) :
      Refused path header (.stringName path header.number cause)
  | range {text name : String} {bank : Nat} (parts : headerParts? header.text = some (text, name))
      (number : bankOf? text = some bank) (above : LoadError.maxSection < bank) :
      Refused path header (.sectionRange path header.number bank)

theorem Refused.line?_eq (h : Refused path header error) : error.line? = some header.number := by
  cases h <;> rfl

theorem refused_of_classify (h : (classify path header rest).result = .error error) :
    Refused path header error := by
  unfold classify at h
  split at h
  · cases h
  · next bank name hparts =>
    split at h
    · next hnumber =>
      cases h
      exact .badSection hparts hnumber
    · cases h

end Block

namespace Script

variable {path : Path} {pending front back lines before between after : List Line}
  {blank first second header : Line} {blocks : List Block} {error : LoadError} {index : Nat}

/-! ## All lines are in blocks -/

theorem lines_of_close (h : (close path pending).result = .ok blocks) :
    blocks.flatMap Block.lines = pending.reverse := by
  rcases close_ok.1 h with ⟨rfl, rfl⟩ | ⟨block, hlines, _, rfl⟩
  · rfl
  · simp [hlines]

/-- Reading a line that is not blank makes it wait for the next blank one. -/
theorem blocksOf_cons (hline : first.text ≠ "") :
    blocksOf path pending (first :: lines) = blocksOf path (first :: pending) lines := by
  have hrun : ∀ line ∈ [first], line.text ≠ "" := List.forall_mem_singleton.2 hline
  exact blocksOf_append hrun

/-- The lines of the blocks are those that wait and those that are not blank. -/
theorem lines_of_blocksOf (h : (blocksOf path pending lines).result = .ok blocks) :
    blocks.flatMap Block.lines = pending.reverse ++ lines.filter (·.text ≠ "") := by
  induction lines generalizing pending blocks with
  | nil => simpa using lines_of_close h
  | cons line lines ih =>
    by_cases hblank : line.text = ""
    · obtain ⟨closed, others, hclosed, hothers, rfl⟩ := (blocksOf_blank_ok hblank).1 h
      rw [List.flatMap_append, lines_of_close hclosed, ih hothers]
      simp [hblank]
    · rw [blocksOf_cons hblank] at h
      rw [ih h]
      simp [hblank]

theorem lines_of_parse {source package : String} {script : Script}
    (h : (parse source path package).result = .ok script) :
    script.lines = (trimmedLines source).filter (·.text ≠ "") := by
  obtain ⟨blocks, hblocks, rfl⟩ := parse_ok.1 h
  exact lines_of_blocksOf hblocks

/-! ## Blank lines part blocks -/

/-- What is before a blank line and what is behind it are cut into blocks separately. -/
theorem blocksOf_parted (hblank : blank.text = "")
    (h : (blocksOf path pending (front ++ blank :: back)).result = .ok blocks) :
    ∃ former latter, (blocksOf path pending front).result = .ok former ∧
      (blocksOf path [] back).result = .ok latter ∧ former ++ latter = blocks := by
  induction front generalizing pending blocks with
  | nil => exact (blocksOf_blank_ok hblank).1 h
  | cons line front ih =>
    rw [List.cons_append] at h
    by_cases hline : line.text = ""
    · obtain ⟨closed, others, hclosed, hothers, rfl⟩ := (blocksOf_blank_ok hline).1 h
      obtain ⟨former, latter, hformer, hlatter, rfl⟩ := ih hothers
      refine ⟨closed ++ former, latter, ?_, hlatter, List.append_assoc _ _ _⟩
      exact (blocksOf_blank_ok hline).2 ⟨closed, former, hclosed, hformer, rfl⟩
    · rw [blocksOf_cons hline] at h ⊢
      exact ih h

theorem exists_block_of_close (hne : pending ≠ [])
    (h : (close path pending).result = .ok blocks) : ∃ block ∈ blocks, pending ⊆ block.lines := by
  rcases close_ok.1 h with ⟨hnil, _⟩ | ⟨block, hlines, _, rfl⟩
  · exact absurd hnil hne
  · refine ⟨block, List.mem_singleton.2 rfl, fun line hline => ?_⟩
    rwa [hlines, List.mem_reverse]

/-- Lines that wait are in one block. -/
theorem exists_block_of_pending (hne : pending ≠ [])
    (h : (blocksOf path pending lines).result = .ok blocks) :
    ∃ block ∈ blocks, pending ⊆ block.lines := by
  induction lines generalizing pending blocks with
  | nil => exact exists_block_of_close hne h
  | cons line lines ih =>
    by_cases hblank : line.text = ""
    · obtain ⟨closed, others, hclosed, _, rfl⟩ := (blocksOf_blank_ok hblank).1 h
      obtain ⟨block, hblock, hsubset⟩ := exists_block_of_close hne hclosed
      exact ⟨block, List.mem_append_left _ hblock, hsubset⟩
    · rw [blocksOf_cons hblank] at h
      obtain ⟨block, hblock, hsubset⟩ := ih (List.cons_ne_nil _ _) h
      exact ⟨block, hblock, fun other hother => hsubset (List.mem_cons_of_mem _ hother)⟩

/-- So are two lines with nothing between them. -/
theorem exists_block_of_adjacent (hfirst : first.text ≠ "") (hsecond : second.text ≠ "")
    (h : (blocksOf path pending (front ++ first :: second :: back)).result = .ok blocks) :
    ∃ block ∈ blocks, first ∈ block.lines ∧ second ∈ block.lines := by
  induction front generalizing pending blocks with
  | nil =>
    rw [List.nil_append, blocksOf_cons hfirst, blocksOf_cons hsecond] at h
    obtain ⟨block, hblock, hsubset⟩ := exists_block_of_pending (List.cons_ne_nil _ _) h
    exact ⟨block, hblock, hsubset (by simp), hsubset (by simp)⟩
  | cons line front ih =>
    rw [List.cons_append] at h
    by_cases hline : line.text = ""
    · obtain ⟨closed, others, _, hothers, rfl⟩ := (blocksOf_blank_ok hline).1 h
      obtain ⟨block, hblock, hboth⟩ := ih hothers
      exact ⟨block, List.mem_append_right _ hblock, hboth⟩
    · rw [blocksOf_cons hline] at h
      exact ih h

/-- Of lines that differ, two are in one block exactly when no blank line is between them. -/
theorem sameBlock_iff (hfirst : first.text ≠ "") (hsecond : second.text ≠ "")
    (hbetween : ∀ line ∈ between, line.text = "")
    (h : (blocksOf path [] (before ++ first :: (between ++ second :: after))).result = .ok blocks)
    (hdistinct : (blocks.flatMap Block.lines).Nodup) :
    (∃ block ∈ blocks, first ∈ block.lines ∧ second ∈ block.lines) ↔ between = [] := by
  constructor
  · rintro ⟨block, hblock, hmem, hmem'⟩
    by_contra hne
    obtain ⟨blank, rest, rfl⟩ := List.exists_cons_of_ne_nil hne
    have hsplit : before ++ first :: (blank :: rest ++ second :: after) =
        (before ++ [first]) ++ blank :: (rest ++ second :: after) := by simp
    rw [hsplit] at h
    obtain ⟨former, latter, hformer, hlatter, rfl⟩ :=
      blocksOf_parted (hbetween blank List.mem_cons_self) h
    have hbefore : first ∈ former.flatMap Block.lines := by
      rw [lines_of_blocksOf hformer]
      simp [hfirst]
    have hafter : second ∈ latter.flatMap Block.lines := by
      rw [lines_of_blocksOf hlatter]
      simp [hsecond]
    rw [List.flatMap_append] at hdistinct
    have hapart := (List.nodup_append.1 hdistinct).2.2
    rcases List.mem_append.1 hblock with hblock | hblock
    · exact hapart second (List.mem_flatMap.2 ⟨block, hblock, hmem'⟩) second hafter rfl
    · exact hapart first hbefore first (List.mem_flatMap.2 ⟨block, hblock, hmem⟩) rfl
  · rintro rfl
    exact exists_block_of_adjacent hfirst hsecond h

/-! ## Headers -/

/-- The line at an index is the first one of a run of lines that are not blank. -/
structure Heads (lines : List Line) (index : Nat) (header : Line) : Prop where
  here : lines[index]? = some header
  text : header.text ≠ ""
  before : ∀ last ∈ (lines.take index).getLast?, last.text = ""

/-- A header behind a blank line is one whatever is before that line. -/
theorem Heads.behind (h : Heads lines index header) (hblank : blank.text = "")
    (front : List Line) :
    Heads (front ++ blank :: lines) (front.length + (index + 1)) header where
  here := by
    rw [List.getElem?_append_right (Nat.le_add_right _ _), Nat.add_sub_cancel_left]
    exact h.here
  text := h.text
  before := by
    rw [List.take_length_add_append, List.take_succ_cons]
    intro last hlast
    rw [List.getLast?_append_of_ne_nil _ (List.cons_ne_nil _ _), List.getLast?_cons] at hlast
    cases hbefore : (lines.take index).getLast? with
    | none =>
      rw [hbefore] at hlast
      cases hlast
      exact hblank
    | some other =>
      rw [hbefore] at hlast
      cases hlast
      exact h.before other hbefore

/-- The first of all lines is a header. -/
theorem Heads.zero (htext : header.text ≠ "") : Heads (header :: lines) 0 header :=
  ⟨rfl, htext, by simp⟩

theorem heads_of_close (hpending : ∀ line ∈ pending, line.text ≠ "")
    (h : (close path pending).result = .ok blocks) (lines : List Line) :
    ∀ block ∈ blocks, ∃ index, Heads (pending.reverse ++ lines) index block.header := by
  intro block hblock
  rcases close_ok.1 h with ⟨_, rfl⟩ | ⟨_, hlines, _, rfl⟩
  · cases hblock
  cases List.mem_singleton.1 hblock
  rw [← hlines]
  refine ⟨0, .zero (hpending _ ?_)⟩
  rw [← List.mem_reverse, ← hlines]
  exact List.mem_cons_self

/-- When lines are cut into blocks, the header of each is the first line of a run. The induction is
on the lines that are left, with those that wait for the next blank one. -/
theorem heads_of_blocksOf (hpending : ∀ line ∈ pending, line.text ≠ "")
    (h : (blocksOf path pending lines).result = .ok blocks) :
    ∀ block ∈ blocks, ∃ index, Heads (pending.reverse ++ lines) index block.header := by
  induction lines generalizing pending blocks with
  | nil => exact heads_of_close hpending h []
  | cons line lines ih =>
    by_cases hblank : line.text = ""
    · obtain ⟨closed, others, hclosed, hothers, rfl⟩ := (blocksOf_blank_ok hblank).1 h
      refine List.forall_mem_append.2 ⟨heads_of_close hpending hclosed _, fun block hblock => ?_⟩
      obtain ⟨index, hheads⟩ := ih (by simp) hothers block hblock
      exact ⟨_, hheads.behind hblank pending.reverse⟩
    · rw [blocksOf_cons hblank] at h
      simpa using ih (List.forall_mem_cons.2 ⟨hblank, hpending⟩) h

theorem heads_of_close_error (hpending : ∀ line ∈ pending, line.text ≠ "")
    (h : (close path pending).result = .error error) (lines : List Line) :
    ∃ index header, Heads (pending.reverse ++ lines) index header ∧
      Block.Refused path header error := by
  unfold close at h
  cases hreverse : pending.reverse with
  | nil =>
    rw [hreverse] at h
    cases h
  | cons header rest =>
    rw [hreverse] at h
    rcases Report.result_bind_error.1 h with hclassify | ⟨_, _, hlast⟩
    · refine ⟨0, header, .zero (hpending _ ?_), Block.refused_of_classify hclassify⟩
      rw [← List.mem_reverse, hreverse]
      exact List.mem_cons_self
    · cases hlast

/-- When lines cannot be cut into blocks, the first line of a run is refused as a header. -/
theorem heads_of_blocksOf_error (hpending : ∀ line ∈ pending, line.text ≠ "")
    (h : (blocksOf path pending lines).result = .error error) :
    ∃ index header, Heads (pending.reverse ++ lines) index header ∧
      Block.Refused path header error := by
  induction lines generalizing pending with
  | nil => exact heads_of_close_error hpending h []
  | cons line lines ih =>
    by_cases hblank : line.text = ""
    · rw [blocksOf, if_pos (String.isEmpty_iff.2 hblank)] at h
      rcases Report.result_bind_error.1 h with hclosed | ⟨_, _, h⟩
      · exact heads_of_close_error hpending hclosed _
      rcases Report.result_bind_error.1 h with hothers | ⟨_, _, hlast⟩
      · obtain ⟨index, header, hheads, hrefused⟩ := ih (by simp) hothers
        exact ⟨_, header, hheads.behind hblank pending.reverse, hrefused⟩
      · cases hlast
    · rw [blocksOf_cons hblank] at h
      simpa using ih (List.forall_mem_cons.2 ⟨hblank, hpending⟩) h

end Script

end ModPack
