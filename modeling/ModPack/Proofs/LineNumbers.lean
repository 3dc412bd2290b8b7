import ModPack.Proofs.CommentGrammar
import ModPack.Proofs.ScriptRuns

/-!
# Line numbers

A stripped line has the number of the source line that its first character is on, blanks at its
front included. These numbers do not go down, and they go up from each line with a text to the next
one; so the lines of a script are numbered upwards, and an error about a header has the number of
the line on which that header starts. Main statements: `Stripper.Ordered.step`, `heads_of_blocksOf`
and `numbers_of_strip`.
-/
namespace ModPack

namespace Comment

/-! ## The order of numbers -/

namespace Stripper

variable {s s' : Stripper}

/-- The least number of the line that is finished next, if that has a text. -/
def next (s : Stripper) : Nat :=
  if s.current = [] then if s.mode = .line then s.number + 1 else s.number else s.start

/-- The numbers of the finished lines, last one first, are in order. -/
structure Ordered (s : Stripper) : Prop where
  start_le : s.start ≤ s.number
  le_start : ∀ line ∈ s.lines, line.number ≤ s.start
  lt_next : ∀ line ∈ s.lines, line.text ≠ "" → line.number < s.next
  sorted : s.lines.Pairwise fun later earlier => earlier.number ≤ later.number
  strict : s.lines.Pairwise fun later earlier =>
    earlier.text ≠ "" → later.text ≠ "" → earlier.number < later.number

namespace Ordered

/-- No line is finished, and neither the start nor what comes next goes back. -/
theorem keep (h : s.Ordered) (hlines : s'.lines = s.lines) (hstart : s.start ≤ s'.start)
    (hnumber : s'.start ≤ s'.number) (hnext : s.next ≤ s'.next) : s'.Ordered where
  start_le := hnumber
  le_start line hline := (h.le_start line (hlines ▸ hline)).trans hstart
  lt_next line hline htext := (h.lt_next line (hlines ▸ hline) htext).trans_le hnext
  sorted := hlines ▸ h.sorted
  strict := hlines ▸ h.strict

theorem next_of_text (hcurrent : s.current ≠ []) : s.next = s.start := if_neg hcurrent

/-- The line that has been read of is finished. -/
theorem close (h : s.Ordered)
    (hlines : s'.lines = ⟨s.start, .ofList s.current.reverse⟩ :: s.lines)
    (hstart : s'.start = s.start) (hnumber : s.start ≤ s'.number) (hnext : s.start < s'.next) :
    s'.Ordered where
  start_le := hstart ▸ hnumber
  le_start := by
    rw [hlines, hstart]
    exact List.forall_mem_cons.2 ⟨le_rfl, h.le_start⟩
  lt_next := by
    rw [hlines]
    exact List.forall_mem_cons.2
      ⟨fun _ => hnext, fun line hline _ => (h.le_start line hline).trans_lt hnext⟩
  sorted := by
    rw [hlines]
    exact List.pairwise_cons.2 ⟨h.le_start, h.sorted⟩
  strict := by
    rw [hlines]
    refine List.pairwise_cons.2 ⟨fun line hline htext hclosed => ?_, h.strict⟩
    have hcurrent : s.current ≠ [] := by
      intro hnil
      simp [hnil] at hclosed
    rw [← next_of_text hcurrent]
    exact h.lt_next line hline htext

theorem endLine (h : s.Ordered) : s.endLine.lines.Pairwise (fun later earlier =>
    earlier.number ≤ later.number) ∧ s.endLine.lines.Pairwise fun later earlier =>
      earlier.text ≠ "" → later.text ≠ "" → earlier.number < later.number := by
  have hclosed : Ordered { s.endLine with number := s.number + 1, mode := .text } := by
    refine h.close rfl rfl (h.start_le.trans (Nat.le_succ _)) ?_
    simpa [next, Stripper.endLine] using Nat.lt_succ_of_le h.start_le
  exact ⟨hclosed.sorted, hclosed.strict⟩

theorem pass (h : s.Ordered) (c : Char) : (s.pass c).Ordered := by
  have hstart := h.start_le
  have hnumber : s.number ≤ (s.pass c).number := by
    simp only [Stripper.pass]
    split <;> omega
  refine h.keep rfl le_rfl (hstart.trans hnumber) ?_
  change s.next ≤ if s.current = [] then
    if s.mode = .line then (s.pass c).number + 1 else (s.pass c).number else s.start
  unfold next
  split
  · split <;> omega
  · exact le_rfl

theorem append (h : s.Ordered) (hmode : s.mode = .text) (c : Char) : (s.append c).Ordered := by
  have hstart := h.start_le
  by_cases hcurrent : s.current = []
  · refine h.keep rfl ?_ ?_ ?_ <;> simp [Stripper.append, next, hcurrent, hmode, hstart]
  · refine h.keep rfl ?_ ?_ ?_ <;> simp [Stripper.append, next, hcurrent, hstart]

/-- Nothing may be left of the line when the slash is taken away. -/
theorem openBlock (h : s.Ordered) (hmode : s.mode = .text) : s.openBlock.Ordered := by
  have hstart := h.start_le
  refine h.keep rfl le_rfl hstart ?_
  match hcurrent : s.current with
  | [] => simp [Stripper.openBlock, next, hcurrent, hmode]
  | [_] => simpa [Stripper.openBlock, next, hcurrent] using hstart
  | _ :: _ :: _ => simp [Stripper.openBlock, next, hcurrent]

theorem openLine (h : s.Ordered) (hmode : s.mode = .text) : s.openLine.Ordered := by
  have hstart := h.start_le
  unfold Stripper.openLine
  dsimp only
  split
  · refine h.keep rfl le_rfl hstart ?_
    simp only [next, hmode, if_pos]
    split
    · simp
    · omega
  · refine h.close rfl rfl hstart ?_
    simpa [next, Stripper.endLine] using Nat.lt_succ_of_le hstart

/-- A line end makes place for a line with a higher number. -/
theorem step (h : s.Ordered) (c : Char) : (s.step c).Ordered := by
  have hstart := h.start_le
  by_cases hreturn : c = '\r'
  · simpa only [Stripper.step, if_pos hreturn] using h
  cases hmode : s.mode with
  | block =>
    rw [step_block hmode hreturn]
    split
    · exact h.keep rfl le_rfl hstart (by simp [next, hmode])
    · exact h.pass c
  | line =>
    rw [step_line hmode hreturn]
    by_cases hend : c = '\n'
    · refine h.keep rfl le_rfl ?_ ?_
      · simpa [Stripper.pass, hend] using hstart.trans (Nat.le_succ _)
      · simp [next, Stripper.pass, hmode, hend]
    · refine h.keep rfl le_rfl ?_ ?_
      · simpa [Stripper.pass, hend] using hstart
      · simp [next, Stripper.pass, hmode, hend]
  | text =>
    by_cases hmark : c = '%'
    · subst hmark
      rw [step_mark hmode]
      split
      · exact h.openBlock hmode
      · exact (h.openLine hmode).pass '%'
    by_cases hend : c = '\n'
    · subst hend
      rw [step_end hmode]
      refine h.close rfl rfl ?_ ?_
      · simpa [Stripper.pass, Stripper.endLine] using hstart.trans (Nat.le_succ _)
      · simpa [next, Stripper.pass, Stripper.endLine, hmode] using Nat.lt_succ_of_le hstart
    · rw [step_inert hmode (by simp [isInert, hmark, hreturn, hend])]
      exact (h.append hmode c).pass c

theorem foldl (h : s.Ordered) (text : List Char) : (text.foldl Stripper.step s).Ordered := by
  induction text generalizing s with
  | nil => exact h
  | cons c rest ih => exact ih (h.step c)

end Ordered

end Stripper

variable {source : String} {index place : Nat} {line : Line}

/-- The numbers of stripped lines do not go down, and they go up from text to text. -/
theorem pairwise_strip (source : String) :
    (strip source).Pairwise (·.number ≤ ·.number) ∧
      ((strip source).filter (·.text ≠ "")).Pairwise (·.number < ·.number) := by
  have hstart : Stripper.Ordered {} := ⟨Nat.le_refl 1, by simp, by simp, .nil, .nil⟩
  obtain ⟨hsorted, hstrict⟩ := (hstart.foldl source.toList).endLine
  refine ⟨List.pairwise_reverse.2 hsorted, ?_⟩
  rw [List.pairwise_filter]
  refine List.Pairwise.imp (fun hlt hfirst hsecond => ?_) (List.pairwise_reverse.2 hstrict)
  exact hlt (of_decide_eq_true hfirst) (of_decide_eq_true hsecond)

/-! ## Where lines begin -/

/-- The line at an index of a stripped source begins with the character at a place of the source, as
the grammar has it. -/
def BeginsAt (source : String) (index place : Nat) : Prop :=
  ∃ first more, (linesFrom Prod.fst [] (placed source.toList))[index]? = some (first :: more) ∧
    first.2 = place

theorem exists_beginsAt (h : (strip source)[index]? = some line) (htext : line.text ≠ "") :
    ∃ place, BeginsAt source index place ∧ line.number = rowAt 1 source.toList place := by
  obtain ⟨marks, hmarks, hshows⟩ := getElem?_of_forall₂ (shows_strip source) h
  cases marks with
  | nil => exact absurd (String.toList_eq_nil_iff.1 hshows.text) htext
  | cons first more => exact ⟨first.2, ⟨first, more, hmarks, rfl⟩, hshows.number first rfl⟩

end Comment

namespace Script

variable {source package : String} {path : Path} {script : Script} {index : Nat} {header : Line}
  {error : LoadError} {disk : Disk}

theorem ne_of_trim_ne {text : String} (h : Text.trim text ≠ "") : text ≠ "" := by
  rintro rfl
  exact h rfl

/-- The lines of a script are numbered upwards. -/
theorem numbers_of_parse (h : (parse source path package).result = .ok script) :
    script.lines.Pairwise (·.number < ·.number) := by
  have hstrict := (Comment.pairwise_strip source).2
  rw [List.pairwise_filter] at hstrict
  rw [lines_of_parse h, List.pairwise_filter, trimmedLines, List.pairwise_map]
  refine hstrict.imp fun hlt hfirst hsecond => hlt ?_ ?_
  · simpa using ne_of_trim_ne (of_decide_eq_true hfirst)
  · simpa using ne_of_trim_ne (of_decide_eq_true hsecond)

theorem Heads.exists_beginsAt (h : Heads (trimmedLines source) index header) :
    ∃ place, Comment.BeginsAt source index place ∧
      header.number = Comment.rowAt 1 source.toList place := by
  have hhere := h.here
  rw [trimmedLines, List.getElem?_map] at hhere
  obtain ⟨stripped, hstripped, rfl⟩ := Option.map_eq_some_iff.1 hhere
  obtain ⟨place, hplace, hnumber⟩ := Comment.exists_beginsAt hstripped (ne_of_trim_ne h.text)
  exact ⟨place, hplace, hnumber⟩

/-! ## Headers that are refused -/

/-- An error is about a header of the source, and has the number of the source line that the header
begins on. -/
def RefusedAt (path : Path) (source : String) (error : LoadError) : Prop :=
  ∃ index header place, Heads (trimmedLines source) index header ∧
    Block.Refused path header error ∧ Comment.BeginsAt source index place ∧
    error.line? = some (Comment.rowAt 1 source.toList place)

theorem Heads.refusedAt (h : Heads (trimmedLines source) index header)
    (hrefused : Block.Refused path header error) : RefusedAt path source error := by
  obtain ⟨place, hplace, hnumber⟩ := h.exists_beginsAt
  exact ⟨index, header, place, h, hrefused, hplace, hnumber ▸ hrefused.line?_eq⟩

theorem parse_error :
    (parse source path package).result = .error error ↔
      (blocksOf path [] (trimmedLines source)).result = .error error := by
  unfold parse
  simp only [Report.result_bind_error]
  constructor
  · rintro (h | ⟨blocks, _, h⟩)
    · exact h
    · split at h <;> simp at h
  · exact .inl

theorem refusedAt_of_parse (h : (parse source path package).result = .error error) :
    RefusedAt path source error := by
  obtain ⟨index, header, hheads, hrefused⟩ := heads_of_blocksOf_error (by simp) (parse_error.1 h)
  exact hheads.refusedAt hrefused

end Script

namespace NamedString

variable {path : Path} {package : String} {disk : Disk} {error : LoadError} {block : Block}
  {blocks : List Block}

/-- A block that defines no string is refused for its header. -/
theorem refused_of_ofBlock (hkind : Block.kindOf? block.header.text = some block.kind)
    (h : (ofBlock path block).result = .error error) : Block.Refused path block.header error := by
  unfold Block.kindOf? at hkind
  unfold ofBlock at h
  cases hparts : Block.headerParts? block.header.text with
  | none =>
    rw [hparts] at hkind
    rw [← Option.some.inj hkind] at h
    cases h
    exact .notString hparts
  | some parts =>
    obtain ⟨text, name⟩ := parts
    rw [hparts] at hkind
    obtain ⟨bank, hbank, hnamed⟩ := Option.map_eq_some_iff.1 hkind
    rw [← hnamed] at h
    rcases Report.result_seq_error.1 h with hname | ⟨_, h⟩
    · obtain ⟨cause, hcause, rfl⟩ := Report.result_mapError_error.1 hname
      exact .badName hparts hcause
    · dsimp only at h
      split at h
      · next habove =>
        cases h
        exact .range hparts hbank habove
      · cases h

theorem exists_of_ofBlocks (h : (ofBlocks path blocks).result = .error error) :
    ∃ block ∈ blocks, (ofBlock path block).result = .error error := by
  induction blocks with
  | nil => cases h
  | cons first rest ih =>
    rw [ofBlocks] at h
    rcases Report.result_bind_error.1 h with hfirst | ⟨_, _, h⟩
    · exact ⟨first, List.mem_cons_self, hfirst⟩
    rcases Report.result_bind_error.1 h with hrest | ⟨_, _, hlast⟩
    · obtain ⟨block, hblock, herror⟩ := ih hrest
      exact ⟨block, List.mem_cons_of_mem _ hblock, herror⟩
    · cases hlast

/-- A strings file that is not loaded cannot be read, or the header of one of its blocks is
refused. -/
theorem refusedAt_of_load (h : (load disk package path).result = .error error) :
    (∃ cause, error = .unreadableScript path cause) ∨
      ∃ source, Script.readText disk path = .ok source ∧ Script.RefusedAt path source error := by
  rcases Report.result_bind_error.1 h with hscript | ⟨script, hscript, h⟩
  · rcases Report.result_bind_error.1 hscript with hread | ⟨source, hread, hparse⟩
    · obtain ⟨cause, _, rfl⟩ := Report.result_mapError_error.1 hread
      exact .inl ⟨cause, rfl⟩
    · exact .inr ⟨source, Report.result_mapError_ok.1 hread, Script.refusedAt_of_parse hparse⟩
  · obtain ⟨source, hread, hparse⟩ := Report.result_bind_ok.1 hscript
    refine .inr ⟨source, Report.result_mapError_ok.1 hread, ?_⟩
    rcases Report.result_bind_error.1 h with hstrings | ⟨_, _, hlast⟩
    · obtain ⟨block, hblock, herror⟩ := exists_of_ofBlocks hstrings
      have hrefused := refused_of_ofBlock (Script.sound_of_parse hparse block hblock).kind herror
      obtain ⟨blocks, hblocks, rfl⟩ := Script.parse_ok.1 hparse
      obtain ⟨index, hheads⟩ := Script.heads_of_blocksOf (by simp) hblocks block hblock
      exact hheads.refusedAt hrefused
    · cases hlast

end NamedString

/-- Lines are numbered by the lines of their source. A stripped line has the number of the source
line that its first character is on. These numbers do not go down, and they go up along the lines
that have a text, so they do in every script. An error about a header has the number of the source
line that this header begins on. -/
theorem Comment.numbers_of_strip :
    (∀ source : String,
      List.Forall₂ (Shows Prod.fst fun mark => rowAt 1 source.toList mark.2) (strip source)
          (linesFrom Prod.fst [] (placed source.toList)) ∧
        ((strip source).filter (·.text ≠ "")).Pairwise (·.number < ·.number) ∧
        (strip source).Pairwise (·.number ≤ ·.number) ∧
        ∀ (path : Path) (package : String),
          (∀ script, (Script.parse source path package).result = .ok script →
            script.lines.Pairwise (·.number < ·.number)) ∧
          ∀ error, (Script.parse source path package).result = .error error →
            Script.RefusedAt path source error) ∧
    ∀ (disk : Disk) (package : String) (path : Path) (error : LoadError),
      (NamedString.load disk package path).result = .error error →
        (∃ cause, error = .unreadableScript path cause) ∨
          ∃ source, Script.readText disk path = .ok source ∧
            Script.RefusedAt path source error := by
  refine ⟨fun source => ⟨shows_strip source, (pairwise_strip source).2, (pairwise_strip source).1,
    fun path package => ⟨fun script => Script.numbers_of_parse,
      fun error => Script.refusedAt_of_parse⟩⟩, fun disk package path error => ?_⟩
  exact NamedString.refusedAt_of_load

namespace Sample

def tanglePath : Path :=
  ⟨.root, ["tangle.bscr"]⟩

/-- A source with block comments over line ends. The second one is in the middle of a header, which
begins with the blanks before the comment. -/
def tangle : String :=
  "/% a\n b %/ok\n\n  /% c\n%/#string:zz:(x)\n"

end Sample

theorem Comment.numbers_of_strip_tangle :
    (Script.parse Sample.tangle Sample.tanglePath "game").result =
        .error (.badSection Sample.tanglePath 4 "zz") ∧
      Script.RefusedAt Sample.tanglePath Sample.tangle (.badSection Sample.tanglePath 4 "zz") := by
  have hparse : (Script.parse Sample.tangle Sample.tanglePath "game").result =
      .error (.badSection Sample.tanglePath 4 "zz") := by
    decide +kernel
  obtain ⟨_, _, _, hscripts⟩ := numbers_of_strip.1 Sample.tangle
  exact ⟨hparse, (hscripts Sample.tanglePath "game").2 _ hparse⟩

end ModPack
