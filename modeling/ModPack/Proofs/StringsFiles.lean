import ModPack.Proofs.HeaderGrammar
import ModPack.Proofs.LineNumbers
import ModPack.Proofs.TextPieces
import Mathlib.Data.List.Forall2

/-!
# Strings files

A file of strings is read in two passes over its runs of lines: the first tells what each run is and
stops at a header with a malformed section, the second makes the strings and stops at the first run
that defines none. So a file is accepted exactly when every run defines a string, and the error of
the first pass comes before those of the second, however late its header is. Main statements:
`result_blocksOf`, `ofBlocks_result` and `NamedString.load_ends`.
-/
namespace ModPack

/-! ## Passes over a list -/

section Passes

variable {ε α β γ : Type} {R : α → ε → Prop} {R' : β → ε → Prop} {S : α → β → Prop}
  {T : β → γ → Prop} {U : α → γ → Prop} {item : α} {items : List α} {values : List β}
  {results : List γ} {error : ε}

/-- The error is the one that is wrong with the first item that anything is wrong with. -/
inductive First (R : α → ε → Prop) : List α → ε → Prop
  | here {item : α} {items : List α} {error : ε} (h : R item error) : First R (item :: items) error
  | later {item : α} {items : List α} {error : ε} (hnone : ∀ other, ¬ R item other)
      (h : First R items error) : First R (item :: items) error

theorem First.exists_mem (h : First R items error) : ∃ item ∈ items, R item error := by
  induction h with
  | here h => exact ⟨_, List.mem_cons_self, h⟩
  | later _ _ ih =>
    obtain ⟨item, hitem, hwrong⟩ := ih
    exact ⟨item, List.mem_cons_of_mem _ hitem, hwrong⟩

theorem First.iff_of_forall₂ (hitems : List.Forall₂ S items values)
    (h : ∀ item value, S item value → ∀ error, R item error ↔ R' value error) :
    First R items error ↔ First R' values error := by
  induction hitems with
  | nil => exact ⟨nofun, nofun⟩
  | cons hfirst _ ih =>
    have hsame := h _ _ hfirst
    constructor
    · intro hwrong
      cases hwrong with
      | here hhere => exact .here ((hsame error).1 hhere)
      | later hnone hlater =>
        exact .later (fun other => mt (hsame other).2 (hnone other)) (ih.1 hlater)
    · intro hwrong
      cases hwrong with
      | here hhere => exact .here ((hsame error).2 hhere)
      | later hnone hlater =>
        exact .later (fun other => mt (hsame other).1 (hnone other)) (ih.2 hlater)

theorem forall₂_comp :
    (∃ values, List.Forall₂ S items values ∧ List.Forall₂ T values results) ↔
      List.Forall₂ (fun item result => ∃ value, S item value ∧ T value result) items results := by
  induction items generalizing results with
  | nil => simp
  | cons item items ih =>
    simp only [List.forall₂_cons_left_iff, ← ih]
    constructor
    · rintro ⟨_, ⟨value, values, hvalue, hvalues, rfl⟩, h⟩
      obtain ⟨result, results, hresult, hresults, rfl⟩ := List.forall₂_cons_left_iff.1 h
      exact ⟨result, results, ⟨value, hvalue, hresult⟩, ⟨values, hvalues, hresults⟩, rfl⟩
    · rintro ⟨result, results, ⟨value, hvalue, hresult⟩, ⟨values, hvalues, hresults⟩, rfl⟩
      exact ⟨_, ⟨value, values, hvalue, hvalues, rfl⟩, .cons hresult hresults⟩

theorem exists_forall₂ :
    (∃ values, List.Forall₂ S items values) ↔ ∀ item ∈ items, ∃ value, S item value := by
  induction items with
  | nil => simp
  | cons item items ih =>
    rw [List.forall_mem_cons, ← ih]
    constructor
    · rintro ⟨_, h⟩
      obtain ⟨value, values, hvalue, hvalues, _⟩ := List.forall₂_cons_left_iff.1 h
      exact ⟨⟨value, hvalue⟩, ⟨values, hvalues⟩⟩
    · rintro ⟨⟨value, hvalue⟩, ⟨values, hvalues⟩⟩
      exact ⟨_, .cons hvalue hvalues⟩

variable {f : α → Except ε β}

theorem mapM_eq_ok :
    items.mapM f = .ok values ↔
      List.Forall₂ (fun item value => f item = .ok value) items values := by
  induction items generalizing values with
  | nil =>
    rw [List.mapM_nil, except_pure_ok, List.forall₂_nil_left_iff]
    exact eq_comm
  | cons item items ih =>
    rw [List.mapM_cons, List.forall₂_cons_left_iff]
    simp only [except_bind_ok, except_pure_ok, ih]
    constructor
    · rintro ⟨value, hvalue, rest, hrest, rfl⟩
      exact ⟨value, rest, hvalue, hrest, rfl⟩
    · rintro ⟨value, rest, hvalue, hrest, rfl⟩
      exact ⟨value, hvalue, rest, hrest, rfl⟩

theorem mapM_eq_error :
    items.mapM f = .error error ↔ First (fun item error => f item = .error error) items error := by
  induction items with
  | nil => exact ⟨nofun, nofun⟩
  | cons item items ih =>
    rw [List.mapM_cons]
    cases hitem : f item with
    | error found =>
      constructor
      · intro h
        cases h
        exact .here hitem
      · intro h
        cases h with
        | here hhere =>
          cases hitem.symm.trans hhere
          rfl
        | later hnone => exact absurd hitem (hnone found)
    | ok value =>
      have hnone : ∀ other, f item ≠ .error other := by simp [hitem]
      have hrest : (Except.ok value >>= fun first => items.mapM f >>= fun rest =>
          pure (first :: rest)) = .error error ↔ items.mapM f = .error error := by
        cases items.mapM f <;> simp [bind, Except.bind, pure, Except.pure]
      rw [hrest, ih]
      constructor
      · exact .later hnone
      · intro h
        cases h with
        | here hhere => exact absurd hhere (hnone error)
        | later _ hlater => exact hlater

end Passes

/-- The result of a sequence, told by the results of its parts. -/
theorem Report.result_bind {ε α β : Type} (first : Report ε α) (next : α → Report ε β) :
    (first >>= next).result = first.result >>= fun value => (next value).result := by
  cases h : first.result with
  | error error =>
    rw [Report.bind_error h]
    rfl
  | ok value =>
    rw [Report.bind_ok h]
    rfl

/-! ## Runs of lines -/

namespace Script

variable {path : Path} {pending front back lines : List Line} {blank : Line}
  {package source : String}

/-- The first of some lines, and those behind it. -/
def headed? : List Line → Option (Line × List Line)
  | [] => none
  | header :: rest => some (header, rest)

/-- The lines between blank ones: the first of each run, and those behind it. -/
def runs (lines : List Line) : List (Line × List Line) :=
  (lines.splitOnP (·.text = "")).filterMap headed?

theorem runs_of_ne (h : ∀ line ∈ lines, line.text ≠ "") : runs lines = (headed? lines).toList := by
  rw [runs, List.splitOnP_eq_singleton (by simpa using h)]
  cases lines <;> rfl

/-- A blank line parts the runs before it from those behind it. -/
theorem runs_append_cons (hblank : blank.text = "") :
    runs (front ++ blank :: back) = runs front ++ runs back := by
  rw [runs, List.splitOnP_append_cons front back (by simpa using hblank), List.filterMap_append]
  rfl

theorem result_close (hpending : ∀ line ∈ pending, line.text ≠ "") :
    (close path pending).result =
      (runs pending.reverse).mapM fun run => (Block.classify path run.1 run.2).result := by
  rw [runs_of_ne (by simpa using hpending), close]
  cases pending.reverse with
  | nil => rfl
  | cons header rest =>
    rw [headed?, Option.toList_some, List.mapM_cons, List.mapM_nil]
    exact Report.result_bind _ _

/-- The blocks of lines are their runs with what each is. -/
theorem result_blocksOf (hpending : ∀ line ∈ pending, line.text ≠ "") :
    (blocksOf path pending lines).result =
      (runs (pending.reverse ++ lines)).mapM fun run =>
        (Block.classify path run.1 run.2).result := by
  induction lines generalizing pending with
  | nil => rw [List.append_nil, blocksOf, result_close hpending]
  | cons line lines ih =>
    by_cases hblank : line.text = ""
    · have hlater : (blocksOf path [] lines).result =
          (runs lines).mapM fun run => (Block.classify path run.1 run.2).result := ih (by simp)
      rw [runs_append_cons hblank, List.mapM_append, blocksOf, if_pos (String.isEmpty_iff.2 hblank),
        Report.result_bind, result_close hpending]
      simp only [Report.result_bind, Report.result_pure, hlater]
      rfl
    · rw [blocksOf_cons hblank, ih (List.forall_mem_cons.2 ⟨hblank, hpending⟩)]
      simp

theorem result_blocksOf_nil (path : Path) (lines : List Line) :
    (blocksOf path [] lines).result =
      (runs lines).mapM fun run => (Block.classify path run.1 run.2).result :=
  result_blocksOf (by simp)

end Script

/-! ## What a run defines -/

namespace Block

variable {path : Path}

theorem map_lines {runs : List (Line × List Line)} {blocks : List Block}
    (h : List.Forall₂ (fun run block => (classify path run.1 run.2).result = .ok block) runs
      blocks) :
    blocks.map Block.lines = runs.map fun run => run.1 :: run.2 := by
  induction h with
  | nil => rfl
  | cons hfirst _ ih =>
    obtain ⟨kind, _, rfl⟩ := classify_ok.1 hfirst
    exact congrArg (List.cons _) ih

end Block

namespace NamedString

variable {path : Path} {header : Line} {rest : List Line} {run : Line × List Line}
  {kind : BlockKind} {string : NamedString} {strings : List NamedString} {blocks : List Block}
  {error : LoadError} {disk : Disk} {package source : String}

/-- A run defines a string: its header has a section that fits and a name that an export may have,
and the lines behind it are the text. -/
structure Defines (path : Path) (run : Line × List Line) (string : NamedString) : Prop where
  header : ∃ bank rest, Block.Parts run.1.text bank string.name rest ∧ Block.Digits bank string.bank
  name : (Name.checkExport string.name).result = .ok ()
  range : string.bank ≤ LoadError.maxSection
  text : string.text = "\n".intercalate (run.2.map (·.text))
  path : string.path = some path
  state : string.state = .unassembled

/-- Why a header that is not garbled defines no string: the kind is looked at first, then the name,
then the section. -/
inductive Offends (path : Path) (header : Line) : LoadError → Prop
  | kind (parts : ∀ bank name rest, ¬ Block.Parts header.text bank name rest) :
      Offends path header (.blockNotString path header.number)
  | name {bank name rest : String} {number : Nat} {cause : NameError}
      (parts : Block.Parts header.text bank name rest) (digits : Block.Digits bank number)
      (check : (Name.checkExport name).result = .error cause) :
      Offends path header (.stringName path header.number cause)
  | range {bank name rest : String} {number : Nat}
      (parts : Block.Parts header.text bank name rest) (digits : Block.Digits bank number)
      (check : (Name.checkExport name).result = .ok ()) (above : LoadError.maxSection < number) :
      Offends path header (.sectionRange path header.number number)

theorem ofBlock_ok (hkind : Block.kindOf? header.text = some kind) :
    (ofBlock path ⟨header, rest, kind⟩).result = .ok string ↔
      Defines path (header, rest) string := by
  cases kind with
  | other =>
    have hnone := Block.kindOf?_eq_some_other.1 hkind
    constructor
    · intro h
      cases h
    · rintro ⟨⟨bank, rest, hparts, _⟩, _⟩
      exact absurd hparts (hnone _ _ _)
  | namedString number name =>
    obtain ⟨bank, behind, hparts, hdigits⟩ := Block.kindOf?_eq_some_namedString.1 hkind
    unfold ofBlock
    rw [Report.result_seq_ok, Report.result_mapError_ok]
    constructor
    · rintro ⟨hname, h⟩
      split at h
      · cases h
      · next habove =>
        cases h
        exact ⟨⟨bank, behind, hparts, hdigits⟩, hname, Nat.le_of_not_lt habove, rfl, rfl, rfl⟩
    · rintro ⟨⟨bank', behind', hparts', hdigits'⟩, hname, hrange, htext, hpath, hstate⟩
      obtain ⟨rfl, hsame, _⟩ := hparts.unique hparts'
      obtain rfl := hdigits.unique hdigits'
      refine ⟨hsame ▸ hname, ?_⟩
      rw [if_neg (Nat.not_lt_of_le hrange)]
      cases string
      cases hsame
      cases htext
      cases hpath
      cases hstate
      rfl

theorem ofBlock_error (hkind : Block.kindOf? header.text = some kind) :
    (ofBlock path ⟨header, rest, kind⟩).result = .error error ↔ Offends path header error := by
  cases kind with
  | other =>
    have hnone := Block.kindOf?_eq_some_other.1 hkind
    constructor
    · intro h
      cases h
      exact .kind hnone
    · intro h
      cases h with
      | kind => rfl
      | name hparts => exact absurd hparts (hnone _ _ _)
      | range hparts => exact absurd hparts (hnone _ _ _)
  | namedString number name =>
    obtain ⟨bank, behind, hparts, hdigits⟩ := Block.kindOf?_eq_some_namedString.1 hkind
    unfold ofBlock
    rw [Report.result_seq_error, Report.result_mapError_error]
    constructor
    · rintro (⟨cause, hcause, rfl⟩ | ⟨hname, h⟩)
      · exact .name hparts hdigits hcause
      · split at h
        · next habove =>
          cases h
          exact .range hparts hdigits (Report.result_mapError_ok.1 hname) habove
        · cases h
    · intro h
      cases h with
      | kind hnone => exact absurd hparts (hnone _ _ _)
      | name hparts' _ hcheck =>
        obtain ⟨_, rfl, _⟩ := hparts.unique hparts'
        exact .inl ⟨_, hcheck, rfl⟩
      | range hparts' hdigits' hcheck habove =>
        obtain ⟨rfl, rfl, _⟩ := hparts.unique hparts'
        obtain rfl := hdigits.unique hdigits'
        refine .inr ⟨Report.result_mapError_ok.2 hcheck, ?_⟩
        rw [if_pos habove]
        rfl

/-- The two passes over one run give the string that it defines. -/
theorem defines_iff :
    (∃ block, (Block.classify path run.1 run.2).result = .ok block ∧
      (ofBlock path block).result = .ok string) ↔ Defines path run string := by
  obtain ⟨header, rest⟩ := run
  constructor
  · rintro ⟨block, hblock, hstring⟩
    obtain ⟨kind, hkind, rfl⟩ := Block.classify_ok.1 hblock
    exact (ofBlock_ok hkind).1 hstring
  · intro h
    obtain ⟨bank, behind, hparts, hdigits⟩ := h.header
    have hkind := Block.kindOf?_eq_some_namedString.2 ⟨bank, behind, hparts, hdigits⟩
    exact ⟨_, Block.classify_ok.2 ⟨_, hkind, rfl⟩, (ofBlock_ok hkind).2 h⟩

theorem offends_iff {block : Block}
    (hblock : (Block.classify path run.1 run.2).result = .ok block) (error : LoadError) :
    Offends path run.1 error ↔ (ofBlock path block).result = .error error := by
  obtain ⟨kind, hkind, rfl⟩ := Block.classify_ok.1 hblock
  exact (ofBlock_error hkind).symm

theorem exists_block_iff :
    (∃ block, (Block.classify path run.1 run.2).result = .ok block) ↔
      ∀ error, ¬ Block.Garbled path run.1 error := by
  have herror (error : LoadError) : Block.Garbled path run.1 error ↔
      (Block.classify path run.1 run.2).result = .error error := Block.classify_error.symm
  simp only [herror]
  cases (Block.classify path run.1 run.2).result <;> simp

/-- A run defines a string exactly when nothing is wrong with its header. -/
theorem exists_defines_iff :
    (∃ string, Defines path run string) ↔
      ∀ error, ¬ Block.Garbled path run.1 error ∧ ¬ Offends path run.1 error := by
  simp only [← defines_iff, forall_and, ← exists_block_iff]
  constructor
  · rintro ⟨string, block, hblock, hstring⟩
    refine ⟨⟨block, hblock⟩, fun error herror => ?_⟩
    rw [offends_iff hblock, hstring] at herror
    cases herror
  · rintro ⟨⟨block, hblock⟩, hoffends⟩
    cases hstring : (ofBlock path block).result with
    | error error => exact absurd ((offends_iff hblock error).2 hstring) (hoffends error)
    | ok string => exact ⟨string, block, hblock, hstring⟩

theorem result_ofBlocks (path : Path) (blocks : List Block) :
    (ofBlocks path blocks).result = blocks.mapM fun block => (ofBlock path block).result := by
  induction blocks with
  | nil => rfl
  | cons block blocks ih =>
    rw [List.mapM_cons, ← ih, ofBlocks, Report.result_bind]
    simp only [Report.result_bind, Report.result_pure]
    rfl

/-! ## Loading a file -/

section Loading

variable (hread : Script.readText disk path = .ok source)
include hread

theorem scriptLoad_ok {script : Script} :
    (Script.load disk package path).result = .ok script ↔
      ∃ blocks, List.Forall₂
          (fun run block => (Block.classify path run.1 run.2).result = .ok block)
          (Script.runs (Script.trimmedLines source)) blocks ∧ ⟨path, blocks, package⟩ = script := by
  unfold Script.load
  rw [hread, Report.result_bind_ok]
  simp only [Report.result_mapError_ok, Report.result_ofExcept, Except.ok.injEq, exists_eq_left',
    Script.parse_ok, Script.result_blocksOf_nil, mapM_eq_ok]

theorem scriptLoad_error :
    (Script.load disk package path).result = .error error ↔
      First (fun run => Block.Garbled path run.1) (Script.runs (Script.trimmedLines source))
        error := by
  unfold Script.load
  rw [hread, Report.result_bind_error]
  simp [Script.parse_error, Script.result_blocksOf_nil, mapM_eq_error, Block.classify_error]

theorem load_ok :
    (load disk package path).result = .ok strings ↔
      List.Forall₂ (Defines path) (Script.runs (Script.trimmedLines source)) strings := by
  constructor
  · intro h
    obtain ⟨script, hscript, h⟩ := Report.result_bind_ok.1 h
    obtain ⟨blocks, hblocks, rfl⟩ := (scriptLoad_ok hread).1 hscript
    obtain ⟨found, hfound, h⟩ := Report.result_bind_ok.1 h
    cases h
    rw [result_ofBlocks, mapM_eq_ok] at hfound
    exact (forall₂_comp.1 ⟨blocks, hblocks, hfound⟩).imp fun _ _ => defines_iff.1
  · intro h
    obtain ⟨blocks, hblocks, hstrings⟩ := forall₂_comp.2 (h.imp fun _ _ => defines_iff.2)
    refine Report.result_bind_ok.2 ⟨_, (scriptLoad_ok hread).2 ⟨blocks, hblocks, rfl⟩, ?_⟩
    refine Report.result_bind_ok.2 ⟨strings, ?_, rfl⟩
    rw [result_ofBlocks, mapM_eq_ok]
    exact hstrings

/-- The second pass is made only when no header is garbled. -/
theorem load_error :
    (load disk package path).result = .error error ↔
      First (fun run => Block.Garbled path run.1) (Script.runs (Script.trimmedLines source)) error ∨
        (∀ run ∈ Script.runs (Script.trimmedLines source), ∀ other,
            ¬ Block.Garbled path run.1 other) ∧
          First (fun run => Offends path run.1) (Script.runs (Script.trimmedLines source))
            error := by
  have hpass : (∃ blocks, List.Forall₂
        (fun run block => (Block.classify path run.1 run.2).result = .ok block)
        (Script.runs (Script.trimmedLines source)) blocks) ↔
      ∀ run ∈ Script.runs (Script.trimmedLines source), ∀ other,
        ¬ Block.Garbled path run.1 other := by
    simp only [exists_forall₂, exists_block_iff]
  unfold load
  rw [Report.result_bind_error, scriptLoad_error hread, ← hpass]
  refine or_congr_right ?_
  constructor
  · rintro ⟨script, hscript, h⟩
    obtain ⟨blocks, hblocks, rfl⟩ := (scriptLoad_ok hread).1 hscript
    rcases Report.result_bind_error.1 h with hstrings | ⟨_, _, hlast⟩
    · rw [result_ofBlocks, mapM_eq_error] at hstrings
      exact ⟨⟨blocks, hblocks⟩, (First.iff_of_forall₂ hblocks fun _ _ => offends_iff).2 hstrings⟩
    · cases hlast
  · rintro ⟨⟨blocks, hblocks⟩, hoffends⟩
    refine ⟨_, (scriptLoad_ok hread).2 ⟨blocks, hblocks, rfl⟩, Report.result_bind_error.2 (.inl ?_)⟩
    rw [result_ofBlocks, mapM_eq_error]
    exact (First.iff_of_forall₂ hblocks fun _ _ => offends_iff).1 hoffends

/-- The blocks of a file are its runs of lines. -/
theorem lines_of_load {script : Script} (h : (Script.load disk package path).result = .ok script) :
    script.blocks.map Block.lines =
      (Script.runs (Script.trimmedLines source)).map fun run => run.1 :: run.2 := by
  obtain ⟨blocks, hblocks, rfl⟩ := (scriptLoad_ok hread).1 h
  exact Block.map_lines hblocks

end Loading

/-- A strings file that can be read is accepted exactly when every run of its lines defines a
string, and then gives one string for each run, in order. Otherwise the error is about the first
header that is garbled, wherever that is; if none is, it is about the first header that defines no
string. -/
theorem load_ends (disk : Disk) (package : String) (path : Path) (source : String)
    (hread : Script.readText disk path = .ok source) :
    (∀ strings, (load disk package path).result = .ok strings ↔
      List.Forall₂ (Defines path) (Script.runs (Script.trimmedLines source)) strings) ∧
    ((∃ strings, (load disk package path).result = .ok strings) ↔
      ∀ run ∈ Script.runs (Script.trimmedLines source), ∃ string, Defines path run string) ∧
    (∀ error, (load disk package path).result = .error error ↔
      First (fun run => Block.Garbled path run.1) (Script.runs (Script.trimmedLines source)) error ∨
        (∀ run ∈ Script.runs (Script.trimmedLines source), ∀ other,
            ¬ Block.Garbled path run.1 other) ∧
          First (fun run => Offends path run.1) (Script.runs (Script.trimmedLines source)) error) ∧
    (∀ run : Line × List Line, (∃ string, Defines path run string) ↔
      ∀ error, ¬ Block.Garbled path run.1 error ∧ ¬ Offends path run.1 error) ∧
    ∀ script, (Script.load disk package path).result = .ok script →
      script.blocks.map Block.lines =
        (Script.runs (Script.trimmedLines source)).map fun run => run.1 :: run.2 := by
  refine ⟨fun strings => load_ok hread, ?_, fun error => load_error hread,
    fun run => exists_defines_iff, fun script => lines_of_load hread⟩
  simp only [load_ok hread, exists_forall₂]

end NamedString

namespace Sample

def lettersPath : Path :=
  ⟨.root, ["letters.str"]⟩

/-- The second header has a bad name; the third one is garbled. -/
def letters : String :=
  "#string:01:(greeting)\nHello!\n\n#string:02:(9lives)\nMeow.\n\n#string:1:(late)\nZzz.\n"

def lettersDisk : Disk :=
  (Disk.outcome (Disk.writeText lettersPath letters) {}).2

end Sample

namespace NamedString

theorem load_ends_letters :
    Script.readText Sample.lettersDisk Sample.lettersPath = .ok Sample.letters ∧
      First (fun run => Block.Garbled Sample.lettersPath run.1)
        (Script.runs (Script.trimmedLines Sample.letters))
        (.badSection Sample.lettersPath 7 "1") := by
  have hread : Script.readText Sample.lettersDisk Sample.lettersPath = .ok Sample.letters := by
    decide +kernel
  have hload : (load Sample.lettersDisk "game" Sample.lettersPath).result =
      .error (.badSection Sample.lettersPath 7 "1") := by decide +kernel
  obtain ⟨_, _, herror, _⟩ :=
    load_ends Sample.lettersDisk "game" Sample.lettersPath Sample.letters hread
  refine ⟨hread, ?_⟩
  rcases (herror _).1 hload with hgarbled | ⟨_, hoffends⟩
  · exact hgarbled
  · obtain ⟨_, _, hwrong⟩ := hoffends.exists_mem
    cases hwrong

end NamedString

end ModPack
