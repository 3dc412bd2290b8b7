import ModPack.Proofs.ExpressionValues
import ModPack.Proofs.FailureStages

/-!
# What resolving leaves of a script

When all exports have their indices, a script resolves or stops at an expression that lacks
something. Up to there the script is rewritten: the blocks before the one with the expression, and
no part of that block or of those behind it. The stop is told for the pieces of a line first, then
for lines and for blocks. Main statements: `segments_stop`, `block_stop`, `ends_blocks` and
`Script.resolve_ends`.
-/
namespace ModPack

open Work (outcome)

/-- What a piece of a line becomes in a script of the package `source`. -/
inductive Segment.Becomes (exports : Exports) (source : String) : Segment → List Char → Prop
  | plain (c : Char) : Becomes exports source (.plain c) [c]
  | untouched {expression : Expression} (h : ¬ expression.Supported) :
      Becomes exports source (.expression expression) expression.text.toList
  | word {expression : Expression} {word : String} (h : expression.Denotes exports source word) :
      Becomes exports source (.expression expression) word.toList

/-- A line is put together from pieces, and the other one from what these become. -/
structure Line.Rewritten (exports : Exports) (source : String) (before after : Line) : Prop where
  number : after.number = before.number
  text : ∃ parts,
    (Expression.segments before.text.toList).flatMap Segment.text = before.text.toList ∧
    List.Forall₂ (Segment.Becomes exports source) (Expression.segments before.text.toList) parts ∧
    after.text.toList = parts.flatten

structure Block.Rewritten (exports : Exports) (source : String) (before after : Block) :
    Prop where
  kind : after.kind = before.kind
  lines : List.Forall₂ (Line.Rewritten exports source) before.lines after.lines

/-- The first expression of a line that lacks something. -/
def Line.StopsAt (exports : Exports) (source : String) (line : Line) (problem : Unresolved) :
    Prop :=
  ∃ front expression back parts,
    Expression.segments line.text.toList = front ++ .expression expression :: back ∧
    List.Forall₂ (Segment.Becomes exports source) front parts ∧
    expression.Lacks exports source problem

/-- The first line of a block with such an expression. -/
def Block.StopsAt (exports : Exports) (source : String) (block : Block) (line : Line)
    (problem : Unresolved) : Prop :=
  ∃ earlier later rewritten, block.lines = earlier ++ line :: later ∧
    List.Forall₂ (Line.Rewritten exports source) earlier rewritten ∧
    line.StopsAt exports source problem

/-- What is the same in a block however its lines are rewritten. -/
def Block.shape (block : Block) : BlockKind × List Nat :=
  (block.kind, block.lines.map Line.number)

theorem Block.Rewritten.shape {exports : Exports} {source : String} {before after : Block}
    (h : before.Rewritten exports source after) : after.shape = before.shape := by
  have hnumbers : List.Forall₂ Eq (after.lines.map Line.number) (before.lines.map Line.number) :=
    List.forall₂_map_left_iff.2 (List.forall₂_map_right_iff.2
      (h.lines.flip.imp fun _ _ hline => hline.number))
  rw [List.forall₂_eq_eq_eq] at hnumbers
  exact Prod.ext h.kind hnumbers

namespace Resolution

variable {exports : Exports} {path : Path} {source : String} {failure : ResolveFailure}
  {place : Place}

/-- The blocks of a script before and after, and what has stopped resolving them. -/
inductive Ends (exports : Exports) (path : Path) (source : String) :
    List Block → List Block → Option ResolveFailure → Prop
  | done {before after : List Block}
      (rewritten : List.Forall₂ (Block.Rewritten exports source) before after) :
      Ends exports path source before after none
  | stopped {before after later : List Block} {block : Block} {line : Line} {problem : Unresolved}
      (rewritten : List.Forall₂ (Block.Rewritten exports source) before after)
      (here : block.StopsAt exports source line problem) :
      Ends exports path source (before ++ block :: later) (after ++ block :: later)
        (some (.unresolved ⟨path, line.number, problem⟩))

/-! ## Lines -/

theorem becomes_of_segment {piece : Segment} {text : List Char}
    (h : (segment exports place piece).result = .ok text) :
    piece.Becomes exports place.source text := by
  cases piece with
  | plain c =>
    cases h
    exact .plain c
  | expression expression =>
    rw [segment] at h
    obtain ⟨word, hword, h⟩ := Report.result_bind_ok.1 h
    have hvalue := Report.result_mapError_ok.1 hword
    cases word with
    | none =>
      obtain ⟨-, h⟩ := Report.result_seq_ok.1 h
      cases h
      exact .untouched (value_none_iff.1 hvalue)
    | some word =>
      cases h
      exact .word (value_word_iff.1 hvalue)

theorem becomes_of_segments {pieces : List Segment} {text : List Char}
    (h : (segments exports place pieces).result = .ok text) :
    ∃ parts, List.Forall₂ (Segment.Becomes exports place.source) pieces parts ∧
      text = parts.flatten := by
  induction pieces generalizing text with
  | nil =>
    cases h
    exact ⟨[], .nil, rfl⟩
  | cons piece pieces ih =>
    rw [segments] at h
    obtain ⟨front, hfront, h⟩ := Report.result_bind_ok.1 h
    obtain ⟨back, hback, h⟩ := Report.result_bind_ok.1 h
    cases h
    obtain ⟨parts, hparts, rfl⟩ := ih hback
    exact ⟨front :: parts, .cons (becomes_of_segment hfront) hparts, rfl⟩

/-- The pieces before the first one that fails have become something. -/
theorem segments_stop (hindexed : exports.Indexed) {pieces : List Segment}
    (h : (segments exports place pieces).result = .error failure) :
    ∃ front expression back parts problem, pieces = front ++ .expression expression :: back ∧
      List.Forall₂ (Segment.Becomes exports place.source) front parts ∧
      expression.Lacks exports place.source problem ∧
      failure = .unresolved ⟨place.path, place.line, problem⟩ := by
  induction pieces with
  | nil => cases h
  | cons piece pieces ih =>
    rw [segments] at h
    rcases Report.result_bind_error.1 h with hpiece | ⟨text, htext, h⟩
    · obtain ⟨expression, cause, rfl, hcause, rfl⟩ := segment_error hpiece
      obtain ⟨problem, rfl, hlacks⟩ := lacks_of_error hindexed hcause
      exact ⟨[], expression, pieces, [], problem, rfl, .nil, hlacks, rfl⟩
    rcases Report.result_bind_error.1 h with hrest | ⟨_, _, hlast⟩
    · obtain ⟨front, expression, back, parts, problem, rfl, hfront, hlacks⟩ := ih hrest
      exact ⟨piece :: front, expression, back, text :: parts, problem, rfl,
        .cons (becomes_of_segment htext) hfront, hlacks⟩
    · cases hlast

theorem rewritten_of_line {before after : Line}
    (h : (line exports path source before).result = .ok after) :
    before.Rewritten exports source after := by
  have hnumber := number_of_line h
  rw [line] at h
  obtain ⟨text, htext, h⟩ := Report.result_bind_ok.1 h
  cases h
  obtain ⟨parts, hparts, rfl⟩ := becomes_of_segments htext
  exact ⟨hnumber, parts, Expression.text_segments _, hparts, String.toList_ofList⟩

theorem line_stop (hindexed : exports.Indexed) {first : Line}
    (h : (line exports path source first).result = .error failure) :
    ∃ problem, first.StopsAt exports source problem ∧
      failure = .unresolved ⟨path, first.number, problem⟩ := by
  rw [line] at h
  rcases Report.result_bind_error.1 h with hsegments | ⟨_, _, hlast⟩
  · obtain ⟨front, expression, back, parts, problem, hpieces, hparts, hlacks, hfailure⟩ :=
      segments_stop hindexed hsegments
    exact ⟨problem, ⟨front, expression, back, parts, hpieces, hparts, hlacks⟩, hfailure⟩
  · cases hlast

/-! ## Blocks -/

theorem rewritten_of_block {before after : Block}
    (h : (block exports path source before).result = .ok after) :
    before.Rewritten exports source after where
  kind := by
    rw [block] at h
    obtain ⟨_, _, h⟩ := Report.result_bind_ok.1 h
    obtain ⟨_, _, h⟩ := Report.result_bind_ok.1 h
    cases h
    rfl
  lines := (forall₂_of_block h).imp fun _ _ => rewritten_of_line

/-- The lines before the first one that fails are rewritten, though nothing is kept of it. -/
theorem lines_stop (hindexed : exports.Indexed) {all : List Line}
    (h : (lines exports path source all).result = .error failure) :
    ∃ earlier line later rewritten problem, all = earlier ++ line :: later ∧
      List.Forall₂ (Line.Rewritten exports source) earlier rewritten ∧
      line.StopsAt exports source problem ∧
      failure = .unresolved ⟨path, line.number, problem⟩ := by
  induction all with
  | nil => cases h
  | cons first rest ih =>
    rw [lines] at h
    rcases Report.result_bind_error.1 h with hfirst | ⟨resolved, hresolved, h⟩
    · obtain ⟨problem, hstops, hfailure⟩ := line_stop hindexed hfirst
      exact ⟨[], first, rest, [], problem, rfl, .nil, hstops, hfailure⟩
    rcases Report.result_bind_error.1 h with hrest | ⟨_, _, hlast⟩
    · obtain ⟨earlier, line, later, rewritten, problem, rfl, hearlier, hstops⟩ := ih hrest
      exact ⟨first :: earlier, line, later, resolved :: rewritten, problem, rfl,
        .cons (rewritten_of_line hresolved) hearlier, hstops⟩
    · cases hlast

theorem block_stop (hindexed : exports.Indexed) {first : Block}
    (h : (block exports path source first).result = .error failure) :
    ∃ line problem, first.StopsAt exports source line problem ∧
      failure = .unresolved ⟨path, line.number, problem⟩ := by
  have hlines : (lines exports path source first.lines).result = .error failure := by
    rw [block] at h
    rw [Block.lines, lines]
    rcases Report.result_bind_error.1 h with hheader | ⟨header, hheader, h⟩
    · exact Report.result_bind_error.2 (.inl hheader)
    rcases Report.result_bind_error.1 h with hrest | ⟨_, _, hlast⟩
    · exact Report.result_bind_error.2 (.inr ⟨header, hheader,
        Report.result_bind_error.2 (.inl hrest)⟩)
    · cases hlast
  obtain ⟨earlier, line, later, rewritten, problem, hall, hearlier, hstops, hfailure⟩ :=
    lines_stop hindexed hlines
  exact ⟨line, problem, ⟨earlier, later, rewritten, hall, hearlier, hstops⟩, hfailure⟩

theorem Ends.cons {before after : List Block} {first resolved : Block}
    {failure : Option ResolveFailure} (h : Ends exports path source before after failure)
    (hfirst : first.Rewritten exports source resolved) :
    Ends exports path source (first :: before) (resolved :: after) failure := by
  cases h with
  | done hrewritten => exact .done (.cons hfirst hrewritten)
  | stopped hrewritten hhere => exact .stopped (.cons hfirst hrewritten) hhere

/-- The induction is on the blocks that are left; the first one that fails is the last to be
looked at. -/
theorem ends_blocks (hindexed : exports.Indexed) (all : List Block) :
    Ends exports path source all (blocks exports path source all).2.1
      (blocks exports path source all).2.2 := by
  induction all with
  | nil => exact .done .nil
  | cons first rest ih =>
    rw [blocks]
    split
    · next events failure hfirst =>
      have hblock : (block exports path source first).result = .error failure := by rw [hfirst]
      obtain ⟨line, problem, hstops, rfl⟩ := block_stop hindexed hblock
      exact .stopped .nil hstops
    · next events resolved hfirst =>
      have hblock : (block exports path source first).result = .ok resolved := by rw [hfirst]
      exact ih.cons (rewritten_of_block hblock)

theorem Ends.shape {before after : List Block} {failure : Option ResolveFailure}
    (h : Ends exports path source before after failure) :
    after.map Block.shape = before.map Block.shape := by
  have hshape {before after : List Block}
      (hrewritten : List.Forall₂ (Block.Rewritten exports source) before after) :
      after.map Block.shape = before.map Block.shape := by
    induction hrewritten with
    | nil => rfl
    | cons hfirst _ ih => rw [List.map_cons, List.map_cons, hfirst.shape, ih]
  cases h with
  | done hrewritten => exact hshape hrewritten
  | stopped hrewritten _ => rw [List.map_append, List.map_append, hshape hrewritten]

end Resolution

/-! ## Scripts in a build -/

/-- A script may fail to resolve or to be saved; what is held is only looked at. -/
theorem Assembly.held_of_saveScript (script : Script) (site : Site Exports) :
    (outcome (saveScript script) site).2.held = site.held := by
  rcases hrun : outcome (saveScript script) site with ⟨result, after⟩
  cases result with
  | ok value => exact (saveScript_steps hrun).2.1
  | error failure =>
    unfold saveScript at hrun
    rw [Work.outcome_held_bind] at hrun
    rcases Work.outcome_bind_error.1 hrun with hresolve | ⟨_, between, hresolve, hrun⟩
    · exact (congrArg (·.2.held) hresolve).symm
    obtain ⟨_, rfl⟩ := Work.outcome_ofReport_ok.1 hresolve
    rcases Work.outcome_bind_error.1 hrun with hsave | ⟨_, _, _, hnote⟩
    · exact (congrArg (·.2.held) hsave).symm
    · cases hnote

/-- When all exports have their indices, a script resolves or stops at the first expression, by
block, line and place in the line, that lacks something, with an error that tells the path of the
script and the number of the line. The blocks before the one with the expression are rewritten, and
it is as it was, like those behind it. No block comes or goes or changes its kind or the numbers of
its lines, and exports stay as they are. -/
theorem Script.resolve_ends {exports : Exports} (h : exports.Indexed) (script : Script) :
    Resolution.Ends exports script.path script.package script.blocks
        (script.resolve exports).script.blocks (script.resolve exports).failure ∧
      (script.resolve exports).script =
        { script with blocks := (script.resolve exports).script.blocks } ∧
      (script.resolve exports).script.blocks.map Block.shape = script.blocks.map Block.shape ∧
      ∀ site : Site Exports, site.held = exports →
        (outcome (Assembly.saveScript script) site).2.held = exports ∧
        ∀ failure, (script.resolve exports).failure = some failure →
          outcome (Assembly.saveScript script) site = (.error failure.toAssembly,
            { site with events := site.events ++ (script.resolve exports).events }) := by
  have hends : Resolution.Ends exports script.path script.package script.blocks
      (script.resolve exports).script.blocks (script.resolve exports).failure :=
    Resolution.ends_blocks h script.blocks
  refine ⟨hends, rfl, hends.shape, ?_⟩
  rintro site rfl
  exact ⟨Assembly.held_of_saveScript script site, fun failure => Assembly.saveScript_of_failure⟩

namespace Sample

def lampId : Identifier :=
  ⟨"game", "lamp"⟩

def lamp : Sprite where
  dir := ⟨.root, ["lamp"]⟩
  palettes := ["day", "night"]
  animations := ["still", "glow"]
  state := .assembled 3

def lampExports : Exports where
  sprites := ⟨[(lampId, lamp)], List.pairwise_singleton _ _⟩

/-- The first block asks for an animation that the sprite lacks, behind one that it has. -/
def unlit : List Block :=
  [⟨⟨4, "Hide {Sprite:lamp}"⟩, [⟨5, "{Sprite:lamp:still} {Sprite:lamp:off} {Sprite:fan}"⟩],
      .other⟩,
    ⟨⟨7, "Show {Sprite:lamp}"⟩, [], .other⟩]

def notice : Script where
  path := ⟨.root, ["notice.bscr"]⟩
  blocks :=
    ⟨⟨1, "Show {Sprite:lamp:glow:night}"⟩, [⟨2, "{Sprite} {Actor:lamp:glow}"⟩], .other⟩ :: unlit
  package := "game"

def noticeAfter : List Block :=
  ⟨⟨1, "Show 00030101"⟩, [⟨2, "{Sprite} {Actor:lamp:glow}"⟩], .other⟩ :: unlit

def noticeFailure : ResolveFailure :=
  .unresolved ⟨notice.path, 5, .noAnimation lampId "off"⟩

theorem indexed_lampExports : lampExports.Indexed where
  sprites := by
    intro id sprite hmem
    cases List.mem_singleton.1 hmem
    exact ⟨3, rfl⟩
  actors := by
    intro id actor hmem
    cases hmem
  strings := by
    intro id string hmem
    cases hmem

end Sample

theorem Script.resolve_ends_notice :
    Sample.lampExports.Indexed ∧
      Resolution.Ends Sample.lampExports Sample.notice.path "game" Sample.notice.blocks
        Sample.noticeAfter (some Sample.noticeFailure) := by
  have hblocks : (Sample.notice.resolve Sample.lampExports).script.blocks = Sample.noticeAfter := by
    decide +kernel
  have hfailure : (Sample.notice.resolve Sample.lampExports).failure =
      some Sample.noticeFailure := by
    decide +kernel
  have hends := (resolve_ends Sample.indexed_lampExports Sample.notice).1
  rw [hblocks, hfailure] at hends
  exact ⟨Sample.indexed_lampExports, hends⟩

end ModPack
