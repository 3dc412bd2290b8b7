import ModPack.Proofs.ReferenceResolution
import ModPack.Proofs.ScriptLines

/-!
# Scripts written and read again

Writing a script that was read gives a text that is read as the same blocks, so writing is a normal
form of what was read. Resolving expressions puts words of digits in their place, which are neither
blank nor a mark; so a resolved script is read again with the same lines in the same blocks, if it
is read at all. Main statement: `parse_dumps`.
-/
namespace ModPack

/-! ## Kinds of blocks -/

namespace Block

variable {path : Path} {header : Line} {rest : List Line} {block : Block}

def texts (block : Block) : List String :=
  block.lines.map (·.text)

/-- What a block says, wherever its lines are from. -/
def content (block : Block) : BlockKind × List String :=
  (block.kind, block.texts)

/-- The kind of a block by the text of its header; none when that has no proper section. -/
def kindOf? (header : String) : Option BlockKind :=
  match headerParts? header with
  | none => some .other
  | some (bank, name) => (bankOf? bank).map fun bank => .namedString bank name

theorem classify_ok :
    (classify path header rest).result = .ok block ↔
      ∃ kind, kindOf? header.text = some kind ∧ ⟨header, rest, kind⟩ = block := by
  unfold classify kindOf?
  cases headerParts? header.text with
  | none => simp
  | some parts =>
    obtain ⟨bank, name⟩ := parts
    cases hbank : bankOf? bank with
    | none => simp [hbank, Report.fail]
    | some bank => simp [hbank]

/-- A block as reading makes it. -/
structure Sound (block : Block) : Prop where
  kind : kindOf? block.header.text = some block.kind
  lines : ∀ line ∈ block.lines, Settled line.text.toList

end Block

namespace Script

variable {path : Path} {package source : String} {script again : Script}
  {pending lines run : List Line} {blank : Line} {blocks : List Block}

/-! ## Blocks of lines -/

theorem close_ok :
    (close path pending).result = .ok blocks ↔
      (pending = [] ∧ blocks = []) ∨
        ∃ block : Block, block.lines = pending.reverse ∧
          Block.kindOf? block.header.text = some block.kind ∧ blocks = [block] := by
  unfold close
  cases hpending : pending.reverse with
  | nil =>
    have hnil : pending = [] := List.reverse_eq_nil_iff.1 hpending
    constructor
    · intro h
      exact .inl ⟨hnil, (Except.ok.inj h).symm⟩
    · rintro (⟨_, rfl⟩ | ⟨block, hlines, _⟩)
      · rfl
      · exact absurd hlines (List.cons_ne_nil _ _)
  | cons header rest =>
    have hne : pending ≠ [] := by
      rintro rfl
      cases hpending
    constructor
    · intro h
      obtain ⟨block, hblock, h⟩ := Report.result_bind_ok.1 h
      obtain ⟨kind, hkind, rfl⟩ := Block.classify_ok.1 hblock
      exact .inr ⟨⟨header, rest, kind⟩, rfl, hkind, (Except.ok.inj h).symm⟩
    · rintro (⟨hnil, _⟩ | ⟨block, hlines, hkind, rfl⟩)
      · exact absurd hnil hne
      · obtain ⟨rfl, rfl⟩ := List.cons.inj hlines
        exact Report.result_bind_ok.2 ⟨block, Block.classify_ok.2 ⟨_, hkind, rfl⟩, rfl⟩

/-- Lines that are not blank wait for the next blank one. -/
theorem blocksOf_append (hrun : ∀ line ∈ run, line.text ≠ "") :
    blocksOf path pending (run ++ lines) = blocksOf path (run.reverse ++ pending) lines := by
  induction run generalizing pending with
  | nil => rfl
  | cons line run ih =>
    obtain ⟨hline, hrest⟩ := List.forall_mem_cons.1 hrun
    have hempty : line.text.isEmpty = false := by simpa using hline
    rw [List.cons_append, blocksOf, hempty, if_neg Bool.false_ne_true, ih hrest]
    simp

/-- A blank line closes the block of the lines before it. -/
theorem blocksOf_blank_ok (hblank : blank.text = "") :
    (blocksOf path pending (blank :: lines)).result = .ok blocks ↔
      ∃ front back, (close path pending).result = .ok front ∧
        (blocksOf path [] lines).result = .ok back ∧ front ++ back = blocks := by
  have hempty : blank.text.isEmpty = true := String.isEmpty_iff.2 hblank
  rw [blocksOf, if_pos hempty]
  simp

/-- The blocks of lines that are settled or blank are sound. -/
theorem sound_of_blocksOf (hpending : ∀ line ∈ pending, Settled line.text.toList)
    (hlines : ∀ line ∈ lines, line.text ≠ "" → Settled line.text.toList)
    (h : (blocksOf path pending lines).result = .ok blocks) : ∀ block ∈ blocks, block.Sound := by
  have hclose {pending : List Line} {blocks : List Block}
      (hpending : ∀ line ∈ pending, Settled line.text.toList)
      (h : (close path pending).result = .ok blocks) : ∀ block ∈ blocks, block.Sound := by
    rcases close_ok.1 h with ⟨_, rfl⟩ | ⟨block, hblock, hkind, rfl⟩
    · intro block hmem
      cases hmem
    · intro other hmem
      rw [List.mem_singleton.1 hmem]
      refine ⟨hkind, fun line hline => hpending line ?_⟩
      rwa [hblock, List.mem_reverse] at hline
  induction lines generalizing pending blocks with
  | nil => exact hclose hpending h
  | cons line lines ih =>
    obtain ⟨hline, hrest⟩ := List.forall_mem_cons.1 hlines
    by_cases hblank : line.text = ""
    · obtain ⟨front, back, hfront, hback, rfl⟩ := (blocksOf_blank_ok hblank).1 h
      refine List.forall_mem_append.2 ⟨hclose hpending hfront, ih ?_ hrest hback⟩
      intro other hother
      cases hother
    · have hrun : ∀ other ∈ [line], other.text ≠ "" := by simpa using hblank
      rw [← List.singleton_append, blocksOf_append hrun] at h
      exact ih (List.forall_mem_cons.2 ⟨hline hblank, hpending⟩) hrest h

theorem parse_ok :
    (parse source path package).result = .ok script ↔
      ∃ blocks, (blocksOf path [] (trimmedLines source)).result = .ok blocks ∧
        ⟨path, blocks, package⟩ = script := by
  unfold parse
  simp only [Report.result_bind_ok]
  refine exists_congr fun blocks => and_congr_right fun _ => ?_
  split <;> simp

theorem sound_of_parse (h : (parse source path package).result = .ok script) :
    ∀ block ∈ script.blocks, block.Sound := by
  obtain ⟨blocks, hblocks, rfl⟩ := parse_ok.1 h
  refine sound_of_blocksOf ?_ (fun line hline => Settled.of_trimmedLines hline) hblocks
  intro line hline
  cases hline

/-! ## The lines of a dump -/

/-- Every line of every block is settled. -/
def Settled (script : Script) : Prop :=
  ∀ block ∈ script.blocks, ∀ line ∈ block.lines, ModPack.Settled line.text.toList

theorem settled_of_parse (h : (parse source path package).result = .ok script) : script.Settled :=
  fun block hblock => (sound_of_parse h block hblock).lines

/-- The lines of the text of a script: one more behind each block. -/
def dumpLines (script : Script) : List String :=
  script.blocks.flatMap fun block => block.texts ++ [""]

theorem toList_dumps (script : Script) :
    script.dumps.toList = (script.dumpLines.map String.toList).flatMap (· ++ ['\n']) := by
  rw [dumps, String.toList_join, List.flatMap_map, dumpLines, List.map_flatMap, List.flatMap_assoc]
  refine List.flatMap_congr fun block _ => ?_
  simp [Block.texts, String.toList_join, List.flatMap_map]

/-- The text of a script is told by the texts of its blocks. -/
theorem dumps_eq_of_texts (h : again.blocks.map Block.texts = script.blocks.map Block.texts) :
    again.dumps = script.dumps := by
  have hlines : again.dumpLines = script.dumpLines := by
    have hmap (script : Script) :
        script.dumpLines = (script.blocks.map Block.texts).flatMap (· ++ [""]) := by
      rw [dumpLines, List.flatMap_map]
    rw [hmap, hmap, h]
  rw [← String.toList_inj, toList_dumps, toList_dumps, hlines]

theorem Settled.mem_dumpLines (h : script.Settled) {line : String}
    (hline : line ∈ script.dumpLines) : line = "" ∨ ModPack.Settled line.toList := by
  obtain ⟨block, hblock, hmem⟩ := List.mem_flatMap.1 hline
  rcases List.mem_append.1 hmem with hmem | hmem
  · obtain ⟨settled, hsettled, rfl⟩ := List.mem_map.1 hmem
    exact .inr (h block hblock settled hsettled)
  · exact .inl (List.mem_singleton.1 hmem)

/-- The text of a script holds no mark of a comment and no carriage return. -/
theorem Settled.dumps_ne (h : script.Settled) : ∀ c ∈ script.dumps.toList, c ≠ '%' ∧ c ≠ '\r' := by
  intro c hc
  rw [toList_dumps] at hc
  obtain ⟨chars, hchars, hmem⟩ := List.mem_flatMap.1 hc
  obtain ⟨line, hline, rfl⟩ := List.mem_map.1 hchars
  rcases List.mem_append.1 hmem with hmem | hmem
  · rcases h.mem_dumpLines hline with rfl | hsettled
    · cases hmem
    · exact ⟨(hsettled.ne_of_mem hmem).1, (hsettled.ne_of_mem hmem).2.1⟩
  · rw [List.mem_singleton.1 hmem]
    decide

/-- Reading the text of a script cuts it into the lines that were written, and none of them is
trimmed. -/
theorem Settled.texts_trimmedLines (h : script.Settled) :
    (trimmedLines script.dumps).map (·.text) = script.dumpLines ++ [""] := by
  have hcut : Text.pieces '\n' script.dumps.toList =
      script.dumpLines.map String.toList ++ [[]] := by
    rw [toList_dumps]
    refine Text.pieces_lines fun chars hchars => ?_
    obtain ⟨line, hline, rfl⟩ := List.mem_map.1 hchars
    rcases h.mem_dumpLines hline with rfl | hsettled
    · exact List.not_mem_nil
    · exact fun hend => (hsettled.ne_of_mem hend).2.2 rfl
  have htrim : ∀ line ∈ script.dumpLines, Text.trim line = line := by
    intro line hline
    rcases h.mem_dumpLines hline with rfl | hsettled
    · rfl
    · rw [Text.trim, hsettled.trimChars_eq, String.ofList_toList]
  rw [Script.texts_trimmedLines h.dumps_ne, Text.splitAt, hcut, List.map_append, List.map_append,
    List.map_map, List.map_map]
  congr 1
  refine (List.map_congr_left fun line hline => ?_).trans (List.map_id _)
  simpa using htrim line hline

/-! ## Reading a dump -/

section Groups

variable {groups : List (List String)} {group : List String}

/-- Lines without a blank one, and the blank one behind them, make one block. -/
theorem blocksOf_group_ok (hne : run ≠ []) (hrun : ∀ line ∈ run, line.text ≠ "")
    (hblank : blank.text = "") :
    (blocksOf path [] (run ++ blank :: lines)).result = .ok blocks ↔
      ∃ block others, block.lines = run ∧ Block.kindOf? block.header.text = some block.kind ∧
        (blocksOf path [] lines).result = .ok others ∧ block :: others = blocks := by
  rw [blocksOf_append hrun, blocksOf_blank_ok hblank, List.append_nil]
  simp only [close_ok, List.reverse_reverse, List.reverse_eq_nil_iff, hne, false_and, false_or]
  constructor
  · rintro ⟨_, others, ⟨block, hblock, hkind, rfl⟩, hothers, rfl⟩
    exact ⟨block, others, hblock, hkind, hothers, rfl⟩
  · rintro ⟨block, others, hblock, hkind, hothers, rfl⟩
    exact ⟨_, others, ⟨block, hblock, hkind, rfl⟩, hothers, rfl⟩

/-- Lines whose texts are those of a group and more begin with the lines of the group. -/
theorem exists_run {texts : List String} (h : lines.map (·.text) = group ++ [""] ++ texts) :
    ∃ run blank rest, lines = run ++ blank :: rest ∧ run.map (·.text) = group ∧ blank.text = "" ∧
      rest.map (·.text) = texts := by
  rw [List.append_assoc] at h
  obtain ⟨run, after, rfl, hrun, hafter⟩ := List.map_eq_append_iff.1 h
  obtain ⟨blank, rest, rfl, hblank, hrest⟩ := List.map_eq_cons_iff.1 hafter
  exact ⟨run, blank, rest, rfl, hrun, hblank, hrest⟩

variable (hgroups : ∀ group ∈ groups, group ≠ [] ∧ ∀ text ∈ group, text ≠ "")
  (hlines : lines.map (·.text) = groups.flatMap (· ++ [""]) ++ [""])
include hgroups hlines

/-- The blocks of lines in groups are the groups. -/
theorem texts_of_blocksOf (h : (blocksOf path [] lines).result = .ok blocks) :
    blocks.map Block.texts = groups := by
  induction groups generalizing lines blocks with
  | nil =>
    obtain ⟨blank, _, rfl, hblank, hnil⟩ := List.map_eq_cons_iff.1 hlines
    rw [List.map_eq_nil_iff] at hnil
    obtain ⟨front, back, hfront, hback, rfl⟩ := (blocksOf_blank_ok hblank).1 h
    cases hfront
    rw [hnil] at hback
    cases hback
    rfl
  | cons group groups ih =>
    obtain ⟨⟨hne, htexts⟩, hrest⟩ := List.forall_mem_cons.1 hgroups
    rw [List.flatMap_cons, List.append_assoc] at hlines
    obtain ⟨run, blank, rest, rfl, rfl, hblank, hafter⟩ := exists_run hlines
    rw [blocksOf_group_ok (mt (congrArg _) hne) (by simpa using htexts) hblank] at h
    obtain ⟨block, others, hblock, _, hothers, rfl⟩ := h
    rw [List.map_cons, ih hrest hafter hothers, Block.texts, hblock]

/-- They can be read when the header of each group has a kind. -/
theorem exists_blocksOf
    (hkinds : ∀ group ∈ groups, ∀ header ∈ group.head?, (Block.kindOf? header).isSome) :
    ∃ blocks, (blocksOf path [] lines).result = .ok blocks := by
  induction groups generalizing lines with
  | nil =>
    obtain ⟨blank, _, rfl, hblank, hnil⟩ := List.map_eq_cons_iff.1 hlines
    rw [List.map_eq_nil_iff] at hnil
    exact ⟨_, (blocksOf_blank_ok hblank).2 ⟨[], [], rfl, by rw [hnil]; rfl, rfl⟩⟩
  | cons group groups ih =>
    obtain ⟨⟨hne, htexts⟩, hrest⟩ := List.forall_mem_cons.1 hgroups
    obtain ⟨hkind, hkindsRest⟩ := List.forall_mem_cons.1 hkinds
    rw [List.flatMap_cons, List.append_assoc] at hlines
    obtain ⟨run, blank, rest, rfl, rfl, hblank, hafter⟩ := exists_run hlines
    obtain ⟨others, hothers⟩ := ih hrest hafter hkindsRest
    obtain ⟨header, body, rfl⟩ := List.exists_cons_of_ne_nil (mt (congrArg _) hne : run ≠ [])
    obtain ⟨kind, hkind⟩ := Option.isSome_iff_exists.1 (hkind header.text rfl)
    exact ⟨_, (blocksOf_group_ok (List.cons_ne_nil _ _) (by simpa using htexts) hblank).2
      ⟨⟨header, body, kind⟩, others, rfl, hkind, hothers, rfl⟩⟩

end Groups

theorem Settled.groups (h : script.Settled) :
    ∀ group ∈ script.blocks.map Block.texts, group ≠ [] ∧ ∀ text ∈ group, text ≠ "" := by
  intro group hgroup
  obtain ⟨block, hblock, rfl⟩ := List.mem_map.1 hgroup
  refine ⟨List.cons_ne_nil _ _, fun text htext => ?_⟩
  obtain ⟨line, hline, rfl⟩ := List.mem_map.1 htext
  exact mt String.toList_eq_nil_iff.2 (h block hblock line hline).ne_nil

theorem Settled.texts_eq_groups (h : script.Settled) :
    (trimmedLines script.dumps).map (·.text) =
      (script.blocks.map Block.texts).flatMap (· ++ [""]) ++ [""] := by
  rw [h.texts_trimmedLines, dumpLines, List.flatMap_map]

/-- The text of a script with settled lines is read as the same lines in the same blocks, if it is
read at all. -/
theorem Settled.texts_of_parse (h : script.Settled)
    (hagain : (parse script.dumps path package).result = .ok again) :
    again.blocks.map Block.texts = script.blocks.map Block.texts := by
  obtain ⟨blocks, hblocks, rfl⟩ := parse_ok.1 hagain
  exact texts_of_blocksOf h.groups h.texts_eq_groups hblocks

/-- The text of a script that was read is read. -/
theorem exists_parse_dumps (h : ∀ block ∈ script.blocks, block.Sound) (path : Path)
    (package : String) : ∃ again, (parse script.dumps path package).result = .ok again := by
  have hsettled : script.Settled := fun block hblock => (h block hblock).lines
  have hkinds : ∀ group ∈ script.blocks.map Block.texts, ∀ header ∈ group.head?,
      (Block.kindOf? header).isSome := by
    intro group hgroup header hheader
    obtain ⟨block, hblock, rfl⟩ := List.mem_map.1 hgroup
    cases hheader
    rw [(h block hblock).kind]
    rfl
  obtain ⟨blocks, hblocks⟩ :
      ∃ blocks, (blocksOf path [] (trimmedLines script.dumps)).result = .ok blocks :=
    exists_blocksOf hsettled.groups hsettled.texts_eq_groups hkinds
  exact ⟨_, parse_ok.2 ⟨blocks, hblocks, rfl⟩⟩

/-- A sound block is told by its texts. -/
theorem contents_eq_of_texts (h : ∀ block ∈ script.blocks, block.Sound)
    (hagain : ∀ block ∈ again.blocks, block.Sound)
    (htexts : again.blocks.map Block.texts = script.blocks.map Block.texts) :
    again.blocks.map Block.content = script.blocks.map Block.content := by
  have hcontents {script : Script} (h : ∀ block ∈ script.blocks, block.Sound) :
      script.blocks.map Block.content = (script.blocks.map Block.texts).map fun texts =>
        ((Block.kindOf? (texts.headD "")).getD .other, texts) := by
    rw [List.map_map]
    refine List.map_congr_left fun block hblock => ?_
    have hkind : Block.kindOf? (block.texts.headD "") = some block.kind := (h block hblock).kind
    rw [Function.comp_apply, hkind]
    rfl
  rw [hcontents h, hcontents hagain, htexts]

/-! ## Saved scripts -/

/-- What has been saved is there to be read. -/
theorem readText_of_save {disk after : Disk} (h : Disk.outcome script.save disk = (.ok (), after))
    (hreturn : '\r' ∉ script.dumps.toList) : readText after script.path = .ok script.dumps := by
  obtain ⟨_, between, _, hwrite⟩ := Disk.outcome_bind_ok.1 h
  obtain ⟨location, hlocate, hfile, rfl⟩ := Disk.outcome_writeText_ok.1 hwrite
  have hne : location ≠ [] := by
    rintro rfl
    rw [FileTree.isDirectory_root] at hfile
    cases hfile
  have hkeeps :
      Disk.Keeps between (between.withEntry location (.file (Utf8.encode script.dumps))) :=
    Disk.Keeps.withEntry hne (.inr hfile)
  have hread : Disk.readFile _ script.path = .ok (Utf8.encode script.dumps) :=
    Disk.readFile_ok.2 ⟨location, hkeeps.locate hlocate, Disk.get?_withEntry_self hne⟩
  rw [readText, hread]
  simp [bind, Except.bind, pure, Except.pure, Except.mapError, Utf8.decode_encode,
    Text.unifyNewlines_of_not_mem hreturn]

/-- So a saved script is loaded as its text is parsed. -/
theorem load_of_save {disk after : Disk} (h : Disk.outcome script.save disk = (.ok (), after))
    (hreturn : '\r' ∉ script.dumps.toList) :
    (load after package script.path).result = (parse script.dumps script.path package).result := by
  rw [load, readText_of_save h hreturn]
  rfl

end Script

/-! ## Resolved lines -/

/-- A text of digits, and of signs for negative numbers, at least one. -/
structure IsWord (text : List Char) : Prop where
  ne_nil : text ≠ []
  digits : ∀ c ∈ text, Hex.isUpperDigit c = true ∨ c = '-'

namespace IsWord

theorem append {first second : String} (h : IsWord first.toList) (h' : IsWord second.toList) :
    IsWord (first ++ second).toList where
  ne_nil := by simp [h.ne_nil]
  digits := by
    rw [String.toList_append]
    exact List.forall_mem_append.2 ⟨h.digits, h'.digits⟩

/-- Numbers are written as words, whatever their sign. -/
theorem padded (width : Nat) (index : Int) : IsWord (Hex.padded width index).toList := by
  have hdigits : 0 < (Hex.digits index.natAbs).length := by
    rw [Hex.digits, List.length_map]
    exact Nat.length_toDigits_pos
  rw [Hex.padded, String.toList_ofList]
  refine ⟨?_, ?_⟩
  · exact List.append_ne_nil_of_right_ne_nil _ (List.ne_nil_of_length_pos hdigits)
  · intro c hc
    rcases List.mem_append.1 hc with hc | hc
    · rcases List.mem_append.1 hc with hc | hc
      · split at hc
        · exact .inr (List.mem_singleton.1 hc)
        · cases hc
      · rw [(List.mem_replicate.1 hc).2]
        exact .inl (by decide)
    · exact .inl (Hex.isUpperDigit_of_mem_digits hc)

/-- None of its characters is blank or a mark. -/
theorem plain {text : List Char} {c : Char} (h : IsWord text) (hc : c ∈ text) :
    Text.isBlank c = false ∧ Comment.isInert c = true := by
  have hcode : (48 ≤ c.toNat ∧ c.toNat ≤ 57) ∨ (65 ≤ c.toNat ∧ c.toNat ≤ 70) ∨ c.toNat = 45 := by
    rcases h.digits c hc with hdigit | rfl
    · simp only [Hex.isUpperDigit, Bool.or_eq_true, Bool.and_eq_true, decide_eq_true_eq] at hdigit
      exact hdigit.imp id .inl
    · exact .inr (.inr rfl)
  constructor
  · simp only [Text.isBlank, Bool.or_eq_false_iff, Bool.and_eq_false_iff, decide_eq_false_iff_not,
      beq_eq_false_iff_ne]
    omega
  · have hne (mark : Char) (hmark : mark.toNat ≠ c.toNat) : c ≠ mark :=
      fun heq => hmark (heq ▸ rfl)
    have hmark : c ≠ '%' := hne '%' (by change 37 ≠ _; omega)
    have hreturn : c ≠ '\r' := hne '\r' (by change 13 ≠ _; omega)
    have hend : c ≠ '\n' := hne '\n' (by change 10 ≠ _; omega)
    simp [Comment.isInert, hmark, hreturn, hend]

end IsWord

/-- What a text is replaced by when it is resolved: a blank at an end, or a mark anywhere, was there
before, and something stays something. -/
structure Spares (before after : List Char) : Prop where
  nil_iff : after = [] ↔ before = []
  head : ∀ c ∈ after.head?, Text.isBlank c = true → c ∈ before.head?
  last : ∀ c ∈ after.getLast?, Text.isBlank c = true → c ∈ before.getLast?
  inert : ∀ c ∈ after, Comment.isInert c = false → c ∈ before

namespace Spares

variable {before after front back : List Char}

theorem refl (text : List Char) : Spares text text :=
  ⟨Iff.rfl, fun _ h _ => h, fun _ h _ => h, fun _ h _ => h⟩

theorem of_isWord (hne : before ≠ []) (h : IsWord after) : Spares before after where
  nil_iff := iff_of_false h.ne_nil hne
  head := by
    intro c hc hblank
    rw [(h.plain (List.mem_of_mem_head? hc)).1] at hblank
    cases hblank
  last := by
    intro c hc hblank
    rw [(h.plain (List.mem_of_mem_getLast? hc)).1] at hblank
    cases hblank
  inert := by
    intro c hc hmark
    rw [(h.plain hc).2] at hmark
    cases hmark

theorem append (h : Spares before after) (h' : Spares front back) :
    Spares (before ++ front) (after ++ back) where
  nil_iff := by rw [List.append_eq_nil_iff, List.append_eq_nil_iff, h.nil_iff, h'.nil_iff]
  head := by
    intro c hc hblank
    by_cases hnil : after = []
    · rw [hnil, List.nil_append] at hc
      rw [h.nil_iff.1 hnil, List.nil_append]
      exact h'.head c hc hblank
    · rw [List.head?_append_of_ne_nil _ hnil] at hc
      rw [List.head?_append_of_ne_nil _ (mt h.nil_iff.2 hnil)]
      exact h.head c hc hblank
  last := by
    intro c hc hblank
    by_cases hnil : back = []
    · rw [hnil, List.append_nil] at hc
      rw [h'.nil_iff.1 hnil, List.append_nil]
      exact h.last c hc hblank
    · rw [List.getLast?_append_of_ne_nil _ hnil] at hc
      rw [List.getLast?_append_of_ne_nil _ (mt h'.nil_iff.2 hnil)]
      exact h'.last c hc hblank
  inert := by
    intro c hc hmark
    rcases List.mem_append.1 hc with hc | hc
    · exact List.mem_append_left _ (h.inert c hc hmark)
    · exact List.mem_append_right _ (h'.inert c hc hmark)

/-- So a settled text is replaced by a settled one. -/
theorem settled (h : Spares before after) (hsettled : Settled before) : Settled after where
  ne_nil := mt h.nil_iff.1 hsettled.ne_nil
  head := by
    intro c hc
    rw [Bool.eq_false_iff]
    intro hblank
    rw [hsettled.head c (h.head c hc hblank)] at hblank
    cases hblank
  last := by
    intro c hc
    rw [Bool.eq_false_iff]
    intro hblank
    rw [hsettled.last c (h.last c hc hblank)] at hblank
    cases hblank
  inert := by
    intro c hc
    rw [← Bool.not_eq_false]
    intro hmark
    rw [hsettled.inert c (h.inert c hc hmark)] at hmark
    cases hmark

end Spares

namespace Resolution

variable {exports : Exports} {source : String} {path : Path}

/-- The value of an expression is a word. -/
theorem isWord_value {expression : Expression} {word : String}
    (h : (value exports source expression).result = .ok (some word)) : IsWord word.toList := by
  have hzeros : IsWord "00".toList := .padded 2 0
  unfold value at h
  split at h
  · obtain ⟨id, _, h⟩ := Report.result_bind_ok.1 h
    obtain ⟨sprite, _, h⟩ := Report.result_bind_ok.1 h
    obtain ⟨index, _, h⟩ := Report.result_bind_ok.1 h
    cases h
    exact .padded 2 index
  · obtain ⟨id, _, h⟩ := Report.result_bind_ok.1 h
    obtain ⟨sprite, _, h⟩ := Report.result_bind_ok.1 h
    obtain ⟨slot, _, h⟩ := Report.result_bind_ok.1 h
    obtain ⟨index, _, h⟩ := Report.result_bind_ok.1 h
    cases h
    exact ((hzeros.append (.padded 2 index)).append (.padded 2 _)).append (.padded 2 slot)
  · obtain ⟨id, _, h⟩ := Report.result_bind_ok.1 h
    obtain ⟨sprite, _, h⟩ := Report.result_bind_ok.1 h
    obtain ⟨slot, _, h⟩ := Report.result_bind_ok.1 h
    obtain ⟨paletteSlot, _, h⟩ := Report.result_bind_ok.1 h
    obtain ⟨index, _, h⟩ := Report.result_bind_ok.1 h
    cases h
    exact ((hzeros.append (.padded 2 index)).append (.padded 2 paletteSlot)).append
      (.padded 2 slot)
  · obtain ⟨id, _, h⟩ := Report.result_bind_ok.1 h
    obtain ⟨string, _, h⟩ := Report.result_bind_ok.1 h
    obtain ⟨text, htext, h⟩ := Report.result_bind_ok.1 h
    cases h
    have hword : string.hexId = .ok word := mapError_eq_ok.1 htext
    unfold NamedString.hexId at hword
    cases hindex : Export.index string with
    | error error =>
      rw [hindex] at hword
      cases hword
    | ok index =>
      rw [hindex] at hword
      cases hword
      exact .append (.padded 4 string.bank) (.padded 4 index)
  · obtain ⟨id, _, h⟩ := Report.result_bind_ok.1 h
    obtain ⟨actor, _, h⟩ := Report.result_bind_ok.1 h
    obtain ⟨index, _, h⟩ := Report.result_bind_ok.1 h
    cases h
    exact .padded 2 index
  · cases h

theorem spares_segment {place : Place} {piece : Segment} {text : List Char}
    (h : (segment exports place piece).result = .ok text) : Spares piece.text text := by
  cases piece with
  | plain c =>
    cases h
    exact .refl [c]
  | expression expression =>
    rw [segment] at h
    obtain ⟨word, hword, h⟩ := Report.result_bind_ok.1 h
    cases word with
    | none =>
      obtain ⟨-, h⟩ := Report.result_seq_ok.1 h
      cases h
      exact .refl _
    | some word =>
      cases h
      refine .of_isWord ?_ (isWord_value (Report.result_mapError_ok.1 hword))
      simp [Segment.text, Expression.text]

/-- A line is resolved piece by piece. -/
theorem spares_segments {place : Place} {pieces : List Segment} {text : List Char}
    (h : (segments exports place pieces).result = .ok text) :
    Spares (pieces.flatMap Segment.text) text := by
  induction pieces generalizing text with
  | nil =>
    cases h
    exact .refl []
  | cons piece pieces ih =>
    rw [segments] at h
    obtain ⟨front, hfront, h⟩ := Report.result_bind_ok.1 h
    obtain ⟨back, hback, h⟩ := Report.result_bind_ok.1 h
    cases h
    exact (spares_segment hfront).append (ih hback)

theorem settled_line {before after : Line} (hbefore : Settled before.text.toList)
    (h : (line exports path source before).result = .ok after) : Settled after.text.toList := by
  rw [line] at h
  obtain ⟨text, htext, h⟩ := Report.result_bind_ok.1 h
  cases h
  have hspares := spares_segments htext
  rw [Expression.text_segments] at hspares
  rw [String.toList_ofList]
  exact hspares.settled hbefore

theorem settled_block {before after : Block}
    (hbefore : ∀ line ∈ before.lines, Settled line.text.toList)
    (h : (block exports path source before).result = .ok after) :
    ∀ line ∈ after.lines, Settled line.text.toList := by
  have hlines := forall₂_of_block h
  generalize before.lines = first, after.lines = second at hbefore hlines
  induction hlines with
  | nil => exact hbefore
  | cons hline _ ih =>
    obtain ⟨hfirst, hrest⟩ := List.forall_mem_cons.1 hbefore
    exact List.forall_mem_cons.2 ⟨settled_line hfirst hline, ih hrest⟩

/-- A block that fails to resolve stays as it is, and so do those behind it. -/
theorem settled_blocks {before : List Block}
    (h : ∀ block ∈ before, ∀ line ∈ block.lines, Settled line.text.toList) :
    ∀ block ∈ (blocks exports path source before).2.1, ∀ line ∈ block.lines,
      Settled line.text.toList := by
  induction before with
  | nil => exact h
  | cons first rest ih =>
    obtain ⟨hfirst, hrest⟩ := List.forall_mem_cons.1 h
    rw [blocks]
    split
    · exact h
    · next events resolved hresolved =>
      have hblock : (block exports path source first).result = .ok resolved := by rw [hresolved]
      exact List.forall_mem_cons.2 ⟨settled_block hfirst hblock, ih hrest⟩

end Resolution

/-! ## Writing and reading again -/

namespace Script

variable {path : Path} {package source : String} {script again : Script}

/-- The scripts that reading, resolving and moving lead to, in any number of steps. -/
inductive Reached : Script → Prop
  | read {source : String} {path : Path} {package : String} {script : Script}
      (parsed : (parse source path package).result = .ok script) : Reached script
  | resolved {script : Script} (exports : Exports) (reached : Reached script) :
      Reached (script.resolve exports).script
  | moved {script : Script} (path : Path) (reached : Reached script) : Reached { script with path }

theorem Reached.settled (h : Reached script) : script.Settled := by
  induction h with
  | read parsed => exact settled_of_parse parsed
  | resolved exports _ ih => exact Resolution.settled_blocks ih
  | moved path _ ih => exact ih

/-- Reading undoes writing, and writing is a normal form. The text of a script that was read holds
no mark of a comment and no carriage return. It is read, as it stands or once it has been saved
anywhere, as blocks of the same kinds with the same lines, and these are written as the same text.
The text of a script that has resolved its expressions is read, if it is read at all, as the same
lines in the same blocks. -/
theorem parse_dumps :
    (∀ source path package script, (parse source path package).result = .ok script →
      '%' ∉ script.dumps.toList ∧ '\r' ∉ script.dumps.toList ∧
      (∀ place origin, ∃ again, (parse script.dumps place origin).result = .ok again ∧
        again.blocks.map Block.content = script.blocks.map Block.content ∧
        again.dumps = script.dumps) ∧
      ∀ place origin disk after,
        Disk.outcome ({ script with path := place } : Script).save disk = (.ok (), after) →
          ∃ again, (load after origin place).result = .ok again ∧
            again.blocks.map Block.content = script.blocks.map Block.content ∧
            again.dumps = script.dumps) ∧
    ∀ script exports, Reached script → (script.resolve exports).failure = none →
      ∀ place origin again,
        (parse (script.resolve exports).script.dumps place origin).result = .ok again →
          again.blocks.map Block.texts =
            (script.resolve exports).script.blocks.map Block.texts := by
  refine ⟨?_, ?_⟩
  · intro source path package script h
    have hsound := sound_of_parse h
    have hsettled := settled_of_parse h
    have hreturn : '\r' ∉ script.dumps.toList := fun hc => (hsettled.dumps_ne _ hc).2 rfl
    have hagain (place : Path) (origin : String) :
        ∃ again, (parse script.dumps place origin).result = .ok again ∧
          again.blocks.map Block.content = script.blocks.map Block.content ∧
          again.dumps = script.dumps := by
      obtain ⟨again, hparse⟩ := exists_parse_dumps hsound place origin
      have htexts := hsettled.texts_of_parse hparse
      exact ⟨again, hparse, contents_eq_of_texts hsound (sound_of_parse hparse) htexts,
        dumps_eq_of_texts htexts⟩
    refine ⟨fun hc => (hsettled.dumps_ne _ hc).1 rfl, hreturn, hagain, ?_⟩
    intro place origin disk after hsave
    obtain ⟨again, hparse, hsame⟩ := hagain place origin
    exact ⟨again, (load_of_save hsave hreturn).trans hparse, hsame⟩
  · intro script exports hreached _ place origin again hparse
    exact (hreached.resolved exports).settled.texts_of_parse hparse

end Script

namespace Sample

def scrollPath : Path :=
  ⟨.root, ["scroll.bscr"]⟩

/-- A script with comments of both sorts, blanks at the ends of lines and a reference. -/
def scrollSource : String :=
  "% notes\n#string:01:(welcome)\r\n  Hello {String:base/greeting}! % end\n\n\n" ++
    "/% all\nof this %/ more \n"

def scroll : Script where
  path := scrollPath
  blocks := [
    ⟨⟨2, "#string:01:(welcome)"⟩, [⟨3, "Hello {String:base/greeting}!"⟩],
      .namedString 1 "welcome"⟩,
    ⟨⟨7, "more"⟩, [], .other⟩]
  package := "game"

/-- The exports after a build that numbered the string. -/
def scrollExports : Exports where
  strings :=
    ⟨[(greetingId, { greeting with state := .assembled 1 })], List.pairwise_singleton _ _⟩

/-- An empty disk on which the script is saved. -/
def scrollDisk : Disk :=
  (Disk.outcome scroll.save {}).2

theorem parse_scroll : (Script.parse scrollSource scrollPath "game").result = .ok scroll := by
  decide +kernel

theorem save_scroll : Disk.outcome scroll.save {} = (.ok (), scrollDisk) := by
  have hdone : (Disk.outcome scroll.save {}).1 = .ok () := by decide +kernel
  exact Prod.ext hdone rfl

end Sample

namespace Script

/-- The script is read from where it was saved, and read again once its reference is a word. -/
theorem parse_dumps_scroll :
    (∃ again, (load Sample.scrollDisk "game" Sample.scrollPath).result = .ok again ∧
      again.blocks.map Block.content = Sample.scroll.blocks.map Block.content ∧
      again.dumps = Sample.scroll.dumps) ∧
    (Sample.scroll.resolve Sample.scrollExports).failure = none ∧
    ∃ again, (parse (Sample.scroll.resolve Sample.scrollExports).script.dumps Sample.scrollPath
        "game").result = .ok again ∧
      again.blocks.map Block.texts =
        [["#string:01:(welcome)", "Hello 00010001!"], ["more"]] := by
  obtain ⟨hread, hresolved⟩ := parse_dumps
  obtain ⟨_, _, _, hsaved⟩ := hread _ _ _ _ Sample.parse_scroll
  have hresolve : (Sample.scroll.resolve Sample.scrollExports).failure = none := by decide +kernel
  have hparsed : ((parse (Sample.scroll.resolve Sample.scrollExports).script.dumps
      Sample.scrollPath "game").result).isOk = true := by decide +kernel
  refine ⟨hsaved Sample.scrollPath "game" {} _ Sample.save_scroll, hresolve, ?_⟩
  cases hagain : (parse (Sample.scroll.resolve Sample.scrollExports).script.dumps
      Sample.scrollPath "game").result with
  | error error =>
    rw [hagain] at hparsed
    cases hparsed
  | ok again =>
    refine ⟨again, rfl, ?_⟩
    rw [hresolved _ Sample.scrollExports (.read Sample.parse_scroll) hresolve _ _ _ hagain]
    decide +kernel

end Script

end ModPack
