import ModPack.Proofs.DiskFrames
import ModPack.Proofs.LoadedExports
import ModPack.Proofs.OwnDefinitions
import ModPack.Proofs.ReorderedDisks

/-!
# Exports along two paths

What a package defines is read from its directory alone. Along another path to that directory, also
on a disk where manifests have their dependencies in another order, the same exports are read; they
differ in the paths that they hold, and those lead to the same places. Strings files are the only
files whose every byte counts, so none of them may be one of the manifests that differ. Main
statements: `definitions_twin` and `ownRecord?_twin`.
-/
namespace ModPack

/-! ## Paths and places -/

theorem Path.join_assoc (dir first second : Path) :
    (dir.join first).join second = dir.join (first.join second) := by
  cases hsecond : second.isAbsolute with
  | true => rw [join_of_isAbsolute hsecond, join_of_isAbsolute hsecond, join_of_isAbsolute hsecond]
  | false =>
    have hjoin (path : Path) :
        path.join second = { path with parts := path.parts ++ second.parts } := by
      rw [join, hsecond]
      rfl
    cases hfirst : first.isAbsolute with
    | true =>
      have habsolute : (first.join second).isAbsolute = true := by
        rw [hjoin]
        exact hfirst
      rw [join_of_isAbsolute hfirst, join_of_isAbsolute habsolute]
    | false =>
      have hrelative : (first.join second).isAbsolute = false := by
        rw [hjoin]
        exact hfirst
      rw [hjoin, join, join, hfirst, hrelative, hjoin]
      simp

theorem Path.div_div (dir : Path) (first second : String) :
    dir / first / second = dir.join (ofString first / second) :=
  join_assoc dir (ofString first) (ofString second)

/-- A path that has components when it is relative. -/
def Path.Leads (path : Path) : Prop :=
  path.isAbsolute = false → path.parts ≠ []

theorem Path.Leads.join {path : Path} (h : path.Leads) (rest : Path) : (path.join rest).Leads := by
  intro hrelative
  rw [Path.join] at hrelative ⊢
  split at hrelative
  · next habsolute =>
    rw [habsolute] at hrelative
    cases hrelative
  · next hrest =>
    rw [if_neg hrest]
    exact List.append_ne_nil_of_left_ne_nil (h hrelative) _

theorem Path.leads_div {name : String} (hname : Path.Plain name) (dir : Path) :
    (dir / name).Leads := by
  intro _
  rw [div_of_plain dir hname]
  simp

/-- The last component comes from what is joined last. -/
theorem Path.Leads.name_join {path : Path} (h : path.Leads) (dir : Path) :
    (dir.join path).name = path.name := by
  rw [Path.join]
  split
  · rfl
  · next hrelative =>
    have hparts := h (Bool.eq_false_iff.2 hrelative)
    rw [name, name, List.getLastD_eq_getLast?, List.getLastD_eq_getLast?,
      List.getLast?_append_of_ne_nil _ hparts]

namespace Disk

variable {disk first second : Disk} {manifestName name : String} {moved : Location → Prop}
  {dir other path : Path} {location : Location}

theorem isFile_of_readFile {content : ByteArray} (h : disk.readFile path = .ok content) :
    disk.isFile path = true := by
  obtain ⟨location, hlocate, hfile⟩ := readFile_ok.1 h
  have hfind : disk.find path = .ok (location, .file content) := find_ok.2 ⟨hlocate, hfile⟩
  rw [isFile, hfind]

/-- A file of another name is none of the manifests. -/
theorem Reordered.not_moved (h : Reordered manifestName moved first second)
    (hname : Path.Plain name) (hne : name ≠ manifestName)
    (hlocate : disk.locate (dir / name) = .ok location) : ¬ moved location := by
  intro hmoved
  obtain ⟨_, _, rfl⟩ := directory?_of_locate_div hname hlocate
  exact hne (Option.some.inj (h.named _ hmoved))

/-- Two paths that lead on alike, each on its own disk. -/
structure Parallel (first second : Disk) (path other : Path) : Prop where
  name : other.name = path.name
  locate : ∀ rest, second.locate (other.join rest) = first.locate (path.join rest)

theorem Parallel.locate_self (h : Parallel first second path other) :
    second.locate other = first.locate path := by
  have hjoin (path : Path) : path.join ⟨.relative, []⟩ = path := by simp [Path.join, Path.isAbsolute]
  have hhere := h.locate ⟨.relative, []⟩
  rwa [hjoin, hjoin] at hhere

theorem Parallel.aligned (h : Parallel first second path other) (hname : Path.Plain name)
    (hlocate : first.locate (path / name) = .ok location) : Aligned first second path other := by
  obtain ⟨parent, hparent, rfl⟩ := directory?_of_locate_div hname hlocate
  have hother : second.locate (other / name) = .ok (name :: parent) :=
    (h.locate (Path.ofString name)).trans hlocate
  obtain ⟨_, hsame, heq⟩ := directory?_of_locate_div hname hother
  cases heq
  exact ⟨parent, hparent, hsame⟩

/-- What lies below a directory is reached alike from all paths to the directory. -/
theorem Aligned.parallel (h : Aligned first second dir other)
    (hdisks : Reordered manifestName moved first second) {rest : Path} (hrest : rest.Leads) :
    Parallel first second (dir.join rest) (other.join rest) where
  name := by rw [hrest.name_join, hrest.name_join]
  locate further := by
    rw [Path.join_assoc, Path.join_assoc]
    exact h.locate_join hdisks _

end Disk

variable {first second : Disk} {manifestName package : String} {moved : Location → Prop}
  {path other : Path}

/-! ## Sprites -/

/-- Two sprites that differ in the path of their directory only, which is one directory. -/
structure Sprite.Twin (first second : Disk) (sprite twin : Sprite) : Prop where
  dir : Disk.Aligned first second sprite.dir twin.dir
  name : twin.name = sprite.name
  palettes : twin.palettes = sprite.palettes
  animations : twin.animations = sprite.animations
  state : twin.state = sprite.state

/-- A sheet is read from its file. -/
theorem Sprite.readSheet_ok {disk : Disk} {sheet : Markup.Element} :
    readSheet disk path = .ok sheet ↔
      ∃ content, disk.readFile (path / LoadError.sheetName) = .ok content ∧
        Markup.read content = .ok sheet := by
  unfold readSheet
  dsimp only
  cases hread : disk.readFile (path / LoadError.sheetName) with
  | error error =>
    by_cases hfile : disk.isFile (path / LoadError.sheetName) = true
    · simp [hfile, bind, Except.bind, Except.mapError]
    · simp [hfile, throw, throwThe, MonadExceptOf.throw, bind, Except.bind]
  | ok content =>
    have hfile := Disk.isFile_of_readFile hread
    simp only [hfile, if_true, bind, Except.bind, pure, Except.pure, Except.mapError,
      Except.ok.injEq, exists_eq_left']
    cases Markup.read content with
    | error error => cases error <;> simp [throw, throwThe, MonadExceptOf.throw]
    | ok found => simp

/-- What a sprite is loaded from. -/
theorem Sprite.load_ok {disk : Disk} {sprite : Sprite} :
    (Sprite.load disk path).result = .ok sprite ↔
      Name.fault? path.name = none ∧ ∃ content sheet,
        disk.readFile (path / LoadError.sheetName) = .ok content ∧
        Markup.read content = .ok sheet ∧ ofSheet path sheet = .ok sprite := by
  have hparts : (Sprite.load disk path).result = .ok sprite ↔
      Name.fault? path.name = none ∧ ∃ sheet, readSheet disk path = .ok sheet ∧
        ofSheet path sheet = .ok sprite := by
    unfold Sprite.load
    simp [Name.checkExport_ok]
  rw [hparts]
  constructor
  · rintro ⟨hname, sheet, hsheet, hof⟩
    obtain ⟨content, hread, hroot⟩ := readSheet_ok.1 hsheet
    exact ⟨hname, content, sheet, hread, hroot, hof⟩
  · rintro ⟨hname, content, sheet, hread, hroot, hof⟩
    exact ⟨hname, sheet, readSheet_ok.2 ⟨content, hread, hroot⟩, hof⟩

/-- A sheet says the same about a sprite wherever it is. -/
theorem Sprite.ofSheet_along {sheet : Markup.Element} {sprite : Sprite}
    (h : ofSheet path sheet = .ok sprite) (other : Path) :
    ofSheet other sheet = .ok { sprite with dir := other } := by
  obtain ⟨palettes, animations, hpalettes, hanimations, rfl⟩ := ofSheet_eq_ok.1 h
  exact ofSheet_eq_ok.2 ⟨palettes, animations, hpalettes, hanimations, rfl⟩

theorem Path.plain_sheetName : Path.Plain LoadError.sheetName :=
  plain_of_not_mem (by decide)

theorem Sprite.load_twin {sprite : Sprite} (hdisks : Disk.Reordered manifestName moved first second)
    (hsheet : LoadError.sheetName ≠ manifestName)
    (hpath : Disk.Parallel first second path other)
    (h : (Sprite.load first path).result = .ok sprite) :
    ∃ twin, (Sprite.load second other).result = .ok twin ∧ Sprite.Twin first second sprite twin := by
  obtain ⟨hname, content, sheet, hread, hroot, hof⟩ := Sprite.load_ok.1 h
  have hother : second.readFile (other / LoadError.sheetName) = .ok content :=
    hdisks.readFile_eq (hpath.locate _) hread fun location hlocate =>
      hdisks.not_moved Path.plain_sheetName hsheet hlocate
  obtain ⟨location, hlocate, _⟩ := Disk.readFile_ok.1 hread
  obtain ⟨rfl, _⟩ := Sprite.ofSheet_ok hof
  refine ⟨{ sprite with dir := other }, Sprite.load_ok.2
    ⟨?_, content, sheet, hother, hroot, Sprite.ofSheet_along hof other⟩, ?_⟩
  · rwa [hpath.name]
  · exact ⟨hpath.aligned Path.plain_sheetName hlocate, hpath.name, rfl, rfl, rfl⟩

/-! ## Actors -/

/-- Two actors that differ in the path of their directory only, which is one directory. -/
structure Actor.Twin (first second : Disk) (actor twin : Actor) : Prop where
  dir : Disk.Aligned first second actor.dir twin.dir
  name : twin.name = actor.name
  sourcePackage : twin.sourcePackage = actor.sourcePackage
  displayName : twin.displayName = actor.displayName
  tattle : twin.tattle = actor.tattle
  state : twin.state = actor.state

theorem Actor.readSidecar_ok {disk : Disk} {document : Value} :
    readSidecar disk path = .ok document ↔
      ∃ content, disk.readFile (path / sidecarName path.name) = .ok content ∧
        Yaml.read content = .ok document := by
  unfold readSidecar
  dsimp only
  cases hread : disk.readFile (path / sidecarName path.name) with
  | error error => cases error <;> simp [throw, throwThe, MonadExceptOf.throw]
  | ok content =>
    cases hdocument : Yaml.read content with
    | error error => cases error <;> simp [hdocument, throw, throwThe, MonadExceptOf.throw]
    | ok found => simp [hdocument, pure, Except.pure]

/-- The string that a sidecar file names under a key. -/
def Actor.Names (entries : List (Value × Value)) (package key : String) (id : Identifier) : Prop :=
  ∃ text, Value.lookup? key entries = some (.text text) ∧
    (Identifier.parse text package).result = .ok id

theorem Actor.field_ok {sidecar : Path} {entries : List (Value × Value)} {key : String}
    {id : Identifier} :
    (field sidecar entries package key).result = .ok id ↔ Names entries package key id := by
  unfold field Names
  split
  · next text hlookup => simp [hlookup]
  · next hlookup =>
    simp only [Loading.result_refuse, reduceCtorEq, false_iff, not_exists, not_and]
    intro text htext
    exact absurd htext (hlookup text)

/-- What an actor is loaded from. -/
theorem Actor.load_ok {disk : Disk} {actor : Actor} :
    (Actor.load disk package path).result = .ok actor ↔
      Name.fault? path.name = none ∧ ∃ content entries displayName tattle,
        disk.readFile (path / sidecarName path.name) = .ok content ∧
        Yaml.read content = .ok (.map entries) ∧
        Names entries package "name" displayName ∧ Names entries package "tattle" tattle ∧
        { dir := path, sourcePackage := package, displayName, tattle } = actor := by
  constructor
  · intro h
    unfold Actor.load at h
    obtain ⟨hname, h⟩ := Report.result_seq_ok.1 h
    obtain ⟨document, hdocument, h⟩ := Report.result_bind_ok.1 h
    rw [Report.result_ofExcept] at hdocument
    obtain ⟨content, hread, hcontent⟩ := readSidecar_ok.1 hdocument
    split at h
    · next entries =>
      obtain ⟨displayName, hdisplayName, h⟩ := Report.result_bind_ok.1 h
      obtain ⟨tattle, htattle, h⟩ := Report.result_bind_ok.1 h
      cases h
      exact ⟨Name.checkExport_ok.1 (Loading.result_orRefuse_ok.1 hname), content, entries,
        displayName, tattle, hread, hcontent, field_ok.1 hdisplayName, field_ok.1 htattle, rfl⟩
    · cases h
  · rintro ⟨hname, content, entries, displayName, tattle, hread, hcontent, hdisplayName, htattle,
      rfl⟩
    unfold Actor.load
    have hchecked : (Loading.orRefuse (Name.checkExport path.name) (.actorName path)).result =
        .ok () := Loading.result_orRefuse_ok.2 (Name.checkExport_ok.2 hname)
    have hdocument : (Report.ofExcept (readSidecar disk path)).result = .ok (.map entries) := by
      rw [Report.result_ofExcept]
      exact readSidecar_ok.2 ⟨content, hread, hcontent⟩
    refine Report.result_seq_ok.2 ⟨hchecked, Report.result_bind_ok.2 ⟨_, hdocument, ?_⟩⟩
    refine Report.result_bind_ok.2 ⟨displayName, field_ok.2 hdisplayName, ?_⟩
    exact Report.result_bind_ok.2 ⟨tattle, field_ok.2 htattle, rfl⟩

/-- A file that is named after an export is a component of its directory. -/
theorem Path.plain_of_fault? {name suffix : String} (h : Name.fault? name = none)
    (hsuffix : '/' ∉ suffix.toList) : Plain (name ++ suffix) := by
  refine plain_append (Name.ne_empty_of_fault? h) (fun c hc => ⟨?_, ?_⟩) hsuffix
  · rintro rfl
    exact Name.not_mem_of_fault? h (by decide) hc
  · rintro rfl
    exact Name.not_mem_of_fault? h (by decide) hc

/-- Documents that may only differ in the order of dependencies name the same strings. -/
theorem Actor.Names.of_reordered (package : String) {allowed : Prop} {content found : ByteArray}
    {entries : List (Value × Value)}
    (h : Entry.Reordered allowed (.file content) (.file found))
    (hread : Yaml.read content = .ok (.map entries)) :
    ∃ others, Yaml.read found = .ok (.map others) ∧
      ∀ key, "dependencies" ≠ key → ∀ id, Names entries package key id →
        Names others package key id := by
  cases h with
  | same => exact ⟨entries, hread, fun _ _ _ hnames => hnames⟩
  | manifest _ hdocument hrenewed documents =>
    obtain ⟨known, others, rfl, rfl, hlookup⟩ := documents.lookup?_eq
    rw [hread] at hdocument
    cases hdocument
    refine ⟨others, hrenewed, fun key hkey id hnames => ?_⟩
    obtain ⟨text, htext, hparse⟩ := hnames
    exact ⟨text, (hlookup key hkey).trans htext, hparse⟩

theorem Actor.load_twin {actor : Actor} (hdisks : Disk.Reordered manifestName moved first second)
    (hpath : Disk.Parallel first second path other)
    (h : (Actor.load first package path).result = .ok actor) :
    ∃ twin, (Actor.load second package other).result = .ok twin ∧
      Actor.Twin first second actor twin := by
  obtain ⟨hname, content, entries, displayName, tattle, hread, hcontent, hdisplayName, htattle,
    rfl⟩ := Actor.load_ok.1 h
  have hplain : Path.Plain (sidecarName path.name) := Path.plain_of_fault? hname (by decide)
  obtain ⟨location, found, hlocate, hfound, hentry⟩ := hdisks.readFile_ok (hpath.locate _) hread
  obtain ⟨others, hothers, hnames⟩ := Names.of_reordered package hentry hcontent
  refine ⟨{ dir := other, sourcePackage := package, displayName, tattle }, Actor.load_ok.2
    ⟨?_, found, others, displayName, tattle, ?_, hothers, hnames _ (by decide) _ hdisplayName,
      hnames _ (by decide) _ htattle, rfl⟩, ?_⟩
  · rwa [hpath.name]
  · rw [hpath.name]
    exact hfound
  · exact ⟨hpath.aligned hplain hlocate, hpath.name, rfl, rfl, rfl, rfl⟩

/-! ## Scripts and strings -/

/-- Two paths to one file, each on its own disk. -/
def Disk.SameFile (first second : Disk) (path other : Path) : Prop :=
  ∃ location content found, first.find path = .ok (location, .file content) ∧
    second.find other = .ok (location, .file found)

/-- Two strings that differ in the path of their file only, which is one file. -/
structure NamedString.Twin (first second : Disk) (string twin : NamedString) : Prop where
  path : Option.Rel (Disk.SameFile first second) string.path twin.path
  name : twin.name = string.name
  bank : twin.bank = string.bank
  text : twin.text = string.text
  state : twin.state = string.state

/-- Blocks do not tell which file they were read from. -/
theorem Block.classify_along {header : Line} {rest : List Line} {block : Block}
    (h : (classify path header rest).result = .ok block) (other : Path) :
    (classify other header rest).result = .ok block := by
  unfold classify at h ⊢
  cases hparts : headerParts? header.text with
  | none =>
    rw [hparts] at h
    exact h
  | some parts =>
    obtain ⟨bank, name⟩ := parts
    rw [hparts] at h
    dsimp only at h ⊢
    cases hbank : bankOf? bank with
    | none =>
      rw [hbank] at h
      cases h
    | some number =>
      rw [hbank] at h
      obtain ⟨_, hblock⟩ := Report.result_seq_ok.1 h
      exact Report.result_seq_ok.2 ⟨rfl, hblock⟩

theorem Script.close_along {pending : List Line} {blocks : List Block}
    (h : (close path pending).result = .ok blocks) (other : Path) :
    (close other pending).result = .ok blocks := by
  unfold close at h ⊢
  cases hlines : pending.reverse with
  | nil =>
    rw [hlines] at h
    exact h
  | cons header rest =>
    rw [hlines] at h
    obtain ⟨block, hblock, h⟩ := Report.result_bind_ok.1 h
    exact Report.result_bind_ok.2 ⟨block, Block.classify_along hblock other, h⟩

/-- The induction is on the lines. -/
theorem Script.blocksOf_along {pending lines : List Line} {blocks : List Block}
    (h : (blocksOf path pending lines).result = .ok blocks) (other : Path) :
    (blocksOf other pending lines).result = .ok blocks := by
  induction lines generalizing pending blocks with
  | nil => exact close_along h other
  | cons line lines ih =>
    rw [blocksOf] at h ⊢
    split at h
    · next hempty =>
      obtain ⟨block, hblock, h⟩ := Report.result_bind_ok.1 h
      obtain ⟨later, hlater, h⟩ := Report.result_bind_ok.1 h
      rw [if_pos hempty]
      exact Report.result_bind_ok.2 ⟨block, close_along hblock other,
        Report.result_bind_ok.2 ⟨later, ih hlater, h⟩⟩
    · next hempty =>
      rw [if_neg hempty]
      exact ih h

theorem Script.exists_readFile_of_load {disk : Disk} {script : Script}
    (h : (Script.load disk package path).result = .ok script) :
    ∃ content, disk.readFile path = .ok content := by
  unfold Script.load at h
  obtain ⟨source, hsource, _⟩ := Report.result_bind_ok.1 h
  have hread : readText disk path = .ok source := Report.result_mapError_ok.1 hsource
  obtain ⟨content, hcontent, _⟩ := except_bind_ok.1 hread
  exact ⟨content, mapError_eq_ok.1 hcontent⟩

/-- A file is read as a script in the same way along every path to it. -/
theorem Script.load_along {script : Script}
    (hfile : ∀ content, first.readFile path = .ok content → second.readFile other = .ok content)
    (h : (Script.load first package path).result = .ok script) :
    (Script.load second package other).result = .ok { script with path := other } := by
  unfold Script.load at h ⊢
  obtain ⟨source, hsource, h⟩ := Report.result_bind_ok.1 h
  have hother : readText second other = .ok source := by
    have hread : readText first path = .ok source := Report.result_mapError_ok.1 hsource
    unfold readText at hread ⊢
    obtain ⟨content, hcontent, hdecode⟩ := except_bind_ok.1 hread
    refine except_bind_ok.2 ⟨content, ?_, hdecode⟩
    exact mapError_eq_ok.2 (hfile content (mapError_eq_ok.1 hcontent))
  refine Report.result_bind_ok.2 ⟨source, Report.result_mapError_ok.2 hother, ?_⟩
  unfold parse at h ⊢
  obtain ⟨blocks, hblocks, h⟩ := Report.result_bind_ok.1 h
  refine Report.result_bind_ok.2 ⟨blocks, blocksOf_along hblocks other, ?_⟩
  dsimp only at h ⊢
  split at h
  · next hempty =>
    obtain ⟨_, h⟩ := Report.result_seq_ok.1 h
    cases h
    rw [if_pos hempty]
    rfl
  · next hempty =>
    cases h
    rw [if_neg hempty]
    rfl

theorem NamedString.ofBlock_along {block : Block} {string : NamedString}
    (h : (ofBlock path block).result = .ok string) (other : Path) :
    string.path = some path ∧
      (ofBlock other block).result = .ok { string with path := some other } := by
  unfold ofBlock at h ⊢
  cases hkind : block.kind with
  | other =>
    rw [hkind] at h
    cases h
  | namedString bank name =>
    rw [hkind] at h
    dsimp only at h ⊢
    obtain ⟨hname, h⟩ := Report.result_seq_ok.1 h
    have hchecked := Report.result_mapError_ok.1 hname
    split at h
    · obtain ⟨h, _⟩ := Report.result_seq_ok.1 h
      cases h
    · next hbank =>
      cases h
      rw [if_neg hbank]
      exact ⟨rfl, Report.result_seq_ok.2 ⟨Report.result_mapError_ok.2 hchecked, rfl⟩⟩

/-- Blocks define the same strings in every file. -/
theorem NamedString.ofBlocks_along {blocks : List Block} {strings : List NamedString}
    (h : (ofBlocks path blocks).result = .ok strings) (other : Path) :
    ∃ others, (ofBlocks other blocks).result = .ok others ∧
      List.Forall₂ (fun string another => string.path = some path ∧
        another = { string with path := some other }) strings others := by
  induction blocks generalizing strings with
  | nil =>
    cases h
    exact ⟨[], rfl, .nil⟩
  | cons block blocks ih =>
    rw [ofBlocks] at h
    obtain ⟨string, hstring, h⟩ := Report.result_bind_ok.1 h
    obtain ⟨rest, hrest, h⟩ := Report.result_bind_ok.1 h
    cases h
    obtain ⟨hpath, hother⟩ := ofBlock_along hstring other
    obtain ⟨others, hothers, hall⟩ := ih hrest
    refine ⟨{ string with path := some other } :: others, ?_, .cons ⟨hpath, rfl⟩ hall⟩
    rw [ofBlocks]
    exact Report.result_bind_ok.2 ⟨_, hother, Report.result_bind_ok.2 ⟨others, hothers, rfl⟩⟩

theorem NamedString.load_twin {strings : List NamedString}
    (hdisks : Disk.Reordered manifestName moved first second)
    (hplace : second.locate other = first.locate path)
    (hstay : ∀ location, first.locate path = .ok location → ¬ moved location)
    (h : (NamedString.load first package path).result = .ok strings) :
    ∃ others, (NamedString.load second package other).result = .ok others ∧
      List.Forall₂ (NamedString.Twin first second) strings others := by
  unfold NamedString.load at h
  obtain ⟨script, hscript, h⟩ := Report.result_bind_ok.1 h
  obtain ⟨read, hread, h⟩ := Report.result_bind_ok.1 h
  obtain ⟨_, h⟩ := Report.result_seq_ok.1 h
  cases h
  have hfile (content : ByteArray) (hcontent : first.readFile path = .ok content) :
      second.readFile other = .ok content := hdisks.readFile_eq hplace hcontent hstay
  obtain ⟨others, hothers, hall⟩ := ofBlocks_along hread other
  obtain ⟨content, hcontent⟩ := Script.exists_readFile_of_load hscript
  obtain ⟨location, hlocate, hfirst⟩ := Disk.readFile_ok.1 hcontent
  obtain ⟨_, hsame, hsecond⟩ := Disk.readFile_ok.1 (hfile content hcontent)
  rw [hplace, hlocate] at hsame
  cases hsame
  have hplaces : Disk.SameFile first second path other :=
    ⟨location, content, content, Disk.find_ok.2 ⟨hlocate, hfirst⟩,
      Disk.find_ok.2 ⟨hplace.trans hlocate, hsecond⟩⟩
  refine ⟨others, ?_, hall.imp ?_⟩
  · unfold NamedString.load
    refine Report.result_bind_ok.2 ⟨_, Script.load_along hfile hscript, ?_⟩
    exact Report.result_bind_ok.2 ⟨others, hothers, Report.result_seq_ok.2 ⟨rfl, rfl⟩⟩
  · rintro string another ⟨hpath, rfl⟩
    refine ⟨?_, rfl, rfl, rfl, rfl⟩
    rw [hpath]
    exact .some hplaces

/-- Two exports of one kind that differ in their paths only, which lead to the same places. -/
inductive AnyExport.Twin (first second : Disk) : AnyExport → AnyExport → Prop
  | sprite {sprite twin : Sprite} (h : sprite.Twin first second twin) :
      Twin first second (.sprite sprite) (.sprite twin)
  | actor {actor twin : Actor} (h : actor.Twin first second twin) :
      Twin first second (.actor actor) (.actor twin)
  | string {string twin : NamedString} (h : string.Twin first second twin) :
      Twin first second (.string string) (.string twin)

theorem optionRel_map {α β γ δ : Type} {R : α → β → Prop} {S : γ → δ → Prop} {f : α → γ} {g : β → δ}
    (hmap : ∀ item twin, R item twin → S (f item) (g twin)) {item : Option α} {twin : Option β}
    (h : Option.Rel R item twin) : Option.Rel S (item.map f) (twin.map g) := by
  cases h with
  | none => exact .none
  | some hrel => exact .some (hmap _ _ hrel)

theorem optionRel_of_map {α β γ δ : Type} {R : α → β → Prop} {S : γ → δ → Prop} {f : α → γ}
    {g : β → δ} {item : Option α} {twin : Option β} (h : Option.Rel S (item.map f) (twin.map g))
    (hmap : ∀ old new, item = some old → S (f old) (g new) → R old new) :
    Option.Rel R item twin := by
  cases item with
  | none =>
    cases twin with
    | none => exact .none
    | some new => cases h
  | some old =>
    cases twin with
    | none => cases h
    | some new =>
      cases h with
      | some hrel => exact .some (hmap old new rfl hrel)

/-! ## All definitions -/

namespace Package

variable {α : Type} [Export α] {T : α → α → Prop} {settings : Settings} {dir otherDir : Path}

/-- Related items with the same names are the last ones under the same identifiers. -/
theorem lastNamed_rel {items others : List α} (hname : ∀ item twin, T item twin →
      Export.name twin = Export.name item) (h : List.Forall₂ T items others) (id : Identifier) :
    Option.Rel T (lastNamed package items id) (lastNamed package others id) := by
  induction h with
  | nil => exact .none
  | @cons item twin items others hone _ ih =>
    have hsingle : Option.Rel T
        (if id = ⟨package, Export.name item⟩ then some item else none)
        (if id = ⟨package, Export.name item⟩ then some twin else none) := by
      split
      · exact .some hone
      · exact .none
    rw [lastNamed_cons, lastNamed_cons, hname item twin hone]
    generalize lastNamed package items id = found at ih ⊢
    generalize lastNamed package others id = another at ih ⊢
    cases ih with
    | none => exact hsingle
    | some hrel => exact .some hrel

omit [Export α] in
/-- Listings that show the same names define related items, when related paths do. -/
theorem gathered_rel {dir other : Path} {wantsDirectories : Bool}
    {load load' : Path → Loading (List α)} {moved : String → Prop}
    {entries found : List (String × Entry)} {items : List α}
    (hlisted : List.Forall₂ (Listed moved) entries found)
    (hload : ∀ entry ∈ entries, ∀ items, (load (dir / entry.1)).result = .ok items →
      ∃ twins, (load' (other / entry.1)).result = .ok twins ∧ List.Forall₂ T items twins)
    (h : gathered dir wantsDirectories load entries = .ok items) :
    ∃ twins, gathered other wantsDirectories load' found = .ok twins ∧
      List.Forall₂ T items twins := by
  induction hlisted generalizing items with
  | nil =>
    cases h
    exact ⟨[], rfl, .nil⟩
  | @cons old new entries found hhead _ ih =>
    obtain ⟨name, entry⟩ := old
    obtain ⟨_, another⟩ := new
    obtain ⟨rfl, hentry⟩ := hhead
    obtain ⟨hone, hrest⟩ := List.forall_mem_cons.1 hload
    have hwanted : ((another = .directory) = (wantsDirectories = true)) =
        ((entry = .directory) = (wantsDirectories = true)) := by
      rw [propext hentry.directory_iff]
    have hcons := gathered_cons_ok.1 h
    split at hcons
    · next hkind =>
      obtain ⟨front, hfront, back, hback, rfl⟩ := hcons
      obtain ⟨twins, htwins, hall⟩ := hone front hfront
      obtain ⟨others, hothers, hmore⟩ := ih hrest hback
      refine ⟨twins ++ others, gathered_cons_ok.2 ?_, List.rel_append hall hmore⟩
      rw [if_pos (hwanted ▸ hkind)]
      exact ⟨twins, htwins, others, hothers, rfl⟩
    · next hkind =>
      obtain ⟨twins, htwins, hall⟩ := ih hrest hcons
      refine ⟨twins, gathered_cons_ok.2 ?_, hall⟩
      rwa [if_neg (hwanted ▸ hkind)]

omit [Export α] in
/-- So do the directories of exports along two paths to a package. -/
theorem gatheredAll_rel {source : Path} {wantsDirectories : Bool}
    {load load' : Path → Loading (List α)} {items : List α}
    (hdisks : Disk.Reordered manifestName moved first second)
    (hdir : Disk.Aligned first second dir otherDir)
    (hload : ∀ listing, first.list (dir.join source) = .ok listing → ∀ entry ∈ listing, ∀ items,
      (load (dir.join source / entry.1)).result = .ok items →
        ∃ twins, (load' (otherDir.join source / entry.1)).result = .ok twins ∧
          List.Forall₂ T items twins)
    (h : gatheredAll first (dir.join source) wantsDirectories load = .ok items) :
    ∃ twins, gatheredAll second (otherDir.join source) wantsDirectories load' = .ok twins ∧
      List.Forall₂ T items twins := by
  have hplace := hdir.locate_join hdisks source
  unfold gatheredAll at h ⊢
  rw [hdisks.isDirectory_eq hplace]
  by_cases hdirectory : first.isDirectory (dir.join source) = true
  · rw [if_pos hdirectory] at h ⊢
    obtain ⟨listing, hlist, h⟩ := except_bind_ok.1 h
    have hread := mapError_eq_ok.1 hlist
    obtain ⟨location, others, _, hothers, hlisted⟩ := hdisks.list_ok hplace hread
    obtain ⟨twins, htwins, hall⟩ := gathered_rel hlisted (hload listing hread) h
    exact ⟨twins, except_bind_ok.2 ⟨others, mapError_eq_ok.2 hothers, htwins⟩, hall⟩
  · rw [if_neg hdirectory] at h ⊢
    cases h
    exact ⟨[], rfl, .nil⟩

/-- Definitions that differ in their paths only, which lead to the same places. -/
structure Definitions.Twin (first second : Disk) (own twin : Definitions) : Prop where
  sprites : List.Forall₂ (Sprite.Twin first second) own.sprites twin.sprites
  actors : List.Forall₂ (Actor.Twin first second) own.actors twin.actors
  strings : List.Forall₂ (NamedString.Twin first second) own.strings twin.strings

/-- No strings file of the package is at one of the locations. -/
def StringsApart (settings : Settings) (disk : Disk) (moved : Location → Prop) (dir : Path) :
    Prop :=
  ∀ listing, disk.list (dir / settings.sourceDirectory / "string") = .ok listing →
    ∀ entry ∈ listing, ∀ location,
      disk.locate (dir / settings.sourceDirectory / "string" / entry.1) = .ok location →
        ¬ moved location

theorem exists_items_singleton {β : Type} {T : β → β → Prop} {read read' : Loading β} {items : List β}
    (hread : ∀ item, read.result = .ok item → ∃ twin, read'.result = .ok twin ∧ T item twin)
    (h : (do return [← read] : Loading (List β)).result = .ok items) :
    ∃ twins, (do return [← read'] : Loading (List β)).result = .ok twins ∧
      List.Forall₂ T items twins := by
  obtain ⟨item, hitem, h⟩ := Report.result_bind_ok.1 h
  cases h
  obtain ⟨twin, htwin, hrel⟩ := hread item hitem
  exact ⟨[twin], Report.result_bind_ok.2 ⟨twin, htwin, rfl⟩, .cons hrel .nil⟩

/-- A package's definitions are those in the three directories of its sources. -/
theorem definitions_ok {disk : Disk} {own : Definitions} :
    definitions settings disk dir package = .ok own ↔
      gatheredAll disk (dir / settings.sourceDirectory / "sprite") true
          (fun path => do return [← Sprite.load disk path]) = .ok own.sprites ∧
        gatheredAll disk (dir / settings.sourceDirectory / "actor") true
          (fun path => do return [← Actor.load disk package path]) = .ok own.actors ∧
        gatheredAll disk (dir / settings.sourceDirectory / "string") false
          (fun path => Loading.orRefuse (NamedString.load disk package path) id) =
            .ok own.strings := by
  unfold definitions
  constructor
  · intro h
    obtain ⟨sprites, hsprites, h⟩ := except_bind_ok.1 h
    obtain ⟨actors, hactors, h⟩ := except_bind_ok.1 h
    obtain ⟨strings, hstrings, h⟩ := except_bind_ok.1 h
    cases h
    exact ⟨hsprites, hactors, hstrings⟩
  · rintro ⟨hsprites, hactors, hstrings⟩
    refine except_bind_ok.2 ⟨_, hsprites, except_bind_ok.2 ⟨_, hactors, ?_⟩⟩
    exact except_bind_ok.2 ⟨_, hstrings, rfl⟩

theorem Definitions.Twin.record? {own twin : Definitions} (h : own.Twin first second twin)
    (package : String) (kind : ExportKind) (id : Identifier) :
    Option.Rel (AnyExport.Twin first second) (own.record? package kind id)
      (twin.record? package kind id) := by
  cases kind with
  | sprite =>
    refine optionRel_map (fun _ _ => .sprite) (lastNamed_rel (fun _ _ htwin => ?_) h.sprites id)
    exact htwin.name
  | actor =>
    refine optionRel_map (fun _ _ => .actor) (lastNamed_rel (fun _ _ htwin => ?_) h.actors id)
    exact htwin.name
  | text =>
    refine optionRel_map (fun _ _ => .string) (lastNamed_rel (fun _ _ htwin => ?_) h.strings id)
    exact htwin.name

/-- A directory of a package's sources, seen from the directory of the package. -/
def sourcePath (settings : Settings) (name : String) : Path :=
  Path.ofString settings.sourceDirectory / name

theorem div_sourceDirectory (settings : Settings) (dir : Path) (name : String) :
    dir / settings.sourceDirectory / name = dir.join (sourcePath settings name) :=
  Path.div_div dir settings.sourceDirectory name

section Parallel

variable (hdisks : Disk.Reordered manifestName moved first second)
  (hdir : Disk.Aligned first second dir otherDir)
include hdisks hdir

theorem parallel_source (settings : Settings) {name : String} (hname : Path.Plain name)
    (entry : String) :
    Disk.Parallel first second (dir.join (sourcePath settings name) / entry)
      (otherDir.join (sourcePath settings name) / entry) := by
  have hleads : ((sourcePath settings name).join (Path.ofString entry)).Leads :=
    (Path.leads_div hname _).join _
  have hentry := hdir.parallel hdisks hleads
  rw [← Path.join_assoc, ← Path.join_assoc] at hentry
  exact hentry

theorem sprites_twin (hsheet : LoadError.sheetName ≠ manifestName) {sprites : List Sprite}
    (h : gatheredAll first (dir / settings.sourceDirectory / "sprite") true
      (fun path => do return [← Sprite.load first path]) = .ok sprites) :
    ∃ twins, gatheredAll second (otherDir / settings.sourceDirectory / "sprite") true
        (fun path => do return [← Sprite.load second path]) = .ok twins ∧
      List.Forall₂ (Sprite.Twin first second) sprites twins := by
  have hsprite : Path.Plain "sprite" := Path.plain_of_not_mem (by decide)
  rw [div_sourceDirectory] at h ⊢
  refine gatheredAll_rel hdisks hdir (fun _ _ entry _ items hitems => ?_) h
  have hparallel := parallel_source hdisks hdir settings hsprite entry.1
  exact exists_items_singleton (fun sprite => Sprite.load_twin hdisks hsheet hparallel) hitems

theorem actors_twin {actors : List Actor}
    (h : gatheredAll first (dir / settings.sourceDirectory / "actor") true
      (fun path => do return [← Actor.load first package path]) = .ok actors) :
    ∃ twins, gatheredAll second (otherDir / settings.sourceDirectory / "actor") true
        (fun path => do return [← Actor.load second package path]) = .ok twins ∧
      List.Forall₂ (Actor.Twin first second) actors twins := by
  have hactor : Path.Plain "actor" := Path.plain_of_not_mem (by decide)
  rw [div_sourceDirectory] at h ⊢
  refine gatheredAll_rel hdisks hdir (fun _ _ entry _ items hitems => ?_) h
  have hparallel := parallel_source hdisks hdir settings hactor entry.1
  exact exists_items_singleton (fun actor => Actor.load_twin hdisks hparallel) hitems

theorem strings_twin (hstrings : StringsApart settings first moved dir) {strings : List NamedString}
    (h : gatheredAll first (dir / settings.sourceDirectory / "string") false
      (fun path => Loading.orRefuse (NamedString.load first package path) id) = .ok strings) :
    ∃ twins, gatheredAll second (otherDir / settings.sourceDirectory / "string") false
        (fun path => Loading.orRefuse (NamedString.load second package path) id) = .ok twins ∧
      List.Forall₂ (NamedString.Twin first second) strings twins := by
  have hstring : Path.Plain "string" := Path.plain_of_not_mem (by decide)
  unfold StringsApart at hstrings
  rw [div_sourceDirectory] at h hstrings ⊢
  refine gatheredAll_rel hdisks hdir (fun listing hlisting entry hentry items hitems => ?_) h
  have hparallel := parallel_source hdisks hdir settings hstring entry.1
  have hread := Loading.result_orRefuse_ok.1 hitems
  obtain ⟨twins, htwins, hall⟩ := NamedString.load_twin hdisks hparallel.locate_self
    (hstrings listing hlisting entry hentry) hread
  exact ⟨twins, Loading.result_orRefuse_ok.2 htwins, hall⟩

/-- Along two paths to its directory a package defines the same exports. -/
theorem definitions_twin {own : Definitions} (hsheet : LoadError.sheetName ≠ manifestName)
    (hstrings : StringsApart settings first moved dir)
    (h : definitions settings first dir package = .ok own) :
    ∃ twin, definitions settings second otherDir package = .ok twin ∧
      own.Twin first second twin := by
  obtain ⟨hsprites, hactors, hstringsOf⟩ := definitions_ok.1 h
  obtain ⟨sprites, hsprites', hallSprites⟩ := sprites_twin hdisks hdir hsheet hsprites
  obtain ⟨actors, hactors', hallActors⟩ := actors_twin hdisks hdir hactors
  obtain ⟨strings, hstrings', hallStrings⟩ := strings_twin hdisks hdir hstrings hstringsOf
  exact ⟨⟨sprites, actors, strings⟩, definitions_ok.2 ⟨hsprites', hactors', hstrings'⟩,
    hallSprites, hallActors, hallStrings⟩

/-- Along both paths the package defines twins under the same identifiers. -/
theorem ownRecord?_twin {own : Definitions} (hsheet : LoadError.sheetName ≠ manifestName)
    (hstrings : StringsApart settings first moved dir)
    (h : definitions settings first dir package = .ok own) (kind : ExportKind) (id : Identifier) :
    Option.Rel (AnyExport.Twin first second) (ownRecord? settings first dir package kind id)
      (ownRecord? settings second otherDir package kind id) := by
  obtain ⟨twin, htwin, hown⟩ := definitions_twin hdisks hdir hsheet hstrings h
  rw [ownRecord?_of_definitions h, ownRecord?_of_definitions htwin]
  exact hown.record? package kind id

end Parallel

end Package

end ModPack
