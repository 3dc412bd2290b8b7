import ModPack.Proofs.ManifestRoundTrip
import ModPack.Proofs.NewPackages
import ModPack.Proofs.ScannedWords

/-!
# Loading a new package

The manifest of a new package is read back whatever the name is: a name that YAML would take for
something else stands between apostrophes. Beside it there is an empty source directory, so a load
gives the very package that was begun. Main statements: `Manifest.scan_text`, `readManifest_begun`,
`load_furnished` and `new_atomic`.
-/
namespace ModPack

open Yaml (Word Token)
open Yaml.Written (line shown)

/-! ## The text of the manifest -/

namespace Manifest

/-- The texts that stand without apostrophes. -/
def isPlain (text : String) : Bool :=
  Yaml.Plain.kind text = .text

/-- The text of a manifest that declares nothing. -/
def text (name version : List Char) : List Char :=
  line "name".toList name ++ line "version".toList version ++ "dependencies: \x7b\x7d\n".toList

theorem word_name : Word "name".toList :=
  .of_all (by decide) (by decide) (by decide)

theorem word_version : Word "version".toList :=
  .of_all (by decide) (by decide) (by decide)

theorem word_dependencies : Word "dependencies".toList :=
  .of_all (by decide) (by decide) (by decide)

theorem kind_keys : Yaml.Plain.kind "name" = .text ∧ Yaml.Plain.kind "version" = .text ∧
    Yaml.Plain.kind "dependencies" = .text := by
  decide +kernel

theorem toList_written {name version : List Char} (hname : Word name) (hversion : Word version) :
    (written ⟨.ofList name, .ofList version, []⟩).toList = text name version := by
  obtain ⟨first, hfirst, hfirstEnd⟩ := Yaml.Written.writeEntries_word hname word_name
    (by decide) (show ({} : Yaml.Written.Pen).indentTo 0 = { output := "" } from rfl)
    [("version", .text (.ofList version)), ("dependencies", .map [])]
  obtain ⟨second, hsecond, hsecondEnd⟩ := Yaml.Written.writeEntries_word hversion word_version
    (by decide) hfirstEnd [("dependencies", .map [])]
  have hkey := Yaml.Written.writeKey_word word_dependencies (by decide) hsecondEnd
  have hend := (hkey.writeTree_empty Yaml.Written.indentStep).indentTo
  have hdocument : Yaml.Written.writeTree {} 0 (toTree ⟨.ofList name, .ofList version, []⟩) =
      Yaml.Written.writeTree (Yaml.Written.writeKey second 0 (.ofList "dependencies".toList))
        Yaml.Written.indentStep (.map []) := by
    rw [toTree, Yaml.Written.writeTree]
    exact hfirst.trans hsecond
  have hshown : shown "dependencies".toList = "dependencies".toList := if_pos kind_keys.2.2
  rw [written, Yaml.Tree.written, hdocument, hend, hshown]
  simp [text]

section Scanning

variable {name version : List Char} {c : Char}

/-- All of a word can stand in a text. -/
theorem isAllowed_of_isPlainChar (h : Yaml.isPlainChar c = true) : Yaml.isAllowed c = true := by
  have hrange := Yaml.toNat_of_isPlainChar h
  simp [Yaml.isAllowed, hrange.1, hrange.2]

theorem mem_shown {text : List Char} (h : c ∈ shown text) : c ∈ text ∨ c = '\'' := by
  rw [shown] at h
  split at h
  · exact .inl h
  · simp at h
    tauto

/-- The characters of a text that are not those of its words. -/
def marks : List Char :=
  ['\'', ':', ' ', '\n', '\x7b', '\x7d']

theorem mem_line {key value : List Char} (hkey : Word key) (hvalue : Word value)
    (h : c ∈ line key value) : Yaml.isPlainChar c = true ∨ c ∈ marks := by
  have hshown {text : List Char} (htext : Word text) (hc : c ∈ shown text) :
      Yaml.isPlainChar c = true ∨ c ∈ marks := by
    rcases mem_shown hc with hc | rfl
    · exact .inl (htext.plain c hc)
    · exact .inr (by decide)
  simp only [line, List.mem_append, List.mem_cons, List.not_mem_nil, or_false] at h
  rcases h with (hc | rfl | rfl | hc) | rfl
  · exact hshown hkey hc
  · exact .inr (by decide)
  · exact .inr (by decide)
  · exact hshown hvalue hc
  · exact .inr (by decide)

theorem mem_text (hname : Word name) (hversion : Word version) (h : c ∈ text name version) :
    Yaml.isPlainChar c = true ∨ c ∈ marks := by
  have hdependencies : "dependencies: \x7b\x7d\n".toList.all
      (fun c => Yaml.isPlainChar c || marks.contains c) = true := by decide
  rw [text, List.mem_append, List.mem_append] at h
  rcases h with (hc | hc) | hc
  · exact mem_line word_name hname hc
  · exact mem_line word_version hversion hc
  · simpa using List.all_eq_true.1 hdependencies c hc

/-- The text is scanned line by line. -/
theorem scan_text (hname : Word name) (hversion : Word version) :
    Token.scan (text name version) =
      .ok ((toTree ⟨.ofList name, .ofList version, []⟩).tokens isPlain) := by
  have hallowed : (text name version).all Yaml.isAllowed = true := by
    rw [List.all_eq_true]
    intro c hc
    have hmarks : marks.all Yaml.isAllowed = true := by decide
    rcases mem_text hname hversion hc with hplain | hmark
    · exact isAllowed_of_isPlainChar hplain
    · exact List.all_eq_true.1 hmarks c hmark
  have hlines : text name version = line "name".toList name ++
      'v' :: ("ersion".toList ++ ':' :: ' ' :: shown version ++ '\n' ::
        "dependencies: \x7b\x7d\n".toList) := by
    have hshown : shown "version".toList = "version".toList := if_pos kind_keys.2.1
    rw [text, List.append_assoc, line, line, hshown]
    simp
  have hversionLine : 'v' :: ("ersion".toList ++ ':' :: ' ' :: shown version ++ '\n' ::
      "dependencies: \x7b\x7d\n".toList) =
        line "version".toList version ++ 'd' :: "ependencies: \x7b\x7d\n".toList := by
    have hshown : shown "version".toList = "version".toList := if_pos kind_keys.2.1
    rw [line, hshown]
    simp
  have hstart : Yaml.Scan.AtLine (text name version) (-1) [] #[]
      { cells := Yaml.layOut 0 0 0 (text name version) } := by
    refine ⟨⟨0, 0, ?_⟩, by simp [Yaml.length_layOut]⟩
    have hshown : shown "name".toList = "name".toList := if_pos kind_keys.1
    have hn : Yaml.isPlainChar 'n' = true := by decide
    exact Yaml.Scan.toNextToken_word hn (by rw [text, line, hshown]; rfl)
  rw [hlines] at hstart
  obtain ⟨second, hfirst, hsecond⟩ := Yaml.Scan.run_line word_name kind_keys.1 (by decide) hname
    (by decide) (by decide) (by decide) hstart
  rw [hversionLine] at hsecond
  obtain ⟨third, hsecondRun, hthird⟩ := Yaml.Scan.run_line word_version kind_keys.2.1 (by decide)
    hversion (by decide) (by decide) (by decide) hsecond
  have hdependencies : 'd' :: "ependencies: \x7b\x7d\n".toList =
      "dependencies".toList ++ ':' :: ' ' :: ['\x7b', '\x7d', '\n'] := rfl
  rw [hdependencies] at hthird
  obtain ⟨colon, place, fourth, hthirdRun, hcolon⟩ := Yaml.Scan.run_to_colon word_dependencies
    (by decide) (by decide) hthird
  obtain ⟨index, lineNumber, column, hbraces⟩ := Yaml.Scan.run_colon (by decide) hcolon
  have hrun := hfirst.trans (hsecondRun.trans (hthirdRun.trans (hbraces.trans
    (Yaml.Scan.run_braces index lineNumber column))))
  rw [Token.scan, if_pos hallowed, hlines, hrun]
  simp [toTree, Yaml.Tree.tokens, Yaml.Tree.entryTokens, Yaml.Scan.keyTokens, isPlain, kind_keys]

end Scanning

end Manifest

/-! ## The settings -/

/-- The names of what a new package puts into its directory. -/
def Settings.newNames (settings : Settings) : List String :=
  [settings.manifestName, settings.ignoreFileName, settings.sourceDirectory]

/-- The names of a package's files are different components of paths, and what new packages start
with is a version. -/
structure Settings.Proper (settings : Settings) : Prop where
  manifest : Path.Plain settings.manifestName
  ignoreFile : Path.Plain settings.ignoreFileName
  source : Path.Plain settings.sourceDirectory
  nodup : (settings.newNames).Nodup
  word : Word settings.initialVersion.toList
  version : Version.isVersion settings.initialVersion = true

theorem Settings.proper_ofEnvironment (environment : Option String) :
    (ofEnvironment environment).Proper := by
  have hnames : (ofEnvironment environment).newNames = ["starpkg.yaml", ".gitignore", "src"] := by
    cases environment <;> rfl
  have hversion : (ofEnvironment environment).initialVersion = "0.1.0" := by
    cases environment <;> rfl
  refine ⟨plain_manifestName environment, plain_ignoreFileName environment,
    plain_sourceDirectory environment, ?_, ?_, ?_⟩
  · rw [hnames]
    decide
  · rw [hversion]
    exact .of_all (by decide) (by decide) (by decide)
  · rw [hversion]
    decide +kernel

/-! ## What a new package leaves in its directory -/

namespace Disk

variable {disk : Disk} {dir : Path} {location : Location} {name : String} {names : List String}

/-- A directory where nothing has one of the names. -/
structure Room (disk : Disk) (dir : Path) (location : Location) (names : List String) : Prop where
  directory : disk.directory? dir = some location
  free : ∀ name ∈ names, disk.tree.get? (name :: location) = none

namespace Room

theorem isDirectory (h : Room disk dir location (name :: names)) :
    disk.tree.isDirectory (name :: location) = false := by
  simp [FileTree.isDirectory, h.free name List.mem_cons_self]

theorem grows (h : Room disk dir location (name :: names)) (entry : Entry) :
    Grows disk (disk.withEntry (name :: location) entry) :=
  Grows.withEntry (h.free name List.mem_cons_self)

/-- With an entry under the first name there is room for the others. -/
theorem withEntry (h : Room disk dir location (name :: names)) (hname : name ∉ names)
    (entry : Entry) : Room (disk.withEntry (name :: location) entry) dir location names := by
  refine ⟨(h.grows entry).keeps.directory? h.directory, fun other hother => ?_⟩
  have hne : other :: location ≠ name :: location := by
    rintro heq
    cases heq
    exact hname hother
  rw [get?_withEntry_of_ne (List.cons_ne_nil _ _) hne]
  exact h.free other (List.mem_cons_of_mem _ hother)

end Room

end Disk

namespace Package

variable {settings : Settings} {dir chosen : Path} {name : String} {site after : Site Unit}
  {location : Location} {package : Package}

/-- A disk with the entries of a new package in a directory. -/
def furnished (settings : Settings) (name : String) (disk : Disk) (location : Location) : Disk :=
  let manifest : Entry := .file (Utf8.encode (newManifest settings name).written)
  let ignoreFile : Entry := .file (Utf8.encode settings.ignoreFileContents)
  ((disk.withEntry (settings.manifestName :: location) manifest).withEntry
    (settings.ignoreFileName :: location) ignoreFile).withEntry
      (settings.sourceDirectory :: location) .directory

/-- The manifest of a new package is read back, whatever its name would mean elsewhere. -/
theorem readManifest_begun {disk : Disk} (hsettings : settings.Proper)
    (hname : Name.packageFault? name = none)
    (hfile : disk.readFile (dir / settings.manifestName) =
      .ok (Utf8.encode (newManifest settings name).written)) :
    readManifest settings disk dir = .ok (newManifest settings name) := by
  have hword : Word name.toList := .of_fault? (Name.fault?_of_packageFault? hname)
  have hwritten : (newManifest settings name).written.toList =
      Manifest.text name.toList settings.initialVersion.toList := by
    have htext := Manifest.toList_written hword hsettings.word
    rwa [String.ofList_toList, String.ofList_toList] at htext
  have hscan : Token.scan (newManifest settings name).written.toList =
      .ok ((newManifest settings name).toTree.tokens Manifest.isPlain) := by
    have htokens := Manifest.scan_text hword hsettings.word
    rwa [String.ofList_toList, String.ofList_toList, ← hwritten] at htokens
  have hlines : '\r' ∉ (newManifest settings name).written.toList := by
    rw [hwritten]
    intro hmem
    rcases Manifest.mem_text hword hsettings.word hmem with hplain | hmark
    · exact absurd hplain (by decide)
    · exact absurd hmark (by decide)
  exact readManifest_of_scan hfile hlines (fun _ => of_decide_eq_true) hscan List.nodup_nil
    (Manifest.ofValue_toValue ⟨hsettings.version, .nil⟩)

section Empty

variable (hsettings : settings.Proper)
  (hroom : site.disk.Room dir location (settings.newNames))
include hsettings hroom

open Work (outcome outcome_seq_ok outcome_onDisk_ok)

/-- Where there is room for it nothing is in the way of a new package. -/
theorem outcome_newIn_of_room : outcome (newIn settings dir name) site =
    (.ok (begun settings dir name),
      { site with disk := furnished settings name site.disk location }) := by
  obtain ⟨hmanifest, hrest⟩ := List.nodup_cons.1 hsettings.nodup
  obtain ⟨hignore, _⟩ := List.nodup_cons.1 hrest
  have hwritten := hroom.withEntry hmanifest
    (.file (Utf8.encode (newManifest settings name).written))
  have hignored := hwritten.withEntry hignore (.file (Utf8.encode settings.ignoreFileContents))
  have hwrite := Disk.outcome_writeText_div hwritten.directory hsettings.ignoreFile
    settings.ignoreFileContents
  rw [if_neg (by simp [hwritten.isDirectory])] at hwrite
  have hmake : Disk.outcome (Disk.makeDirectory true (dir / settings.sourceDirectory)) _ =
      (.ok (), furnished settings name site.disk location) :=
    Disk.outcome_makeDirectory_ok.2 ⟨_, Disk.locate_div hignored.directory hsettings.source,
      .inl ⟨hignored.free _ List.mem_cons_self, rfl⟩⟩
  rw [outcome_newIn hroom.directory hsettings.manifest,
    if_neg (by simp [hroom.free _ List.mem_cons_self])]
  exact outcome_seq_ok.2 ⟨_, outcome_onDisk_ok.2 ⟨_, hwrite, rfl⟩,
    outcome_seq_ok.2 ⟨_, outcome_onDisk_ok.2 ⟨_, hmake, rfl⟩, rfl⟩⟩

end Empty

section Loading

variable {disk : Disk} (hsettings : settings.Proper) (hrooted : disk.Rooted)
  (hroom : disk.Room dir location settings.newNames)
include hsettings hroom

/-- What a new package puts into its directory is there. -/
theorem entries_furnished (name : String) :
    (furnished settings name disk location).directory? dir = some location ∧
    (furnished settings name disk location).tree.get? (settings.manifestName :: location) =
      some (.file (Utf8.encode (newManifest settings name).written)) ∧
    (furnished settings name disk location).tree.isDirectory
      (settings.sourceDirectory :: location) = true := by
  obtain ⟨hmanifest, hrest⟩ := List.nodup_cons.1 hsettings.nodup
  obtain ⟨hignore, hlast⟩ := List.nodup_cons.1 hrest
  have hwritten := hroom.withEntry hmanifest
    (.file (Utf8.encode (newManifest settings name).written))
  have hignored := hwritten.withEntry hignore (.file (Utf8.encode settings.ignoreFileContents))
  have hsourced := hignored.withEntry (List.nodup_cons.1 hlast).1 .directory
  refine ⟨hsourced.directory, ?_, ?_⟩
  · exact (hignored.grows _).found _ _ ((hwritten.grows _).found _ _
      (Disk.get?_withEntry_self (List.cons_ne_nil _ _)))
  · exact FileTree.isDirectory_iff.2 (Disk.get?_withEntry_self (List.cons_ne_nil _ _))

include hrooted

/-- Nothing is in the source directory. -/
theorem isDirectory_furnished {kind : String} (hkind : Path.Plain kind) :
    (furnished settings name disk location).isDirectory
      (dir / settings.sourceDirectory / kind) = false := by
  obtain ⟨hdir, _, hsource⟩ := entries_furnished hsettings hroom name
  have hnothing : disk.tree.get? (kind :: settings.sourceDirectory :: location) = none :=
    hrooted.tree.get?_eq_none_of_within (hroom.free settings.sourceDirectory (by simp
      [Settings.newNames])) (Location.within_cons _ _)
  have hbelow (other : String) : kind :: settings.sourceDirectory :: location ≠ other :: location :=
    fun heq => by simpa using congrArg List.length heq
  have hstill : (furnished settings name disk location).tree.get?
      (kind :: settings.sourceDirectory :: location) = none := by
    rw [furnished, Disk.get?_withEntry_of_ne (List.cons_ne_nil _ _) (hbelow _),
      Disk.get?_withEntry_of_ne (List.cons_ne_nil _ _) (hbelow _),
      Disk.get?_withEntry_of_ne (List.cons_ne_nil _ _) (hbelow _), hnothing]
  rw [Disk.isDirectory, Option.isSome_eq_false_iff, Option.isNone_iff_eq_none,
    Option.eq_none_iff_forall_not_mem]
  intro found hfound
  obtain ⟨hlocate, hdirectory⟩ := Disk.directory?_eq_some.1 hfound
  rw [Disk.locate_div (Disk.directory?_div hdir hsettings.source hsource) hkind] at hlocate
  cases hlocate
  rw [FileTree.isDirectory_iff, hstill] at hdirectory
  cases hdirectory

/-- The package that was begun is what is loaded from there. -/
theorem load_furnished (hname : Name.packageFault? name = none) :
    (load settings (furnished settings name disk location) dir).result =
      .ok (begun settings dir name) := by
  obtain ⟨hdir, hfile, _⟩ := entries_furnished hsettings hroom name
  have hnone {kind : String} (hkind : Path.Plain kind) :
      (furnished settings name disk location).isDirectory
        (dir / settings.sourceDirectory / kind) = false :=
    isDirectory_furnished hsettings hrooted hroom hkind
  have hmanifest : (checkedManifest settings (furnished settings name disk location) dir).result =
      .ok (newManifest settings name) :=
    checkedManifest_ok.2 ⟨readManifest_begun hsettings hname
      (Disk.readFile_div hdir hsettings.manifest hfile), hname⟩
  have hexports : (ownExports settings (furnished settings name disk location) dir name
      (mergedExports [])).result = .ok {} := by
    have hsprite : Path.Plain "sprite" := Path.plain_of_not_mem (by decide)
    have hactor : Path.Plain "actor" := Path.plain_of_not_mem (by decide)
    have hstring : Path.Plain "string" := Path.plain_of_not_mem (by decide)
    simp only [ownExports, registerAll, hnone hsprite, hnone hactor, hnone hstring]
    rfl
  exact loadNested_ok.2 ⟨location, _, [], hdir, List.not_mem_nil, hmanifest, loadDependencies_nil,
    ofParts_ok.2 ⟨conflict?_eq_none.2 List.nodup_nil, {}, hexports, rfl⟩⟩

end Loading

end Package

/-! ## Errors and packages -/

/-- The errors that a new package has of its own: its name is none, or its directory is taken. -/
def NewFailure.IsOwn (failure : NewFailure) : Prop :=
  (∃ error, failure = .name error) ∨ ∃ path, failure = .occupied path

theorem NewFailure.not_isOwn_system (error : OsError) : ¬ (system error).IsOwn := by
  rintro (⟨_, heq⟩ | ⟨_, heq⟩) <;> cases heq

namespace Package

open Work (outcome outcome_bind_ok outcome_seq_ok outcome_onDisk_ok)

variable {settings : Settings} {dir : Path} {name : String} {site after : Site Unit}
  {location : Location} {package : Package}

/-- Work that is refused in a directory has done nothing there. -/
theorem newIn_refused (hsettings : settings.Proper)
    (hdir : site.disk.directory? dir = some location) {failure : NewFailure}
    (h : outcome (newIn settings dir name) site = (.error failure, after))
    (hown : failure.IsOwn) : after = site := by
  rw [outcome_newIn hdir hsettings.manifest] at h
  split at h
  · cases h
    rfl
  · obtain ⟨error, rfl⟩ := furnish_failsIn failure _ h
    exact absurd hown (NewFailure.not_isOwn_system error)

theorem dir_of_newIn (hsettings : settings.Proper)
    (hdir : site.disk.directory? dir = some location)
    (h : outcome (newIn settings dir name) site = (.ok package, after)) : package.dir = dir := by
  rw [outcome_newIn hdir hsettings.manifest] at h
  split at h
  · cases h
  · obtain ⟨_, _, h⟩ := outcome_seq_ok.1 h
    obtain ⟨_, _, h⟩ := outcome_seq_ok.1 h
    cases h
    rfl

/-- In an empty directory there is room for everything. -/
theorem room_of_empty {disk : Disk} (hdir : disk.directory? dir = some location)
    (hempty : disk.tree.children location = []) (names : List String) :
    disk.Room dir location names :=
  ⟨hdir, fun name _ => FileTree.get?_eq_none_of_children_eq_nil hempty name⟩

section Runs

variable {result : Except NewFailure Package}
  (hrun : outcome (new settings dir name) site = (result, after))
include hrun

/-- Either the work stops before a directory is chosen, and is refused only where nothing was done,
or it goes on in the directory that was chosen. -/
theorem course_of_new : (∃ failure, result = .error failure ∧ (failure.IsOwn → after = site)) ∨
    Path.Plain name ∧ Name.packageFault? name = none ∧
      ∃ chosen between, Placed site.disk dir name chosen between.disk ∧
        outcome (newIn settings chosen name) between = (result, after) := by
  cases hfault : Name.packageFault? name with
  | some fault =>
    rw [outcome_new_of_fault hfault] at hrun
    cases hrun
    exact .inl ⟨_, rfl, fun _ => rfl⟩
  | none =>
    rw [outcome_new hfault, Work.outcome_bind] at hrun
    rcases hchoice : outcome (newDirectory settings dir name) site with ⟨error | chosen, between⟩
    · rw [hchoice] at hrun
      cases hrun
      obtain ⟨error, rfl⟩ := newDirectory_failsIn error _ hchoice
      exact .inl ⟨_, rfl, fun hown => absurd hown (NewFailure.not_isOwn_system error)⟩
    · rw [hchoice] at hrun
      exact .inr ⟨Path.plain_of_packageFault? hfault, rfl, chosen, between, newDirectory_ok hchoice,
        hrun⟩

variable (hsettings : settings.Proper) (hrooted : site.disk.Rooted)
include hsettings hrooted

/-- The directory of a refused package has a manifest, so it was there before. -/
theorem disk_of_new_refused {failure : NewFailure} (hresult : result = .error failure)
    (hown : failure.IsOwn) : after.disk = site.disk := by
  rcases course_of_new hrun with ⟨_, rfl, hsame⟩ | ⟨hname, _, chosen, between, hplaced, hrun⟩
  · cases hresult
    rw [hsame hown]
  · subst hresult
    obtain ⟨there, hthere, hbetween, hempty | ⟨hsame, _⟩⟩ := hplaced.place hrooted hname
    · rw [outcome_newIn_of_room hsettings (room_of_empty hthere hempty _)] at hrun
      cases hrun
    · rw [newIn_refused hsettings hthere hrun hown, hsame]

/-- In a directory that was not there, or was empty, everything goes through. -/
theorem load_of_new (hresult : result = .ok package)
    (hfresh : site.disk.pathExists package.dir = false ∨ site.disk.list package.dir = .ok []) :
    package = begun settings package.dir name ∧
      (load settings after.disk package.dir).result = .ok package := by
  rcases course_of_new hrun with ⟨_, rfl, _⟩ | ⟨hname, hfault, chosen, between, hplaced, hrun⟩
  · cases hresult
  · subst hresult
    obtain ⟨there, hthere, hbetween, hplace⟩ := hplaced.place hrooted hname
    have hdir := dir_of_newIn hsettings hthere hrun
    have hempty : between.disk.tree.children there = [] := by
      rcases hplace with hempty | ⟨hsame, -⟩
      · exact hempty
      · rw [hdir, ← hsame] at hfresh
        rcases hfresh with habsent | hlist
        · rw [Disk.pathExists_of_directory? hthere] at habsent
          cases habsent
        · obtain ⟨_, hfound, hchildren⟩ := Disk.list_ok.1 hlist
          rw [hthere] at hfound
          cases hfound
          exact hchildren
    have hroom := room_of_empty hthere hempty settings.newNames
    rw [outcome_newIn_of_room hsettings hroom] at hrun
    cases hrun
    exact ⟨rfl, load_furnished hsettings hbetween hroom hfault⟩

end Runs

/-- A name that is refused and a directory that is taken leave the disk as it was. In a directory
that was not there before, or that was empty, a new package is what is loaded from there after
that. -/
theorem new_atomic (environment : Option String) (dir : Path) (name : String) (site : Site Unit)
    (hrooted : site.disk.Rooted) {result : Except NewFailure Package}
    (hrun : outcome (new (.ofEnvironment environment) dir name) site = (result, after)) :
    (∀ failure, result = .error failure → failure.IsOwn → after.disk = site.disk) ∧
      ∀ package, result = .ok package →
        (site.disk.pathExists package.dir = false ∨ site.disk.list package.dir = .ok []) →
          package.manifest = { name, version := "0.1.0", dependencies := [] } ∧
            package.dependencies = [] ∧ package.exports = {} ∧
              (load (.ofEnvironment environment) after.disk package.dir).result = .ok package := by
  have hsettings := Settings.proper_ofEnvironment environment
  have hversion : (Settings.ofEnvironment environment).initialVersion = "0.1.0" := by
    cases environment <;> rfl
  refine ⟨fun failure => disk_of_new_refused hrun hsettings hrooted, fun package hok hfresh => ?_⟩
  obtain ⟨hpackage, hload⟩ := load_of_new hrun hsettings hrooted hok hfresh
  refine ⟨?_, ?_, ?_, hload⟩
  · rw [hpackage, ← hversion]
    rfl
  · rw [hpackage]
    rfl
  · rw [hpackage]
    rfl

end Package

namespace Sample

/-- A directory with a package in it. -/
def desk : Disk where
  tree := ⟨[
    (["work"], .directory),
    (["art", "work"], .directory),
    (["starpkg.yaml", "art", "work"], .file (Utf8.encode "name: art\n"))]⟩

/-- The path of a directory that is not there. -/
def newPath : Path :=
  ⟨.root, ["fresh"]⟩

end Sample

namespace Package

open Sample (desk workPath newPath)
open Work (outcome)

/-- A package is refused where its directory is one already. -/
theorem outcome_new_desk : ∃ after : Site Unit,
    outcome (new {} workPath "art") { disk := desk, held := () } =
      (.error (.occupied (workPath / "art")), after) := by
  have hname : Name.packageFault? "art" = none := by decide +kernel
  have hplain : Path.Plain "art" := Path.plain_of_packageFault? hname
  have hdir : desk.directory? workPath = some ["work"] := by decide +kernel
  have hthere : desk.tree.isDirectory ["art", "work"] = true := by decide +kernel
  obtain ⟨between, hchoice, hsame⟩ : ∃ between : Site Unit,
      outcome (newDirectory {} workPath "art") { disk := desk, held := () } =
        (.ok (workPath / "art"), between) ∧ between.disk = desk :=
    newDirectory_of_directory? hplain hdir hthere
  have hchosen : between.disk.directory? (workPath / "art") = some ["art", "work"] := by
    rw [hsame]
    exact Disk.directory?_div hdir hplain hthere
  have htaken : (between.disk.tree.get? ["starpkg.yaml", "art", "work"]).isSome = true := by
    rw [hsame]
    decide +kernel
  have hrefused : outcome (newIn {} (workPath / "art") "art") between =
      (.error (.occupied (workPath / "art")), between) :=
    (outcome_newIn hchosen (Settings.plain_manifestName none)).trans (if_pos htaken)
  rw [outcome_new hname, Work.outcome_bind_of_ok hchoice]
  exact ⟨between, hrefused⟩

/-- Where the directory of a package is taken nothing changes, and a package whose name is a boolean
in YAML is loaded from a directory that was not there. -/
theorem new_atomic_desk : desk.Rooted ∧
    (∃ after, outcome (new {} workPath "art") { disk := desk, held := () } =
      (.error (.occupied (workPath / "art")), after) ∧ after.disk = desk) ∧
    ∃ package after, outcome (new {} newPath "yes") { disk := desk, held := () } =
        (.ok package, after) ∧
      package.dir = newPath ∧ desk.pathExists newPath = false ∧
      package.manifest = { name := "yes", version := "0.1.0", dependencies := [] } ∧
      (load {} after.disk newPath).result = .ok package := by
  have hrooted : desk.Rooted := ⟨FileTree.rooted_of_entries (by decide +kernel), by decide⟩
  have habsent : desk.pathExists newPath = false := by decide +kernel
  obtain ⟨refused, hrefused⟩ := outcome_new_desk
  have hfirst := new_atomic none workPath "art" { disk := desk, held := () } hrooted hrefused
  have hdir : (outcome (new {} newPath "yes") { disk := desk, held := () }).1.toOption.map
      Package.dir = some newPath := by decide +kernel
  rcases hrun : outcome (new {} newPath "yes") { disk := desk, held := () } with
    ⟨failure | package, after⟩
  · rw [hrun] at hdir
    cases hdir
  · rw [hrun] at hdir
    have hdir : package.dir = newPath := Option.some.inj hdir
    have hsecond := new_atomic none newPath "yes" { disk := desk, held := () } hrooted hrun
    obtain ⟨hmanifest, _, _, hload⟩ := hsecond.2 package rfl (.inl (hdir ▸ habsent))
    exact ⟨hrooted, ⟨refused, hrefused, hfirst.1 _ rfl (.inr ⟨_, rfl⟩)⟩, package, after, rfl, hdir,
      habsent, hmanifest, hdir ▸ hload⟩

end Package

end ModPack
