import ModPack.Proofs.DiskFrames
import ModPack.Proofs.ManifestFiles
import ModPack.Proofs.ManifestOrder

/-!
# Manifests that are written and read again

What a path is printed as is read as the same path: no component that reading leaves is empty, `.` or
cut by a slash, and the slashes in front are as many as its anchor has. A manifest that is read has
its dependencies under different names, each with a path that a text was read as, so its document is
read as the same manifest again, with the dependencies in the same order. Main statements:
`Path.ofString_toString`, `Manifest.proper_of_ofValue` and `Manifest.round_trips`.
-/
namespace ModPack

/-! ## Paths -/

namespace Path

variable {path : Path} {parts : List String} {text : String}

/-- The text is one component that reading leaves. -/
structure Component (part : String) : Prop where
  isPart : Path.isPart part = true
  slash : '/' ∉ part.toList

theorem Component.ne_empty {part : String} (h : Component part) : part ≠ "" := by
  rintro rfl
  exact absurd h.isPart (by decide)

theorem component_of_mem_ofString {part : String} (h : part ∈ (ofString text).parts) :
    Component part := by
  refine ⟨isPart_of_mem_ofString h, fun hslash => ?_⟩
  obtain ⟨piece, hpiece, rfl⟩ := List.mem_map.1 (List.mem_filter.1 h).1
  rw [String.toList_ofList] at hslash
  exact (Text.of_mem_pieces hpiece hslash).2 rfl

theorem toList_slash (text : String) : ("/" ++ text).toList = '/' :: text.toList := by
  rw [String.toList_append]
  rfl

/-- A slash in front is counted for the anchor. -/
theorem takeWhile_slash (text : String) :
    ("/" ++ text).toList.takeWhile (· = '/') = '/' :: text.toList.takeWhile (· = '/') := by
  rw [toList_slash, List.takeWhile_cons_of_pos (by decide)]

/-- It adds an empty component, which reading drops. -/
theorem filter_splitAt_slash (text : String) :
    (Text.splitAt '/' ("/" ++ text)).filter isPart = (Text.splitAt '/' text).filter isPart := by
  have hsplit : Text.splitAt '/' ("/" ++ text) = "" :: Text.splitAt '/' text := by
    simp [Text.splitAt, Text.pieces]
  rw [hsplit, List.filter_cons_of_neg (by decide)]

/-- Components between slashes are found again. -/
theorem filter_splitAt_intercalate (h : ∀ part ∈ parts, Component part) :
    (Text.splitAt '/' ("/".intercalate parts)).filter isPart = parts := by
  cases parts with
  | nil => decide
  | cons part rest =>
    have hslash : ∀ other ∈ part :: rest, '/' ∉ other.toList := fun other hother =>
      (h other hother).slash
    have hsplit := Text.splitAt_intercalate (List.cons_ne_nil part rest) hslash
    have hsingleton : String.singleton '/' = "/" := by decide
    rw [hsingleton] at hsplit
    rw [hsplit, List.filter_eq_self]
    exact fun other hother => (h other hother).isPart

/-- No slash stands in front of the first component. -/
theorem takeWhile_intercalate (h : ∀ part ∈ parts, Component part) :
    ("/".intercalate parts).toList.takeWhile (· = '/') = [] := by
  cases parts with
  | nil => rfl
  | cons part rest =>
    have hpart := h part List.mem_cons_self
    obtain ⟨c, chars, hchars⟩ : ∃ c chars, part.toList = c :: chars := by
      cases hlist : part.toList with
      | nil => exact absurd (String.toList_eq_nil_iff.1 hlist) hpart.ne_empty
      | cons c chars => exact ⟨c, chars, rfl⟩
    have hc : c ≠ '/' := by
      rintro rfl
      exact hpart.slash (hchars ▸ List.mem_cons_self)
    have hfront : ∃ back, ("/".intercalate (part :: rest)).toList = c :: back := by
      rw [String.toList_intercalate]
      cases rest <;> simp [List.intercalate, hchars]
    obtain ⟨back, hback⟩ := hfront
    simp [hback, hc]

/-- A path is read from the text that it is printed as. -/
theorem ofString_toString (h : ∀ part ∈ path.parts, Component part) :
    ofString path.toString = path := by
  obtain ⟨anchor, parts⟩ := path
  have hparts : (Text.splitAt '/' ("/".intercalate parts)).filter isPart = parts :=
    filter_splitAt_intercalate h
  have hslashes : ("/".intercalate parts).toList.takeWhile (· = '/') = [] :=
    takeWhile_intercalate h
  unfold toString
  split
  · next hhere =>
    obtain ⟨rfl, rfl⟩ : anchor = .relative ∧ parts = [] := hhere
    decide
  · cases anchor with
    | relative =>
      rw [anchorText, String.empty_append, ofString, hslashes, hparts]
      rfl
    | root =>
      rw [anchorText, ofString, takeWhile_slash, hslashes, filter_splitAt_slash, hparts]
      rfl
    | doubleRoot =>
      have htwo : "//" ++ "/".intercalate parts = "/" ++ ("/" ++ "/".intercalate parts) := by
        rw [← String.append_assoc]
        rfl
      rw [anchorText, htwo, ofString, takeWhile_slash, takeWhile_slash, hslashes,
        filter_splitAt_slash, filter_splitAt_slash, hparts]
      rfl

/-- What a text is read as is read again from what it is printed as. -/
theorem ofString_toString_ofString (text : String) :
    ofString (ofString text).toString = ofString text :=
  ofString_toString fun _ => component_of_mem_ofString

end Path

/-! ## Files -/

/-- A text that was written to a file is read back. -/
theorem Disk.readFile_of_writeText {disk after : Disk} {path : Path} {text : String}
    (h : outcome (writeText path text) disk = (.ok (), after)) :
    after.readFile path = .ok (Utf8.encode text) := by
  obtain ⟨location, hlocate, hdirectory, rfl⟩ := outcome_writeText_ok.1 h
  have hlocation : location ≠ [] := by
    rintro rfl
    rw [FileTree.isDirectory_root] at hdirectory
    cases hdirectory
  have hkeeps : Keeps disk (disk.withEntry location (.file (Utf8.encode text))) :=
    Keeps.withEntry hlocation (.inr hdirectory)
  exact readFile_ok.2 ⟨location, hkeeps.locate hlocate, get?_withEntry_self hlocation⟩

namespace Manifest

variable {manifest : Manifest} {document : Value} {dependency : Dependency}
  {known dependencies : List Dependency}

/-! ## Manifests as they are read -/

/-- A declaration keeps the names that are known in their places. -/
theorem names_declare : (declare dependency known).map Dependency.name =
    if dependency.name ∈ known.map Dependency.name then known.map Dependency.name
    else known.map Dependency.name ++ [dependency.name] := by
  induction known with
  | nil => simp [declare]
  | cons head rest ih =>
    rw [declare]
    by_cases hname : head.name = dependency.name
    · simp [hname]
    · rw [if_neg hname, List.map_cons, ih]
      by_cases hrest : dependency.name ∈ rest.map Dependency.name <;>
        simp [hrest, Ne.symm hname]

theorem mem_declare {other : Dependency} (h : other ∈ declare dependency known) :
    other = dependency ∨ other ∈ known := by
  induction known with
  | nil => simpa [declare] using h
  | cons head rest ih =>
    rw [declare] at h
    split at h
    · rcases List.mem_cons.1 h with hself | hrest
      · exact .inl hself
      · exact .inr (List.mem_cons_of_mem _ hrest)
    · rcases List.mem_cons.1 h with rfl | hrest
      · exact .inr List.mem_cons_self
      · exact (ih hrest).imp_right (List.mem_cons_of_mem _)

/-- Dependencies under different names whose paths are read from texts. -/
structure Declared (dependencies : List Dependency) : Prop where
  names : (dependencies.map Dependency.name).Nodup
  paths : ∀ dependency ∈ dependencies, ∃ text, Path.ofString text = dependency.path

theorem Declared.nil : Declared [] :=
  ⟨List.nodup_nil, by simp⟩

/-- One more declaration, under a known name or a new one. -/
theorem Declared.declare {around : List Value} {name : String} {value : Value}
    (h : Declared known) (hdependency : dependencyOf around name value = .ok dependency) :
    Declared (declare dependency known) where
  names := by
    rw [names_declare]
    split
    · exact h.names
    · next hname =>
      rw [← List.concat_eq_append]
      exact h.names.concat hname
  paths other hother := by
    obtain ⟨text, _, rfl⟩ := dependencyOf_ok.1 hdependency
    rcases mem_declare hother with rfl | hknown
    · exact ⟨text, rfl⟩
    · exact h.paths other hknown

/-- The declarations of a mapping one after another. The induction is on its entries; `known` holds
what was declared before. -/
theorem Declared.foldlM {around : List Value} {entries : List (Value × Value)} (h : Declared known)
    (hfold : entries.foldlM (fun known (key, declared) => do
      let dependency ← dependencyOf around key.plain declared
      return Manifest.declare dependency known) known = .ok dependencies) :
    Declared dependencies := by
  induction entries generalizing known with
  | nil =>
    cases hfold
    exact h
  | cons entry entries ih =>
    obtain ⟨key, value⟩ := entry
    rw [List.foldlM_cons, except_bind_ok] at hfold
    obtain ⟨next, hnext, hrest⟩ := hfold
    obtain ⟨dependency, hdependency, hdeclare⟩ := except_bind_ok.1 hnext
    cases hdeclare
    exact ih (h.declare hdependency) hrest

theorem declared_of_dependenciesOf {value : Value}
    (h : dependenciesOf document value = .ok dependencies) : Declared dependencies := by
  unfold dependenciesOf at h
  split at h
  · cases h
    exact .nil
  · split at h
    · exact Declared.nil.foldlM h
    · cases h

/-- A version that is accepted, and dependencies that can be declared. -/
structure Proper (manifest : Manifest) : Prop where
  version : Version.isVersion manifest.version = true
  dependencies : Declared manifest.dependencies

/-- Every manifest that is read is one that can be written. -/
theorem proper_of_ofValue (h : ofValue document = .ok manifest) : manifest.Proper := by
  obtain ⟨_, _, _, _, _, hversion, hdependencies⟩ := ofValue_ok.1 h
  exact ⟨(versionOf_ok.1 hversion).2, declared_of_dependenciesOf hdependencies⟩

/-! ## Manifests as they are written -/

/-- The entry that a dependency is written as. -/
def entryOf (dependency : Dependency) : Value × Value :=
  (.text dependency.name, .map [(.text "path", .text dependency.path.toString)])

/-- The entry of a dependency declares it. -/
theorem declares_entryOf {around : List Value}
    (h : ∃ text, Path.ofString text = dependency.path) :
    Declares around (entryOf dependency) dependency := by
  obtain ⟨text, hpath⟩ := h
  refine dependencyOf_ok.2 ⟨dependency.path.toString, ?_, ?_⟩
  · simp [entryOf, Value.within, Value.textUnder?, Value.lookup?_cons_self]
  · rw [← hpath, Path.ofString_toString_ofString, hpath]
    rfl

/-- The entries of dependencies declare them in their order. -/
theorem dependenciesOf_entries (h : Declared dependencies) :
    dependenciesOf document (.map (dependencies.map entryOf)) = .ok dependencies := by
  unfold dependenciesOf
  split
  · next hblank =>
    cases dependencies with
    | nil => rfl
    | cons head rest => cases hblank
  · have hnames : (dependencies.map entryOf).map (fun entry => entry.1.plain) =
        dependencies.map Dependency.name := by
      rw [List.map_map]
      rfl
    have hdeclares : List.Forall₂ (Declares [.map (dependencies.map entryOf), document])
        (dependencies.map entryOf) dependencies :=
      List.forall₂_map_left_iff.2 (List.forall₂_same.2 fun dependency hdependency =>
        declares_entryOf (h.paths dependency hdependency))
    exact (foldlM_declare_ok (by simpa [hnames] using h.names)).2 ⟨dependencies, hdeclares, rfl⟩

/-- The document of a manifest is read as the manifest. -/
theorem ofValue_toValue (h : manifest.Proper) : ofValue manifest.toValue = .ok manifest := by
  refine ofValue_ok.2 ⟨_, .text manifest.version, rfl, ?_, ?_, ?_, ?_⟩
  · exact Value.lookup?_cons_self ..
  · rw [Value.lookup?_cons_of_ne (by decide), Value.lookup?_cons_self]
  · exact versionOf_ok.2 ⟨rfl, h.version⟩
  · rw [Value.lookup?_cons_of_ne (by decide), Value.lookup?_cons_of_ne (by decide),
      Value.lookup?_cons_self]
    exact dependenciesOf_entries h.dependencies

/-- A manifest that was read, or that has an accepted version and dependencies under different names
with paths of any texts, is read from its document as it was, its dependencies in their order. So it
is read from the file that it is saved in, where the document that is read from the written text is
the one that was written; and every path is read again from what it is printed as. -/
theorem round_trips (h : (∃ document, ofValue document = .ok manifest) ∨ manifest.Proper) :
    ofValue manifest.toValue = .ok manifest ∧
    (∀ {settings : Settings} {disk after : Disk} {dir : Path},
      Yaml.read (Utf8.encode manifest.written) = .ok manifest.toValue →
      Disk.outcome (Disk.writeText (dir / settings.manifestName) manifest.written) disk =
        (.ok (), after) →
      Package.readManifest settings after dir = .ok manifest) ∧
    ∀ text, Path.ofString (Path.ofString text).toString = Path.ofString text := by
  have hproper : manifest.Proper := by
    rcases h with ⟨document, hread⟩ | hproper
    · exact proper_of_ofValue hread
    · exact hproper
  have hvalue : ofValue manifest.toValue = .ok manifest := ofValue_toValue hproper
  refine ⟨hvalue, ?_, Path.ofString_toString_ofString⟩
  intro settings disk after dir hdocument hwrite
  exact Package.readManifest_ok.2
    ⟨_, manifest.toValue, Disk.readFile_of_writeText hwrite, hdocument, hvalue⟩

end Manifest

/-! ## A manifest on a disk -/

namespace Sample

/-- A manifest with paths of all anchors. -/
def anchored : Manifest where
  name := "game"
  version := "1.0.0-rc.1"
  dependencies := [
    ⟨"self", .ofString ""⟩,
    ⟨"shared", .ofString "//net/./shared/"⟩,
    ⟨"art", .ofString "/opt//art"⟩,
    ⟨"hub", .ofString "../hub"⟩]

theorem read_anchored : Yaml.read (Utf8.encode anchored.written) = .ok anchored.toValue := by
  obtain ⟨hlines, hscan⟩ : '\r' ∉ anchored.written.toList ∧
      (Yaml.Token.scan anchored.written.toList).toOption =
        some (anchored.toTree.tokens plain) := by decide +kernel
  exact Manifest.read_of_scan hlines (fun _ => of_decide_eq_true) (ok_of_toOption hscan) (by decide)

end Sample

/-- It is read from the file that it is saved in. -/
theorem Manifest.round_trips_anchored : Sample.anchored.Proper ∧
    ofValue Sample.anchored.toValue = .ok Sample.anchored ∧
    ∃ after, Disk.outcome
        (Disk.writeText (Sample.gamePath / "starpkg.yaml") Sample.anchored.written) Sample.disk =
          (.ok (), after) ∧
      Package.readManifest {} after Sample.gamePath = .ok Sample.anchored := by
  have hproper : Sample.anchored.Proper :=
    ⟨by decide +kernel, by decide, by simp [Sample.anchored]⟩
  obtain ⟨hvalue, hfile, _⟩ := round_trips (.inr hproper)
  have hwritten : (Disk.outcome
      (Disk.writeText (Sample.gamePath / "starpkg.yaml") Sample.anchored.written)
        Sample.disk).1.toOption = some () := by decide +kernel
  have hwrite := Sample.eq_of_toOption hwritten
  exact ⟨hproper, hvalue, _, hwrite, hfile Sample.read_anchored hwrite⟩

end ModPack
