import ModPack.Proofs.ReportResult
import ModPack.Proofs.VersionGrammar
import Mathlib.Data.List.Nodup
import Mathlib.Data.List.Perm.Basic

/-!
# The order of declarations in a manifest

Two documents that differ in nothing but the order of their dependencies hold the same under every
other key. Read as manifests they have the same name and version, and the same declarations in some
order: the keys of a mapping are different, so every declaration goes behind the ones before it and
none takes the place of another. Main statement: `Manifest.ofValue_reordered`.
-/
namespace ModPack

/-- A text that stands under a key of a mapping. -/
def Value.textUnder? (key : String) (value : Value) : Option String :=
  match value with
  | .map entries => match lookup? key entries with
    | some (.text found) => some found
    | _ => none
  | _ => none

theorem Value.textUnder?_map (key : String) (entries others : List (Value × Value))
    (h : lookup? key others = lookup? key entries) :
    textUnder? key (.map others) = textUnder? key (.map entries) := by
  rw [textUnder?, textUnder?, h]

theorem Value.isKey_text {value : Value} {key : String} :
    value.isKey (.text key) = true ↔ value = .text key := by
  cases value <;> simp [isKey, whole?]

/-- The place of an entry among others does not matter for its key. -/
theorem Value.lookup?_append (key : String) (front back : List (Value × Value)) :
    lookup? key (front ++ back) = (lookup? key front).or (lookup? key back) := by
  simp only [lookup?, List.find?_append, Option.map_or]

theorem Value.lookup?_cons_self (key : String) (value : Value) (entries : List (Value × Value)) :
    lookup? key ((.text key, value) :: entries) = some value := by
  have hkey : (Value.text key).isKey (.text key) = true := isKey_text.2 rfl
  rw [lookup?, List.find?_cons_of_pos (by exact hkey)]
  rfl

theorem Value.lookup?_cons_of_ne {key other : String} {value : Value}
    {entries : List (Value × Value)} (h : other ≠ key) :
    lookup? key ((.text other, value) :: entries) = lookup? key entries := by
  have hne : (Value.text other).isKey (.text key) ≠ true := fun hkey =>
    h (Value.text.inj (isKey_text.1 hkey))
  rw [lookup?, List.find?_cons_of_neg (by exact hne), lookup?]

/-- Entries of a mapping and the same entries in another order. Their keys are different texts. -/
structure Value.Permuted (entries others : List (Value × Value)) : Prop where
  perm : entries.Perm others
  texts : ∀ entry ∈ entries, ∃ key, entry.1 = .text key
  nodup : (entries.map Prod.fst).Nodup

namespace Value.Permuted

variable {entries others : List (Value × Value)}

theorem symm (h : Permuted entries others) : Permuted others entries where
  perm := h.perm.symm
  texts entry hentry := h.texts entry (h.perm.mem_iff.2 hentry)
  nodup := (h.perm.map _).nodup_iff.1 h.nodup

/-- What is found under a key is the only entry of that key. -/
theorem lookup?_eq_some_iff {entries : List (Value × Value)} (h : (entries.map Prod.fst).Nodup)
    {key : String} {value : Value} :
    lookup? key entries = some value ↔ (.text key, value) ∈ entries := by
  induction entries with
  | nil => simp [lookup?]
  | cons head rest ih =>
    obtain ⟨known, old⟩ := head
    obtain ⟨hfresh, hrest⟩ := List.nodup_cons.1 h
    by_cases hkey : known = .text key
    · subst hkey
      have hnone : (.text key, value) ∉ rest := fun hmem =>
        hfresh (List.mem_map.2 ⟨_, hmem, rfl⟩)
      have hself : (Value.text key).isKey (.text key) = true := isKey_text.2 rfl
      simp [lookup?, hself, hnone, eq_comm]
    · have hother : ¬ known.isKey (.text key) = true := fun hsame => hkey (isKey_text.1 hsame)
      have hskip : lookup? key ((known, old) :: rest) = lookup? key rest := by
        rw [lookup?, List.find?_cons_of_neg (by exact hother), lookup?]
      rw [hskip, ih hrest]
      simp [Ne.symm hkey]

theorem lookup?_eq (h : Permuted entries others) (key : String) :
    lookup? key others = lookup? key entries := by
  refine Option.ext fun value => ?_
  rw [lookup?_eq_some_iff h.nodup, lookup?_eq_some_iff h.symm.nodup, h.perm.mem_iff]

theorem isBlank_eq (h : Permuted entries others) : isBlank (.map others) = isBlank (.map entries) := by
  cases entries with
  | nil =>
    rw [h.perm.nil_eq]
  | cons entry entries =>
    cases others with
    | nil => exact absurd h.perm.eq_nil (List.cons_ne_nil _ _)
    | cons other others => rfl

end Value.Permuted

namespace Manifest

variable {document other : Value} {manifest : Manifest}

/-! ## Declarations one by one -/

theorem dependencyOf_ok {around : List Value} {name : String} {value : Value}
    {dependency : Dependency} :
    dependencyOf around name value = .ok dependency ↔
      ∃ path, (value.within around).textUnder? "path" = some path ∧
        ⟨name, .ofString path⟩ = dependency := by
  unfold dependencyOf Value.textUnder?
  split
  · split <;> simp_all
  · simp

/-- A declaration under a new name goes behind the others. -/
theorem declare_of_not_mem {dependency : Dependency} {known : List Dependency}
    (h : dependency.name ∉ known.map Dependency.name) :
    declare dependency known = known ++ [dependency] := by
  induction known with
  | nil => rfl
  | cons head rest ih =>
    rw [List.map_cons, List.mem_cons, not_or] at h
    rw [declare, if_neg (Ne.symm h.1), ih h.2, List.cons_append]

/-- What an entry of the dependencies declares. -/
def Declares (around : List Value) (entry : Value × Value) (dependency : Dependency) : Prop :=
  dependencyOf around entry.1.plain entry.2 = .ok dependency

theorem Declares.name_eq {around : List Value} {entry : Value × Value} {dependency : Dependency}
    (h : Declares around entry dependency) : dependency.name = entry.1.plain := by
  obtain ⟨_, _, rfl⟩ := dependencyOf_ok.1 h
  rfl

/-- Entries under different names declare one dependency each, in their order. The induction is on
the entries; `known` holds what was declared before. -/
theorem foldlM_declare_ok {around : List Value} {entries : List (Value × Value)}
    {known dependencies : List Dependency}
    (hnodup : (known.map Dependency.name ++ entries.map fun entry => entry.1.plain).Nodup) :
    entries.foldlM (fun known (key, declared) => do
        let dependency ← dependencyOf around key.plain declared
        return declare dependency known) known = .ok dependencies ↔
      ∃ declared, List.Forall₂ (Declares around) entries declared ∧
        known ++ declared = dependencies := by
  induction entries generalizing known with
  | nil => simp [pure, Except.pure]
  | cons entry entries ih =>
    obtain ⟨key, value⟩ := entry
    rw [List.foldlM_cons]
    change (dependencyOf around key.plain value >>= fun dependency =>
      pure (declare dependency known)) >>= _ = _ ↔ _
    cases hone : dependencyOf around key.plain value with
    | error error => simp [bind, Except.bind, List.forall₂_cons_left_iff, Declares, hone]
    | ok dependency =>
      have hdeclares : Declares around (key, value) dependency := hone
      have hname : dependency.name = key.plain := hdeclares.name_eq
      have hfresh : dependency.name ∉ known.map Dependency.name := fun hmem =>
        (List.nodup_append.1 hnodup).2.2 _ hmem _ (by simp [hname]) rfl
      have hnext : ((known ++ [dependency]).map Dependency.name ++
          entries.map fun entry => entry.1.plain).Nodup := by
        simpa [hname] using hnodup
      have hrest := ih hnext
      rw [← declare_of_not_mem hfresh] at hrest
      refine Iff.trans hrest ?_
      simp [List.forall₂_cons_left_iff, Declares, hone, declare_of_not_mem hfresh]

/-! ## Documents -/

/-- Two documents with the same entries in the same order, but for the order of the entries of their
dependencies. -/
inductive Reordered : Value → Value → Prop
  | intro (front back : List (Value × Value)) {entries others : List (Value × Value)}
      (first : Value.lookup? "dependencies" front = none)
      (permuted : Value.Permuted entries others) :
      Reordered (.map (front ++ (.text "dependencies", .map entries) :: back))
        (.map (front ++ (.text "dependencies", .map others) :: back))

theorem Reordered.symm (h : Reordered document other) : Reordered other document := by
  obtain ⟨front, back, hfirst, hpermuted⟩ := h
  exact .intro front back hfirst hpermuted.symm

/-- Manifests that differ in the order of their declarations are written as such documents. -/
theorem reordered_toValue {renewed : Manifest} (hname : renewed.name = manifest.name)
    (hversion : renewed.version = manifest.version)
    (hperm : manifest.dependencies.Perm renewed.dependencies)
    (hnames : (manifest.dependencies.map Dependency.name).Nodup) :
    Reordered manifest.toValue renewed.toValue := by
  rw [toValue, toValue, hname, hversion]
  refine .intro [(.text "name", .text manifest.name), (.text "version", .text manifest.version)] []
    rfl ⟨hperm.map _, ?_, ?_⟩
  · intro entry hentry
    obtain ⟨dependency, _, rfl⟩ := List.mem_map.1 hentry
    exact ⟨dependency.name, rfl⟩
  · rw [List.map_map]
    change (manifest.dependencies.map (Value.text ∘ Dependency.name)).Nodup
    rw [← List.map_map]
    exact hnames.map fun _ _ heq => Value.text.inj heq

/-- What a mapping holds under a key other than the one that is changed. -/
theorem lookup?_around {key : String} (hkey : "dependencies" ≠ key) (value : Value)
    (front back : List (Value × Value)) :
    Value.lookup? key (front ++ (.text "dependencies", value) :: back) =
      (Value.lookup? key front).or (Value.lookup? key back) := by
  rw [Value.lookup?_append, Value.lookup?_cons_of_ne hkey]

/-- Documents that differ in the order of dependencies are mappings that hold the same texts under
all other keys. -/
theorem Reordered.lookup?_eq (h : Reordered document other) :
    ∃ entries others, document = .map entries ∧ other = .map others ∧
      ∀ key, "dependencies" ≠ key → Value.lookup? key others = Value.lookup? key entries := by
  obtain ⟨front, back, _, _⟩ := h
  refine ⟨_, _, rfl, rfl, fun key hkey => ?_⟩
  rw [lookup?_around hkey, lookup?_around hkey]

/-- The collections around a declaration hold the same paths in both documents. -/
theorem textUnder?_within {entries others : List (Value × Value)}
    (hpermuted : Value.Permuted entries others) (h : Reordered document other) (value : Value) :
    (value.within [.map others, other]).textUnder? "path" =
      (value.within [.map entries, document]).textUnder? "path" := by
  cases value with
  | enclosing levels isMap =>
    rcases levels with _ | _ | levels
    · exact Value.textUnder?_map _ _ _ (hpermuted.lookup?_eq "path")
    · obtain ⟨known, renewed, rfl, rfl, hlookup⟩ := h.lookup?_eq
      exact Value.textUnder?_map _ _ _ (hlookup "path" (by decide))
    · rfl
  | _ => rfl

/-- The same dependencies are declared in another order. -/
theorem dependenciesOf_reordered {entries others : List (Value × Value)}
    {dependencies : List Dependency} (hpermuted : Value.Permuted entries others)
    (h : Reordered document other)
    (hdeclared : dependenciesOf document (.map entries) = .ok dependencies) :
    ∃ renewed, dependenciesOf other (.map others) = .ok renewed ∧ dependencies.Perm renewed := by
  unfold dependenciesOf at hdeclared ⊢
  rw [hpermuted.isBlank_eq]
  by_cases hblank : (Value.map entries).isBlank = true
  · rw [if_pos hblank] at hdeclared ⊢
    cases hdeclared
    exact ⟨[], rfl, .nil⟩
  rw [if_neg hblank] at hdeclared ⊢
  have hnames {entries : List (Value × Value)}
      (htexts : ∀ entry ∈ entries, ∃ key, entry.1 = .text key)
      (hnodup : (entries.map Prod.fst).Nodup) :
      (([] : List Dependency).map Dependency.name ++
        entries.map fun entry => entry.1.plain).Nodup := by
    change (entries.map (Value.plain ∘ Prod.fst)).Nodup
    rw [← List.map_map]
    refine hnodup.map_on fun first hfirst second hsecond hplain => ?_
    obtain ⟨entry, hentry, rfl⟩ := List.mem_map.1 hfirst
    obtain ⟨another, hanother, rfl⟩ := List.mem_map.1 hsecond
    obtain ⟨key, hkey⟩ := htexts entry hentry
    obtain ⟨key', hkey'⟩ := htexts another hanother
    rw [hkey, hkey'] at hplain ⊢
    exact congrArg Value.text hplain
  obtain ⟨declared, hall, rfl⟩ :=
    (foldlM_declare_ok (hnames hpermuted.texts hpermuted.nodup)).1 hdeclared
  obtain ⟨renewed, hrenewed, hperm⟩ := List.perm_comp_forall₂ hpermuted.symm.perm hall
  refine ⟨renewed, ?_, hperm.symm⟩
  refine (foldlM_declare_ok (hnames hpermuted.symm.texts hpermuted.symm.nodup)).2
    ⟨renewed, hrenewed.imp fun entry dependency hone => ?_, rfl⟩
  obtain ⟨path, hpath, hdependency⟩ := dependencyOf_ok.1 hone
  refine dependencyOf_ok.2 ⟨path, ?_, hdependency⟩
  rwa [textUnder?_within hpermuted h]

/-- What a document must hold to be read as a manifest. -/
theorem ofValue_ok :
    ofValue document = .ok manifest ↔
      ∃ entries version, document = .map entries ∧
        Value.lookup? "name" entries = some (.text manifest.name) ∧
        Value.lookup? "version" entries = some version ∧
        versionOf (version.within [document]) = .ok manifest.version ∧
        dependenciesOf document ((Value.lookup? "dependencies" entries).getD .null) =
          .ok manifest.dependencies := by
  constructor
  · intro h
    unfold ofValue at h
    split at h
    · next entries =>
      split at h
      · next name hname =>
        split at h
        · next text =>
          split at h
          · next version hversion =>
            cases hof : versionOf (version.within [.map entries]) with
            | error error => simp [hof, bind, Except.bind] at h
            | ok known =>
              cases hdependencies : dependenciesOf (.map entries)
                  ((Value.lookup? "dependencies" entries).getD .null) with
              | error error => simp [hof, hdependencies, bind, Except.bind] at h
              | ok dependencies =>
                simp only [hof, hdependencies, bind, Except.bind, pure, Except.pure] at h
                cases h
                exact ⟨entries, version, rfl, hname, hversion, hof, hdependencies⟩
          · cases h
        · cases h
      · cases h
    · cases h
  · rintro ⟨entries, version, rfl, hname, hversion, hof, hdependencies⟩
    simp [ofValue, hname, hversion, hof, hdependencies, bind, Except.bind, pure, Except.pure]

/-- A version is a text of its own: a mapping around it is none. -/
theorem eq_text_of_versionOf {entries : List (Value × Value)} {version : Value} {text : String}
    (h : versionOf (version.within [.map entries]) = .ok text) : version = .text text := by
  have hvalue : version.within [.map entries] = .text text := (versionOf_ok.1 h).1
  cases version with
  | enclosing levels isMap =>
    rcases levels with _ | levels
    · cases hvalue
    · cases hvalue
  | _ => exact hvalue

/-- A document whose dependencies are put in another order reads as the same manifest but for the
order of its declarations. -/
theorem ofValue_reordered (h : Reordered document other) (hread : ofValue document = .ok manifest) :
    ∃ renewed, ofValue other = .ok renewed ∧ renewed.name = manifest.name ∧
      renewed.version = manifest.version ∧
      manifest.dependencies.Perm renewed.dependencies := by
  have hsame := h
  obtain ⟨front, back, hfirst, hpermuted⟩ := h
  obtain ⟨entries, version, hentries, hname, hversion, hof, hdependencies⟩ := ofValue_ok.1 hread
  cases hentries
  rw [lookup?_around (by decide)] at hname hversion
  cases eq_text_of_versionOf hof
  have hheld (value : Value) : (Value.lookup? "dependencies"
      (front ++ (.text "dependencies", value) :: back)).getD .null = value := by
    rw [Value.lookup?_append, hfirst, Value.lookup?_cons_self]
    rfl
  rw [hheld] at hdependencies
  obtain ⟨renewed, hrenewed, hperm⟩ := dependenciesOf_reordered hpermuted hsame hdependencies
  refine ⟨{ manifest with dependencies := renewed }, ofValue_ok.2 ⟨_, .text manifest.version, rfl,
    ?_, ?_, hof, ?_⟩, rfl, rfl, hperm⟩
  · rwa [lookup?_around (by decide)]
  · rwa [lookup?_around (by decide)]
  · rwa [hheld]

end Manifest

end ModPack
