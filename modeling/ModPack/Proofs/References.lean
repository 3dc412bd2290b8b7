import Mathlib.Data.Set.Function
import ModPack.Identifier.Reference
import ModPack.Proofs.LoadedExports
import ModPack.Proofs.TextPieces
import ModPack.Resolution

/-!
# References read back

The text that a package writes to refer to an export that it can name is read as the identifier of
that export, and no other text is a reference. In braces behind a keyword a reference is one
expression. No character of a valid name ends a name, a reference or an expression early. Main
statements: `Identifier.references_correspond` and `Expression.segments_reference`.
-/
namespace ModPack

namespace Identifier

variable {id : Identifier} {text source package name : String}

/-! ## The slash -/

theorem forall_ne_slash {text : String} (h : '/' ∉ text.toList) :
    ∀ c ∈ text.toList, decide (c ≠ '/') = true := by
  intro c hc
  have hne : c ≠ '/' := by
    rintro rfl
    exact h hc
  exact decide_eq_true hne

theorem splitSlash?_of_not_mem {text : String} (h : '/' ∉ text.toList) :
    splitSlash? text = none := by
  have hdrop : (text.toList ++ []).dropWhile (· ≠ '/') = [] :=
    List.dropWhile_append_of_pos (forall_ne_slash h)
  rw [List.append_nil] at hdrop
  rw [splitSlash?, hdrop]

theorem splitSlash?_qualified (h : '/' ∉ id.package.toList) :
    splitSlash? id.qualified = some (id.package, id.name) := by
  have hall := forall_ne_slash h
  have hchars : id.qualified.toList = id.package.toList ++ '/' :: id.name.toList := by
    simp [qualified]
  have hdrop : id.qualified.toList.dropWhile (· ≠ '/') = '/' :: id.name.toList := by
    rw [hchars, List.dropWhile_append_of_pos hall]
    simp
  have htake : id.qualified.toList.takeWhile (· ≠ '/') = id.package.toList := by
    rw [hchars, List.takeWhile_append_of_pos hall]
    simp
  rw [splitSlash?, hdrop, htake]
  simp

/-- A text is cut at its first slash, if it has one. -/
theorem splitSlash?_cases (text : String) :
    ('/' ∉ text.toList ∧ splitSlash? text = none) ∨ ∃ id : Identifier,
      '/' ∉ id.package.toList ∧ text = id.qualified ∧
        splitSlash? text = some (id.package, id.name) := by
  by_cases hslash : '/' ∈ text.toList
  · obtain ⟨front, back, htext, hfront⟩ := List.eq_append_cons_of_mem hslash
    have hpackage : '/' ∉ (String.ofList front).toList := by
      rwa [String.toList_ofList]
    have heq : text = qualified ⟨.ofList front, .ofList back⟩ := by
      rw [← String.toList_inj, htext]
      simp [qualified]
    refine .inr ⟨⟨.ofList front, .ofList back⟩, hpackage, heq, ?_⟩
    rw [heq]
    exact splitSlash?_qualified hpackage
  · exact .inl ⟨hslash, splitSlash?_of_not_mem hslash⟩

theorem qualified_of_splitSlash? (h : splitSlash? text = some (package, name)) :
    text = qualified ⟨package, name⟩ := by
  rcases splitSlash?_cases text with ⟨_, hnone⟩ | ⟨id, _, htext, hsome⟩
  · rw [hnone] at h
    cases h
  · rw [hsome] at h
    cases h
    exact htext

/-! ## Reading a reference -/

/-- An export that texts of a package can name. -/
structure NamedFrom (source : String) (id : Identifier) : Prop where
  name : Name.fault? id.name = none
  foreign : id.package ≠ source →
    id.isPrivate = false ∧ Name.dependencyFault? id.package source = none

theorem namedFrom_iff : NamedFrom source id ↔ (Name.checkExport id.name).result = .ok () ∧
    (id.package = source ∨
      Name.checkDependency id.package source = .ok () ∧ id.isPrivate = false) := by
  rw [Name.checkExport_ok, Package.checkDependency_ok, or_iff_not_imp_left]
  exact ⟨fun h => ⟨h.name, fun hother => (h.foreign hother).symm⟩,
    fun ⟨hname, hforeign⟩ => ⟨hname, fun hother => (hforeign hother).symm⟩⟩

/-- No export that is private to another package is among them. -/
theorem NamedFrom.package_eq (h : NamedFrom source id) (hprivate : id.isPrivate = true) :
    id.package = source := by
  by_contra hne
  rw [(h.foreign hne).1] at hprivate
  cases hprivate

/-- A reference is a name of the own package, or a package and a name of it that is not private. -/
theorem parse_ok : (parse text source).result = .ok id ↔
    (splitSlash? text = none ∧ Name.fault? text = none ∧ id = ⟨source, text⟩) ∨
      ∃ package name, splitSlash? text = some (package, name) ∧ Name.fault? name = none ∧
        isPrivateName name = false ∧ Name.dependencyFault? package source = none ∧
        id = ⟨package, name⟩ := by
  have hempty {name : String} (h : Name.fault? name = none) : ¬ name.isEmpty = true := by
    simpa [String.isEmpty_iff] using Name.ne_empty_of_fault? h
  unfold parse
  dsimp only
  by_cases htext : text.isEmpty = true
  · have heq : text = "" := String.isEmpty_iff.1 htext
    subst heq
    have hsplit : splitSlash? "" = none := rfl
    have hfault : Name.fault? "" ≠ none := by decide
    simp [hsplit, hfault]
  rw [if_neg htext]
  cases hsplit : splitSlash? text with
  | none => simp [Name.checkExport_ok, @eq_comm _ id]
  | some parts =>
    obtain ⟨package, name⟩ := parts
    dsimp only
    by_cases hname : name.isEmpty = true
    · have hfault : Name.fault? name ≠ none := fun h => hempty h hname
      simp [hname, hfault]
    · by_cases hprivate : isPrivateName name = true
      · simp [hname, hprivate]
      · simp [hname, hprivate, Name.checkExport_ok, Package.checkDependency_ok, @eq_comm _ id]

theorem namedFrom_of_parse (h : (parse text source).result = .ok id) : NamedFrom source id := by
  rcases parse_ok.1 h with ⟨-, hname, rfl⟩ | ⟨package, name, -, hname, hprivate, hpackage, rfl⟩
  · exact ⟨hname, fun hne => absurd rfl hne⟩
  · exact ⟨hname, fun _ => ⟨hprivate, hpackage⟩⟩

/-- An export is read from one text only. -/
theorem eq_referenceFrom_of_parse (h : (parse text source).result = .ok id) :
    text = id.referenceFrom source := by
  rcases parse_ok.1 h with ⟨-, -, rfl⟩ | ⟨package, name, hsplit, -, -, hpackage, rfl⟩
  · exact (if_pos rfl).symm
  · have hother : package ≠ source := by
      rintro rfl
      simp [Name.dependencyFault?] at hpackage
    rw [referenceFrom, if_neg hother]
    exact qualified_of_splitSlash? hsplit

/-- The text that a package writes to refer to an export that it can name is read as that export. No
character of a valid name cuts the text. -/
theorem NamedFrom.parse_referenceFrom (h : NamedFrom source id) :
    (parse (id.referenceFrom source) source).result = .ok id := by
  have hslash {name : String} (hname : Name.fault? name = none) : '/' ∉ name.toList :=
    Name.not_mem_of_fault? hname (by decide)
  rw [referenceFrom]
  split
  · next hsame =>
    refine parse_ok.2 (.inl ⟨splitSlash?_of_not_mem (hslash h.name), h.name, ?_⟩)
    rw [← hsame]
  · next hother =>
    obtain ⟨hprivate, hpackage⟩ := h.foreign hother
    have hproper : Name.fault? id.package = none := by
      simpa [Name.dependencyFault?, hother] using hpackage
    exact parse_ok.2 (.inr ⟨_, _, splitSlash?_qualified (hslash hproper), h.name, hprivate,
      hpackage, rfl⟩)

theorem parse_ok_iff : (parse text source).result = .ok id ↔
    text = id.referenceFrom source ∧ NamedFrom source id := by
  constructor
  · intro h
    exact ⟨eq_referenceFrom_of_parse h, namedFrom_of_parse h⟩
  · rintro ⟨rfl, hnamed⟩
    exact hnamed.parse_referenceFrom

/-- A package name passes as the name of a dependency because it passed as a package name. -/
theorem parse_referenceFrom (hpackage : Name.packageFault? id.package = none)
    (hname : Name.fault? id.name = none) (hvisible : id.package = source ∨ id.isPrivate = false) :
    (parse (id.referenceFrom source) source).result = .ok id :=
  NamedFrom.parse_referenceFrom {
    name := hname
    foreign := fun hother => ⟨hvisible.resolve_left hother,
      Name.dependencyFault?_of_packageFault? hpackage hother⟩ }

/-- From each package the references and the exports that it can name correspond to each other: a
reference is read as the export that it is written for, and a text that is written for none of these
exports is refused. -/
theorem references_correspond (source : String) :
    (∀ text id, (parse text source).result = .ok id ↔ text = id.referenceFrom source ∧
      (Name.checkExport id.name).result = .ok () ∧ (id.package = source ∨
        Name.checkDependency id.package source = .ok () ∧ id.isPrivate = false)) ∧
    (∀ text, (∃ error, (parse text source).result = .error error) ↔
      ∀ id, NamedFrom source id → text ≠ id.referenceFrom source) ∧
    Set.BijOn (fun id => id.referenceFrom source) {id | NamedFrom source id}
      {text | ∃ id, (parse text source).result = .ok id} := by
  refine ⟨fun text id => ?_, fun text => ?_, ?_⟩
  · rw [parse_ok_iff, namedFrom_iff]
  · constructor
    · rintro ⟨error, herror⟩ id hnamed rfl
      rw [hnamed.parse_referenceFrom] at herror
      cases herror
    · intro hnone
      cases hresult : (parse text source).result with
      | error error => exact ⟨error, rfl⟩
      | ok id =>
        obtain ⟨htext, hnamed⟩ := parse_ok_iff.1 hresult
        exact absurd htext (hnone id hnamed)
  · refine ⟨fun id hnamed => ⟨id, hnamed.parse_referenceFrom⟩, fun id hnamed other hother heq => ?_,
      fun text ⟨id, hid⟩ => ?_⟩
    · have hread := hother.parse_referenceFrom
      dsimp only at heq
      rw [← heq, hnamed.parse_referenceFrom] at hread
      exact Except.ok.inj hread
    · obtain ⟨rfl, hnamed⟩ := parse_ok_iff.1 hid
      exact ⟨id, hnamed, rfl⟩

end Identifier

namespace Expression

/-- A line that is a keyword and one argument in braces. -/
def reference (kind : ExportKind) (text : String) : String :=
  "\x7b" ++ kind.keyword ++ ":" ++ text ++ "\x7d"

/-- No character of the text ends an argument or an expression. -/
def IsArgument (text : String) : Prop :=
  ∀ c ∈ text.toList, c ≠ ':' ∧ isBrace c = false

/-- Fixed texts are checked by evaluation. -/
theorem isArgument_of_all {text : String}
    (h : text.toList.all (fun c => c != ':' && !isBrace c) = true) : IsArgument text := by
  intro c hc
  have hchar := List.all_eq_true.1 h c hc
  simpa using hchar

theorem IsArgument.append {front back : String} (h : IsArgument front) (hback : IsArgument back) :
    IsArgument (front ++ back) := by
  intro c hc
  rw [String.toList_append, List.mem_append] at hc
  exact hc.elim (h c) (hback c)

theorem isArgument_keyword (kind : ExportKind) : IsArgument kind.keyword := by
  cases kind <;> exact isArgument_of_all (by decide)

theorem ofKeyword?_keyword (kind : ExportKind) :
    ExportKind.ofKeyword? kind.keyword = some kind := by
  cases kind <;> decide

/-- What stands between the braces is the keyword and the argument. -/
theorem ofInside?_reference (kind : ExportKind) {text : String} (h : IsArgument text) :
    ofInside? (kind.keyword.toList ++ ':' :: text.toList) = some ⟨kind, [text]⟩ := by
  have hkeyword : ':' ∉ kind.keyword.toList := fun hmem => (isArgument_keyword kind _ hmem).1 rfl
  have htext : ':' ∉ text.toList := fun hmem => (h _ hmem).1 rfl
  have hpieces : (Text.pieces ':' (kind.keyword.toList ++ ':' :: text.toList)).map String.ofList =
      [kind.keyword, text] := by
    rw [Text.pieces_append_cons _ hkeyword, Text.pieces_of_not_mem htext]
    simp
  rw [ofInside?, hpieces]
  simp [ofKeyword?_keyword]

theorem opened?_reference (kind : ExportKind) {text : String} (h : IsArgument text) :
    opened? (kind.keyword.toList ++ ':' :: text.toList ++ ['\x7d']) =
      some (⟨kind, [text]⟩, []) := by
  have hinside : ∀ c ∈ kind.keyword.toList ++ ':' :: text.toList, (!isBrace c) = true := by
    intro c hc
    rcases List.mem_append.1 hc with hc | hc
    · simp [(isArgument_keyword kind c hc).2]
    · rcases List.mem_cons.1 hc with rfl | hc
      · decide
      · simp [(h c hc).2]
  have hdrop : (kind.keyword.toList ++ ':' :: text.toList ++ ['\x7d']).dropWhile
      (fun c => !isBrace c) = ['\x7d'] := by
    rw [List.dropWhile_append_of_pos hinside]
    rfl
  have htake : (kind.keyword.toList ++ ':' :: text.toList ++ ['\x7d']).takeWhile
      (fun c => !isBrace c) = kind.keyword.toList ++ ':' :: text.toList := by
    rw [List.takeWhile_append_of_pos hinside]
    have hbrace : ['\x7d'].takeWhile (fun c => !isBrace c) = [] := rfl
    rw [hbrace, List.append_nil]
  rw [opened?, hdrop, htake, ofInside?_reference kind h]
  rfl

theorem segments_reference (kind : ExportKind) {text : String} (h : IsArgument text) :
    segments (reference kind text).toList = [.expression ⟨kind, [text]⟩] := by
  have hchars : (reference kind text).toList =
      '\x7b' :: (kind.keyword.toList ++ ':' :: text.toList ++ ['\x7d']) := by
    simp [reference]
  have hopened := opened?_reference kind h
  rw [hchars, segments, if_pos rfl]
  split
  · next expression after heq =>
    rw [hopened] at heq
    cases heq
    rw [segments]
  · next heq =>
    rw [hopened] at heq
    cases heq

/-- References to well-named exports do not end early. -/
theorem isArgument_referenceFrom {id : Identifier} (source : String)
    (hpackage : Name.packageFault? id.package = none) (hname : Name.fault? id.name = none) :
    IsArgument (id.referenceFrom source) := by
  have hchar {name : String} (h : Name.fault? name = none) : IsArgument name := by
    intro c hc
    have hnameChar := Name.isNameChar_of_fault? h c hc
    constructor
    · rintro rfl
      exact absurd hnameChar (by decide)
    · rw [Bool.eq_false_iff]
      intro hbrace
      rw [isBrace, Bool.or_eq_true, decide_eq_true_eq, decide_eq_true_eq] at hbrace
      rcases hbrace with rfl | rfl
      · exact absurd hnameChar (by decide)
      · exact absurd hnameChar (by decide)
  have hslash : IsArgument "/" := isArgument_of_all (by decide)
  rw [Identifier.referenceFrom]
  split
  · exact hchar hname
  · exact ((hchar (Name.fault?_of_packageFault? hpackage)).append hslash).append (hchar hname)

end Expression

end ModPack
