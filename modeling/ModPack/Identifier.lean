/-!
# Identifiers of exports

Every export lives under a package and a name. Exports are enumerated by their label
(`package_name`), and by package where labels agree. Main statements: the order is strict and
total, so a set of identifiers has one enumeration.
-/
namespace ModPack

structure Identifier where
  package : String
  name : String
  deriving DecidableEq, Repr, Inhabited

namespace Identifier

/-- The form used in generated tables and for ordering. -/
def label (id : Identifier) : String :=
  id.package ++ "_" ++ id.name

/-- The form used in messages and in references from other packages. -/
def qualified (id : Identifier) : String :=
  id.package ++ "/" ++ id.name

/-- A name that begins with an underscore belongs to its package alone. -/
def isPrivateName (name : String) : Bool :=
  name.toList.head? = some '_'

/-- Private exports can be named by their own package only. -/
def isPrivate (id : Identifier) : Bool :=
  isPrivateName id.name

/-- What a text of `source` writes to refer to the export. -/
def referenceFrom (id : Identifier) (source : String) : String :=
  if id.package = source then id.name else id.qualified

/-- Whether `id` comes before `other` in an enumeration. -/
def precedes (id other : Identifier) : Bool :=
  id.label < other.label || (id.label = other.label && id.package < other.package)

theorem eq_of_label_eq {id other : Identifier} (hlabel : id.label = other.label)
    (hpackage : id.package = other.package) : id = other := by
  obtain ⟨package, name⟩ := id
  obtain ⟨_, name'⟩ := other
  cases hpackage
  have : name.toList = name'.toList := by
    have := congrArg String.toList hlabel
    simpa [label] using this
  rw [String.toList_inj.1 this]

theorem precedes_irrefl (id : Identifier) : id.precedes id = false := by
  simp [precedes]

theorem precedes_trans {first second third : Identifier} (h : first.precedes second = true)
    (h' : second.precedes third = true) : first.precedes third = true := by
  simp only [precedes, Bool.or_eq_true, Bool.and_eq_true, decide_eq_true_eq] at *
  rcases h with h | ⟨h, hp⟩ <;> rcases h' with h' | ⟨h', hp'⟩
  · exact .inl (String.lt_trans h h')
  · exact .inl (h' ▸ h)
  · exact .inl (h ▸ h')
  · exact .inr ⟨h.trans h', String.lt_trans hp hp'⟩

private theorem text_trichotomy (first second : String) :
    first < second ∨ first = second ∨ second < first := by
  by_cases h : first < second
  · exact .inl h
  · by_cases h' : second < first
    · exact .inr (.inr h')
    · exact .inr (.inl (String.le_antisymm (String.not_lt.1 h') (String.not_lt.1 h)))

theorem precedes_total {id other : Identifier} (h : id ≠ other) :
    id.precedes other = true ∨ other.precedes id = true := by
  simp only [precedes, Bool.or_eq_true, Bool.and_eq_true, decide_eq_true_eq]
  rcases text_trichotomy id.label other.label with hl | hl | hl
  · exact .inl (.inl hl)
  · rcases text_trichotomy id.package other.package with hp | hp | hp
    · exact .inl (.inr ⟨hl, hp⟩)
    · exact absurd (eq_of_label_eq hl hp) h
    · exact .inr (.inr ⟨hl.symm, hp⟩)
  · exact .inr (.inl hl)

end Identifier

/-- The three kinds of export. -/
inductive ExportKind
  | sprite
  | actor
  | text
  deriving DecidableEq, Repr, Inhabited

/-- The word that scripts and messages use for a kind. -/
def ExportKind.keyword : ExportKind → String
  | .sprite => "Sprite"
  | .actor => "Actor"
  | .text => "String"

/-- A word and a qualified identifier in braces. -/
def Identifier.inBraces (word : String) (id : Identifier) : String :=
  "\x7b" ++ word ++ ":" ++ id.qualified ++ "\x7d"

/-- An export as messages show it. -/
def ExportKind.label (kind : ExportKind) (id : Identifier) : String :=
  id.inBraces kind.keyword

end ModPack
