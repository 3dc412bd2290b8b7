import ModPack.Proofs.FoundReferences
import ModPack.Proofs.IndicesOnce

/-!
# Words for expressions

An expression with a meaning stands for a word, unless something that it names is missing. Both are
told here as relations between the expression and the exports, without the order in which the parts
of the expression are looked up; the value of an expression is one or the other. Main statements:
`value_word_iff`, `value_none_iff`, `value_lacks_iff` and `Denotes.not_lacks`.
-/
namespace ModPack

/-- A text in a package is a reference to an item of a registry. -/
structure Registry.RefersTo {α : Type} (registry : Registry α) (source text : String)
    (id : Identifier) (item : α) : Prop where
  read : (Identifier.parse text source).result = .ok id
  held : registry.get? id = some item

namespace Expression

/-- The word that an expression stands for in scripts of the package `source`. -/
inductive Denotes (exports : Exports) (source : String) : Expression → String → Prop
  | sprite {text : String} {id : Identifier} {sprite : Sprite} {index : Int}
      (refers : exports.sprites.RefersTo source text id sprite)
      (indexed : sprite.state = .assembled index) :
      Denotes exports source ⟨.sprite, [text]⟩ (Hex.padded 2 index)
  | animation {text name : String} {id : Identifier} {sprite : Sprite} {index : Int} {slot : Nat}
      (refers : exports.sprites.RefersTo source text id sprite)
      (indexed : sprite.state = .assembled index) (animation : sprite.animation? name = some slot) :
      Denotes exports source ⟨.sprite, [text, name]⟩
        ("00" ++ Hex.padded 2 index ++ "00" ++ Hex.padded 2 slot)
  | palette {text name colours : String} {id : Identifier} {sprite : Sprite} {index : Int}
      {slot coloured : Nat} (refers : exports.sprites.RefersTo source text id sprite)
      (indexed : sprite.state = .assembled index) (animation : sprite.animation? name = some slot)
      (palette : sprite.palette? colours = some coloured) :
      Denotes exports source ⟨.sprite, [text, name, colours]⟩
        ("00" ++ Hex.padded 2 index ++ Hex.padded 2 coloured ++ Hex.padded 2 slot)
  | text {text : String} {id : Identifier} {string : NamedString} {index : Int}
      (refers : exports.strings.RefersTo source text id string)
      (indexed : string.state = .assembled index) :
      Denotes exports source ⟨.text, [text]⟩ (Hex.padded 4 string.bank ++ Hex.padded 4 index)
  | actor {text : String} {id : Identifier} {actor : Actor} {index : Int}
      (refers : exports.actors.RefersTo source text id actor)
      (indexed : actor.state = .assembled index) :
      Denotes exports source ⟨.actor, [text]⟩ (Hex.padded 2 index)

/-- What is missing for an expression with a meaning to stand for a word. An animation or a palette
is only missing from a sprite that is there. -/
inductive Lacks (exports : Exports) (source : String) : Expression → Unresolved → Prop
  | reference {expression : Expression} {text : String} {rest : List String}
      {cause : ReferenceError} (supported : expression.Supported)
      (arguments : expression.arguments = text :: rest)
      (refused : (Identifier.parse text source).result = .error cause) :
      Lacks exports source expression (.badIdentifier text cause)
  | item {expression : Expression} {text : String} {rest : List String} {id : Identifier}
      (supported : expression.Supported) (arguments : expression.arguments = text :: rest)
      (read : (Identifier.parse text source).result = .ok id)
      (missing : exports.record? expression.kind id = none) :
      Lacks exports source expression (.unknown expression.kind id)
  | animation {text name : String} {rest : List String} {id : Identifier} {sprite : Sprite}
      (supported : Supported ⟨.sprite, text :: name :: rest⟩)
      (refers : exports.sprites.RefersTo source text id sprite)
      (missing : sprite.animation? name = none) :
      Lacks exports source ⟨.sprite, text :: name :: rest⟩ (.noAnimation id name)
  | palette {text name colours : String} {id : Identifier} {sprite : Sprite} {slot : Nat}
      (refers : exports.sprites.RefersTo source text id sprite)
      (animation : sprite.animation? name = some slot)
      (missing : sprite.palette? colours = none) :
      Lacks exports source ⟨.sprite, [text, name, colours]⟩ (.noPalette id colours)

/-- The expressions with a meaning, by what they are made of. -/
theorem Supported.forms {expression : Expression} (h : expression.Supported) :
    (∃ text, expression = ⟨.sprite, [text]⟩) ∨ (∃ text name, expression = ⟨.sprite, [text, name]⟩) ∨
      (∃ text name colours, expression = ⟨.sprite, [text, name, colours]⟩) ∨
      (∃ text, expression = ⟨.text, [text]⟩) ∨ ∃ text, expression = ⟨.actor, [text]⟩ := by
  by_contra hnone
  simp only [not_or, not_exists] at hnone
  obtain ⟨hone, htwo, hthree, htext, hactor⟩ := hnone
  obtain ⟨kind, arguments⟩ := expression
  refine not_supported ?_ ?_ ?_ ?_ ?_ h
  · rintro text rfl rfl
    exact hone text rfl
  · rintro text name rfl rfl
    exact htwo text name rfl
  · rintro text name colours rfl rfl
    exact hthree text name colours rfl
  · rintro text rfl rfl
    exact htext text rfl
  · rintro text rfl rfl
    exact hactor text rfl

end Expression

namespace Resolution

open Expression (Denotes Lacks)

variable {exports : Exports} {source text word name : String} {expression : Expression}
  {problem : Unresolved} {id : Identifier} {sprite : Sprite} {slot : Nat}

/-! ## The parts of a value -/

theorem identifier_ok :
    (identifier source text).result = .ok id ↔ (Identifier.parse text source).result = .ok id :=
  Report.result_mapError_ok

theorem indexOf_ok {α : Type} [Export α] {item : α} {index : Int} :
    (indexOf item).result = .ok index ↔ Export.state item = .assembled index := by
  rw [indexOf, Report.result_ofExcept, mapError_eq_ok, Export.index]
  cases Export.state item <;> simp

theorem hexId_ok {string : NamedString} :
    string.hexId = .ok word ↔ ∃ index : Int, string.state = .assembled index ∧
      Hex.padded 4 string.bank ++ Hex.padded 4 index = word := by
  rw [NamedString.hexId, except_bind_ok]
  change (∃ index, Export.index string = .ok index ∧ _) ↔ _
  simp only [Export.index]
  cases hstate : Export.state string with
  | unassembled => simp [show string.state = .unassembled from hstate]
  | assembled index =>
    simp [show string.state = .assembled index from hstate, NamedString.idText, pure, Except.pure]

theorem animation_ok :
    (animation id sprite name).result = .ok slot ↔ sprite.animation? name = some slot := by
  unfold animation
  cases sprite.animation? name <;> simp

theorem palette_ok :
    (palette id sprite name).result = .ok slot ↔ sprite.palette? name = some slot := by
  unfold palette
  cases sprite.palette? name <;> simp

theorem animation_error : (animation id sprite name).result = .error (.inl problem) ↔
    sprite.animation? name = none ∧ .noAnimation id name = problem := by
  unfold animation
  cases sprite.animation? name <;> simp

theorem palette_error : (palette id sprite name).result = .error (.inl problem) ↔
    sprite.palette? name = none ∧ .noPalette id name = problem := by
  unfold palette
  cases sprite.palette? name <;> simp

/-- An index comes last, and nothing is missing when it is not there. -/
theorem index_ne {α β : Type} {result : Except IndexError α} {next : α → β} :
    (Report.ofExcept (result.mapError .inr) >>= fun index => pure (next index) : Value β).result ≠
      .error (.inl problem) := by
  cases result <;> simp [Except.mapError]

/-! ## Words -/

/-- The beginning that all expressions with a meaning have in common. -/
theorem refersTo_iff {α β : Type} {kind : ExportKind} {registry : Registry α}
    {next : Identifier → α → Value β} {result : β} :
    (identifier source text >>= fun id => lookUp kind registry id >>= next id).result = .ok result ↔
      ∃ id item, registry.RefersTo source text id item ∧ (next id item).result = .ok result := by
  simp only [Report.result_bind_ok, identifier_ok, lookUp_ok]
  constructor
  · rintro ⟨id, hid, item, hitem, hnext⟩
    exact ⟨id, item, ⟨hid, hitem⟩, hnext⟩
  · rintro ⟨id, item, ⟨hid, hitem⟩, hnext⟩
    exact ⟨id, hid, item, hitem, hnext⟩

/-- An expression without a meaning has no word, and nothing is missing for it. -/
theorem value_of_not_supported (h : ¬ expression.Supported) :
    (value exports source expression).result = .ok none := by
  unfold value
  split
  · next hkind harguments => exact absurd (by simp [Expression.Supported, hkind, harguments]) h
  · next hkind harguments => exact absurd (by simp [Expression.Supported, hkind, harguments]) h
  · next hkind harguments => exact absurd (by simp [Expression.Supported, hkind, harguments]) h
  · next hkind harguments => exact absurd (by simp [Expression.Supported, hkind, harguments]) h
  · next hkind harguments => exact absurd (by simp [Expression.Supported, hkind, harguments]) h
  · rfl

theorem value_none_iff :
    (value exports source expression).result = .ok none ↔ ¬ expression.Supported := by
  refine ⟨fun h hsupported => ?_, value_of_not_supported⟩
  rcases hsupported.forms with
    ⟨_, rfl⟩ | ⟨_, _, rfl⟩ | ⟨_, _, _, rfl⟩ | ⟨_, rfl⟩ | ⟨_, rfl⟩ <;>
  simp [value] at h

/-- A word that an expression has is the one that it stands for. -/
theorem denotes_of_value (h : (value exports source expression).result = .ok (some word)) :
    expression.Denotes exports source word := by
  have hsupported : expression.Supported := by
    by_contra hnone
    cases h.symm.trans (value_of_not_supported hnone)
  rcases hsupported.forms with
    ⟨text, rfl⟩ | ⟨text, name, rfl⟩ | ⟨text, name, colours, rfl⟩ | ⟨text, rfl⟩ | ⟨text, rfl⟩
  · obtain ⟨id, sprite, hrefers, h⟩ := refersTo_iff.1 h
    obtain ⟨index, hindex, h⟩ := Report.result_bind_ok.1 h
    cases h
    exact .sprite hrefers (indexOf_ok.1 hindex)
  · obtain ⟨id, sprite, hrefers, h⟩ := refersTo_iff.1 h
    obtain ⟨slot, hslot, h⟩ := Report.result_bind_ok.1 h
    obtain ⟨index, hindex, h⟩ := Report.result_bind_ok.1 h
    cases h
    exact .animation hrefers (indexOf_ok.1 hindex) (animation_ok.1 hslot)
  · obtain ⟨id, sprite, hrefers, h⟩ := refersTo_iff.1 h
    obtain ⟨slot, hslot, h⟩ := Report.result_bind_ok.1 h
    obtain ⟨coloured, hcoloured, h⟩ := Report.result_bind_ok.1 h
    obtain ⟨index, hindex, h⟩ := Report.result_bind_ok.1 h
    cases h
    exact .palette hrefers (indexOf_ok.1 hindex) (animation_ok.1 hslot) (palette_ok.1 hcoloured)
  · obtain ⟨id, string, hrefers, h⟩ := refersTo_iff.1 h
    obtain ⟨word, hword, h⟩ := Report.result_bind_ok.1 h
    cases h
    obtain ⟨index, hindex, rfl⟩ := hexId_ok.1 (mapError_eq_ok.1 hword)
    exact .text hrefers hindex
  · obtain ⟨id, actor, hrefers, h⟩ := refersTo_iff.1 h
    obtain ⟨index, hindex, h⟩ := Report.result_bind_ok.1 h
    cases h
    exact .actor hrefers (indexOf_ok.1 hindex)

theorem value_of_denotes (h : expression.Denotes exports source word) :
    (value exports source expression).result = .ok (some word) := by
  cases h with
  | sprite refers indexed =>
    refine refersTo_iff.2 ⟨_, _, refers, ?_⟩
    exact Report.result_bind_ok.2 ⟨_, indexOf_ok.2 indexed, rfl⟩
  | animation refers indexed animation =>
    refine refersTo_iff.2 ⟨_, _, refers, ?_⟩
    refine Report.result_bind_ok.2 ⟨_, animation_ok.2 animation, ?_⟩
    exact Report.result_bind_ok.2 ⟨_, indexOf_ok.2 indexed, rfl⟩
  | palette refers indexed animation palette =>
    refine refersTo_iff.2 ⟨_, _, refers, ?_⟩
    refine Report.result_bind_ok.2 ⟨_, animation_ok.2 animation, ?_⟩
    refine Report.result_bind_ok.2 ⟨_, palette_ok.2 palette, ?_⟩
    exact Report.result_bind_ok.2 ⟨_, indexOf_ok.2 indexed, rfl⟩
  | text refers indexed =>
    refine refersTo_iff.2 ⟨_, _, refers, ?_⟩
    exact Report.result_bind_ok.2 ⟨_, mapError_eq_ok.2 (hexId_ok.2 ⟨_, indexed, rfl⟩), rfl⟩
  | actor refers indexed =>
    refine refersTo_iff.2 ⟨_, _, refers, ?_⟩
    exact Report.result_bind_ok.2 ⟨_, indexOf_ok.2 indexed, rfl⟩

/-- An expression has the word that it stands for. -/
theorem value_word_iff : (value exports source expression).result = .ok (some word) ↔
    expression.Denotes exports source word :=
  ⟨denotes_of_value, value_of_denotes⟩

/-! ## What is missing -/

/-- Where the beginning fails that all expressions with a meaning have in common. -/
theorem not_refersTo_iff {α β : Type} {kind : ExportKind} {registry : Registry α}
    {next : Identifier → α → Value β} :
    (identifier source text >>= fun id => lookUp kind registry id >>= next id).result =
        .error (.inl problem) ↔
      (∃ cause, (Identifier.parse text source).result = .error cause ∧
        .badIdentifier text cause = problem) ∨
      (∃ id, (Identifier.parse text source).result = .ok id ∧ registry.get? id = none ∧
        .unknown kind id = problem) ∨
      ∃ id item, registry.RefersTo source text id item ∧
        (next id item).result = .error (.inl problem) := by
  have hlookUp (id : Identifier) : (lookUp kind registry id).result = .error (.inl problem) ↔
      registry.get? id = none ∧ .unknown kind id = problem := by
    unfold lookUp
    cases registry.get? id <;> simp
  have hidentifier : (identifier source text).result = .error (.inl problem) ↔
      ∃ cause, (Identifier.parse text source).result = .error cause ∧
        .badIdentifier text cause = problem := by
    simp [identifier]
  simp only [Report.result_bind_error, hidentifier, identifier_ok, hlookUp, lookUp_ok]
  refine or_congr_right ⟨?_, ?_⟩
  · rintro ⟨id, hid, hnone | ⟨item, hitem, hnext⟩⟩
    · exact .inl ⟨id, hid, hnone⟩
    · exact .inr ⟨id, item, ⟨hid, hitem⟩, hnext⟩
  · rintro (⟨id, hid, hnone⟩ | ⟨id, item, ⟨hid, hitem⟩, hnext⟩)
    · exact ⟨id, hid, .inl hnone⟩
    · exact ⟨id, hid, .inr ⟨item, hitem, hnext⟩⟩

theorem lacks_of_begin {α β : Type} {kind : ExportKind} {registry : Registry α}
    {rest : List String} {next : Identifier → α → Value β}
    (hsupported : Expression.Supported ⟨kind, text :: rest⟩)
    (hrecord : ∀ id, registry.get? id = none → exports.record? kind id = none)
    (hnext : ∀ id item, registry.RefersTo source text id item →
      (next id item).result = .error (.inl problem) →
        Lacks exports source ⟨kind, text :: rest⟩ problem)
    (h : (identifier source text >>= fun id => lookUp kind registry id >>= next id).result =
      .error (.inl problem)) : Lacks exports source ⟨kind, text :: rest⟩ problem := by
  rcases not_refersTo_iff.1 h with ⟨cause, hcause, rfl⟩ | ⟨id, hid, hnone, rfl⟩ |
    ⟨id, item, hrefers, hlast⟩
  · exact .reference hsupported rfl hcause
  · exact .item hsupported rfl hid (hrecord id hnone)
  · exact hnext id item hrefers hlast

/-- A value that is missing is missing for something that the expression names. -/
theorem lacks_of_value (h : (value exports source expression).result = .error (.inl problem)) :
    expression.Lacks exports source problem := by
  have hsupported : expression.Supported := by
    by_contra hnone
    cases h.symm.trans (value_of_not_supported hnone)
  rcases hsupported.forms with
    ⟨text, rfl⟩ | ⟨text, name, rfl⟩ | ⟨text, name, colours, rfl⟩ | ⟨text, rfl⟩ | ⟨text, rfl⟩
  · refine lacks_of_begin hsupported (by simp [Exports.record?]) (fun _ _ _ hlast => ?_) h
    exact absurd hlast index_ne
  · refine lacks_of_begin hsupported (by simp [Exports.record?]) (fun _ _ hrefers hlast => ?_) h
    rcases Report.result_bind_error.1 hlast with hslot | ⟨slot, hslot, hlast⟩
    · obtain ⟨hnone, rfl⟩ := animation_error.1 hslot
      exact .animation hsupported hrefers hnone
    · exact absurd hlast index_ne
  · refine lacks_of_begin hsupported (by simp [Exports.record?]) (fun _ _ hrefers hlast => ?_) h
    rcases Report.result_bind_error.1 hlast with hslot | ⟨slot, hslot, hlast⟩
    · obtain ⟨hnone, rfl⟩ := animation_error.1 hslot
      exact .animation hsupported hrefers hnone
    rcases Report.result_bind_error.1 hlast with hcoloured | ⟨_, _, hlast⟩
    · obtain ⟨hnone, rfl⟩ := palette_error.1 hcoloured
      exact .palette hrefers (animation_ok.1 hslot) hnone
    · exact absurd hlast index_ne
  · refine lacks_of_begin hsupported (by simp [Exports.record?]) (fun _ _ _ hlast => ?_) h
    exact absurd hlast index_ne
  · refine lacks_of_begin hsupported (by simp [Exports.record?]) (fun _ _ _ hlast => ?_) h
    exact absurd hlast index_ne

theorem value_of_lacks (h : expression.Lacks exports source problem) :
    (value exports source expression).result = .error (.inl problem) := by
  cases h with
  | reference supported arguments refused =>
    rcases supported.forms with
      ⟨_, rfl⟩ | ⟨_, _, rfl⟩ | ⟨_, _, _, rfl⟩ | ⟨_, rfl⟩ | ⟨_, rfl⟩ <;>
    · cases arguments
      exact not_refersTo_iff.2 (.inl ⟨_, refused, rfl⟩)
  | item supported arguments read missing =>
    rcases supported.forms with
      ⟨_, rfl⟩ | ⟨_, _, rfl⟩ | ⟨_, _, _, rfl⟩ | ⟨_, rfl⟩ | ⟨_, rfl⟩ <;>
    · cases arguments
      exact not_refersTo_iff.2 (.inr (.inl ⟨_, read, Option.map_eq_none_iff.1 missing, rfl⟩))
  | @animation text name rest id sprite supported refers missing =>
    have hlast {β : Type} (next : Nat → Value β) :
        (animation id sprite name >>= next).result = .error (.inl (.noAnimation id name)) :=
      Report.result_bind_error.2 (.inl (animation_error.2 ⟨missing, rfl⟩))
    -- The first and the last two forms have no animation.
    rcases supported.forms with
      ⟨_, heq⟩ | ⟨_, _, heq⟩ | ⟨_, _, _, heq⟩ | ⟨_, heq⟩ | ⟨_, heq⟩ <;> cases heq
    · exact not_refersTo_iff.2 (.inr (.inr ⟨_, _, refers, hlast _⟩))
    · exact not_refersTo_iff.2 (.inr (.inr ⟨_, _, refers, hlast _⟩))
  | palette refers animation missing =>
    refine not_refersTo_iff.2 (.inr (.inr ⟨_, _, refers, ?_⟩))
    refine Report.result_bind_error.2 (.inr ⟨_, animation_ok.2 animation, ?_⟩)
    exact Report.result_bind_error.2 (.inl (palette_error.2 ⟨missing, rfl⟩))

/-- The value of an expression is missing exactly when something is missing that it names. -/
theorem value_lacks_iff : (value exports source expression).result = .error (.inl problem) ↔
    expression.Lacks exports source problem :=
  ⟨lacks_of_value, value_of_lacks⟩

/-- Once all exports have their indices, nothing else keeps an expression from having a value. -/
theorem lacks_of_error (hindexed : exports.Indexed) {cause : Unresolved ⊕ IndexError}
    (h : (value exports source expression).result = .error cause) :
    ∃ problem, cause = .inl problem ∧ expression.Lacks exports source problem := by
  have htold := value_failsIn hindexed source expression cause h
  cases cause with
  | inl problem => exact ⟨problem, rfl, value_lacks_iff.1 h⟩
  | inr error => cases htold

end Resolution

/-- An expression that stands for a word lacks nothing. -/
theorem Expression.Denotes.not_lacks {exports : Exports} {source word : String}
    {expression : Expression} {problem : Unresolved} (h : expression.Denotes exports source word) :
    ¬ expression.Lacks exports source problem := by
  intro hlacks
  have hvalue := Resolution.value_word_iff.2 h
  rw [Resolution.value_lacks_iff.2 hlacks] at hvalue
  cases hvalue

end ModPack
