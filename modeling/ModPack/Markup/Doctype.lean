import ModPack.Markup.Token
import ModPack.Text.Pieces

/-!
# Document type declarations

The internal subset of a document type: entities, attribute defaults and types. Element and
notation declarations are checked and forgotten. Of two declarations of one entity or attribute the
first counts. External subsets are not read; a document that has one, or refers to a parameter
entity, may mention entities it does not declare.
-/
namespace ModPack.Markup

inductive EntityValue
  | internal (text : List Char)
  | external
  /-- Data that is no XML. -/
  | unparsed
  deriving DecidableEq, Repr

structure Entity where
  name : String
  value : EntityValue
  deriving DecidableEq, Repr

/-- What is declared about an attribute of an element. -/
structure AttributeRule where
  element : RawName
  name : RawName
  /-- Values of other types lose the spaces they need not have. -/
  isText : Bool
  byDefault : Option (List Char)
  deriving DecidableEq, Repr

structure Doctype where
  entities : List Entity := []
  rules : List AttributeRule := []
  /-- There may be declarations that are not read. -/
  isPartial : Bool := false
  /-- Declarations behind a reference to a parameter entity do not count. -/
  isClosed : Bool := false
  standalone : Bool := false
  deriving Repr

namespace Doctype

/-- Entities that are not declared may be mentioned in attribute values. -/
def allowsUndeclared (doctype : Doctype) : Bool :=
  doctype.isPartial && !doctype.standalone

def find? (entities : List Entity) (name : String) : Option Entity :=
  entities.find? (·.name = name)

def without (entities : List Entity) (name : String) : List Entity :=
  entities.filter (·.name ≠ name)

theorem length_without_lt {entities : List Entity} {entity : Entity} {name : String}
    (h : find? entities name = some entity) : (without entities name).length < entities.length := by
  refine List.length_filter_lt_length_iff_exists.2 ⟨entity, List.mem_of_find?_eq_some h, ?_⟩
  have := List.find?_some h
  simpa using this

/-- The value of an attribute: every space is a blank, references are replaced. `available` holds
the entities that are not being replaced already. -/
def attributeText (doctype : Doctype) (available : List Entity) (text : List Char) :
    Option (List Char) :=
  match text with
  | [] => some []
  | '<' :: _ => none
  | '&' :: rest =>
    match Reference.read? rest with
    | none => none
    | some (reference, after) =>
      if _ : after.length ≤ rest.length then
        match reference with
        | .char c => (attributeText doctype available after).map (c :: ·)
        | .entity name =>
          match _ : find? available name with
          | some ⟨_, .internal value⟩ => do
            let value ← attributeText doctype (without available name) value
            return value ++ (← attributeText doctype available after)
          | some _ => none
          | none =>
            if doctype.allowsUndeclared ∧ (find? doctype.entities name).isNone then
              attributeText doctype available after
            else none
      else none
  | c :: rest =>
    (attributeText doctype available rest).map ((if isSpace c then ' ' else c) :: ·)
termination_by (available.length, text.length)
decreasing_by
  · exact Prod.Lex.right _ (by simp only [List.length_cons]; omega)
  · exact Prod.Lex.left _ _ (length_without_lt ‹_›)
  · exact Prod.Lex.right _ (by simp only [List.length_cons]; omega)
  · exact Prod.Lex.right _ (by simp only [List.length_cons]; omega)
  · exact Prod.Lex.right _ (Nat.lt_succ_self _)

/-- One blank between the words of a value and none around them. -/
def collapse (text : List Char) : List Char :=
  [' '].intercalate ((Text.pieces ' ' text).filter (· ≠ []))

/-- The value of an attribute of a type. -/
def valueOf? (doctype : Doctype) (isText : Bool) (text : List Char) : Option (List Char) :=
  (doctype.attributeText doctype.entities text).map (if isText then id else collapse)

/-- The text behind at least one space. -/
def space? (text : List Char) : Option (List Char) :=
  if (text.head?.map isSpace).getD false then some (text.dropWhile isSpace) else none

/-- The text behind a word. -/
def word? (word : String) (text : List Char) : Option (List Char) :=
  if word.toList.isPrefixOf text then some (text.drop word.length) else none

/-- A quoted literal; a space, the end of the declaration or a bracket follows. -/
def literal? (text : List Char) : Option (List Char × List Char) := do
  let (value, rest) ← Token.quoted? text
  guard ((rest.head?.map fun c => isSpace c || c == '>' || c == '[' || c == '%').getD true)
  return (value, rest)

def isPublicChar (c : Char) : Bool :=
  c.isAlphanum || " \n\r-'()+,./:=?;!*#@$_%".toList.contains c

/-- An identifier of something outside the document. `needsSystem` asks for an address behind a
public name. -/
def external? (needsSystem : Bool) (text : List Char) : Option (List Char) :=
  match word? "SYSTEM" text, word? "PUBLIC" text with
  | some rest, _ => do
    let (_, rest) ← literal? (← space? rest)
    return rest
  | none, some rest => do
    let (name, rest) ← literal? (← space? rest)
    guard (name.all isPublicChar)
    match (space? rest).bind literal? with
    | some (_, rest) => return rest
    | none => if needsSystem then none else some rest
  | none, none => none

/-- The text behind the closing mark of a declaration. -/
def close? (text : List Char) : Option (List Char) :=
  match text.dropWhile isSpace with
  | '>' :: rest => some rest
  | _ => none

/-- What an entity stands for: references to characters are replaced already. -/
def entityText? : List Char → Option (List Char)
  | [] => some []
  | '%' :: _ => none
  | '&' :: rest => do
    match ← Reference.read? rest with
    | (.char c, after) =>
      let shown := if rest.head? = some '#' then [c]
        else '&' :: rest.takeWhile (· ≠ ';') ++ [';']
      if _ : after.length ≤ rest.length then return shown ++ (← entityText? after) else none
    | (.entity name, after) =>
      if _ : after.length ≤ rest.length then
        return '&' :: name.toList ++ ';' :: (← entityText? after)
      else none
  | c :: rest => (entityText? rest).map (c :: ·)
termination_by text => text.length
decreasing_by all_goals (simp only [List.length_cons]; omega)

def declareEntity (doctype : Doctype) (name : String) (value : EntityValue) : Doctype :=
  if doctype.isClosed || (find? doctype.entities name).isSome then doctype
  else { doctype with entities := doctype.entities ++ [⟨name, value⟩] }

/-- The declaration of an entity, behind its keyword. -/
def entity? (doctype : Doctype) (text : List Char) : Option (Doctype × List Char) := do
  let text ← space? text
  let (isParameter, text) ← match text with
    | '%' :: rest => (space? rest).map fun rest => (true, rest)
    | text => some (false, text)
  let (name, rest) ← plainName? text
  let rest ← space? rest
  let declare (value : EntityValue) : Doctype :=
    if isParameter then doctype else doctype.declareEntity name value
  match literal? rest with
  | some (value, rest) => return (declare (.internal (← entityText? value)), ← close? rest)
  | none =>
    let rest ← external? true rest
    match (space? rest).bind (word? "NDATA") with
    | some rest =>
      guard !isParameter
      let (_, rest) ← plainName? (← space? rest)
      return (declare .unparsed, ← close? rest)
    | none => return (declare .external, ← close? rest)

/-- Names between bars, up to the closing parenthesis. -/
def choices? (text : List Char) : Option (List Char) :=
  let inside := text.dropWhile isSpace
  let rest := (inside.dropWhile fun c => isNameChar c || c == ':').dropWhile isSpace
  if (inside.head?.map fun c => isNameChar c || c == ':').getD false then
    match rest with
    | ')' :: rest => some rest
    | '|' :: rest => if _ : rest.length < text.length then choices? rest else none
    | _ => none
  else none
termination_by text.length

def typeWords : List String := [
  "CDATA", "IDREFS", "IDREF", "ID", "ENTITY", "ENTITIES", "NMTOKENS", "NMTOKEN"]

/-- The type of an attribute: whether values keep their spaces. -/
def attributeType? (text : List Char) : Option (Bool × List Char) :=
  match text with
  | '(' :: rest => (choices? rest).map fun rest => (false, rest)
  | text =>
    match word? "NOTATION" text with
    | some rest => do
      let '(' :: rest ← space? rest | none
      return (false, ← choices? rest)
    | none => typeWords.findSome? fun word => do
      let rest ← word? word text
      return (word == "CDATA", ← if (space? rest).isSome then some rest else none)

/-- A default: a value, or a word in place of it. -/
def default? (text : List Char) : Option (Option (List Char) × List Char) :=
  match word? "#REQUIRED" text, word? "#IMPLIED" text with
  | some rest, _ | none, some rest => some (none, rest)
  | none, none => do
    let text ← match word? "#FIXED" text with
      | some rest => space? rest
      | none => some text
    let (value, rest) ← literal? text
    return (some value, rest)

/-- Adds a rule; its default value may mention the entities declared before it. -/
def declareRule (doctype : Doctype) (rule : AttributeRule) : Option Doctype :=
  if doctype.isClosed then some doctype
  else do
    let byDefault ← match rule.byDefault with
      | none => pure none
      | some value => (doctype.valueOf? rule.isText value).map some
    return { doctype with rules := doctype.rules ++ [{ rule with byDefault }] }

/-- The attributes declared for an element. -/
def attributes? (doctype : Doctype) (element : RawName) (text : List Char) :
    Option (Doctype × List Char) :=
  match close? text with
  | some rest => some (doctype, rest)
  | none => do
    let (name, rest) ← rawName? (← space? text)
    let (isText, rest) ← attributeType? (← space? rest)
    let (value, rest) ← default? (← space? rest)
    let doctype ← doctype.declareRule ⟨element, name, isText, value⟩
    if _ : rest.length < text.length then attributes? doctype element rest else none
termination_by text.length

/-- How often something may occur in a content model. -/
def dropCount : List Char → List Char
  | '?' :: rest | '*' :: rest | '+' :: rest => rest
  | rest => rest

/-- The rest of a content model. `groups` holds the separators used so far in the open groups, the
innermost first; `expects` tells that a name or a group must come next. -/
def model? (groups : List (Option Char)) (expects : Bool) (text : List Char) :
    Option (List Char) :=
  let step (groups : List (Option Char)) (expects : Bool) (rest : List Char) :=
    if _ : rest.length < text.length then model? groups expects rest else none
  match expects, text, groups with
  | true, '(' :: rest, groups => step (none :: groups) true rest
  | false, ')' :: rest, _ :: [] => some (dropCount rest)
  | false, ')' :: rest, _ :: groups => step groups false (dropCount rest)
  | false, c :: rest, used :: groups =>
    if isSpace c then step (used :: groups) false rest
    else if (c = ',' ∨ c = '|') ∧ (used = none ∨ used = some c) then
      step (some c :: groups) true rest
    else none
  | true, c :: rest, groups =>
    if isSpace c then step groups true rest
    else do
      let (_, rest) ← rawName? (c :: rest)
      step groups false (dropCount rest)
  | _, _, _ => none
termination_by text.length

/-- A model of text mixed with elements, behind `(#PCDATA`. -/
def mixed? (text : List Char) (anyName : Bool) : Option (List Char) :=
  match text.dropWhile isSpace with
  | ')' :: '*' :: rest => some rest
  | ')' :: rest => if anyName then none else some rest
  | '|' :: rest => do
    let (_, rest) ← rawName? (rest.dropWhile isSpace)
    if _ : rest.length < text.length then mixed? rest true else none
  | _ => none
termination_by text.length

/-- The declaration of an element, behind its keyword. -/
def element? (text : List Char) : Option (List Char) := do
  let (_, rest) ← rawName? (← space? text)
  let rest ← space? rest
  let behindOpen := (rest.drop 1).dropWhile isSpace
  let rest ← match word? "EMPTY" rest, word? "ANY" rest, word? "#PCDATA" behindOpen with
    | some rest, _, _ | none, some rest, _ => some rest
    | none, none, some inside => if rest.head? = some '(' then mixed? inside false else none
    | none, none, none => if rest.head? = some '(' then model? [] true rest else none
  close? rest

/-- The declaration of a notation, behind its keyword. -/
def notation? (text : List Char) : Option (List Char) := do
  let (_, rest) ← plainName? (← space? text)
  close? (← external? false (← space? rest))

/-- A declaration, behind its opening mark. -/
def declaration? (doctype : Doctype) (text : List Char) : Option (Doctype × List Char) :=
  match word? "ENTITY" text, word? "ATTLIST" text, word? "ELEMENT" text, word? "NOTATION" text with
  | some rest, _, _, _ => doctype.entity? rest
  | none, some rest, _, _ => do
    let (element, rest) ← rawName? (← space? rest)
    doctype.attributes? element rest
  | none, none, some rest, _ => (element? rest).map fun rest => (doctype, rest)
  | none, none, none, some rest => (notation? rest).map fun rest => (doctype, rest)
  | none, none, none, none => none

/-- The internal subset up to its closing bracket. -/
def subset? (doctype : Doctype) (text : List Char) : Option (Doctype × List Char) :=
  let step (doctype : Doctype) (rest : List Char) :=
    if _ : rest.length < text.length then subset? doctype rest else none
  match text with
  | [] => none
  | ']' :: rest => some (doctype, rest)
  | '%' :: rest => do
    let (_, ';' :: rest) ← plainName? rest | none
    step { doctype with isPartial := true, isClosed := !doctype.standalone } rest
  | '<' :: '!' :: '-' :: rest => (Token.afterAside? ('<' :: '!' :: '-' :: rest)).bind (step doctype)
  | '<' :: '?' :: rest => (Token.afterAside? ('<' :: '?' :: rest)).bind (step doctype)
  | '<' :: '!' :: rest => do
    let (doctype, rest) ← doctype.declaration? rest
    step doctype rest
  | c :: rest => if isSpace c then step doctype rest else none
termination_by text.length

/-- A document type declaration, behind its keyword. -/
def read? (standalone : Bool) (text : List Char) : Option (Doctype × List Char) := do
  let (_, rest) ← rawName? (← space? text)
  let doctype : Doctype := { standalone }
  let (doctype, rest) := match (space? rest).bind (external? true) with
    | some rest => ({ doctype with isPartial := true }, rest)
    | none => (doctype, rest)
  match rest.dropWhile isSpace with
  | '[' :: rest =>
    let (doctype, rest) ← doctype.subset? rest
    return (doctype, ← close? rest)
  | rest => return (doctype, ← close? rest)

end Doctype

end ModPack.Markup
