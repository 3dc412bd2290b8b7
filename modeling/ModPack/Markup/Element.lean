import ModPack.Markup.Doctype

/-!
# Elements

The tree of elements that the tokens of a document stand for. Names are resolved to their
namespaces, attributes get their declared defaults, and entities in content are replaced by what
they stand for; an element that begins in an entity ends in it. Main statement: with no element
open and none begun, reading no tokens gives no elements.
-/
namespace ModPack.Markup

/-- A name with the namespace it is in. -/
structure Name where
  space : Option String := none
  base : String
  deriving DecidableEq, Repr

structure Element where
  name : Name
  attributes : List (Name × String)
  children : List Element
  deriving Repr

/-- The namespaces of prefixes, the innermost binding first; the empty prefix is the default. -/
abbrev Scope := List (String × String)

namespace Scope

def markupSpace : String := "http://www.w3.org/XML/1998/namespace"

def bindingSpace : String := "http://www.w3.org/2000/xmlns/"

def outermost : Scope := [("xml", markupSpace)]

/-- The prefix that an attribute binds, if it binds one. -/
def boundBy? (name : RawName) : Option String :=
  match name with
  | ⟨none, "xmlns"⟩ => some ""
  | ⟨some "xmlns", base⟩ => some base
  | _ => none

/-- A prefix can be bound unless it or the namespace is reserved; only the default can be unbound. -/
def bind? (scope : Scope) (label space : String) : Option Scope :=
  if space = "" ∧ label ≠ "" then none
  else if label = "xmlns" ∨ space = bindingSpace then none
  else if (label = "xml") ≠ (space = markupSpace) then none
  else if space.toList.contains '\x7d' then none
  else some ((label, space) :: scope)

/-- The namespace of a prefix that must be bound. -/
def space? (scope : Scope) (label : String) : Option String :=
  scope.lookup label

/-- The name of an element; without a prefix it is in the default namespace. -/
def elementName? (scope : Scope) (name : RawName) : Option Name :=
  match name.space with
  | some label => (scope.space? label).map fun space => ⟨some space, name.base⟩
  | none => match scope.space? "" with
    | none | some "" => some ⟨none, name.base⟩
    | some space => some ⟨some space, name.base⟩

/-- The name of an attribute; without a prefix it is in no namespace. -/
def attributeName? (scope : Scope) (name : RawName) : Option Name :=
  match name.space with
  | some label => (scope.space? label).map fun space => ⟨some space, name.base⟩
  | none => some ⟨none, name.base⟩

end Scope

/-- An element whose end has not been read, its children last one first. -/
structure OpenElement where
  raw : RawName
  name : Name
  attributes : List (Name × String)
  scope : Scope
  children : List Element := []
  deriving Repr

namespace OpenElement

def close (item : OpenElement) : Element :=
  ⟨item.name, item.attributes, item.children.reverse⟩

/-- The value of an attribute of an element by the first rule for it. -/
def valueOf? (doctype : Doctype) (element name : RawName) (text : List Char) : Option String :=
  let rule := doctype.rules.find? fun rule => rule.element = element ∧ rule.name = name
  (doctype.valueOf? ((rule.map AttributeRule.isText).getD true) text).map String.ofList

/-- The attributes that an element has without writing them. -/
def defaults (doctype : Doctype) (element : RawName) (written : List RawName) :
    List AttributeRule → List (RawName × String)
  | [] => []
  | rule :: rules =>
    if rule.element = element ∧ rule.name ∉ written then
      match rule.byDefault with
      | some value => (rule.name, .ofList value) ::
          defaults doctype element (rule.name :: written) rules
      | none => defaults doctype element written rules
    else defaults doctype element written rules

/-- An element from its start tag. No attribute may occur twice, under its written name or under
its resolved one. -/
def ofStart? (doctype : Doctype) (scope : Scope) (raw : RawName)
    (written : List (RawName × List Char)) : Option OpenElement := do
  guard (written.map (·.1)).Nodup
  let values ← written.mapM fun (name, text) => do return (name, ← valueOf? doctype raw name text)
  let all := values ++ defaults doctype raw (written.map (·.1)) doctype.rules
  let scope ← all.foldlM (fun (scope : Scope) (name, value) =>
    match Scope.boundBy? name with
    | none => some scope
    | some label => scope.bind? label value) scope
  let attributes ← (all.filter fun (name, _) => (Scope.boundBy? name).isNone).mapM
    fun (name, value) => do return (← scope.attributeName? name, value)
  guard (attributes.map (·.1)).Nodup
  return ⟨raw, ← scope.elementName? raw, attributes, scope, []⟩

end OpenElement

namespace Element

/-- Adds a finished element to the innermost open one, or to the finished ones outside. -/
def add (element : Element) : List OpenElement → List Element → List OpenElement × List Element
  | [], done => ([], element :: done)
  | item :: outer, done => ({ item with children := element :: item.children } :: outer, done)

/-- The elements that tokens stand for. `inside` tells that text may stand outside of them all;
`available` holds the entities that are not being replaced already. -/
def forest? (doctype : Doctype) (inside : Bool) (available : List Entity) (scope : Scope)
    (opened : List OpenElement) (done : List Element) (tokens : List Token) :
    Option (List Element) :=
  match tokens with
  | [] => if opened.isEmpty then some done.reverse else none
  | .text :: rest =>
    if inside || !opened.isEmpty then forest? doctype inside available scope opened done rest
    else none
  | .start name attributes isClosed :: rest =>
    let scopeHere := (opened.head?.map OpenElement.scope).getD scope
    match OpenElement.ofStart? doctype scopeHere name attributes with
    | none => none
    | some item =>
      if isClosed then
        let (opened, done) := item.close.add opened done
        forest? doctype inside available scope opened done rest
      else forest? doctype inside available scope (item :: opened) done rest
  | .stop name :: rest =>
    match opened with
    | [] => none
    | item :: outer =>
      if item.raw = name then
        let (opened, done) := item.close.add outer done
        forest? doctype inside available scope opened done rest
      else none
  | .entity name :: rest =>
    match _ : Doctype.find? available name with
    | some ⟨_, .internal text⟩ =>
      if inside || !opened.isEmpty then do
        let scopeHere := (opened.head?.map OpenElement.scope).getD scope
        let elements ← forest? doctype true (Doctype.without available name) scopeHere [] []
          (← Token.scan text)
        let (opened, done) := elements.foldl (fun (opened, done) element =>
          element.add opened done) (opened, done)
        forest? doctype inside available scope opened done rest
      else none
    | _ => none
termination_by (available.length, tokens.length)
decreasing_by
  · exact Prod.Lex.right _ (Nat.lt_succ_self _)
  · exact Prod.Lex.right _ (Nat.lt_succ_self _)
  · exact Prod.Lex.right _ (Nat.lt_succ_self _)
  · exact Prod.Lex.right _ (Nat.lt_succ_self _)
  · exact Prod.Lex.left _ _ (Doctype.length_without_lt ‹_›)
  · exact Prod.Lex.right _ (Nat.lt_succ_self _)

/-- The one element outermost in a document. -/
def root? (doctype : Doctype) (tokens : List Token) : Option Element :=
  match forest? doctype false doctype.entities Scope.outermost [] [] tokens with
  | some [root] => some root
  | _ => none

mutual

/-- The first element of a name, in the order in which elements begin. -/
def first? (name : Name) : Element → Option Element
  | ⟨own, attributes, children⟩ =>
    if own = name then some ⟨own, attributes, children⟩ else firstIn? name children

def firstIn? (name : Name) : List Element → Option Element
  | [] => none
  | element :: rest => (first? name element).or (firstIn? name rest)

end

/-- The value of an attribute without a namespace. -/
def attributeNamed? (element : Element) (name : String) : Option String :=
  element.attributes.lookup ⟨none, name⟩

theorem forest?_nil (doctype : Doctype) (inside : Bool) (available : List Entity) (scope : Scope) :
    forest? doctype inside available scope [] [] [] = some [] := by
  rw [forest?]
  rfl

end Element

end ModPack.Markup
