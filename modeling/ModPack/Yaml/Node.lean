import ModPack.Yaml.Plain
import ModPack.Yaml.Token

/-!
# The node of a document

The tokens of a text make one document, whose content is a tree of scalars, sequences and mappings.
A node may carry an anchor, and an alias stands for the node of an anchor before it. Reading follows
the grammar of block and flow collections; each function reads one part and gives back the tokens
behind it.
-/
namespace ModPack.Yaml

inductive Node
  | alias (name : String)
  | scalar (anchor : Option String) (tag : Tag) (text : String)
  | sequence (anchor : Option String) (tag : Tag) (items : List Node)
  | mapping (anchor : Option String) (tag : Tag) (entries : List (Node × Node))
  /-- The collection `levels` above the one that holds this node. -/
  | enclosing (levels : Nat) (isMap : Bool)
  deriving Inhabited

namespace Node

/-- Tag handles with what they stand for. -/
abbrev Handles := List (String × String)

def defaultHandles : Handles := [("!", "!"), ("!!", Tag.address)]

/-- The node that an absent scalar stands for. -/
def absent : Node :=
  .scalar none .null ""

/-- The anchor and tag in front of a node; the tag `!` alone asks for the tag that the text gives. -/
structure Properties where
  anchor : Option String := none
  tag : Option String := none

def Properties.isEmpty (properties : Properties) : Bool :=
  properties.anchor.isNone && properties.tag.isNone

/-- The kind that the tag names. -/
def Properties.kind? (properties : Properties) : Option Tag :=
  match properties.tag with
  | none => none
  | some tag => if tag = "!" then none else some (Tag.ofAddress tag)

/-- A tag in full; a handle must be declared. -/
def fullTag? (handles : Handles) (handle : Option String) (suffix : String) : Option String :=
  match handle with
  | none => some suffix
  | some handle => (handles.lookup handle).map (· ++ suffix)

def ofScalar (properties : Properties) (text : String) (plain : Bool) : Node :=
  let tag := match properties.kind? with
    | some tag => tag
    | none => if plain || properties.tag.isSome then Plain.kind text else .text
  .scalar properties.anchor tag text

/-- The next token ends the place where a node may stand. -/
def nextIn (tokens : List Token) (ends : List Token) : Bool :=
  (tokens.head?.map ends.contains).getD false

mutual

/-- A node. Block collections are read where `block` allows, and a sequence of entries at the
indentation of its mapping where `indentless` does. -/
def read (handles : Handles) (block indentless : Bool) (tokens : List Token) :
    Option (Node × List Token) :=
  match tokens with
  | .alias name :: rest => some (.alias name, rest)
  | .anchor name :: .tag handle suffix :: rest =>
    match fullTag? handles handle suffix with
    | none => none
    | some tag => readContent handles block indentless ⟨some name, some tag⟩ rest
  | .tag handle suffix :: .anchor name :: rest =>
    match fullTag? handles handle suffix with
    | none => none
    | some tag => readContent handles block indentless ⟨some name, some tag⟩ rest
  | .tag handle suffix :: rest =>
    match fullTag? handles handle suffix with
    | none => none
    | some tag => readContent handles block indentless ⟨none, some tag⟩ rest
  | .anchor name :: rest => readContent handles block indentless ⟨some name, none⟩ rest
  | tokens => readContent handles block indentless {} tokens
termination_by (tokens.length, 2)

/-- What follows the properties of a node; with properties it may be missing. -/
def readContent (handles : Handles) (block indentless : Bool) (properties : Properties)
    (tokens : List Token) : Option (Node × List Token) :=
  let missing : Option (Node × List Token) :=
    if properties.isEmpty then none else some (ofScalar properties "" true, tokens)
  let list (read : List Node × List Token) : Node × List Token :=
    (.sequence properties.anchor (properties.kind?.getD .list) read.1, read.2)
  let map (read : List (Node × Node) × List Token) : Node × List Token :=
    (.mapping properties.anchor (properties.kind?.getD .map) read.1, read.2)
  match tokens with
  | .scalar text plain :: rest =>
    some (ofScalar properties text (plain && properties.tag.isNone), rest)
  | .flowSequenceStart :: rest => (readFlowItems handles true rest).map list
  | .flowMappingStart :: rest => (readFlowEntries handles true rest).map map
  | .blockSequenceStart :: rest => if block then (readItems handles rest).map list else missing
  | .blockMappingStart :: rest => if block then (readEntries handles rest).map map else missing
  | .blockEntry :: rest =>
    if indentless then (readIndentless handles (.blockEntry :: rest)).map list else missing
  | _ => missing
termination_by (tokens.length, 1)

/-- The entries of a block sequence up to its end. -/
def readItems (handles : Handles) (tokens : List Token) : Option (List Node × List Token) :=
  match tokens with
  | .blockEnd :: rest => some ([], rest)
  | .blockEntry :: rest => do
    let (item, after) ← if nextIn rest [.blockEntry, .blockEnd] then some (absent, rest)
      else read handles true false rest
    if _ : after.length ≤ rest.length then
      let (items, after) ← readItems handles after
      some (item :: items, after)
    else none
  | _ => none
termination_by (tokens.length, 0)

/-- The entries of a sequence that stands at the indentation of its mapping. -/
def readIndentless (handles : Handles) (tokens : List Token) : Option (List Node × List Token) :=
  match tokens with
  | .blockEntry :: rest => do
    let (item, after) ← if nextIn rest [.blockEntry, .key, .value, .blockEnd] then
        some (absent, rest)
      else read handles true false rest
    if _ : after.length ≤ rest.length then
      let (items, after) ← readIndentless handles after
      some (item :: items, after)
    else none
  | tokens => some ([], tokens)
termination_by (tokens.length, 0)

/-- The entries of a block mapping up to its end. -/
def readEntries (handles : Handles) (tokens : List Token) :
    Option (List (Node × Node) × List Token) :=
  match tokens with
  | .blockEnd :: rest => some ([], rest)
  | .key :: rest => do
    let (key, after) ← if nextIn rest [.key, .value, .blockEnd] then some (absent, rest)
      else read handles true true rest
    if _ : after.length ≤ rest.length then
      let (value, last) ← readValue handles after
      if _ : last.length ≤ after.length then
        let (entries, last) ← readEntries handles last
        some ((key, value) :: entries, last)
      else none
    else none
  | _ => none
termination_by (tokens.length, 0)

/-- The value of a block mapping's entry, which may be missing. -/
def readValue (handles : Handles) (tokens : List Token) : Option (Node × List Token) :=
  match tokens with
  | .value :: rest =>
    if nextIn rest [.key, .value, .blockEnd] then some (absent, rest)
    else read handles true true rest
  | tokens => some (absent, tokens)
termination_by (tokens.length, 0)

/-- The items of a flow sequence; all but the first need a comma. A key makes an item a mapping with
one entry. -/
def readFlowItems (handles : Handles) (first : Bool) (tokens : List Token) :
    Option (List Node × List Token) :=
  match tokens with
  | .flowSequenceEnd :: rest => some ([], rest)
  | .flowEntry :: rest => if first then none else readFlowItem handles rest
  | tokens => if first then readFlowItem handles tokens else none
termination_by (tokens.length, 4)

def readFlowItem (handles : Handles) (tokens : List Token) : Option (List Node × List Token) :=
  match tokens with
  | .flowSequenceEnd :: rest => some ([], rest)
  | .key :: rest => do
    let (key, after) ← if nextIn rest [.value, .flowEntry, .flowSequenceEnd] then
        some (absent, rest)
      else read handles false false rest
    if _ : after.length ≤ rest.length then
      let (value, last) ← readFlowValue handles .flowSequenceEnd after
      if _ : last.length ≤ after.length then
        let (items, last) ← readFlowItems handles false last
        some (.mapping none .map [(key, value)] :: items, last)
      else none
    else none
  | tokens => do
    let (item, after) ← read handles false false tokens
    if _ : after.length < tokens.length then
      let (items, after) ← readFlowItems handles false after
      some (item :: items, after)
    else none
termination_by (tokens.length, 3)

/-- The value of a flow entry, which may be missing; `closing` ends the collection. -/
def readFlowValue (handles : Handles) (closing : Token) (tokens : List Token) :
    Option (Node × List Token) :=
  match tokens with
  | .value :: rest =>
    if nextIn rest [.flowEntry, closing] then some (absent, rest)
    else read handles false false rest
  | tokens => some (absent, tokens)
termination_by (tokens.length, 0)

/-- The entries of a flow mapping; all but the first need a comma. -/
def readFlowEntries (handles : Handles) (first : Bool) (tokens : List Token) :
    Option (List (Node × Node) × List Token) :=
  match tokens with
  | .flowMappingEnd :: rest => some ([], rest)
  | .flowEntry :: rest => if first then none else readFlowEntry handles rest
  | tokens => if first then readFlowEntry handles tokens else none
termination_by (tokens.length, 4)

def readFlowEntry (handles : Handles) (tokens : List Token) :
    Option (List (Node × Node) × List Token) :=
  match tokens with
  | .flowMappingEnd :: rest => some ([], rest)
  | .key :: rest => do
    let (key, after) ← if nextIn rest [.value, .flowEntry, .flowMappingEnd] then
        some (absent, rest)
      else read handles false false rest
    if _ : after.length ≤ rest.length then
      let (value, last) ← readFlowValue handles .flowMappingEnd after
      if _ : last.length ≤ after.length then
        let (entries, last) ← readFlowEntries handles false last
        some ((key, value) :: entries, last)
      else none
    else none
  | tokens => do
    let (key, after) ← read handles false false tokens
    if _ : after.length < tokens.length then
      let (entries, after) ← readFlowEntries handles false after
      some ((key, absent) :: entries, after)
    else none
termination_by (tokens.length, 3)

end

/-! ## Documents -/

/-- The directives in front of a document: the handles they declare, behind which the default ones
stand, and the tokens after them. A second version or handle declaration, or a version other than
one, is refused. -/
def readDirectives (versionSeen : Bool) (declared : Handles) :
    List Token → Option (Handles × List Token)
  | .directive (.version major _) :: rest =>
    if versionSeen || major ≠ 1 then none else readDirectives true declared rest
  | .directive (.tag handle meaning) :: rest =>
    if (declared.lookup handle).isSome then none
    else readDirectives versionSeen ((handle, meaning) :: declared) rest
  | .directive .unknown :: rest => readDirectives versionSeen declared rest
  | tokens => some (declared ++ defaultHandles, tokens)

def isBare : List Token → Bool
  | [] | .directive _ :: _ | .documentStart :: _ => false
  | _ => true

/-- The content of the only document of a stream: none when there is no document. -/
def readDocument (tokens : List Token) : Option (Option Node) := do
  if tokens = [] then return none
  let (content, rest) ← if isBare tokens then read defaultHandles true false tokens
    else do
      let (handles, tokens) ← readDirectives false [] tokens
      let .documentStart :: rest := tokens | none
      if isBare rest && !nextIn rest [.documentEnd] then read handles true false rest
      else some (absent, rest)
  guard (rest.all (· = .documentEnd))
  return some content

end Node

end ModPack.Yaml
