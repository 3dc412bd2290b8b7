import ModPack.Text.Newline
import ModPack.Yaml.Node

/-!
# The value of a YAML document

A document's node becomes a value in three steps: aliases are replaced by the nodes of their
anchors, merge keys by the entries they bring in, and every node by the value of its kind. Values
are made level by level, so of two nodes that have no value the one nearer to the root is reported.
-/
namespace ModPack.Yaml

namespace Node

/-! ## Aliases -/

/-- The anchors seen so far: finished ones with their nodes, and those of the collections around
the current place, innermost first. -/
structure Anchors where
  finished : List (String × Node) := []
  around : List (Option String × Bool) := []

def Anchors.holds (anchors : Anchors) (name : String) : Bool :=
  (anchors.finished.lookup name).isSome || anchors.around.any (·.1 = some name)

/-- Whether the anchor of a node is new. -/
def Anchors.allows (anchors : Anchors) : Option String → Bool
  | none => true
  | some name => !anchors.holds name

def Anchors.finish (anchors : Anchors) (anchor : Option String) (node : Node) : Anchors :=
  match anchor with
  | none => anchors
  | some name => { anchors with finished := (name, node) :: anchors.finished }

def Anchors.enter (anchors : Anchors) (anchor : Option String) (isMap : Bool) : Anchors :=
  { anchors with around := (anchor, isMap) :: anchors.around }

def Anchors.leave (anchors : Anchors) : Anchors :=
  { anchors with around := anchors.around.tail }

/-- The node that an alias stands for. -/
def Anchors.node? (anchors : Anchors) (name : String) : Option Node :=
  match anchors.finished.lookup name with
  | some node => some node
  | none => do
    let levels ← anchors.around.findIdx? (·.1 = some name)
    let (_, isMap) ← anchors.around[levels]?
    some (.enclosing levels isMap)

mutual

/-- The node without aliases. An alias needs an anchor before it, and anchors differ. -/
def link (anchors : Anchors) : Node → Option (Node × Anchors)
  | .alias name => (anchors.node? name).map fun node => (node, anchors)
  | .enclosing levels isMap => some (.enclosing levels isMap, anchors)
  | .scalar anchor tag text =>
    if anchors.allows anchor then
      some (.scalar anchor tag text, anchors.finish anchor (.scalar anchor tag text))
    else none
  | .sequence anchor tag items =>
    if anchors.allows anchor then do
      let (items, after) ← linkItems (anchors.enter anchor false) items
      let node := Node.sequence anchor tag items
      some (node, after.leave.finish anchor node)
    else none
  | .mapping anchor tag entries =>
    if anchors.allows anchor then do
      let (entries, after) ← linkEntries (anchors.enter anchor true) entries
      let node := Node.mapping anchor tag entries
      some (node, after.leave.finish anchor node)
    else none

def linkItems (anchors : Anchors) : List Node → Option (List Node × Anchors)
  | [] => some ([], anchors)
  | item :: items => do
    let (item, anchors) ← link anchors item
    let (items, anchors) ← linkItems anchors items
    some (item :: items, anchors)

def linkEntries (anchors : Anchors) : List (Node × Node) → Option (List (Node × Node) × Anchors)
  | [] => some ([], anchors)
  | (key, value) :: entries => do
    let (key, anchors) ← link anchors key
    let (value, anchors) ← link anchors value
    let (entries, anchors) ← linkEntries anchors entries
    some ((key, value) :: entries, anchors)

end

/-! ## Merge keys -/

def kind : Node → Tag
  | .scalar _ tag _ | .sequence _ tag _ | .mapping _ tag _ => tag
  | .alias _ | .enclosing .. => .unknown

/-- A key node that stands for the default key is an ordinary text. -/
def withTextKey : Node → Node
  | .scalar anchor .defaultKey text => .scalar anchor .text text
  | node => node

/-- The entries of a mapping. -/
def entries? : Node → Option (List (Node × Node))
  | .mapping _ _ entries => some entries
  | .enclosing _ true => some []
  | _ => none

/-- The entries that the value of a merge key brings in: those of a mapping, or of the mappings of a
sequence, the last one first. -/
def mergedEntries? : Node → Option (List (Node × Node))
  | .sequence _ _ items => (items.reverse.mapM entries?).map List.flatten
  | node => entries? node

/-- The entries of a mapping with its merge keys replaced: what they bring in comes first. -/
def mergeEntries? (entries : List (Node × Node)) : Option (List (Node × Node)) := do
  let brought ← (entries.filter (·.1.kind = .merge)).mapM fun (_, value) => mergedEntries? value
  let own := entries.filter (·.1.kind ≠ .merge)
  some (brought.flatten ++ own.map fun (key, value) => (withTextKey key, value))

mutual

/-- The node with all merge keys replaced. A mapping whose merge keys bring in no entries keeps
them, and has no value then. -/
def merge : Node → Node
  | .sequence anchor tag items => .sequence anchor tag (mergeItems items)
  | .mapping anchor tag entries =>
    let merged := mergePairs entries
    Node.mapping anchor tag
      (if tag = .map ∨ tag = .set then (mergeEntries? merged).getD merged else merged)
  | node => node

def mergeItems : List Node → List Node
  | [] => []
  | item :: items => merge item :: mergeItems items

def mergePairs : List (Node × Node) → List (Node × Node)
  | [] => []
  | (key, value) :: entries => (merge key, merge value) :: mergePairs entries

end

/-! ## Values -/

/-- A value with the errors met while it was made, each with its level. -/
structure Built where
  value : Value
  errors : List (Nat × Error) := []
  deriving Inhabited

/-- The value with the first error of the lowest level, if there is one. -/
def Built.result (built : Built) : Except Error Value :=
  match built.errors with
  | [] => .ok built.value
  | first :: rest =>
    .error (rest.foldl (fun least error => if error.1 < least.1 then error else least) first).2

def Built.ofResult (level : Nat) : Except Error Value → Built
  | .ok value => ⟨value, []⟩
  | .error error => ⟨.null, [(level, error)]⟩

def Built.failed (level : Nat) : Built :=
  ⟨.null, [(level, .malformed)]⟩

/-- The text of a node where a scalar is wanted: a mapping may give it under its default key. -/
def scalarText? : Node → Option String
  | .scalar _ _ text => some text
  | .mapping _ _ ((.scalar _ .defaultKey _, .scalar _ _ text) :: _) => some text
  | _ => none

def scalarValue (tag : Tag) (text : String) : Except Error Value :=
  match tag with
  | .null => .ok .null
  | .bool => .bool <$> Plain.readBool text
  | .int => .int <$> Plain.readInt text
  | .float => .float <$> Plain.readFloat text
  | .binary => Plain.readBinary text
  | .timestamp => Plain.readTimestamp text
  | .text => .ok (.text text)
  | _ => .error .malformed

/-- Scalars can be mapping keys, collections cannot. -/
def isScalarKey : Value → Bool
  | .list _ | .pairs _ | .map _ | .set _ | .enclosing .. => false
  | _ => true

mutual

/-- The value of a node inside a collection of the given level. -/
def build (level : Nat) : Node → Built
  | .alias _ => .failed level
  | .enclosing levels isMap => ⟨.enclosing levels isMap, []⟩
  | .scalar _ tag text => match tag with
    | .list | .orderedMap | .pairs | .set | .map => .failed (level + 1)
    | tag => .ofResult level (scalarValue tag text)
  | .sequence _ tag items => match tag with
    | .list =>
      let built := buildItems (level + 1) items
      ⟨.list (built.map (·.value)), built.flatMap (·.errors)⟩
    | .pairs | .orderedMap => match buildPairs (level + 1) items with
      | (pairs, errors) => ⟨.pairs pairs, errors⟩
    | .map | .set => .failed (level + 1)
    | _ => .failed level
  | .mapping anchor tag entries => match tag with
    | .map => match buildEntries (level + 1) entries with
      | (entries, errors) => ⟨.mapOf entries, errors⟩
    | .set => match buildEntries (level + 1) entries with
      | (entries, errors) => match Value.mapOf entries with
        | .map entries => ⟨.set (entries.map (·.1)), errors⟩
        | _ => ⟨.set [], errors⟩
    | .list | .pairs | .orderedMap => .failed (level + 1)
    | tag => match scalarText? (.mapping anchor tag entries) with
      | some text => .ofResult level (scalarValue tag text)
      | none => .failed level

def buildItems (level : Nat) : List Node → List Built
  | [] => []
  | item :: items => build level item :: buildItems level items

/-- The pairs of a sequence of mappings with one entry each. -/
def buildPairs (level : Nat) : List Node → List (Value × Value) × List (Nat × Error)
  | [] => ([], [])
  | .mapping _ _ [(key, value)] :: items =>
    let key := build level key
    let value := build level value
    let (pairs, errors) := buildPairs level items
    ((key.value, value.value) :: pairs, key.errors ++ value.errors ++ errors)
  | _ :: _ => ([], [(level, .malformed)])

/-- The keys and values of a mapping; a collection cannot be a key. -/
def buildEntries (level : Nat) :
    List (Node × Node) → List (Value × Value) × List (Nat × Error)
  | [] => ([], [])
  | (key, value) :: entries =>
    let key := build level key
    if isScalarKey key.value then
      let value := build level value
      let (entries, errors) := buildEntries level entries
      ((key.value, value.value) :: entries, key.errors ++ value.errors ++ errors)
    else ([], [(level, .malformed)])

end

end Node

/-- The value of a text; an empty stream has the null value. -/
def readText (text : List Char) : Except Error Value := do
  let tokens ← Token.scan text
  match Node.readDocument tokens with
  | none => throw .malformed
  | some none => return .null
  | some (some node) =>
    let some (node, _) := node.link {} | throw .malformed
    (node.merge.build 0).result

/-- The value of a file. Line ends are read as line feeds. -/
def read (content : ByteArray) : Except Error Value := do
  let text ← (Utf8.decodePieces content).mapError .undecodable
  readText (Text.unifyNewlines text.toList)

end ModPack.Yaml
