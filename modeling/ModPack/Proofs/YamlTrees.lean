import ModPack.Yaml.Document
import ModPack.Yaml.Written

/-!
# Trees of texts in YAML documents

A tree of texts is laid out as tokens in block style, and these tokens are read as the value of the
tree: mappings keep their order, and texts stay texts. This holds for any choice of the texts that
stand without quotes, as long as none of them reads as something else. Main statement:
`readText_of_scan`.
-/
namespace ModPack.Yaml

namespace Tree

mutual

/-- The tokens of a tree in block style; `plain` tells the texts that stand without quotes. -/
def tokens (plain : String → Bool) : Tree → List Token
  | .text value => [.scalar value (plain value)]
  | .map [] => [.flowMappingStart, .flowMappingEnd]
  | .map (entry :: entries) => .blockMappingStart :: entryTokens plain (entry :: entries)

def entryTokens (plain : String → Bool) : List (String × Tree) → List Token
  | [] => [.blockEnd]
  | (key, value) :: entries =>
    .key :: .scalar key (plain key) :: .value :: (tokens plain value ++ entryTokens plain entries)

end

mutual

/-- The node of a tree. -/
def node : Tree → Node
  | .text value => .scalar none .text value
  | .map entries => .mapping none .map (entryNodes entries)

def entryNodes : List (String × Tree) → List (Node × Node)
  | [] => []
  | (key, value) :: entries => (.scalar none .text key, node value) :: entryNodes entries

end

mutual

/-- The value of a tree. -/
def value : Tree → Value
  | .text value => .text value
  | .map entries => .map (entryValues entries)

def entryValues : List (String × Tree) → List (Value × Value)
  | [] => []
  | (key, tree) :: entries => (.text key, value tree) :: entryValues entries

end

mutual

/-- No mapping of the tree has a key twice. -/
def Distinct : Tree → Prop
  | .text _ => True
  | .map entries => (entries.map (·.1)).Nodup ∧ EntriesDistinct entries

def EntriesDistinct : List (String × Tree) → Prop
  | [] => True
  | (_, tree) :: entries => Distinct tree ∧ EntriesDistinct entries

end

variable {plain : String → Bool} {handles : Node.Handles}

theorem entryNodes_eq (entries : List (String × Tree)) :
    entryNodes entries = entries.map fun entry => (.scalar none .text entry.1, node entry.2) := by
  induction entries with
  | nil => rfl
  | cons entry entries ih => rw [entryNodes, ih, List.map_cons]

theorem entryValues_eq (entries : List (String × Tree)) :
    entryValues entries = entries.map fun entry => (.text entry.1, value entry.2) := by
  induction entries with
  | nil => rfl
  | cons entry entries ih => rw [entryValues, ih, List.map_cons]

/-! ## Reading the tokens -/

theorem ofScalar_plain (hplain : ∀ text, plain text = true → Plain.kind text = .text)
    (text : String) : Node.ofScalar {} text (plain text) = .scalar none .text text := by
  cases h : plain text with
  | false => rfl
  | true =>
    have hkind := hplain text h
    simp [Node.ofScalar, Node.Properties.kind?, hkind]

theorem read_scalar (hplain : ∀ text, plain text = true → Plain.kind text = .text)
    (text : String) (indentless : Bool) (rest : List Token) :
    Node.read handles true indentless (.scalar text (plain text) :: rest) =
      some (.scalar none .text text, rest) := by
  rw [Node.read, Node.readContent]
  · simp [ofScalar_plain hplain]
  all_goals simp

/-- The tokens of a tree do not begin with one that ends an entry. -/
theorem nextIn_tokens (tree : Tree) (rest : List Token) :
    Node.nextIn (tree.tokens plain ++ rest) [.key, .value, .blockEnd] = false := by
  cases tree with
  | text value => rw [tokens]; rfl
  | map entries =>
    cases entries with
    | nil => rw [tokens]; rfl
    | cons entry entries => rw [tokens]; rfl

/-- What stands between the braces of an empty mapping. -/
theorem read_empty (indentless : Bool) (rest : List Token) :
    Node.read handles true indentless (.flowMappingStart :: .flowMappingEnd :: rest) =
      some (.mapping none .map [], rest) := by
  rw [Node.read, Node.readContent, Node.readFlowEntries]
  · rfl
  all_goals simp

/-- A block mapping is what its entries are read as. -/
theorem read_block {entries : List (Node × Node)} {tokens rest : List Token} (indentless : Bool)
    (h : Node.readEntries handles tokens = some (entries, rest)) :
    Node.read handles true indentless (.blockMappingStart :: tokens) =
      some (.mapping none .map entries, rest) := by
  rw [Node.read, Node.readContent]
  · simp [h, Node.Properties.kind?]
  all_goals simp

mutual

/-- The tokens of a tree are read as its node. -/
theorem read_tokens (hplain : ∀ text, plain text = true → Plain.kind text = .text)
    (tree : Tree) (indentless : Bool) (rest : List Token) :
    Node.read handles true indentless (tree.tokens plain ++ rest) = some (tree.node, rest) := by
  cases tree with
  | text value =>
    rw [tokens, node]
    exact read_scalar hplain value indentless rest
  | map entries =>
    cases entries with
    | nil =>
      rw [tokens, node, entryNodes]
      exact read_empty indentless rest
    | cons entry entries =>
      rw [tokens, node]
      exact read_block indentless (readEntries_tokens hplain (entry :: entries) rest)

theorem readEntries_tokens (hplain : ∀ text, plain text = true → Plain.kind text = .text)
    (entries : List (String × Tree)) (rest : List Token) :
    Node.readEntries handles (entryTokens plain entries ++ rest) =
      some (entryNodes entries, rest) := by
  cases entries with
  | nil =>
    rw [entryTokens, entryNodes, List.singleton_append, Node.readEntries]
  | cons entry entries =>
    obtain ⟨key, tree⟩ := entry
    have hvalue := read_tokens hplain tree true (entryTokens plain entries ++ rest)
    have hentries := readEntries_tokens hplain entries rest
    rw [entryTokens, entryNodes, List.cons_append, List.cons_append, List.cons_append,
      List.append_assoc, Node.readEntries]
    have hkey : Node.nextIn (.scalar key (plain key) :: .value ::
        (tokens plain tree ++ (entryTokens plain entries ++ rest))) [.key, .value, .blockEnd] =
        false := rfl
    rw [if_neg (by rw [hkey]; exact Bool.false_ne_true), read_scalar hplain]
    simp [Node.readValue, nextIn_tokens, hvalue, hentries]
    omega

end

theorem readDocument_tokens (hplain : ∀ text, plain text = true → Plain.kind text = .text)
    (tree : Tree) : Node.readDocument (tree.tokens plain) = some (some tree.node) := by
  have hread : Node.read Node.defaultHandles true false (tree.tokens plain ++ []) =
      some (tree.node, []) := read_tokens hplain tree false []
  rw [List.append_nil] at hread
  have hstart : tree.tokens plain ≠ [] ∧ Node.isBare (tree.tokens plain) = true := by
    cases tree with
    | text value => exact ⟨nofun, rfl⟩
    | map entries => cases entries <;> exact ⟨nofun, rfl⟩
  rw [Node.readDocument, if_neg hstart.1, if_pos hstart.2, hread]
  rfl

/-! ## The value of the node -/

mutual

theorem link_node (anchors : Node.Anchors) (tree : Tree) :
    tree.node.link anchors = some (tree.node, anchors) := by
  cases tree with
  | text value => rfl
  | map entries =>
    rw [node, Node.link]
    simp [Node.Anchors.allows, linkEntries_node (anchors.enter none true) entries]
    rfl

theorem linkEntries_node (anchors : Node.Anchors) (entries : List (String × Tree)) :
    Node.linkEntries anchors (entryNodes entries) = some (entryNodes entries, anchors) := by
  cases entries with
  | nil => rfl
  | cons entry entries =>
    obtain ⟨key, tree⟩ := entry
    rw [entryNodes, Node.linkEntries, Node.link]
    simp [Node.Anchors.allows, Node.Anchors.finish, link_node anchors tree,
      linkEntries_node anchors entries]

end

/-- The keys of a tree are texts, so no mapping brings in another one. -/
theorem mergeEntries?_node (entries : List (String × Tree)) :
    Node.mergeEntries? (entryNodes entries) = some (entryNodes entries) := by
  have hmerge : (entryNodes entries).filter (·.1.kind = .merge) = [] := by
    rw [entryNodes_eq, List.filter_eq_nil_iff]
    intro entry hmem
    obtain ⟨_, _, rfl⟩ := List.mem_map.1 hmem
    exact of_decide_eq_true rfl
  have hown : (entryNodes entries).filter (·.1.kind ≠ .merge) = entryNodes entries := by
    rw [entryNodes_eq, List.filter_eq_self]
    intro entry hmem
    obtain ⟨_, _, rfl⟩ := List.mem_map.1 hmem
    rfl
  rw [Node.mergeEntries?, hmerge, hown]
  simp [entryNodes_eq, Node.withTextKey]

mutual

theorem merge_node (tree : Tree) : tree.node.merge = tree.node := by
  cases tree with
  | text value => rfl
  | map entries =>
    rw [node, Node.merge, mergePairs_node entries, mergeEntries?_node]
    rfl

theorem mergePairs_node (entries : List (String × Tree)) :
    Node.mergePairs (entryNodes entries) = entryNodes entries := by
  cases entries with
  | nil => rfl
  | cons entry entries =>
    obtain ⟨key, tree⟩ := entry
    rw [entryNodes, Node.mergePairs, merge_node tree, mergePairs_node entries]
    rfl

end

/-- An entry under a new key goes behind the others. -/
theorem putKey_entryValues {entries : List (String × Tree)} {key : String} (tree : Tree)
    (h : key ∉ entries.map (·.1)) :
    Value.putKey (.text key) tree.value (entryValues entries) =
      entryValues (entries ++ [(key, tree)]) := by
  induction entries with
  | nil => rfl
  | cons entry entries ih =>
    obtain ⟨known, old⟩ := entry
    rw [List.map_cons, List.mem_cons, not_or] at h
    have hkey : (Value.text known).isKey (.text key) = false := decide_eq_false (Ne.symm h.1)
    rw [entryValues, Value.putKey, if_neg (by rw [hkey]; exact Bool.false_ne_true), ih h.2,
      List.cons_append, entryValues]

theorem foldl_putKey_entryValues (front : List (String × Tree)) {rest : List (String × Tree)}
    (h : ((front ++ rest).map (·.1)).Nodup) :
    (entryValues rest).foldl (fun known (key, value) => Value.putKey key value known)
      (entryValues front) = entryValues (front ++ rest) := by
  induction rest generalizing front with
  | nil => simp [entryValues]
  | cons entry rest ih =>
    obtain ⟨key, tree⟩ := entry
    have hnew : key ∉ front.map (·.1) := by
      rw [List.map_append] at h
      exact fun hmem => (List.nodup_append.1 h).2.2 key hmem key List.mem_cons_self rfl
    rw [List.append_cons] at h ⊢
    rw [entryValues, List.foldl_cons, ← ih _ h, ← putKey_entryValues tree hnew]

/-- Entries with different keys make the mapping of them. -/
theorem mapOf_entryValues {entries : List (String × Tree)} (h : (entries.map (·.1)).Nodup) :
    Value.mapOf (entryValues entries) = .map (entryValues entries) :=
  congrArg Value.map (foldl_putKey_entryValues [] h)

mutual

theorem build_node (level : Nat) {tree : Tree} (h : tree.Distinct) :
    tree.node.build level = ⟨tree.value, []⟩ := by
  cases tree with
  | text value => rfl
  | map entries =>
    rw [Distinct] at h
    rw [node, Node.build, value, buildEntries_node (level + 1) h.2]
    simp [mapOf_entryValues h.1]

theorem buildEntries_node (level : Nat) {entries : List (String × Tree)}
    (h : EntriesDistinct entries) :
    Node.buildEntries level (entryNodes entries) = (entryValues entries, []) := by
  cases entries with
  | nil => rfl
  | cons entry entries =>
    obtain ⟨key, tree⟩ := entry
    rw [EntriesDistinct] at h
    rw [entryNodes, entryValues, Node.buildEntries, buildEntries_node level h.2,
      build_node level h.1]
    rfl

end

end Tree

/-- A text whose tokens are those of a tree is read as the value of the tree. -/
theorem readText_of_scan {plain : String → Bool} {tree : Tree} {text : List Char}
    (hplain : ∀ text, plain text = true → Plain.kind text = .text) (hdistinct : tree.Distinct)
    (h : Token.scan text = .ok (tree.tokens plain)) : readText text = .ok tree.value := by
  rw [readText, h]
  simp only [bind, Except.bind, Tree.readDocument_tokens hplain, Tree.link_node, Tree.merge_node,
    Tree.build_node 0 hdistinct]
  rfl

end ModPack.Yaml
