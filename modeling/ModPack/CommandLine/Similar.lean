/-!
# Similar words

A word that is not known is compared with the words that are. Two words are as similar as the
characters in their common blocks: the longest common block, the earliest of them, and then the
common blocks on either side of it. Main statement: no more characters are common than either word
has.
-/
namespace ModPack.Similar

/-- The length of what two texts begin with in common. -/
def commonStart : List Char → List Char → Nat
  | a :: as, b :: bs => if a = b then commonStart as bs + 1 else 0
  | _, _ => 0

/-- A common block: where it starts in both texts and its length. -/
structure Block where
  first : Nat
  second : Nat
  length : Nat
  deriving DecidableEq, Repr

/-- The longest common block, the first of them where several are as long. -/
def longest (first second : List Char) : Block :=
  let candidates := (List.range first.length).flatMap fun i =>
    (List.range second.length).map fun j =>
      (⟨i, j, commonStart (first.drop i) (second.drop j)⟩ : Block)
  candidates.foldl (fun best next => if best.length < next.length then next else best) ⟨0, 0, 0⟩

/-- How many characters are in common blocks. -/
def common (first second : List Char) : Nat :=
  match longest first second with
  | ⟨i, j, length⟩ =>
    if 0 < length ∧ i + length ≤ first.length ∧ j + length ≤ second.length then
      common (first.take i) (second.take j) + length +
        common (first.drop (i + length)) (second.drop (j + length))
    else 0
termination_by first.length
decreasing_by
  · simp only [List.length_take]; omega
  · simp only [List.length_drop]; omega

/-- At least six tenths of the characters of two words are common. -/
def isClose (word other : String) : Bool :=
  6 * (word.length + other.length) ≤ 20 * common other.toList word.toList

/-- The words close to a word, in order; at most three. -/
def closeTo (word : String) (words : List String) : List String :=
  let score (other : String) : Nat × Nat :=
    (common other.toList word.toList, word.length + other.length)
  let before (first second : String) : Bool :=
    let (commonFirst, sizeFirst) := score first
    let (commonSecond, sizeSecond) := score second
    commonSecond * sizeFirst < commonFirst * sizeSecond ||
      (commonSecond * sizeFirst = commonFirst * sizeSecond && second ≤ first)
  (((words.filter (isClose word)).mergeSort before).take 3).mergeSort fun first second =>
    first ≤ second

theorem common_le (first second : List Char) :
    common first second ≤ first.length ∧ common first second ≤ second.length := by
  rw [common]
  split
  next i j length _ =>
    split
    · next h =>
      have before := common_le (first.take i) (second.take j)
      have after := common_le (first.drop (i + length)) (second.drop (j + length))
      simp only [List.length_take, List.length_drop] at before after
      omega
    · simp
termination_by first.length
decreasing_by
  · simp only [List.length_take]; omega
  · simp only [List.length_drop]; omega

end ModPack.Similar
