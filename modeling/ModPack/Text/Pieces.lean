/-!
# Splitting a text at a separator

`pieces` cuts at every separator, so a text with `n` of them has `n + 1` pieces, some maybe empty.
Main statement: putting the separator between the pieces gives the text back.
-/
namespace ModPack.Text

def pieces (separator : Char) : List Char → List (List Char)
  | [] => [[]]
  | c :: rest =>
    if c = separator then [] :: pieces separator rest
    else match pieces separator rest with
      | [] => [[c]]
      | piece :: more => (c :: piece) :: more

def splitAt (separator : Char) (text : String) : List String :=
  (pieces separator text.toList).map .ofList

theorem pieces_ne_nil (separator : Char) (text : List Char) : pieces separator text ≠ [] := by
  cases text with
  | nil => simp [pieces]
  | cons c rest =>
    rw [pieces]
    split
    · simp
    · split <;> simp

private theorem intercalate_cons_cons (separator : List Char) (first second : List Char)
    (more : List (List Char)) :
    separator.intercalate (first :: second :: more) =
      first ++ separator ++ separator.intercalate (second :: more) := by
  simp [List.intercalate, List.intersperse]

theorem intercalate_pieces (separator : Char) (text : List Char) :
    [separator].intercalate (pieces separator text) = text := by
  induction text with
  | nil => simp [pieces, List.intercalate]
  | cons c rest ih =>
    rw [pieces]
    match hp : pieces separator rest with
    | [] => exact absurd hp (pieces_ne_nil separator rest)
    | piece :: more =>
      rw [hp] at ih
      split
      · next h => rw [intercalate_cons_cons, ih, h]; rfl
      · cases more with
        | nil => simpa [List.intercalate] using ih
        | cons next more =>
          rw [intercalate_cons_cons] at ih ⊢
          simpa using ih

end ModPack.Text
