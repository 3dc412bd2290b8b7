import ModPack.Name
import ModPack.Path
import Mathlib.Data.List.TakeWhile

/-!
# Texts that a separator cuts

What is in front of the first separator has none, and so have all the pieces. A text without the
separator is one piece, and pieces without it are found again after they are put together, so the
pieces of a text are known from that. A text that names one component of a path is plain; every text
made of name characters with something in front that is no dot is one. Main statements:
`pieces_intercalate`, `pieces_eq_iff` and `Path.plain_append`.
-/
namespace ModPack

namespace Text

variable {separator : Char}

/-- A run of characters other than the separator ends at the first separator. -/
theorem span_ne {front : List Char} (hfront : separator ∉ front) (back : List Char) :
    (front ++ separator :: back).takeWhile (· ≠ separator) = front ∧
      (front ++ separator :: back).dropWhile (· ≠ separator) = separator :: back := by
  have hall : ∀ other ∈ front, decide (other ≠ separator) = true := by
    intro other hother
    exact decide_eq_true fun heq => hfront (heq ▸ hother)
  constructor
  · rw [List.takeWhile_append_of_pos hall, List.takeWhile_cons_of_neg (by simp), List.append_nil]
  · rw [List.dropWhile_append_of_pos hall, List.dropWhile_cons_of_neg (by simp)]

/-- The characters from the first separator on begin with it. -/
theorem exists_first_of_dropWhile {chars back : List Char} {first : Char}
    (h : chars.dropWhile (· ≠ separator) = first :: back) :
    ∃ front, first = separator ∧ separator ∉ front ∧ chars.takeWhile (· ≠ separator) = front ∧
      chars = front ++ separator :: back := by
  have hfirst : first = separator := by
    have hhead := List.head?_dropWhile_not (· ≠ separator) chars
    rw [h] at hhead
    simpa using hhead
  subst hfirst
  refine ⟨_, rfl, fun hmem => ?_, rfl, ?_⟩
  · simpa using List.mem_takeWhile_imp hmem
  · rw [← h, List.takeWhile_append_dropWhile]

theorem pieces_of_not_mem {text : List Char} (h : separator ∉ text) :
    pieces separator text = [text] := by
  induction text with
  | nil => rfl
  | cons c rest ih =>
    rw [List.mem_cons, not_or] at h
    obtain ⟨hc, hrest⟩ := h
    rw [pieces, if_neg (fun heq => hc heq.symm), ih hrest]

/-- The first separator ends the first piece. -/
theorem pieces_append_cons {front : List Char} (back : List Char) (h : separator ∉ front) :
    pieces separator (front ++ separator :: back) = front :: pieces separator back := by
  induction front with
  | nil => simp [pieces]
  | cons c rest ih =>
    rw [List.mem_cons, not_or] at h
    obtain ⟨hc, hrest⟩ := h
    rw [List.cons_append, pieces, if_neg (fun heq => hc heq.symm), ih hrest]

/-- Pieces that do not hold the separator are found again. -/
theorem pieces_intercalate {texts : List (List Char)} (hne : texts ≠ [])
    (h : ∀ text ∈ texts, separator ∉ text) :
    pieces separator ([separator].intercalate texts) = texts := by
  induction texts with
  | nil => exact absurd rfl hne
  | cons first rest ih =>
    obtain ⟨hfirst, hrest⟩ := List.forall_mem_cons.1 h
    cases rest with
    | nil =>
      have hone : [separator].intercalate [first] = first := by simp [List.intercalate]
      rw [hone, pieces_of_not_mem hfirst]
    | cons second more =>
      have hcons : [separator].intercalate (first :: second :: more) =
          first ++ separator :: [separator].intercalate (second :: more) := by
        simp [List.intercalate, List.intersperse]
      rw [hcons, pieces_append_cons _ hfirst, ih (List.cons_ne_nil _ _) hrest]

/-- The pieces of a text are made of its characters, and hold no separator. -/
theorem of_mem_pieces {c : Char} {text piece : List Char}
    (h : piece ∈ pieces separator text) (hc : c ∈ piece) : c ∈ text ∧ c ≠ separator := by
  induction text generalizing piece with
  | nil =>
    rw [pieces, List.mem_singleton] at h
    rw [h] at hc
    cases hc
  | cons first rest ih =>
    rw [pieces] at h
    split at h
    · rcases List.mem_cons.1 h with rfl | h
      · cases hc
      · exact ⟨List.mem_cons_of_mem _ (ih h hc).1, (ih h hc).2⟩
    · next hfirst =>
      split at h
      · next hnil => exact absurd hnil (pieces_ne_nil separator rest)
      · next piece' more hpieces =>
        rw [hpieces] at ih
        rcases List.mem_cons.1 h with rfl | h
        · rcases List.mem_cons.1 hc with rfl | hc
          · exact ⟨List.mem_cons_self, hfirst⟩
          · exact ⟨List.mem_cons_of_mem _ (ih List.mem_cons_self hc).1,
              (ih List.mem_cons_self hc).2⟩
        · exact ⟨List.mem_cons_of_mem _ (ih (List.mem_cons_of_mem _ h) hc).1,
            (ih (List.mem_cons_of_mem _ h) hc).2⟩

/-- A text is cut into the one list of pieces without the separator that it is made of. -/
theorem pieces_eq_iff {text : List Char} {texts : List (List Char)} :
    pieces separator text = texts ↔
      texts ≠ [] ∧ (∀ piece ∈ texts, separator ∉ piece) ∧ [separator].intercalate texts = text := by
  constructor
  · rintro rfl
    refine ⟨pieces_ne_nil separator text, fun piece hpiece hmem => ?_, intercalate_pieces _ text⟩
    exact (of_mem_pieces hpiece hmem).2 rfl
  · rintro ⟨hne, hpieces, rfl⟩
    exact pieces_intercalate hne hpieces

/-- Lines without line ends are the pieces of the text that they make together. -/
theorem splitAt_intercalate {lines : List String} (hne : lines ≠ [])
    (h : ∀ line ∈ lines, separator ∉ line.toList) :
    splitAt separator ((String.singleton separator).intercalate lines) = lines := by
  have hlists : ∀ text ∈ lines.map String.toList, separator ∉ text := by
    intro text hmem
    obtain ⟨line, hline, rfl⟩ := List.mem_map.1 hmem
    exact h line hline
  rw [splitAt, String.toList_intercalate, String.toList_singleton,
    pieces_intercalate (by simpa using hne) hlists]
  simp [List.map_map, Function.comp_def]

end Text

namespace Path

/-- The text is one component of a path, and that does not lead back. -/
structure Plain (name : String) : Prop where
  ofString_eq : ofString name = ⟨.relative, [name]⟩
  ne_parent : name ≠ ".."

theorem plain_of_not_mem {name : String}
    (h : '/' ∉ name.toList ∧ name ≠ "" ∧ name ≠ "." ∧ name ≠ "..") : Plain name := by
  obtain ⟨hslash, hempty, hhere, hparent⟩ := h
  refine ⟨?_, hparent⟩
  have hanchor : name.toList.takeWhile (· = '/') = [] := by
    cases hchars : name.toList with
    | nil => rfl
    | cons c rest =>
      have hc : c ≠ '/' := by
        rintro rfl
        exact hslash (hchars ▸ List.mem_cons_self)
      simp [hc]
  have hparts : (Text.splitAt '/' name).filter isPart = [name] := by
    rw [Text.splitAt, Text.pieces_of_not_mem hslash]
    simp [isPart, hempty, hhere]
  rw [ofString, hanchor, hparts]
  rfl

theorem div_of_plain {name : String} (dir : Path) (h : Plain name) :
    dir / name = { dir with parts := dir.parts ++ [name] } := by
  change dir.join (ofString name) = _
  rw [h.ofString_eq]
  rfl

theorem parent_div {name : String} (dir : Path) (h : Plain name) : (dir / name).parent = dir := by
  rw [div_of_plain dir h]
  simp [parent]

/-- A text of characters other than slashes and dots, with anything behind that has no slash, names
one component. -/
theorem plain_append {front back : String} (hne : front ≠ "")
    (hfront : ∀ c ∈ front.toList, c ≠ '/' ∧ c ≠ '.') (hback : '/' ∉ back.toList) :
    Plain (front ++ back) := by
  obtain ⟨c, rest, hc⟩ : ∃ c rest, front.toList = c :: rest := by
    cases h : front.toList with
    | nil => exact absurd (String.toList_eq_nil_iff.1 h) hne
    | cons c rest => exact ⟨c, rest, rfl⟩
  have hchars : (front ++ back).toList = c :: (rest ++ back.toList) := by
    rw [String.toList_append, hc, List.cons_append]
  have hfirst : c ≠ '.' := (hfront c (by rw [hc]; exact List.mem_cons_self)).2
  have hdot (other : String) (hother : other.toList.head? = some '.' ∨ other.toList = []) :
      front ++ back ≠ other := by
    rintro rfl
    rw [hchars] at hother
    rcases hother with h | h
    · exact hfirst (Option.some.inj h)
    · cases h
  refine plain_of_not_mem
    ⟨?_, hdot "" (.inr rfl), hdot "." (.inl rfl), hdot ".." (.inl rfl)⟩
  rw [String.toList_append, List.mem_append]
  rintro (h | h)
  · exact (hfront '/' h).1 rfl
  · exact hback h

end Path

namespace Name

/-- Names hold none of the characters that texts and paths are cut at. -/
theorem isNameChar_of_fault? {name : String} (h : fault? name = none) :
    ∀ c ∈ name.toList, isNameChar c = true := by
  unfold fault? at h
  split at h
  · cases h
  split at h
  · cases h
  split at h
  · cases h
  next hall =>
  intro c hc
  have hchars : name.toList.all isNameChar = true := by simpa using hall
  exact List.all_eq_true.1 hchars c hc

theorem not_mem_of_fault? {name : String} {c : Char} (h : fault? name = none)
    (hc : isNameChar c = false) : c ∉ name.toList := by
  intro hmem
  rw [isNameChar_of_fault? h c hmem] at hc
  cases hc

theorem fault?_of_packageFault? {name : String} (h : packageFault? name = none) :
    fault? name = none := by
  unfold packageFault? at h
  split at h
  · cases h
  split at h
  · cases h
  exact Option.map_eq_none_iff.1 h

theorem ne_empty_of_fault? {name : String} (h : fault? name = none) : name ≠ "" := by
  rintro rfl
  cases h

end Name

end ModPack
