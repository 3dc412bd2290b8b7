import ModPack.Proofs.References

/-!
# The expressions of a line

Between the braces of an expression there is no other brace, so two expressions of a line have no
character in common, and cutting the line from left to right finds every text of that form, whatever
braces and colons stand around it. Nothing in front of an expression or behind it has a part in
what it is; so the two parts of a line that is divided elsewhere are cut as the whole line is. Main
statements: `opened?_eq_some`, `mem_scan`, `StandsAt.apart` and `segments_append`.
-/
namespace ModPack

namespace Expression

variable {expression other : Expression} {inner text after line : List Char}
  {position later : Nat}

/-! ## The form of an expression -/

/-- There is an argument, and no argument has a character that ends it or the expression. -/
structure Formed (expression : Expression) : Prop where
  arguments_ne : expression.arguments ≠ []
  isArgument : ∀ argument ∈ expression.arguments, IsArgument argument

/-- What stands between the braces: the keyword, and each argument behind a colon. -/
def inside (expression : Expression) : List Char :=
  expression.kind.keyword.toList ++
    expression.arguments.flatMap fun argument => ':' :: argument.toList

theorem intercalate_inside (expression : Expression) :
    [':'].intercalate ((expression.kind.keyword :: expression.arguments).map String.toList) =
      expression.inside := by
  obtain ⟨kind, arguments⟩ := expression
  rw [inside]
  generalize kind.keyword = word
  induction arguments generalizing word with
  | nil => simp [List.intercalate]
  | cons argument rest ih =>
    have hrest := ih argument
    simp only [List.intercalate, List.map_cons, List.intersperse_cons_cons, List.flatten_cons,
      List.flatMap_cons] at hrest ⊢
    rw [hrest]
    simp

/-- The characters that an expression is read from. -/
def form (expression : Expression) : List Char :=
  '\x7b' :: (expression.inside ++ ['\x7d'])

/-- The texts that are read as expressions. -/
def HasForm (text : List Char) : Prop :=
  ∃ expression : Expression, expression.Formed ∧ expression.form = text

theorem toList_text (expression : Expression) :
    expression.text.toList = '\x7b' :: (expression.inside ++ ['\x7d']) := by
  simp only [Expression.text, String.toList_append, String.toList_intercalate]
  rw [← intercalate_inside]
  simp

theorem form_eq (expression : Expression) : expression.form = expression.text.toList :=
  (toList_text expression).symm

theorem length_form (expression : Expression) :
    expression.form.length = expression.text.length := by
  rw [form_eq, String.length_toList]

theorem Formed.isBrace_eq_false (h : expression.Formed) :
    ∀ c ∈ expression.inside, isBrace c = false := by
  intro c hc
  rcases List.mem_append.1 hc with hc | hc
  · exact (isArgument_keyword expression.kind c hc).2
  · obtain ⟨argument, hargument, hc⟩ := List.mem_flatMap.1 hc
    rcases List.mem_cons.1 hc with rfl | hc
    · decide
    · exact (h.isArgument argument hargument c hc).2

/-- No expression begins behind the opening brace and before the end. -/
theorem Formed.not_mem_tail (h : expression.Formed) :
    '\x7b' ∉ expression.inside ++ ['\x7d'] := by
  intro hmem
  rcases List.mem_append.1 hmem with hmem | hmem
  · exact absurd (h.isBrace_eq_false _ hmem) (by decide)
  · exact absurd hmem (by decide)

/-! ## Reading one expression -/

/-- The expressions that are read are those of the form. -/
theorem ofInside?_eq_some (h : ∀ c ∈ inner, isBrace c = false) :
    ofInside? inner = some expression ↔ expression.Formed ∧ expression.inside = inner := by
  constructor
  · intro hread
    have htext := text_of_ofInside? hread
    rw [toList_text, List.cons_append, List.cons.injEq] at htext
    have hinside := List.append_cancel_right htext.2
    unfold ofInside? at hread
    split at hread
    · cases hread
    · cases hread
    · next keyword arguments hsome hpieces =>
      obtain ⟨kind, _, rfl⟩ := Option.map_eq_some_iff.1 hread
      refine ⟨⟨?_, ?_⟩, hinside⟩
      · exact fun hnil => hsome hnil
      · intro argument hargument c hc
        have hmem : argument ∈ (Text.pieces ':' inner).map String.ofList := by
          rw [hpieces]
          exact List.mem_cons_of_mem _ hargument
        obtain ⟨piece, hpiece, rfl⟩ := List.mem_map.1 hmem
        rw [String.toList_ofList] at hc
        obtain ⟨hcInner, hcolon⟩ := Text.of_mem_pieces hpiece hc
        exact ⟨hcolon, h c hcInner⟩
  · rintro ⟨hformed, rfl⟩
    have hpieces : (Text.pieces ':' expression.inside).map String.ofList =
        expression.kind.keyword :: expression.arguments := by
      rw [← intercalate_inside, Text.pieces_intercalate (by simp)]
      · simp [Function.comp_def]
      · intro text hmem hcolon
        obtain ⟨word, hword, rfl⟩ := List.mem_map.1 hmem
        rcases List.mem_cons.1 hword with rfl | hword
        · exact (isArgument_keyword expression.kind _ hcolon).1 rfl
        · exact (hformed.isArgument word hword _ hcolon).1 rfl
    rw [ofInside?, hpieces]
    split
    · next hnil => cases hnil
    · next hsingle =>
      rw [List.cons.injEq] at hsingle
      exact absurd hsingle.2 hformed.arguments_ne
    · next heq =>
      cases heq
      simp [ofKeyword?_keyword]

/-- The first brace behind an opening one closes what stands between them. -/
theorem opened?_append (h : ∀ c ∈ inner, isBrace c = false) (after : List Char) :
    opened? (inner ++ '\x7d' :: after) = (ofInside? inner).map (·, after) := by
  have hplain : ∀ c ∈ inner, (!isBrace c) = true := by
    intro c hc
    rw [h c hc]
    rfl
  have hend : (!isBrace '\x7d') = false := by decide
  rw [opened?, List.dropWhile_append_of_pos hplain, List.dropWhile_cons_of_neg (by simp [hend]),
    List.takeWhile_append_of_pos hplain, List.takeWhile_cons_of_neg (by simp [hend]),
    List.append_nil]
  rfl

/-- What stands in front of the next brace, and the text from that brace on. -/
theorem exists_next_brace (text : List Char) :
    ∃ inner rest, text = inner ++ rest ∧ (∀ c ∈ inner, isBrace c = false) ∧
      (rest = [] ∨ ∃ after, rest = '\x7b' :: after ∨ rest = '\x7d' :: after) := by
  refine ⟨text.takeWhile fun c => !isBrace c, text.dropWhile fun c => !isBrace c,
    List.takeWhile_append_dropWhile.symm, ?_, ?_⟩
  · intro c hc
    simpa using List.all_eq_true.1 List.all_takeWhile c hc
  · cases hrest : text.dropWhile fun c => !isBrace c with
    | nil => exact .inl rfl
    | cons c after =>
      have hbrace : isBrace c = true := by
        have hhead := List.head_dropWhile_not (fun c => !isBrace c) (l := text) (by simp [hrest])
        simpa [hrest] using hhead
      rw [isBrace, Bool.or_eq_true, decide_eq_true_eq, decide_eq_true_eq] at hbrace
      rcases hbrace with rfl | rfl
      · exact .inr ⟨after, .inl rfl⟩
      · exact .inr ⟨after, .inr rfl⟩

/-- Without a closing brace that comes next nothing is opened. -/
theorem opened?_of_next {rest : List Char} (h : ∀ c ∈ inner, isBrace c = false)
    (hrest : rest = [] ∨ ∃ after, rest = '\x7b' :: after) : opened? (inner ++ rest) = none := by
  have hplain : ∀ c ∈ inner, (!isBrace c) = true := by
    intro c hc
    rw [h c hc]
    rfl
  rw [opened?, List.dropWhile_append_of_pos hplain]
  rcases hrest with rfl | ⟨after, rfl⟩
  · rfl
  · have hopen : (!isBrace '\x7b') = false := by decide
    rw [List.dropWhile_cons_of_neg (by simp [hopen])]
    rfl

theorem opened?_eq_some : opened? text = some (expression, after) ↔
    expression.Formed ∧ '\x7b' :: text = expression.text.toList ++ after := by
  have hchars : '\x7b' :: text = expression.text.toList ++ after ↔
      text = expression.inside ++ '\x7d' :: after := by
    simp [toList_text]
  rw [hchars]
  constructor
  · intro hread
    obtain ⟨inner, rest, rfl, hinner, hrest⟩ := exists_next_brace text
    rcases hrest with rfl | ⟨behind, rfl | rfl⟩
    · rw [opened?_of_next hinner (.inl rfl)] at hread
      cases hread
    · rw [opened?_of_next hinner (.inr ⟨behind, rfl⟩)] at hread
      cases hread
    · rw [opened?_append hinner] at hread
      obtain ⟨_, hinside, heq⟩ := Option.map_eq_some_iff.1 hread
      cases heq
      obtain ⟨hformed, rfl⟩ := (ofInside?_eq_some hinner).1 hinside
      exact ⟨hformed, rfl⟩
  · rintro ⟨hformed, rfl⟩
    rw [opened?_append hformed.isBrace_eq_false,
      (ofInside?_eq_some hformed.isBrace_eq_false).2 ⟨hformed, rfl⟩]
    rfl

/-! ## Cutting a line -/

theorem segments_of_formed (h : expression.Formed) (after : List Char) :
    segments (expression.text.toList ++ after) = .expression expression :: segments after := by
  have hopened : opened? (expression.inside ++ '\x7d' :: after) = some (expression, after) :=
    opened?_eq_some.2 ⟨h, by simp [toList_text]⟩
  have hchars : expression.text.toList ++ after =
      '\x7b' :: (expression.inside ++ '\x7d' :: after) := by
    simp [toList_text]
  rw [hchars, segments, if_pos rfl]
  split
  · next heq =>
    rw [hopened] at heq
    cases heq
    rfl
  · next heq =>
    rw [hopened] at heq
    cases heq

/-- A character that opens no expression is a piece of its own. -/
theorem segments_cons {c : Char} (h : c = '\x7b' → opened? text = none) :
    segments (c :: text) = .plain c :: segments text := by
  rw [segments]
  split
  · next hc =>
    split
    · next heq =>
      rw [h hc] at heq
      cases heq
    · rfl
  · rfl

/-- The text of an expression stands in a line at a position. -/
structure StandsAt (line : List Char) (position : Nat) (expression : Expression) : Prop where
  formed : expression.Formed
  here : expression.text.toList <+: line.drop position

theorem StandsAt.of_append (h : expression.Formed) (after : List Char) :
    StandsAt (expression.text.toList ++ after) 0 expression :=
  ⟨h, List.prefix_append _ _⟩

theorem standsAt_append {front back : List Char} :
    StandsAt (front ++ back) (front.length + position) expression ↔
      StandsAt back position expression := by
  have hdrop : (front ++ back).drop (front.length + position) = back.drop position :=
    List.drop_length_add_append position
  constructor
  · rintro ⟨hformed, hhere⟩
    exact ⟨hformed, hdrop ▸ hhere⟩
  · rintro ⟨hformed, hhere⟩
    exact ⟨hformed, hdrop ▸ hhere⟩

/-- One expression can stand at a position. -/
theorem StandsAt.eq (h : StandsAt line position expression) (h' : StandsAt line position other) :
    expression = other := by
  obtain ⟨after, hafter⟩ := h.here
  obtain ⟨after', hafter'⟩ := h'.here
  have hopened : opened? (expression.inside ++ '\x7d' :: after) = some (expression, after) :=
    opened?_eq_some.2 ⟨h.formed, by simp [toList_text]⟩
  have hopened' : opened? (expression.inside ++ '\x7d' :: after) = some (other, after') := by
    refine opened?_eq_some.2 ⟨h'.formed, ?_⟩
    rw [hafter', ← hafter]
    simp [toList_text]
  rw [hopened] at hopened'
  cases hopened'
  rfl

/-- An expression begins behind the end of one that begins before it. -/
theorem StandsAt.apart (h : StandsAt line position expression) (h' : StandsAt line later other)
    (hlater : position < later) : position + expression.text.length ≤ later := by
  by_contra hwithin
  obtain ⟨after, hafter⟩ := h.here
  obtain ⟨after', hafter'⟩ := h'.here
  obtain ⟨distance, rfl⟩ := Nat.exists_eq_add_of_lt hlater
  have hfirst : (line.drop (position + distance + 1))[0]? = some '\x7b' := by
    rw [← hafter', toList_text]
    rfl
  have hinner : (expression.inside ++ ['\x7d'])[distance]? = some '\x7b' := by
    have hdrop : (line.drop position)[distance + 1]? = some '\x7b' := by
      rw [List.getElem?_drop] at hfirst ⊢
      exact hfirst
    have hshort : distance + 1 < expression.text.toList.length := by
      rw [String.length_toList]
      omega
    rw [← hafter, List.getElem?_append_left hshort, toList_text] at hdrop
    exact hdrop
  exact h.formed.not_mem_tail (List.mem_of_getElem? hinner)

/-- Expressions of a line that begins with one are that one and those behind it. -/
theorem standsAt_of_formed (h : expression.Formed) :
    StandsAt (expression.text.toList ++ after) position other ↔
      (position = 0 ∧ other = expression) ∨
        ∃ offset, position = expression.text.length + offset ∧ StandsAt after offset other := by
  have hfirst := StandsAt.of_append h after
  constructor
  · intro hstands
    rcases Nat.eq_zero_or_pos position with rfl | hpos
    · exact .inl ⟨rfl, hstands.eq hfirst⟩
    · have hle := hfirst.apart hstands hpos
      obtain ⟨offset, rfl⟩ := Nat.exists_eq_add_of_le (Nat.zero_add _ ▸ hle)
      rw [← String.length_toList, standsAt_append] at hstands
      exact .inr ⟨offset, rfl, hstands⟩
  · rintro (⟨rfl, rfl⟩ | ⟨offset, rfl, hstands⟩)
    · exact hfirst
    · rw [← String.length_toList]
      exact standsAt_append.2 hstands

/-- No expression stands where none is opened. -/
theorem standsAt_cons {c : Char} (h : c = '\x7b' → opened? text = none) :
    StandsAt (c :: text) position expression ↔
      ∃ offset, position = offset + 1 ∧ StandsAt text offset expression := by
  constructor
  · intro hstands
    cases position with
    | zero =>
      exfalso
      obtain ⟨after, hafter⟩ := hstands.here
      have hchars : '\x7b' :: (expression.inside ++ '\x7d' :: after) = c :: text := by
        rw [← List.drop_zero (l := c :: text), ← hafter, toList_text]
        simp
      rw [List.cons.injEq] at hchars
      have hopened : opened? text = some (expression, after) := by
        refine opened?_eq_some.2 ⟨hstands.formed, ?_⟩
        rw [← hchars.2, toList_text]
        simp
      rw [h hchars.1.symm] at hopened
      cases hopened
    | succ offset => exact ⟨offset, rfl, hstands.formed, hstands.here⟩
  · rintro ⟨offset, rfl, hformed, hhere⟩
    exact ⟨hformed, hhere⟩

/-- The induction is on how the line is cut. -/
theorem mem_expressionsFrom {start : Nat} :
    (position, expression) ∈ Segment.expressionsFrom start (segments line) ↔
      ∃ offset, position = start + offset ∧ StandsAt line offset expression := by
  fun_induction segments line generalizing start position with
  | case1 =>
    constructor
    · intro h
      cases h
    · rintro ⟨offset, -, hstands⟩
      have hempty := hstands.here
      rw [List.drop_nil, List.prefix_nil, toList_text] at hempty
      cases hempty
  | case2 rest first after h ih =>
    obtain ⟨hformed, hline⟩ := opened?_eq_some.1 h
    rw [Segment.expressionsFrom, List.mem_cons, ih, hline]
    simp only [standsAt_of_formed hformed, Prod.mk.injEq]
    constructor
    · rintro (⟨rfl, rfl⟩ | ⟨offset, rfl, hstands⟩)
      · exact ⟨0, rfl, .inl ⟨rfl, rfl⟩⟩
      · exact ⟨_, Nat.add_assoc _ _ _, .inr ⟨offset, rfl, hstands⟩⟩
    · rintro ⟨offset, rfl, ⟨rfl, rfl⟩ | ⟨offset, rfl, hstands⟩⟩
      · exact .inl ⟨rfl, rfl⟩
      · exact .inr ⟨offset, (Nat.add_assoc _ _ _).symm, hstands⟩
  | case3 rest h ih =>
    rw [Segment.expressionsFrom, ih]
    simp only [standsAt_cons fun _ => h]
    constructor
    · rintro ⟨offset, rfl, hstands⟩
      exact ⟨offset + 1, by omega, offset, rfl, hstands⟩
    · rintro ⟨_, rfl, offset, rfl, hstands⟩
      exact ⟨offset, by omega, hstands⟩
  | case4 c rest hc ih =>
    rw [Segment.expressionsFrom, ih]
    simp only [standsAt_cons fun heq => absurd heq hc]
    constructor
    · rintro ⟨offset, rfl, hstands⟩
      exact ⟨offset + 1, by omega, offset, rfl, hstands⟩
    · rintro ⟨_, rfl, offset, rfl, hstands⟩
      exact ⟨offset, by omega, hstands⟩

theorem mem_scan {line : String} :
    (position, expression) ∈ scan line ↔ StandsAt line.toList position expression := by
  rw [scan, mem_expressionsFrom]
  simp

/-- Each expression ends before the next one begins. -/
theorem pairwise_expressionsFrom (start : Nat) (pieces : List Segment) :
    (Segment.expressionsFrom start pieces).Pairwise
        (fun first second => first.1 + first.2.text.length ≤ second.1) ∧
      ∀ found ∈ Segment.expressionsFrom start pieces, start ≤ found.1 := by
  induction pieces generalizing start with
  | nil => exact ⟨.nil, nofun⟩
  | cons piece pieces ih =>
    cases piece with
    | plain c =>
      obtain ⟨hpairwise, hle⟩ := ih (start + 1)
      exact ⟨hpairwise, fun found hfound => Nat.le_of_succ_le (hle found hfound)⟩
    | expression value =>
      obtain ⟨hpairwise, hle⟩ := ih (start + value.text.length)
      refine ⟨List.pairwise_cons.2 ⟨hle, hpairwise⟩, ?_⟩
      refine List.forall_mem_cons.2 ⟨Nat.le_refl _, fun found hfound => ?_⟩
      have hfound := hle found hfound
      omega

/-- A line that is divided where no expression stands is cut as its two parts are. -/
theorem segments_append {front back : List Char}
    (h : ∀ position expression, StandsAt (front ++ back) position expression →
      position < front.length → position + expression.text.length ≤ front.length) :
    segments (front ++ back) = segments front ++ segments back := by
  fun_induction segments front with
  | case1 => rfl
  | case2 rest first after hopened ih =>
    obtain ⟨hformed, hfront⟩ := opened?_eq_some.1 hopened
    rw [hfront, List.append_assoc] at h ⊢
    rw [segments_of_formed hformed, List.cons_append, ih]
    intro position expression hstands hlt
    have hle := h _ _ (standsAt_append.2 hstands)
    rw [List.length_append, String.length_toList] at hle
    have hle := hle (by omega)
    omega
  | case3 rest hnone ih =>
    have hstill : opened? (rest ++ back) = none := by
      rw [Option.eq_none_iff_forall_ne_some]
      rintro ⟨expression, after⟩ hopened
      obtain ⟨hformed, hline⟩ := opened?_eq_some.1 hopened
      have hle := h 0 expression ⟨hformed, ⟨after, hline.symm⟩⟩ (by simp)
      have hwhole : expression.text.toList <+: '\x7b' :: rest := by
        refine List.prefix_of_prefix_length_le ⟨after, hline.symm⟩
          (List.prefix_append ('\x7b' :: rest) back) ?_
        rw [String.length_toList]
        simpa using hle
      obtain ⟨after', hafter⟩ := hwhole
      rw [opened?_eq_some.2 ⟨hformed, hafter.symm⟩] at hnone
      cases hnone
    rw [List.cons_append, segments_cons fun _ => hstill, ih, List.cons_append]
    intro position expression hstands hlt
    have hle := h (position + 1) expression ⟨hstands.formed, hstands.here⟩ (by simpa using hlt)
    simp only [List.length_cons] at hle
    omega
  | case4 c rest hc ih =>
    rw [List.cons_append, segments_cons fun heq => absurd heq hc, ih, List.cons_append]
    intro position expression hstands hlt
    have hle := h (position + 1) expression ⟨hstands.formed, hstands.here⟩ (by simpa using hlt)
    simp only [List.length_cons] at hle
    omega

end Expression

end ModPack
