import ModPack.Proofs.NumberingLoops
import ModPack.Proofs.LoadedExports
import ModPack.Proofs.TextPieces

/-!
# The lines of the tables

Rows of well-named exports are single lines, so the lines of a table are its rows between the fixed
lines around them, and what a row says can be read back. Main statements: `splitAt_spriteTable`,
`splitAt_actorTable` and `spriteRow_reads`.
-/
namespace ModPack

/-- A text without line ends. -/
def OneLine (text : String) : Prop :=
  '\n' ∉ text.toList

/-- A literal is one line when its characters say so; its bytes need not be looked at. -/
theorem oneLine_ofList {chars : List Char} (h : '\n' ∉ chars) : OneLine (String.ofList chars) := by
  rw [OneLine, String.toList_ofList]
  exact h

theorem OneLine.append {first second : String} (h : OneLine first) (h' : OneLine second) :
    OneLine (first ++ second) := by
  rw [OneLine, String.toList_append, List.mem_append, not_or]
  exact ⟨h, h'⟩

theorem oneLine_of_isUpperDigit {text : String}
    (h : ∀ c ∈ text.toList, Hex.isUpperDigit c = true) : OneLine text := by
  intro hmem
  exact absurd (h '\n' hmem) (by decide)

theorem Hex.oneLine_padded (width index : Nat) : OneLine (Hex.padded width index) :=
  oneLine_of_isUpperDigit fun _ => Hex.isUpperDigit_of_mem_padded

theorem Hex.oneLine_text (index : Nat) : OneLine (Hex.text index) :=
  oneLine_of_isUpperDigit fun c hc => by
    rw [Hex.text, String.toList_ofList] at hc
    exact Hex.isUpperDigit_of_mem_digits hc

theorem Name.oneLine_of_fault? {name : String} (h : Name.fault? name = none) : OneLine name :=
  Name.not_mem_of_fault? h (by decide)

theorem WellNamed.oneLine_label {α : Type} [Export α] {id : Identifier} {item : α}
    (h : WellNamed id item) : OneLine id.label := by
  have hpackage := Name.oneLine_of_fault? (Name.fault?_of_packageFault? h.package)
  have hunderscore : OneLine "_" := oneLine_ofList (by decide)
  exact (hpackage.append hunderscore).append (Name.oneLine_of_fault? h.name)

theorem forall_mem_of_forall₂ {α β : Type} {R : α → β → Prop} {p : β → Prop} {items : List α}
    {rows : List β} (h : List.Forall₂ R items rows) (hp : ∀ item row, R item row → p row) :
    ∀ row ∈ rows, p row := by
  induction h with
  | nil =>
    intro row hmem
    cases hmem
  | cons hfirst _ ih => exact List.forall_mem_cons.2 ⟨hp _ _ hfirst, ih⟩

/-- A row of a table stands behind the lines before the rows. -/
theorem getElem?_row (before : List String) {rows after : List String} {place : Nat} {row : String}
    (h : rows[place]? = some row) :
    (before ++ rows ++ after)[before.length + place]? = some row := by
  have hlt : place < rows.length := (List.getElem?_eq_some_iff.1 h).1
  rw [List.append_assoc, List.getElem?_append_right (Nat.le_add_right _ _), Nat.add_sub_cancel_left,
    List.getElem?_append_left hlt, h]

namespace Assembly

/-- A row of the table of sprites: it gives the index twice, and the label of the sprite. -/
def SpriteRow (index : Nat) (id : Identifier) (row : String) : Prop :=
  ∃ number source, row = "        <Sprite id=\"" ++ number ++ "\" src=\"" ++ source ++
      "\" name=\"" ++ id.label ++ "\"/>" ∧
    Hex.value? number.toList = some index ∧ Hex.value? source.toList = some index

theorem spriteRow_reads (index : Nat) (id : Identifier) : SpriteRow index id (spriteRow index id) :=
  ⟨Hex.text index, Hex.padded 2 index, rfl, Hex.value?_text index, Hex.value?_padded 2 index⟩

theorem oneLine_spriteRow {index : Nat} {id : Identifier} (h : OneLine id.label) :
    OneLine (spriteRow index id) := by
  have hopen : OneLine "        <Sprite id=\"" := oneLine_ofList (by decide)
  have hsource : OneLine "\" src=\"" := oneLine_ofList (by decide)
  have hname : OneLine "\" name=\"" := oneLine_ofList (by decide)
  have hclose : OneLine "\"/>" := oneLine_ofList (by decide)
  exact (((((hopen.append (Hex.oneLine_text index)).append hsource).append
    (Hex.oneLine_padded 2 index)).append hname).append h).append hclose

theorem oneLine_actorRow {index : Nat} {name tattle : String} (hname : OneLine name)
    (htattle : OneLine tattle) : OneLine (actorRow index name tattle) := by
  have hopen : OneLine "   <Actor id=\"" := oneLine_ofList (by decide)
  have hmiddle : OneLine "\" name=\"" := oneLine_ofList (by decide)
  have hlast : OneLine "\" tattle=\"" := oneLine_ofList (by decide)
  have hclose : OneLine "\"/>" := oneLine_ofList (by decide)
  exact (((((hopen.append (Hex.oneLine_padded 2 index)).append hmiddle).append hname).append
    hlast).append htattle).append hclose

theorem splitAt_lines {lines : List String} (hne : lines ≠ []) (h : ∀ line ∈ lines, OneLine line) :
    Text.splitAt '\n' ("\n".intercalate lines) = lines :=
  Text.splitAt_intercalate hne h

theorem splitAt_spriteTable {rows : List String} (h : ∀ row ∈ rows, OneLine row) :
    Text.splitAt '\n' (spriteTable rows) =
      [markupDeclaration, "<SpriteTable>", "    <NpcSprites>"] ++ rows ++
        ["    </NpcSprites>"] ++ playerSprites ++ ["</SpriteTable>"] := by
  have hbefore : ∀ line ∈ [markupDeclaration, "<SpriteTable>", "    <NpcSprites>"],
      OneLine line := by
    simp only [List.forall_mem_cons, markupDeclaration]
    and_intros
    all_goals first | exact oneLine_ofList (by decide) | simp
  have hafter : ∀ line ∈ ["    </NpcSprites>"] ++ playerSprites ++ ["</SpriteTable>"],
      OneLine line := by
    simp only [playerSprites, List.cons_append, List.nil_append, List.forall_mem_cons]
    and_intros
    all_goals first | exact oneLine_ofList (by decide) | simp
  refine splitAt_lines (by simp) fun line hmem => ?_
  simp only [List.append_assoc] at hmem hafter
  rcases List.mem_append.1 hmem with hmem | hmem
  · exact hbefore line hmem
  rcases List.mem_append.1 hmem with hmem | hmem
  · exact h line hmem
  · exact hafter line hmem

theorem splitAt_actorTable {rows : List String} (h : ∀ row ∈ rows, OneLine row) :
    Text.splitAt '\n' (actorTable rows) =
      [markupDeclaration, "<ActorTypes>"] ++ rows ++ ["</ActorTypes>"] := by
  have hbefore : ∀ line ∈ [markupDeclaration, "<ActorTypes>"], OneLine line := by
    simp only [List.forall_mem_cons, markupDeclaration]
    and_intros
    all_goals first | exact oneLine_ofList (by decide) | simp
  have hafter : ∀ line ∈ ["</ActorTypes>"], OneLine line :=
    List.forall_mem_singleton.2 (oneLine_ofList (by decide))
  refine splitAt_lines (by simp) fun line hmem => ?_
  rcases List.mem_append.1 hmem with hmem | hmem
  · rcases List.mem_append.1 hmem with hmem | hmem
    · exact hbefore line hmem
    · exact h line hmem
  · exact hafter line hmem

end Assembly

end ModPack
