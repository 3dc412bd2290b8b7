import ModPack.Proofs.HexText
import ModPack.Proofs.SheetSlots

/-!
# Slots by name

A slot of a sheet goes by the name that its element has or, when that has none or an empty one, by
its number in hexadecimal digits. Names of their own may repeat each other and look like numbers, so
a name can belong to several slots, and the first of them is found under it. Numbers written out
differ, so a slot without a name is found under its number unless a slot in front of it has just
those digits as its name. Main statements: `getElem?_slotNames`, `listing_slotNames` and
`slots_found`.
-/
namespace ModPack

namespace Sprite

open Markup (Element)

variable {list : Element} {names : List String} {slot other : Nat} {name : String} {disk : Disk}
  {dir : Path}

/-! ## The names of slots -/

/-- The slot has a name of its own. -/
def Named (list : Element) (slot : Nat) (name : String) : Prop :=
  ∃ child, list.children[slot]? = some child ∧ child.attributeNamed? "name" = some name ∧ name ≠ ""

/-- The slot is there and has no name, or an empty one. -/
def Unnamed (list : Element) (slot : Nat) : Prop :=
  ∃ child, list.children[slot]? = some child ∧ ∀ own ∈ child.attributeNamed? "name", own = ""

/-- The slot goes by the name: its own or, without one, its number in upper-case hexadecimal. -/
inductive GoesBy (list : Element) (slot : Nat) (name : String) : Prop
  | own (named : Named list slot name)
  | number (unnamed : Unnamed list slot) (numeral : Hex.Numeral slot name.toList)

theorem Named.not_unnamed (h : Named list slot name) : ¬ Unnamed list slot := by
  rintro ⟨child, hchild, hempty⟩
  obtain ⟨_, hchild', hown, hne⟩ := h
  cases hchild.symm.trans hchild'
  exact hne (hempty name hown)

theorem slotName_of_ne_empty (hne : name ≠ "") (number : Nat) :
    slotName (some name) number = name := by
  unfold slotName
  split
  · next h => cases h
  · next h => exact absurd (Option.some.inj h) hne
  · next h => exact (Option.some.inj h).symm

theorem slotName_of_empty {own : Option String} (h : ∀ text ∈ own, text = "") (number : Nat) :
    slotName own number = Hex.text number := by
  cases own with
  | none => rfl
  | some text => rw [h text rfl, slotName]

theorem goesBy_iff : GoesBy list slot name ↔
    ∃ child, list.children[slot]? = some child ∧
      slotName (child.attributeNamed? "name") slot = name := by
  constructor
  · rintro (⟨child, hchild, hown, hne⟩ | ⟨⟨child, hchild, hempty⟩, hnumeral⟩)
    · refine ⟨child, hchild, ?_⟩
      rw [hown, slotName_of_ne_empty hne]
    · refine ⟨child, hchild, ?_⟩
      rw [slotName_of_empty hempty, Hex.numeral_iff.1 hnumeral]
  · rintro ⟨child, hchild, hname⟩
    by_cases hempty : ∀ own ∈ child.attributeNamed? "name", own = ""
    · rw [slotName_of_empty hempty] at hname
      exact .number ⟨child, hchild, hempty⟩ (Hex.numeral_iff.2 hname.symm)
    · push Not at hempty
      obtain ⟨own, hown, hne⟩ := hempty
      rw [hown, slotName_of_ne_empty hne] at hname
      subst hname
      exact .own ⟨child, hchild, hown, hne⟩

/-- The names of the slots stand in the order of the elements. -/
theorem getElem?_slotNames : (slotNames list)[slot]? = some name ↔ GoesBy list slot name := by
  rw [goesBy_iff, slotNames, List.getElem?_mapIdx, Option.map_eq_some_iff]

/-! ## Finding a slot -/

/-- The slot found under a name is the first one that has it. -/
theorem slot?_eq_some : slot? names name = some slot ↔
    names[slot]? = some name ∧ ∀ earlier < slot, names[earlier]? ≠ some name := by
  constructor
  · intro h
    obtain ⟨hlt, _, hfirst⟩ := List.findIdx?_eq_some_iff_getElem.1 h
    refine ⟨getElem?_of_slot? h, fun earlier hearlier hname => ?_⟩
    obtain ⟨_, hname⟩ := List.getElem?_eq_some_iff.1 hname
    exact hfirst earlier hearlier (decide_eq_true hname)
  · rintro ⟨hname, hfirst⟩
    obtain ⟨hlt, hname⟩ := List.getElem?_eq_some_iff.1 hname
    refine List.findIdx?_eq_some_iff_getElem.2 ⟨hlt, decide_eq_true hname, ?_⟩
    intro earlier hearlier h
    apply hfirst earlier hearlier
    rw [List.getElem?_eq_getElem (by omega), of_decide_eq_true h]

theorem slot?_eq_none : slot? names name = none ↔ ∀ slot : Nat, names[slot]? ≠ some name := by
  simp only [slot?, List.findIdx?_eq_none_iff, decide_eq_false_iff_not, List.mem_iff_getElem?]
  constructor
  · intro h slot hname
    exact h name ⟨slot, hname⟩ rfl
  · rintro h _ ⟨slot, hname⟩ rfl
    exact h slot hname

/-- The names of a list and the slots found under names. -/
structure Listing (list : Element) (names : List String) (find : String → Option Nat) :
    Prop where
  length_eq : names.length = list.children.length
  name_at : ∀ (slot : Nat) name, names[slot]? = some name ↔ GoesBy list slot name
  found : ∀ name slot, find name = some slot ↔
    GoesBy list slot name ∧ ∀ earlier < slot, ¬ GoesBy list earlier name
  missing : ∀ name, find name = none ↔ ∀ slot, ¬ GoesBy list slot name
  numbered : ∀ slot name, Unnamed list slot → Hex.Numeral slot name.toList →
    (find name = some slot ↔ ∀ earlier < slot, ¬ Named list earlier name)
  apart : ∀ slot other name, Unnamed list slot → Unnamed list other → GoesBy list slot name →
    GoesBy list other name → slot = other

/-- A slot without a name goes by its number only. -/
theorem GoesBy.numeral (h : GoesBy list slot name) (hunnamed : Unnamed list slot) :
    Hex.Numeral slot name.toList := by
  cases h with
  | own named => exact absurd hunnamed named.not_unnamed
  | number _ numeral => exact numeral

theorem listing_slotNames (list : Element) :
    Listing list (slotNames list) (slot? (slotNames list)) where
  length_eq := List.length_mapIdx
  name_at _ _ := getElem?_slotNames
  found name slot := by
    rw [slot?_eq_some, getElem?_slotNames]
    exact and_congr_right fun _ => forall₂_congr fun _ _ => not_congr getElem?_slotNames
  missing name := by
    rw [slot?_eq_none]
    exact forall_congr' fun _ => not_congr getElem?_slotNames
  numbered slot name hunnamed hnumeral := by
    rw [slot?_eq_some, getElem?_slotNames, and_iff_right (.number hunnamed hnumeral)]
    refine forall₂_congr fun earlier hearlier => not_congr ?_
    rw [getElem?_slotNames]
    constructor
    · intro h
      cases h with
      | own named => exact named
      | number _ numeral =>
        -- Two numbers with the same numeral would be equal.
        have hsame : some slot = some earlier := hnumeral.value.symm.trans numeral.value
        have hslot := Option.some.inj hsame
        omega
    · exact .own
  apart slot other name hunnamed hother h h' := by
    have hvalue := (h.numeral hunnamed).value
    rw [(h'.numeral hother).value] at hvalue
    exact (Option.some.inj hvalue).symm

/-! ## The slots of a loaded sprite -/

/-- The directory is that of a sprite, and these are the lists of its sheet. -/
structure HasLists (disk : Disk) (dir : Path) (palettes animations : Element) : Prop where
  name : (Name.checkExport dir.name).result = .ok ()
  lists : ∃ content sheet, disk.readFile (dir / LoadError.sheetName) = .ok content ∧
    Markup.read content = .ok sheet ∧ sheet.first? ⟨none, "PaletteList"⟩ = some palettes ∧
    sheet.first? ⟨none, "AnimationList"⟩ = some animations

/-- A sprite is loaded exactly from such a directory, and its slots are named by the lists. -/
theorem load_ok_iff_hasLists {sprite : Sprite} : (load disk dir).result = .ok sprite ↔
    ∃ palettes animations, HasLists disk dir palettes animations ∧
      { dir, palettes := slotNames palettes, animations := slotNames animations } = sprite := by
  rw [load_ok, ← Name.checkExport_ok]
  constructor
  · rintro ⟨hname, content, sheet, hread, hsheet, hof⟩
    obtain ⟨palettes, animations, hpalettes, hanimations, rfl⟩ := ofSheet_eq_ok.1 hof
    exact ⟨palettes, animations,
      ⟨hname, content, sheet, hread, hsheet, hpalettes, hanimations⟩, rfl⟩
  · rintro ⟨palettes, animations, ⟨hname, content, sheet, hread, hsheet, hlists⟩, hsprite⟩
    exact ⟨hname, content, sheet, hread, hsheet,
      ofSheet_eq_ok.2 ⟨palettes, animations, hlists.1, hlists.2, hsprite⟩⟩

/-- A sprite is loaded if and only if its sheet has both lists. Then it has one name for each
element of a list, in their order: the element's own or, without one, the number of the slot in
upper-case hexadecimal. Under a name the first slot that goes by it is found, or none if there is
none; so a slot without a name is found under its number unless a slot in front of it has that for
its own name, and no two slots without a name go by the same. -/
theorem slots_found (disk : Disk) (dir : Path) :
    ((∃ sprite, (load disk dir).result = .ok sprite) ↔
      ∃ palettes animations, HasLists disk dir palettes animations) ∧
    ∀ palettes animations, HasLists disk dir palettes animations →
      ∃ sprite, (load disk dir).result = .ok sprite ∧
        Listing palettes sprite.palettes sprite.palette? ∧
        Listing animations sprite.animations sprite.animation? := by
  have hloads (palettes animations : Element) (h : HasLists disk dir palettes animations) :=
    load_ok_iff_hasLists.2 ⟨palettes, animations, h, rfl⟩
  refine ⟨⟨?_, ?_⟩, fun palettes animations h => ⟨_, hloads palettes animations h, ?_, ?_⟩⟩
  · rintro ⟨sprite, hload⟩
    obtain ⟨palettes, animations, h, _⟩ := load_ok_iff_hasLists.1 hload
    exact ⟨palettes, animations, h⟩
  · rintro ⟨palettes, animations, h⟩
    exact ⟨_, hloads palettes animations h⟩
  · exact listing_slotNames palettes
  · exact listing_slotNames animations

end Sprite

namespace Sample

open Markup (Element OpenElement Scope Token)

/-- An animation with a name, which may be empty. -/
def animation (name : String) : Element :=
  ⟨⟨none, "A"⟩, [(⟨none, "name"⟩, name)], []⟩

/-- The first animation has the number of the second one for its name. -/
def lookalikes : Element :=
  ⟨⟨none, "AnimationList"⟩, [], [animation "1", unnamed, animation ""]⟩

def noPalettes : Element :=
  ⟨⟨none, "PaletteList"⟩, [], []⟩

def lookalikeSheet : Element :=
  ⟨⟨none, "S"⟩, [], [noPalettes, lookalikes]⟩

def lookalikeText : String :=
  "<S><PaletteList/><AnimationList><A name=\"1\"/><A/><A name=\"\"/></AnimationList></S>"

def animationTag (name : String) : Token :=
  .start ⟨none, "A"⟩ [(⟨none, "name"⟩, name.toList)] true

def lookalikeTokens : List Token :=
  [tag "S" false, tag "PaletteList" true, tag "AnimationList" false, animationTag "1",
    tag "A" true, animationTag "", .stop ⟨none, "AnimationList"⟩, .stop ⟨none, "S"⟩]

def bobPath : Path :=
  ⟨.root, ["bob"]⟩

def bobDisk : Disk where
  tree := ⟨[(["bob"], .directory),
    (["SpriteSheet.xml", "bob"], .file (Utf8.encode lookalikeText))]⟩

/-- The tag of an animation gives it the name that its value is read as. -/
theorem ofStart?_animation {name : String}
    (hvalue : OpenElement.valueOf? {} ⟨none, "A"⟩ ⟨none, "name"⟩ name.toList = some name) :
    OpenElement.ofStart? {} Scope.outermost ⟨none, "A"⟩ [(⟨none, "name"⟩, name.toList)] =
      some ⟨⟨none, "A"⟩, ⟨none, "A"⟩, [(⟨none, "name"⟩, name)], Scope.outermost, []⟩ := by
  simp [OpenElement.ofStart?, hvalue]
  rfl

theorem root_lookalikes : Element.root? {} lookalikeTokens = some lookalikeSheet := by
  have hone := @ofStart?_animation "1"
    (by simp [OpenElement.valueOf?, Markup.Doctype.valueOf?, Markup.Doctype.attributeText,
      Markup.isSpace])
  have hempty := @ofStart?_animation ""
    (by simp [OpenElement.valueOf?, Markup.Doctype.valueOf?, Markup.Doctype.attributeText])
  have hforest : Element.forest? {} false [] .outermost [] [] lookalikeTokens =
      some [lookalikeSheet] := by
    simp only [lookalikeTokens, tag, animationTag, Element.forest?, List.head?_nil,
      Option.map_none, Option.getD_none, ofStart?_plain, Bool.false_eq_true, if_false,
      List.head?_cons, Option.map_some, Option.getD_some, if_true, OpenElement.close,
      Element.add, List.reverse_nil, hone, hempty]
    rfl
  exact Markup.root?_of_forest hforest

theorem read_lookalikes : Markup.read (Utf8.encode lookalikeText) = .ok lookalikeSheet := by
  have hscan : Token.scan lookalikeText.toList = some lookalikeTokens := by decide +kernel
  exact Markup.read_of_scan (ok_of_toOption (by decide +kernel)) (by decide +kernel)
    (by decide +kernel) hscan root_lookalikes

theorem hasLists_bob : Sprite.HasLists bobDisk bobPath noPalettes lookalikes where
  name := by rfl
  lists := ⟨_, lookalikeSheet, by rfl, read_lookalikes, by rfl, by rfl⟩

end Sample

open Sample (bobDisk bobPath noPalettes lookalikes)

/-- Slot 1 has no name, and the number 1 leads to the slot in front of it; slot 2 has an empty one,
and is found under its number. -/
theorem Sprite.slots_found_bob : HasLists bobDisk bobPath noPalettes lookalikes ∧
    ∃ sprite, (load bobDisk bobPath).result = .ok sprite ∧ sprite.animations.length = 3 ∧
      Unnamed lookalikes 1 ∧ Named lookalikes 0 "1" ∧ sprite.animation? "1" = some 0 ∧
      Unnamed lookalikes 2 ∧ sprite.animation? "2" = some 2 := by
  obtain ⟨sprite, hload, -, hlisting⟩ :=
    (slots_found bobDisk bobPath).2 noPalettes lookalikes Sample.hasLists_bob
  have hfirst : Named lookalikes 0 "1" := ⟨_, rfl, rfl, by decide⟩
  have hsecond : Unnamed lookalikes 1 :=
    ⟨_, rfl, by simp [Sample.unnamed, Markup.Element.attributeNamed?]⟩
  have hthird : Unnamed lookalikes 2 :=
    ⟨_, rfl, by simp [Sample.animation, Markup.Element.attributeNamed?]⟩
  have hnone : ∀ earlier < 2, ¬ Named lookalikes earlier "2" := by
    rintro earlier hearlier ⟨child, hchild, hname, -⟩
    interval_cases earlier <;> cases hchild <;> exact absurd hname (by decide)
  refine ⟨Sample.hasLists_bob, sprite, hload, hlisting.length_eq, hsecond, hfirst, ?_, hthird, ?_⟩
  · exact (hlisting.found "1" 0).2 ⟨.own hfirst, fun earlier h => absurd h (by omega)⟩
  · exact (hlisting.numbered 2 "2" hthird (Hex.numeral_iff.2 (by decide))).2 hnone

end ModPack
